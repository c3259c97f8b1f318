import FormRules.Yaml.Token

/-! The tokens of a text. Indentation opens and closes block collections. A colon turns what stands
before it on its line into a key, so a token that may turn out to be one is remembered. -/

namespace FormRules.Yaml

structure PossibleKey where
  place : Nat
  required : Bool
  index : Nat
  mark : Mark

structure Layout where
  cursor : Cursor
  /-- the latest first -/
  tokens : List Placed
  indent : Int
  outerIndents : List Int
  keysAllowed : Bool
  key : Option PossibleKey
  /-- one for each bracket that is open, and for the block around them -/
  outerKeys : List (Option PossibleKey)

namespace Layout

def start (s : List Char) : Layout := ⟨.start s, [], -1, [], true, none, []⟩

def inFlow (s : Layout) : Bool := !s.outerKeys.isEmpty

def column (s : Layout) : Int := s.cursor.column

def emitFrom (mark : Mark) (t : Token) (s : Layout) : Layout :=
  { s with tokens := ⟨t, mark⟩ :: s.tokens }

def emit (t : Token) (s : Layout) : Layout := s.emitFrom s.cursor.mark t

def emitAt (place : Nat) (mark : Mark) (t : Token) (s : Layout) : Layout :=
  let later := s.tokens.length - place
  { s with tokens := s.tokens.take later ++ ⟨t, mark⟩ :: s.tokens.drop later }

def advance (n : Nat) (s : Layout) : Layout := { s with cursor := s.cursor.skip n }

def allowKeys (b : Bool) (s : Layout) : Layout := { s with keysAllowed := b }

/-! ## Possible keys -/

def mayDrop (k : Cursor) (key : PossibleKey) : Except Fault Unit :=
  if key.required then
    k.complain "while scanning a simple key" key.mark "could not find expected ':'"
  else .ok ()

def dropKey (s : Layout) : Except Fault Layout := do
  s.key.forM (mayDrop s.cursor)
  .ok { s with key := none }

/-- A key stands on one line, and its colon no more than 1024 characters further. -/
def isStale (k : Cursor) (key : PossibleKey) : Bool :=
  key.mark.line != k.line || key.index + 1024 < k.index

def dropStaleKeys (s : Layout) : Except Fault Layout := do
  let fresh (key : Option PossibleKey) : Except Fault (Option PossibleKey) := do
    match key with
    | none => .ok none
    | some p =>
      if isStale s.cursor p then
        mayDrop s.cursor p
        .ok none
      else .ok (some p)
  .ok { s with key := ← fresh s.key, outerKeys := ← s.outerKeys.mapM fresh }

def saveKey (s : Layout) : Except Fault Layout :=
  if !s.keysAllowed then .ok s
  else do
    let s ← s.dropKey
    let k := s.cursor
    .ok { s with key := some ⟨s.tokens.length, !s.inFlow && s.indent == s.column, k.index, k.mark⟩ }

def settled (s : Layout) : Nat :=
  ((s.key :: s.outerKeys).filterMap (·.map (·.place))).foldl min s.tokens.length

/-! ## Indentation -/

def closeDeeper (column : Int) (s : Layout) : List Int → Layout
  | [] => s
  | outer :: more =>
    if s.indent ≤ column then s
    else closeDeeper column { s.emit .blockEnd with indent := outer, outerIndents := more } more

def unindent (column : Int) (s : Layout) : Layout :=
  if s.inFlow then s else closeDeeper column s s.outerIndents

/-- Opens a block collection at the column of a mark, with its token behind the first `place` ones,
unless there is one already. -/
def indentTo (mark : Mark) (place : Nat) (t : Token) (s : Layout) : Layout :=
  if s.indent < mark.column then
    { s.emitAt place mark t with indent := mark.column, outerIndents := s.indent :: s.outerIndents }
  else s

/-! ## Tokens -/

def skipBlanksFrom : Nat → Layout → Layout
  | 0, s => s
  | fuel + 1, s =>
    let k := (s.cursor.skipWhile (· = ' ')).skipComment
    match k.lineBreak? with
    | some (_, k) =>
      skipBlanksFrom fuel { s with cursor := k, keysAllowed := s.keysAllowed || !s.inFlow }
    | none => { s with cursor := k }

def skipBlanks (s : Layout) : Layout :=
  let s := if s.cursor.index = 0 ∧ s.cursor.isAt '\uFEFF' then s.advance 1 else s
  skipBlanksFrom s.cursor.fuel s

def marker (t : Token) (s : Layout) : Except Fault Layout := do
  let s ← (s.unindent (-1)).dropKey
  .ok ((s.allowKeys false).emit t |>.advance 3)

def directive (s : Layout) : Except Fault Layout := do
  let s ← (s.unindent (-1)).dropKey
  let (t, k) ← directiveToken s.cursor
  .ok { (s.allowKeys false).emit t with cursor := k }

def openFlow (t : Token) (s : Layout) : Except Fault Layout := do
  let s ← s.saveKey
  .ok { (s.emit t).advance 1 with
    keysAllowed := true, key := none, outerKeys := s.key :: s.outerKeys }

def closeFlow (t : Token) (s : Layout) : Except Fault Layout := do
  let s ← s.dropKey
  let s := (s.emit t).advance 1
  match s.outerKeys with
  | [] => .ok { s with cursor := { s.cursor with rest := [] } }
  | key :: more => .ok { s with keysAllowed := false, key := key, outerKeys := more }

def flowEntry (s : Layout) : Except Fault Layout := do
  let s ← s.dropKey
  .ok ((s.allowKeys true).emit .flowEntry |>.advance 1)

def openBlock (t : Token) (entries : String) (s : Layout) : Except Fault Layout :=
  if s.inFlow then .ok s
  else if !s.keysAllowed then s.cursor.misplaced (entries ++ " are not allowed here")
  else .ok (s.indentTo s.cursor.mark s.tokens.length t)

def blockEntry (s : Layout) : Except Fault Layout := do
  let s ← s.openBlock .blockSequenceStart "sequence entries"
  let s ← s.dropKey
  .ok ((s.allowKeys true).emit .blockEntry |>.advance 1)

def explicitKey (s : Layout) : Except Fault Layout := do
  let s ← s.openBlock .blockMappingStart "mapping keys"
  let s ← s.dropKey
  .ok ((s.allowKeys !s.inFlow).emit .key |>.advance 1)

def value (s : Layout) : Except Fault Layout := do
  let s ← match s.key with
    | some key =>
      let s := { s with key := none }.emitAt key.place key.mark .key
      let s := if s.inFlow then s else s.indentTo key.mark key.place .blockMappingStart
      .ok (s.allowKeys false)
    | none => do
      let s ← s.openBlock .blockMappingStart "mapping values"
      (s.allowKeys !s.inFlow).dropKey
  .ok (s.emit .value |>.advance 1)

def keyable (read : Cursor → Except Fault (Token × Cursor)) (s : Layout) : Except Fault Layout := do
  let s ← s.saveKey
  let (t, k) ← read s.cursor
  .ok { (s.allowKeys false).emit t with cursor := k }

def quoted (double : Bool) (s : Layout) : Except Fault Layout :=
  s.keyable fun k => (quotedScalar double k).map fun (text, k) => (.scalar text false, k)

def plain (s : Layout) : Except Fault Layout := do
  let s ← s.saveKey
  let (text, broken, k) := plainScalar s.inFlow (s.indent + 1) s.cursor
  .ok { (s.allowKeys broken).emit (.scalar text true) with cursor := k }

def block (folded : Bool) (s : Layout) : Except Fault Layout := do
  let s ← s.dropKey
  let (text, k) ← blockScalar folded s.indent s.cursor
  .ok { (s.allowKeys true).emit (.scalar text false) with cursor := k }

/-- A plain scalar begins with a character that is no sign, or with a sign that has another
character right behind it. -/
def startsPlain (s : Layout) (c : Char) : Bool :=
  !(endsWord (some c) || "-?:,[]\x7b\x7d#&*!|>'\"%@\x60".toList.contains c) ||
    (!endsWord (s.cursor.peekAt 1) && (c == '-' || (!s.inFlow && (c == '?' || c == ':'))))

def token (c : Char) (s : Layout) : Except Fault Layout :=
  let k := s.cursor
  let ends := endsWord (k.peekAt 1)
  if c = '%' ∧ k.column = 0 then s.directive
  else if c = '-' ∧ k.column = 0 ∧ k.isMarker then s.marker .documentStart
  else if c = '.' ∧ k.column = 0 ∧ k.isMarker then s.marker .documentEnd
  else if c = '[' then s.openFlow .flowSequenceStart
  else if c = '\x7b' then s.openFlow .flowMappingStart
  else if c = ']' then s.closeFlow .flowSequenceEnd
  else if c = '\x7d' then s.closeFlow .flowMappingEnd
  else if c = ',' then s.flowEntry
  else if c = '-' ∧ ends then s.blockEntry
  else if c = '?' ∧ (s.inFlow ∨ ends) then s.explicitKey
  else if c = ':' ∧ (s.inFlow ∨ ends) then s.value
  else if c = '*' then
    s.keyable fun k => (anchorName "alias" k).map fun (name, k) => (.alias name, k)
  else if c = '&' then
    s.keyable fun k => (anchorName "anchor" k).map fun (name, k) => (.anchor name, k)
  else if c = '!' then s.keyable tagToken
  else if c = '|' ∧ !s.inFlow then s.block false
  else if c = '>' ∧ !s.inFlow then s.block true
  else if c = '\'' then s.quoted false
  else if c = '"' then s.quoted true
  else if s.startsPlain c then s.plain
  else
    .error (.malformed ⟨some "while scanning for the next token", none,
      "found character " ++ k.shown ++ " that cannot start any token", k.mark⟩)

def step (s : Layout) : Except Fault Layout := do
  let s ← s.skipBlanks.dropStaleKeys
  let s := s.unindent s.column
  match s.cursor.peek with
  | some c => s.token c
  | none => do
    let s ← (s.unindent (-1)).dropKey
    .ok (s.emit .streamEnd)

def cutShort (f : Fault) (s : Layout) : List Placed :=
  s.tokens.reverse.take s.settled ++ [⟨.fault f, s.cursor.mark⟩]

def run : Nat → Layout → List Placed
  | 0, s => s.tokens.reverse
  | fuel + 1, s =>
    match s.step with
    | .error f => s.cutShort f
    | .ok s =>
      match s.tokens.head?, s.dropStaleKeys with
      | some ⟨.streamEnd, _⟩, _ => s.tokens.reverse
      | _, .ok s => run fuel s
      | _, .error f => s.cutShort f

end Layout

def Placed.ofChars (s : List Char) : List Placed := (Layout.start s).run (s.length + 2)

end FormRules.Yaml
