import FormRules.Yaml.Cursor

namespace FormRules.Yaml

/-! ## Plain scalars -/

/-- A plain scalar ends before a blank, before a colon at the end of a word, and among the brackets
of a flow collection before their signs. -/
def endsPlain (flow : Bool) (c : Char) (following : Option Char) : Bool :=
  endsWord (some c) ||
    (c == ':' &&
      (endsWord following || (flow && following.any [',', '[', ']', '\x7b', '\x7d'].contains))) ||
    (flow && [',', '?', '[', ']', '\x7b', '\x7d'].contains c)

def plainRun (flow : Bool) : List Char → List Char
  | [] => []
  | c :: r => if endsPlain flow c r.head? then [] else c :: plainRun flow r

def plainBreaks : Nat → Cursor → List Char → Option (List Char) × Cursor
  | 0, k, breaks => (some breaks, k)
  | fuel + 1, k, breaks =>
    if k.isAt ' ' then plainBreaks fuel k.next breaks
    else match k.lineBreak? with
      | some (b, k) => if k.isMarker then (none, k) else plainBreaks fuel k (breaks ++ [b])
      | none => (some breaks, k)

def foldedBreaks (first : Char) (more : List Char) : List Char :=
  if first ≠ '\n' then first :: more
  else if more = [] then [' ']
  else more

def plainBlanks (k : Cursor) : List Char × Bool × Cursor :=
  let (spaces, k) := k.takeWhile (· = ' ')
  match k.lineBreak? with
  | none => (spaces, false, k)
  | some (b, k) =>
    if k.isMarker then ([], true, k)
    else match plainBreaks k.fuel k [] with
      | (none, k) => ([], true, k)
      | (some more, k) => (foldedBreaks b more, true, k)

def plainFrom (flow : Bool) (indent : Int) : Nat → (text blanks : List Char) → (broken : Bool) →
    Cursor → List Char × Bool × Cursor
  | 0, text, _, broken, k => (text, broken, k)
  | fuel + 1, text, blanks, broken, k =>
    let run := plainRun flow k.rest
    if k.isAt '#' ∨ run = [] then (text, broken, k)
    else
      let text := text ++ blanks ++ run
      let (blanks, broken, k) := plainBlanks (k.skip run.length)
      if blanks = [] ∨ k.isAt '#' ∨ (!flow ∧ (k.column : Int) < indent) then (text, broken, k)
      else plainFrom flow indent fuel text blanks broken k

def plainScalar (flow : Bool) (indent : Int) (k : Cursor) : List Char × Bool × Cursor :=
  plainFrom flow indent k.fuel [] [] false k

/-! ## Quoted scalars -/

def escaped? : Char → Option Char
  | '0' => some '\x00'
  | 'a' => some '\x07'
  | 'b' => some '\x08'
  | 't' => some '\t'
  | '\t' => some '\t'
  | 'n' => some '\n'
  | 'v' => some '\x0b'
  | 'f' => some '\x0c'
  | 'r' => some '\r'
  | 'e' => some '\x1b'
  | ' ' => some ' '
  | '"' => some '"'
  | '\\' => some '\\'
  | '/' => some '/'
  | 'N' => some '\x85'
  | '_' => some '\xa0'
  | 'L' => some '\u2028'
  | 'P' => some '\u2029'
  | _ => none

def codeLength? : Char → Option Nat
  | 'x' => some 2
  | 'u' => some 4
  | 'U' => some 8
  | _ => none

def hexDigit? (c : Char) : Option Nat :=
  if '0' ≤ c ∧ c ≤ '9' then some (c.toNat - 48)
  else if 'a' ≤ c ∧ c ≤ 'f' then some (c.toNat - 87)
  else if 'A' ≤ c ∧ c ≤ 'F' then some (c.toNat - 55)
  else none

def hexValue (count : Nat) (s : List Char) : Except Nat Nat :=
  let digits := s.take count
  let good := digits.takeWhile fun c => (hexDigit? c).isSome
  if good.length < count then .error good.length
  else .ok (good.foldl (fun n c => 16 * n + (hexDigit? c).getD 0) 0)

def charOfCode (n : Nat) : Except Fault Char :=
  if 0x7FFFFFFF < n then .error .tooLarge
  else if 0x10FFFF < n then .error .outOfRange
  else .ok (Char.ofNat n)

def secondHalf? (first : Nat) : List Char → Option Nat
  | '\\' :: 'u' :: s =>
    match hexValue 4 s with
    | .ok n =>
      if 0xD800 ≤ first ∧ first < 0xDC00 ∧ 0xDC00 ≤ n ∧ n < 0xE000 then some n else none
    | .error _ => none
  | _ => none

def codeOfPair (first second : Nat) : Nat :=
  0x10000 + 0x400 * (first - 0xD800) + (second - 0xDC00)

def complainDouble {α : Type} (start : Mark) (k : Cursor) (problem : String) : Except Fault α :=
  k.complain "while scanning a double-quoted scalar" start problem

def complainQuoted {α : Type} (start : Mark) (k : Cursor) (problem : String) : Except Fault α :=
  k.complain "while scanning a quoted scalar" start problem

def unclosed {α : Type} (start : Mark) (k : Cursor) : Except Fault α :=
  complainQuoted start k "found unexpected end of stream"

def quotedBreaks (start : Mark) : Nat → Cursor → List Char → Except Fault (List Char × Cursor)
  | 0, k, _ => unclosed start k
  | fuel + 1, k, breaks =>
    if k.isMarker then complainQuoted start k "found unexpected document separator"
    else
      let k := k.skipWhile fun c => c == ' ' || c == '\t'
      match k.lineBreak? with
      | some (b, k) => quotedBreaks start fuel k (breaks ++ [b])
      | none => .ok (breaks, k)

def escapeSequence (start : Mark) (k : Cursor) : Except Fault (List Char × Cursor) :=
  let unknown : Except Fault (List Char × Cursor) :=
    complainDouble start k ("found unknown escape character " ++ k.shown)
  match k.peek with
  | none => unknown
  | some c =>
    match escaped? c, codeLength? c with
    | some d, _ => .ok ([d], k.next)
    | none, some n =>
      match hexValue n k.next.rest with
      | .error i =>
        complainDouble start k.next ("expected escape sequence of " ++ Text.decimal n ++
          " hexadecimal numbers, but found " ++ k.next.shownAt i)
      | .ok code => do
        match secondHalf? code (k.next.rest.drop n) with
        | some second => .ok ([← charOfCode (codeOfPair code second)], k.next.skip (n + 6))
        | none => .ok ([← charOfCode code], k.next.skip n)
    | none, none =>
      match k.lineBreak? with
      | some (_, k) => quotedBreaks start k.fuel k []
      | none => unknown

def quotedBlanks (start : Mark) (k : Cursor) : Except Fault (List Char × Cursor) :=
  let (blanks, k) := k.takeWhile fun c => c == ' ' || c == '\t'
  match k.lineBreak? with
  | some (b, k) => do
    let (more, k) ← quotedBreaks start k.fuel k []
    .ok (foldedBreaks b more, k)
  | none => if k.rest = [] then unclosed start k else .ok (blanks, k)

def quotedFrom (start : Mark) (double : Bool) : Nat → List Char → Cursor →
    Except Fault (List Char × Cursor)
  | 0, _, k => unclosed start k
  | fuel + 1, text, k =>
    match k.peek with
    | none => unclosed start k
    | some c =>
      if c = (if double then '"' else '\'') then
        if !double ∧ k.peekAt 1 = some '\'' then
          quotedFrom start double fuel (text ++ ['\'']) (k.skip 2)
        else .ok (text, k.next)
      else if double ∧ c = '\\' then do
        let (t, k) ← escapeSequence start k.next
        quotedFrom start double fuel (text ++ t) k
      else if endsWord (some c) then do
        let (t, k) ← quotedBlanks start k
        quotedFrom start double fuel (text ++ t) k
      else quotedFrom start double fuel (text ++ [c]) k.next

def quotedScalar (double : Bool) (k : Cursor) : Except Fault (List Char × Cursor) :=
  quotedFrom k.mark double k.next.fuel [] k.next

/-! ## Block scalars -/

inductive Chomping
  | clip
  | strip
  | keep
  deriving DecidableEq, Repr

def complainBlock {α : Type} (start : Mark) (k : Cursor) (problem : String) : Except Fault α :=
  k.complain "while scanning a block scalar" start problem

def depth? (start : Mark) (k : Cursor) : Except Fault (Option Nat × Cursor) :=
  match k.peek with
  | some c =>
    if c = '0' then
      complainBlock start k "expected indentation indicator in the range 1-9, but found 0"
    else if '1' ≤ c ∧ c ≤ '9' then .ok (some (c.toNat - 48), k.next)
    else .ok (none, k)
  | none => .ok (none, k)

def chomping? (k : Cursor) : Option Chomping × Cursor :=
  if k.isAt '+' then (some .keep, k.next)
  else if k.isAt '-' then (some .strip, k.next)
  else (none, k)

def blockHead (start : Mark) (k : Cursor) : Except Fault ((Chomping × Option Nat) × Cursor) := do
  let (first, k) := chomping? k
  let (depth, k) ← depth? start k
  let (second, k) := if first.isNone ∧ depth.isSome then chomping? k else (none, k)
  if !endsEntry k.peek then
    complainBlock start k ("expected chomping or indentation indicators, but found " ++ k.shown)
  let k := (k.skipWhile (· = ' ')).skipComment
  match k.lineBreak? with
  | some (_, k) => .ok ((((first.or second).getD .clip), depth), k)
  | none =>
    if k.rest = [] then .ok ((((first.or second).getD .clip), depth), k)
    else complainBlock start k ("expected a comment or a line break, but found " ++ k.shown)

def blockIndentation : Nat → Cursor → List Char → Nat → List Char × Nat × Cursor
  | 0, k, breaks, widest => (breaks, widest, k)
  | fuel + 1, k, breaks, widest =>
    if k.isAt ' ' then blockIndentation fuel k.next breaks (max widest k.next.column)
    else match k.lineBreak? with
      | some (b, k) => blockIndentation fuel k (breaks ++ [b]) widest
      | none => (breaks, widest, k)

def blockBreaks (indent : Nat) : Nat → Cursor → List Char → List Char × Cursor
  | 0, k, breaks => (breaks, k)
  | fuel + 1, k, breaks =>
    if k.column < indent ∧ k.isAt ' ' then blockBreaks indent fuel k.next breaks
    else match k.lineBreak? with
      | some (b, k) => blockBreaks indent fuel k (breaks ++ [b])
      | none => (breaks, k)

def startsWithBlank (k : Cursor) : Bool := k.isAt ' ' || k.isAt '\t'

def blockLines (folded : Bool) (indent : Nat) : Nat → (text breaks : List Char) → Cursor →
    (List Char × List Char × List Char) × Cursor
  | 0, text, breaks, k => ((text, [], breaks), k)
  | fuel + 1, text, breaks, k =>
    if k.column ≠ indent ∨ k.rest = [] then ((text, [], breaks), k)
    else
      let flush := !startsWithBlank k
      let (line, k) := k.takeWhile fun c => !isBreak c
      let text := text ++ breaks ++ line
      let (last, k) := match k.lineBreak? with
        | some (b, k) => ([b], k)
        | none => ([], k)
      let (breaks, k) := blockBreaks indent k.fuel k []
      if k.column = indent ∧ k.rest ≠ [] then
        let joint :=
          if folded ∧ last = ['\n'] ∧ flush ∧ !startsWithBlank k then
            if breaks = [] then [' '] else []
          else last
        blockLines folded indent fuel (text ++ joint) breaks k
      else ((text, last, breaks), k)

def blockScalar (folded : Bool) (parent : Int) (k : Cursor) :
    Except Fault (List Char × Cursor) := do
  let ((chomping, depth), k) ← blockHead k.mark k.next
  let least := max 1 (parent + 1).toNat
  let (indent, breaks, k) := match depth with
    | none =>
      let (breaks, widest, k) := blockIndentation k.fuel k [] 0
      (max least widest, breaks, k)
    | some d =>
      let indent := least + d - 1
      let (breaks, k) := blockBreaks indent k.fuel k []
      (indent, breaks, k)
  let ((text, last, breaks), k) := blockLines folded indent k.fuel [] breaks k
  match chomping with
  | .strip => .ok (text, k)
  | .clip => .ok (text ++ last, k)
  | .keep => .ok (text ++ last ++ breaks, k)

end FormRules.Yaml
