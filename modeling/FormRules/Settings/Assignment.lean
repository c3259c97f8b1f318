import FormRules.Text.Blank
import FormRules.Text.Cut

namespace FormRules

structure Assignment where
  name : List Char
  value : Option (List Char)
  deriving DecidableEq, Repr

namespace Assignment

def isInner (c : Char) : Bool := Text.isBlank c && c != '\n'

def skipInner (s : List Char) : List Char := s.dropWhile isInner

/-! ## Quoted texts -/

/-- The text up to the closing quote and what follows it. A backslash takes the character behind it
along, so that a quote there closes nothing. -/
def quotedText? (quote : Char) : List Char → Option (List Char × List Char)
  | [] => none
  | '\\' :: c :: s => (quotedText? quote s).map fun (t, r) => ('\\' :: c :: t, r)
  | c :: s =>
    if c = quote then some ([], s)
    else if c = '\\' then none
    else (quotedText? quote s).map fun (t, r) => (c :: t, r)

def escaped? : Char → Option Char
  | '\\' => some '\\'
  | '\'' => some '\''
  | '"' => some '"'
  | 'a' => some '\x07'
  | 'b' => some '\x08'
  | 'f' => some '\x0c'
  | 'n' => some '\n'
  | 'r' => some '\r'
  | 't' => some '\t'
  | 'v' => some '\x0b'
  | _ => none

def escapedIn? (quote c : Char) : Option Char :=
  if quote = '"' ∨ c = '\\' ∨ c = '\'' then escaped? c else none

def unescaped (quote : Char) : List Char → List Char
  | '\\' :: c :: s =>
    match escapedIn? quote c with
    | some d => d :: unescaped quote s
    | none => '\\' :: unescaped quote (c :: s)
  | c :: s => c :: unescaped quote s
  | [] => []

/-! ## Lines -/

def endsLine (s : List Char) : Bool :=
  match skipInner s with
  | [] => true
  | c :: _ => c == '\n' || c == '#'

def bareValue : List Char → List Char
  | [] => []
  | c :: s =>
    if Text.isBlank c ∧ (skipInner s).head? = some '#' then [] else c :: bareValue s

def restOfLine (s : List Char) : List Char × List Char :=
  (s.takeWhile (· ≠ '\n'), s.dropWhile (· ≠ '\n'))

def value? (s : List Char) : Option (List Char × List Char) :=
  match skipInner s with
  | '\'' :: r => (quotedText? '\'' r).map fun (t, r) => (unescaped '\'' t, r)
  | '"' :: r => (quotedText? '"' r).map fun (t, r) => (unescaped '"' t, r)
  | _ =>
    let (line, r) := restOfLine s
    some (Text.trim (bareValue line), r)

def isNameChar (c : Char) : Bool := c != '=' && c != '#' && !Text.isBlank c

def skipExport (s : List Char) : List Char :=
  if s.take 6 = "export".toList ∧ (s.drop 6).head?.any isInner then skipInner (s.drop 6) else s

def name? (s : List Char) : Option (List Char × List Char) :=
  match s with
  | '\'' :: r =>
    let name := r.takeWhile (· ≠ '\'')
    match r.drop name.length with
    | _ :: rest => if name = [] then none else some (name, rest)
    | [] => none
  | s =>
    let name := s.takeWhile isNameChar
    if name = [] then none else some (name, s.drop name.length)

def first (s : List Char) : Option Assignment × List Char :=
  let s := skipExport s
  match name? s with
  | none => (none, s)
  | some (name, r) =>
    match skipInner r with
    | '=' :: r =>
      match value? r with
      | none => (none, r)
      | some (v, r) => (if endsLine r then some ⟨name, some v⟩ else none, r)
    | r => (if endsLine r then some ⟨name, none⟩ else none, r)

def skipMark : List Char → List Char
  | '\ufeff' :: s => s
  | s => s

def readLines : (fuel : Nat) → List Char → List Assignment
  | 0, _ => []
  | fuel + 1, s =>
    match s.dropWhile Text.isBlank with
    | [] => []
    | s =>
      let (a, r) := first s
      a.toList ++ readLines fuel (restOfLine r).2

def readAll (s : List Char) : List Assignment := readLines (s.length + 1) (skipMark s)

/-! ## Values of other names -/

def reference? (s : List Char) : Option ((List Char × List Char) × List Char) :=
  let name := s.takeWhile fun c => c != '\x7d' && c != ':'
  match s.drop name.length with
  | '\x7d' :: r => some ((name, []), r)
  | ':' :: '-' :: r =>
    let other := r.takeWhile (· ≠ '\x7d')
    match r.drop other.length with
    | _ :: r => some ((name, other), r)
    | [] => none
  | _ => none

def filled (value? : List Char → Option (List Char)) : (fuel : Nat) → List Char → List Char
  | 0, s => s
  | fuel + 1, s =>
    match s with
    | [] => []
    | '$' :: '\x7b' :: r =>
      match reference? r with
      | some ((name, other), r) => (value? name).getD other ++ filled value? fuel r
      | none => '$' :: filled value? fuel ('\x7b' :: r)
    | c :: r => c :: filled value? fuel r

def set (a : Assignment) : List Assignment → List Assignment
  | [] => [a]
  | b :: r => if b.name = a.name then a :: r else b :: set a r

/-- The value of a name among earlier assignments, else in the surroundings; a name without a value
counts as empty. -/
def known (around : List (List Char × List Char)) (done : List Assignment) (name : List Char) :
    Option (List Char) :=
  match done.find? fun a => a.name == name with
  | some a => some (a.value.getD [])
  | none => (around.find? fun e => e.1 == name).map (·.2)

def resolve (around : List (List Char × List Char)) (as : List Assignment) : List Assignment :=
  as.foldl (fun done a =>
    set ⟨a.name, a.value.map fun v => filled (known around done) (v.length + 1) v⟩ done) []

end Assignment

end FormRules
