import FormRules.Text.Quoted

namespace FormRules.Yaml

structure Mark where
  line : Nat
  column : Nat
  deriving DecidableEq, Repr

structure Complaint where
  context : Option String
  start : Option Mark
  problem : String
  mark : Mark
  deriving DecidableEq, Repr

inductive Fault
  /-- it breaks a rule of YAML, or a tag does not fit its node -/
  | malformed (c : Complaint)
  /-- a character that must not stand in a text, and how many stand before it -/
  | unacceptable (c : Char) (position : Nat)
  /-- a number or a moment that does not exist -/
  | outOfRange
  /-- a number that is too large to be worked with -/
  | tooLarge
  /-- a tag for numbers on an empty scalar -/
  | emptyNumber
  /-- a tag for truth values on some other word -/
  | unknownTruth
  /-- a tag for moments on something else -/
  | unknownMoment
  /-- a scalar that stands for itself, or too many levels -/
  | endless
  deriving DecidableEq, Repr

/-! ## Wording -/

def Mark.text (source : String) (m : Mark) : String :=
  "  in \"" ++ source ++ "\", line " ++ Text.decimal (m.line + 1) ++ ", column " ++
    Text.decimal (m.column + 1)

def Complaint.text (source : String) (c : Complaint) : String :=
  "\n".intercalate
    (c.context.toList ++
      ((c.start.filter (· ≠ c.mark)).map (Mark.text source)).toList ++
      [c.problem, c.mark.text source])

def Fault.text? (source : String) : Fault → Option String
  | .malformed c => some (c.text source)
  | .unacceptable c position =>
    some ("unacceptable character #x" ++ String.ofList (Text.hex 4 c.toNat) ++
      ": special characters are not allowed\n  in \"" ++ source ++ "\", position " ++
      Text.decimal position)
  | _ => none

/-! ## Characters -/

def isBreak (c : Char) : Bool := c == '\n' || c == '\x85' || c == '\u2028' || c == '\u2029'

def endsEntry : Option Char → Bool
  | none => true
  | some c => c == ' ' || isBreak c

def endsWord : Option Char → Bool
  | none => true
  | some c => c == ' ' || c == '\t' || isBreak c

def isNameChar (c : Char) : Bool := c.isAlphanum || c == '-' || c == '_'

def isAllowed (c : Char) : Bool :=
  let n := c.toNat
  n == 0x9 || n == 0xA || n == 0xD || (0x20 ≤ n && n ≤ 0x7E) || n == 0x85 ||
    (0xA0 ≤ n && n ≤ 0xD7FF) || (0xE000 ≤ n && n ≤ 0xFFFD) || 0x10000 ≤ n

structure Cursor where
  rest : List Char
  index : Nat
  line : Nat
  column : Nat

namespace Cursor

def start (s : List Char) : Cursor := ⟨s, 0, 0, 0⟩

def mark (k : Cursor) : Mark := ⟨k.line, k.column⟩

def peek (k : Cursor) : Option Char := k.rest.head?

def isAt (k : Cursor) (c : Char) : Bool := k.peek == some c

def peekAt (k : Cursor) (n : Nat) : Option Char := k.rest[n]?

def shownAt (k : Cursor) (n : Nat) : String := Text.quotedText ((k.peekAt n).getD '\x00').toString

def shown (k : Cursor) : String := k.shownAt 0

def complain {α : Type} (k : Cursor) (context : String) (start : Mark) (problem : String) :
    Except Fault α :=
  .error (.malformed ⟨some context, some start, problem, k.mark⟩)

def misplaced {α : Type} (k : Cursor) (problem : String) : Except Fault α :=
  .error (.malformed ⟨none, none, problem, k.mark⟩)

def next (k : Cursor) : Cursor :=
  match k.rest with
  | [] => k
  | c :: r =>
    if isBreak c then ⟨r, k.index + 1, k.line + 1, 0⟩
    else ⟨r, k.index + 1, k.line, if c = '\uFEFF' then k.column else k.column + 1⟩

def skip (k : Cursor) : Nat → Cursor
  | 0 => k
  | n + 1 => k.next.skip n

def skipWhile (k : Cursor) (p : Char → Bool) : Cursor := k.skip (k.rest.takeWhile p).length

def takeWhile (k : Cursor) (p : Char → Bool) : List Char × Cursor :=
  (k.rest.takeWhile p, k.skipWhile p)

def lineBreak? (k : Cursor) : Option (Char × Cursor) :=
  match k.peek with
  | some c =>
    if c = '\n' ∨ c = '\x85' then some ('\n', k.next)
    else if isBreak c then some (c, k.next)
    else none
  | none => none

def skipComment (k : Cursor) : Cursor :=
  if k.isAt '#' then k.skipWhile fun c => !isBreak c else k

def isMarker (k : Cursor) : Bool :=
  (k.rest.take 3 == ['-', '-', '-'] || k.rest.take 3 == ['.', '.', '.']) && endsWord (k.peekAt 3)

def fuel (k : Cursor) : Nat := k.rest.length + 1

end Cursor

end FormRules.Yaml
