import FormRules.Text.Blank
import FormRules.Text.Digit
import FormRules.Number.Decimal

namespace FormRules.Integer

def digitLimit : Nat := 4300

/-- The integer has more digits. -/
def isLong (n : Int) : Bool := digitLimit < (Text.natDigits n.natAbs).length

/-- The digits without the underscores that separate them; nothing unless every underscore stands
between two digits. -/
def separated? : List Char → Option (List Char)
  | [] => none
  | [c] => if Text.isDigit c then some [c] else none
  | c :: '_' :: s => if Text.isDigit c then (separated? s).map (c :: ·) else none
  | c :: s => if Text.isDigit c then (separated? s).map (c :: ·) else none

def read? (s : List Char) : Option Int :=
  let (negative, body) := Decimal.readSign s
  match separated? body with
  | none => none
  | some digits =>
    if digits.length ≤ digitLimit then
      let n : Int := Text.digitsValue digits
      some (if negative then -n else n)
    else none

def digit? (c : Char) : Option Nat :=
  match Text.digit? c with
  | some n => some n
  | none =>
    if 'a' ≤ c ∧ c ≤ 'z' then some (c.toNat - 87)
    else if 'A' ≤ c ∧ c ≤ 'Z' then some (c.toNat - 55)
    else none

def digitsIn? (base : Nat) (s : List Char) : Option Nat :=
  if s = [] then none
  else s.foldlM (fun n c => ((digit? c).filter (· < base)).map (base * n + ·)) 0

def withoutMark (lower upper : Char) : List Char → List Char
  | '0' :: c :: s => if c = lower ∨ c = upper then s else '0' :: c :: s
  | s => s

def readIn? (base : Nat) (lower upper : Char) (s : List Char) : Option Int :=
  let (negative, body) := Decimal.readSign s
  (digitsIn? base (withoutMark lower upper body)).map fun n =>
    if negative then -(n : Int) else n

end FormRules.Integer
