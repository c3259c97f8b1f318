import FormRules.Text.Digit
import FormRules.Text.Cut

namespace FormRules

structure Decimal where
  negative : Bool
  coefficient : Nat
  exponent : Int
  deriving DecidableEq

namespace Decimal

def scaled (n : Int) (e : Int) : Rat :=
  if 0 ≤ e then ((n * Nat.pow 10 e.toNat : Int) : Rat) else mkRat n (Nat.pow 10 (-e).toNat)

def exact (d : Decimal) : Rat :=
  scaled (if d.negative then -(d.coefficient : Int) else d.coefficient) d.exponent

def size (d : Decimal) : Nat := (Text.natDigits d.coefficient).length

def isWhole (d : Decimal) : Bool :=
  0 ≤ d.exponent || d.coefficient == 0 ||
    ((-d.exponent).toNat < d.size && d.coefficient % Nat.pow 10 (-d.exponent).toNat == 0)

def withPoint (digits : List Char) (point : Int) : List Char :=
  if point ≤ 0 then '0' :: '.' :: List.replicate (-point).toNat '0' ++ digits
  else if digits.length ≤ point.toNat then
    digits ++ List.replicate (point.toNat - digits.length) '0'
  else digits.take point.toNat ++ '.' :: digits.drop point.toNat

def signed (n : Int) : List Char :=
  if 0 ≤ n then '+' :: Text.intDigits n else Text.intDigits n

/-- Numbers are written positionally, unless their exponent is positive or more than five zeros
would follow the point. -/
def chars (d : Decimal) : List Char :=
  let digits := Text.natDigits d.coefficient
  let left : Int := d.exponent + digits.length
  let body :=
    if d.exponent ≤ 0 ∧ -6 < left then withPoint digits left
    else withPoint digits 1 ++ (if left = 1 then [] else 'E' :: signed (left - 1))
  if d.negative then '-' :: body else body

def readSign : List Char → Bool × List Char
  | '-' :: s => (true, s)
  | '+' :: s => (false, s)
  | s => (false, s)

/-- The exponent after a mantissa: `e` or `E`, an optional sign and at least one digit; or nothing
at all. -/
def readExponent? : List Char → Option Int
  | [] => some 0
  | c :: s =>
    let (negative, digits) := readSign s
    if (c = 'e' ∨ c = 'E') ∧ digits ≠ [] ∧ digits.all Text.isDigit then
      let n := Text.digitsValue digits
      some (if negative then -n else n)
    else none

/-- Reads a decimal literal: an optional sign, digits of any script with at most one point among
or beside them, and an optional exponent. -/
def read? (s : List Char) : Option Decimal :=
  let (negative, body) := readSign s
  let whole := body.takeWhile Text.isDigit
  let afterWhole := body.dropWhile Text.isDigit
  let (fraction, rest) :=
    match afterWhole with
    | '.' :: r => (r.takeWhile Text.isDigit, r.dropWhile Text.isDigit)
    | r => ([], r)
  if whole = [] ∧ fraction = [] then none
  else (readExponent? rest).map fun e =>
    ⟨negative, Text.digitsValue (whole ++ fraction), e - fraction.length⟩

end Decimal

end FormRules
