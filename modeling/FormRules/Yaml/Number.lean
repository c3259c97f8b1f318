import FormRules.Yaml.Cursor
import FormRules.Text.Blank
import FormRules.Text.Case
import FormRules.Number.Double
import FormRules.Number.Integer

namespace FormRules.Yaml

def orOutOfRange {α : Type} (a : Option α) : Except Fault α :=
  match a with
  | some a => .ok a
  | none => .error .outOfRange

def signed (s : List Char) : Except Fault (Bool × List Char) :=
  if s = [] then .error .emptyNumber else .ok (Decimal.readSign s)

def decimalInt (s : List Char) : Except Fault Int := orOutOfRange (Integer.read? (Text.trim s))

def intIn (base : Nat) (lower upper : Char) (s : List Char) : Except Fault Int :=
  orOutOfRange (Integer.readIn? base lower upper (Text.trim s))

def intMagnitude (s : List Char) : Except Fault Int :=
  match s with
  | [] => .error .emptyNumber
  | ['0'] => .ok 0
  | '0' :: 'b' :: r => intIn 2 'b' 'B' r
  | '0' :: 'x' :: r => intIn 16 'x' 'X' r
  | '0' :: _ => intIn 8 'o' 'O' s
  | _ =>
    if s.contains ':' then do
      let digits ← (Text.pieces ':' s).mapM decimalInt
      .ok (digits.foldl (fun n d => 60 * n + d) 0)
    else decimalInt s

def readInt (s : List Char) : Except Fault Int := do
  let (negative, body) ← signed (s.filter (· ≠ '_'))
  let n ← intMagnitude body
  .ok (if negative then -n else n)

def decimalFloat (s : List Char) : Except Fault Double := orOutOfRange (Double.read? (Text.trim s))

def sexagesimalSum : (digits : List Double) → (power : Nat) → (sum : Double) → Except Fault Double
  | [], _, sum => .ok sum
  | d :: ds, power, sum =>
    let weight := Double.ofRat power
    if weight.isFinite then sexagesimalSum ds (60 * power) (sum.add (d.mul weight))
    else .error .tooLarge

def floatMagnitude (s : List Char) : Except Fault Double :=
  if s = ".inf".toList then .ok (.infinite false)
  else if s = ".nan".toList then .ok .nan
  else if s.contains ':' then do
    let digits ← (Text.pieces ':' s).mapM decimalFloat
    sexagesimalSum digits.reverse 1 (.finite false 0 Double.leastExponent)
  else decimalFloat s

def plainFloat (s : List Char) : List Char := (s.filter (· ≠ '_')).map Text.asciiLower

def namesNan (s : List Char) : Bool := (Decimal.readSign (plainFloat s)).2 == ".nan".toList

def readFloat (s : List Char) : Except Fault Double := do
  let (negative, body) ← signed (plainFloat s)
  let d ← floatMagnitude body
  .ok (if negative then d.neg else d)

end FormRules.Yaml
