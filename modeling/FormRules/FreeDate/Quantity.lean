import FormRules.Number.Double
import FormRules.Number.Integer
import FormRules.Fault

namespace FormRules.FreeDate

inductive Stop
  | noDate
  | fault (f : Fault)
  deriving DecidableEq, Repr

def orStop {α : Type} : Option α → Except Stop α
  | some a => .ok a
  | none => .error .noDate

def precision : Nat := 28

def rounded (d : Decimal) : Decimal :=
  let excess := d.size - precision
  if excess = 0 then d
  else ⟨d.negative, Double.roundDiv d.coefficient (Nat.pow 10 excess), d.exponent + excess⟩

def wholePart (d : Decimal) : Nat :=
  d.coefficient * Nat.pow 10 d.exponent.toNat / Nat.pow 10 (-d.exponent).toNat

def fractionPart (d : Decimal) : Except Stop Decimal :=
  if precision < (Text.natDigits (wholePart d)).length then
    .error (.fault .quantityTooLong)
  else .ok (rounded { d with coefficient := d.coefficient % Nat.pow 10 (-d.exponent).toNat })

def sixtieths (d : Decimal) : Nat :=
  wholePart (rounded { d with coefficient := 60 * d.coefficient })

def minuteAndSecond (d : Decimal) : Except Stop (Int × Option Int) := do
  let f ← fractionPart d
  .ok (wholePart d, if f.coefficient = 0 then none else some (sixtieths f : Int))

def secondAndMicro (s : List Char) : Except Stop (Int × Int) :=
  if s.contains '.' then
    let whole := s.takeWhile (· ≠ '.')
    let fraction := (s.dropWhile (· ≠ '.')).drop 1
    orStop do
      let i ← Integer.read? whole
      let f ← Integer.read? ((fraction ++ List.replicate (6 - fraction.length) '0').take 6)
      if fraction.contains '.' then none
      some (i, f)
  else orStop ((Integer.read? s).map (·, 0))

end FormRules.FreeDate
