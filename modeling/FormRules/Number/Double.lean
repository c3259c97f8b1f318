import FormRules.Number.Decimal

namespace FormRules

inductive Double
  | nan
  | infinite (negative : Bool)
  | finite (negative : Bool) (mantissa : Nat) (exponent : Int)
  deriving DecidableEq

namespace Double

def leastExponent : Int := -1074

def greatestExponent : Int := 971

def leastFull : Nat := 0x10000000000000

def roundDiv (n d : Nat) : Nat :=
  let q := n / d
  let r := n % d
  if 2 * r < d ∨ (2 * r = d ∧ q % 2 = 0) then q else q + 1

def log2Ratio (n d : Nat) : Int :=
  let k : Int := n.log2 - d.log2
  if d * Nat.pow 2 k.toNat ≤ n * Nat.pow 2 (-k).toNat then k else k - 1

def ofRatio (negative : Bool) (n d : Nat) : Double :=
  if n = 0 then .finite negative 0 leastExponent
  else
    let e := max (log2Ratio n d - 52) leastExponent
    let m := roundDiv (n * Nat.pow 2 (-e).toNat) (d * Nat.pow 2 e.toNat)
    let (m, e) := if m = 2 * leastFull then (leastFull, e + 1) else (m, e)
    if greatestExponent < e then .infinite negative else .finite negative m e

def ofRat (q : Rat) : Double := ofRatio (q.num < 0) q.num.natAbs q.den

/-- The double nearest to a decimal. Beyond 400 digits on either side of the point every number is
infinite or rounds to zero. -/
def ofDecimal (d : Decimal) : Double :=
  if d.coefficient = 0 then .finite d.negative 0 leastExponent
  else
    let place : Int := d.exponent + d.size
    if 400 < place then .infinite d.negative
    else if place < -400 then .finite d.negative 0 leastExponent
    else
      ofRatio d.negative (d.coefficient * Nat.pow 10 d.exponent.toNat)
        (Nat.pow 10 (-d.exponent).toNat)

def read? (s : List Char) : Option Double :=
  match Decimal.read? s with
  | some d => some (ofDecimal d)
  | none =>
    let (negative, name) := Decimal.readSign s
    if name = "inf".toList ∨ name = "infinity".toList then some (.infinite negative)
    else if name = "nan".toList then some .nan
    else none

def isFinite : Double → Bool
  | .finite .. => true
  | _ => false

def scaled (n : Int) (e : Int) : Rat :=
  if 0 ≤ e then ((n * Nat.pow 2 e.toNat : Int) : Rat) else mkRat n (Nat.pow 2 (-e).toNat)

def exact : Double → Rat
  | .finite negative m e => scaled (if negative then -(m : Int) else m) e
  | _ => 0

def isWhole : Double → Bool
  | .finite _ m e => 0 ≤ e || m % Nat.pow 2 (-e).toNat == 0
  | _ => false

def add (a b : Double) : Double :=
  match a, b with
  | .finite .., .finite .. => ofRat (a.exact + b.exact)
  | .finite .., _ => b
  | _, _ => a

def mul (a b : Double) : Double :=
  match a, b with
  | .finite .., .finite .. => ofRat (a.exact * b.exact)
  | .finite .., _ => b
  | _, _ => a

def neg : Double → Double
  | .nan => .nan
  | .infinite s => .infinite !s
  | .finite s m e => .finite (!s) m e

def signBit : Nat := 0x8000000000000000

def bits : Double → Nat
  | .nan => 0x7FF8000000000000
  | .infinite s => (if s then signBit else 0) + 0x7FF * leastFull
  | .finite s m e =>
    (if s then signBit else 0) +
      (if m < leastFull then m else (e + 1075).toNat * leastFull + (m - leastFull))

end Double

end FormRules
