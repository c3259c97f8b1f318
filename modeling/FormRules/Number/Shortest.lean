import FormRules.Number.Double

namespace FormRules.Double

def compareScaled (a : Nat) (i : Int) (b : Nat) (j : Int) : Ordering :=
  compare (a * Nat.pow 10 i.toNat * Nat.pow 2 (-j).toNat)
    (b * Nat.pow 2 j.toNat * Nat.pow 10 (-i).toNat)

/-- `c · 10 ^ g` lies among the numbers that round to `m · 2 ^ e`. Below a power of two the gap to
the next double is half as wide. -/
def readsBack (m : Nat) (e : Int) (c : Nat) (g : Int) : Bool :=
  let low := if m = leastFull ∧ leastExponent < e then 4 * m - 1 else 4 * m - 2
  let toLow := compareScaled c g low (e - 2)
  let toHigh := compareScaled c g (4 * m + 2) (e - 2)
  (toLow == .gt || (m % 2 == 0 && toLow == .eq)) && (toHigh == .lt || (m % 2 == 0 && toHigh == .eq))

/-- The best decimal on the grid `10 ^ g`: the nearer of the two neighbours of the number, of two
equally near ones the even one, as long as it reads back. -/
def onGrid? (m : Nat) (e : Int) (g : Int) : Option (Nat × Int) :=
  let n := m * Nat.pow 2 e.toNat * Nat.pow 10 (-g).toNat
  let d := Nat.pow 2 (-e).toNat * Nat.pow 10 g.toNat
  let near := roundDiv n d
  let far := if near = n / d then near + 1 else near - 1
  if readsBack m e near g then some (near, g)
  else if readsBack m e far g then some (far, g)
  else none

def magnitude (m : Nat) (e : Int) : Int :=
  let t := (-e).toNat
  ((Text.natDigits (m * Nat.pow 2 e.toNat * Nat.pow 5 t)).length : Int) - t

def shortest (m : Nat) (e : Int) : Nat × Int :=
  let k := magnitude m e
  ((List.range 17).findSome? fun i => onGrid? m e (k - (i + 1 : Nat))).getD (m, 0)

/-- Positional between 10 ^ -4 and 10 ^ 16, always with a point; otherwise with a signed exponent of
two digits or more. -/
def layout (digits : List Char) (exponent : Int) : List Char :=
  let point : Int := exponent + digits.length
  if -4 < point ∧ point ≤ 16 then
    if 0 ≤ exponent then Decimal.withPoint digits point ++ ['.', '0']
    else Decimal.withPoint digits point
  else
    Decimal.withPoint digits 1 ++ 'e' :: (if point ≤ 0 then '-' else '+') ::
      Text.padded 2 (point - 1).natAbs

def stripped (digits : List Char) (exponent : Int) : List Char × Int :=
  let kept := (digits.reverse.dropWhile (· = '0')).reverse
  (kept, exponent + (digits.length - kept.length : Nat))

def chars : Double → List Char
  | .nan => "nan".toList
  | .infinite s => if s then "-inf".toList else "inf".toList
  | .finite s m e =>
    let body :=
      if m = 0 then "0.0".toList
      else
        let (c, g) := shortest m e
        let (digits, exponent) := stripped (Text.natDigits c) g
        layout digits exponent
    if s then '-' :: body else body

end FormRules.Double
