namespace FormRules.Text

abbrev Range := Nat × Nat

structure Stride where
  first : Nat
  last : Nat
  step : Nat

def Stride.holds (s : Stride) (n : Nat) : Bool :=
  s.first ≤ n && n ≤ s.last && (n - s.first) % s.step == 0

def inRanges (rs : List Range) (c : Char) : Bool :=
  rs.any fun r => r.1 ≤ c.toNat && c.toNat ≤ r.2

def inStrides (ss : List Stride) (c : Char) : Bool :=
  ss.any fun s => s.holds c.toNat

end FormRules.Text
