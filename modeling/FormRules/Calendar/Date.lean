import FormRules.Text.Digit

namespace FormRules

namespace Calendar

def isLeap (year : Nat) : Bool := year % 4 == 0 && (year % 100 != 0 || year % 400 == 0)

def daysInMonth (year : Nat) : (month : Nat) → Nat
  | 1 | 3 | 5 | 7 | 8 | 10 | 12 => 31
  | 4 | 6 | 9 | 11 => 30
  | 2 => if isLeap year then 29 else 28
  | _ => 0

def daysInYear (year : Nat) : Nat := if isLeap year then 366 else 365

def lastYear : Nat := 9999

def daysBeforeYear (year : Nat) : Nat :=
  let y := year - 1
  365 * y + y / 4 - y / 100 + y / 400

def daysBeforeMonth (year month : Nat) : Nat :=
  (List.range (month - 1)).foldl (fun days i => days + daysInMonth year (i + 1)) 0

end Calendar

open Calendar

structure Date where
  year : Nat
  month : Nat
  day : Nat
  year_pos : 1 ≤ year
  year_le : year ≤ lastYear
  day_pos : 1 ≤ day
  day_le : day ≤ daysInMonth year month
  deriving DecidableEq

namespace Date

def of? (year month day : Int) : Option Date :=
  if h : (1 ≤ year.toNat ∧ year.toNat ≤ lastYear) ∧
      1 ≤ day.toNat ∧ day.toNat ≤ daysInMonth year.toNat month.toNat then
    some ⟨year.toNat, month.toNat, day.toNat, h.1.1, h.1.2, h.2.1, h.2.2⟩
  else none

def ordinal (d : Date) : Nat := daysBeforeYear d.year + daysBeforeMonth d.year d.month + d.day

def weekday (d : Date) : Nat := (d.ordinal + 6) % 7

def monthOf (year : Nat) : (candidates : List Nat) → (day : Nat) → Nat × Nat
  | [], day => (12, day)
  | m :: ms, day =>
    if day ≤ daysInMonth year m then (m, day) else monthOf year ms (day - daysInMonth year m)

def ofYearDay? (year : Nat) (day : Nat) : Option Date :=
  let (m, d) := monthOf year (List.range' 1 12) day
  of? year m d

def ofOrdinal? (n : Int) : Option Date :=
  if n < 1 then none
  else
    let n := n.toNat
    let guess := (n - 1) / 366 + 1
    let year := guess + ((List.range 30).filter fun i => daysBeforeYear (guess + i + 1) < n).length
    ofYearDay? year (n - daysBeforeYear year)

def addDays? (d : Date) (k : Int) : Option Date := ofOrdinal? (d.ordinal + k)

def chars (d : Date) : List Char :=
  Text.padded 4 d.year ++ '-' :: Text.padded 2 d.month ++ '-' :: Text.padded 2 d.day

end Date

end FormRules
