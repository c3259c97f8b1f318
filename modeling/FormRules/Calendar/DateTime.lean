import FormRules.Calendar.Date

namespace FormRules

structure TimeOfDay where
  hour : Nat
  minute : Nat
  second : Nat
  micro : Nat
  hour_lt : hour < 24
  minute_lt : minute < 60
  second_lt : second < 60
  micro_lt : micro < 1000000
  deriving DecidableEq

namespace TimeOfDay

def midnight : TimeOfDay := ⟨0, 0, 0, 0, by decide, by decide, by decide, by decide⟩

def of? (hour minute second micro : Int) : Option TimeOfDay :=
  if h : (0 ≤ hour ∧ 0 ≤ minute ∧ 0 ≤ second ∧ 0 ≤ micro) ∧ hour.toNat < 24 ∧ minute.toNat < 60 ∧
      second.toNat < 60 ∧ micro.toNat < 1000000 then
    some ⟨hour.toNat, minute.toNat, second.toNat, micro.toNat, h.2.1, h.2.2.1, h.2.2.2.1, h.2.2.2.2⟩
  else none

def seconds (t : TimeOfDay) : Nat := t.hour * 3600 + t.minute * 60 + t.second

end TimeOfDay

structure DateTime where
  date : Date
  time : TimeOfDay
  /-- seconds east of universal time; nothing if no zone is known -/
  offset : Option Int
  deriving DecidableEq

namespace DateTime

def ofDate (d : Date) : DateTime := ⟨d, .midnight, none⟩

def of? (year month day hour minute second micro : Int) (offset : Option Int) :
    Option DateTime := do
  let d ← Date.of? year month day
  let t ← TimeOfDay.of? hour minute second micro
  some ⟨d, t, offset⟩

def wallMicros (t : DateTime) : Int :=
  ((t.date.ordinal : Int) * 86400 + t.time.seconds) * 1000000 + t.time.micro

def instant (t : DateTime) : Int := t.wallMicros - t.offset.getD 0 * 1000000

def lawfulOffset (seconds : Int) : Bool := -86400 < seconds && seconds < 86400

def isLawful (t : DateTime) : Bool := t.offset.all lawfulOffset

def offsetChars (seconds : Int) : List Char :=
  let n := seconds.natAbs
  (if seconds < 0 then '-' else '+') :: Text.padded 2 (n / 3600) ++
    ':' :: Text.padded 2 (n / 60 % 60) ++
    (if n % 60 = 0 then [] else ':' :: Text.padded 2 (n % 60))

def chars (separator : Char) (t : DateTime) : List Char :=
  t.date.chars ++ separator :: Text.padded 2 t.time.hour ++ ':' :: Text.padded 2 t.time.minute ++
    ':' :: Text.padded 2 t.time.second ++
    (if t.time.micro = 0 then [] else '.' :: Text.padded 6 t.time.micro) ++
    (t.offset.map offsetChars).getD []

end DateTime

end FormRules
