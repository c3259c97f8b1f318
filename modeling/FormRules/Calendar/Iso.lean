import FormRules.Calendar.DateTime
import FormRules.Number.Integer

namespace FormRules.Iso

def isAscii (c : Char) : Bool := c.toNat < 0x80

def isAsciiBlank (c : Char) : Bool := c == ' ' || ('\t' ≤ c && c ≤ '\r')

def number? (s : List Char) : Option Int :=
  Integer.read? ((s.dropWhile isAsciiBlank).reverse.dropWhile isAsciiBlank).reverse

abbrev DateAnd := (Int × Int × Int) × List Char

def calendarDate? (s : List Char) : Option DateAnd := do
  if s.length < 4 then none
  let year ← number? (s.take 4)
  match s.drop 4 with
  | [] => some ((year, 1, 1), [])
  | '-' :: r =>
    if r.length < 2 then none
    let month ← number? (r.take 2)
    match r.drop 2 with
    | [] => some ((year, month, 1), [])
    | '-' :: d =>
      if d.length < 2 then none
      let day ← number? (d.take 2)
      some ((year, month, day), d.drop 2)
    | _ => none
  | r =>
    if r.length < 4 then none
    let month ← number? (r.take 2)
    let day ← number? ((r.drop 2).take 2)
    some ((year, month, day), r.drop 4)

def weekDate? (year week day : Int) : Option Date := do
  if ¬(0 < week ∧ week < 54) ∨ ¬(0 < day ∧ day < 8) then none
  let fourth ← Date.of? year 1 4
  fourth.addDays? ((week - 1) * 7 + (day - 1) - fourth.weekday)

def weekRest? (year : Int) (hyphen : Bool) (s : List Char) : Option (Date × List Char) := do
  let week ← number? (s.take 2)
  match s.drop 2 with
  | [] => some (← weekDate? year week 1, [])
  | c :: r =>
    if (c == '-') != hyphen then none
    let r := if hyphen then r else c :: r
    let day ← number? (r.take 1)
    some (← weekDate? year week day, r.drop 1)

def ordinalRest? (year : Int) (s : List Char) : Option (Date × List Char) := do
  if s.length < 3 then none
  let day ← number? (s.take 3)
  let first ← Date.of? year 1 1
  if ¬(1 ≤ day ∧ day ≤ Calendar.daysInYear first.year) then none
  some (← first.addDays? (day - 1), s.drop 3)

def weekOrOrdinalDate? (s : List Char) : Option DateAnd := do
  if s.length < 4 then none
  let year ← number? (s.take 4)
  let hyphen := (s.drop 4).head? == some '-'
  let r := if hyphen then s.drop 5 else s.drop 4
  let (d, rest) ← match r with
    | 'W' :: w => weekRest? year hyphen w
    | _ => ordinalRest? year r
  some ((d.year, d.month, d.day), rest)

def offset? (s : List Char) : Option Int := do
  if s = ['Z'] ∨ s = ['z'] then return 0
  if s.length ≠ 3 ∧ s.length ≠ 5 ∧ s.length ≠ 6 then none
  let (sign, r) ← match s with
    | '-' :: r => some ((-1 : Int), r)
    | '+' :: r => some (1, r)
    | _ => none
  let hours ← number? (r.take 2)
  let minutes ← match r.drop 2 with
    | [] => some 0
    | ':' :: m => number? m
    | m => number? m
  if hours = 0 ∧ minutes = 0 then return 0
  if 59 < minutes ∨ 23 < hours then none
  some (sign * (hours * 60 + minutes) * 60)

structure Time where
  hour : Int := 0
  minute : Int := 0
  second : Int := 0
  micro : Int := 0
  offset : Option Int := none

def startsOffset (s : List Char) : Bool :=
  match s with
  | c :: _ => c == '-' || c == '+' || c == 'Z' || c == 'z'
  | [] => false

def fraction? (s : List Char) : Option (Int × List Char) :=
  match s with
  | c :: r =>
    let digits := r.takeWhile Text.isAsciiDigit
    if (c = '.' ∨ c = ',') ∧ digits ≠ [] then
      let kept := digits.take 6
      some (Text.digitsValue (kept ++ List.replicate (6 - kept.length) '0'),
        r.dropWhile Text.isAsciiDigit)
    else none
  | [] => none

def afterSecond? (t : Time) (s : List Char) : Option Time :=
  let (t, s) := match fraction? s with
    | some (micro, r) => ({ t with micro := micro }, r)
    | none => (t, s)
  if s = [] then some t
  else if startsOffset s then (offset? s).map fun o => { t with offset := some o }
  else none

def afterMinute? (t : Time) (colon : Bool) (s : List Char) : Option Time :=
  if s = [] then some t
  else if startsOffset s then (offset? s).map fun o => { t with offset := some o }
  else do
    let s ← match colon, s with
      | true, ':' :: r => some r
      | true, _ => none
      | false, _ => some s
    let second ← number? (s.take 2)
    afterSecond? { t with second := second } (s.drop 2)

def afterHour? (t : Time) (s : List Char) : Option Time :=
  if s = [] then some t
  else if startsOffset s then (offset? s).map fun o => { t with offset := some o }
  else do
    let (colon, r) := match s with
      | ':' :: r => (true, r)
      | _ => (false, s)
    let minute ← number? (r.take 2)
    afterMinute? { t with minute := minute } colon (r.drop 2)

def time? (s : List Char) : Option Time := do
  if s.length < 2 then none
  let t ←
    if startsOffset s then (offset? s).map fun o => ({ offset := some o } : Time)
    else do
      let hour ← number? (s.take 2)
      afterHour? { hour := hour } (s.drop 2)
  if t.hour = 24 ∧ ¬(t.minute = 0 ∧ t.second = 0 ∧ t.micro = 0) then none
  some t

def combine? (date : Int × Int × Int) (t : Time) : Option DateTime := do
  let (year, month, day) := date
  if t.hour = 24 then
    let m ← DateTime.of? year month day 0 t.minute t.second t.micro t.offset
    some { m with date := ← m.date.addDays? 1 }
  else DateTime.of? year month day t.hour t.minute t.second t.micro t.offset

def parse? (s : List Char) : Option DateTime := do
  if !s.all isAscii then none
  let (date, rest) ← (calendarDate? s).orElse fun _ => weekOrOrdinalDate? s
  match rest with
  | [] => combine? date {}
  | _ :: r => combine? date (← time? r)

end FormRules.Iso
