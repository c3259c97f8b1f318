import FormRules.Yaml.Number
import FormRules.Yaml.Tag
import FormRules.Calendar.DateTime

namespace FormRules.Yaml.Moment

def digits? (least most : Nat) (s : List Char) : Option (Nat × List Char) :=
  let ds := (s.take most).takeWhile Text.isAsciiDigit
  if ds.length < least then none else some (Text.digitsValue ds, s.drop ds.length)

def sign? (c : Char) (s : List Char) : Option (List Char) :=
  if s.head? = some c then some s.tail else none

def isBlank (c : Char) : Bool := c == ' ' || c == '\t'

def separator? : List Char → Option (List Char)
  | [] => none
  | c :: r =>
    if c = 'T' ∨ c = 't' then some r
    else if isBlank c then some (r.dropWhile isBlank)
    else none

def fraction (s : List Char) : Nat × List Char :=
  match s with
  | '.' :: r =>
    let ds := r.takeWhile Text.isAsciiDigit
    (Text.digitsValue ((ds ++ List.replicate 6 '0').take 6), r.drop ds.length)
  | s => (0, s)

def zone? (s : List Char) : Option (Option Int) :=
  if s = [] then some none
  else
    let offset (negative : Bool) (r : List Char) : Option (Option Int) := do
      let (h, r) ← digits? 1 2 r
      let (m, r) ← match r with
        | ':' :: r => digits? 2 2 r
        | r => some (0, r)
      let seconds : Int := 3600 * h + 60 * m
      if r = [] then some (some (if negative then -seconds else seconds)) else none
    match s.dropWhile isBlank with
    | ['Z'] => some (some 0)
    | '+' :: r => offset false r
    | '-' :: r => offset true r
    | _ => none

structure Clock where
  hour : Nat
  minute : Nat
  second : Nat
  micro : Nat
  offset : Option Int

def clock? (s : List Char) : Option Clock := do
  let (hour, s) ← digits? 1 2 (← separator? s)
  let (minute, s) ← digits? 2 2 (← sign? ':' s)
  let (second, s) ← digits? 2 2 (← sign? ':' s)
  let (micro, s) := fraction s
  some ⟨hour, minute, second, micro, ← zone? s⟩

def parts? (s : List Char) : Option (Nat × Nat × Nat × Option Clock) := do
  let (year, s) ← digits? 4 4 s
  let (month, s) ← digits? 1 2 (← sign? '-' s)
  let (day, s) ← digits? 1 2 (← sign? '-' s)
  if s = [] then some (year, month, day, none)
  else some (year, month, day, some (← clock? s))

def isZone (seconds : Int) : Bool := seconds.natAbs < 86400

def read (s : List Char) : Except Fault (Date × Option (TimeOfDay × Option Int)) :=
  match parts? (Tag.withoutLastBreak s) with
  | none => .error .unknownMoment
  | some (year, month, day, clock) => do
    let date ← orOutOfRange (Date.of? year month day)
    match clock with
    | none => .ok (date, none)
    | some c =>
      let time ← orOutOfRange (TimeOfDay.of? c.hour c.minute c.second c.micro)
      if c.offset.all isZone then .ok (date, some (time, c.offset)) else .error .outOfRange

end FormRules.Yaml.Moment
