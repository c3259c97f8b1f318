import FormRules.FreeDate.Lexeme
import FormRules.FreeDate.Vocabulary
import FormRules.FreeDate.Triple
import FormRules.Calendar.DateTime

/-! Dates in free form. The lexemes are read from left to right; what a number is depends on its
length and on its neighbours. -/

namespace FormRules.FreeDate

structure Found where
  triple : Triple := {}
  weekday : Option Nat := none
  hour : Option Int := none
  minute : Option Int := none
  second : Option Int := none
  micro : Option Int := none
  halfDay : Bool := false
  zone : Option Lexeme := none
  offset : Option Int := none
  /-- the next sign belongs to the name of a zone and counts the other way -/
  signReversed : Bool := false

/-- The century of a year in two digits: the result lies within fifty years of this year. -/
def inCentury (thisYear year : Int) : Int :=
  if 100 ≤ year then year
  else
    let y := year + thisYear / 100 * 100
    if thisYear + 50 ≤ y then y - 100
    else if y < thisYear - 50 then y + 100
    else y

def toNoonHour (hour : Int) (afternoon : Bool) : Int :=
  if hour < 12 ∧ afternoon then hour + 12
  else if hour = 12 ∧ !afternoon then 0
  else hour

def int? (s : List Char) : Except Stop Int := orStop (Integer.read? s)

def amount? (s : List Char) : Except Stop Decimal := orStop (Decimal.read? s)

def Found.setUnit (f : Found) (unit : Nat) (d : Decimal) (t : Lexeme) : Except Stop Found :=
  match unit with
  | 0 => do
    let part ← fractionPart d
    let f := { f with hour := some (wholePart d : Int) }
    .ok (if part.coefficient = 0 then f else { f with minute := some (sixtieths part : Int) })
  | 1 => do
    let (m, s) ← minuteAndSecond d
    .ok { f with minute := some m, second := s }
  | 2 => do
    let (s, u) ← secondAndMicro t
    .ok { f with second := some s, micro := some u }
  | _ => .ok f

/-- The unit of a number and how many lexemes further its name ends: named after the number,
possibly behind a space, or following the unit named before it. -/
def unitNearby? (before after : List Lexeme) : Option (Nat × Nat) :=
  match after.head?.bind unit? with
  | some u => some (u, 1)
  | none =>
    match (if after.head? = some [' '] then after[1]?.bind unit? else none) with
    | some u => some (u, 2)
    | none =>
      match before.head?.bind unit? with
      | some u => some (u + 1, 0)
      | none =>
        if after = [] ∧ before.head? = some [' '] then
          (before[1]?.bind unit?).map fun u => (u + 1, 0)
        else none

def Found.readSeparated (f : Found) (t separator : Lexeme) (rest : List Lexeme) :
    Except Stop (Found × Nat) := do
  let triple ← f.triple.pushText t none
  match rest with
  | [] => .ok ({ f with triple }, 1)
  | second :: rest =>
    if isFiller second then .ok ({ f with triple }, 1)
    else
      let triple ←
        if Triple.allDigits second then triple.pushText second none
        else match month? second with
          | some m => triple.push m (some .month)
          | none => .error .noDate
      match rest with
      | s :: rest =>
        if s = separator then
          match rest with
          | third :: _ =>
            let triple ← match month? third with
              | some m => triple.push m (some .month)
              | none => triple.pushText third none
            .ok ({ f with triple }, 4)
          | [] => .error .noDate
        else .ok ({ f with triple }, 2)
      | [] => .ok ({ f with triple }, 2)

def Found.readClock (f : Found) (hour : Decimal) (minute : Lexeme) (rest : List Lexeme) :
    Except Stop (Found × Nat) := do
  let (m, s) ← minuteAndSecond (← amount? minute)
  let f := { f with hour := some (wholePart hour : Int), minute := some m, second := s }
  match rest with
  | [':'] :: second :: _ =>
    let (s, u) ← secondAndMicro second
    .ok ({ f with second := some s, micro := some u }, 4)
  | _ => .ok (f, 2)

def Found.isTimeNext (f : Found) (t : Lexeme) (after : List Lexeme) : Bool :=
  f.triple.values.length == 3 && (t.length == 2 || t.length == 4) && f.hour.isNone &&
    after.head?.all fun n => n != [':'] && (unit? n).isNone

def Found.readSix (f : Found) (t : Lexeme) : Except Stop Found := do
  if f.triple.values = [] ∧ !t.contains '.' then
    let triple ← f.triple.pushText (t.take 2) none
    let triple ← triple.pushText ((t.drop 2).take 2) none
    let triple ← triple.pushText (t.drop 4) none
    .ok { f with triple }
  else
    let h ← int? (t.take 2)
    let m ← int? ((t.drop 2).take 2)
    let (s, u) ← secondAndMicro (t.drop 4)
    .ok { f with hour := some h, minute := some m, second := some s, micro := some u }

def Found.readEight (f : Found) (t : Lexeme) : Except Stop Found := do
  let triple ← f.triple.pushText (t.take 4) (some .year)
  let triple ← triple.pushText ((t.drop 4).take 2) none
  let triple ← triple.pushText ((t.drop 6).take 2) none
  let f := { f with triple }
  if t.length ≤ 8 then .ok f
  else
    let h ← int? ((t.drop 8).take 2)
    let m ← int? ((t.drop 10).take 2)
    let f := { f with hour := some h, minute := some m }
    if t.length ≤ 12 then .ok f
    else .ok { f with second := some (← int? (t.drop 12)) }

def Found.readNumber (f : Found) (before : List Lexeme) (t : Lexeme) (d : Decimal)
    (after : List Lexeme) : Except Stop (Found × Nat) :=
  if f.isTimeNext t after then do
    let h ← int? (t.take 2)
    if t.length = 4 then
      .ok ({ f with hour := some h, minute := some (← int? (t.drop 2)) }, 0)
    else .ok ({ f with hour := some h }, 0)
  else if t.length = 6 ∨ (6 < t.length ∧ t.findIdx? (· = '.') = some 6) then
    (f.readSix t).map (·, 0)
  else if t.length = 8 ∨ t.length = 12 ∨ t.length = 14 then
    (f.readEight t).map (·, 0)
  else match unitNearby? before after with
    | some (unit, n) => (f.setUnit unit d t).map (·, n)
    | none =>
      match after with
      | [':'] :: minute :: rest => f.readClock d minute rest
      | [] => do .ok ({ f with triple := ← f.triple.pushDecimal d }, 1)
      | next :: rest =>
        if next = ['-'] ∨ next = ['/'] ∨ next = ['.'] then f.readSeparated t next rest
        else if isFiller next then
          match rest.head?.bind afternoon? with
          | some p => .ok ({ f with hour := some (toNoonHour (wholePart d) p) }, 2)
          | none => do .ok ({ f with triple := ← f.triple.pushDecimal d }, 1)
        else match afternoon? next with
          | some p =>
            if d.exact < 24 then .ok ({ f with hour := some (toNoonHour (wholePart d) p) }, 1)
            else if f.triple.couldBeDay d then do
              .ok ({ f with triple := ← f.triple.pushDecimal d }, 0)
            else .error .noDate
          | none =>
            if f.triple.couldBeDay d then do
              .ok ({ f with triple := ← f.triple.pushDecimal d }, 0)
            else .error .noDate

def Found.readMonth (f : Found) (thisYear : Int) (month : Nat) (after : List Lexeme) :
    Except Stop (Found × Nat) := do
  let triple ← f.triple.push month (some .month)
  match after with
  | separator :: rest =>
    if separator = ['-'] ∨ separator = ['/'] then
      match rest with
      | [] => .error .noDate
      | second :: rest =>
        let triple ← triple.pushText second none
        match rest with
        | s :: rest =>
          if s = separator then
            match rest with
            | third :: _ => .ok ({ f with triple := ← triple.pushText third none }, 4)
            | [] => .error .noDate
          else .ok ({ f with triple }, 2)
        | [] => .ok ({ f with triple }, 2)
    else
      match after with
      | [' '] :: of :: [' '] :: year :: _ =>
        if isOf of then
          if Triple.allDigits year then
            let y := inCentury thisYear (← int? year)
            .ok ({ f with triple := ← triple.pushText (Text.intDigits y) (some .year) }, 4)
          else .ok ({ f with triple }, 4)
        else .ok ({ f with triple }, 0)
      | _ => .ok ({ f with triple }, 0)
  | [] => .ok ({ f with triple }, 0)

def Found.couldBeZone (f : Found) (offset : Option Int) (t : Lexeme) : Bool :=
  f.hour.isSome && f.zone.isNone && offset.isNone && looksLikeZone t

def isSign (t : Lexeme) : Bool := t == ['+'] || t == ['-']

def Found.readZone (f : Found) (t : Lexeme) (after : List Lexeme) : Found :=
  if after.head?.any isSign then
    { f with zone := if isUniversal t then none else some t, offset := none, signReversed := true }
  else { f with zone := some t, offset := if t = ['z'] then some 0 else none }

def Found.readOffset (f : Found) (t : Lexeme) (after : List Lexeme) :
    Except Stop (Found × Nat) := do
  let east := (t == ['+']) != f.signReversed
  match after with
  | [] => .error .noDate
  | digits :: rest =>
    let (hours, minutes, n) ←
      if digits.length = 4 then do
        .ok (← int? (digits.take 2), ← int? (digits.drop 2), 1)
      else match rest with
        | [':'] :: minutes :: _ => do .ok (← int? digits, ← int? minutes, 3)
        | [[':']] => .error .noDate
        | _ => if digits.length ≤ 2 then do .ok (← int? digits, (0 : Int), 1) else .error .noDate
    let total := hours * 3600 + minutes * 60
    let f := { f with offset := some (if east then total else -total), signReversed := false }
    match after.drop n with
    | filler :: ['('] :: zone :: [')'] :: _ =>
      if isFiller filler ∧ 3 ≤ zone.length ∧ f.couldBeZone none zone then
        .ok ({ f with zone := some zone }, n + 4)
      else .ok (f, n)
    | _ => .ok (f, n)

def Found.read (f : Found) (thisYear : Int) (before : List Lexeme) (t : Lexeme)
    (after : List Lexeme) : Except Stop (Found × Nat) :=
  if isNumberWord t then .error .noDate
  else match Decimal.read? t with
  | some d => f.readNumber before t d after
  | none =>
    match weekday? t with
    | some w => .ok ({ f with weekday := some w }, 0)
    | none =>
      match month? t with
      | some m => f.readMonth thisYear m after
      | none =>
        match afternoon? t with
        | some p =>
          match f.hour with
          | some h =>
            if 0 ≤ h ∧ h ≤ 12 then
              .ok ({ f with hour := some (toNoonHour h p), halfDay := true }, 0)
            else .error .noDate
          | none => .error .noDate
        | none =>
          if f.couldBeZone f.offset t then .ok (f.readZone t after, 0)
          else if f.hour.isSome ∧ isSign t then f.readOffset t after
          else if isFiller t then .ok (f, 0)
          else .error .noDate

def Found.readFrom (thisYear : Int) : (skip : Nat) → (before : List Lexeme) → Found →
    List Lexeme → Except Stop Found
  | _, _, f, [] => .ok f
  | skip + 1, before, f, t :: r => f.readFrom thisYear skip (t :: before) r
  | 0, before, f, t :: r => do
    let (f, n) ← f.read thisYear before t r
    f.readFrom thisYear n (t :: before) r

def Found.knownOffset (f : Found) : Option Int :=
  match f.zone with
  | none => f.offset
  | some z => if isUniversal z then some 0 else f.offset

def Found.saysAnything (f : Found) (r : Triple.Resolved) : Bool :=
  r.year.isSome || r.month.isSome || r.day.isSome || f.weekday.isSome || f.hour.isSome ||
    f.minute.isSome || f.second.isSome || f.micro.isSome || f.zone.isSome || f.offset.isSome ||
    f.halfDay

/-- The day for a month if none is given: that of the clock, or the last one of a shorter month. -/
def clampedDay (now : Date) (year month : Int) : Int :=
  min now.day (Calendar.daysInMonth year.toNat month.toNat)

def toWeekday? (d : Date) (weekday : Nat) : Option Date :=
  d.addDays? ((7 - d.weekday + weekday) % 7 : Nat)

def isTellable (offset : Int) : Bool := (offset.fdiv 86400).natAbs ≤ 999999999

/-- The moment that has been found; what is not given is taken from midnight of the present day. -/
def Found.moment? (f : Found) (now : Date) : Except Stop DateTime := do
  let r ← f.triple.resolve
  let year ← match r.year with
    | none => .ok none
    | some y =>
      if f.triple.fullYear then .ok (some y)
      else if y < 0 then .error (.fault .yearBeforeCalendar)
      else .ok (some (inCentury now.year y))
  if !f.saysAnything r then .error .noDate
  let y := year.getD now.year
  let m := r.month.getD now.month
  let d := r.day.getD (clampedDay now y m)
  let t ← orStop (DateTime.of? y m d (f.hour.getD 0) (f.minute.getD 0) (f.second.getD 0)
    (f.micro.getD 0) none)
  let t ← match r.day, f.weekday with
    | none, some w => orStop ((toWeekday? t.date w).map fun d => { t with date := d })
    | _, _ => .ok t
  match f.knownOffset with
  | none => .ok t
  | some o => if isTellable o then .ok { t with offset := some o } else .error .noDate

def parse (now : Date) (s : List Char) : Except Fault (Option DateTime) :=
  let found : Except Stop DateTime := do
    let f ← ({} : Found).readFrom now.year 0 [] (lex s)
    f.moment? now
  match found with
  | .ok t => .ok (some t)
  | .error .noDate => .ok none
  | .error (.fault f) => .error f

end FormRules.FreeDate
