import FormRules.Calendar.Iso
import FormRules.Proofs.DateFormat.Part
import FormRules.Proofs.Number.Grammar

namespace FormRules

namespace Date

def isoText (d : Date) : String := String.ofList d.chars

end Date

namespace DateTime

def isoText (t : DateTime) : String := String.ofList (t.chars 'T')

def HasMinuteOffset (t : DateTime) : Prop :=
  ∀ offset ∈ t.offset, offset % 60 = 0 ∧ offset.natAbs < 86400

def zoneChars (offset : Option Int) : List Char := (offset.map offsetChars).getD []

def fractionChars (micro : Nat) : List Char :=
  if micro = 0 then [] else '.' :: Text.padded 6 micro

theorem chars_eq (separator : Char) (t : DateTime) :
    t.chars separator = t.date.chars ++ separator :: (Text.padded 2 t.time.hour ++
      ':' :: (Text.padded 2 t.time.minute ++ ':' :: (Text.padded 2 t.time.second ++
        (fractionChars t.time.micro ++ zoneChars t.offset)))) := by
  simp only [chars, fractionChars, zoneChars, List.append_assoc, List.cons_append]

end DateTime

namespace Iso

/-! ## Numbers -/

theorem not_isAsciiBlank {c : Char} (h : Text.isAsciiDigit c = true) : ¬isAsciiBlank c = true := by
  obtain ⟨hlo, hhi⟩ := Text.isAsciiDigit_iff.mp h
  simp only [isAsciiBlank, Bool.or_eq_true, beq_iff_eq, Bool.and_eq_true, decide_eq_true_eq,
    not_or, not_and]
  refine ⟨fun hblank => ?_, fun _ hle => ?_⟩
  · rw [hblank] at hlo
    exact absurd hlo (by decide)
  · have hle : c.toNat ≤ 13 := hle
    omega

theorem dropWhile_isAsciiBlank {s : List Char} (h : ∀ c ∈ s, Text.isAsciiDigit c = true) :
    s.dropWhile isAsciiBlank = s := by
  cases s with
  | nil => rfl
  | cons c s => rw [List.dropWhile_cons_of_neg (not_isAsciiBlank (h c List.mem_cons_self))]

theorem number?_of_digits {s : List Char} (hne : s ≠ [])
    (h : ∀ c ∈ s, Text.isAsciiDigit c = true) (hlength : s.length ≤ 4300) :
    number? s = some (Text.digitsValue s : Int) := by
  have hdigits : Digits s :=
    ⟨hne, fun c hc => by simp [Text.isDigit, Text.digit?_of_isAsciiDigit (h c hc)]⟩
  have hreverse : ∀ c ∈ s.reverse, Text.isAsciiDigit c = true := fun c hc =>
    h c (List.mem_reverse.mp hc)
  rw [number?, dropWhile_isAsciiBlank h, dropWhile_isAsciiBlank hreverse, List.reverse_reverse,
    Integer.read?_eq_some_iff]
  have hsigned : Signed (Text.join '_' [s]) false s := by simpa [Text.join] using .bare
  have hwritten := Integer.Written.intro (by simp) (by simpa using hdigits)
    (by simpa using hlength) hsigned
  simpa using hwritten

theorem number?_take_padded {w n : Nat} (hw : 0 < w) (hle : w ≤ 4) (hn : n < 10 ^ w)
    (r : List Char) :
    number? ((Text.padded w n ++ r).take w) = some (n : Int) ∧
      (Text.padded w n ++ r).drop w = r ∧ w ≤ (Text.padded w n ++ r).length := by
  have hlength : (Text.padded w n).length = w := Text.length_padded hw hn
  have hne : Text.padded w n ≠ [] := List.ne_nil_of_length_pos (by omega)
  refine ⟨?_, List.drop_left' hlength, by rw [List.length_append]; omega⟩
  rw [List.take_left' hlength, number?_of_digits hne (fun c => Text.isAsciiDigit_of_mem_padded)
    (by omega), Text.digitsValue_padded hw hn]

theorem number?_take_two {n : Nat} (hn : n < 100) (r : List Char) :
    number? ((Text.padded 2 n ++ r).take 2) = some (n : Int) ∧
      (Text.padded 2 n ++ r).drop 2 = r ∧ 2 ≤ (Text.padded 2 n ++ r).length :=
  number?_take_padded (by decide) (by decide) hn r

/-! ## Dates -/

theorem calendarDate?_chars (d : Date) (r : List Char) :
    calendarDate? (d.chars ++ r) = some (((d.year : Int), (d.month : Int), (d.day : Int)), r) := by
  obtain ⟨hyear, hrest, hlength⟩ := number?_take_padded (w := 4) (n := d.year) (by decide)
    (by decide) (Nat.lt_succ_of_le d.year_le)
    ('-' :: (Text.padded 2 d.month ++ '-' :: (Text.padded 2 d.day ++ r)))
  obtain ⟨hmonth, hrest', hlength'⟩ := number?_take_two (n := d.month)
    (by have := d.month_le_twelve; omega) ('-' :: (Text.padded 2 d.day ++ r))
  obtain ⟨hday, hrest'', hlength''⟩ := number?_take_two (n := d.day)
    (by have := d.day_le_thirtyOne; omega) r
  have hchars : d.chars ++ r = Text.padded 4 d.year ++
      '-' :: (Text.padded 2 d.month ++ '-' :: (Text.padded 2 d.day ++ r)) := by
    simp only [Date.chars, List.append_assoc, List.cons_append]
  rw [hchars, calendarDate?, if_neg (by omega)]
  simp only [hyear, hrest, Option.bind_eq_bind, Option.bind_some]
  rw [if_neg (by omega)]
  simp only [hmonth, hrest', Option.bind_some]
  rw [if_neg (by omega)]
  simp only [hday, hrest'', Option.bind_some]

/-! ## Offsets -/

theorem offset?_of_sign {c : Char} {sign hours minutes : Int} {r m : List Char}
    (hsign : c = '-' ∧ sign = -1 ∨ c = '+' ∧ sign = 1) (hlength : r.length = 5)
    (hhours : number? (r.take 2) = some hours) (hrest : r.drop 2 = ':' :: m)
    (hminutes : number? m = some minutes) (hhoursLe : hours ≤ 23) (hminutesLe : minutes ≤ 59) :
    offset? (c :: r) = some (sign * (hours * 60 + minutes) * 60) := by
  have hlimit : ¬(59 < minutes ∨ 23 < hours) := by omega
  rcases hsign with ⟨rfl, rfl⟩ | ⟨rfl, rfl⟩
  all_goals
    simp [offset?, hlength, hhours, hrest, hminutes, hlimit]
    intro hnoHours hnoMinutes
    omega

theorem offset?_offsetChars {offset : Int} (hminutes : offset % 60 = 0)
    (hday : offset.natAbs < 86400) : offset? (DateTime.offsetChars offset) = some offset := by
  obtain ⟨hhours, hrest, -⟩ := number?_take_two (n := offset.natAbs / 3600) (by omega)
    (':' :: Text.padded 2 (offset.natAbs / 60 % 60))
  have hminute := (number?_take_two (n := offset.natAbs / 60 % 60) (by omega) []).1
  have hlength : ∀ n < 100, (Text.padded 2 n).length = 2 := fun n hn =>
    Text.length_padded (by decide) hn
  rw [List.append_nil, List.take_of_length_le (hlength _ (by omega)).le] at hminute
  have hchars : DateTime.offsetChars offset = (if offset < 0 then '-' else '+') ::
      (Text.padded 2 (offset.natAbs / 3600) ++ ':' :: Text.padded 2 (offset.natAbs / 60 % 60)) := by
    simp only [DateTime.offsetChars, if_pos (show offset.natAbs % 60 = 0 by omega),
      List.append_nil, List.cons_append]
  have hsign : (if offset < 0 then '-' else '+') = '-' ∧
        (if offset < 0 then (-1 : Int) else 1) = -1 ∨
      (if offset < 0 then '-' else '+') = '+' ∧ (if offset < 0 then (-1 : Int) else 1) = 1 := by
    split <;> simp
  have hfive : (Text.padded 2 (offset.natAbs / 3600) ++
      ':' :: Text.padded 2 (offset.natAbs / 60 % 60)).length = 5 := by
    rw [List.length_append, List.length_cons, hlength _ (by omega), hlength _ (by omega)]
  rw [hchars, offset?_of_sign hsign hfive hhours hrest hminute (by omega) (by omega),
    Option.some.injEq]
  split <;> omega

theorem startsOffset_offsetChars (offset : Int) :
    startsOffset (DateTime.offsetChars offset) = true := by
  simp only [DateTime.offsetChars, List.cons_append, startsOffset]
  split <;> rfl

/-! ## Times -/

theorem startsOffset_digits {s : List Char} (h : ∀ c ∈ s, Text.isAsciiDigit c = true)
    (hne : s ≠ []) (r : List Char) : startsOffset (s ++ r) = false := by
  obtain ⟨c, s, rfl⟩ := List.exists_cons_of_ne_nil hne
  have hc := h c List.mem_cons_self
  rw [Bool.eq_false_iff]
  intro hstarts
  simp only [List.cons_append, startsOffset, Bool.or_eq_true, beq_iff_eq] at hstarts
  rcases hstarts with ((rfl | rfl) | rfl) | rfl <;> exact absurd hc (by decide)

theorem startsOffset_padded {n : Nat} (hn : n < 100) (r : List Char) :
    startsOffset (Text.padded 2 n ++ r) = false := by
  have hlength : (Text.padded 2 n).length = 2 := Text.length_padded (by decide) hn
  refine startsOffset_digits (fun c => Text.isAsciiDigit_of_mem_padded) ?_ r
  exact List.ne_nil_of_length_pos (by omega)

section Zone

variable {offset : Option Int}

theorem isSign_of_mem_head? : ∀ c ∈ (DateTime.zoneChars offset).head?, c = '-' ∨ c = '+' := by
  cases offset with
  | none => exact nofun
  | some o =>
    intro c hc
    simp only [DateTime.zoneChars, Option.map_some, Option.getD_some, DateTime.offsetChars,
      List.cons_append, List.head?_cons, Option.mem_some_iff] at hc
    split at hc
    · exact .inl hc.symm
    · exact .inr hc.symm

theorem fraction?_zoneChars : fraction? (DateTime.zoneChars offset) = none := by
  cases hzone : DateTime.zoneChars offset with
  | nil => rfl
  | cons c r =>
    have hsign : c = '-' ∨ c = '+' := isSign_of_mem_head? c (by rw [hzone]; rfl)
    have hno : ¬((c = '.' ∨ c = ',') ∧ r.takeWhile Text.isAsciiDigit ≠ []) := by
      rintro ⟨hpoint, -⟩
      rcases hsign with rfl | rfl <;> exact absurd hpoint (by decide)
    exact if_neg hno

theorem span_zoneChars : (DateTime.zoneChars offset).takeWhile Text.isAsciiDigit = [] ∧
    (DateTime.zoneChars offset).dropWhile Text.isAsciiDigit = DateTime.zoneChars offset := by
  cases hzone : DateTime.zoneChars offset with
  | nil => exact ⟨rfl, rfl⟩
  | cons c r =>
    have hsign : c = '-' ∨ c = '+' := isSign_of_mem_head? c (by rw [hzone]; rfl)
    have hno : ¬Text.isAsciiDigit c = true := by rcases hsign with rfl | rfl <;> decide
    exact ⟨List.takeWhile_cons_of_neg hno, List.dropWhile_cons_of_neg hno⟩

theorem fraction?_padded {micro : Nat} (hmicro : micro < 1000000) :
    fraction? ('.' :: (Text.padded 6 micro ++ DateTime.zoneChars offset)) =
      some ((micro : Int), DateTime.zoneChars offset) := by
  have hlength : (Text.padded 6 micro).length = 6 := Text.length_padded (by decide) hmicro
  have hdigits : ∀ c ∈ Text.padded 6 micro, Text.isAsciiDigit c = true := fun c =>
    Text.isAsciiDigit_of_mem_padded
  have hne : Text.padded 6 micro ≠ [] := List.ne_nil_of_length_pos (by omega)
  simp only [fraction?, List.takeWhile_append_of_pos hdigits, List.dropWhile_append_of_pos hdigits,
    span_zoneChars, List.append_nil, List.take_of_length_le hlength.le, hlength, Nat.sub_self,
    List.replicate_zero, Text.digitsValue_padded (w := 6) (by decide) hmicro]
  exact if_pos ⟨.inl trivial, hne⟩

variable (hoffset : ∀ o ∈ offset, o % 60 = 0 ∧ o.natAbs < 86400)

include hoffset

theorem readZone (t : Time) (ht : t.offset = none) :
    (if DateTime.zoneChars offset = [] then some t
      else if startsOffset (DateTime.zoneChars offset) then
        (offset? (DateTime.zoneChars offset)).map fun o => { t with offset := some o }
      else none) = some { t with offset := offset } := by
  cases offset with
  | none =>
    obtain ⟨hour, minute, second, micro, o⟩ := t
    obtain rfl : o = none := ht
    rfl
  | some o =>
    obtain ⟨hminutes, hday⟩ := hoffset o rfl
    have hchars : DateTime.zoneChars (some o) = DateTime.offsetChars o := rfl
    have hne : DateTime.offsetChars o ≠ [] := by simp [DateTime.offsetChars]
    rw [hchars, if_neg hne, startsOffset_offsetChars, if_pos rfl,
      offset?_offsetChars hminutes hday, Option.map_some]

theorem afterSecond?_chars {micro : Nat} (hmicro : micro < 1000000) (hour minute second : Int) :
    afterSecond? ⟨hour, minute, second, 0, none⟩
        (DateTime.fractionChars micro ++ DateTime.zoneChars offset) =
      some ⟨hour, minute, second, micro, offset⟩ := by
  by_cases hnone : micro = 0
  · rw [DateTime.fractionChars, if_pos hnone, List.nil_append, afterSecond?, fraction?_zoneChars,
      hnone]
    exact readZone hoffset _ rfl
  · rw [DateTime.fractionChars, if_neg hnone, List.cons_append, afterSecond?,
      fraction?_padded hmicro]
    exact readZone hoffset _ rfl

theorem time?_chars (u : TimeOfDay) :
    time? (Text.padded 2 u.hour ++ ':' :: (Text.padded 2 u.minute ++
        ':' :: (Text.padded 2 u.second ++
          (DateTime.fractionChars u.micro ++ DateTime.zoneChars offset)))) =
      some ⟨u.hour, u.minute, u.second, u.micro, offset⟩ := by
  have hhour24 := u.hour_lt
  have hminute60 := u.minute_lt
  have hsecond60 := u.second_lt
  generalize hs : DateTime.fractionChars u.micro ++ DateTime.zoneChars offset = s
  obtain ⟨hsecond, hrest'', -⟩ := number?_take_two (n := u.second) (by omega) s
  obtain ⟨hminute, hrest', -⟩ := number?_take_two (n := u.minute) (by omega)
    (':' :: (Text.padded 2 u.second ++ s))
  obtain ⟨hhour, hrest, hlength⟩ := number?_take_two (n := u.hour) (by omega)
    (':' :: (Text.padded 2 u.minute ++ ':' :: (Text.padded 2 u.second ++ s)))
  have hlast : afterSecond? ⟨u.hour, u.minute, u.second, 0, none⟩ s =
      some ⟨u.hour, u.minute, u.second, u.micro, offset⟩ := by
    rw [← hs]
    exact afterSecond?_chars hoffset u.micro_lt _ _ _
  have hcolon : ∀ r : List Char, startsOffset (':' :: r) = false := fun _ => rfl
  rw [time?, if_neg (by omega)]
  simp only [startsOffset_padded (show u.hour < 100 by omega), Bool.false_eq_true, if_false, hhour,
    hrest, afterHour?, hcolon, reduceCtorEq, hminute, hrest', afterMinute?, hsecond, hrest'', hlast,
    Option.bind_eq_bind, Option.bind_some]
  exact if_neg (by omega)

end Zone

/-! ## Dates and moments -/

theorem all_isAscii_padded (w n : Nat) : (Text.padded w n).all isAscii = true := by
  rw [List.all_eq_true]
  intro c hc
  have hdigit := Text.isAsciiDigit_iff.mp (Text.isAsciiDigit_of_mem_padded hc)
  simp only [isAscii, decide_eq_true_eq]
  omega

theorem all_isAscii_date (d : Date) : d.chars.all isAscii = true := by
  simp only [Date.chars, List.all_append, List.all_cons, all_isAscii_padded]
  decide

theorem all_isAscii_offsetChars (offset : Int) :
    (DateTime.offsetChars offset).all isAscii = true := by
  have hsign : isAscii (if offset < 0 then '-' else '+') = true := by split <;> decide
  have hcolon : isAscii ':' = true := by decide
  simp only [DateTime.offsetChars, List.all_append, List.all_cons, all_isAscii_padded, hsign,
    hcolon]
  split
  · rfl
  · simp only [List.all_cons, all_isAscii_padded, hcolon, Bool.and_self]

theorem all_isAscii_chars {separator : Char} (hseparator : isAscii separator = true)
    (t : DateTime) : (t.chars separator).all isAscii = true := by
  have hcolon : isAscii ':' = true := by decide
  have hpoint : isAscii '.' = true := by decide
  have hfraction : (DateTime.fractionChars t.time.micro).all isAscii = true := by
    rw [DateTime.fractionChars]
    split
    · rfl
    · simp only [List.all_cons, all_isAscii_padded, hpoint, Bool.and_self]
  have hzone : (DateTime.zoneChars t.offset).all isAscii = true := by
    cases t.offset with
    | none => rfl
    | some o => exact all_isAscii_offsetChars o
  simp only [DateTime.chars_eq, List.all_append, List.all_cons, all_isAscii_padded,
    all_isAscii_date, hseparator, hcolon, hfraction, hzone, Bool.and_self]

theorem combine?_eq_some (t : DateTime) :
    combine? ((t.date.year : Int), (t.date.month : Int), (t.date.day : Int))
      ⟨t.time.hour, t.time.minute, t.time.second, t.time.micro, t.offset⟩ = some t := by
  have hhour := t.time.hour_lt
  have hfields : DateTime.of? t.date.year t.date.month t.date.day t.time.hour t.time.minute
      t.time.second t.time.micro t.offset = some t :=
    DateTime.of?_eq_some_iff.mpr ⟨rfl, ⟨rfl, rfl, rfl⟩, rfl, rfl, rfl, rfl⟩
  rw [combine?]
  simp only [hfields]
  exact if_neg (by omega)

theorem parse?_date (d : Date) : parse? d.chars = some (.ofDate d) := by
  have hdate := calendarDate?_chars d []
  rw [List.append_nil] at hdate
  rw [parse?, all_isAscii_date, hdate]
  exact combine?_eq_some (.ofDate d)

theorem parse?_chars {separator : Char} (hseparator : isAscii separator = true) {t : DateTime}
    (ht : t.HasMinuteOffset) : parse? (t.chars separator) = some t := by
  rw [parse?, all_isAscii_chars hseparator, DateTime.chars_eq, calendarDate?_chars]
  simp only [Bool.not_true, Bool.false_eq_true, if_false, Option.orElse_some, Option.bind_eq_bind,
    Option.bind_some, time?_chars ht]
  exact combine?_eq_some t

end Iso

end FormRules
