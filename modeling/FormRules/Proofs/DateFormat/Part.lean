import FormRules.Proofs.DateFormat.Cut
import Mathlib

namespace FormRules

inductive Component
  | year
  | month
  | day
  | hour
  | minute
  | second
  | micro
  deriving DecidableEq

def Component.default : Component → Nat
  | .year => 1900
  | .month | .day => 1
  | _ => 0

def DateTime.get (t : DateTime) : Component → Nat
  | .year => t.date.year
  | .month => t.date.month
  | .day => t.date.day
  | .hour => t.time.hour
  | .minute => t.time.minute
  | .second => t.time.second
  | .micro => t.time.micro

theorem Date.month_pos (d : Date) : 1 ≤ d.month := by
  have hzero : Calendar.daysInMonth d.year 0 = 0 := rfl
  have hle := d.day_le
  have hpos := d.day_pos
  apply Nat.pos_of_ne_zero
  intro h
  rw [h, hzero] at hle
  omega

theorem Date.month_le_twelve (d : Date) : d.month ≤ 12 := by
  by_contra h
  obtain ⟨n, hn⟩ : ∃ n, d.month = n + 13 := ⟨d.month - 13, by omega⟩
  have hle := d.day_le
  have hpos := d.day_pos
  rw [hn, show Calendar.daysInMonth d.year (n + 13) = 0 from rfl] at hle
  omega

theorem Date.day_le_thirtyOne (d : Date) : d.day ≤ 31 := by
  refine d.day_le.trans ?_
  unfold Calendar.daysInMonth
  split <;> (try split) <;> decide

theorem Calendar.le_daysInMonth {year month : Nat} (hpos : 1 ≤ month) (hle : month ≤ 12) :
    28 ≤ daysInMonth year month := by
  have hfebruary : 28 ≤ daysInMonth year 2 := by
    change 28 ≤ if isLeap year then 29 else 28
    split <;> decide
  interval_cases month
  all_goals first
    | exact hfebruary
    | exact (by decide : 28 ≤ 30)
    | exact (by decide : 28 ≤ 31)

theorem Date.of?_eq_some_iff {year month day : Int} {d : Date} :
    of? year month day = some d ↔
      (d.year : Int) = year ∧ (d.month : Int) = month ∧ (d.day : Int) = day := by
  constructor
  · intro h
    unfold of? at h
    split at h
    · next hvalid =>
        obtain rfl := Option.some.inj h
        have hmonth := Date.month_pos ⟨year.toNat, month.toNat, day.toNat, hvalid.1.1, hvalid.1.2,
          hvalid.2.1, hvalid.2.2⟩
        simp only at hmonth ⊢
        omega
    · cases h
  · rintro ⟨rfl, rfl, rfl⟩
    unfold of?
    rw [dif_pos ⟨⟨d.year_pos, d.year_le⟩, d.day_pos, d.day_le⟩]
    rfl

theorem TimeOfDay.of?_eq_some_iff {hour minute second micro : Int} {t : TimeOfDay} :
    of? hour minute second micro = some t ↔
      (t.hour : Int) = hour ∧ (t.minute : Int) = minute ∧ (t.second : Int) = second ∧
        (t.micro : Int) = micro := by
  constructor
  · intro h
    unfold of? at h
    split at h
    · next hvalid =>
        obtain rfl := Option.some.inj h
        simp only
        omega
    · cases h
  · rintro ⟨rfl, rfl, rfl, rfl⟩
    unfold of?
    rw [dif_pos ⟨by omega, t.hour_lt, t.minute_lt, t.second_lt, t.micro_lt⟩]
    rfl

theorem DateTime.of?_eq_some_iff {year month day hour minute second micro : Int}
    {offset : Option Int} {t : DateTime} :
    of? year month day hour minute second micro offset = some t ↔
      t.offset = offset ∧
        ((t.get .year : Int) = year ∧ (t.get .month : Int) = month ∧ (t.get .day : Int) = day) ∧
        (t.get .hour : Int) = hour ∧ (t.get .minute : Int) = minute ∧
        (t.get .second : Int) = second ∧ (t.get .micro : Int) = micro := by
  obtain ⟨d, u, o⟩ := t
  simp only [of?, Option.bind_eq_bind, Option.bind_eq_some_iff, Option.some.injEq, get, mk.injEq]
  constructor
  · rintro ⟨d', hd, u', hu, rfl, rfl, rfl⟩
    exact ⟨rfl, Date.of?_eq_some_iff.mp hd, TimeOfDay.of?_eq_some_iff.mp hu⟩
  · rintro ⟨rfl, hd, hu⟩
    exact ⟨d, Date.of?_eq_some_iff.mpr hd, u, TimeOfDay.of?_eq_some_iff.mpr hu, rfl, rfl, rfl⟩

namespace DateFormat

def Directive.component? : Directive → Option Component
  | .year | .shortYear => some .year
  | .monthName | .shortMonthName | .month => some .month
  | .day => some .day
  | .hour | .halfDayHour => some .hour
  | .minute => some .minute
  | .second => some .second
  | .fraction => some .micro
  | .halfDay => none

def amount? (mark : List Char) : Directive × List Char → Option Int
  | (.shortYear, s) => some (fullYear (Text.digitsValue s))
  | (.monthName, s) => nameIndex? monthNames s
  | (.shortMonthName, s) => nameIndex? shortMonthNames s
  | (.halfDayHour, s) => some (hourOfDay (Text.digitsValue s) mark)
  | (.fraction, s) => some (Text.digitsValue (s ++ List.replicate (6 - s.length) '0'))
  | (.halfDay, _) => none
  | (_, s) => some (Text.digitsValue s)

namespace Parts

def mark (parts : Parts) : List Char :=
  ((parts.find? (·.1 == .halfDay)).map fun p => p.2.map Text.asciiLower).getD []

def last? (k : Component) (parts : Parts) : Option (Directive × List Char) :=
  parts.reverse.find? (·.1.component? == some k)

def value? (parts : Parts) (k : Component) : Option Int :=
  match parts.last? k with
  | some p => amount? parts.mark p
  | none => some k.default

end Parts

namespace Fields

def get (f : Fields) : Component → Int
  | .year => f.year
  | .month => f.month
  | .day => f.day
  | .hour => f.hour
  | .minute => f.minute
  | .second => f.second
  | .micro => f.micro

def put (f : Fields) (n : Int) : Component → Fields
  | .year => { f with year := n }
  | .month => { f with month := n }
  | .day => { f with day := n }
  | .hour => { f with hour := n }
  | .minute => { f with minute := n }
  | .second => { f with second := n }
  | .micro => { f with micro := n }

theorem get_put (f : Fields) (n : Int) (j k : Component) :
    (f.put n j).get k = if j = k then n else f.get k := by
  cases j <;> cases k <;> rfl

theorem set?_eq (f : Fields) (mark : List Char) (p : Directive × List Char) :
    f.set? mark p =
      match p.1.component? with
      | none => some f
      | some k => (amount? mark p).map fun n => f.put n k := by
  obtain ⟨d, s⟩ := p
  cases d <;> rfl

end Fields

def Spells (mark : List Char) (p : Directive × List Char) : Prop :=
  p.1.component? ≠ none → (amount? mark p).isSome = true

namespace Parts

theorem last?_cons (k : Component) (p : Directive × List Char) (parts : Parts) :
    last? k (p :: parts) =
      (last? k parts).or (if p.1.component? = some k then some p else none) := by
  simp [last?, List.find?_append, List.find?_cons]
  split <;> simp_all

theorem foldlM_isSome_iff {mark : List Char} {parts : Parts} {f : Fields} :
    (parts.foldlM (fun (f : Fields) p => f.set? mark p) f).isSome = true ↔
      ∀ p ∈ parts, Spells mark p := by
  induction parts generalizing f with
  | nil => simp
  | cons p parts ih =>
    rw [List.foldlM_cons, Fields.set?_eq, List.forall_mem_cons]
    cases hk : p.1.component? with
    | none => simpa [Spells, hk] using ih
    | some k =>
      cases ha : amount? mark p with
      | none => simp [Spells, hk, ha]
      | some n => simpa [Spells, hk, ha] using ih

theorem get_of_foldlM {mark : List Char} {parts : Parts} {f g : Fields}
    (h : parts.foldlM (fun (f : Fields) p => f.set? mark p) f = some g) (k : Component) :
    (match parts.last? k with
      | some p => amount? mark p
      | none => some (f.get k)) = some (g.get k) := by
  induction parts generalizing f with
  | nil =>
    obtain rfl : f = g := by simpa using h
    rfl
  | cons p parts ih =>
    rw [List.foldlM_cons, Fields.set?_eq] at h
    rw [last?_cons]
    cases hk : p.1.component? with
    | none =>
      rw [hk] at h
      simpa using ih h
    | some j =>
      cases ha : amount? mark p with
      | none => simp [hk, ha] at h
      | some n =>
        have h := ih (f := f.put n j) (by simpa [hk, ha] using h)
        rw [Fields.get_put] at h
        by_cases hjk : j = k
        · cases hlast : last? k parts <;> simp_all
        · cases hlast : last? k parts <;> simp_all

theorem value?_of_foldlM {parts : Parts} {g : Fields}
    (h : parts.foldlM (fun (f : Fields) p => f.set? parts.mark p) {} = some g) (k : Component) :
    parts.value? k = some (g.get k) := by
  rw [← get_of_foldlM h k]
  unfold value?
  cases last? k parts <;> cases k <;> rfl

theorem last?_eq_none_iff {k : Component} {parts : Parts} :
    last? k parts = none ↔ ∀ p ∈ parts, p.1.component? ≠ some k := by
  simp [last?]

theorem mem_of_last? {k : Component} {parts : Parts} {p : Directive × List Char}
    (h : last? k parts = some p) : p ∈ parts ∧ p.1.component? = some k := by
  have hmem := List.mem_of_find?_eq_some h
  have hk := List.find?_some h
  exact ⟨by simpa using hmem, by simpa using hk⟩

def components (parts : Parts) : List Component :=
  (parts.map Prod.fst).filterMap Directive.component?

theorem last?_eq_of_mem {k : Component} {parts : Parts} {p : Directive × List Char}
    (hnodup : (components parts).Nodup) (hp : p ∈ parts) (hk : p.1.component? = some k) :
    last? k parts = some p := by
  induction parts with
  | nil => cases hp
  | cons q parts ih =>
    have hrest : (components parts).Nodup := by
      unfold components at hnodup ⊢
      rw [List.map_cons, List.filterMap_cons] at hnodup
      split at hnodup
      · exact hnodup
      · exact (List.nodup_cons.mp hnodup).2
    rw [last?_cons]
    rcases List.mem_cons.mp hp with rfl | hp
    · have hnone : last? k parts = none := by
        rw [last?_eq_none_iff]
        intro q hq hqk
        rw [components, List.map_cons, List.filterMap_cons_some hk, List.nodup_cons] at hnodup
        exact hnodup.1 (List.mem_filterMap.mpr ⟨q.1, List.mem_map_of_mem hq, hqk⟩)
      simp [hnone, hk]
    · simp [ih hrest hp]

theorem mark_eq_of_mem {parts : Parts} {u : List Char} (hnodup : (parts.map Prod.fst).Nodup)
    (hu : (.halfDay, u) ∈ parts) : parts.mark = u.map Text.asciiLower := by
  unfold mark
  obtain ⟨q, hq⟩ := Option.isSome_iff_exists.mp
    (List.find?_isSome.mpr ⟨_, hu, by simp⟩ : (parts.find? (·.1 == .halfDay)).isSome = true)
  have hmem := List.mem_of_find?_eq_some hq
  have hfst : q.1 = .halfDay := by simpa using List.find?_some hq
  obtain rfl := List.inj_on_of_nodup_map hnodup hmem hu hfst
  simp [hq]

end Parts

theorem moment?_eq (parts : Parts) :
    moment? parts = (parts.foldlM (fun (f : Fields) p => f.set? parts.mark p) {}).bind fun f =>
      DateTime.of? f.year f.month f.day f.hour f.minute f.second f.micro none := rfl

theorem moment?_eq_some_iff {parts : Parts} {t : DateTime} :
    moment? parts = some t ↔
      (∀ p ∈ parts, Spells parts.mark p) ∧ t.offset = none ∧
        ∀ k, parts.value? k = some (t.get k : Int) := by
  rw [← Parts.foldlM_isSome_iff (f := {}), moment?_eq]
  cases hfold : parts.foldlM (fun (f : Fields) p => f.set? parts.mark p) {} with
  | none => simp
  | some g =>
    simp only [Option.bind_some, DateTime.of?_eq_some_iff, Parts.value?_of_foldlM hfold,
      Option.some.injEq, Option.isSome_some, true_and]
    constructor
    · rintro ⟨hoffset, ⟨hy, hm, hd⟩, hh, hmin, hs, hmicro⟩
      refine ⟨hoffset, fun k => ?_⟩
      cases k <;> symm <;> assumption
    · rintro ⟨hoffset, h⟩
      exact ⟨hoffset, ⟨(h .year).symm, (h .month).symm, (h .day).symm⟩, (h .hour).symm,
        (h .minute).symm, (h .second).symm, (h .micro).symm⟩

theorem digitsValue_cons_blank (t : List Char) :
    Text.digitsValue (' ' :: t) = Text.digitsValue t := by
  have hblank : Text.digit? ' ' = none := by decide
  simp [Text.digitsValue, hblank]

end DateFormat

end FormRules
