import FormRules.Proofs.DateFormat.Part

/-! Time counted one microsecond after another. The calendar says which reading of a clock on the
wall follows which; the number that a moment is compared by tells how many steps these are, whatever
months, leap years and ends of the calendar lie between. So the order of the numbers is that of the
fields of the readings, as long as both are at the same offset. -/

namespace FormRules

/-! ## Days of years and months -/

namespace Calendar

theorem isLeap_iff {year : Nat} :
    isLeap year = true ↔ year % 4 = 0 ∧ (year % 100 ≠ 0 ∨ year % 400 = 0) := by
  simp [isLeap]

theorem daysBeforeYear_succ {year : Nat} (h : 1 ≤ year) :
    daysBeforeYear (year + 1) = daysBeforeYear year + daysInYear year := by
  obtain ⟨y, rfl⟩ : ∃ y, year = y + 1 := ⟨year - 1, by omega⟩
  have hfour : (y + 1) / 4 = y / 4 + if (y + 1) % 4 = 0 then 1 else 0 := by split <;> omega
  have hhundred : (y + 1) / 100 = y / 100 + if (y + 1) % 100 = 0 then 1 else 0 := by
    split <;> omega
  have hfourHundred : (y + 1) / 400 = y / 400 + if (y + 1) % 400 = 0 then 1 else 0 := by
    split <;> omega
  have hle : y / 100 ≤ y / 4 := by omega
  simp only [daysBeforeYear, daysInYear, Nat.add_sub_cancel, isLeap_iff, hfour, hhundred,
    hfourHundred]
  by_cases h400 : (y + 1) % 400 = 0
  · have h100 : (y + 1) % 100 = 0 := by omega
    have h4 : (y + 1) % 4 = 0 := by omega
    simp only [h4, h100, h400, if_true, or_true, and_self]
    omega
  by_cases h100 : (y + 1) % 100 = 0
  · have h4 : (y + 1) % 4 = 0 := by omega
    simp only [h4, h100, h400, if_true, if_false, ne_eq, not_true, or_self, and_false]
    omega
  by_cases h4 : (y + 1) % 4 = 0
  · simp only [h4, h100, h400, if_true, if_false, ne_eq, not_false_iff, or_false, and_self]
    omega
  · simp only [h4, h100, h400, if_false, false_and]
    omega

theorem daysBeforeYear_mono {year year' : Nat} (hpos : 1 ≤ year) (h : year ≤ year') :
    daysBeforeYear year ≤ daysBeforeYear year' := by
  induction year', h using Nat.le_induction with
  | base => exact le_rfl
  | succ y hy ih =>
    rw [daysBeforeYear_succ (hpos.trans hy)]
    omega

theorem daysBeforeMonth_succ {year month : Nat} (h : 1 ≤ month) :
    daysBeforeMonth year (month + 1) = daysBeforeMonth year month + daysInMonth year month := by
  obtain ⟨m, rfl⟩ : ∃ m, month = m + 1 := ⟨month - 1, by omega⟩
  simp only [daysBeforeMonth, Nat.add_sub_cancel, List.range_succ, List.foldl_append,
    List.foldl_cons, List.foldl_nil]

theorem daysBeforeMonth_mono {year month month' : Nat} (hpos : 1 ≤ month) (h : month ≤ month') :
    daysBeforeMonth year month ≤ daysBeforeMonth year month' := by
  induction month', h using Nat.le_induction with
  | base => exact le_rfl
  | succ m hm ih =>
    rw [daysBeforeMonth_succ (hpos.trans hm)]
    omega

theorem daysBeforeMonth_thirteen (year : Nat) : daysBeforeMonth year 13 = daysInYear year := by
  simp only [daysBeforeMonth, daysInYear, List.range, List.range.loop, List.foldl_cons,
    List.foldl_nil, daysInMonth]
  split <;> rfl

end Calendar

open Calendar

/-! ## Dates -/

namespace Date

variable {d e : Date}

theorem daysBeforeYear_lt_ordinal (d : Date) : daysBeforeYear d.year < d.ordinal := by
  have hpos := d.day_pos
  unfold ordinal
  omega

theorem ordinal_le_daysBeforeMonth (d : Date) :
    d.ordinal ≤ daysBeforeYear d.year + daysBeforeMonth d.year (d.month + 1) := by
  have hle := d.day_le
  rw [daysBeforeMonth_succ d.month_pos, ordinal]
  omega

theorem ordinal_le_daysBeforeYear (d : Date) : d.ordinal ≤ daysBeforeYear (d.year + 1) := by
  have hmonth : daysBeforeMonth d.year (d.month + 1) ≤ daysBeforeMonth d.year 13 :=
    daysBeforeMonth_mono (Nat.le_add_left 1 d.month) (Nat.succ_le_succ d.month_le_twelve)
  rw [daysBeforeMonth_thirteen] at hmonth
  rw [daysBeforeYear_succ d.year_pos]
  exact d.ordinal_le_daysBeforeMonth.trans (Nat.add_le_add_left hmonth _)

def Before (d e : Date) : Prop :=
  d.year < e.year ∨ d.year = e.year ∧ (d.month < e.month ∨ d.month = e.month ∧ d.day < e.day)

theorem Before.ordinal_lt (h : d.Before e) : d.ordinal < e.ordinal := by
  rcases h with hyear | ⟨hyear, hmonth | ⟨hmonth, hday⟩⟩
  · calc
      d.ordinal ≤ daysBeforeYear (d.year + 1) := d.ordinal_le_daysBeforeYear
      _ ≤ daysBeforeYear e.year := daysBeforeYear_mono (Nat.le_add_left 1 _) hyear
      _ < e.ordinal := e.daysBeforeYear_lt_ordinal
  · have hpos := e.day_pos
    calc
      d.ordinal ≤ daysBeforeYear d.year + daysBeforeMonth d.year (d.month + 1) :=
        d.ordinal_le_daysBeforeMonth
      _ ≤ daysBeforeYear d.year + daysBeforeMonth d.year e.month :=
        Nat.add_le_add_left (daysBeforeMonth_mono (Nat.le_add_left 1 _) hmonth) _
      _ < e.ordinal := by
        rw [ordinal, hyear]
        omega
  · rw [ordinal, ordinal, hyear, hmonth]
    omega

theorem before_trichotomy (d e : Date) : d.Before e ∨ d = e ∨ e.Before d := by
  rcases lt_trichotomy d.year e.year with hyear | hyear | hyear
  · exact .inl (.inl hyear)
  · rcases lt_trichotomy d.month e.month with hmonth | hmonth | hmonth
    · exact .inl (.inr ⟨hyear, .inl hmonth⟩)
    · rcases lt_trichotomy d.day e.day with hday | hday | hday
      · exact .inl (.inr ⟨hyear, .inr ⟨hmonth, hday⟩⟩)
      · refine .inr (.inl ?_)
        cases d
        cases e
        simp_all
      · exact .inr (.inr (.inr ⟨hyear.symm, .inr ⟨hmonth.symm, hday⟩⟩))
    · exact .inr (.inr (.inr ⟨hyear.symm, .inl hmonth⟩))
  · exact .inr (.inr (.inl hyear))

theorem before_iff : d.Before e ↔ d.ordinal < e.ordinal := by
  refine ⟨Before.ordinal_lt, fun h => ?_⟩
  rcases before_trichotomy d e with hlt | rfl | hlt
  · exact hlt
  · exact absurd h (lt_irrefl _)
  · exact absurd h hlt.ordinal_lt.asymm

theorem ordinal_inj : d.ordinal = e.ordinal ↔ d = e := by
  refine ⟨fun h => ?_, congrArg ordinal⟩
  rcases before_trichotomy d e with hlt | heq | hlt
  · exact absurd h hlt.ordinal_lt.ne
  · exact heq
  · exact absurd h hlt.ordinal_lt.ne'

inductive Next (d e : Date) : Prop
  | day (year : e.year = d.year) (month : e.month = d.month) (day : e.day = d.day + 1)
  | month (last : d.day = daysInMonth d.year d.month) (year : e.year = d.year)
      (month : e.month = d.month + 1) (day : e.day = 1)
  | year (last : d.month = 12 ∧ d.day = 31) (year : e.year = d.year + 1) (month : e.month = 1)
      (day : e.day = 1)

theorem Next.ordinal_eq (h : d.Next e) : e.ordinal = d.ordinal + 1 := by
  cases h with
  | day year month day => rw [ordinal, ordinal, year, month, day, ← Nat.add_assoc]
  | month last year month day =>
    rw [ordinal, ordinal, year, month, day, daysBeforeMonth_succ d.month_pos, last]
    omega
  | year last year month day =>
    have hdecember : daysInMonth d.year 12 = 31 := rfl
    have hlength : daysBeforeMonth d.year 13 = daysBeforeMonth d.year 12 + daysInMonth d.year 12 :=
      daysBeforeMonth_succ (by decide)
    rw [daysBeforeMonth_thirteen, hdecember] at hlength
    rw [ordinal, ordinal, year, month, day, daysBeforeYear_succ d.year_pos, last.1, last.2, hlength]
    simp only [daysBeforeMonth, Nat.sub_self, List.range_zero, List.foldl_nil]
    omega

theorem exists_next (h : d.Before e) : ∃ f, d.Next f := by
  have hlast := d.day_le
  by_cases hday : d.day < daysInMonth d.year d.month
  · exact ⟨⟨d.year, d.month, d.day + 1, d.year_pos, d.year_le, Nat.le_add_left 1 _, hday⟩,
      .day rfl rfl rfl⟩
  by_cases hmonth : d.month < 12
  · have hdays : 28 ≤ daysInMonth d.year (d.month + 1) :=
      le_daysInMonth (Nat.le_add_left 1 _) hmonth
    exact ⟨⟨d.year, d.month + 1, 1, d.year_pos, d.year_le, le_rfl, by omega⟩,
      .month (by omega) rfl rfl rfl⟩
  · have hdecember : d.month = 12 := le_antisymm d.month_le_twelve (not_lt.mp hmonth)
    have hdays : daysInMonth d.year d.month = 31 := by rw [hdecember, daysInMonth]
    have hyear : d.year < lastYear := by
      have hle := e.year_le
      have hmonthLe := e.month_le_twelve
      have hdayLe := e.day_le_thirtyOne
      rcases h with hyear | ⟨-, hlt | ⟨-, hlt⟩⟩ <;> omega
    have hjanuary : 1 ≤ daysInMonth (d.year + 1) 1 := by
      rw [daysInMonth]
      decide
    exact ⟨⟨d.year + 1, 1, 1, Nat.le_add_left 1 _, hyear, le_rfl, hjanuary⟩,
      .year ⟨hdecember, by omega⟩ rfl rfl rfl⟩

end Date

/-! ## Times of day -/

namespace TimeOfDay

variable {t u : TimeOfDay}

def micros (t : TimeOfDay) : Nat := t.seconds * 1000000 + t.micro

def IsLast (t : TimeOfDay) : Prop :=
  t.hour = 23 ∧ t.minute = 59 ∧ t.second = 59 ∧ t.micro = 999999

inductive Next (t u : TimeOfDay) : Prop
  | micro (hour : u.hour = t.hour) (minute : u.minute = t.minute) (second : u.second = t.second)
      (micro : u.micro = t.micro + 1)
  | second (last : t.micro = 999999) (hour : u.hour = t.hour) (minute : u.minute = t.minute)
      (second : u.second = t.second + 1) (micro : u.micro = 0)
  | minute (last : t.second = 59 ∧ t.micro = 999999) (hour : u.hour = t.hour)
      (minute : u.minute = t.minute + 1) (second : u.second = 0) (micro : u.micro = 0)
  | hour (last : t.minute = 59 ∧ t.second = 59 ∧ t.micro = 999999) (hour : u.hour = t.hour + 1)
      (minute : u.minute = 0) (second : u.second = 0) (micro : u.micro = 0)

theorem micros_eq (t : TimeOfDay) :
    t.micros = (t.hour * 3600 + t.minute * 60 + t.second) * 1000000 + t.micro := rfl

theorem micros_lt (t : TimeOfDay) : t.micros < 86400000000 := by
  have hhour := t.hour_lt
  have hminute := t.minute_lt
  have hsecond := t.second_lt
  have hmicro := t.micro_lt
  rw [micros_eq]
  omega

theorem micros_of_isLast (h : t.IsLast) : t.micros = 86399999999 := by
  obtain ⟨hhour, hminute, hsecond, hmicro⟩ := h
  rw [micros_eq, hhour, hminute, hsecond, hmicro]

theorem Next.micros_eq (h : t.Next u) : u.micros = t.micros + 1 := by
  rw [TimeOfDay.micros_eq, TimeOfDay.micros_eq]
  cases h with
  | micro hour minute second micro => omega
  | second last hour minute second micro => omega
  | minute last hour minute second micro => omega
  | hour last hour minute second micro => omega

theorem exists_next (h : ¬t.IsLast) : ∃ u, t.Next u := by
  have hhour := t.hour_lt
  have hminute := t.minute_lt
  have hsecond := t.second_lt
  have hmicro := t.micro_lt
  unfold IsLast at h
  by_cases hm : t.micro < 999999
  · exact ⟨⟨t.hour, t.minute, t.second, t.micro + 1, hhour, hminute, hsecond, by omega⟩,
      .micro rfl rfl rfl rfl⟩
  by_cases hs : t.second < 59
  · exact ⟨⟨t.hour, t.minute, t.second + 1, 0, hhour, hminute, by omega, by decide⟩,
      .second (by omega) rfl rfl rfl rfl⟩
  by_cases hn : t.minute < 59
  · exact ⟨⟨t.hour, t.minute + 1, 0, 0, hhour, by omega, by decide, by decide⟩,
      .minute (by omega) rfl rfl rfl rfl⟩
  · exact ⟨⟨t.hour + 1, 0, 0, 0, by omega, by decide, by decide, by decide⟩,
      .hour (by omega) rfl rfl rfl rfl⟩

def Before (t u : TimeOfDay) : Prop :=
  t.hour < u.hour ∨ t.hour = u.hour ∧ (t.minute < u.minute ∨ t.minute = u.minute ∧
    (t.second < u.second ∨ t.second = u.second ∧ t.micro < u.micro))

theorem before_iff : t.Before u ↔ t.micros < u.micros := by
  have hminute := t.minute_lt
  have hminute' := u.minute_lt
  have hsecond := t.second_lt
  have hsecond' := u.second_lt
  have hmicro := t.micro_lt
  have hmicro' := u.micro_lt
  rw [Before, micros_eq, micros_eq]
  omega

theorem micros_inj : t.micros = u.micros ↔ t = u := by
  refine ⟨fun h => ?_, congrArg micros⟩
  have hminute := t.minute_lt
  have hminute' := u.minute_lt
  have hsecond := t.second_lt
  have hsecond' := u.second_lt
  have hmicro := t.micro_lt
  have hmicro' := u.micro_lt
  rw [micros_eq, micros_eq] at h
  cases t
  cases u
  simp only [mk.injEq] at *
  omega

end TimeOfDay

/-! ## Readings of a clock on the wall -/

namespace DateTime

variable {a b c : DateTime} {n : Nat} {k : Int}

inductive Tick (a b : DateTime) : Prop
  | time (date : b.date = a.date) (time : a.time.Next b.time)
  | day (last : a.time.IsLast) (date : a.date.Next b.date) (time : b.time = .midnight)

inductive Elapsed : Nat → DateTime → DateTime → Prop
  | none {a b : DateTime} : b.date = a.date → b.time = a.time → Elapsed 0 a b
  | tick {n : Nat} {a b c : DateTime} : Tick a b → Elapsed n b c → Elapsed (n + 1) a c

theorem wallMicros_eq (t : DateTime) :
    t.wallMicros = t.date.ordinal * 86400000000 + t.time.micros := by
  rw [wallMicros, TimeOfDay.micros]
  push_cast
  ring

theorem Tick.wallMicros_eq (h : Tick a b) : b.wallMicros = a.wallMicros + 1 := by
  rw [DateTime.wallMicros_eq, DateTime.wallMicros_eq]
  cases h with
  | time date time =>
    rw [date, time.micros_eq]
    push_cast
    ring
  | day last date time =>
    have hmidnight : TimeOfDay.midnight.micros = 0 := rfl
    rw [date.ordinal_eq, time, hmidnight, TimeOfDay.micros_of_isLast last]
    push_cast
    ring

theorem wallMicros_inj : a.wallMicros = b.wallMicros ↔ a.date = b.date ∧ a.time = b.time := by
  have ha := a.time.micros_lt
  have hb := b.time.micros_lt
  rw [wallMicros_eq, wallMicros_eq, ← Date.ordinal_inj, ← TimeOfDay.micros_inj]
  omega

theorem exists_tick (h : a.wallMicros < b.wallMicros) : ∃ c, Tick a c := by
  by_cases htime : a.time.IsLast
  · have hdate : a.date.Before b.date := by
      have hlast := TimeOfDay.micros_of_isLast htime
      have hlt := b.time.micros_lt
      rw [wallMicros_eq, wallMicros_eq] at h
      rw [Date.before_iff]
      omega
    obtain ⟨d, hd⟩ := Date.exists_next hdate
    exact ⟨⟨d, .midnight, .none⟩, .day htime hd rfl⟩
  · obtain ⟨u, hu⟩ := TimeOfDay.exists_next htime
    exact ⟨⟨a.date, u, .none⟩, .time rfl hu⟩

theorem elapsed_iff : Elapsed n a b ↔ a.wallMicros + n = b.wallMicros := by
  constructor
  · intro h
    induction h with
    | none hdate htime => rw [Nat.cast_zero, add_zero, wallMicros_inj.mpr ⟨hdate.symm, htime.symm⟩]
    | tick htick _ ih =>
      rw [htick.wallMicros_eq] at ih
      rw [← ih]
      push_cast
      ring
  · induction n generalizing a with
    | zero =>
      intro h
      rw [Nat.cast_zero, add_zero] at h
      obtain ⟨hdate, htime⟩ := wallMicros_inj.mp h
      exact .none hdate.symm htime.symm
    | succ n ih =>
      intro h
      obtain ⟨c, hc⟩ := exists_tick (a := a) (b := b) (by omega)
      refine .tick hc (ih ?_)
      rw [hc.wallMicros_eq, ← h]
      push_cast
      ring

def ShownBefore (a b : DateTime) : Prop :=
  a.date.Before b.date ∨ a.date = b.date ∧ a.time.Before b.time

theorem shownBefore_iff : a.ShownBefore b ↔ a.wallMicros < b.wallMicros := by
  have ha := a.time.micros_lt
  have hb := b.time.micros_lt
  rw [ShownBefore, Date.before_iff, ← Date.ordinal_inj, TimeOfDay.before_iff, wallMicros_eq,
    wallMicros_eq]
  omega

def Apart (a b : DateTime) (k : Int) : Prop :=
  (∃ n : Nat, k = n ∧ Elapsed n a b) ∨ ∃ n : Nat, k = -n ∧ Elapsed n b a

theorem apart_iff : Apart a b k ↔ a.wallMicros + k = b.wallMicros := by
  simp only [Apart, elapsed_iff]
  constructor
  · rintro (⟨n, rfl, h⟩ | ⟨n, rfl, h⟩) <;> omega
  · intro h
    rcases le_total 0 k with hk | hk
    · exact .inl ⟨k.toNat, by omega, by omega⟩
    · exact .inr ⟨(-k).toNat, by omega, by omega⟩

/-- The second moment is so many microseconds after the first one, the readings of both taken back
to universal time. -/
def Since (a b : DateTime) (k : Int) : Prop :=
  Apart a b (k + (b.offset.getD 0 - a.offset.getD 0) * 1000000)

theorem since_iff : Since a b k ↔ a.instant + k = b.instant := by
  rw [Since, apart_iff, instant, instant]
  constructor <;> intro h <;> linarith

end DateTime

end FormRules
