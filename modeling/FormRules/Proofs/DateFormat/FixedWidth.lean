import FormRules.Proofs.DateFormat.Spelling
import FormRules.Proofs.DateFormat.Tried
import FormRules.Proofs.Text.Padded
import FormRules.Value.Moment

namespace FormRules.DateFormat

def fixedSpellings : List (List Char) :=
  ["YYYY", "YY", "MM", "DD", "HH", "hh", "mm", "ss", "A", "a"].map String.toList

def Item.isFixedSpelling : Item → Bool
  | .char _ => true
  | .token t => t.spelling ∈ fixedSpellings

/-- The tokens are of fixed width, they give each component at most once, and an hour of the half
day comes with one mark. -/
structure FixedWidth (format : String) : Prop where
  spelling : ∀ i ∈ items (pieces format), i.isFixedSpelling = true
  single : Single format
  mark : (given format).count .halfDay = (given format).count .halfDayHour

instance (format : String) : Decidable (FixedWidth format) :=
  decidable_of_iff
    ((∀ i ∈ items (pieces format), i.isFixedSpelling = true) ∧ Single format ∧
      (given format).count .halfDay = (given format).count .halfDayHour)
    ⟨fun ⟨hspelling, hsingle, hmark⟩ => ⟨hspelling, hsingle, hmark⟩,
      fun ⟨hspelling, hsingle, hmark⟩ => ⟨hspelling, hsingle, hmark⟩⟩

def clockHour (hour : Nat) : Nat := (hour + 11) % 12 + 1

def Directive.Writes (t : DateTime) : Directive → List Char → Prop
  | .year, u => u = Text.padded 4 (t.get .year)
  | .shortYear, u => u = Text.padded 2 (t.get .year % 100)
  | .month, u => u = Text.padded 2 (t.get .month)
  | .day, u => u = Text.padded 2 (t.get .day)
  | .hour, u => u = Text.padded 2 (t.get .hour)
  | .halfDayHour, u => u = Text.padded 2 (clockHour (t.get .hour))
  | .minute, u => u = Text.padded 2 (t.get .minute)
  | .second, u => u = Text.padded 2 (t.get .second)
  | .halfDay, u => u.map Text.asciiLower = if t.get .hour < 12 then ['a', 'm'] else ['p', 'm']
  | _, _ => False

/-- The text is the format with every token replaced by what it gives of the moment. -/
inductive Rendering (t : DateTime) : List Item → List Char → Prop
  | nil : Rendering t [] []
  | char {is : List Item} {s : List Char} (c : Char) :
      Rendering t is s → Rendering t (.char c :: is) (c :: s)
  | token {is : List Item} {s : List Char} (tok : Token) {u : List Char} :
      tok.directive.Writes t u → Rendering t is s → Rendering t (.token tok :: is) (u ++ s)

def IsFixedWidth (t : Token) : Prop := t ∈ tokens ∧ t.spelling ∈ fixedSpellings

instance (t : Token) : Decidable (IsFixedWidth t) := inferInstanceAs (Decidable (_ ∧ _))

theorem isTight_of_isFixedWidth {t : Token} (h : IsFixedWidth t) :
    (Item.token t).isTight = true := by
  obtain ⟨hmem, hspelling⟩ := h
  revert t
  decide

namespace FixedWidth

variable {format : String}

theorem isFixedWidth (h : FixedWidth format) {t : Token} (ht : .token t ∈ items (pieces format)) :
    IsFixedWidth t :=
  ⟨tabled_items format t ht, by simpa [Item.isFixedSpelling] using h.spelling _ ht⟩

theorem allUnmixed (h : FixedWidth format) : AllUnmixed format := by
  intro g hg
  right
  left
  intro i hi
  cases i with
  | char c => rfl
  | token t =>
    have hmem : .token t ∈ items (pieces format) := by
      rw [← List.flatten_splitBy (fun i j : Item => i.kind == j.kind) (items (pieces format))]
      exact List.mem_flatten.mpr ⟨g, hg, hi⟩
    exact isTight_of_isFixedWidth (h.isFixedWidth hmem)

theorem noRepeats (h : FixedWidth format) : NoRepeats format := by
  have hcount (d : Directive) (k : Component) (hk : d.component? = some k) :
      (given format).count d ≤ 1 := by
    have hone := List.nodup_iff_count_le_one.mp h.single k
    have hle :
        (given format).count d ≤ ((given format).filterMap Directive.component?).count k := by
      rw [List.count_filterMap]
      apply List.countP_mono_left
      intro a _ ha
      rw [beq_iff_eq.mp ha, hk]
      exact beq_self_eq_true _
    omega
  rw [NoRepeats, List.nodup_iff_count_le_one]
  intro d
  cases hd : d.component? with
  | some k => exact hcount d k hd
  | none =>
    obtain rfl : d = .halfDay := by cases d <;> simp_all [Directive.component?]
    change (given format).count .halfDay ≤ 1
    rw [h.mark]
    exact hcount .halfDayHour .hour rfl

end FixedWidth

def Directive.fixedWidth : Directive → Width
  | .year => .digits 4
  | .halfDay => .halfDayMark
  | _ => .digits 2

theorem width_of_isFixedWidth {t : Token} (h : IsFixedWidth t) :
    t.width = t.directive.fixedWidth := by
  obtain ⟨hmem, hspelling⟩ := h
  revert t
  decide

theorem directive_of_isFixedWidth {t : Token} (h : IsFixedWidth t) :
    t.directive ∉ [.monthName, .shortMonthName, .fraction] := by
  obtain ⟨hmem, hspelling⟩ := h
  revert t
  decide

theorem digitsValue_pair {a b : Char} (ha : Text.isAsciiDigit a = true)
    (hb : Text.isAsciiDigit b = true) :
    Text.digitsValue [a, b] = 10 * (a.toNat - 48) + (b.toNat - 48) := by
  simp [Text.digitsValue, Text.digit?_of_isAsciiDigit ha, Text.digit?_of_isAsciiDigit hb]

theorem clock_of_takes {u : List Char} (h : Directive.halfDayHour.Takes u) (hlen : u.length = 2) :
    1 ≤ Text.digitsValue u ∧ Text.digitsValue u ≤ 12 := by
  obtain ⟨p, hp, hplen, hfits⟩ := h
  obtain ⟨a, b, rfl⟩ := List.length_eq_two.mp hlen
  simp only [Directive.shapes, List.mem_cons, List.not_mem_nil, or_false] at hp
  rcases hp with rfl | rfl | rfl
  · simp only [Shape.fits, Bool.and_true, Bool.and_eq_true] at hfits
    obtain rfl := beq_iff_eq.mp hfits.1
    have hb := Directive.isAsciiDigit_of_within (by decide) (by decide) hfits.2
    have hlt : b.toNat ≤ 50 := by
      have := hfits.2
      simp only [within, Bool.and_eq_true, decide_eq_true_eq, le_iff_toNat_le] at this
      exact this.2
    rw [digitsValue_pair (by decide) hb]
    simp only [Char.reduceToNat]
    omega
  · simp only [Shape.fits, Bool.and_true, Bool.and_eq_true] at hfits
    obtain rfl := beq_iff_eq.mp hfits.1
    have hb := Directive.isAsciiDigit_of_within (by decide) (by decide) hfits.2
    have hlt : 49 ≤ b.toNat ∧ b.toNat ≤ 57 := by
      have := hfits.2
      simp only [within, Bool.and_eq_true, decide_eq_true_eq, le_iff_toNat_le] at this
      exact this
    rw [digitsValue_pair (by decide) hb]
    simp only [Char.reduceToNat]
    omega
  · simp at hplen

theorem clockHour_hourOfDay {hour : Nat} (h : 1 ≤ hour ∧ hour ≤ 12) {mark : List Char}
    (hmark : mark = ['a', 'm'] ∨ mark = ['p', 'm']) : clockHour (hourOfDay hour mark) = hour := by
  have ham : ∀ hour ≤ 12, 1 ≤ hour → clockHour (hourOfDay hour ['a', 'm']) = hour := by decide
  have hpm : ∀ hour ≤ 12, 1 ≤ hour → clockHour (hourOfDay hour ['p', 'm']) = hour := by decide
  rcases hmark with rfl | rfl
  · exact ham hour h.2 h.1
  · exact hpm hour h.2 h.1

theorem mark_of_hourOfDay {hour : Nat} (h : 1 ≤ hour ∧ hour ≤ 12) {mark : List Char}
    (hmark : mark = ['a', 'm'] ∨ mark = ['p', 'm']) :
    mark = if hourOfDay hour mark < 12 then ['a', 'm'] else ['p', 'm'] := by
  have ham : ∀ hour ≤ 12, 1 ≤ hour → hourOfDay hour ['a', 'm'] < 12 := by decide
  have hpm : ∀ hour ≤ 12, 1 ≤ hour → ¬hourOfDay hour ['p', 'm'] < 12 := by decide
  rcases hmark with rfl | rfl
  · rw [if_pos (ham hour h.2 h.1)]
  · rw [if_neg (hpm hour h.2 h.1)]

theorem mark_of_takes {u : List Char} (h : Width.halfDayMark.Takes u) :
    u.map Text.asciiLower = ['a', 'm'] ∨ u.map Text.asciiLower = ['p', 'm'] := by
  obtain ⟨a, m, rfl, ha, hm⟩ := h
  rcases ha with ha | ha <;> simp [ha, hm]

theorem writes_of_amount? {t : DateTime} {tok : Token} (hfixed : IsFixedWidth tok)
    {u mark : List Char} (hwidth : tok.width.Takes u) (htakes : tok.directive.Takes u)
    (hascii : ∀ c ∈ u, Text.isDigit c = true → Text.isAsciiDigit c = true)
    (hamount : ∀ k, tok.directive.component? = some k →
      amount? mark (tok.directive, u) = some (t.get k : Int))
    (hmark : mark = ['a', 'm'] ∨ mark = ['p', 'm'] ∨ tok.directive ≠ .halfDayHour)
    (hd : tok.directive ≠ .halfDay) : tok.directive.Writes t u := by
  have hw := width_of_isFixedWidth hfixed
  have hdirective := directive_of_isFixedWidth hfixed
  have hdigits (n : Nat) (hn : tok.width = .digits (n + 1)) :
      u = Text.padded (n + 1) (Text.digitsValue u) ∧ Text.digitsValue u < 10 ^ (n + 1) ∧
        u.length = n + 1 := by
    rw [hn] at hwidth
    have hall : ∀ c ∈ u, Text.isAsciiDigit c = true := fun c hc => hascii c hc (hwidth.2 c hc)
    have hne : u ≠ [] := List.ne_nil_of_length_eq_add_one hwidth.1
    rw [← hwidth.1]
    exact ⟨(Text.padded_digitsValue hne hall).symm, Text.digitsValue_lt hall, rfl⟩
  have hvalue (k : Component) (hk : tok.directive.component? = some k)
      (ha : amount? mark (tok.directive, u) = some (Text.digitsValue u : Int)) :
      Text.digitsValue u = t.get k :=
    Int.ofNat_inj.mp (Option.some.inj (ha.symm.trans (hamount k hk)))
  generalize tok.directive = d at *
  cases d with
  | year => rw [Directive.Writes, ← hvalue .year rfl rfl]; exact (hdigits 3 hw).1
  | month => rw [Directive.Writes, ← hvalue .month rfl rfl]; exact (hdigits 1 hw).1
  | day => rw [Directive.Writes, ← hvalue .day rfl rfl]; exact (hdigits 1 hw).1
  | hour => rw [Directive.Writes, ← hvalue .hour rfl rfl]; exact (hdigits 1 hw).1
  | minute => rw [Directive.Writes, ← hvalue .minute rfl rfl]; exact (hdigits 1 hw).1
  | second => rw [Directive.Writes, ← hvalue .second rfl rfl]; exact (hdigits 1 hw).1
  | shortYear =>
    obtain ⟨hu, hlt, -⟩ := hdigits 1 hw
    have hyear : fullYear (Text.digitsValue u) = t.get .year :=
      Int.ofNat_inj.mp (Option.some.inj (hamount .year rfl))
    have hmod : t.get .year % 100 = Text.digitsValue u := by
      rw [← hyear, fullYear]
      split <;> omega
    rw [Directive.Writes, hmod]
    exact hu
  | halfDayHour =>
    obtain ⟨hu, -, hlen⟩ := hdigits 1 hw
    have hhour : hourOfDay (Text.digitsValue u) mark = t.get .hour :=
      Int.ofNat_inj.mp (Option.some.inj (hamount .hour rfl))
    have hmark : mark = ['a', 'm'] ∨ mark = ['p', 'm'] := by simpa using hmark
    rw [Directive.Writes, ← hhour, clockHour_hourOfDay (clock_of_takes htakes hlen) hmark]
    exact hu
  | halfDay => exact absurd rfl hd
  | monthName => simp at hdirective
  | shortMonthName => simp at hdirective
  | fraction => simp at hdirective

theorem rendering_of_cut {t : DateTime} {is : List Item} {s : List Char} {parts : Parts}
    (h : Cut is s parts)
    (hwrites : ∀ tok u, .token tok ∈ is → (tok.directive, u) ∈ parts → tok.width.Takes u →
      (∀ c ∈ u, c ∈ s) → tok.directive.Writes t u) : Rendering t is s := by
  induction h with
  | nil => exact .nil
  | char c _ ih =>
    refine .char c (ih fun tok u htok hu hwidth hs => ?_)
    exact hwrites tok u (by simp [htok]) hu hwidth fun a ha => by simp [hs a ha]
  | token tok hu _ ih =>
    refine .token tok (hwrites tok _ (by simp) (by simp) hu fun a ha => by simp [ha]) (ih ?_)
    intro tok' u' htok' hu' hwidth' hs'
    exact hwrites tok' u' (by simp [htok']) (by simp [hu']) hwidth' fun a ha => by simp [hs' a ha]

/-- The moment agrees with the format about what the format leaves out. -/
structure Completes (format : String) (t : DateTime) : Prop where
  offset : t.offset = none
  default : ∀ k ∉ (given format).filterMap Directive.component?, t.get k = k.default
  shortYear : .shortYear ∈ given format → 1969 ≤ t.get .year ∧ t.get .year ≤ 2068

theorem fullYear_bounds {n : Nat} (h : n < 100) : 1969 ≤ fullYear n ∧ fullYear n ≤ 2068 := by
  unfold fullYear
  split <;> omega

section Sound

variable {format s : String} {t : DateTime} {parts : Parts}

theorem exists_part (hcut : Cut (items (pieces format)) s.toList parts) {d : Directive}
    (hd : d ∈ given format) : ∃ u, (d, u) ∈ parts := by
  rw [← map_fst_of_cut hcut] at hd
  obtain ⟨⟨_, u⟩, hu, rfl⟩ := List.mem_map.mp hd
  exact ⟨u, hu⟩

theorem amount?_of_mem (h : Single format) (hcut : Cut (items (pieces format)) s.toList parts)
    (hmoment : moment? parts = some t) {p : Directive × List Char} (hp : p ∈ parts) {k : Component}
    (hk : p.1.component? = some k) : amount? parts.mark p = some (t.get k : Int) :=
  amount?_of_value? h (map_fst_of_cut hcut) hp hk ((moment?_eq_some_iff.mp hmoment).2.2 k)

theorem takes_of_mem (h : FixedWidth format) (hcut : Cut (items (pieces format)) s.toList parts)
    {d : Directive} {u : List Char} (hu : (d, u) ∈ parts) :
    d.fixedWidth.Takes u ∧ ∀ c ∈ u, c ∈ s.toList := by
  obtain ⟨tok, htok, hd, hwidth, hs⟩ := hcut.exists_token hu
  obtain rfl : tok.directive = d := hd
  rw [← width_of_isFixedWidth (h.isFixedWidth htok)]
  exact ⟨hwidth, hs⟩

theorem mark_of_mem (h : FixedWidth format) (hcut : Cut (items (pieces format)) s.toList parts)
    {u : List Char} (hu : (.halfDay, u) ∈ parts) :
    parts.mark = u.map Text.asciiLower ∧ (parts.mark = ['a', 'm'] ∨ parts.mark = ['p', 'm']) := by
  have hnodup : (parts.map Prod.fst).Nodup := by
    rw [map_fst_of_cut hcut]
    exact h.noRepeats
  have hmark := Parts.mark_eq_of_mem hnodup hu
  rw [hmark]
  exact ⟨rfl, mark_of_takes (takes_of_mem h hcut hu).1⟩

theorem FixedWidth.mem_iff (h : FixedWidth format) :
    .halfDay ∈ given format ↔ .halfDayHour ∈ given format := by
  rw [← List.count_pos_iff, ← List.count_pos_iff, h.mark]

theorem rendering_of_parse (h : FixedWidth format)
    (hascii : ∀ c ∈ s.toList, Text.isDigit c = true → Text.isAsciiDigit c = true)
    (hparse : parse format s = .ok (some t)) :
    Completes format t ∧ Rendering t (items (pieces format)) s.toList := by
  obtain ⟨parts, hcut, htakes, hmoment⟩ := exists_cut_of_parse h.noRepeats h.allUnmixed hparse
  obtain ⟨-, hoffset, hvalue⟩ := moment?_eq_some_iff.mp hmoment
  refine ⟨⟨hoffset, ?_, ?_⟩, rendering_of_cut hcut ?_⟩
  · intro k hk
    have hnone : Parts.last? k parts = none := by
      rw [Parts.last?_eq_none_iff]
      intro p hp hpk
      rw [← map_fst_of_cut hcut] at hk
      exact hk (List.mem_filterMap.mpr ⟨p.1, List.mem_map_of_mem hp, hpk⟩)
    have := hvalue k
    rw [Parts.value?, hnone] at this
    exact (Int.ofNat_inj.mp (Option.some.inj this)).symm
  · intro hshort
    obtain ⟨u, hu⟩ := exists_part hcut hshort
    have hamount := amount?_of_mem h.single hcut hmoment hu (k := .year) rfl
    have hyear : fullYear (Text.digitsValue u) = t.get .year :=
      Int.ofNat_inj.mp (Option.some.inj hamount)
    obtain ⟨⟨hlen, hdigits⟩, hs⟩ := takes_of_mem h hcut hu
    have hlt := Text.digitsValue_lt fun c hc => hascii c (hs c hc) (hdigits c hc)
    rw [hlen] at hlt
    rw [← hyear]
    exact fullYear_bounds hlt
  · intro tok u htok hu hwidth hs
    have hfixed := h.isFixedWidth htok
    have hu_ascii : ∀ c ∈ u, Text.isDigit c = true → Text.isAsciiDigit c = true :=
      fun c hc => hascii c (hs c hc)
    by_cases hhalf : tok.directive = .halfDay
    · rw [hhalf] at hu ⊢
      have hgiven : .halfDay ∈ given format := by
        rw [← map_fst_of_cut hcut]
        exact List.mem_map_of_mem hu
      obtain ⟨w, hw⟩ := exists_part hcut (h.mem_iff.mp hgiven)
      obtain ⟨hmark, hampm⟩ := mark_of_mem h hcut hu
      have hclock := clock_of_takes (htakes _ hw) (takes_of_mem h hcut hw).1.1
      have hamount := amount?_of_mem h.single hcut hmoment hw (k := .hour) rfl
      have hhour : hourOfDay (Text.digitsValue w) parts.mark = t.get .hour :=
        Int.ofNat_inj.mp (Option.some.inj hamount)
      rw [Directive.Writes, ← hmark, ← hhour]
      exact mark_of_hourOfDay hclock hampm
    · refine writes_of_amount? hfixed hwidth (htakes _ hu) hu_ascii
        (fun k hk => amount?_of_mem h.single hcut hmoment hu hk) ?_ hhalf
      by_cases hclock : tok.directive = .halfDayHour
      · have hgiven : .halfDayHour ∈ given format := by
          rw [← map_fst_of_cut hcut, ← hclock]
          exact List.mem_map_of_mem hu
        obtain ⟨w, hw⟩ := exists_part hcut (h.mem_iff.mpr hgiven)
        rcases (mark_of_mem h hcut hw).2 with hm | hm
        · exact .inl hm
        · exact .inr (.inl hm)
      · exact .inr (.inr hclock)

end Sound

section Complete

theorem length_le_of_mem_shapes {d : Directive}
    (hd : d ∉ [.monthName, .shortMonthName, .fraction]) {u : List Char}
    (hu : d.fixedWidth.Takes u) : ∀ p ∈ d.shapes, p.length ≤ u.length := by
  have hwidth : u.length = if d = .year then 4 else 2 := by
    cases d with
    | halfDay =>
      obtain ⟨a, m, rfl, -⟩ := hu
      rfl
    | _ => exact hu.1
  rw [hwidth]
  cases d <;> first | decide | simp at hd

theorem fits_replicate {a : Char → Bool} {u : List Char} (h : ∀ c ∈ u, a c = true) :
    Shape.fits (List.replicate u.length a) u = true := by
  induction u with
  | nil => rfl
  | cons c u ih =>
    obtain ⟨hc, hu⟩ := List.forall_mem_cons.mp h
    simp [List.replicate_succ, Shape.fits, hc, ih hu]

theorem takes_padded {w n : Nat} (hw : 0 < w) (h : n < 10 ^ w) :
    (Width.digits w).Takes (Text.padded w n) :=
  ⟨Text.length_padded hw h, fun c hc =>
    Directive.isDigits_isAsciiDigit c (Text.isAsciiDigit_of_mem_padded hc)⟩

theorem head?_lengths_of_replicate {d : Directive} {n : Nat} {u : List Char}
    (hd : d.shapes = [List.replicate n Text.isDigit]) (hu : (Width.digits n).Takes u) :
    (d.lengths u).head? = some u.length := by
  obtain ⟨rfl, hdigits⟩ := hu
  simp [Directive.lengths, hd, fits_replicate hdigits]

theorem takes_and_head?_of_range {d : Directive} {n : Nat} (lo hi : Nat) (hhi : hi ≤ 100)
    (hall : ∀ n < hi, lo ≤ n → (d.lengths (Text.padded 2 n)).head? = some 2) (hlo : lo ≤ n)
    (hn : n < hi) : (Width.digits 2).Takes (Text.padded 2 n) ∧
      (d.lengths (Text.padded 2 n)).head? = some (Text.padded 2 n).length := by
  have htakes := takes_padded (w := 2) (n := n) (by decide) (by omega)
  rw [htakes.1]
  exact ⟨htakes, hall n hn hlo⟩

theorem eq_of_asciiLower {c l : Char} (hl : 97 ≤ l.toNat ∧ l.toNat ≤ 122)
    (h : Text.asciiLower c = l) : c = l ∨ c = Char.ofNat (l.toNat - 32) := by
  have hnat := toNat_asciiLower c
  rw [h] at hnat
  split at hnat
  · right
    apply Char.toNat_inj.mp
    rw [toNat_ofNat (by omega)]
    omega
  · left
    exact Char.toNat_inj.mp hnat.symm

theorem takes_and_head?_of_mark {u : List Char}
    (h : u.map Text.asciiLower = ['a', 'm'] ∨ u.map Text.asciiLower = ['p', 'm']) :
    Width.halfDayMark.Takes u ∧ (Directive.halfDay.lengths u).head? = some u.length := by
  have hlen : u.length = 2 := by
    rcases h with h | h <;> simpa using congrArg List.length h
  obtain ⟨a, m, rfl⟩ := List.length_eq_two.mp hlen
  simp only [List.map_cons, List.map_nil, List.cons.injEq, and_true] at h
  have ha : Text.asciiLower a = 'a' ∨ Text.asciiLower a = 'p' := h.imp And.left And.left
  have hm : Text.asciiLower m = 'm' := h.elim And.right And.right
  refine ⟨⟨a, m, rfl, ha, hm⟩, ?_⟩
  have hms := eq_of_asciiLower (by decide) hm
  rcases ha with ha | ha
  · rcases eq_of_asciiLower (by decide) ha with rfl | rfl <;>
      rcases hms with rfl | rfl <;> decide
  · rcases eq_of_asciiLower (by decide) ha with rfl | rfl <;>
      rcases hms with rfl | rfl <;> decide

theorem takes_and_head?_of_writes {t : DateTime} {d : Directive} {u : List Char}
    (h : d.Writes t u) : d.fixedWidth.Takes u ∧ (d.lengths u).head? = some u.length := by
  cases d with
  | year =>
    obtain rfl := h
    have hle : t.get .year < 10 ^ 4 := Nat.lt_succ_of_le t.date.year_le
    have htakes := takes_padded (w := 4) (by decide) hle
    exact ⟨htakes, head?_lengths_of_replicate rfl htakes⟩
  | shortYear =>
    obtain rfl := h
    have htakes := takes_padded (w := 2) (n := t.get .year % 100) (by decide) (by omega)
    exact ⟨htakes, head?_lengths_of_replicate rfl htakes⟩
  | month =>
    obtain rfl := h
    exact takes_and_head?_of_range 1 13 (by decide) (by decide) t.date.month_pos
      (Nat.lt_succ_of_le t.date.month_le_twelve)
  | day =>
    obtain rfl := h
    exact takes_and_head?_of_range 1 32 (by decide) (by decide) t.date.day_pos
      (Nat.lt_succ_of_le t.date.day_le_thirtyOne)
  | hour =>
    obtain rfl := h
    exact takes_and_head?_of_range 0 24 (by decide) (by decide) (Nat.zero_le _) t.time.hour_lt
  | halfDayHour =>
    obtain rfl := h
    have hclock : 1 ≤ clockHour (t.get .hour) ∧ clockHour (t.get .hour) < 13 := by
      unfold clockHour
      omega
    exact takes_and_head?_of_range 1 13 (by decide) (by decide) hclock.1 hclock.2
  | minute =>
    obtain rfl := h
    exact takes_and_head?_of_range 0 60 (by decide) (by decide) (Nat.zero_le _) t.time.minute_lt
  | second =>
    obtain rfl := h
    exact takes_and_head?_of_range 0 60 (by decide) (by decide) (Nat.zero_le _) t.time.second_lt
  | halfDay =>
    apply takes_and_head?_of_mark
    rw [Directive.Writes] at h
    split at h
    · exact .inl h
    · exact .inr h
  | monthName => exact h.elim
  | shortMonthName => exact h.elim
  | fraction => exact h.elim

theorem exists_parts_of_rendering {t : DateTime} {is : List Item} {s : List Char}
    (h : Rendering t is s) (hfixed : ∀ tok, .token tok ∈ is → IsFixedWidth tok) :
    ∃ parts, Cut is s parts ∧ Tried [] is s parts ∧ ∀ p ∈ parts, p.1.Writes t p.2 := by
  induction h with
  | nil => exact ⟨[], .nil, .nil, by simp⟩
  | char c _ ih =>
    obtain ⟨parts, hcut, htried, hwrites⟩ := ih fun tok htok => hfixed tok (by simp [htok])
    exact ⟨parts, .char c hcut, .char c htried, hwrites⟩
  | @token is s tok u hu _ ih =>
    obtain ⟨parts, hcut, htried, hwrites⟩ := ih fun tok htok => hfixed tok (by simp [htok])
    have hfix := hfixed tok (by simp)
    obtain ⟨htakes, hhead⟩ := takes_and_head?_of_writes hu
    have hlength := length_le_of_mem_shapes (directive_of_isFixedWidth hfix) htakes
    refine ⟨_, .token tok ?_ hcut, .token tok ?_ htried, List.forall_mem_cons.mpr ⟨hu, hwrites⟩⟩
    · rwa [width_of_isFixedWidth hfix]
    · rwa [Directive.lengths_append hlength]

theorem fullYear_mod {year : Nat} (h : 1969 ≤ year ∧ year ≤ 2068) :
    fullYear (year % 100) = year := by
  unfold fullYear
  split <;> omega

theorem hourOfDay_clockHour {hour : Nat} (h : hour < 24) :
    hourOfDay (clockHour hour) (if hour < 12 then ['a', 'm'] else ['p', 'm']) = hour := by
  have hall : ∀ hour < 24,
      hourOfDay (clockHour hour) (if hour < 12 then ['a', 'm'] else ['p', 'm']) = hour := by decide
  exact hall hour h

theorem amount?_of_writes {t : DateTime} {d : Directive} {u mark : List Char} (h : d.Writes t u)
    {k : Component} (hk : d.component? = some k)
    (hmark : d = .halfDayHour → mark = if t.get .hour < 12 then ['a', 'm'] else ['p', 'm'])
    (hyear : d = .shortYear → 1969 ≤ t.get .year ∧ t.get .year ≤ 2068) :
    amount? mark (d, u) = some (t.get k : Int) := by
  have hvalue {w n : Nat} (hw : 0 < w) (hn : n < 10 ^ w) :
      some ((Text.digitsValue (Text.padded w n) : Nat) : Int) = some (n : Int) := by
    rw [Text.digitsValue_padded hw hn]
  cases d with
  | year =>
    obtain rfl := h
    cases hk
    exact hvalue (by decide) (Nat.lt_succ_of_le t.date.year_le)
  | month =>
    obtain rfl := h
    cases hk
    exact hvalue (by decide) (t.date.month_le_twelve.trans_lt (by decide))
  | day =>
    obtain rfl := h
    cases hk
    exact hvalue (by decide) (t.date.day_le_thirtyOne.trans_lt (by decide))
  | hour =>
    obtain rfl := h
    cases hk
    exact hvalue (by decide) (t.time.hour_lt.trans (by decide))
  | minute =>
    obtain rfl := h
    cases hk
    exact hvalue (by decide) (t.time.minute_lt.trans (by decide))
  | second =>
    obtain rfl := h
    cases hk
    exact hvalue (by decide) (t.time.second_lt.trans (by decide))
  | shortYear =>
    obtain rfl := h
    cases hk
    change some ((fullYear (Text.digitsValue _) : Nat) : Int) = _
    have hlt : t.get .year % 100 < 10 ^ 2 := Nat.mod_lt _ (by decide)
    rw [Text.digitsValue_padded (by decide) hlt, fullYear_mod (hyear rfl)]
  | halfDayHour =>
    obtain rfl := h
    cases hk
    have hclock : clockHour (t.get .hour) < 10 ^ 2 := by
      unfold clockHour
      omega
    change some ((hourOfDay (Text.digitsValue _) mark : Nat) : Int) = _
    rw [Text.digitsValue_padded (by decide) hclock, hmark rfl,
      @hourOfDay_clockHour (t.get .hour) t.time.hour_lt]
  | halfDay => cases hk
  | monthName => exact h.elim
  | shortMonthName => exact h.elim
  | fraction => exact h.elim

theorem moment?_of_writes {format : String} (hformat : FixedWidth format) {t : DateTime}
    (ht : Completes format t) {parts : Parts} (hfst : parts.map Prod.fst = given format)
    (hwrites : ∀ p ∈ parts, p.1.Writes t p.2) : moment? parts = some t := by
  have hmem {d : Directive} : d ∈ given format ↔ ∃ u, (d, u) ∈ parts := by
    rw [← hfst]
    simp
  have hnodup : (parts.map Prod.fst).Nodup := by
    rw [hfst]
    exact hformat.noRepeats
  have hamount : ∀ p ∈ parts, ∀ k, p.1.component? = some k →
      amount? parts.mark p = some (t.get k : Int) := by
    rintro ⟨d, u⟩ hp k hk
    refine amount?_of_writes (hwrites _ hp) hk ?_ ?_
    · rintro rfl
      obtain ⟨w, hw⟩ := hmem.mp (hformat.mem_iff.mpr (hmem.mpr ⟨u, hp⟩))
      rw [Parts.mark_eq_of_mem hnodup hw]
      exact hwrites _ hw
    · rintro rfl
      exact ht.shortYear (hmem.mpr ⟨u, hp⟩)
  rw [moment?_eq_some_iff]
  refine ⟨fun p hp hcomponent => ?_, ht.offset, fun k => ?_⟩
  · obtain ⟨k, hk⟩ := Option.ne_none_iff_exists'.mp hcomponent
    rw [hamount p hp k hk]
    rfl
  · unfold Parts.value?
    cases hlast : Parts.last? k parts with
    | some p =>
      obtain ⟨hp, hk⟩ := Parts.mem_of_last? hlast
      exact hamount p hp k hk
    | none =>
      have hk : k ∉ (given format).filterMap Directive.component? := by
        rw [← hfst]
        intro hk
        obtain ⟨d, hd, hdk⟩ := List.mem_filterMap.mp hk
        obtain ⟨p, hp, rfl⟩ := List.mem_map.mp hd
        exact Parts.last?_eq_none_iff.mp hlast p hp hdk
      exact congrArg (fun n : Nat => some (n : Int)) (ht.default k hk).symm

theorem parse_of_rendering {format s : String} (h : FixedWidth format) {t : DateTime}
    (ht : Completes format t) (hs : Rendering t (items (pieces format)) s.toList) :
    parse format s = .ok (some t) := by
  obtain ⟨parts, hcut, htried, hwrites⟩ :=
    exists_parts_of_rendering hs fun tok htok => h.isFixedWidth htok
  have hfits : fits (pieces format) s.toList = true := fits_iff.mpr ⟨parts, hcut⟩
  have hread := htried.readSteps?_eq (hcut.even (tabled_items format))
  rw [← elements_eq] at hread
  rw [parse_of_noRepeats h.noRepeats, if_pos hfits, read?, hread]
  exact congrArg Except.ok (moment?_of_writes h ht (map_fst_of_cut hcut) hwrites)

end Complete

/-- A format of fixed width reads a text as a moment exactly if the text writes that moment; any
other text is read as none. -/
theorem strictMoment?_eq_some_iff_rendering {format v : String} (h : FixedWidth format)
    (hv : ∀ c ∈ v.toList, Text.isDigit c = true → Text.isAsciiDigit c = true) :
    ∃ moment, (Value.text v).strictMoment? format = .ok moment ∧
      ∀ t, moment = some t ↔ Completes format t ∧ Rendering t (items (pieces format)) v.toList := by
  have hparse := parse_of_noRepeats h.noRepeats v
  refine ⟨_, hparse, fun t => ⟨fun ht => ?_, fun ⟨ht, hr⟩ => ?_⟩⟩
  · exact rendering_of_parse h hv (hparse.trans (congrArg Except.ok ht))
  · exact Except.ok.inj (hparse.symm.trans (parse_of_rendering h ht hr))

theorem strictMoment?_of_impossible_day :
    ∃ moment, (Value.text "31.02.24, 12:05 pM").strictMoment? "DD.MM.YY, hh:mm A" = .ok moment ∧
      ∀ t, moment = some t ↔ Completes "DD.MM.YY, hh:mm A" t ∧
        Rendering t (items (pieces "DD.MM.YY, hh:mm A")) "31.02.24, 12:05 pM".toList := by
  have hascii : ("31.02.24, 12:05 pM".toList.all fun c =>
      !Text.isDigit c || Text.isAsciiDigit c) = true := by decide
  refine strictMoment?_eq_some_iff_rendering (by decide) fun c hc hdigit => ?_
  simpa [hdigit] using List.all_eq_true.mp hascii c hc

end FormRules.DateFormat
