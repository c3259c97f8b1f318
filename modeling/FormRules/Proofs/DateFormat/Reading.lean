import FormRules.Proofs.DateFormat.Kind

namespace FormRules.DateFormat

namespace Shape

theorem fits_append_of_length_le {p : Shape} {t : List Char} (h : p.length ≤ t.length)
    (r : List Char) : p.fits (t ++ r) = p.fits t := by
  induction p generalizing t with
  | nil => simp [fits]
  | cons a p ih =>
    cases t with
    | nil => simp at h
    | cons c t => simp [fits, ih (Nat.le_of_succ_le_succ h)]

theorem length_le_of_fits {p : Shape} {s : List Char} (h : p.fits s = true) :
    p.length ≤ s.length := by
  induction p generalizing s with
  | nil => simp
  | cons a p ih =>
    cases s with
    | nil => simp [fits] at h
    | cons c s =>
      simp only [fits, Bool.and_eq_true] at h
      simpa using ih h.2

def OfKind (k : Kind) (p : Shape) : Prop := ∀ a ∈ p, ∀ c, a c = true → kind c = k

theorem OfKind.kind_eq {k : Kind} {p : Shape} {t : List Char} (h : OfKind k p)
    (hlen : p.length = t.length) (hfits : p.fits t = true) : ∀ c ∈ t, kind c = k := by
  induction p generalizing t with
  | nil => simp [List.eq_nil_of_length_eq_zero hlen.symm]
  | cons a p ih =>
    cases t with
    | nil => simp at hlen
    | cons c t =>
      simp only [fits, Bool.and_eq_true] at hfits
      have htail := ih (fun b hb => h b (by simp [hb])) (Nat.succ.inj hlen) hfits.2
      have hhead := h a (by simp) c hfits.1
      simpa [hhead] using htail

end Shape

namespace Directive

def Takes (d : Directive) (t : List Char) : Prop :=
  ∃ p ∈ d.shapes, p.length = t.length ∧ p.fits t = true

def kind : Directive → Kind
  | .monthName | .shortMonthName | .halfDay => .letter
  | _ => .digit

theorem mem_lengths_iff {d : Directive} {n : Nat} {s : List Char} :
    n ∈ d.lengths s ↔ n ≤ s.length ∧ d.Takes (s.take n) := by
  simp only [lengths, List.mem_map, List.mem_filter, Takes, List.length_take]
  constructor
  · rintro ⟨p, ⟨hp, hfits⟩, rfl⟩
    have hle := Shape.length_le_of_fits hfits
    refine ⟨hle, p, hp, by omega, ?_⟩
    rwa [← Shape.fits_append_of_length_le (by simp [hle]) (s.drop p.length), List.take_append_drop]
  · rintro ⟨hle, p, hp, hlen, hfits⟩
    refine ⟨p, ⟨hp, ?_⟩, by omega⟩
    rwa [← Shape.fits_append_of_length_le (by simp [hlen]) (s.drop n),
      List.take_append_drop] at hfits

theorem isAsciiDigit_of_within {lo hi c : Char} (hlo : '0' ≤ lo) (hhi : hi ≤ '9')
    (h : within lo hi c = true) : Text.isAsciiDigit c = true := by
  simp only [within, Bool.and_eq_true, decide_eq_true_eq] at h
  simp only [Text.isAsciiDigit, Bool.and_eq_true, decide_eq_true_eq]
  exact ⟨Char.le_trans hlo h.1, Char.le_trans h.2 hhi⟩

def IsDigits (a : Char → Bool) : Prop := ∀ c, a c = true → Text.isDigit c = true

theorem isDigits_isDigit : IsDigits Text.isDigit := fun _ h => h

theorem isDigits_isAsciiDigit : IsDigits Text.isAsciiDigit :=
  fun _ h => kind_eq_digit_iff.mp (kind_of_isAsciiDigit h)

theorem isDigits_within {lo hi : Char} (hlo : '0' ≤ lo) (hhi : hi ≤ '9') :
    IsDigits (within lo hi) :=
  fun c h => isDigits_isAsciiDigit c (isAsciiDigit_of_within hlo hhi h)

theorem isDigits_is {a : Char} (hlo : '0' ≤ a) (hhi : a ≤ '9') : IsDigits (is a) := by
  intro c h
  obtain rfl := beq_iff_eq.mp h
  exact isDigits_within hlo hhi a (by simp [within])

theorem ofKind_word {w : List Char} (h : w.all isAsciiLetter = true) :
    Shape.OfKind .letter (word w) := by
  intro a ha c hc
  obtain ⟨l, hl, rfl⟩ := List.mem_map.mp ha
  rw [kind_eq_of_sameLetter hc, kind_of_isAsciiLetter (List.all_eq_true.mp h l hl)]

theorem mem_words {ws : List (List Char)} {p : Shape} (h : p ∈ words ws) :
    ∃ w ∈ ws, p = word w := by
  obtain ⟨w, hw, rfl⟩ := List.mem_map.mp h
  obtain ⟨n, -, hw⟩ := List.mem_flatMap.mp hw
  exact ⟨w, (List.mem_filter.mp hw).1, rfl⟩

theorem ofKind_words {ws : List (List Char)} (h : ∀ w ∈ ws, w.all isAsciiLetter = true)
    {p : Shape} (hp : p ∈ words ws) : p.OfKind .letter := by
  obtain ⟨w, hw, rfl⟩ := mem_words hp
  exact ofKind_word (h w hw)

theorem ofKind_of_mem_shapes {d : Directive} {p : Shape} (hp : p ∈ d.shapes) :
    p.OfKind d.kind ∨ d = .day ∧ p = [is ' ', within '1' '9'] := by
  have hdigits {p : Shape} (h : ∀ a ∈ p, IsDigits a) : p.OfKind .digit :=
    fun a ha c hc => kind_eq_digit_iff.mpr (h a ha c hc)
  cases d with
  | monthName => exact .inl (ofKind_words (by decide) hp)
  | shortMonthName => exact .inl (ofKind_words (by decide) hp)
  | halfDay =>
    left
    simp only [shapes, List.mem_cons, List.not_mem_nil, or_false] at hp
    rcases hp with rfl | rfl <;> exact ofKind_word (by decide)
  | fraction =>
    left
    obtain ⟨n, -, rfl⟩ := List.mem_map.mp hp
    apply hdigits
    intro a ha
    rw [List.eq_of_mem_replicate ha]
    exact isDigits_isAsciiDigit
  | day =>
    simp only [shapes, List.mem_cons, List.not_mem_nil, or_false] at hp
    rcases hp with rfl | rfl | rfl | rfl | rfl
    all_goals first
      | exact .inr ⟨rfl, rfl⟩
      | left
        apply hdigits
        simp [isDigits_isDigit, isDigits_is, isDigits_within]
  | _ =>
    left
    simp only [shapes, List.mem_cons, List.not_mem_nil, or_false] at hp
    rcases hp with rfl | rfl | rfl
    all_goals
      apply hdigits
      simp [isDigits_isDigit, isDigits_is, isDigits_within]

theorem lengths_append {d : Directive} {u : List Char} (h : ∀ p ∈ d.shapes, p.length ≤ u.length)
    (r : List Char) : d.lengths (u ++ r) = d.lengths u := by
  unfold lengths
  rw [List.filter_congr fun p hp => Shape.fits_append_of_length_le (h p hp) r]

def widths (d : Directive) : List Nat := d.shapes.map List.length

theorem length_mem_widths {d : Directive} {t : List Char} (h : d.Takes t) :
    t.length ∈ d.widths := by
  obtain ⟨p, hp, hlen, -⟩ := h
  exact List.mem_map.mpr ⟨p, hp, hlen⟩

theorem pos_of_mem_widths {d : Directive} : ∀ n ∈ d.widths, 0 < n := by
  cases d <;> decide

theorem ne_nil_of_takes {d : Directive} {t : List Char} (h : d.Takes t) : t ≠ [] :=
  List.ne_nil_of_length_pos (pos_of_mem_widths _ (length_mem_widths h))

theorem takes_kind {d : Directive} {t : List Char} (h : d.Takes t) :
    (∀ c ∈ t, DateFormat.kind c = d.kind) ∨
      d = .day ∧ ∃ c, t = [' ', c] ∧ DateFormat.kind c = .digit := by
  obtain ⟨p, hp, hlen, hfits⟩ := h
  rcases ofKind_of_mem_shapes hp with hkind | ⟨rfl, rfl⟩
  · exact .inl (hkind.kind_eq hlen hfits)
  · obtain ⟨a, c, rfl⟩ := List.length_eq_two.mp hlen.symm
    simp only [Shape.fits, Bool.and_true, Bool.and_eq_true] at hfits
    obtain rfl := beq_iff_eq.mp hfits.1
    have hc := isAsciiDigit_of_within (by decide) (by decide) hfits.2
    exact .inr ⟨rfl, c, rfl, kind_of_isAsciiDigit hc⟩

end Directive

/-- The text falls into segments that the steps take, one for each step. The parts are the segments
of the directives. -/
inductive Reading : List Step → List Char → Parts → Prop
  | nil : Reading [] [] []
  | char {ps : List Step} {s : List Char} {parts : Parts} {c d : Char} :
      Text.sameLetter c d = true → Reading ps s parts → Reading (.char c :: ps) (d :: s) parts
  | blanks {ps : List Step} {t s : List Char} {parts : Parts} :
      t ≠ [] → (∀ c ∈ t, Text.isBlank c = true) → Reading ps s parts →
        Reading (.blanks :: ps) (t ++ s) parts
  | field {ps : List Step} {t s : List Char} {parts : Parts} {d : Directive} :
      d.Takes t → Reading ps s parts → Reading (.field d :: ps) (t ++ s) ((d, t) :: parts)

theorem reading_of_readSteps? {ps : List Step} {s r : List Char} {parts : Parts}
    (h : readSteps? ps s = some (parts, r)) : ∃ t, s = t ++ r ∧ Reading ps t parts := by
  induction ps generalizing s parts with
  | nil =>
    obtain ⟨rfl, rfl⟩ : parts = [] ∧ s = r := by simpa [readSteps?, eq_comm] using h
    exact ⟨[], rfl, .nil⟩
  | cons p ps ih =>
    cases p with
    | field d =>
      simp only [readSteps?, List.findSome?_eq_some_iff] at h
      obtain ⟨_, n, _, hlengths, hn, -⟩ := h
      have hmem : n ∈ d.lengths s := by simp [hlengths]
      obtain ⟨hle, htakes⟩ := Directive.mem_lengths_iff.mp hmem
      obtain ⟨⟨parts', r'⟩, hrest, heq⟩ := Option.map_eq_some_iff.mp hn
      obtain ⟨rfl, rfl⟩ := Prod.mk.inj heq
      obtain ⟨t, ht, hreading⟩ := ih hrest
      refine ⟨s.take n ++ t, ?_, .field htakes hreading⟩
      rw [List.append_assoc, ← ht, List.take_append_drop]
    | char c =>
      cases s with
      | nil => simp [readSteps?] at h
      | cons d s =>
        simp only [readSteps?] at h
        split at h
        · next hsame =>
            obtain ⟨t, rfl, hreading⟩ := ih h
            exact ⟨d :: t, rfl, .char hsame hreading⟩
        · cases h
    | blanks =>
      simp only [readSteps?, List.findSome?_eq_some_iff] at h
      obtain ⟨_, n, _, hlengths, hn, -⟩ := h
      have hmem : n ∈ (List.range (s.takeWhile Text.isBlank).length).map
          ((s.takeWhile Text.isBlank).length - ·) := by simp [hlengths]
      obtain ⟨hpos, hle⟩ := mem_runLengths_iff.mp hmem
      obtain ⟨hle, hblank⟩ := le_length_takeWhile_iff.mp hle
      obtain ⟨t, ht, hreading⟩ := ih hn
      refine ⟨s.take n ++ t, ?_, .blanks ?_ hblank hreading⟩
      · rw [List.append_assoc, ← ht, List.take_append_drop]
      · simpa using ⟨by omega, List.ne_nil_of_length_pos (by omega)⟩

def Element.kind : Element → Kind
  | .char c => DateFormat.kind c
  | .field d => d.kind

def Step.kind : Step → Kind
  | .char c => DateFormat.kind c
  | .field d => d.kind
  | .blanks => .blank

def Step.directive? : Step → Option Directive
  | .field d => some d
  | _ => none

theorem steps_char_of_isBlank {c : Char} (hc : Text.isBlank c = true) (es : List Element) :
    steps (.char c :: es) = if (steps es).head? = some .blanks then steps es
      else .blanks :: steps es := by
  simp only [steps, hc, if_true]
  cases steps es with
  | nil => simp
  | cons p ps => cases p <;> simp

theorem not_isBlank_of_char_mem_steps {es : List Element} {c : Char} (h : .char c ∈ steps es) :
    ¬Text.isBlank c = true := by
  induction es with
  | nil => simp [steps] at h
  | cons e es ih =>
    cases e with
    | field d => exact ih (by simpa [steps] using h)
    | char d =>
      by_cases hd : Text.isBlank d = true
      · rw [steps_char_of_isBlank hd] at h
        split at h
        · exact ih h
        · exact ih (by simpa using h)
      · simp only [steps, hd] at h
        rcases List.mem_cons.mp h with h | h
        · cases h
          exact hd
        · exact ih h

theorem filterMap_directive?_steps (es : List Element) :
    (steps es).filterMap Step.directive? = directives es := by
  induction es with
  | nil => rfl
  | cons e es ih =>
    cases e with
    | field d => simpa [steps, directives, Step.directive?] using ih
    | char c =>
      by_cases hc : Text.isBlank c = true
      · rw [steps_char_of_isBlank hc]
        split <;> simpa [List.filterMap_cons, directives, Step.directive?] using ih
      · simpa [List.filterMap_cons, steps, hc, directives, Step.directive?] using ih

theorem head?_map_kind_steps (es : List Element) :
    ((steps es).map Step.kind).head? = (es.map Element.kind).head? := by
  cases es with
  | nil => rfl
  | cons e es =>
    cases e with
    | field d => rfl
    | char c =>
      by_cases hc : Text.isBlank c = true
      · have hkind := kind_eq_blank_iff.mpr hc
        rw [steps_char_of_isBlank hc]
        split
        · next h => simp [h, Step.kind, Element.kind, hkind]
        · simp [Step.kind, Element.kind, hkind]
      · simp [steps, hc, Step.kind, Element.kind]

theorem changes_steps (es : List Element) :
    changes ((steps es).map Step.kind) = changes (es.map Element.kind) := by
  induction es with
  | nil => rfl
  | cons e es ih =>
    have hhead := head?_map_kind_steps es
    cases e with
    | field d =>
      simp only [steps, List.map_cons]
      rw [changes_cons, hhead, ih, ← changes_cons]
      rfl
    | char c =>
      by_cases hc : Text.isBlank c = true
      · have hkind := kind_eq_blank_iff.mpr hc
        rw [steps_char_of_isBlank hc, List.map_cons, changes_cons, ← hhead, ← ih]
        split
        · next h => simp [h, Step.kind, Element.kind, hkind]
        · rw [List.map_cons, changes_cons]
          simp [Step.kind, Element.kind, hkind]
      · simp only [steps, hc, List.map_cons]
        rw [if_neg (by simp), List.map_cons, changes_cons, hhead, ih, ← changes_cons]
        rfl

def Even (parts : Parts) : Prop := ∀ p ∈ parts, ∀ c ∈ p.2, kind c = p.1.kind

/-- The same parts, but for a blank before a day. -/
def SameButBlank (parts parts' : Parts) : Prop :=
  parts = parts' ∨ ∃ before after t,
    parts = before ++ (.day, ' ' :: t) :: after ∧ parts' = before ++ (.day, t) :: after

namespace Reading

variable {ps qs : List Step} {s s' : List Char} {parts parts' : Parts}

theorem append (h : Reading ps s parts) (h' : Reading qs s' parts') :
    Reading (ps ++ qs) (s ++ s') (parts ++ parts') := by
  induction h with
  | nil => exact h'
  | char hc _ ih => exact .char hc ih
  | blanks hne hb _ ih => simpa using Reading.blanks hne hb ih
  | field ht _ ih => simpa using Reading.field ht ih

theorem append_inv (h : Reading (ps ++ qs) s parts) :
    ∃ s₁ s₂ parts₁ parts₂, s = s₁ ++ s₂ ∧ parts = parts₁ ++ parts₂ ∧
      Reading ps s₁ parts₁ ∧ Reading qs s₂ parts₂ := by
  induction ps generalizing s parts with
  | nil => exact ⟨[], s, [], parts, rfl, rfl, .nil, h⟩
  | cons p ps ih =>
    cases h with
    | char hc h =>
      obtain ⟨s₁, s₂, parts₁, parts₂, rfl, rfl, h₁, h₂⟩ := ih h
      exact ⟨_ :: s₁, s₂, parts₁, parts₂, rfl, rfl, .char hc h₁, h₂⟩
    | blanks hne hb h =>
      obtain ⟨s₁, s₂, parts₁, parts₂, rfl, rfl, h₁, h₂⟩ := ih h
      exact ⟨_, s₂, parts₁, parts₂, by simp, rfl, .blanks hne hb h₁, h₂⟩
    | field ht h =>
      obtain ⟨s₁, s₂, parts₁, parts₂, rfl, rfl, h₁, h₂⟩ := ih h
      exact ⟨_, s₂, _, parts₂, by simp, rfl, .field ht h₁, h₂⟩

theorem runs (h : Reading ps s parts) (heven : Even parts) : Runs (ps.map Step.kind) s := by
  induction h with
  | nil => exact .nil
  | char hc _ ih =>
    exact .cons (t := [_]) (by simp) (by simpa [Step.kind] using kind_eq_of_sameLetter hc)
      (ih heven)
  | blanks hne hb _ ih =>
    exact .cons hne (fun c hc => kind_eq_blank_iff.mpr (hb c hc)) (ih heven)
  | field ht _ ih =>
    obtain ⟨hhead, htail⟩ := List.forall_mem_cons.mp heven
    exact .cons (Directive.ne_nil_of_takes ht) hhead (ih htail)

theorem map_fst (h : Reading ps s parts) :
    parts.map Prod.fst = ps.filterMap Step.directive? := by
  induction h with
  | nil => rfl
  | char _ _ ih => simpa [List.filterMap_cons, Step.directive?] using ih
  | blanks _ _ _ ih => simpa [List.filterMap_cons, Step.directive?] using ih
  | field _ _ ih => simpa [List.filterMap_cons, Step.directive?] using ih

theorem split_at_part {p : Directive × List Char} {before after : Parts} (h : Reading ps s parts)
    (hparts : parts = before ++ p :: after) :
    ∃ ps₁ ps₂ s₁ s₂, ps = ps₁ ++ .field p.1 :: ps₂ ∧ s = s₁ ++ (p.2 ++ s₂) ∧ p.1.Takes p.2 ∧
      Reading ps₁ s₁ before ∧ Reading ps₂ s₂ after := by
  induction h generalizing before with
  | nil => simp at hparts
  | char hc h ih =>
    obtain ⟨ps₁, ps₂, s₁, s₂, rfl, rfl, ht, h₁, h₂⟩ := ih hparts
    exact ⟨_ :: ps₁, ps₂, _ :: s₁, s₂, rfl, rfl, ht, .char hc h₁, h₂⟩
  | blanks hne hb h ih =>
    obtain ⟨ps₁, ps₂, s₁, s₂, rfl, rfl, ht, h₁, h₂⟩ := ih hparts
    exact ⟨_ :: ps₁, ps₂, _ ++ s₁, s₂, rfl, by simp, ht, .blanks hne hb h₁, h₂⟩
  | @field ps t s parts d ht h ih =>
    cases before with
    | nil =>
      obtain ⟨rfl, rfl⟩ := List.cons.inj hparts
      exact ⟨[], ps, [], s, rfl, rfl, ht, .nil, h⟩
    | cons q before =>
      obtain ⟨rfl, rfl⟩ := List.cons.inj hparts
      obtain ⟨ps₁, ps₂, s₁, s₂, rfl, rfl, ht', h₁, h₂⟩ := ih rfl
      exact ⟨_ :: ps₁, ps₂, _ ++ s₁, s₂, rfl, by simp, ht', .field ht h₁, h₂⟩

theorem takes (h : Reading ps s parts) : ∀ p ∈ parts, p.1.Takes p.2 := by
  induction h with
  | nil => simp
  | char _ _ ih => exact ih
  | blanks _ _ _ ih => exact ih
  | field ht _ ih => exact List.forall_mem_cons.mpr ⟨ht, ih⟩

end Reading

theorem day_takes_digit {c : Char} (h : Directive.day.Takes [' ', c]) :
    Directive.day.Takes [c] := by
  obtain ⟨p, hp, hlen, hfits⟩ := h
  refine ⟨[within '1' '9'], by simp [Directive.shapes], rfl, ?_⟩
  simp only [Directive.shapes, List.mem_cons, List.not_mem_nil, or_false] at hp
  rcases hp with rfl | rfl | rfl | rfl | rfl
  · simp [Shape.fits, is] at hfits
  · simp [Shape.fits, within] at hfits
  · simp [Shape.fits, is] at hfits
  · simp at hlen
  · simpa [Shape.fits, is] using hfits

theorem eq_append_blanks {es : List Element} {ps₁ ps₂ : List Step} {ks : List Kind}
    (h : steps es = ps₁ ++ ps₂) (hks : ps₁.map Step.kind = ks ++ [.blank]) :
    ∃ ps, ps₁ = ps ++ [.blanks] := by
  obtain ⟨ps, qs, rfl, -, hq⟩ := List.map_eq_append_iff.mp hks
  obtain ⟨q, rfl, hkind⟩ := List.map_eq_singleton_iff.mp hq
  refine ⟨ps, ?_⟩
  cases q with
  | field d => cases d <;> cases hkind
  | char c =>
    have hmem : .char c ∈ steps es := by simp [h]
    exact absurd (kind_eq_blank_iff.mp hkind) (not_isBlank_of_char_mem_steps hmem)
  | blanks => rfl

theorem even_of_day_notMem {parts : Parts} (htakes : ∀ p ∈ parts, p.1.Takes p.2)
    (hday : .day ∉ parts.map Prod.fst) : Even parts := by
  intro p hp
  rcases Directive.takes_kind (htakes p hp) with hkind | ⟨h, -⟩
  · exact hkind
  · exact absurd (List.mem_map.mpr ⟨p, hp, h⟩) hday

theorem exists_even_reading {es : List Element} {s : List Char} {parts : Parts}
    (hchanges : changes (s.map kind) = changes (es.map Element.kind))
    (hnodup : (parts.map Prod.fst).Nodup) (h : Reading (steps es) s parts) :
    ∃ parts', Reading (steps es) s parts' ∧ Even parts' ∧ SameButBlank parts parts' := by
  by_cases heven : Even parts
  · exact ⟨parts, h, heven, .inl rfl⟩
  obtain ⟨p, hp, hodd⟩ : ∃ p ∈ parts, ¬∀ c ∈ p.2, kind c = p.1.kind := by
    simpa [Even] using heven
  rcases Directive.takes_kind (h.takes p hp) with hkind | ⟨hday, c, hc, hdigit⟩
  · exact absurd hkind hodd
  obtain ⟨before, after, rfl⟩ := List.append_of_mem hp
  obtain ⟨d, t⟩ := p
  obtain rfl : d = .day := hday
  obtain rfl : t = [' ', c] := hc
  obtain ⟨ps₁, ps₂, s₁, s₂, hps, rfl, ht, h₁, h₂⟩ := h.split_at_part rfl
  rw [List.map_append, List.map_cons, List.perm_middle.nodup_iff, List.nodup_cons, List.mem_append,
    not_or] at hnodup
  have hbefore := even_of_day_notMem h₁.takes hnodup.1.1
  have hafter := even_of_day_notMem h₂.takes hnodup.1.2
  -- The blank is a run of its own, and so it has to join the blanks before it.
  have hday : Runs (.blank :: .digit :: ps₂.map Step.kind) ([' '] ++ ([c] ++ s₂)) :=
    .cons (by simp) (List.forall_mem_singleton.mpr (by decide))
      (.cons (by simp) (by simpa using hdigit) (h₂.runs hafter))
  have hruns := ((h₁.runs hbefore).append hday).changes_eq
  rw [← changes_steps, hps, List.map_append (f := Step.kind), List.map_cons (f := Step.kind)]
    at hchanges
  obtain ⟨ks, hks⟩ := eq_append_blank_of_changes_eq (hruns.symm.trans hchanges)
  obtain ⟨ps, rfl⟩ := eq_append_blanks hps hks
  obtain ⟨u, w, parts₁, parts₂, rfl, rfl, hu, hw⟩ := h₁.append_inv
  cases hw with
  | @blanks _ w _ _ hne hb hw =>
    cases hw
    have hw' : Reading [.blanks] (w ++ [' '] ++ []) [] := by
      refine .blanks (by simp) ?_ .nil
      intro a ha
      rcases List.mem_append.mp ha with ha | ha
      · exact hb a ha
      · rw [List.mem_singleton.mp ha]
        decide
    have hnew := (hu.append hw').append (.field (day_takes_digit ht) h₂)
    refine ⟨_, ?_, ?_, .inr ⟨_, after, [c], rfl, rfl⟩⟩
    · rw [hps]
      simpa using hnew
    · intro q hq
      rcases List.mem_append.mp hq with hq | hq
      · exact hbefore q hq
      · rcases List.mem_cons.mp hq with rfl | hq
        · simpa [Directive.kind] using hdigit
        · exact hafter q hq

end FormRules.DateFormat
