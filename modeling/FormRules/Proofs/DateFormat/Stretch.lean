import FormRules.Proofs.DateFormat.Reading

/-! Stretches of a format, within which all characters are of one kind. A cut and a reading of one
text agree where stretches meet; within a stretch they agree if its tokens do not mix. -/

namespace FormRules.DateFormat

namespace Item

def kind (i : Item) : Kind := i.element.kind

def step : Item → Step
  | .char c => .char c
  | .token t => .field t.directive

theorem kind_step (i : Item) : i.step.kind = i.kind := by
  cases i <;> rfl

def isFixed : Item → Bool
  | .char _ => true
  | .token t => t.directive = .year || t.directive = .shortYear || t.directive = .halfDay

def isTight : Item → Bool
  | .char _ => true
  | .token t => isFixed (.token t) || t.width = .digits 2

def isLax : Item → Bool
  | .char c => DateFormat.kind c ≠ .letter
  | .token t => isFixed (.token t) || t.width = .oneOrTwoDigits || t.width = .letters

end Item

/-- The tokens of a stretch do not mix: each is lax, or each is tight, or only one is not fixed. -/
def Unmixed (g : List Item) : Prop :=
  (∀ i ∈ g, i.isLax = true) ∨ (∀ i ∈ g, i.isTight = true) ∨ (g.filter (!·.isFixed)).length ≤ 1

instance (g : List Item) : Decidable (Unmixed g) :=
  inferInstanceAs (Decidable (_ ∨ _ ∨ _))

def stretches (is : List Item) : List (List Item) := is.splitBy fun i j => i.kind == j.kind

inductive Stretched : List (List Item) → Prop
  | nil : Stretched []
  | cons {g : List Item} {gs : List (List Item)} (k : Kind) :
      g ≠ [] → (∀ i ∈ g, i.kind = k) → (gs.flatten.map Item.kind).head? ≠ some k → Stretched gs →
        Stretched (g :: gs)

theorem kind_eq_of_isChain {i : Item} {g : List Item}
    (h : (i :: g).IsChain fun i j => (i.kind == j.kind) = true) :
    ∀ j ∈ i :: g, j.kind = i.kind := by
  induction g generalizing i with
  | nil => simp
  | cons j g ih =>
    obtain ⟨hij, h⟩ := List.isChain_cons_cons.mp h
    rw [List.forall_mem_cons]
    refine ⟨rfl, fun l hl => ?_⟩
    rw [ih h l hl, beq_iff_eq.mp hij]

theorem stretched_stretches (is : List Item) : Stretched (stretches is) := by
  have hne : ∀ g ∈ stretches is, g ≠ [] := fun g hg => List.ne_nil_of_mem_splitBy hg
  have hkind : ∀ g ∈ stretches is, g.IsChain fun i j => (i.kind == j.kind) = true :=
    fun g hg => List.isChain_of_mem_splitBy hg
  have hnext := List.isChain_getLast_head_splitBy (fun i j : Item => i.kind == j.kind) is
  change (stretches is).IsChain _ at hnext
  revert hne hkind hnext
  generalize stretches is = gs
  intro hne hkind hnext
  induction gs with
  | nil => exact .nil
  | cons g gs ih =>
    obtain ⟨i, g, rfl⟩ := List.exists_cons_of_ne_nil (hne g (by simp))
    have hg := kind_eq_of_isChain (hkind (i :: g) (by simp))
    refine .cons i.kind (by simp) hg ?_ (ih (fun g hg => hne g (by simp [hg]))
      (fun g hg => hkind g (by simp [hg])) (List.isChain_cons.mp hnext).2)
    cases gs with
    | nil => simp
    | cons g' gs =>
      obtain ⟨ha, hb, h⟩ := (List.isChain_cons.mp hnext).1 g' (by simp)
      obtain ⟨j, g', rfl⟩ := List.exists_cons_of_ne_nil hb
      rw [hg _ (List.getLast_mem ha), beq_eq_false_iff_ne] at h
      simpa using h.symm

def Width.kind : Width → Kind
  | .digits _ | .oneOrTwoDigits => .digit
  | .letters | .halfDayMark => .letter

theorem isAsciiLetter_of_asciiLower_eq {c a : Char} (ha : 'a' ≤ a ∧ a ≤ 'z')
    (h : Text.asciiLower c = a) : isAsciiLetter c = true := by
  simpa [isAsciiLetter, h] using ha

theorem isAsciiLetter_of_halfDayMark {u : List Char} (h : Width.halfDayMark.Takes u) :
    ∀ c ∈ u, isAsciiLetter c = true := by
  obtain ⟨a, m, rfl, ha, hm⟩ := h
  have hm := isAsciiLetter_of_asciiLower_eq (by decide) hm
  rcases ha with ha | ha
  · simpa [hm] using isAsciiLetter_of_asciiLower_eq (by decide) ha
  · simpa [hm] using isAsciiLetter_of_asciiLower_eq (by decide) ha

theorem Width.kind_eq_of_takes {w : Width} {u : List Char} (h : w.Takes u) :
    ∀ c ∈ u, DateFormat.kind c = w.kind := by
  intro c hc
  cases w with
  | digits n => exact kind_eq_digit_iff.mpr (h.2 c hc)
  | oneOrTwoDigits => exact kind_eq_digit_iff.mpr (h.2 c hc)
  | letters => exact kind_of_isAsciiLetter (h.2 c hc)
  | halfDayMark => exact kind_of_isAsciiLetter (isAsciiLetter_of_halfDayMark h c hc)

theorem kind_directive {t : Token} (ht : t ∈ tokens) : t.directive.kind = t.width.kind := by
  revert t
  decide

theorem ne_nil_of_width_takes {t : Token} (ht : t ∈ tokens) {u : List Char} (h : t.width.Takes u) :
    u ≠ [] := by
  rintro rfl
  have hzero : t.width = .digits 0 := by
    cases hw : t.width <;> simp_all [Width.Takes]
  exact absurd hzero ((by decide : ∀ t ∈ tokens, t.width ≠ .digits 0) t ht)

namespace Cut

variable {is : List Item} {s : List Char} {parts : Parts}

theorem runs (h : Cut is s parts) (htab : Tabled is) : Runs (is.map Item.kind) s := by
  induction h with
  | nil => exact .nil
  | char c _ ih =>
    obtain ⟨-, htail⟩ := tabled_cons.mp htab
    exact (ih htail).cons_char c
  | token t hu _ ih =>
    obtain ⟨hhead, htail⟩ := tabled_cons.mp htab
    have ht := hhead t (by simp)
    refine .cons (ne_nil_of_width_takes ht hu) ?_ (ih htail)
    intro c hc
    rw [Width.kind_eq_of_takes hu c hc]
    exact (kind_directive ht).symm

theorem even (h : Cut is s parts) (htab : Tabled is) : Even parts := by
  intro p hp c hc
  obtain ⟨t, ht, hd, hu, -⟩ := h.exists_token hp
  rw [Width.kind_eq_of_takes hu c hc, ← hd]
  exact (kind_directive (htab t ht)).symm

end Cut

theorem Runs.kind_eq {ks : List Kind} {s : List Char} {k : Kind} (h : Runs ks s)
    (hks : ∀ j ∈ ks, j = k) : ∀ c ∈ s, kind c = k := by
  induction h with
  | nil => simp
  | cons _ hk _ ih =>
    obtain ⟨rfl, htail⟩ := List.forall_mem_cons.mp hks
    intro c hc
    rcases List.mem_append.mp hc with hc | hc
    · exact hk c hc
    · exact ih htail c hc

theorem append_inj_of_kind {k : Kind} {s₁ s₂ t₁ t₂ : List Char} (h : s₁ ++ s₂ = t₁ ++ t₂)
    (hs₁ : ∀ c ∈ s₁, kind c = k) (ht₁ : ∀ c ∈ t₁, kind c = k)
    (hs₂ : s₂.head?.map kind ≠ some k) (ht₂ : t₂.head?.map kind ≠ some k) :
    s₁ = t₁ ∧ s₂ = t₂ := by
  have htakeWhile {a b : List Char} (ha : ∀ c ∈ a, kind c = k) (hb : b.head?.map kind ≠ some k) :
      (a ++ b).takeWhile (fun c => kind c == k) = a := by
    rw [List.takeWhile_append_of_pos (by simpa using ha)]
    cases b with
    | nil => simp
    | cons c b => simp [show kind c ≠ k by simpa using hb]
  have hfirst : s₁ = t₁ := by
    rw [← htakeWhile hs₁ hs₂, ← htakeWhile ht₁ ht₂, h]
  subst hfirst
  exact ⟨rfl, List.append_cancel_left h⟩

theorem Stretched.append_inj {gs gs' : List (List Item)} (hgs : Stretched (gs ++ gs'))
    {s₁ s₂ t₁ t₂ : List Char} (hs₁ : Runs (gs.flatten.map Item.kind) s₁)
    (ht₁ : Runs (gs.flatten.map Item.kind) t₁) (hs₂ : Runs (gs'.flatten.map Item.kind) s₂)
    (ht₂ : Runs (gs'.flatten.map Item.kind) t₂) (h : s₁ ++ s₂ = t₁ ++ t₂) : s₁ = t₁ ∧ s₂ = t₂ := by
  induction gs generalizing s₁ t₁ with
  | nil =>
    cases hs₁
    cases ht₁
    exact ⟨rfl, h⟩
  | cons g gs ih =>
    cases hgs with
    | cons k hne hk hnext hgs =>
      rw [List.flatten_cons, List.map_append] at hs₁ ht₁
      obtain ⟨a, a', rfl, ha, ha'⟩ := hs₁.append_inv
      obtain ⟨b, b', rfl, hb, hb'⟩ := ht₁.append_inv
      have hkinds : ∀ j ∈ g.map Item.kind, j = k := by simpa using hk
      change ((gs ++ gs').flatten.map Item.kind).head? ≠ some k at hnext
      rw [List.flatten_append, List.map_append] at hnext
      rw [List.append_assoc, List.append_assoc] at h
      obtain ⟨rfl, hrest⟩ := append_inj_of_kind h (ha.kind_eq hkinds) (hb.kind_eq hkinds)
        ((ha'.append hs₂).head?_eq ▸ hnext) ((hb'.append ht₂).head?_eq ▸ hnext)
      obtain ⟨rfl, hs⟩ := ih hgs ha' hb' hrest
      exact ⟨rfl, hs⟩

theorem exists_blank_of_kind_eq {i : Item} (h : i.kind = .blank) :
    ∃ c, i = .char c ∧ Text.isBlank c = true := by
  cases i with
  | char c => exact ⟨c, rfl, kind_eq_blank_iff.mp h⟩
  | token t => cases hd : t.directive <;> simp [Item.kind, Item.element, Element.kind, hd,
      Directive.kind] at h

theorem steps_append_of_ne_blank {g : List Item} (hg : ∀ i ∈ g, i.kind ≠ .blank) (is : List Item) :
    steps ((g ++ is).map Item.element) = g.map Item.step ++ steps (is.map Item.element) := by
  induction g with
  | nil => rfl
  | cons i g ih =>
    obtain ⟨hi, hrest⟩ := List.forall_mem_cons.mp hg
    have ih := ih hrest
    rw [List.map_append] at ih
    cases i with
    | char c =>
      have hc : ¬Text.isBlank c = true := fun h => hi (kind_eq_blank_iff.mpr h)
      simp [Item.element, Item.step, steps, hc, ih]
    | token t => simp [Item.element, Item.step, steps, ih]

theorem steps_append_of_blank {g is : List Item} (hne : g ≠ []) (hg : ∀ i ∈ g, i.kind = .blank)
    (his : (is.map Item.kind).head? ≠ some .blank) :
    steps ((g ++ is).map Item.element) = .blanks :: steps (is.map Item.element) := by
  induction g with
  | nil => exact absurd rfl hne
  | cons i g ih =>
    obtain ⟨hi, hrest⟩ := List.forall_mem_cons.mp hg
    obtain ⟨c, rfl, hc⟩ := exists_blank_of_kind_eq hi
    rw [List.cons_append, List.map_cons, Item.element, steps_char_of_isBlank hc]
    cases g with
    | nil =>
      have hhead := head?_map_kind_steps (is.map Item.element)
      rw [List.map_map] at hhead
      rw [List.nil_append, if_neg]
      intro h
      apply his
      change (is.map (Element.kind ∘ Item.element)).head? = _
      simp [← hhead, h, Step.kind]
    | cons j g =>
      rw [ih (by simp) hrest]
      simp

theorem steps_append {is js : List Item} (hjs : (js.map Item.kind).head? ≠ some .blank) :
    steps ((is ++ js).map Item.element) =
      steps (is.map Item.element) ++ steps (js.map Item.element) := by
  have hhead : (steps (js.map Item.element)).head? ≠ some .blanks := by
    intro h
    have hkind := head?_map_kind_steps (js.map Item.element)
    rw [List.head?_map, h, List.map_map] at hkind
    exact hjs hkind.symm
  induction is with
  | nil => rfl
  | cons i is ih =>
    rw [List.map_append] at ih
    cases i with
    | token t => simp [Item.element, steps, ih]
    | char c =>
      by_cases hc : Text.isBlank c = true
      · rw [List.cons_append, List.map_cons, List.map_cons, Item.element, steps_char_of_isBlank hc,
          steps_char_of_isBlank hc, List.map_append, ih]
        cases steps (is.map Item.element) with
        | nil => simp [hhead]
        | cons p ps => by_cases hp : p = .blanks <;> simp [hp]
      · simp [Item.element, steps, hc, ih]

def Token.size (n : Nat) (t : Token) : Nat :=
  match t.width with
  | .digits k => k
  | .halfDayMark => 2
  | _ => n

theorem length_of_isTight {t : Token} (ht : (Item.token t).isTight = true) (hmem : t ∈ tokens)
    {u : List Char} (h : t.width.Takes u) : u.length = t.size 2 := by
  unfold Token.size
  cases hw : t.width with
  | digits n => simpa [hw, Width.Takes] using (hw ▸ h).1
  | halfDayMark =>
    obtain ⟨a, m, rfl, -⟩ := hw ▸ h
    rfl
  | oneOrTwoDigits =>
    exact absurd hw ((by decide : ∀ t ∈ tokens, (Item.token t).isTight = true →
      t.width ≠ .oneOrTwoDigits) t hmem ht)
  | letters =>
    exact absurd hw ((by decide : ∀ t ∈ tokens, (Item.token t).isTight = true →
      t.width ≠ .letters) t hmem ht)

theorem length_le_of_isTight {t : Token} (ht : (Item.token t).isTight = true) (hmem : t ∈ tokens)
    {u : List Char} (h : t.directive.Takes u) : u.length ≤ t.size 2 := by
  have hwidths : ∀ t ∈ tokens, (Item.token t).isTight = true → ∀ n ∈ t.directive.widths,
      n ≤ t.size 2 := by decide
  exact hwidths t hmem ht _ (Directive.length_mem_widths h)

theorem length_of_isFixed {t : Token} (ht : (Item.token t).isFixed = true) (hmem : t ∈ tokens)
    {u : List Char} (h : t.directive.Takes u) : u.length = t.size 2 := by
  have hwidths : ∀ t ∈ tokens, (Item.token t).isFixed = true → ∀ n ∈ t.directive.widths,
      n = t.size 2 := by decide
  exact hwidths t hmem ht _ (Directive.length_mem_widths h)

theorem caseFold_of_isAsciiLetter {c : Char} (h : isAsciiLetter c = true) :
    Text.caseFold c = Text.asciiLower c := by
  rw [isAsciiLetter_iff] at h
  unfold Text.caseFold
  split <;> first | omega | rfl

theorem width_takes_of_isLax {t : Token} (ht : (Item.token t).isLax = true) (hmem : t ∈ tokens)
    {u : List Char} (h : t.directive.Takes u) (hkind : ∀ c ∈ u, kind c = t.directive.kind)
    (hascii : ∀ c ∈ u, kind c = .letter → isAsciiLetter c = true) : t.width.Takes u := by
  rw [kind_directive hmem] at hkind
  cases hw : t.width with
  | digits n =>
    have hfixed : (Item.token t).isFixed = true := by simpa [Item.isLax, hw] using ht
    have hlen := length_of_isFixed hfixed hmem h
    rw [hw] at hkind
    exact ⟨by simpa [Token.size, hw] using hlen, fun c hc => kind_eq_digit_iff.mp (hkind c hc)⟩
  | oneOrTwoDigits =>
    have hwidths : ∀ t ∈ tokens, t.width = .oneOrTwoDigits → ∀ n ∈ t.directive.widths,
        n = 1 ∨ n = 2 := by decide
    rw [hw] at hkind
    exact ⟨hwidths t hmem hw _ (Directive.length_mem_widths h),
      fun c hc => kind_eq_digit_iff.mp (hkind c hc)⟩
  | letters =>
    rw [hw] at hkind
    exact ⟨Directive.ne_nil_of_takes h, fun c hc => hascii c hc (hkind c hc)⟩
  | halfDayMark =>
    have hdirective : ∀ t ∈ tokens, t.width = .halfDayMark → t.directive = .halfDay := by decide
    rw [hdirective t hmem hw] at h
    rw [hw] at hkind
    have hlower : ∀ c ∈ u, Text.asciiLower c = Text.caseFold c :=
      fun c hc => (caseFold_of_isAsciiLetter (hascii c hc (hkind c hc))).symm
    obtain ⟨p, hp, hlen, hfits⟩ := h
    obtain ⟨x, hx, rfl⟩ : ∃ x, (x = 'a' ∨ x = 'p') ∧ p = word [x, 'm'] := by
      simp only [Directive.shapes, List.mem_cons, List.not_mem_nil, or_false] at hp
      rcases hp with rfl | rfl <;> simp
    obtain ⟨a, m, rfl⟩ := List.length_eq_two.mp hlen.symm
    simp only [word, List.map_cons, Shape.fits, Text.sameLetter, Bool.and_eq_true,
      beq_iff_eq] at hfits
    refine ⟨a, m, rfl, ?_, ?_⟩
    · rw [hlower a (by simp), ← hfits.1]
      rcases hx with rfl | rfl <;> decide
    · rw [hlower m (by simp), ← hfits.2.1]
      decide

def Item.size : Item → Nat
  | .char _ => 1
  | .token t => t.size 2

section Group

variable {g : List Item} {s : List Char} {parts parts' : Parts}

theorem Cut.length_eq (h : Cut g s parts) (htab : Tabled g) (ht : ∀ i ∈ g, i.isTight = true) :
    s.length = (g.map Item.size).sum := by
  induction h with
  | nil => rfl
  | char c _ ih =>
    simp [Item.size, ih (tabled_cons.mp htab).2 (List.forall_mem_cons.mp ht).2, Nat.add_comm]
  | token t hu _ ih =>
    obtain ⟨hmem, hrest⟩ := tabled_cons.mp htab
    obtain ⟨htight, htail⟩ := List.forall_mem_cons.mp ht
    simp [Item.size, ih hrest htail, length_of_isTight htight (hmem t (by simp)) hu]

theorem Reading.length_le (h : Reading (g.map Item.step) s parts) (htab : Tabled g)
    (ht : ∀ i ∈ g, i.isTight = true) : s.length ≤ (g.map Item.size).sum := by
  induction g generalizing s parts with
  | nil => cases h; rfl
  | cons i g ih =>
    obtain ⟨hmem, hrest⟩ := tabled_cons.mp htab
    obtain ⟨htight, htail⟩ := List.forall_mem_cons.mp ht
    cases i with
    | char c =>
      cases h with
      | char _ h => simpa [Item.size, Nat.add_comm] using ih h hrest htail
    | token t =>
      cases h with
      | field hu h =>
        have := length_le_of_isTight htight (hmem t (by simp)) hu
        have := ih h hrest htail
        simp only [List.length_append, List.map_cons, List.sum_cons, Item.size]
        omega

theorem Reading.length_eq (h : Reading (g.map Item.step) s parts) (htab : Tabled g)
    (hf : ∀ i ∈ g, i.isFixed = true) : s.length = (g.map Item.size).sum := by
  induction g generalizing s parts with
  | nil => cases h; rfl
  | cons i g ih =>
    obtain ⟨hmem, hrest⟩ := tabled_cons.mp htab
    obtain ⟨hfixed, htail⟩ := List.forall_mem_cons.mp hf
    cases i with
    | char c =>
      cases h with
      | char _ h => simpa [Item.size, Nat.add_comm] using ih h hrest htail
    | token t =>
      cases h with
      | field hu h =>
        have := length_of_isFixed hfixed (hmem t (by simp)) hu
        have := ih h hrest htail
        simp only [List.length_append, List.map_cons, List.sum_cons, Item.size]
        omega

theorem Item.isTight_of_isFixed {i : Item} (h : i.isFixed = true) : i.isTight = true := by
  cases i with
  | char c => rfl
  | token t => simp [Item.isTight, h]

theorem parts_eq_of_isTight (hcut : Cut g s parts) (h : Reading (g.map Item.step) s parts')
    (htab : Tabled g) (ht : ∀ i ∈ g, i.isTight = true) : parts' = parts := by
  induction hcut generalizing parts' with
  | nil => cases h; rfl
  | char c _ ih =>
    cases h with
    | char _ h => exact ih h (tabled_cons.mp htab).2 (List.forall_mem_cons.mp ht).2
  | @token g s parts t u hu hcut ih =>
    obtain ⟨hmem, hrest⟩ := tabled_cons.mp htab
    obtain ⟨htight, htail⟩ := List.forall_mem_cons.mp ht
    generalize hw : u ++ s = w at h
    cases h with
    | @field _ u' s' _ _ hu' h =>
      have hlen := congrArg List.length hw
      have hu_len := length_of_isTight htight (hmem t (by simp)) hu
      have hu'_len := length_le_of_isTight htight (hmem t (by simp)) hu'
      have hs_len := hcut.length_eq hrest htail
      have hs'_len := h.length_le hrest htail
      simp only [List.length_append] at hlen
      obtain ⟨rfl, rfl⟩ := List.append_inj hw (by omega)
      rw [ih h hrest htail]

theorem parts_eq_of_only {before after : List Item} {t : Token}
    (hcut : Cut (before ++ .token t :: after) s parts)
    (h : Reading ((before ++ .token t :: after).map Item.step) s parts')
    (htab : Tabled (before ++ .token t :: after)) (hbefore : ∀ i ∈ before, i.isFixed = true)
    (hafter : ∀ i ∈ after, i.isFixed = true) : parts' = parts := by
  obtain ⟨htab₁, htab₂⟩ := tabled_append.mp htab
  obtain ⟨-, htab₂⟩ := tabled_cons.mp htab₂
  have htight {is : List Item} (h : ∀ i ∈ is, i.isFixed = true) : ∀ i ∈ is, i.isTight = true :=
    fun i hi => Item.isTight_of_isFixed (h i hi)
  obtain ⟨s₁, s₂, parts₁, parts₂, rfl, rfl, hcut₁, hcut₂⟩ := hcut.append_inv
  rw [List.map_append] at h
  obtain ⟨s₁', s₂', parts₁', parts₂', hs, rfl, h₁, h₂⟩ := h.append_inv
  have hlen₁ := (hcut₁.length_eq htab₁ (htight hbefore)).trans (h₁.length_eq htab₁ hbefore).symm
  obtain ⟨rfl, rfl⟩ := List.append_inj hs hlen₁
  rw [parts_eq_of_isTight hcut₁ h₁ htab₁ (htight hbefore)]
  cases hcut₂ with
  | @token _ s₂ _ _ u hu hcut₂ =>
    generalize hw : u ++ s₂ = w at h₂
    cases h₂ with
    | @field _ u' s₂' _ _ hu' h₂ =>
      have hlen₂ := (hcut₂.length_eq htab₂ (htight hafter)).trans (h₂.length_eq htab₂ hafter).symm
      obtain ⟨rfl, rfl⟩ := List.append_inj' hw hlen₂
      rw [parts_eq_of_isTight hcut₂ h₂ htab₂ (htight hafter)]

theorem isAsciiLetter_of_isLax (hcut : Cut g s parts) (hlax : ∀ i ∈ g, i.isLax = true) :
    ∀ c ∈ s, kind c = .letter → isAsciiLetter c = true := by
  induction hcut with
  | nil => simp
  | char c _ ih =>
    obtain ⟨hc, htail⟩ := List.forall_mem_cons.mp hlax
    rw [List.forall_mem_cons]
    exact ⟨fun h => absurd h (by simpa [Item.isLax] using hc), ih htail⟩
  | token t hu _ ih =>
    obtain ⟨-, htail⟩ := List.forall_mem_cons.mp hlax
    intro c hc hletter
    rcases List.mem_append.mp hc with hc | hc
    · rw [Width.kind_eq_of_takes hu c hc] at hletter
      cases hw : t.width with
      | digits n => simp [hw, Width.kind] at hletter
      | oneOrTwoDigits => simp [hw, Width.kind] at hletter
      | letters => exact (hw ▸ hu).2 c hc
      | halfDayMark => exact isAsciiLetter_of_halfDayMark (hw ▸ hu) c hc
    · exact ih htail c hc hletter

theorem cut_of_isLax (h : Reading (g.map Item.step) s parts) (htab : Tabled g) (heven : Even parts)
    (hlax : ∀ i ∈ g, i.isLax = true) (hascii : ∀ c ∈ s, kind c = .letter → isAsciiLetter c = true) :
    Cut g s parts := by
  induction g generalizing s parts with
  | nil => cases h; exact .nil
  | cons i g ih =>
    obtain ⟨hmem, hrest⟩ := tabled_cons.mp htab
    obtain ⟨hi, htail⟩ := List.forall_mem_cons.mp hlax
    cases i with
    | char c =>
      cases h with
      | char hc h =>
        obtain rfl := eq_of_sameLetter hc (by simpa [Item.isLax] using hi)
        exact .char _ (ih h hrest heven htail fun a ha => hascii a (by simp [ha]))
    | token t =>
      cases h with
      | field hu h =>
        obtain ⟨hhead, heven⟩ := List.forall_mem_cons.mp heven
        have htakes := width_takes_of_isLax hi (hmem t (by simp)) hu hhead
          fun c hc => hascii c (by simp [hc])
        exact .token t htakes (ih h hrest heven htail fun a ha => hascii a (by simp [ha]))

theorem cut_of_unmixed (hcut : Cut g s parts) (h : Reading (g.map Item.step) s parts')
    (htab : Tabled g) (heven : Even parts') (hunmixed : Unmixed g) : Cut g s parts' := by
  rcases hunmixed with hlax | htight | hfree
  · exact cut_of_isLax h htab heven hlax (isAsciiLetter_of_isLax hcut hlax)
  · rwa [parts_eq_of_isTight hcut h htab htight]
  · by_cases hfixed : ∀ i ∈ g, i.isFixed = true
    · rwa [parts_eq_of_isTight hcut h htab fun i hi => Item.isTight_of_isFixed (hfixed i hi)]
    obtain ⟨i, hi, hne⟩ : ∃ i ∈ g, ¬i.isFixed = true := by simpa using hfixed
    obtain ⟨before, after, rfl⟩ := List.append_of_mem hi
    have hlen :
        (before.filter (!·.isFixed)).length + ((after.filter (!·.isFixed)).length + 1) ≤ 1 := by
      simpa [hne] using hfree
    have hbefore : before.filter (!·.isFixed) = [] := List.eq_nil_of_length_eq_zero (by omega)
    have hafter : after.filter (!·.isFixed) = [] := List.eq_nil_of_length_eq_zero (by omega)
    cases i with
    | char c => exact absurd rfl hne
    | token t =>
      rwa [parts_eq_of_only hcut h htab (by simpa using hbefore) (by simpa using hafter)]

theorem Cut.parts_eq_nil (h : Cut g s parts) (hg : ∀ i ∈ g, i.kind = .blank) : parts = [] := by
  induction h with
  | nil => rfl
  | char c _ ih => exact ih (List.forall_mem_cons.mp hg).2
  | token t _ _ _ =>
    obtain ⟨c, hc, -⟩ := exists_blank_of_kind_eq (hg (.token t) (by simp))
    cases hc

end Group

theorem cut_flatten_of_reading {gs : List (List Item)} (hgs : Stretched gs) {s : List Char}
    {parts parts' : Parts} (hcut : Cut gs.flatten s parts)
    (h : Reading (steps (gs.flatten.map Item.element)) s parts') (htab : Tabled gs.flatten)
    (heven : Even parts') (hunmixed : ∀ g ∈ gs, Unmixed g) : Cut gs.flatten s parts' := by
  induction hgs generalizing s parts parts' with
  | nil =>
    cases h
    exact .nil
  | @cons g gs k hne hg hnext _ ih =>
    rw [List.flatten_cons] at hcut h htab ⊢
    obtain ⟨htab₁, htab₂⟩ := tabled_append.mp htab
    obtain ⟨hunmixed₁, hunmixed₂⟩ := List.forall_mem_cons.mp hunmixed
    obtain ⟨s₁, s₂, parts₁, parts₂, rfl, rfl, hcut₁, hcut₂⟩ := hcut.append_inv
    have hkinds : ∀ j ∈ g.map Item.kind, j = k := by simpa using hg
    have hs₁ := (hcut₁.runs htab₁).kind_eq hkinds
    have hs₂ := (hcut₂.runs htab₂).head?_eq ▸ hnext
    have hrest : ((steps (gs.flatten.map Item.element)).map Step.kind).head? ≠ some k := by
      rw [head?_map_kind_steps, List.map_map]
      exact hnext
    by_cases hk : k = .blank
    · subst hk
      rw [steps_append_of_blank hne hg hnext] at h
      generalize hs : s₁ ++ s₂ = s at h
      cases h with
      | @blanks _ t s₂' _ _ hb h =>
        have ht : ∀ c ∈ t, kind c = .blank := fun c hc => kind_eq_blank_iff.mpr (hb c hc)
        have hs₂' := (h.runs heven).head?_eq ▸ hrest
        obtain ⟨rfl, rfl⟩ := append_inj_of_kind hs hs₁ ht hs₂ hs₂'
        have hnil := hcut₁.parts_eq_nil hg
        subst hnil
        exact hcut₁.append (ih hcut₂ h htab₂ heven hunmixed₂)
    · rw [steps_append_of_ne_blank (fun i hi => hg i hi ▸ hk)] at h
      obtain ⟨s₁', s₂', parts₁', parts₂', hs, rfl, h₁, h₂⟩ := h.append_inv
      obtain ⟨heven₁, heven₂⟩ := List.forall_mem_append.mp heven
      have hkinds' : ∀ j ∈ (g.map Item.step).map Step.kind, j = k := by
        simpa [Item.kind_step] using hg
      have hs₁' := (h₁.runs heven₁).kind_eq hkinds'
      have hs₂' := (h₂.runs heven₂).head?_eq ▸ hrest
      obtain ⟨rfl, rfl⟩ := append_inj_of_kind hs hs₁ hs₁' hs₂ hs₂'
      exact (cut_of_unmixed hcut₁ h₁ htab₁ heven₁ hunmixed₁).append
        (ih hcut₂ h₂ htab₂ heven₂ hunmixed₂)

/-- In a format whose stretches are unmixed, what is read from a text that has the exact shape is a
cut of the text. -/
theorem cut_of_reading {is : List Item} {s : List Char} {parts parts' : Parts} (htab : Tabled is)
    (hunmixed : ∀ g ∈ stretches is, Unmixed g) (hcut : Cut is s parts)
    (h : Reading (steps (is.map Item.element)) s parts') (heven : Even parts') :
    Cut is s parts' := by
  have hflatten : (stretches is).flatten = is := List.flatten_splitBy _ _
  rw [← hflatten] at hcut h htab ⊢
  exact cut_flatten_of_reading (stretched_stretches is) hcut h htab heven hunmixed

end FormRules.DateFormat
