import FormRules.Proofs.DateFormat.Misread
import FormRules.Proofs.DateFormat.Spelling
import FormRules.Value.Moment

namespace FormRules.DateFormat

def Item.component? : Item → Option Component
  | .char _ => none
  | .token t => t.directive.component?

theorem filterMap_component? (is : List Item) :
    (directives (is.map Item.element)).filterMap Directive.component? =
      is.filterMap Item.component? := by
  induction is with
  | nil => rfl
  | cons i is ih =>
    cases i with
    | char c => simpa [directives, Item.element, Item.component?, List.filterMap_cons] using ih
    | token t =>
      simp only [directives, List.map_cons, Item.element, List.filterMap_cons] at ih ⊢
      rw [ih]
      rfl

section Stretch

variable {g : List Item} {gs : List (List Item)} {k : Kind}

theorem component?_of_letter : ∀ t ∈ tokens, t.directive.kind = .letter →
    ¬(Item.token t).isFixed = true → t.directive.component? = some .month := by
  decide

theorem unmixed_of_isFixed (h : ∀ i ∈ g, i.isFixed = true) : Unmixed g :=
  .inr (.inl fun i hi => Item.isTight_of_isFixed (h i hi))

theorem unmixed_of_letter (htab : Tabled g) (hk : ∀ i ∈ g, i.kind = .letter)
    (hsingle : (g.filterMap Item.component?).Nodup) : Unmixed g := by
  right
  right
  rw [← List.countP_eq_length_filter]
  have hone := List.nodup_iff_count_le_one.mp hsingle .month
  rw [List.count_filterMap] at hone
  refine le_trans (List.countP_mono_left fun i hi hfixed => ?_) hone
  cases i with
  | char c => simp [Item.isFixed] at hfixed
  | token t =>
    have hmonth := component?_of_letter t (htab t hi) (hk _ hi) (by simpa using hfixed)
    simp [Item.component?, hmonth]

theorem exists_tokens (h : ∀ i ∈ g, ∃ t ∈ numericTokens, i = .token t) :
    ∃ ts : List Token, g = ts.map .token ∧ ∀ t ∈ ts, t ∈ numericTokens := by
  induction g with
  | nil => exact ⟨[], rfl, by simp⟩
  | cons i g ih =>
    obtain ⟨⟨t, ht, rfl⟩, hg⟩ := List.forall_mem_cons.mp h
    obtain ⟨ts, rfl, hts⟩ := ih hg
    exact ⟨t :: ts, rfl, List.forall_mem_cons.mpr ⟨ht, hts⟩⟩

theorem exists_tokens_of_mixed (htab : Tabled g) (hk : ∀ i ∈ g, i.kind = k) (hfree : FreeOfDigits g)
    (hsingle : (g.filterMap Item.component?).Nodup) (hmixed : ¬Unmixed g) :
    ∃ ts : List Token, g = ts.map .token ∧ ∀ t ∈ ts, t ∈ numericTokens := by
  have hchar (hne : ∀ d : Directive, d.kind ≠ k) : ∀ i ∈ g, i.isFixed = true := by
    intro i hi
    cases i with
    | char c => rfl
    | token t => exact absurd (hk _ hi) (hne t.directive)
  cases k with
  | digit =>
    apply exists_tokens
    intro i hi
    cases i with
    | char c => exact absurd (hk _ hi) (hfree c hi)
    | token t => exact ⟨t, List.mem_filter.mpr ⟨htab t hi, decide_eq_true (hk _ hi)⟩, rfl⟩
  | letter => exact absurd (unmixed_of_letter htab hk hsingle) hmixed
  | blank => exact absurd (unmixed_of_isFixed (hchar fun d => by cases d <;> decide)) hmixed
  | other => exact absurd (unmixed_of_isFixed (hchar fun d => by cases d <;> decide)) hmixed

theorem pairwise_of_length_le_one {α : Type} {R : α → α → Prop} {l : List α} (h : l.length ≤ 1) :
    l.Pairwise R := by
  match l, h with
  | [], _ => exact .nil
  | [a], _ => exact List.pairwise_singleton R a

theorem pairwise_of_unmixed (htab : Tabled g) (hunmixed : Unmixed g)
    (hfraction : ∃ i ∈ g, i.isFraction = true) :
    g.Pairwise fun i j => i.isFraction = true → j.isFixed = true := by
  have hflags : ∀ t ∈ tokens, (Item.token t).isFraction = true →
      ¬(Item.token t).isLax = true ∧ ¬(Item.token t).isTight = true ∧
        ¬(Item.token t).isFixed = true := by decide
  have hloose : ∀ i ∈ g, i.isFraction = true →
      ¬i.isLax = true ∧ ¬i.isTight = true ∧ ¬i.isFixed = true := by
    intro i hi hf
    cases i with
    | char c => cases hf
    | token t => exact hflags t (htab t hi) hf
  obtain ⟨f, hf, hfraction⟩ := hfraction
  obtain ⟨hlax, htight, -⟩ := hloose f hf hfraction
  rcases hunmixed with h | h | h
  · exact absurd (h f hf) hlax
  · exact absurd (h f hf) htight
  · have hpairs := List.pairwise_filter.mp (@pairwise_of_length_le_one _ (fun _ _ => False) _ h)
    refine hpairs.imp_of_mem fun hi _ hij hif => ?_
    by_contra hj
    exact hij (by simpa using (hloose _ hi hif).2.2) (by simpa using hj)

/-- If some stretch mixes, there is one that does so that every fraction outside of it stands alone
among fixed tokens. -/
theorem exists_mixed_stretch (htab : Tabled gs.flatten)
    (hsingle : (gs.flatten.filterMap Item.component?).Nodup) (hmixed : ¬∀ g ∈ gs, Unmixed g) :
    ∃ before g after, gs = before ++ g :: after ∧ ¬Unmixed g ∧
      ∀ g' ∈ before ++ after, g'.Pairwise fun i j => i.isFraction = true → j.isFixed = true := by
  have hvacuous {g' : List Item} (h : ∀ i ∈ g', ¬i.isFraction = true) :
      g'.Pairwise fun i j => i.isFraction = true → j.isFixed = true :=
    List.pairwise_of_forall_mem_list fun i hi _ _ hf => absurd hf (h i hi)
  -- A fraction takes more ASCII digits than its sample has, so a stretch that mixes one goes first.
  by_cases hfraction : ∃ g ∈ gs, ¬Unmixed g ∧ ∃ i ∈ g, i.isFraction = true
  · obtain ⟨g, hg, hloose, f, hf, hff⟩ := hfraction
    obtain ⟨before, after, rfl⟩ := List.append_of_mem hg
    refine ⟨before, g, after, rfl, hloose, fun g' hg' => hvacuous fun i hi hif => ?_⟩
    have hperm : List.Perm (before ++ g :: after).flatten (g :: (before ++ after)).flatten :=
      List.perm_middle.flatten
    rw [(hperm.filterMap _).nodup_iff, List.flatten_cons, List.filterMap_append,
      List.nodup_append] at hsingle
    have hmicro {j : Item} (hj : j.isFraction = true) : j.component? = some .micro := by
      cases j with
      | char c => cases hj
      | token t => rw [Item.component?, of_decide_eq_true hj]; rfl
    exact hsingle.2.2 .micro (List.mem_filterMap.mpr ⟨f, hf, hmicro hff⟩) .micro
      (List.mem_filterMap.mpr ⟨i, List.mem_flatten.mpr ⟨g', hg', hi⟩, hmicro hif⟩) rfl
  · obtain ⟨g, hg, hloose⟩ : ∃ g ∈ gs, ¬Unmixed g := by simpa using hmixed
    obtain ⟨before, after, rfl⟩ := List.append_of_mem hg
    refine ⟨before, g, after, rfl, hloose, fun g' hg' => ?_⟩
    have hmem : g' ∈ before ++ g :: after := by
      rcases List.mem_append.mp hg' with h | h <;> simp [h]
    by_cases hf : ∃ i ∈ g', i.isFraction = true
    · refine pairwise_of_unmixed (fun t ht => htab t (List.mem_flatten.mpr ⟨g', hmem, ht⟩)) ?_ hf
      by_contra h
      exact hfraction ⟨g', hmem, h, hf⟩
    · exact hvacuous (by simpa using hf)

end Stretch

theorem Stretched.of_append {gs gs' : List (List Item)} (h : Stretched (gs ++ gs')) :
    Stretched gs' := by
  induction gs with
  | nil => exact h
  | cons g gs ih =>
    cases h with
    | cons _ _ _ _ h => exact ih h

theorem plain_of_sample {parts : Parts} (h : ∀ p ∈ parts, p.2 = p.1.sample) :
    ∀ p ∈ parts, p.2 ∈ p.1.plain := by
  intro p hp
  rw [h p hp]
  exact List.mem_cons_self

/-- The text has the exact shape of the items, and then `u'` stands for the directive, but what is
read for it is `u`. -/
structure Misleads (is : List Item) (s : List Char) (d : Directive) (u u' : List Char) : Prop where
  cut : ∃ parts, Cut is s parts
  written : ∀ parts, Cut is s parts → (d, u') ∈ parts
  read : ∃ parts, readSteps? (steps (is.map Item.element)) s = some (parts, []) ∧ (d, u) ∈ parts ∧
    ∀ p ∈ parts, p.2 ∈ p.1.plain

section Misleads

variable {gs gs' : List (List Item)} {g : List Item} {s : List Char} {d : Directive}
  {u u' : List Char}

theorem misleads_append (hgs : Stretched (g :: gs)) (htab : Tabled (g ++ gs.flatten))
    (hfree : FreeOfDigits (g ++ gs.flatten)) (hdigit : ∀ i ∈ g, i.kind = .digit)
    (hpairs : ∀ g' ∈ gs, g'.Pairwise fun i j => i.isFraction = true → j.isFixed = true)
    (h : Misread g s d u u') :
    Misleads (g ++ gs.flatten) (s ++ sample gs.flatten) d u u' := by
  obtain ⟨htab₁, htab₂⟩ := tabled_append.mp htab
  have hfree : FreeOfDigits gs.flatten := fun c hc => hfree c (List.mem_append_right g hc)
  cases hgs with
  | cons k hne hk hnext hgs =>
    obtain ⟨i, hi⟩ := List.exists_mem_of_ne_nil g hne
    obtain rfl : k = .digit := (hk i hi).symm.trans (hdigit i hi)
    rw [← List.append_nil gs] at hgs
    obtain ⟨parts₂, hcut₂, htried₂, hparts₂⟩ :=
      @exists_parts_of_stretched gs [] [] hgs htab₂ hfree rfl hpairs
    have hruns := hcut₂.runs htab₂
    obtain ⟨parts₁, hread, hmem, hplain⟩ :=
      h.read (bare_sample hfree hruns hnext) (htried₂.readSteps?_eq (hcut₂.even htab₂))
    obtain ⟨parts, hcut⟩ := h.cut
    refine ⟨⟨_, hcut.append hcut₂⟩, fun parts' hcut' => ?_, parts₁ ++ parts₂, ?_,
      List.mem_append_left _ hmem, List.forall_mem_append.mpr ⟨hplain, plain_of_sample hparts₂⟩⟩
    · obtain ⟨s₁, s₂, parts₁', parts₂', hs, rfl, hcut₁', hcut₂'⟩ := hcut'.append_inv
      have hkinds : ∀ j ∈ g.map Item.kind, j = .digit := by simpa using hdigit
      obtain ⟨rfl, -⟩ := append_inj_of_kind hs ((hcut.runs htab₁).kind_eq hkinds)
        ((hcut₁'.runs htab₁).kind_eq hkinds) (hruns.head?_eq ▸ hnext)
        ((hcut₂'.runs htab₂).head?_eq ▸ hnext)
      exact List.mem_append_left _ (h.written _ hcut₁')
    · rw [steps_append_of_ne_blank fun i hi => by simp [hdigit i hi]]
      exact hread

theorem Misleads.append (h : Misleads gs'.flatten s d u u') (hgs : Stretched (gs ++ gs'))
    (htab : Tabled (gs.flatten ++ gs'.flatten)) (hfree : FreeOfDigits (gs.flatten ++ gs'.flatten))
    (hdigit : (gs'.flatten.map Item.kind).head? = some .digit)
    (hpairs : ∀ g' ∈ gs, g'.Pairwise fun i j => i.isFraction = true → j.isFixed = true) :
    Misleads (gs.flatten ++ gs'.flatten) (sample gs.flatten ++ s) d u u' := by
  obtain ⟨htab₁, htab₂⟩ := tabled_append.mp htab
  have hfree : FreeOfDigits gs.flatten := fun c hc => hfree c (List.mem_append_left _ hc)
  obtain ⟨parts₂, hcut₂⟩ := h.cut
  have hruns₂ := hcut₂.runs htab₂
  have hhead := hruns₂.head?_eq
  obtain ⟨parts₁, hcut₁, htried₁, hparts₁⟩ := exists_parts_of_stretched hgs htab₁ hfree hhead hpairs
  obtain ⟨parts, hread, hmem, hplain⟩ := h.read
  have hblank : (gs'.flatten.map Item.kind).head? ≠ some .blank := by
    rw [hdigit]
    decide
  refine ⟨⟨_, hcut₁.append hcut₂⟩, fun parts' hcut' => ?_, parts₁ ++ parts, ?_,
    List.mem_append_right _ hmem, List.forall_mem_append.mpr ⟨plain_of_sample hparts₁, hplain⟩⟩
  · obtain ⟨s₁, s₂, parts₁', parts₂', hs, rfl, hcut₁', hcut₂'⟩ := hcut'.append_inv
    obtain ⟨-, rfl⟩ := hgs.append_inj (hcut₁.runs htab₁) (hcut₁'.runs htab₁) hruns₂
      (hcut₂'.runs htab₂) hs
    exact List.mem_append_right _ (h.written _ hcut₂')
  · rw [steps_append hblank]
    exact htried₁.readSteps?_append (hcut₁.even htab₁) (hhead ▸ hblank) hread

end Misleads

theorem exists_misleads {is : List Item} (htab : Tabled is) (hfree : FreeOfDigits is)
    (hsingle : (is.filterMap Item.component?).Nodup) (hmixed : ¬∀ g ∈ stretches is, Unmixed g) :
    ∃ s d u u', d.kind = .digit ∧ Apart d u u' ∧ Misleads is s d u u' := by
  have hflatten : (stretches is).flatten = is := List.flatten_splitBy _ _
  have hstretched := stretched_stretches is
  rw [← hflatten] at htab hfree hsingle ⊢
  obtain ⟨before, g, after, hgs, hloose, hpairs⟩ := exists_mixed_stretch htab hsingle hmixed
  rw [hgs] at hstretched
  rw [hgs, List.flatten_append, List.flatten_cons] at htab hfree hsingle ⊢
  obtain ⟨-, htab'⟩ := tabled_append.mp htab
  have hfree' : FreeOfDigits (g ++ after.flatten) :=
    fun c hc => hfree c (List.mem_append_right _ hc)
  obtain ⟨hpairs₁, hpairs₂⟩ := List.forall_mem_append.mp hpairs
  have hbehind := hstretched.of_append
  have hbehind' := hbehind
  cases hbehind' with
  | cons k hne hk hnext _ =>
    rw [List.filterMap_append, List.filterMap_append] at hsingle
    obtain ⟨ts, rfl, hts⟩ := exists_tokens_of_mixed (tabled_append.mp htab').1 hk
      (fun c hc => hfree' c (List.mem_append_left _ hc)) hsingle.of_append_right.of_append_left
      hloose
    obtain ⟨w, d, u, u', h⟩ := exists_misread hts hloose
    have hdigit : ∀ i ∈ ts.map Item.token, i.kind = .digit := by
      intro i hi
      obtain ⟨t, ht, rfl⟩ := List.mem_map.mp hi
      exact kind_of_numeric (hts t ht)
    have hhead : ((ts.map Item.token :: after).flatten.map Item.kind).head? = some .digit := by
      obtain ⟨i, g, hg⟩ := List.exists_cons_of_ne_nil hne
      rw [hg] at hdigit ⊢
      exact congrArg some (hdigit i List.mem_cons_self)
    have hmisleads : Misleads (ts.map Item.token :: after).flatten _ d u u' :=
      misleads_append hbehind htab' hfree' hdigit hpairs₂ h
    exact ⟨_, d, u, u', h.kind, h.apart, hmisleads.append hstretched htab hfree hhead hpairs₁⟩

theorem exists_not_spelled {format : String} (hrepeats : NoRepeats format) (hsingle : Single format)
    (hfree : FreeOfDigits (items (pieces format))) (hmixed : ¬AllUnmixed format) :
    ∃ s t, parse format s = .ok (some t) ∧ ¬Spelled format s t := by
  have hcomponents : ((items (pieces format)).filterMap Item.component?).Nodup := by
    rw [← filterMap_component?, ← elements_eq]
    exact hsingle
  obtain ⟨s, d, u, u', hd, hapart, h⟩ :=
    exists_misleads (tabled_items format) hfree hcomponents hmixed
  obtain ⟨parts, hread, hmem, hplain⟩ := h.read
  rw [← elements_eq] at hread
  obtain ⟨t, ht⟩ := exists_moment_of_plain hplain
  refine ⟨String.ofList s, t, ?_, ?_⟩
  · rw [parse_of_noRepeats hrepeats, String.toList_ofList, if_pos (fits_iff.mpr h.cut), read?,
      hread]
    exact congrArg Except.ok ht
  rintro ⟨parts', hcut, hvalue'⟩
  rw [String.toList_ofList] at hcut
  obtain ⟨k, hk⟩ : ∃ k, d.component? = some k := by cases d <;> first | exact ⟨_, rfl⟩ | cases hd
  obtain ⟨r, hr, hreading⟩ := reading_of_readSteps? hread
  have hparts : parts.map Prod.fst = given format := by
    rw [hreading.map_fst, filterMap_directive?_steps]
    rfl
  have hspelled :=
    amount?_of_value? hsingle hparts hmem hk ((moment?_eq_some_iff.mp ht).2.2 k)
  have hspelled' :=
    amount?_of_value? hsingle (map_fst_of_cut hcut) (h.written parts' hcut) hk (hvalue' k)
  exact hapart _ _ (hspelled.trans hspelled'.symm)

/-- What is read from a text is always spelled by it if no stretch of the format mixes its tokens;
and where the format gives no component twice and has no digits in its literal text, only then. -/
theorem spelled_of_strictMoment?_iff_allUnmixed {format : String} (hrepeats : NoRepeats format) :
    (AllUnmixed format → ∀ s t, (Value.text s).strictMoment? format = .ok (some t) →
      Spelled format s t) ∧
      (Single format → FreeOfDigits (items (pieces format)) →
        (∀ s t, (Value.text s).strictMoment? format = .ok (some t) → Spelled format s t) →
          AllUnmixed format) := by
  refine ⟨fun hunmixed s t h => spelled_of_parse hrepeats hunmixed h, fun hsingle hfree h => ?_⟩
  by_contra hmixed
  obtain ⟨s, t, hparse, hspelled⟩ := exists_not_spelled hrepeats hsingle hfree hmixed
  exact hspelled (h s t hparse)

theorem spelled_of_strictMoment?_of_dashes :
    (∀ s t, (Value.text s).strictMoment? "YYYY-MM-DD" = .ok (some t) → Spelled "YYYY-MM-DD" s t) ∧
      ¬∀ s t, (Value.text s).strictMoment? "YYYY-MMD" = .ok (some t) → Spelled "YYYY-MMD" s t := by
  have hitems : items (pieces "YYYY-MMD") =
      [.token ⟨['Y', 'Y', 'Y', 'Y'], .digits 4, .year⟩, .char '-',
        .token ⟨['M', 'M'], .digits 2, .month⟩, .token ⟨['D'], .oneOrTwoDigits, .day⟩] := by decide
  have hfree : FreeOfDigits (items (pieces "YYYY-MMD")) := by
    intro c hc
    obtain rfl : c = '-' := by simpa [hitems] using hc
    decide
  exact ⟨(spelled_of_strictMoment?_iff_allUnmixed (by decide)).1 (by decide), fun h =>
    absurd ((spelled_of_strictMoment?_iff_allUnmixed (by decide)).2 (by decide) hfree h)
      (by decide)⟩

/-- The shape of the text is that of one digit for the hour and two for the minute, but it is read
as twelve hours and three minutes. -/
theorem strictMoment?_not_spelled_of_three_digits :
    NoRepeats "Hmm" ∧ ∃ t, (Value.text "123").strictMoment? "Hmm" = .ok (some t) ∧
      ¬Spelled "Hmm" "123" t := by
  have hitems : items (pieces "Hmm") =
      [.token ⟨['H'], .oneOrTwoDigits, .hour⟩, .token ⟨['m', 'm'], .digits 2, .minute⟩] := by decide
  refine ⟨by decide, ⟨⟨1900, 1, 1, by decide, by decide, by decide, by decide⟩,
    ⟨12, 3, 0, 0, by decide, by decide, by decide, by decide⟩, none⟩, by decide, ?_⟩
  rintro ⟨parts, hcut, hvalue⟩
  have hfst := map_fst_of_cut hcut
  rw [hitems] at hcut
  have hhour : (.hour, ['1']) ∈ parts := by
    refine mem_of_cut_token (u := ['1']) (s := ['2', '3']) hcut fun u' s' parts' _ hrest hlen => ?_
    have htwo : s'.length = 2 := by
      cases hrest with
      | token _ hu h =>
        cases h
        simpa using hu.1
    simp only [List.length_cons, List.length_nil] at hlen ⊢
    omega
  have hone := amount?_of_value? (by decide : Single "Hmm") hfst hhour rfl (hvalue .hour)
  have hne : amount? [] (.hour, ['1']) ≠ some ((12 : Nat) : Int) := by decide
  exact hne hone

end FormRules.DateFormat
