import FormRules.Proofs.DateFormat.Part
import FormRules.Proofs.DateFormat.Share

namespace FormRules

def Component.low : Component → Nat
  | .year | .month | .day => 1
  | _ => 0

def Component.high : Component → Nat
  | .year => 9999
  | .month => 12
  | .day => 28
  | .hour => 23
  | .minute | .second => 59
  | .micro => 999999

theorem DateTime.exists_of? {f : Component → Int}
    (h : ∀ k, (k.low : Int) ≤ f k ∧ f k ≤ k.high) :
    ∃ t, of? (f .year) (f .month) (f .day) (f .hour) (f .minute) (f .second) (f .micro) none =
      some t := by
  have hyear := h .year
  have hmonth := h .month
  have hday := h .day
  have hhour := h .hour
  have hminute := h .minute
  have hsecond := h .second
  have hmicro := h .micro
  simp only [Component.low, Component.high] at hyear hmonth hday hhour hminute hsecond hmicro
  have hdays := @Calendar.le_daysInMonth (f .year).toNat (f .month).toNat (by omega) (by omega)
  have hdate : ∃ d, Date.of? (f .year) (f .month) (f .day) = some d := by
    unfold Date.of?
    rw [dif_pos (by unfold Calendar.lastYear; omega)]
    exact ⟨_, rfl⟩
  have htime : ∃ t, TimeOfDay.of? (f .hour) (f .minute) (f .second) (f .micro) = some t := by
    unfold TimeOfDay.of?
    rw [dif_pos (by omega)]
    exact ⟨_, rfl⟩
  obtain ⟨d, hd⟩ := hdate
  obtain ⟨t, ht⟩ := htime
  exact ⟨⟨d, t, none⟩, by simp [of?, hd, ht]⟩

namespace DateFormat

namespace Directive

def sample : Directive → List Char
  | .year => List.replicate 4 '\u0661'
  | .shortYear => List.replicate 2 '\u0661'
  | .monthName | .shortMonthName => ['m', 'a', 'y']
  | .fraction => ['0', '0', '0']
  | .halfDay => ['a', 'm']
  | _ => ['0', '1']

def plain (d : Directive) : List (List Char) :=
  d.sample :: match d with
    | .year => [ones 4]
    | .shortYear => [ones 2]
    | .monthName | .shortMonthName | .halfDay => []
    | .fraction => (List.range 7).map ones
    | _ => [ones 1, ones 2, ['9']]

theorem ones_mem_plain {d : Directive} (hd : d.kind = .digit) {k : Nat} (hlo : d.least ≤ k)
    (hhi : k ≤ d.most) : ones k ∈ d.plain := by
  have hall : ∀ k < 7, d.least ≤ k → k ≤ d.most → ones k ∈ d.plain := by
    cases d <;> first | decide | cases hd
  have hmost : d.most < 7 := by cases d <;> decide
  exact hall k (by omega) hlo hhi

theorem amount?_plain {d : Directive} {u mark : List Char} (hu : u ∈ d.plain)
    (hmark : mark = [] ∨ mark = ['a', 'm']) {k : Component} (hk : d.component? = some k) :
    ∃ n : Int, amount? mark (d, u) = some n ∧ (k.low : Int) ≤ n ∧ n ≤ k.high := by
  have hall : ∀ mark ∈ [[], ['a', 'm']], ∀ u ∈ d.plain, ∀ k, d.component? = some k →
      (amount? mark (d, u)).any fun n => (k.low : Int) ≤ n ∧ n ≤ k.high := by
    intro mark hmark u hu k hk
    revert mark u
    cases d <;> cases hk <;> decide
  have h := hall mark (by simpa using hmark) u hu k hk
  simpa [Option.any_eq_true] using h

end Directive

theorem exists_moment_of_plain {parts : Parts} (h : ∀ p ∈ parts, p.2 ∈ p.1.plain) :
    ∃ t, moment? parts = some t := by
  have hmark : parts.mark = [] ∨ parts.mark = ['a', 'm'] := by
    unfold Parts.mark
    cases hfind : parts.find? (·.1 == .halfDay) with
    | none => exact .inl rfl
    | some p =>
      obtain ⟨d, u⟩ := p
      obtain rfl : d = .halfDay := by simpa using List.find?_some hfind
      obtain rfl : u = ['a', 'm'] := by
        simpa [Directive.plain, Directive.sample] using h _ (List.mem_of_find?_eq_some hfind)
      exact .inr rfl
  have hspells : ∀ p ∈ parts, Spells parts.mark p := by
    intro p hp hne
    obtain ⟨k, hk⟩ := Option.ne_none_iff_exists'.mp hne
    obtain ⟨n, hn, -⟩ := Directive.amount?_plain (h p hp) hmark hk
    simp [hn]
  obtain ⟨f, hf⟩ := Option.isSome_iff_exists.mp
    ((Parts.foldlM_isSome_iff (f := {})).mpr hspells)
  rw [moment?_eq, hf]
  apply DateTime.exists_of? (f := f.get)
  intro k
  have hvalue := Parts.value?_of_foldlM hf k
  unfold Parts.value? at hvalue
  split at hvalue
  · next p hlast =>
    obtain ⟨hp, hk⟩ := Parts.mem_of_last? hlast
    obtain ⟨n, hn, hbounds⟩ := Directive.amount?_plain (h p hp) hmark hk
    obtain rfl : n = f.get k := Option.some.inj (hn.symm.trans hvalue)
    exact hbounds
  · rw [← Option.some.inj hvalue]
    cases k <;> decide

namespace Item

def sample : Item → List Char
  | .char c => [c]
  | .token t => t.directive.sample

def isFraction : Item → Bool
  | .char _ => false
  | .token t => t.directive = .fraction

end Item

def sample (is : List Item) : List Char := is.flatMap Item.sample

def FreeOfDigits (is : List Item) : Prop := ∀ c, .char c ∈ is → kind c ≠ .digit

theorem width_takes_sample {t : Token} (ht : t ∈ tokens) : t.width.Takes t.directive.sample := by
  have hlengths : ∀ t ∈ tokens, t.directive.sample.length ∈ t.width.lengths t.directive.sample := by
    decide
  have htakes := (Width.mem_lengths_iff.mp (hlengths t ht)).2
  rwa [List.take_length] at htakes

theorem head?_lengths_sample {d : Directive} {r : List Char}
    (hr : d = .fraction → ∀ c ∈ r.head?, ¬Text.isAsciiDigit c = true) :
    (d.lengths (d.sample ++ r)).head? = some d.sample.length := by
  cases d with
  | fraction =>
    cases r with
    | nil => rfl
    | cons c r =>
      have hc := hr rfl c (by simp)
      simp [Directive.lengths, Directive.shapes, Directive.sample, List.replicate_succ, Shape.fits,
        hc, show Text.isAsciiDigit '0' = true by decide]
  | _ => rfl

section Group

variable {g : List Item} {k : Kind} {r : List Char}

theorem not_isAsciiDigit_head?_sample (hk : ∀ i ∈ g, i.kind = .digit) (hfree : FreeOfDigits g)
    (hfixed : ∀ i ∈ g, i.isFixed = true) (hr : r.head?.map kind ≠ some .digit) :
    ∀ c ∈ (sample g ++ r).head?, ¬Text.isAsciiDigit c = true := by
  cases g with
  | nil =>
    intro c hc hdigit
    rw [sample, List.flatMap_nil, List.nil_append, Option.mem_def] at hc
    rw [hc] at hr
    exact hr (congrArg some (kind_of_isAsciiDigit hdigit))
  | cons i g =>
    have hi := hfixed i (by simp)
    have hdigit := hk i (by simp)
    cases i with
    | char c => exact absurd hdigit (hfree c (by simp))
    | token t =>
      simp only [Item.isFixed, Bool.or_eq_true, decide_eq_true_eq] at hi
      rcases hi with (hd | hd) | hd
      · simp [sample, Item.sample, hd, Directive.sample, List.replicate_succ]
        decide
      · simp [sample, Item.sample, hd, Directive.sample, List.replicate_succ]
        decide
      · simp [Item.kind, Item.element, Element.kind, hd, Directive.kind] at hdigit

theorem exists_parts_of_stretch (htab : Tabled g) (hk : ∀ i ∈ g, i.kind = k)
    (hfree : FreeOfDigits g) (hr : r.head?.map kind ≠ some k)
    (hfraction : g.Pairwise fun i j => i.isFraction = true → j.isFixed = true) :
    ∃ parts, Cut g (sample g) parts ∧ Tried r g (sample g) parts ∧
      ∀ p ∈ parts, p.2 = p.1.sample := by
  induction g with
  | nil => exact ⟨[], .nil, .nil, by simp⟩
  | cons i g ih =>
    obtain ⟨hmem, hrest⟩ := tabled_cons.mp htab
    obtain ⟨hi, hg⟩ := List.forall_mem_cons.mp hk
    obtain ⟨hfixed, hpairs⟩ := List.pairwise_cons.mp hfraction
    have hfree' : FreeOfDigits g := fun c hc => hfree c (by simp [hc])
    obtain ⟨parts, hcut, htried, hparts⟩ := ih hrest hg hfree' hpairs
    cases i with
    | char c => exact ⟨parts, .char c hcut, .char c htried, hparts⟩
    | token t =>
      refine ⟨_, .token t (width_takes_sample (hmem t (by simp))) hcut, .token t ?_ htried,
        List.forall_mem_cons.mpr ⟨rfl, hparts⟩⟩
      apply head?_lengths_sample
      intro hd
      obtain rfl : k = .digit := by
        rw [← hi]
        simp [Item.kind, Item.element, Element.kind, hd, Directive.kind]
      exact not_isAsciiDigit_head?_sample hg hfree'
        (fun j hj => hfixed j hj (by simp [Item.isFraction, hd])) hr

end Group

theorem Runs.head?_append_eq {ks js : List Kind} {s r : List Char} (h : Runs ks s)
    (hr : r.head?.map kind = js.head?) : (s ++ r).head?.map kind = (ks ++ js).head? := by
  cases h with
  | nil => exact hr
  | @cons k _ t _ hne hk _ =>
    cases t with
    | nil => exact absurd rfl hne
    | cons c t => simp [hk c]

theorem exists_parts_of_stretched {gs gs' : List (List Item)} {r : List Char}
    (hgs : Stretched (gs ++ gs')) (htab : Tabled gs.flatten) (hfree : FreeOfDigits gs.flatten)
    (hr : r.head?.map kind = (gs'.flatten.map Item.kind).head?)
    (hfraction : ∀ g ∈ gs, g.Pairwise fun i j => i.isFraction = true → j.isFixed = true) :
    ∃ parts, Cut gs.flatten (sample gs.flatten) parts ∧
      Tried r gs.flatten (sample gs.flatten) parts ∧
      ∀ p ∈ parts, p.2 = p.1.sample := by
  induction gs with
  | nil => exact ⟨[], .nil, .nil, by simp⟩
  | cons g gs ih =>
    cases hgs with
    | cons k hne hk hnext hgs =>
      rw [List.flatten_cons] at htab hfree ⊢
      obtain ⟨htab₁, htab₂⟩ := tabled_append.mp htab
      obtain ⟨hfraction₁, hfraction₂⟩ := List.forall_mem_cons.mp hfraction
      obtain ⟨parts₂, hcut₂, htried₂, hparts₂⟩ :=
        ih hgs htab₂ (fun c hc => hfree c (by simp [hc])) hfraction₂
      have hhead := (hcut₂.runs htab₂).head?_append_eq hr
      rw [← List.map_append, ← List.flatten_append] at hhead
      obtain ⟨parts₁, hcut₁, htried₁, hparts₁⟩ := exists_parts_of_stretch htab₁ hk
        (fun c hc => hfree c (by simp [hc])) (hhead ▸ hnext) hfraction₁
      rw [sample, List.flatMap_append]
      exact ⟨parts₁ ++ parts₂, hcut₁.append hcut₂, htried₁.append htried₂,
        List.forall_mem_append.mpr ⟨hparts₁, hparts₂⟩⟩

theorem not_within_head?_sample {is : List Item} (hfree : FreeOfDigits is) :
    ∀ c ∈ (sample is).head?, ¬within '1' '9' c = true := by
  cases is with
  | nil => simp [sample]
  | cons i is =>
    cases i with
    | char a =>
      intro c hc hwithin
      obtain rfl : a = c := by simpa [sample, Item.sample] using hc
      have hdigit := Directive.isAsciiDigit_of_within (by decide) (by decide) hwithin
      exact hfree a (by simp) (kind_of_isAsciiDigit hdigit)
    | token t =>
      have hhead : ∀ d : Directive, ∃ c u, d.sample = c :: u ∧ ¬within '1' '9' c = true := by
        intro d
        cases d <;> exact ⟨_, _, rfl, by decide⟩
      obtain ⟨c, u, hu, hc⟩ := hhead t.directive
      simpa [sample, Item.sample, hu] using hc

theorem bare_sample {is : List Item} (hfree : FreeOfDigits is)
    (hruns : Runs (is.map Item.kind) (sample is))
    (his : (is.map Item.kind).head? ≠ some .digit) : Bare (sample is) := by
  have hhead := hruns.head?_eq
  have hdigit : (sample is).head?.map kind ≠ some .digit := hhead ▸ his
  refine ⟨hdigit, fun d hd => ?_⟩
  rw [Directive.lengths, List.map_eq_nil_iff, List.filter_eq_nil_iff]
  intro p hp hfits
  rcases Directive.ofKind_of_mem_shapes hp with hkind | ⟨rfl, rfl⟩
  · have hpos := Directive.pos_of_mem_widths p.length (List.mem_map_of_mem hp)
    obtain ⟨a, p, rfl⟩ := List.exists_cons_of_length_pos hpos
    cases hs : sample is with
    | nil => simp [hs, Shape.fits] at hfits
    | cons c s =>
      rw [hs, Shape.fits, Bool.and_eq_true] at hfits
      rw [hs] at hdigit
      exact hdigit (congrArg some (hd ▸ hkind a (by simp) c hfits.1))
  · cases is with
    | nil => simp [sample, Shape.fits] at hfits
    | cons i is =>
      have hfree' : FreeOfDigits is := fun c hc => hfree c (by simp [hc])
      cases hs : sample (i :: is) with
      | nil => simp [hs, Shape.fits] at hfits
      | cons c s =>
        rw [hs] at hfits hhead
        simp only [Shape.fits, Bool.and_eq_true] at hfits
        obtain rfl := beq_iff_eq.mp hfits.1
        have hblank : i.kind = .blank := (Option.some.inj hhead).symm
        obtain ⟨a, rfl, -⟩ := exists_blank_of_kind_eq hblank
        obtain rfl : sample is = s := (List.cons.inj hs).2
        cases hs' : sample is with
        | nil => simp [hs', Shape.fits] at hfits
        | cons b s =>
          rw [hs', Shape.fits, Bool.and_eq_true] at hfits
          exact not_within_head?_sample hfree' b (by simp [hs']) hfits.2.1

end DateFormat

end FormRules
