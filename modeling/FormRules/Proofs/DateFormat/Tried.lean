import FormRules.Proofs.DateFormat.Stretch

namespace FormRules.DateFormat

theorem readSteps?_field_of_head? {d : Directive} {ps : List Step} {u s r : List Char}
    {parts : Parts}
    (hhead : (d.lengths (u ++ s)).head? = some u.length)
    (h : readSteps? ps s = some (parts, r)) :
    readSteps? (.field d :: ps) (u ++ s) = some ((d, u) :: parts, r) := by
  obtain ⟨ns, hns⟩ := List.head?_eq_some_iff.mp hhead
  simp [readSteps?, hns, h]

theorem readSteps?_blanks {ps : List Step} {w s r : List Char} {parts : Parts} (hne : w ≠ [])
    (hw : ∀ c ∈ w, kind c = .blank) (hs : s.head?.map kind ≠ some .blank)
    (h : readSteps? ps s = some (parts, r)) :
    readSteps? (.blanks :: ps) (w ++ s) = some (parts, r) := by
  have hrun : (w ++ s).takeWhile Text.isBlank = w := by
    rw [List.takeWhile_append_of_pos fun c hc => kind_eq_blank_iff.mp (hw c hc)]
    cases s with
    | nil => simp
    | cons c s => simp [show ¬Text.isBlank c = true by simpa [kind_eq_blank_iff] using hs]
  obtain ⟨n, hn⟩ := Nat.exists_eq_succ_of_ne_zero (by simpa using hne : w.length ≠ 0)
  have hdrop : (w ++ s).drop (n + 1) = s := by
    rw [← Nat.succ_eq_add_one, ← hn, List.drop_left]
  simp [readSteps?, hrun, hn, List.range_succ_eq_map, hdrop, h]

/-- The text falls into segments each of which is the first that the reader tries, with `r` behind
the text. -/
inductive Tried (r : List Char) : List Item → List Char → Parts → Prop
  | nil : Tried r [] [] []
  | char {is : List Item} {s : List Char} {parts : Parts} (c : Char) :
      Tried r is s parts → Tried r (.char c :: is) (c :: s) parts
  | token {is : List Item} {s : List Char} {parts : Parts} (t : Token) {u : List Char} :
      (t.directive.lengths (u ++ (s ++ r))).head? = some u.length → Tried r is s parts →
        Tried r (.token t :: is) (u ++ s) ((t.directive, u) :: parts)

namespace Tried

variable {is js : List Item} {s s' r : List Char} {parts parts' : Parts}

theorem append (h : Tried (s' ++ r) is s parts) (h' : Tried r js s' parts') :
    Tried r (is ++ js) (s ++ s') (parts ++ parts') := by
  induction h with
  | nil => exact h'
  | char c _ ih => exact .char c ih
  | token t hhead _ ih =>
    rw [List.append_assoc]
    refine .token t ?_ ih
    rwa [List.append_assoc]

theorem append_inv (h : Tried r (is ++ js) s parts) :
    ∃ s₁ s₂ parts₁ parts₂, s = s₁ ++ s₂ ∧ parts = parts₁ ++ parts₂ ∧
      Tried (s₂ ++ r) is s₁ parts₁ ∧ Tried r js s₂ parts₂ := by
  induction is generalizing s parts with
  | nil => exact ⟨[], s, [], parts, rfl, rfl, .nil, h⟩
  | cons i is ih =>
    cases h with
    | char c h =>
      obtain ⟨s₁, s₂, parts₁, parts₂, rfl, rfl, h₁, h₂⟩ := ih h
      exact ⟨c :: s₁, s₂, parts₁, parts₂, rfl, rfl, .char c h₁, h₂⟩
    | token t hhead h =>
      obtain ⟨s₁, s₂, parts₁, parts₂, rfl, rfl, h₁, h₂⟩ := ih h
      refine ⟨_, s₂, _, parts₂, by simp, rfl, .token t ?_ h₁, h₂⟩
      rwa [List.append_assoc] at hhead

theorem takes (h : Tried r is s parts) : ∀ p ∈ parts, p.1.Takes p.2 := by
  induction h with
  | nil => simp
  | char _ _ ih => exact ih
  | token t hhead _ ih =>
    have hmem := List.mem_of_mem_head? hhead
    rw [Directive.mem_lengths_iff, List.take_left] at hmem
    exact List.forall_mem_cons.mpr ⟨hmem.2, ih⟩

theorem runs (h : Tried r is s parts) (heven : Even parts) : Runs (is.map Item.kind) s := by
  have htakes := h.takes
  induction h with
  | nil => exact .nil
  | char c _ ih => exact (ih heven htakes).cons_char c
  | token t _ _ ih =>
    obtain ⟨hhead, hrest⟩ := List.forall_mem_cons.mp heven
    obtain ⟨hu, hrest'⟩ := List.forall_mem_cons.mp htakes
    exact .cons (Directive.ne_nil_of_takes hu) hhead (ih hrest hrest')

theorem parts_eq_nil (h : Tried r is s parts) (hk : ∀ i ∈ is, i.kind = .blank) : parts = [] := by
  induction h with
  | nil => rfl
  | char c _ ih => exact ih (List.forall_mem_cons.mp hk).2
  | token t _ _ _ =>
    obtain ⟨c, hc, -⟩ := exists_blank_of_kind_eq (hk (.token t) (by simp))
    cases hc

theorem readSteps?_map_step {ps : List Step} {rest : Parts} (h : Tried r is s parts)
    (hrest : readSteps? ps r = some (rest, [])) :
    readSteps? (is.map Item.step ++ ps) (s ++ r) = some (parts ++ rest, []) := by
  induction h with
  | nil => exact hrest
  | char c _ ih => simp [Item.step, readSteps?, Text.sameLetter, ih]
  | token t hhead _ ih =>
    rw [List.append_assoc]
    exact readSteps?_field_of_head? hhead ih

theorem readSteps?_flatten {gs : List (List Item)} (hgs : Stretched gs) {ps : List Step}
    {rest : Parts} (h : Tried r gs.flatten s parts) (heven : Even parts)
    (hr : r.head?.map kind ≠ some .blank) (hrest : readSteps? ps r = some (rest, [])) :
    readSteps? (steps (gs.flatten.map Item.element) ++ ps) (s ++ r) = some (parts ++ rest, []) := by
  induction hgs generalizing s parts with
  | nil =>
    cases h
    exact hrest
  | @cons g gs k hne hk hnext _ ih =>
    rw [List.flatten_cons] at h ⊢
    obtain ⟨s₁, s₂, parts₁, parts₂, rfl, rfl, h₁, h₂⟩ := h.append_inv
    obtain ⟨heven₁, heven₂⟩ := List.forall_mem_append.mp heven
    have ih := ih h₂ heven₂
    by_cases hblank : k = .blank
    · subst hblank
      have hruns := h₁.runs heven₁
      obtain rfl := h₁.parts_eq_nil hk
      rw [steps_append_of_blank hne hk hnext, List.append_assoc, List.nil_append]
      refine readSteps?_blanks ?_ (hruns.kind_eq (by simpa using hk)) ?_ ih
      · rintro rfl
        cases g with
        | nil => exact hne rfl
        | cons i g => simpa using hruns.head?_eq
      · have hs₂ := (h₂.runs heven₂).head?_eq ▸ hnext
        cases s₂ with
        | nil => exact hr
        | cons c s₂ => exact hs₂
    · rw [steps_append_of_ne_blank (fun i hi => hk i hi ▸ hblank), List.append_assoc,
        List.append_assoc, List.append_assoc]
      exact h₁.readSteps?_map_step ih

theorem readSteps?_append {ps : List Step} {rest : Parts} (h : Tried r is s parts)
    (heven : Even parts) (hr : r.head?.map kind ≠ some .blank)
    (hrest : readSteps? ps r = some (rest, [])) :
    readSteps? (steps (is.map Item.element) ++ ps) (s ++ r) = some (parts ++ rest, []) := by
  have hflatten : (stretches is).flatten = is := List.flatten_splitBy _ _
  rw [← hflatten] at h ⊢
  exact h.readSteps?_flatten (stretched_stretches is) heven hr hrest

theorem readSteps?_eq (h : Tried [] is s parts) (heven : Even parts) :
    readSteps? (steps (is.map Item.element)) s = some (parts, []) := by
  have hnil : readSteps? [] [] = some ([], []) := rfl
  simpa using h.readSteps?_append heven (by simp) hnil

end Tried

end FormRules.DateFormat
