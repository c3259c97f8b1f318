import FormRules.Registry

namespace FormRules.Registry

def Sound (r : Registry) : Prop := ∀ e ∈ r.bindings, e.2 < r.classes.length

theorem find?_setBinding (name other : String) (i : Nat) (bs : List (String × Nat)) :
    (setBinding name i bs).find? (fun e => e.1 == other) =
      if name = other then some (name, i) else bs.find? fun e => e.1 == other := by
  induction bs with
  | nil => by_cases h : name = other <;> simp [setBinding, h]
  | cons e bs ih =>
    by_cases he : e.1 = name
    · by_cases h : name = other
      · simp [setBinding, he, h]
      · simp [setBinding, he, h]
    · by_cases h : name = other
      · subst h
        simp [setBinding, he, ih]
      · simp only [setBinding, if_neg he, List.find?_cons, ih, if_neg h]

theorem mem_setBinding {name : String} {i : Nat} {bs : List (String × Nat)} {e : String × Nat}
    (h : e ∈ setBinding name i bs) : e = (name, i) ∨ e ∈ bs := by
  induction bs with
  | nil => simpa [setBinding] using h
  | cons d bs ih =>
    unfold setBinding at h
    split at h
    · rcases List.mem_cons.mp h with rfl | h
      · exact .inl rfl
      · exact .inr (List.mem_cons_of_mem d h)
    · rcases List.mem_cons.mp h with rfl | h
      · exact .inr List.mem_cons_self
      · exact (ih h).imp_right (List.mem_cons_of_mem d)

theorem Sound.lt_of_index? {r : Registry} (hr : r.Sound) {name : String} {i : Nat}
    (h : r.index? name = some i) : i < r.classes.length := by
  obtain ⟨e, hfind, rfl⟩ := Option.map_eq_some_iff.mp h
  exact hr e (List.mem_of_find?_eq_some hfind)

theorem classes_register (r : Registry) (name : String) (rules : RuleClass) :
    (r.register name rules).classes = r.classes ++ [⟨rules, name⟩] := by
  simp [register, bind, List.modify_eq_take_cons_drop]

theorem Sound.register {r : Registry} (hr : r.Sound) (name : String) (rules : RuleClass) :
    (r.register name rules).Sound := by
  intro e he
  rw [classes_register, List.length_append, List.length_singleton]
  rcases mem_setBinding he with rfl | he
  · exact Nat.lt_succ_self _
  · exact Nat.lt_succ_of_lt (hr e he)

theorem get?_register {r : Registry} (hr : r.Sound) (name other : String) (rules : RuleClass) :
    (r.register name rules).get? other =
      if name = other then some ⟨rules, name⟩ else r.get? other := by
  have hindex : (r.register name rules).index? other =
      if name = other then some r.classes.length else r.index? other := by
    unfold index? register bind
    rw [find?_setBinding]
    split <;> rfl
  rw [get?, hindex, classes_register]
  split
  · simp
  · unfold get?
    cases h : r.index? other with
    | none => rfl
    | some i => simp [List.getElem?_append_left (hr.lt_of_index? h)]

theorem sound_empty : Sound ⟨[], []⟩ := by simp [Sound]

theorem get?_foldl_register (es : List (String × RuleClass)) {r : Registry} (hr : r.Sound)
    (name : String) :
    (es.foldl (fun r e => r.register e.1 e.2) r).get? name =
      ((es.reverse.find? fun e => e.1 == name).map fun e => ⟨e.2, e.1⟩).or (r.get? name) := by
  induction es generalizing r with
  | nil => simp
  | cons e es ih =>
    rw [List.foldl_cons, ih (hr.register e.1 e.2), get?_register hr, List.reverse_cons,
      List.find?_append]
    cases es.reverse.find? fun e => e.1 == name with
    | some found => simp
    | none => by_cases h : e.1 = name <;> simp [h]

theorem mem_builtinRules_of_get? {name : String} {known : NamedClass}
    (h : builtin.get? name = some known) :
    known.name = name ∧ (name, known.rules) ∈ builtinRules := by
  rw [builtin, get?_foldl_register _ sound_empty] at h
  have hnone : (⟨[], []⟩ : Registry).get? name = none := rfl
  rw [hnone, Option.or_none] at h
  obtain ⟨e, hfind, rfl⟩ := Option.map_eq_some_iff.mp h
  have hname : e.1 = name := by simpa using List.find?_some hfind
  have hmem : e ∈ builtinRules := by simpa using List.mem_of_find?_eq_some hfind
  exact ⟨hname, hname ▸ hmem⟩

theorem forall_mem_builtinRules {P : String → RuleClass → Prop}
    (judgement : ∀ name title judge, P name (Rule.ofJudgement title judge))
    (length : ∀ name title test message, P name (Rule.ofLength title test message))
    (bound : ∀ name title test message, P name (Rule.ofBound title test message))
    (oneOf : P "in" Rule.oneOf) (date : P "date" Rule.date) (future : P "future" Rule.future)
    (past : P "past" Rule.past) (confirmed : P "confirm_password" Rule.confirmed)
    (requiredIf : P "required_if" Rule.requiredIf) :
    ∀ e ∈ builtinRules, P e.1 e.2 := by
  simp only [builtinRules, List.forall_mem_cons]
  exact ⟨judgement _ _ _, judgement _ _ _, judgement _ _ _, length _ _ _ _, length _ _ _ _,
    length _ _ _ _, oneOf, judgement _ _ _, judgement _ _ _, judgement _ _ _, judgement _ _ _,
    bound _ _ _ _, bound _ _ _ _, judgement _ _ _, judgement _ _ _, judgement _ _ _, date, future,
    past, confirmed, requiredIf, List.forall_mem_nil _⟩

end FormRules.Registry
