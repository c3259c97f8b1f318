import FormRules.Proofs.Rule.Form

namespace FormRules

namespace Rule.Email

open Text

def HasInnerPoint (host : List Char) : Prop :=
  ∃ i, 0 < i ∧ i + 1 < host.length ∧ host[i]? = some '.'

/-- No blank, exactly one sign, something before it, and a point inside of what is behind it. -/
structure IsAddress (s : List Char) : Prop where
  not_isBlank : ∀ c ∈ s, ¬isBlank c = true
  count_sign : s.count '@' = 1
  parts : ∃ name host, s = name ++ '@' :: host ∧ name ≠ [] ∧ HasInnerPoint host

variable {s host : List Char} {c : Char}

theorem hasInnerPoint_iff :
    HasInnerPoint host ↔ ∃ a b, host = a ++ '.' :: b ∧ a ≠ [] ∧ b ≠ [] := by
  constructor
  · rintro ⟨i, hpos, hlt, hpoint⟩
    obtain ⟨hi, hget⟩ := List.getElem?_eq_some_iff.mp hpoint
    refine ⟨host.take i, host.drop (i + 1), ?_, ?_, ?_⟩
    · rw [← hget, ← List.drop_eq_getElem_cons, List.take_append_drop]
    · exact List.ne_nil_of_length_pos (by rw [List.length_take]; omega)
    · exact List.ne_nil_of_length_pos (by rw [List.length_drop]; omega)
  · rintro ⟨a, b, rfl, ha, hb⟩
    have hpos := List.length_pos_iff.mpr ha
    have hlast := List.length_pos_iff.mpr hb
    exact ⟨a.length, hpos, by simpa using hlast, by simp⟩

theorem nameChar_holds_iff : nameChar.holds c = true ↔ ¬isBlank c = true ∧ c ≠ '@' := by
  rw [nameChar, CharSet.outside_holds_iff, CharSet.union_holds_iff, CharSet.among_holds_iff,
    List.mem_singleton, not_or]
  rfl

theorem forall_nameChar_iff : (∀ c ∈ s, nameChar.holds c = true) ↔
    (∀ c ∈ s, ¬isBlank c = true) ∧ '@' ∉ s := by
  simp only [nameChar_holds_iff]
  constructor
  · intro h
    exact ⟨fun c hc => (h c hc).1, fun hsign => (h '@' hsign).2 rfl⟩
  · rintro ⟨hinked, hsign⟩ c hc
    refine ⟨hinked c hc, ?_⟩
    rintro rfl
    exact hsign hc

theorem matches_pattern_iff_exists : pattern.Matches s ↔
    ∃ name a b, s = name ++ '@' :: (a ++ '.' :: b) ∧
      (name ≠ [] ∧ ∀ c ∈ name, nameChar.holds c = true) ∧
      (a ≠ [] ∧ ∀ c ∈ a, nameChar.holds c = true) ∧ b ≠ [] ∧ ∀ c ∈ b, nameChar.holds c = true := by
  simp only [pattern, Pattern.inOrder, Pattern.matches_seq, Pattern.matches_plus_one,
    Pattern.matches_char]
  constructor
  · rintro ⟨name, _, rfl, hname, _, _, rfl, rfl, a, _, rfl, ha, _, b, rfl, rfl, hb⟩
    exact ⟨name, a, b, rfl, hname, ha, hb⟩
  · rintro ⟨name, a, b, rfl, hname, ha, hb⟩
    exact ⟨name, _, rfl, hname, ['@'], _, rfl, rfl, a, _, rfl, ha, ['.'], b, rfl, rfl, hb⟩

theorem sign_notMem_of_count {name : List Char} (h : (name ++ '@' :: host).count '@' = 1) :
    '@' ∉ name ∧ '@' ∉ host := by
  rw [List.count_append, List.count_cons_self] at h
  exact ⟨List.count_eq_zero.mp (by omega), List.count_eq_zero.mp (by omega)⟩

theorem matches_pattern_iff : pattern.Matches s ↔ IsAddress s := by
  simp only [matches_pattern_iff_exists, forall_nameChar_iff]
  constructor
  · rintro ⟨name, a, b, rfl, ⟨hname, hinked, hsign⟩, ⟨ha, hinked', hsign'⟩, hb, hinked'', hsign''⟩
    have hpoint : ¬isBlank '.' = true := by decide
    have hat : ¬isBlank '@' = true := by decide
    exact {
      not_isBlank := by
        simp only [List.forall_mem_append, List.forall_mem_cons]
        exact ⟨hinked, hat, hinked', hpoint, hinked''⟩
      count_sign := by simp [List.count_eq_zero.mpr, hsign, hsign', hsign'']
      parts := ⟨name, _, rfl, hname, hasInnerPoint_iff.mpr ⟨a, b, rfl, ha, hb⟩⟩ }
  · rintro ⟨hinked, hcount, name, host, rfl, hname, hpoint⟩
    obtain ⟨hsign, hsign'⟩ := sign_notMem_of_count hcount
    obtain ⟨a, b, rfl, ha, hb⟩ := hasInnerPoint_iff.mp hpoint
    simp only [List.forall_mem_append, List.forall_mem_cons] at hinked
    obtain ⟨hinkedName, -, hinkedA, -, hinkedB⟩ := hinked
    simp only [List.mem_append, List.mem_cons, not_or] at hsign'
    exact ⟨name, a, b, rfl, ⟨hname, hinkedName, hsign⟩, ⟨ha, hinkedA, hsign'.1⟩, hb, hinkedB,
      hsign'.2.2⟩

end Rule.Email

namespace FieldRun

open Rule.Email

theorem get?_email : Registry.builtin.get? "email" = some ⟨Rule.email, "email"⟩ := by rfl

/-- A text is an address by its blanks, its signs and its points, whatever the parameter, and any
other text fails with the message of the rule. No address ends a line. -/
theorem email_by_parts (context : Context) (field : String) (record : Value)
    (param : Option String) :
    let passes (v : String) : Prop :=
      Passes .builtin context field (.text v) record ⟨"email", param⟩
    (∀ v, passes v ↔ IsAddress v.toList) ∧
    (∀ v, ¬passes v → Fails .builtin context field (.text v) record ⟨"email", param⟩
      ("Invalid email address for " ++ field)) ∧
    ∀ v, ¬passes (v ++ "\n") := by
  intro passes
  have hpasses (v : String) : passes v ↔ IsAddress v.toList := by
    rw [← matches_pattern_iff]
    exact passes_ofPattern_iff get?_email
  refine ⟨hpasses, fun v h => ?_, fun v h => ?_⟩
  · rw [hpasses, ← matches_pattern_iff] at h
    exact (fails_ofPattern_iff get?_email).mpr ⟨h, rfl⟩
  · exact ((hpasses _).mp h).not_isBlank '\n' (by simp) (by decide)

/-- Points at both ends of the host do no harm as long as there is one inside of it; a point at its
start alone is not enough, and of two signs one is too many. -/
theorem email_by_parts_of_outer_points :
    let context : Context :=
      ⟨.ofDate ⟨2024, 6, 15, by decide, by decide, by decide, by decide⟩, "YYYY-MM-DD"⟩
    let passes (v : String) : Prop :=
      Passes .builtin context "f" (.text v) (.mapping []) ⟨"email", none⟩
    let fails (v : String) : Prop :=
      Fails .builtin context "f" (.text v) (.mapping []) ⟨"email", none⟩
        "Invalid email address for f"
    passes ".@.b..c." ∧ fails (".@.b..c." ++ "\n") ∧ fails "a@.b" ∧ fails "a@b.c@d.e" := by
  intro context passes fails
  have haccepts (u : String) : passes u ↔ pattern.accepts u.toList = true :=
    (passes_ofPattern_iff get?_email).trans (Text.Pattern.accepts_iff _ _).symm
  have hpasses : passes ".@.b..c." := (haccepts _).mpr (by decide +kernel)
  have hstart : ¬passes "a@.b" := (haccepts _).not.mpr (by decide +kernel)
  have htwo : ¬passes "a@b.c@d.e" := (haccepts _).not.mpr (by decide +kernel)
  obtain ⟨-, hfails, hline⟩ := email_by_parts context "f" (.mapping []) none
  exact ⟨hpasses, hfails _ (hline _), hfails _ hstart, hfails _ htwo⟩

end FieldRun

end FormRules
