import FormRules.Proofs.Rule.Form

namespace FormRules

namespace Rule.Password

open Text

/-! ## The policy -/

inductive Kind
  | letter
  | digit
  | special

def Kind.Holds : Kind → Char → Prop
  | .letter, c => 'a' ≤ c ∧ c ≤ 'z' ∨ 'A' ≤ c ∧ c ≤ 'Z'
  | .digit, c => '0' ≤ c ∧ c ≤ '9'
  | .special, c => c ∈ specials

/-- At least eight characters, all of them of the three kinds, and one at least of each kind. -/
structure Policy (s : List Char) : Prop where
  length_ge : 8 ≤ s.length
  allowed : ∀ c ∈ s, ∃ k : Kind, k.Holds c
  holding : ∀ k : Kind, ∃ c ∈ s, k.Holds c

variable {s t : List Char} {c : Char}

theorem Policy.of_perm (h : Policy s) (hperm : s.Perm t) : Policy t where
  length_ge := hperm.length_eq ▸ h.length_ge
  allowed := fun c hc => h.allowed c (hperm.mem_iff.mpr hc)
  holding := fun k => by
    obtain ⟨c, hc, hk⟩ := h.holding k
    exact ⟨c, hperm.mem_iff.mp hc, hk⟩

theorem policy_iff_of_perm (hperm : s.Perm t) : Policy s ↔ Policy t :=
  ⟨fun h => h.of_perm hperm, fun h => h.of_perm hperm.symm⟩

theorem Policy.cons (h : Policy s) {k : Kind} (hc : k.Holds c) : Policy (c :: s) where
  length_ge := h.length_ge.trans (Nat.le_succ _)
  allowed := List.forall_mem_cons.mpr ⟨⟨k, hc⟩, h.allowed⟩
  holding := fun k => by
    obtain ⟨d, hd, hk⟩ := h.holding k
    exact ⟨d, List.mem_cons_of_mem c hd, hk⟩

theorem Policy.insert (h : Policy (s ++ t)) {k : Kind} (hc : k.Holds c) : Policy (s ++ c :: t) :=
  (h.cons hc).of_perm List.perm_middle.symm

/-! ## The pattern -/

def Kind.set : Kind → CharSet
  | .letter => .asciiLetter
  | .digit => .asciiDigit
  | .special => Password.special

theorem Kind.set_holds_iff {k : Kind} : k.set.holds c = true ↔ k.Holds c := by
  cases k with
  | letter =>
    refine (DateFormat.isAsciiLetter_iff c).trans ?_
    simp only [Holds, DateFormat.le_iff_toNat_le, Char.reduceToNat]
    exact or_comm
  | digit => simp [set, CharSet.holds, isAsciiDigit, Holds]
  | special => exact CharSet.among_holds_iff

theorem allowed_holds_iff : allowed.holds c = true ↔ ∃ k : Kind, k.Holds c := by
  rw [allowed, CharSet.union_holds_iff, CharSet.union_holds_iff]
  constructor
  · rintro ((h | h) | h)
    · exact ⟨.letter, Kind.set_holds_iff.mp h⟩
    · exact ⟨.digit, Kind.set_holds_iff.mp h⟩
    · exact ⟨.special, Kind.set_holds_iff.mp h⟩
  · rintro ⟨k, h⟩
    have hset := Kind.set_holds_iff.mpr h
    cases k with
    | letter => exact .inl (.inl hset)
    | digit => exact .inl (.inr hset)
    | special => exact .inr hset

theorem not_allowed_newline : ¬∃ k : Kind, k.Holds '\n' := by
  rw [← allowed_holds_iff]
  decide

theorem matches_holding_iff {cs : CharSet} : (Password.holding cs).Matches s ↔
    ∃ a c b, s = a ++ c :: b ∧ '\n' ∉ a ∧ cs.holds c = true := by
  have hany (d : Char) : (CharSet.outside (.among [])).holds d = true := rfl
  simp only [Password.holding, inLine, Pattern.inOrder, Pattern.matches_seq, Pattern.matches_one,
    Pattern.matches_many_one, CharSet.outside_holds_iff, CharSet.among_holds_iff,
    List.mem_singleton]
  constructor
  · rintro ⟨a, _, rfl, ha, _, b, rfl, ⟨c, hc, rfl⟩, -⟩
    exact ⟨a, c, b, rfl, fun hmem => ha '\n' hmem rfl, hc⟩
  · rintro ⟨a, c, b, rfl, ha, hc⟩
    refine ⟨a, c :: b, rfl, ?_, [c], b, rfl, ⟨c, hc, rfl⟩, by simp⟩
    rintro d hd rfl
    exact ha hd

theorem exists_mem_of_matches_holding {k : Kind} (h : (Password.holding k.set).Matches s) :
    ∃ c ∈ s, k.Holds c := by
  obtain ⟨a, c, b, rfl, -, hc⟩ := matches_holding_iff.mp h
  exact ⟨c, by simp, Kind.set_holds_iff.mp hc⟩

theorem Policy.matches_holding (h : Policy s) (k : Kind) :
    (Password.holding k.set).Matches s := by
  obtain ⟨c, hc, hk⟩ := h.holding k
  obtain ⟨a, b, rfl⟩ := List.append_of_mem hc
  refine matches_holding_iff.mpr ⟨a, c, b, rfl, fun hmem => ?_, Kind.set_holds_iff.mpr hk⟩
  exact not_allowed_newline (h.allowed '\n' (List.mem_append_left _ hmem))

theorem matches_pattern_iff : pattern.Matches s ↔ Policy s := by
  have hcount : (Pattern.atLeast 8 (.one allowed)).Matches s ↔
      8 ≤ s.length ∧ ∀ c ∈ s, ∃ k : Kind, k.Holds c := by
    simp only [Pattern.matches_atLeast_one, allowed_holds_iff]
  constructor
  · rintro ⟨hletter, hdigit, hspecial, hrest⟩
    obtain ⟨hlength, hallowed⟩ := hcount.mp hrest
    refine ⟨hlength, hallowed, fun k => ?_⟩
    cases k with
    | letter => exact exists_mem_of_matches_holding (k := .letter) hletter
    | digit => exact exists_mem_of_matches_holding (k := .digit) hdigit
    | special => exact exists_mem_of_matches_holding (k := .special) hspecial
  · intro h
    exact ⟨h.matches_holding .letter, h.matches_holding .digit, h.matches_holding .special,
      hcount.mpr ⟨h.length_ge, h.allowed⟩⟩

end Rule.Password

namespace FieldRun

open Rule.Password

theorem get?_password : Registry.builtin.get? "password" = some ⟨Rule.password, "password"⟩ := by
  rfl

/-- A text is a password by the policy, whatever the parameter, and any other text fails with the
message of the rule. The characters of a password may be put in any order, and a character that is
allowed may be put in anywhere. -/
theorem password_by_policy (context : Context) (field : String) (record : Value)
    (param : Option String) :
    let passes (v : String) : Prop :=
      Passes .builtin context field (.text v) record ⟨"password", param⟩
    (∀ v, passes v ↔ Policy v.toList) ∧
    (∀ v, ¬passes v → Fails .builtin context field (.text v) record ⟨"password", param⟩
      (field ++ " must be at least 8 characters long, contain letters, numbers, " ++
        "and at least one special character")) ∧
    (∀ v w, v.toList.Perm w.toList → (passes v ↔ passes w)) ∧
    ∀ (s t : String) (c : Char) (k : Kind), k.Holds c → passes (s ++ t) →
      passes (s ++ c.toString ++ t) := by
  intro passes
  have hpasses (v : String) : passes v ↔ Policy v.toList := by
    rw [← matches_pattern_iff]
    exact passes_ofPattern_iff get?_password
  refine ⟨hpasses, fun v h => ?_, fun v w hperm => ?_, fun s t c k hc h => ?_⟩
  · rw [hpasses, ← matches_pattern_iff] at h
    exact (fails_ofPattern_iff get?_password).mpr ⟨h, rfl⟩
  · rw [hpasses, hpasses]
    exact policy_iff_of_perm hperm
  · rw [hpasses] at h ⊢
    rw [String.toList_append] at h
    simpa using h.insert hc

/-- Eight characters with a special one first, the same from behind, and with a bar in the middle; a
digit of another script is no character of a password. -/
theorem password_by_policy_of_eight :
    let context : Context :=
      ⟨.ofDate ⟨2024, 6, 15, by decide, by decide, by decide, by decide⟩, "YYYY-MM-DD"⟩
    let passes (v : String) : Prop :=
      Passes .builtin context "f" (.text v) (.mapping []) ⟨"password", none⟩
    passes ("!a1b" ++ "cdZf") ∧ passes "fZdcb1a!" ∧ passes ("!a1b" ++ '|'.toString ++ "cdZf") ∧
      Fails .builtin context "f" (.text "!a\u0661bcdZf") (.mapping []) ⟨"password", none⟩
        ("f must be at least 8 characters long, contain letters, numbers, " ++
          "and at least one special character") := by
  intro context passes
  have haccepts (u : String) : passes u ↔ pattern.accepts u.toList = true :=
    (passes_ofPattern_iff get?_password).trans (Text.Pattern.accepts_iff _ _).symm
  have hpasses : passes ("!a1b" ++ "cdZf") := (haccepts _).mpr (by decide +kernel)
  have hforeign : ¬passes "!a\u0661bcdZf" := (haccepts _).not.mpr (by decide +kernel)
  have hperm : ("!a1b" ++ "cdZf").toList.Perm "fZdcb1a!".toList := by decide +kernel
  have hbar : Kind.special.Holds '|' := by
    rw [← Kind.set_holds_iff]
    decide
  obtain ⟨-, hfails, hanyOrder, hinsert⟩ := password_by_policy context "f" (.mapping []) none
  exact ⟨hpasses, (hanyOrder _ _ hperm).mp hpasses, hinsert _ _ '|' .special hbar hpasses,
    hfails _ hforeign⟩

end FieldRun

end FormRules
