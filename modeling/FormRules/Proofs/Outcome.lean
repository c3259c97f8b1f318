import FormRules.Proofs.Clause
import FormRules.Proofs.FirstFailure

namespace FormRules

def Outcome.andThen : Outcome → Outcome → Outcome
  | .passed, o => o
  | .failed c own, _ => .failed c own
  | .halted fault, _ => .halted fault

namespace Clause

def tokens (spec : String) : List (List Char) := Text.pieces '|' spec.toList

theorem tokens_append (s t : String) : tokens (s ++ "|" ++ t) = tokens s ++ tokens t := by
  have hchars : (s ++ "|" ++ t).toList = s.toList ++ '|' :: t.toList := by simp
  rw [tokens, hchars, Text.pieces_append_cons, tokens, tokens]

theorem readAll_append (s t : String) :
    readAll (s ++ "|" ++ t) = readAll s ++ readAll t := by
  unfold readAll
  rw [← tokens, tokens_append, List.filter_append, List.map_append]
  rfl

end Clause

namespace FieldRun

variable {r : Registry} {context : Context} {field : String} {value record : Value}

theorem ofClauses_append_outcome (cs ds : List Clause) :
    (ofClauses r context field value record (cs ++ ds)).outcome =
      (ofClauses r context field value record cs).outcome.andThen
        (ofClauses r context field value record ds).outcome := by
  induction cs with
  | nil => rfl
  | cons c cs ih =>
    rw [List.cons_append, ofClauses_cons_outcome, ofClauses_cons_outcome, ih]
    split <;> rfl

theorem ofClauses_outcome_of_passes {c : Clause} (h : Passes r context field value record c)
    (cs : List Clause) :
    (ofClauses r context field value record (c :: cs)).outcome =
      (ofClauses r context field value record cs).outcome := by
  rw [ofClauses_cons_outcome]
  rcases h with h | h <;> rw [h]

theorem exempt_append_iff {cs ds : List Clause} :
    Exempt value (cs ++ ds) ↔ Exempt value cs ∨ Exempt value ds := by
  simp only [Exempt, List.mem_append, or_and_right, exists_or, and_or_left]

theorem ofValue_outcome_of_exempt {cs : List Clause} (h : Exempt value cs) :
    (ofValue r context field value record cs).outcome = .passed :=
  ofValue_outcome_eq_iff.mpr (.inl h)

theorem ofValue_of_not_exempt {cs : List Clause} (h : ¬Exempt value cs) :
    ofValue r context field value record cs = ofClauses r context field value record cs := by
  rw [ofValue, if_neg fun hex => h (exempt_iff.mpr hex)]

theorem ofValue_append_outcome {cs ds : List Clause} (hcs : ¬Exempt value cs)
    (hds : ¬Exempt value ds) :
    (ofValue r context field value record (cs ++ ds)).outcome =
      (ofValue r context field value record cs).outcome.andThen
        (ofValue r context field value record ds).outcome := by
  have happend : ¬Exempt value (cs ++ ds) := fun h => (exempt_append_iff.mp h).elim hcs hds
  rw [ofValue_of_not_exempt happend, ofValue_of_not_exempt hcs, ofValue_of_not_exempt hds,
    ofClauses_append_outcome]

/-! ## Tokens that do not matter -/

/-- A token that is no clause, whose name is that of no rule, or that allows a null value where the
value is not null. -/
inductive Idle (r : Registry) (value : Value) : List Char → Prop
  | blank {token} : Text.isBlankText token = true → Idle r value token
  | unknown {token} : r.get? (Clause.ofChars token).name = none →
      (Clause.ofChars token).name ≠ nullable → Idle r value token
  | allowed {token known} : value.isNull = false → (Clause.ofChars token).name = nullable →
      r.get? nullable = some known → known.rules = Rule.nullable → Idle r value token

theorem said_nullable {c : Clause} {known : NamedClass} (hname : c.name = nullable)
    (hget : r.get? nullable = some known) (hrules : known.rules = Rule.nullable) :
    said r context field value record c = some (.ok .passed) := by
  rw [said, hname, hget, Option.map_some, hrules]
  rfl

theorem Idle.passes {token : List Char} (h : Idle r value token) :
    Text.isBlankText token = true ∨ Passes r context field value record (.ofChars token) := by
  cases h with
  | blank hblank => exact .inl hblank
  | unknown hget _ => exact .inr (.inl (by rw [said, hget]; rfl))
  | allowed _ hname hget hrules => exact .inr (.inr (said_nullable hname hget hrules))

theorem Idle.name_ne {token : List Char} (h : Idle r value token) (hnull : value.isNull = true) :
    Text.isBlankText token = true ∨ (Clause.ofChars token).name ≠ nullable := by
  cases h with
  | blank hblank => exact .inl hblank
  | unknown _ hname => exact .inr hname
  | allowed hvalue => exact absurd hvalue (by simp [hnull])

open Classical in
theorem filter_cons_of_idle {token : List Char} (h : Idle r value token)
    (tokens : List (List Char)) :
    (token :: tokens).filter (fun token => ¬Idle r value token) =
      tokens.filter fun token => ¬Idle r value token :=
  List.filter_cons_of_neg (by simpa using h)

open Classical in
noncomputable def kept (r : Registry) (value : Value) (spec : String) : List Clause :=
  ((Clause.tokens spec).filter fun token => ¬Idle r value token).map Clause.ofChars

theorem ofClauses_kept_outcome (spec : String) :
    (ofClauses r context field value record (kept r value spec)).outcome =
      (ofClauses r context field value record (Clause.readAll spec)).outcome := by
  unfold kept Clause.readAll
  rw [← Clause.tokens]
  induction Clause.tokens spec with
  | nil => rfl
  | cons token tokens ih =>
    by_cases hblank : Text.isBlankText token = true
    · rw [filter_cons_of_idle (.blank hblank), List.filter_cons_of_neg (by simpa using hblank), ih]
    · by_cases hidle : Idle r value token
      · have hpass : Passes r context field value record (.ofChars token) :=
          hidle.passes.resolve_left hblank
        rw [filter_cons_of_idle hidle, List.filter_cons_of_pos (by simpa using hblank), ih,
          List.map_cons, ofClauses_outcome_of_passes hpass]
      · rw [List.filter_cons_of_pos (by simpa using hidle),
          List.filter_cons_of_pos (by simpa using hblank), List.map_cons, List.map_cons,
          ofClauses_cons_outcome, ofClauses_cons_outcome, ih]

theorem exempt_kept_iff (spec : String) :
    Exempt value (kept r value spec) ↔ Exempt value (Clause.readAll spec) := by
  refine and_congr_right fun hnull => ?_
  constructor
  · rintro ⟨c, hc, hname⟩
    obtain ⟨token, htoken, rfl⟩ := List.mem_map.mp hc
    obtain ⟨htoken, hmatters⟩ := List.mem_filter.mp htoken
    have hblank : ¬Text.isBlankText token = true := fun hblank =>
      (show ¬Idle r value token by simpa using hmatters) (.blank hblank)
    exact ⟨_, List.mem_map_of_mem (List.mem_filter.mpr ⟨htoken, by simpa using hblank⟩), hname⟩
  · rintro ⟨c, hc, hname⟩
    obtain ⟨token, htoken, rfl⟩ := List.mem_map.mp hc
    obtain ⟨htoken, hblank⟩ := List.mem_filter.mp htoken
    have hmatters : ¬Idle r value token := fun hidle =>
      (hidle.name_ne hnull).elim (by simpa using hblank) fun hne => hne hname
    exact ⟨_, List.mem_map_of_mem (List.mem_filter.mpr ⟨htoken, by simpa using hmatters⟩), hname⟩

theorem ofValue_kept_outcome (spec : String) :
    (ofValue r context field value record (kept r value spec)).outcome =
      (ofValue r context field value record (Clause.readAll spec)).outcome := by
  by_cases hex : Exempt value (Clause.readAll spec)
  · rw [ofValue_outcome_of_exempt hex,
      ofValue_outcome_of_exempt ((exempt_kept_iff spec).mpr hex)]
  · rw [ofValue_of_not_exempt hex, ofValue_of_not_exempt ((exempt_kept_iff spec).not.mpr hex),
      ofClauses_kept_outcome]

end FieldRun

namespace Checker

variable {c : Checker} {entries : List (Value × Value)} {field : String}

theorem message?_andThen (c : Checker) (field : String) (o o' : Outcome) :
    c.message? field (o.andThen o') =
      match c.message? field o with
      | .ok none => c.message? field o'
      | told => told := by
  cases o with
  | passed => rfl
  | halted fault => rfl
  | failed clause own =>
    rw [Outcome.andThen, message?]
    cases Message.resolve c.messages field clause.name own clause.param <;> rfl

theorem fieldError?_eq (spec : String) :
    c.fieldError? (.mapping entries) field (.text spec) =
      c.message? field (FieldRun.ofValue c.registry c.context field (Value.entry entries field)
        (.mapping entries) (Clause.readAll spec)).outcome :=
  rfl

theorem errors_ofTexts_singleton (spec : String) :
    c.errors (.mapping entries) (.ofTexts [(field, spec)]) =
      (c.fieldError? (.mapping entries) field (.text spec)).map
        fun message => (message.map fun m => (field, m)).toList := by
  rw [errors_ofTexts_cons]
  cases c.fieldError? (.mapping entries) field (.text spec) with
  | error fault => rfl
  | ok message => cases message <;> rfl

theorem fieldError?_of_exempt_append {s t : String}
    (h : FieldRun.Exempt (Value.entry entries field) (Clause.readAll s) ∨
      FieldRun.Exempt (Value.entry entries field) (Clause.readAll t)) :
    c.fieldError? (.mapping entries) field (.text (s ++ "|" ++ t)) = .ok none := by
  rw [fieldError?_eq, Clause.readAll_append,
    FieldRun.ofValue_outcome_of_exempt (FieldRun.exempt_append_iff.mpr h), message?]

theorem fieldError?_append {s t : String}
    (hs : ¬FieldRun.Exempt (Value.entry entries field) (Clause.readAll s))
    (ht : ¬FieldRun.Exempt (Value.entry entries field) (Clause.readAll t)) :
    c.fieldError? (.mapping entries) field (.text (s ++ "|" ++ t)) =
      match c.fieldError? (.mapping entries) field (.text s) with
      | .ok none => c.fieldError? (.mapping entries) field (.text t)
      | told => told := by
  rw [fieldError?_eq, Clause.readAll_append, FieldRun.ofValue_append_outcome hs ht,
    message?_andThen, fieldError?_eq, fieldError?_eq]

theorem fieldError?_of_kept_eq {s t : String}
    (h : FieldRun.kept c.registry (Value.entry entries field) s =
      FieldRun.kept c.registry (Value.entry entries field) t) :
    c.fieldError? (.mapping entries) field (.text s) =
      c.fieldError? (.mapping entries) field (.text t) := by
  rw [fieldError?_eq, fieldError?_eq, ← FieldRun.ofValue_kept_outcome, h,
    FieldRun.ofValue_kept_outcome]

end Checker

namespace Engine

open Classical in
/-- The clauses of a rule string in two parts are those of the first part and then those of the
second. A null value that either part allows passes; in any other case the first part decides unless
it passes, and then the second. Rule strings whose tokens that matter are the same come out the
same. -/
theorem errors_of_joined_specs (e : Engine) (r : Registry) (now : DateTime) (call : Messages)
    (entries : List (Value × Value)) (field : String) :
    let value := Value.entry entries field
    let told (spec : String) := e.errors r now call (.mapping entries) (.ofTexts [(field, spec)])
    (∀ s t, Clause.readAll (s ++ "|" ++ t) = Clause.readAll s ++ Clause.readAll t) ∧
    (∀ s t, FieldRun.Exempt value (Clause.readAll s) ∨ FieldRun.Exempt value (Clause.readAll t) →
      told (s ++ "|" ++ t) = .ok []) ∧
    (∀ s t, ¬FieldRun.Exempt value (Clause.readAll s) →
      ¬FieldRun.Exempt value (Clause.readAll t) →
      told (s ++ "|" ++ t) =
        match told s with
        | .ok [] => told t
        | decided => decided) ∧
    ∀ s s', (Clause.tokens s).filter (fun token => ¬FieldRun.Idle r value token) =
        (Clause.tokens s').filter (fun token => ¬FieldRun.Idle r value token) →
      told s = told s' := by
  intro value told
  have htold (spec : String) : told spec =
      ((e.checker r now call).fieldError? (.mapping entries) field (.text spec)).map
        fun message => (message.map fun m => (field, m)).toList :=
    Checker.errors_ofTexts_singleton spec
  refine ⟨Clause.readAll_append, ?_, ?_, ?_⟩
  · intro s t hex
    rw [htold, Checker.fieldError?_of_exempt_append hex]
    rfl
  · intro s t hs ht
    rw [htold, htold, htold, Checker.fieldError?_append hs ht]
    cases (e.checker r now call).fieldError? (.mapping entries) field (.text s) with
    | error fault => rfl
    | ok message => cases message <;> rfl
  · intro s s' hkept
    have hclauses : FieldRun.kept r value s = FieldRun.kept r value s' := by
      rw [FieldRun.kept, hkept, FieldRun.kept]
    rw [htold, htold, Checker.fieldError?_of_kept_eq hclauses]

open Classical in
/-- A missing value that the second part allows, a value that fails in the second part, and the same
between an unknown name, blanks and leave to be missing. -/
theorem errors_of_joined_specs_of_idle_tokens :
    let e : Engine := ⟨[], ⟨"", none⟩, [], "YYYY"⟩
    let now : DateTime := .ofDate ⟨2024, 6, 15, by decide, by decide, by decide, by decide⟩
    let entries : List (Value × Value) := [(.text "a", .text "ab")]
    let told (field spec : String) :=
      e.errors .builtin now [] (.mapping entries) (.ofTexts [(field, spec)])
    FieldRun.Exempt (Value.entry entries "b") (Clause.readAll "required|nullable:x") ∧
    told "b" "min:x|required|nullable:x" = .ok [] ∧
    ¬FieldRun.Exempt (Value.entry entries "a") (Clause.readAll "string") ∧
    ¬FieldRun.Exempt (Value.entry entries "a") (Clause.readAll "min:3|max:x") ∧
    told "a" "string|min:3|max:x" = .ok [("a", "a must be at least 3 characters long")] ∧
    (Clause.tokens "bogus:1||nullable:x|min:3| |max:x").filter
        (fun token => ¬FieldRun.Idle .builtin (Value.entry entries "a") token) =
      (Clause.tokens "min:3|max:x").filter
        (fun token => ¬FieldRun.Idle .builtin (Value.entry entries "a") token) ∧
    told "a" "bogus:1||nullable:x|min:3| |max:x" =
      .ok [("a", "a must be at least 3 characters long")] := by
  intro e now entries told
  have hfails : told "a" "min:3|max:x" = .ok [("a", "a must be at least 3 characters long")] := by
    decide +kernel
  have hpasses : told "a" "string" = .ok [] := by decide +kernel
  have hexempt : FieldRun.Exempt (Value.entry entries "b") (Clause.readAll "required|nullable:x") :=
    FieldRun.exempt_iff.mpr (by decide +kernel)
  have hvalue : (Value.entry entries "a").isNull = false := by cbv
  have hpresent (cs : List Clause) : ¬FieldRun.Exempt (Value.entry entries "a") cs := fun h =>
    Bool.noConfusion (hvalue.symm.trans h.1)
  have hunknown : FieldRun.Idle .builtin (Value.entry entries "a") "bogus:1".toList :=
    .unknown (by cbv) (by decide +kernel)
  have hallowed : FieldRun.Idle .builtin (Value.entry entries "a") "nullable:x".toList :=
    .allowed hvalue (by decide +kernel) rfl rfl
  have hempty : FieldRun.Idle .builtin (Value.entry entries "a") [] := .blank rfl
  have hblank : FieldRun.Idle .builtin (Value.entry entries "a") [' '] := .blank rfl
  have htokens : Clause.tokens "bogus:1||nullable:x|min:3| |max:x" =
      ["bogus:1".toList, [], "nullable:x".toList, "min:3".toList, [' '], "max:x".toList] := by
    decide +kernel
  have htokens' : Clause.tokens "min:3|max:x" = ["min:3".toList, "max:x".toList] := by
    decide +kernel
  have hsame : (Clause.tokens "bogus:1||nullable:x|min:3| |max:x").filter
        (fun token => ¬FieldRun.Idle .builtin (Value.entry entries "a") token) =
      (Clause.tokens "min:3|max:x").filter
        (fun token => ¬FieldRun.Idle .builtin (Value.entry entries "a") token) := by
    rw [htokens, htokens', FieldRun.filter_cons_of_idle hunknown,
      FieldRun.filter_cons_of_idle hempty, FieldRun.filter_cons_of_idle hallowed,
      ← List.singleton_append, List.filter_append, FieldRun.filter_cons_of_idle hblank,
      ← List.filter_append]
    rfl
  obtain ⟨-, hleave, -, -⟩ := errors_of_joined_specs e .builtin now [] entries "b"
  obtain ⟨-, -, hsecond, herase⟩ := errors_of_joined_specs e .builtin now [] entries "a"
  refine ⟨hexempt, hleave "min:x" "required|nullable:x" (.inr hexempt), hpresent _, hpresent _, ?_,
    hsame, ?_⟩
  · refine (hsecond "string" "min:3|max:x" (hpresent _) (hpresent _)).trans ?_
    change (match told "a" "string" with
      | .ok [] => told "a" "min:3|max:x"
      | decided => decided) = _
    rw [hpasses]
    exact hfails
  · exact (herase _ _ hsame).trans hfails

end Engine

end FormRules
