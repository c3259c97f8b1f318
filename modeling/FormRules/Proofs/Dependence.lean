import FormRules.Proofs.FirstFailure
import FormRules.Proofs.Registry
import FormRules.Proofs.Rule.Parameter

namespace FormRules

/-! ## What rules look at -/

def RuleClass.LooksAtValue (rules : RuleClass) : Prop :=
  ∀ name param context rule, rules.prepare name param context = .ok rule →
    ∀ field v record record', rule.judge field v record = rule.judge field v record'

namespace Rule

theorem ofJudgement_looksAtValue (title : String) (judge : String → Value → Verdict) :
    (ofJudgement title judge).LooksAtValue := by
  intro name param context rule hrule field v record record'
  cases hrule
  rfl

theorem looksAtValue_of_read {α : Type} {title : String}
    {read : String → Option String → Except RuleFault α} {make : Option String → α → Rule}
    (h : ∀ param a field v record record',
      (make param a).judge field v record = (make param a).judge field v record') :
    RuleClass.LooksAtValue
      ⟨title, fun name param _ => do .ok (make param (← read name param))⟩ := by
  intro name param context rule hrule
  obtain ⟨a, -, hmade⟩ := bind_eq_ok_iff.mp hrule
  cases hmade
  exact h param a

theorem ofLength_looksAtValue (title : String) (test : Int → Int → Bool)
    (message : String → String → String) : (ofLength title test message).LooksAtValue :=
  looksAtValue_of_read fun _ _ _ _ _ _ => rfl

theorem ofBound_looksAtValue (title : String) (test : Number → Number → Bool)
    (message : String → String → String) : (ofBound title test message).LooksAtValue :=
  looksAtValue_of_read fun _ _ _ _ _ _ => rfl

theorem oneOf_looksAtValue : oneOf.LooksAtValue :=
  looksAtValue_of_read fun _ _ _ _ _ _ => rfl

theorem date_looksAtValue : date.LooksAtValue := by
  intro name param context rule hrule field v record record'
  cases hrule
  rfl

theorem ofSide_looksAtValue (title : String) (side : Ordering) (word : String) :
    (ofSide title side word).LooksAtValue := by
  intro name param context rule hrule field v record record'
  cases hrule
  rfl

theorem holdsText_eq_true_iff {expected : String} {v : Value} :
    holdsText expected v = true ↔ v = .text expected := by
  cases v <;> simp [holdsText]

end Rule

namespace FieldRun

/-- Two records show the same to the clauses of a field. -/
structure Agree (field : String) (cs : List Clause) (entries entries' : List (Value × Value)) :
    Prop where
  value : Value.entry entries field = Value.entry entries' field
  confirmation : (∃ c ∈ cs, c.name = "confirm_password") →
    Value.entry entries "confirm_password" = Value.entry entries' "confirm_password"
  condition : ∀ other expected : String, ',' ∉ other.toList →
    (⟨"required_if", some (other ++ "," ++ expected)⟩ : Clause) ∈ cs →
    (Value.entry entries other = .text expected ↔ Value.entry entries' other = .text expected)

variable {r : Registry} {context : Context} {field : String} {v : Value} {cs : List Clause}
  {c : Clause} {name : String}

theorem judgement_of_looksAtValue {rules : RuleClass} (h : rules.LooksAtValue)
    (record record' : Value) :
    judgement rules name context c field v record =
      judgement rules name context c field v record' := by
  unfold judgement
  cases hrule : rules.prepare name c.param context with
  | error fault => rfl
  | ok rule => exact h name c.param context rule hrule field v record record'

variable {entries entries' : List (Value × Value)}

theorem judgement_confirmed_congr (h : Agree field cs entries entries') (hc : c ∈ cs)
    (hname : c.name = "confirm_password") :
    judgement Rule.confirmed name context c field v (.mapping entries) =
      judgement Rule.confirmed name context c field v (.mapping entries') := by
  have hagain : (Value.mapping entries).field Rule.confirmationField =
      (Value.mapping entries').field Rule.confirmationField :=
    congrArg Except.ok (h.confirmation ⟨c, hc, hname⟩)
  simp only [judgement, Rule.confirmed, hagain]

theorem judgement_requiredIf (name : String) (context : Context) (c : Clause) (field : String)
    (v : Value) (entries : List (Value × Value)) :
    judgement Rule.requiredIf name context c field v (.mapping entries) =
      match Rule.requireFieldAndText name c.param with
      | .error fault => .error (.rule fault)
      | .ok (other, expected) =>
        .ok (.passedIf (!Rule.holdsText expected (Value.entry entries other) || Rule.isFilled v)
          (field ++ " is required when " ++ other ++ " is " ++ expected)) := by
  simp only [judgement, Rule.requiredIf]
  cases Rule.requireFieldAndText name c.param <;> rfl

theorem judgement_requiredIf_congr (h : Agree field cs entries entries') (hc : c ∈ cs)
    (hname : c.name = "required_if") :
    judgement Rule.requiredIf name context c field v (.mapping entries) =
      judgement Rule.requiredIf name context c field v (.mapping entries') := by
  rw [judgement_requiredIf, judgement_requiredIf]
  split
  · rfl
  · rename_i other expected hread
    obtain ⟨-, hcomma, hparam⟩ := Rule.requireFieldAndText_eq_ok_iff.mp hread
    have hmem : (⟨"required_if", some (other ++ "," ++ expected)⟩ : Clause) ∈ cs := by
      rwa [← hname, ← hparam]
    have hholds : Rule.holdsText expected (Value.entry entries other) =
        Rule.holdsText expected (Value.entry entries' other) := by
      rw [Bool.eq_iff_iff, Rule.holdsText_eq_true_iff, Rule.holdsText_eq_true_iff]
      exact h.condition other expected hcomma hmem
    rw [hholds]

theorem said_builtin_congr (h : Agree field cs entries entries') (hc : c ∈ cs) :
    said .builtin context field v (.mapping entries) c =
      said .builtin context field v (.mapping entries') c := by
  unfold said
  cases hget : Registry.builtin.get? c.name with
  | none => rfl
  | some known =>
    obtain ⟨-, hmem⟩ := Registry.mem_builtinRules_of_get? hget
    have hjudgement := Registry.forall_mem_builtinRules
      (P := fun word rules => word = c.name →
        judgement rules known.name context c field v (.mapping entries) =
          judgement rules known.name context c field v (.mapping entries'))
      (fun _ title judge _ =>
        judgement_of_looksAtValue (Rule.ofJudgement_looksAtValue title judge) _ _)
      (fun _ title test message _ =>
        judgement_of_looksAtValue (Rule.ofLength_looksAtValue title test message) _ _)
      (fun _ title test message _ =>
        judgement_of_looksAtValue (Rule.ofBound_looksAtValue title test message) _ _)
      (fun _ => judgement_of_looksAtValue Rule.oneOf_looksAtValue _ _)
      (fun _ => judgement_of_looksAtValue Rule.date_looksAtValue _ _)
      (fun _ => judgement_of_looksAtValue (Rule.ofSide_looksAtValue _ _ _) _ _)
      (fun _ => judgement_of_looksAtValue (Rule.ofSide_looksAtValue _ _ _) _ _)
      (fun hname => judgement_confirmed_congr h hc hname.symm)
      (fun hname => judgement_requiredIf_congr h hc hname.symm)
    exact congrArg some (hjudgement (c.name, known.rules) hmem rfl)

theorem ofClauses_outcome_congr {record record' : Value}
    (h : ∀ c ∈ cs, said r context field v record c = said r context field v record' c) :
    (ofClauses r context field v record cs).outcome =
      (ofClauses r context field v record' cs).outcome := by
  induction cs with
  | nil => rfl
  | cons c cs ih =>
    obtain ⟨hc, hcs⟩ := List.forall_mem_cons.mp h
    rw [ofClauses_cons_outcome, ofClauses_cons_outcome, hc, ih hcs]

end FieldRun

namespace Checker

theorem fieldError?_builtin_congr {context : Context} {messages : Messages} {field spec : String}
    {entries entries' : List (Value × Value)}
    (h : FieldRun.Agree field (Clause.readAll spec) entries entries') :
    fieldError? ⟨.builtin, context, messages⟩ (.mapping entries) field (.text spec) =
      fieldError? ⟨.builtin, context, messages⟩ (.mapping entries') field (.text spec) := by
  have hrun : (run ⟨.builtin, context, messages⟩ (.mapping entries) field (.text spec)).outcome =
      (run ⟨.builtin, context, messages⟩ (.mapping entries') field (.text spec)).outcome := by
    change (FieldRun.ofValue _ _ _ (Value.entry entries field) _ _).outcome =
      (FieldRun.ofValue _ _ _ (Value.entry entries' field) _ _).outcome
    rw [h.value]
    unfold FieldRun.ofValue
    split
    · rfl
    · exact FieldRun.ofClauses_outcome_congr fun c hc => FieldRun.said_builtin_congr h hc
  rw [fieldError?, fieldError?, hrun]

end Checker

namespace Engine

/-- With the rules that are there from the start, a field comes out the same for any two records
that show the same to its clauses: its own value, the second entry of a password if that is asked
for, and of a field that a condition names, whether it holds the text or not. -/
theorem errors_eq_of_agree (e : Engine) (now : DateTime) (call : Messages) (field spec : String)
    {entries entries' : List (Value × Value)}
    (h : FieldRun.Agree field (Clause.readAll spec) entries entries') :
    e.errors .builtin now call (.mapping entries) (.ofTexts [(field, spec)]) =
      e.errors .builtin now call (.mapping entries') (.ofTexts [(field, spec)]) := by
  have hfield : (e.checker .builtin now call).fieldError? (.mapping entries) field (.text spec) =
      (e.checker .builtin now call).fieldError? (.mapping entries') field (.text spec) :=
    Checker.fieldError?_builtin_congr h
  rw [errors, errors, Checker.errors_ofTexts_cons, Checker.errors_ofTexts_cons, hfield]
  rfl

/-- A condition that neither record meets, each for a reason of its own, and a second password in
one of them that no clause asks for. -/
theorem errors_eq_of_agree_of_unmet_condition :
    let now : DateTime := .ofDate ⟨2024, 6, 15, by decide, by decide, by decide, by decide⟩
    let entries : List (Value × Value) :=
      [(.text "kind", .text "basic"), (.text "code", .text "ab"),
        (.text "confirm_password", .text "ab")]
    let entries' : List (Value × Value) := [(.text "code", .text "ab"), (.text "kind", .int 5)]
    let spec := "required_if:kind,a,b|min:3|confirm"
    let e : Engine := ⟨[], ⟨"", none⟩, [], "YYYY"⟩
    FieldRun.Agree "code" (Clause.readAll spec) entries entries' ∧
    e.errors .builtin now [] (.mapping entries') (.ofTexts [("code", spec)]) =
      .ok [("code", "code must be at least 3 characters long")] := by
  intro now entries entries' spec e
  have hread : Clause.readAll spec =
      [⟨"required_if", some "kind,a,b"⟩, ⟨"min", some "3"⟩, ⟨"confirm", none⟩] := by
    decide +kernel
  have hagree : FieldRun.Agree "code" (Clause.readAll spec) entries entries' := by
    refine ⟨by cbv, ?_, ?_⟩
    · rw [hread]
      simp
    · intro other expected hcomma hmem
      have hparam : other ++ "," ++ expected = "kind,a,b" := by
        simpa [hread] using hmem
      have hcut := Text.cut_append_cons hcomma expected.toList
      have hcut' : Text.cut ',' "kind,a,b".toList = some ("kind".toList, "a,b".toList) := by decide
      rw [← Rule.toList_condition, hparam, hcut', Option.some_inj, Prod.mk.injEq,
        String.toList_inj, String.toList_inj] at hcut
      obtain ⟨rfl, rfl⟩ := hcut
      have hbasic : Value.entry entries "kind" = .text "basic" := by cbv
      have hfive : Value.entry entries' "kind" = .int 5 := by cbv
      simp [hbasic, hfive]
  refine ⟨hagree, ?_⟩
  rw [← errors_eq_of_agree e now [] "code" spec hagree]
  decide +kernel

end Engine

end FormRules
