import FormRules.Proofs.FirstFailure
import FormRules.Proofs.Number.Grammar
import FormRules.Proofs.Registry
import FormRules.Proofs.Rule.Parameter
import FormRules.Rule.Custom

namespace FormRules

inductive Demand
  | anything
  /-- any text but the empty one -/
  | text
  | integer
  | number
  /-- the name of a field and, after the first comma, a text -/
  | condition
  deriving DecidableEq

namespace Demand

inductive Unmet (p : String) : Demand → ParameterFault → Prop
  | notInteger (h : ¬∃ n, Integer.Written n (Text.trim p.toList)) : Unmet p .integer .notInteger
  | notNumber (h : (Value.text p).number? = none) : Unmet p .number .notNumber
  | notFieldAndValue (h : ',' ∉ p.toList ∨ p.toList.head? = some ',') :
    Unmet p .condition .notFieldAndValue

/-- A parameter that is absent or empty is missing, unless none is asked for. -/
inductive Refuses (d : Demand) : Option String → ParameterFault → Prop
  | missing {param : Option String} (hd : d ≠ .anything)
      (hparam : param = none ∨ param = some "") : Refuses d param .missing
  | unmet {p : String} {cause : ParameterFault} (hp : p ≠ "") (h : Unmet p d cause) :
    Refuses d (some p) cause

def ofName : String → Demand
  | "min" | "max" | "digits" => .integer
  | "min_value" | "max_value" => .number
  | "in" => .text
  | "required_if" => .condition
  | _ => .anything

variable {d : Demand} {param : Option String} {p : String} {cause : ParameterFault}

theorem not_refuses_anything : ¬Refuses .anything param cause := by
  rintro (⟨hd, -⟩ | ⟨-, ⟨⟩⟩)
  exact hd rfl

theorem refuses_missing_iff (hd : d ≠ .anything) (hparam : param = none ∨ param = some "") :
    d.Refuses param cause ↔ cause = .missing := by
  constructor
  · rintro (_ | ⟨hp, -⟩)
    · rfl
    · simp [hp] at hparam
  · rintro rfl
    exact .missing hd hparam

theorem refuses_iff_unmet (hp : p ≠ "") : d.Refuses (some p) cause ↔ Unmet p d cause := by
  constructor
  · rintro (⟨-, hparam⟩ | ⟨-, h⟩)
    · simp [hp] at hparam
    · exact h
  · exact .unmet hp

section Unmet

variable (hp : p ≠ "")

include hp

theorem refuses_integer_iff : integer.Refuses (some p) cause ↔
    cause = .notInteger ∧ Integer.read? (Text.trim p.toList) = none := by
  simp only [refuses_iff_unmet hp, Option.eq_none_iff_forall_ne_some, Ne,
    Integer.read?_eq_some_iff, ← not_exists]
  constructor
  · rintro ⟨h⟩
    exact ⟨rfl, h⟩
  · rintro ⟨rfl, h⟩
    exact .notInteger h

theorem refuses_number_iff : number.Refuses (some p) cause ↔
    cause = .notNumber ∧ Value.numberOfText? p = none := by
  rw [refuses_iff_unmet hp]
  constructor
  · rintro ⟨⟩
    exact ⟨rfl, ‹_›⟩
  · rintro ⟨rfl, h⟩
    exact .notNumber h

theorem refuses_condition_iff : condition.Refuses (some p) cause ↔
    cause = .notFieldAndValue ∧ (',' ∉ p.toList ∨ p.toList.head? = some ',') := by
  rw [refuses_iff_unmet hp]
  constructor
  · rintro ⟨⟩
    exact ⟨rfl, ‹_›⟩
  · rintro ⟨rfl, h⟩
    exact .notFieldAndValue h

end Unmet

/-! ## Readers of parameters -/

/-- It fails exactly where the demand refuses the parameter, and tells the name, the parameter and
what is wrong with it. -/
def FailsBy {α : Type} (d : Demand) (name : String) (param : Option String)
    (read : Except RuleFault α) : Prop :=
  ∀ fault, read = .error fault ↔
    fault.rule = name ∧ fault.param = param ∧ d.Refuses param fault.cause

variable {α β : Type} {name : String}

theorem failsBy_error_iff {cause : ParameterFault} :
    d.FailsBy name param (.error ⟨name, param, cause⟩ : Except RuleFault α) ↔
      ∀ c, d.Refuses param c ↔ c = cause := by
  constructor
  · intro h c
    simpa [eq_comm] using (h ⟨name, param, c⟩).symm
  · rintro h ⟨rule, written, c⟩
    rw [h]
    simp only [Except.error.injEq, RuleFault.mk.injEq]
    exact and_congr eq_comm (and_congr eq_comm eq_comm)

theorem failsBy_ok_iff {a : α} :
    d.FailsBy name param (.ok a : Except RuleFault α) ↔ ∀ c, ¬d.Refuses param c := by
  constructor
  · intro h c hc
    cases (h ⟨name, param, c⟩).mpr ⟨rfl, rfl, hc⟩
  · intro h fault
    simp [h]

theorem FailsBy.map {read : Except RuleFault α} (h : d.FailsBy name param read) (f : α → β) :
    d.FailsBy name param (do .ok (f (← read))) := by
  intro fault
  rw [← h fault, bind_eq_error_iff]
  simp

theorem failsBy_requireParam_bind (hd : d ≠ .anything) {f : String → Except RuleFault α}
    (hf : ∀ p, param = some p → p ≠ "" → d.FailsBy name param (f p)) :
    d.FailsBy name param (Rule.requireParam name param >>= f) := by
  cases param with
  | none => exact failsBy_error_iff.mpr fun c => refuses_missing_iff hd (.inl rfl)
  | some p =>
    by_cases hp : p = ""
    · subst hp
      exact failsBy_error_iff.mpr fun c => refuses_missing_iff hd (.inr rfl)
    · rw [Rule.requireParam_eq_ok_iff.mpr ⟨rfl, hp⟩]
      exact hf p rfl hp

theorem requireParam_failsBy : text.FailsBy name param (Rule.requireParam name param) := by
  rw [← bind_pure (Rule.requireParam name param)]
  refine failsBy_requireParam_bind (by decide) ?_
  rintro p rfl hp
  refine failsBy_ok_iff.mpr fun c => ?_
  rw [refuses_iff_unmet hp]
  rintro ⟨⟩

theorem requireInteger_failsBy : integer.FailsBy name param (Rule.requireInteger name param) := by
  refine failsBy_requireParam_bind (by decide) ?_
  rintro p rfl hp
  split
  · rename_i n hn
    exact failsBy_ok_iff.mpr fun c => by simp [refuses_integer_iff hp, hn]
  · rename_i hn
    exact failsBy_error_iff.mpr fun c => by simp [refuses_integer_iff hp, hn]

theorem requireNumber_failsBy : number.FailsBy name param (Rule.requireNumber name param) := by
  refine failsBy_requireParam_bind (by decide) ?_
  rintro p rfl hp
  split
  · rename_i n hn
    exact failsBy_ok_iff.mpr fun c => by simp [refuses_number_iff hp, hn]
  · rename_i hn
    exact failsBy_error_iff.mpr fun c => by simp [refuses_number_iff hp, hn]

theorem requireList_failsBy : text.FailsBy name param (Rule.requireList name param) :=
  requireParam_failsBy.map _

theorem requireFieldAndText_failsBy :
    condition.FailsBy name param (Rule.requireFieldAndText name param) := by
  refine failsBy_requireParam_bind (by decide) ?_
  rintro p rfl hp
  split
  · rename_i c field expected hcut
    obtain ⟨heq, hcomma⟩ := Text.eq_append_of_cut hcut
    have hc : c ≠ ',' := Ne.symm (List.ne_of_not_mem_cons hcomma)
    exact failsBy_ok_iff.mpr fun cause => by simp [refuses_condition_iff hp, heq, hc]
  · rename_i hcut
    refine failsBy_error_iff.mpr fun cause => ?_
    rw [refuses_condition_iff hp, and_iff_left]
    cases h : Text.cut ',' p.toList with
    | none => exact .inl (Text.cut_eq_none_iff.mp h)
    | some lr =>
      obtain ⟨l, r⟩ := lr
      cases l with
      | nil =>
        right
        rw [(Text.eq_append_of_cut h).1]
        rfl
      | cons c field => exact absurd h (hcut c field r)

end Demand

/-! ## Classes of rules -/

def RuleClass.Demands (rules : RuleClass) (d : Demand) : Prop :=
  ∀ name param context, d.FailsBy name param (rules.prepare name param context)

theorem RuleClass.Demands.reportsByName {rules : RuleClass} {d : Demand} (h : rules.Demands d) :
    rules.ReportsByName := by
  intro name param context fault hfault
  obtain ⟨hrule, hparam, -⟩ := (h name param context fault).mp hfault
  exact ⟨hrule, hparam⟩

namespace Rule

theorem demands_of_ok {rules : RuleClass}
    (h : ∀ name param context, ∃ rule, rules.prepare name param context = .ok rule) :
    rules.Demands .anything := by
  intro name param context
  obtain ⟨rule, hrule⟩ := h name param context
  rw [hrule]
  exact Demand.failsBy_ok_iff.mpr fun c => Demand.not_refuses_anything

theorem ofJudgement_demands (title : String) (judge : String → Value → Verdict) :
    (ofJudgement title judge).Demands .anything :=
  demands_of_ok fun _ _ _ => ⟨_, rfl⟩

theorem ofLength_demands (title : String) (test : ℤ → ℤ → Bool)
    (message : String → String → String) : (ofLength title test message).Demands .integer :=
  fun _ _ _ => Demand.requireInteger_failsBy.map _

theorem ofBound_demands (title : String) (test : Number → Number → Bool)
    (message : String → String → String) : (ofBound title test message).Demands .number :=
  fun _ _ _ => Demand.requireNumber_failsBy.map _

theorem oneOf_demands : oneOf.Demands .text :=
  fun _ _ _ => Demand.requireList_failsBy.map _

theorem requiredIf_demands : requiredIf.Demands .condition :=
  fun _ _ _ => Demand.requireFieldAndText_failsBy.map _

theorem date_demands : date.Demands .anything := demands_of_ok fun _ _ _ => ⟨_, rfl⟩

theorem ofSide_demands (title : String) (side : Ordering) (name : String) :
    (ofSide title side name).Demands .anything := demands_of_ok fun _ _ _ => ⟨_, rfl⟩

theorem confirmed_demands : confirmed.Demands .anything := demands_of_ok fun _ _ _ => ⟨_, rfl⟩

theorem startsWith_demands : startsWith.Demands .text :=
  fun _ _ _ => Demand.requireParam_failsBy.map _

theorem startsWith_reportsByName : startsWith.ReportsByName := startsWith_demands.reportsByName

end Rule

namespace Registry

theorem demands_of_mem : ∀ e ∈ builtinRules, e.2.Demands (Demand.ofName e.1) := by
  simp only [builtinRules, List.forall_mem_cons]
  exact ⟨Rule.ofJudgement_demands _ _, Rule.ofJudgement_demands _ _, Rule.ofJudgement_demands _ _,
    Rule.ofLength_demands _ _ _, Rule.ofLength_demands _ _ _, Rule.ofLength_demands _ _ _,
    Rule.oneOf_demands, Rule.ofJudgement_demands _ _, Rule.ofJudgement_demands _ _,
    Rule.ofJudgement_demands _ _, Rule.ofJudgement_demands _ _, Rule.ofBound_demands _ _ _,
    Rule.ofBound_demands _ _ _, Rule.ofJudgement_demands _ _, Rule.ofJudgement_demands _ _,
    Rule.ofJudgement_demands _ _, Rule.date_demands, Rule.ofSide_demands _ _ _,
    Rule.ofSide_demands _ _ _, Rule.confirmed_demands, Rule.requiredIf_demands,
    List.forall_mem_nil _⟩

end Registry

theorem Rule.reportsByName_of_mem (name : String) {rules : RuleClass}
    (h : (name, rules) ∈ Registry.builtinRules) : rules.ReportsByName :=
  (Registry.demands_of_mem _ h).reportsByName

namespace Registry

/-- A rule that is there from the start is made unless its demand refuses the parameter. Then the
fault tells the name of the rule, the parameter as it was written, and what is wrong with it;
whichever way it goes, it goes so for every value of every field of every record. -/
theorem made_iff_not_refused {name : String} {known : NamedClass}
    (h : builtin.get? name = some known) (param : Option String) :
    (∀ context fault, known.rules.prepare known.name param context = .error fault ↔
      fault.rule = name ∧ fault.param = param ∧
        (Demand.ofName name).Refuses param fault.cause) ∧
    (∀ cause, (Demand.ofName name).Refuses param cause → ∀ context field value record,
      FieldRun.said builtin context field value record ⟨name, param⟩ =
        some (.error (.rule ⟨name, param, cause⟩))) ∧
    ((∀ cause, ¬(Demand.ofName name).Refuses param cause) → ∀ context, ∃ rule,
      known.rules.prepare known.name param context = .ok rule ∧ ∀ field value record,
        FieldRun.said builtin context field value record ⟨name, param⟩ =
          some (rule.judge field value record)) := by
  obtain ⟨hname, hmem⟩ := mem_builtinRules_of_get? h
  have hfails (context : Context) (fault : RuleFault) :
      known.rules.prepare known.name param context = .error fault ↔ fault.rule = name ∧
        fault.param = param ∧ (Demand.ofName name).Refuses param fault.cause := by
    rw [hname]
    exact demands_of_mem _ hmem name param context fault
  refine ⟨hfails, ?_, ?_⟩
  · intro cause hcause context field value record
    have hfault := (hfails context ⟨name, param, cause⟩).mpr ⟨rfl, rfl, hcause⟩
    exact FieldRun.said_of_not_prepared (c := ⟨name, param⟩) h hfault
  · intro hnot context
    cases hmade : known.rules.prepare known.name param context with
    | error fault => exact absurd ((hfails context fault).mp hmade).2.2 (hnot fault.cause)
    | ok rule =>
      refine ⟨rule, rfl, ?_⟩
      intro field value record
      exact FieldRun.said_of_prepare (c := ⟨name, param⟩) h hmade

/-- Underscores stand between two digits, one at a time. -/
theorem made_iff_not_refused_of_underscores :
    builtin.get? "min" = some ⟨Rule.minLength, "min"⟩ ∧
      (∀ context field value record,
        FieldRun.said builtin context field value record ⟨"min", some " 1__0"⟩ =
          some (.error (.rule ⟨"min", some " 1__0", .notInteger⟩))) ∧
      ∀ context, ∃ rule, Rule.minLength.prepare "min" (some " +1_0") context = .ok rule := by
  have hget : builtin.get? "min" = some ⟨Rule.minLength, "min"⟩ := rfl
  have hrefused : Demand.integer.Refuses (some " 1__0") .notInteger :=
    (Demand.refuses_integer_iff (by decide)).mpr ⟨rfl, by decide +kernel⟩
  have htaken : ∀ cause, ¬Demand.integer.Refuses (some " +1_0") cause := by
    intro cause hcause
    obtain ⟨-, hnone⟩ := (Demand.refuses_integer_iff (by decide)).mp hcause
    exact absurd hnone (by decide +kernel)
  refine ⟨hget, (made_iff_not_refused hget _).2.1 _ hrefused, ?_⟩
  intro context
  obtain ⟨rule, hrule, -⟩ := (made_iff_not_refused hget _).2.2 htaken context
  exact ⟨rule, hrule⟩

end Registry

end FormRules
