import FormRules.Session
import Mathlib

namespace FormRules

def Step.IsCall : Step → Prop
  | .collect _ | .validate _ _ => True
  | _ => False

namespace Step

variable (errors : Call → Except Fault Errors)

/-- What a call is answered with if the errors of its record are known. A receiver is given all of
them at once, or nothing, and what has been shown before stays. -/
def answer? (shown : Errors) : Step → Option Answer
  | .collect c =>
    match errors c with
    | .ok errs => some (.errors errs)
    | .error f => some (.refused (.check f))
  | .validate true c =>
    match errors c with
    | .ok errs => some (.validated 1 (.ok errs.isEmpty) errs)
    | .error f => some (.validated 0 (.error f) shown)
  | .validate false _ => some (.validated 0 (.error .notCallable) shown)
  | _ => none

def report? : Step → Option Errors
  | .validate true c => (errors c).toOption
  | _ => none

end Step

namespace Engine

def errorsIn (e : Engine) (s : Session) (c : Call) : Except Fault Errors :=
  e.errors s.registry s.now c.messages c.record c.form

end Engine

namespace Session

/-! ## Runs -/

def after (s : Session) (steps : List Step) : Session :=
  steps.foldl (fun s step => (s.step step).session) s

variable {s : Session} {steps : List Step}

@[simp] theorem after_cons (s : Session) (step : Step) (steps : List Step) :
    s.after (step :: steps) = (s.step step).session.after steps := rfl

theorem run_append (s : Session) (before rest : List Step) :
    s.run (before ++ rest) = s.run before ++ (s.after before).run rest := by
  induction before generalizing s with
  | nil => rfl
  | cons step before ih => simp [run, ih]

theorem length_run (s : Session) (steps : List Step) : (s.run steps).length = steps.length := by
  induction steps generalizing s with
  | nil => rfl
  | cons step steps ih => simp [run, ih]

theorem getElem?_run (s : Session) (before : List Step) (step : Step) (rest : List Step) :
    (s.run (before ++ step :: rest))[before.length]? = some ((s.after before).step step) := by
  rw [run_append, ← length_run s before, List.getElem?_append_right (Nat.le_refl _), Nat.sub_self]
  rfl

/-! ## One call -/

variable {e : Engine} {step : Step}

theorem step_collect (hengine : s.engine = some e) (c : Call) :
    s.step (.collect c) = s.collect e c := by
  simp only [Session.step, withEngine, hengine]

theorem step_validate (hengine : s.engine = some e) (takesErrors : Bool) (c : Call) :
    s.step (.validate takesErrors c) = s.validate e takesErrors c := by
  simp only [Session.step, withEngine, hengine]

theorem session_collect (s : Session) (e : Engine) (c : Call) : (s.collect e c).session = s := by
  dsimp only [collect]
  split <;> rfl

theorem given_validate (c : Checker) (record : Value) (form : Form) :
    (c.validate true record form).given = (c.errors record form).toOption.toList := by
  unfold Checker.validate
  cases c.errors record form <;> rfl

theorem result_validate (c : Checker) (record : Value) (form : Form) :
    (c.validate true record form).result = (c.errors record form).map List.isEmpty := by
  unfold Checker.validate
  cases c.errors record form <;> rfl

theorem session_step_of_isCall (hengine : s.engine = some e) (hcall : step.IsCall) :
    (s.step step).session =
      { s with shown := (step.report? (e.errorsIn s)).getD s.shown } := by
  cases step with
  | collect c =>
    rw [step_collect hengine, session_collect]
    rfl
  | validate takesErrors c =>
    rw [step_validate hengine]
    cases takesErrors with
    | false => rfl
    | true =>
      simp only [validate, given_validate, Step.report?, Engine.errorsIn, Engine.errors, checker]
      cases (e.checker s.registry s.now c.messages).errors c.record c.form <;> rfl
  | _ => exact hcall.elim

theorem answer_step_of_isCall (hengine : s.engine = some e) (hcall : step.IsCall) :
    step.answer? (e.errorsIn s) s.shown = some (s.step step).answer := by
  cases step with
  | collect c =>
    rw [step_collect hengine]
    simp only [collect, Step.answer?, Engine.errorsIn, Engine.errors, checker]
    cases (e.checker s.registry s.now c.messages).errors c.record c.form <;> rfl
  | validate takesErrors c =>
    rw [step_validate hengine]
    cases takesErrors with
    | false => rfl
    | true =>
      simp only [validate, given_validate, result_validate, Step.answer?, Engine.errorsIn,
        Engine.errors, checker]
      cases (e.checker s.registry s.now c.messages).errors c.record c.form <;> rfl
  | _ => exact hcall.elim

theorem log_step_of_not_takesErrors (hengine : s.engine = some e) (c : Call) :
    (s.step (.validate false c)).log = [] := by
  rw [step_validate hengine]
  rfl

/-! ## Calls in a run -/

variable {calls : List Step}

theorem after_of_calls (hengine : s.engine = some e) (hcalls : ∀ step ∈ calls, step.IsCall) :
    s.after calls =
      { s with shown := (calls.filterMap (·.report? (e.errorsIn s))).getLast?.getD s.shown } := by
  induction calls generalizing s with
  | nil => rfl
  | cons step calls ih =>
    obtain ⟨hcall, hcalls⟩ := List.forall_mem_cons.mp hcalls
    have hsession := session_step_of_isCall hengine hcall
    rw [after_cons, hsession, ih (by exact hengine) hcalls, List.filterMap_cons]
    cases step.report? (e.errorsIn s) with
    | none => rfl
    | some errs =>
      simp only [List.getLast?_cons, Option.getD_some]
      rfl

theorem create_eq_of_answer {overrides : Messages} {path : Option String}
    (h : (s.step (.create overrides path)).answer = .engine e) :
    Engine.create overrides path s.settings s.files s.runtime = .ok e ∧
      (s.step (.create overrides path)).session = { s with engine := some e } := by
  simp only [Session.step, create] at h ⊢
  split at h
  · rename_i made hmade
    cases h
    exact ⟨hmade, rfl⟩
  · cases h

theorem session_create_eq_self {overrides : Messages} {path : Option String}
    (hengine : s.engine = some e)
    (hcreate : Engine.create overrides path s.settings s.files s.runtime = .ok e) :
    (s.step (.create overrides path)).session = s := by
  simp only [Session.step, create, hcreate]
  rw [← hengine]

/-- While the surroundings of an engine stay as they were when it was made, each call is answered as
by an engine that is made anew for it. A validation reports all errors at once and says whether
there are none, or it reports nothing; a receiver that takes no errors ends it before anything is
looked at. In the end what was reported last is shown, and nothing else has changed. -/
theorem run_of_calls (s : Session) (overrides : Messages) (path : Option String) {e : Engine}
    (hnew : (s.step (.create overrides path)).answer = .engine e) {calls : List Step}
    (hcalls : ∀ step ∈ calls, step.IsCall) :
    let start := (s.step (.create overrides path)).session
    (∀ before step rest, calls = before ++ step :: rest →
      let now := start.after before
      let anew := (now.step (.create overrides path)).session
      (start.run calls)[before.length]? = some (anew.step step) ∧
      step.answer? (e.errorsIn s) now.shown = some (anew.step step).answer ∧
      (∀ c, step = .validate false c → (anew.step step).log = [])) ∧
    start.after calls = { start with
      shown := (calls.filterMap (·.report? (e.errorsIn s))).getLast?.getD s.shown } := by
  obtain ⟨hcreate, hstart⟩ := create_eq_of_answer hnew
  rw [hstart]
  intro start
  refine ⟨?_, after_of_calls rfl hcalls⟩
  rintro before step rest rfl
  intro now anew
  obtain ⟨hbefore, hrest⟩ := List.forall_mem_append.mp hcalls
  have hcall : step.IsCall := (List.forall_mem_cons.mp hrest).1
  have hnow : now = { start with
      shown := (before.filterMap (·.report? (e.errorsIn s))).getLast?.getD s.shown } :=
    after_of_calls rfl hbefore
  have hengine : now.engine = some e := by rw [hnow]
  have hanew : anew = now := by
    apply session_create_eq_self hengine
    rw [hnow]
    exact hcreate
  rw [hanew]
  refine ⟨getElem?_run start before step rest, ?_, ?_⟩
  · have herrors : e.errorsIn now = e.errorsIn s := by rw [hnow]; rfl
    rw [← herrors]
    exact answer_step_of_isCall hengine hcall
  · rintro c rfl
    exact log_step_of_not_takesErrors hengine c

/-- An override of one call, a parameter that is no integer and a receiver that takes nothing leave
no trace. -/
theorem run_of_calls_of_override :
    let s := start "c.yaml" (.ofDate ⟨2024, 6, 15, by decide, by decide, by decide, by decide⟩)
    let overrides : Messages := [("required", .text "A")]
    let empty : Value := .mapping [(.text "name", .text "")]
    let calls : List Step :=
      [.validate true ⟨empty, [("name", .text "required")], [("required", .text "B")]⟩,
        .collect ⟨empty, [("name", .text "max:x")], []⟩,
        .validate true ⟨empty, [("name", .text "required")], []⟩,
        .validate true ⟨empty, [("name", .text "max:x")], []⟩,
        .validate false ⟨empty, [("name", .text "max:x")], []⟩]
    (s.step (.create overrides (some "c.yaml"))).answer = .engine
      ⟨overrides, ⟨"c.yaml", some .withoutFile⟩, overrides, "YYYY-MM-DD"⟩ ∧
    (∀ step ∈ calls, step.IsCall) ∧
    ((s.step (.create overrides (some "c.yaml"))).session.after calls).shown = [("name", "A")] := by
  intro s overrides empty calls
  have hnew : (s.step (.create overrides (some "c.yaml"))).answer = .engine
      ⟨overrides, ⟨"c.yaml", some .withoutFile⟩, overrides, "YYYY-MM-DD"⟩ := by
    cbv
  have hcalls : ∀ step ∈ calls, step.IsCall := by simp [calls, Step.IsCall]
  refine ⟨hnew, hcalls, ?_⟩
  rw [(run_of_calls s overrides (some "c.yaml") hnew hcalls).2]
  decide +kernel

end Session

end FormRules
