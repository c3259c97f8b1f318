import FormRules.Proofs.FirstFailure
import FormRules.Proofs.Form
import FormRules.Proofs.Registry.Names
import FormRules.Proofs.Rule.Demand
import FormRules.Proofs.Session.Calls

namespace FormRules

/-! ## Changes of names in a session -/

def Step.IsNaming : Step → Prop
  | .register _ _ | .registerAs _ _ | .unregister _ => True
  | _ => False

namespace Session

variable {s : Session} {step : Step} {steps : List Step} {e : Engine}

def change? (s : Session) : Step → Option Registry.Change
  | .register name rules => some (.register name rules)
  | .registerAs name other => (s.registry.index? other).map (.registerAgain name ·)
  | .unregister name => some (.unregister name)
  | _ => none

theorem registry_withEngine {f : Engine → Reply} (hf : ∀ e, (f e).session.registry = s.registry) :
    (s.withEngine f).session.registry = s.registry := by
  cases hengine : s.engine with
  | none => simp [withEngine, hengine]
  | some e => simp [withEngine, hengine, hf]

theorem registry_create (s : Session) (messages : Messages) (path : Option String) :
    (s.create messages path).session.registry = s.registry := by
  dsimp only [create]
  split <;> rfl

theorem registry_reload (s : Session) (e : Engine) :
    (s.reload e).session.registry = s.registry := by
  dsimp only [reload]
  split <;> rfl

theorem registry_step_of_not_isNaming (h : ¬step.IsNaming) :
    (s.step step).session.registry = s.registry := by
  cases step with
  | create messages path => exact registry_create s messages path
  | reload => exact registry_withEngine (registry_reload s)
  | collect c => exact registry_withEngine fun e => congrArg registry (session_collect s e c)
  | view => exact registry_withEngine fun _ => rfl
  | validate takesErrors c => exact registry_withEngine fun _ => rfl
  | available => exact registry_withEngine fun _ => rfl
  | write _ | set _ | lookup _ | list | setClock _ | setRuntime _ => rfl
  | register _ _ | registerAs _ _ | unregister _ => exact absurd trivial h

theorem after?_change (hs : s.registry.Sound) (step : Step) :
    s.registry.after? (s.change? step).toList = some (s.step step).session.registry := by
  cases step with
  | register name rules => rfl
  | unregister name => rfl
  | registerAs name other =>
    cases hindex : s.registry.index? other with
    | none => simp [change?, Session.step, Registry.get?, hindex, Registry.after?]
    | some i =>
      have hi := hs.lt_of_index? hindex
      simp [change?, Session.step, Registry.get?, Registry.registerAs?, Registry.after?,
        Registry.change?, rebind, hindex, hi]
  | _ => exact congrArg some (registry_step_of_not_isNaming id).symm

theorem exists_changes {past : List Registry.Change} (hs : Registry.Follows past s.registry)
    (steps : List Step) : ∃ more, s.registry.after? more = some (s.after steps).registry := by
  induction steps generalizing past s with
  | nil => exact ⟨[], rfl⟩
  | cons step steps ih =>
    have hstep := after?_change hs.sound step
    obtain ⟨more, hmore⟩ := ih (hs.after hstep)
    refine ⟨(s.change? step).toList ++ more, ?_⟩
    rw [Registry.after?, List.foldlM_append, ← Registry.after?, hstep]
    exact hmore

theorem session_step_of_isNaming (h : step.IsNaming) :
    (s.step step).session = { s with registry := (s.step step).session.registry } := by
  cases step with
  | register name rules => rfl
  | unregister name => rfl
  | registerAs name other =>
    simp only [Session.step]
    split <;> rfl
  | _ => exact h.elim

theorem after_of_isNaming (h : ∀ step ∈ steps, step.IsNaming) :
    s.after steps = { s with registry := (s.after steps).registry } := by
  induction steps generalizing s with
  | nil => rfl
  | cons step steps ih =>
    obtain ⟨hstep, hsteps⟩ := List.forall_mem_cons.mp h
    rw [after_cons, ih hsteps, session_step_of_isNaming hstep]

theorem answer_of_isNaming {r : Registry} {call : Step} (hengine : s.engine = some e)
    (hsteps : ∀ step ∈ steps, step.IsNaming) (hr : (s.after steps).registry = r)
    (hcall : call.IsCall) :
    call.answer? (fun c => e.errors r s.now c.messages c.record c.form) s.shown =
      some ((s.after steps).step call).answer := by
  have hafter : s.after steps = { s with registry := r } := hr ▸ after_of_isNaming hsteps
  rw [hafter]
  exact answer_step_of_isCall (s := { s with registry := r }) hengine hcall

end Session

/-! ## Clauses and their classes -/

namespace FieldRun

variable {r : Registry} {context : Context} {field : String} {value record : Value}
  {clause : Clause}

theorem fails_iff {own : String} :
    Fails r context field value record clause own ↔
      ∃ known rule, r.get? clause.name = some known ∧
        known.rules.prepare known.name clause.param context = .ok rule ∧
        rule.judge field value record = .ok (.failed own) := by
  unfold Fails
  cases hget : r.get? clause.name with
  | none => simp [said, hget]
  | some known =>
    cases hprepare : known.rules.prepare known.name clause.param context with
    | error fault => simp [said_of_not_prepared hget hprepare, hprepare]
    | ok rule => simp [said_of_prepare hget hprepare, hprepare]

end FieldRun

namespace Checker

variable {c : Checker} {record value : Value} {form : Form} {field text : String} {clause : Clause}

/-- The check comes to a clause of a field: no field before ends the check, and no clause before
decides the field. -/
def ComesTo (c : Checker) (record : Value) (form : Form) (field : String) (value : Value)
    (clause : Clause) : Prop :=
  ∃ before spec after, form = before ++ (field, .text spec) :: after ∧
    (∀ fs ∈ before, c.Ends record fs) ∧ record.field field = .ok value ∧
    ¬FieldRun.Exempt value (Clause.readAll spec) ∧
    FieldRun.Reached c.registry c.context field value record (Clause.readAll spec) clause

theorem run_text (hvalue : record.field field = .ok value) (spec : String) :
    c.run record field (.text spec) =
      FieldRun.ofValue c.registry c.context field value record (Clause.readAll spec) := by
  simp [run, FieldRun.ofField, hvalue]

theorem outcome_eq_failed_iff {spec : Value} {own : String} :
    (c.run record field spec).outcome = .failed clause own ↔
      ∃ s value, spec = .text s ∧ record.field field = .ok value ∧
        FieldRun.Decided c.registry c.context field value record (Clause.readAll s)
          (.failed clause own) := by
  cases hvalue : record.field field with
  | error fault => simp [run, FieldRun.ofField, hvalue, FieldRun.halted]
  | ok value =>
    cases spec with
    | text s => simp [run_text hvalue, FieldRun.ofValue_outcome_eq_iff]
    | _ => simp [run, FieldRun.ofField, hvalue, FieldRun.halted]

theorem message?_eq_some_iff {o : Outcome} :
    c.message? field o = .ok (some text) ↔
      ∃ clause own, o = .failed clause own ∧
        Message.resolve c.messages field clause.name own clause.param = .ok text := by
  cases o with
  | passed => simp [message?]
  | halted fault => simp [message?]
  | failed clause own =>
    cases hresolve : Message.resolve c.messages field clause.name own clause.param with
    | error fault => simp [message?, hresolve, Except.map]
    | ok words => simp [message?, hresolve, Except.map]

theorem reported?_eq_some_iff {fs : String × Value} :
    c.reported? record fs = some (field, text) ↔
      fs.1 = field ∧ c.fieldError? record fs.1 fs.2 = .ok (some text) := by
  rw [reported?]
  cases c.fieldError? record fs.1 fs.2 with
  | error fault => simp [Except.toOption]
  | ok message => simp [Except.toOption, and_comm]

theorem mem_errors_iff {errs : Errors} (h : c.errors record form = .ok errs) :
    (field, text) ∈ errs ↔
      ∃ value clause known rule own, c.ComesTo record form field value clause ∧
        c.registry.get? clause.name = some known ∧
        known.rules.prepare known.name clause.param c.context = .ok rule ∧
        rule.judge field value record = .ok (.failed own) ∧
        Message.resolve c.messages field clause.name own clause.param = .ok text := by
  obtain ⟨hends, rfl⟩ := errors_eq_ok_iff.mp h
  simp only [List.mem_filterMap, reported?_eq_some_iff, fieldError?, message?_eq_some_iff]
  constructor
  · rintro ⟨⟨_, spec⟩, hfs, rfl, clause, own, houtcome, htext⟩
    obtain ⟨s, value, rfl, hvalue, hex, hreach, hfails⟩ := outcome_eq_failed_iff.mp houtcome
    obtain ⟨known, rule, hget, hprepare, hjudge⟩ := FieldRun.fails_iff.mp hfails
    obtain ⟨before, after, rfl⟩ := List.append_of_mem hfs
    have hbefore : ∀ fs ∈ before, c.Ends record fs := fun fs hfs =>
      hends fs (List.mem_append_left _ hfs)
    exact ⟨value, clause, known, rule, own, ⟨before, s, after, rfl, hbefore, hvalue, hex, hreach⟩,
      hget, hprepare, hjudge, htext⟩
  · rintro ⟨value, clause, known, rule, own, ⟨before, s, after, rfl, -, hvalue, hex, hreach⟩, hget,
      hprepare, hjudge, htext⟩
    have hfails := FieldRun.fails_iff.mpr ⟨known, rule, hget, hprepare, hjudge⟩
    have houtcome := outcome_eq_failed_iff.mpr ⟨s, value, rfl, hvalue, hex, hreach, hfails⟩
    exact ⟨(field, .text s), by simp, rfl, clause, own, houtcome, htext⟩

theorem errors_of_comesTo {known : NamedClass} {fault : RuleFault}
    (hcomes : c.ComesTo record form field value clause)
    (hget : c.registry.get? clause.name = some known)
    (hprepare : known.rules.prepare known.name clause.param c.context = .error fault) :
    c.errors record form = .error (.rule fault) := by
  obtain ⟨before, spec, after, rfl, hends, hvalue, hex, hreach⟩ := hcomes
  obtain ⟨errs, hbefore⟩ := exists_errors_iff.mpr hends
  have hdecided : FieldRun.Decided c.registry c.context field value record (Clause.readAll spec)
      (.halted (.rule fault)) :=
    ⟨hex, clause, hreach, FieldRun.said_of_not_prepared hget hprepare⟩
  rw [errors_append, hbefore, errors_cons, fieldError?, run_text hvalue,
    FieldRun.ofValue_outcome_eq_iff.mpr hdecided]
  rfl

end Checker

namespace Registry

/-- The names that a registry has after any changes, made in sessions or otherwise, are those that
the changes have left; one more change does nothing to other names. An engine goes by the names of
the moment of a check: a clause is judged by the class that its name is bound to. Messages for its
failure are looked up by the name in the clause; that it cannot be judged is reported under the name
of the class. -/
theorem names_follow_history (changes : List Change) {r : Registry}
    (h : builtin.after? changes = some r) :
    NamedBy (builtinChanges ++ changes) r ∧
    (∀ c r', r.change? c = some r' → c.Local r r') ∧
    (∀ (s : Session) (steps : List Step), s.registry = r →
      ∃ more, builtin.after? (changes ++ more) = some (s.after steps).registry) ∧
    (∀ (s : Session) (e : Engine) (steps : List Step) (call : Step), s.engine = some e →
      (∀ step ∈ steps, step.IsNaming) → (s.after steps).registry = r → call.IsCall →
      call.answer? (fun c => e.errors r s.now c.messages c.record c.form) s.shown =
        some ((s.after steps).step call).answer) ∧
    ∀ (e : Engine) (now : DateTime) (call : Messages) (record : Value) (form : Form),
      let c := e.checker r now call
      (∀ errs, e.errors r now call record form = .ok errs → ∀ field text, (field, text) ∈ errs ↔
        ∃ value clause known rule own, c.ComesTo record form field value clause ∧
          r.get? clause.name = some known ∧
          known.rules.prepare known.name clause.param c.context = .ok rule ∧
          rule.judge field value record = .ok (.failed own) ∧
          Message.resolve c.messages field clause.name own clause.param = .ok text) ∧
      (∀ field value clause known fault, c.ComesTo record form field value clause →
        r.get? clause.name = some known →
        known.rules.prepare known.name clause.param c.context = .error fault →
        e.errors r now call record form = .error (.rule fault) ∧
          ((known.rules ∈ made changes → known.rules.ReportsByName) →
            fault.rule = known.name ∧ fault.param = clause.param)) := by
  have hfollows : Follows (builtinChanges ++ changes) r := follows_builtin.after h
  refine ⟨hfollows.namedBy, fun c r' => hfollows.isLocal, ?_, ?_, ?_⟩
  · rintro s steps rfl
    obtain ⟨more, hmore⟩ := Session.exists_changes hfollows steps
    refine ⟨more, ?_⟩
    rw [after?, List.foldlM_append, ← after?, h]
    exact hmore
  · intro s e steps call
    exact Session.answer_of_isNaming
  · intro e now call record form c
    refine ⟨fun errs hok field text => Checker.mem_errors_iff hok, ?_⟩
    intro field value clause known fault hcomes hget hprepare
    refine ⟨Checker.errors_of_comesTo hcomes hget hprepare, ?_⟩
    intro hreports
    have hknown : known.rules.ReportsByName := by
      rcases mem_made_or_mem_builtinRules hfollows hget with hmade | ⟨word, hword⟩
      · exact hreports hmade
      · exact Rule.reportsByName_of_mem word hword
    exact hknown known.name clause.param c.context fault hprepare

/-- A class that has been registered under two names reports the second one, also when this name is
bound no more. -/
theorem names_follow_history_of_alias :
    let changes : List Change :=
      [.register "a" Rule.startsWith, .registerAgain "b" 21, .unregister "b"]
    let now : DateTime := .ofDate ⟨2024, 6, 15, by decide, by decide, by decide, by decide⟩
    let e : Engine := ⟨[], ⟨"", none⟩, [], "YYYY"⟩
    ∃ r fault, builtin.after? changes = some r ∧ r.get? "b" = none ∧
      r.get? "a" = some ⟨Rule.startsWith, "b"⟩ ∧
      e.errors r now [] (.mapping []) [("f", .text "a")] = .error (.rule fault) ∧
      fault.rule = "b" ∧ fault.param = none := by
  intro changes now e
  obtain ⟨r, hr⟩ : ∃ r, builtin.after? changes = some r := ⟨_, rfl⟩
  obtain ⟨hnamed, -, -, -, hchecks⟩ := names_follow_history changes hr
  have hb : r.get? "b" = none := by
    rw [hnamed.get?_eq]
    rfl
  have ha : r.get? "a" = some ⟨Rule.startsWith, "b"⟩ := by
    rw [hnamed.get?_eq]
    rfl
  have hread : Clause.readAll "a" = [⟨"a", none⟩] := by decide
  have hcomes : (e.checker r now []).ComesTo (.mapping []) [("f", .text "a")] "f" .null
      ⟨"a", none⟩ := by
    refine ⟨[], "a", [], rfl, List.forall_mem_nil _, rfl, ?_, ?_⟩
    · simp [FieldRun.Exempt, hread, FieldRun.nullable]
    · rw [hread]
      exact FieldRun.reached_cons_iff.mpr (.inl rfl)
  obtain ⟨herrors, hfault⟩ := (hchecks e now [] _ _).2 "f" .null ⟨"a", none⟩ _ _ hcomes ha rfl
  exact ⟨r, _, hr, hb, ha, herrors, hfault fun _ => Rule.startsWith_reportsByName⟩

end Registry

end FormRules
