import FormRules.Proofs.Message
import FormRules.Proofs.Session.Naming

namespace FormRules

def Registry.PointFree (r : Registry) : Prop := ∀ name ∈ r.names, '.' ∉ name.toList

theorem Registry.mem_names_of_get? {r : Registry} {name : String} {known : NamedClass}
    (h : r.get? name = some known) : name ∈ r.names := by
  obtain ⟨i, hindex, -⟩ := Option.bind_eq_some_iff.mp h
  refine mem_keys_iff.mpr ?_
  rw [← Option.isSome_map (f := (·.2)), ← index?, hindex]
  rfl

theorem Registry.pointFree_builtin : builtin.PointFree := by
  unfold PointFree
  decide +kernel

namespace Message

theorem toList_fieldKey (field rule : String) :
    (fieldKey field rule).toList = field.toList ++ '.' :: rule.toList := by
  simp [fieldKey]

theorem cut_reverse_fieldKey (field : String) {rule : String} (h : '.' ∉ rule.toList) :
    Text.cut '.' (fieldKey field rule).toList.reverse =
      some (rule.toList.reverse, field.toList.reverse) := by
  have hreverse : (fieldKey field rule).toList.reverse =
      rule.toList.reverse ++ '.' :: field.toList.reverse := by
    simp [toList_fieldKey]
  rw [hreverse, Text.cut_append_cons (by simpa using h)]

theorem fieldKey_inj {field rule field' rule' : String} (h : '.' ∉ rule.toList)
    (h' : '.' ∉ rule'.toList) (heq : fieldKey field rule = fieldKey field' rule') :
    field = field' ∧ rule = rule' := by
  have hcut := cut_reverse_fieldKey field h
  rw [heq, cut_reverse_fieldKey field' h', Option.some_inj, Prod.mk.injEq, List.reverse_inj,
    List.reverse_inj, String.toList_inj, String.toList_inj] at hcut
  exact ⟨hcut.2.symm, hcut.1.symm⟩

theorem fieldKey_ne {name : String} (field rule : String) (h : '.' ∉ name.toList) :
    fieldKey field rule ≠ name := by
  rintro rfl
  simp [toList_fieldKey] at h

theorem resolve_congr {m m' : Messages} {field rule : String}
    (hfield : m.get? (fieldKey field rule) = m'.get? (fieldKey field rule))
    (hrule : m.get? rule = m'.get? rule) (own : String) (param : Option String) :
    resolve m field rule own param = resolve m' field rule own param := by
  have htemplate : template? m field rule = template? m' field rule := by
    rw [template?, hfield, hrule, template?]
  rw [resolve, htemplate, resolve]

/-- The messages say the same about all failures of a field. -/
def SameWords (r : Registry) (field : String) (m m' : Messages) : Prop :=
  ∀ rule ∈ r.names, m.get? (fieldKey field rule) = m'.get? (fieldKey field rule) ∧
    m.get? rule = m'.get? rule

theorem SameWords.overlay {r : Registry} {field : String} {top top' : Messages}
    (h : SameWords r field top top') (base : Messages) (hdistinct : top.Distinct)
    (hdistinct' : top'.Distinct) :
    SameWords r field (base.overlay top) (base.overlay top') := by
  intro rule hrule
  obtain ⟨hfield, hall⟩ := h rule hrule
  simp only [Messages.get?_overlay base hdistinct, Messages.get?_overlay base hdistinct', hfield,
    hall, and_self]

end Message

namespace Checker

variable {r : Registry} {context : Context} {m m' : Messages} {record : Value}

theorem fieldError?_of_sameWords {field : String} (h : Message.SameWords r field m m')
    (spec : Value) :
    fieldError? ⟨r, context, m⟩ record field spec =
      fieldError? ⟨r, context, m'⟩ record field spec := by
  have hrun : run ⟨r, context, m'⟩ record field spec = run ⟨r, context, m⟩ record field spec := rfl
  rw [fieldError?, fieldError?, hrun]
  cases hout : (run ⟨r, context, m⟩ record field spec).outcome with
  | passed => rfl
  | halted fault => rfl
  | failed clause own =>
    obtain ⟨s, value, -, -, hdecided⟩ := outcome_eq_failed_iff.mp hout
    obtain ⟨known, rule, hget, -, -⟩ := FieldRun.fails_iff.mp hdecided.2.2
    obtain ⟨hfield, hrule⟩ := h clause.name (Registry.mem_names_of_get? hget)
    rw [message?, message?, Message.resolve_congr hfield hrule]

theorem errors_of_sameWords {form : Form}
    (h : ∀ fs ∈ form, Message.SameWords r fs.1 m m') :
    errors ⟨r, context, m⟩ record form = errors ⟨r, context, m'⟩ record form := by
  induction form with
  | nil => rfl
  | cons fs form ih =>
    obtain ⟨hfs, hform⟩ := List.forall_mem_cons.mp h
    rw [errors_cons, errors_cons, fieldError?_of_sameWords hfs, ih hform]

end Checker

namespace Engine

/-- With names of rules that have no point in them, a failure is told in the words for its field and
its rule or for its rule, whatever else there are words for: the key for a field and a rule is that
of no other field or rule, and it is the name of no rule. Messages of a call that agree on the keys
of the fields of a form, and on those of the rules, give the same errors. -/
theorem errors_told_by_own_keys (e : Engine) (r : Registry) (now : DateTime) (hr : r.PointFree) :
    Registry.builtin.PointFree ∧
    (∀ (m m' : Messages) (field rule own : String) (param : Option String), rule ∈ r.names →
      m.get? (Message.fieldKey field rule) = m'.get? (Message.fieldKey field rule) →
      m.get? rule = m'.get? rule →
      Message.resolve m field rule own param = Message.resolve m' field rule own param) ∧
    (∀ (m m' : Messages) (field rule field' rule' own : String) (param : Option String),
      rule ∈ r.names → rule' ∈ r.names → (field', rule') ≠ (field, rule) →
      (∀ key, key ≠ Message.fieldKey field' rule' → m.get? key = m'.get? key) →
      Message.resolve m field rule own param = Message.resolve m' field rule own param) ∧
    (∀ field rule field' rule', rule ∈ r.names → rule' ∈ r.names →
      Message.fieldKey field rule = Message.fieldKey field' rule' →
      field = field' ∧ rule = rule') ∧
    (∀ field rule, Message.fieldKey field rule ∉ r.names) ∧
    ∀ call call' : Messages, call.Distinct → call'.Distinct → ∀ record form,
      (∀ fs ∈ form, Message.SameWords r fs.1 call call') →
      e.errors r now call record form = e.errors r now call' record form := by
  refine ⟨Registry.pointFree_builtin, ?_, ?_, ?_, ?_, ?_⟩
  · intro m m' field rule own param _ hfield hrule
    exact Message.resolve_congr hfield hrule own param
  · intro m m' field rule field' rule' own param hrule hrule' hne hagree
    refine Message.resolve_congr (hagree _ ?_) (hagree _ ?_) own param
    · intro heq
      obtain ⟨rfl, rfl⟩ := Message.fieldKey_inj (hr rule hrule) (hr rule' hrule') heq
      exact hne rfl
    · exact (Message.fieldKey_ne field' rule' (hr rule hrule)).symm
  · intro field rule field' rule' hrule hrule' heq
    exact Message.fieldKey_inj (hr rule hrule) (hr rule' hrule') heq
  · intro field rule hmem
    exact Message.fieldKey_ne field rule (hr _ hmem) rfl
  · intro call call' hdistinct hdistinct' record form hsame
    exact Checker.errors_of_sameWords fun fs hfs =>
      (hsame fs hfs).overlay e.messages hdistinct hdistinct'

/-- Words for the field `b` do not tell a failure of the field `a.b`. -/
theorem errors_told_by_own_keys_of_longer_field :
    let e : Engine := ⟨[], ⟨"", none⟩, [], "YYYY"⟩
    let now : DateTime := .ofDate ⟨2024, 6, 15, by decide, by decide, by decide, by decide⟩
    let record : Value := .mapping [(.text "a.b", .text "x")]
    let call : Messages := [("a.b.min", .text "short")]
    let call' : Messages := ("b.min", .text "wrong") :: call
    Registry.builtin.PointFree ∧ "min" ∈ Registry.builtin.names ∧
    (∀ key, key ≠ Message.fieldKey "b" "min" → call.get? key = Messages.get? call' key) ∧
    Message.resolve call' "a.b" "min" "own" none = .ok "short" ∧
    call.Distinct ∧ Messages.Distinct call' ∧ Message.SameWords .builtin "a.b" call call' ∧
    e.errors .builtin now call' record [("a.b", .text "min:3")] = .ok [("a.b", "short")] := by
  intro e now record call call'
  have hmin : "min" ∈ Registry.builtin.names := by decide +kernel
  have hdistinct : call.Distinct := by simp [call, Messages.Distinct]
  have hdistinct' : Messages.Distinct call' := by simp [call', call, Messages.Distinct]
  have hagree (key : String) (hkey : key ≠ Message.fieldKey "b" "min") :
      call.get? key = Messages.get? call' key := by
    exact ((Messages.get?_cons _ call key).trans (if_neg hkey.symm)).symm
  obtain ⟨hbuiltin, -, hother, hinj, hnever, hcall⟩ :=
    errors_told_by_own_keys e .builtin now Registry.pointFree_builtin
  have hsame : Message.SameWords .builtin "a.b" call call' := by
    intro rule hrule
    refine ⟨hagree _ fun heq => ?_, hagree _ ?_⟩
    · exact absurd (hinj "a.b" rule "b" "min" hrule hmin heq).1 (by decide)
    · rintro rfl
      exact hnever "b" "min" hrule
  have hform : ∀ fs ∈ [("a.b", Value.text "min:3")],
      Message.SameWords .builtin fs.1 call call' := by
    simpa using hsame
  refine ⟨hbuiltin, hmin, hagree, ?_, hdistinct, hdistinct', hsame, ?_⟩
  · rw [← hother call call' "a.b" "min" "b" "min" "own" none hmin hmin (by decide) hagree]
    decide +kernel
  · rw [← hcall call call' hdistinct hdistinct' record _ hform]
    decide +kernel

end Engine

end FormRules
