import FormRules.Proofs.Form

/-! The first clause of a field that is a rule and does not pass decides the field, and the first
field whose deciding clause stops the check decides the check. Whatever stands behind is not looked
at. -/

namespace FormRules

namespace FieldRun

variable (r : Registry) (context : Context) (field : String) (value record : Value)

def said (c : Clause) : Option (Except Fault Verdict) :=
  (r.get? c.name).map fun known =>
    judgement known.rules known.name context c field value record

def Passes (c : Clause) : Prop :=
  said r context field value record c = none ∨
    said r context field value record c = some (.ok .passed)

def Fails (c : Clause) (own : String) : Prop :=
  said r context field value record c = some (.ok (.failed own))

def Halts (c : Clause) (fault : Fault) : Prop :=
  said r context field value record c = some (.error fault)

def Reached (cs : List Clause) (c : Clause) : Prop :=
  ∃ before after, cs = before ++ c :: after ∧
    ∀ p ∈ before, Passes r context field value record p

def Exempt (value : Value) (cs : List Clause) : Prop :=
  value.isNull = true ∧ ∃ c ∈ cs, c.name = nullable

/-- How a field comes out, told by the first clause that does not pass. -/
def Decided (cs : List Clause) : Outcome → Prop
  | .passed => Exempt value cs ∨ ∀ c ∈ cs, Passes r context field value record c
  | .failed c own =>
    ¬Exempt value cs ∧ Reached r context field value record cs c ∧
      Fails r context field value record c own
  | .halted fault =>
    ¬Exempt value cs ∧ ∃ c, Reached r context field value record cs c ∧
      Halts r context field value record c fault

variable {r context field value record}

theorem said_of_prepare {c : Clause} {known : NamedClass} {rule : Rule}
    (hget : r.get? c.name = some known)
    (hmade : known.rules.prepare known.name c.param context = .ok rule) :
    said r context field value record c = some (rule.judge field value record) := by
  rw [said, hget, Option.map_some, judgement, hmade]

theorem said_of_not_prepared {c : Clause} {known : NamedClass} {fault : RuleFault}
    (hget : r.get? c.name = some known)
    (hfault : known.rules.prepare known.name c.param context = .error fault) :
    said r context field value record c = some (.error (.rule fault)) := by
  rw [said, hget, Option.map_some, judgement, hfault]

theorem exempt_iff {cs : List Clause} :
    Exempt value cs ↔ (value.isNull && Clause.mentions cs nullable) = true := by
  simp [Exempt, Clause.mentions]

theorem ofClauses_cons_outcome (c : Clause) (cs : List Clause) :
    (ofClauses r context field value record (c :: cs)).outcome =
      match said r context field value record c with
      | none => (ofClauses r context field value record cs).outcome
      | some (.ok .passed) => (ofClauses r context field value record cs).outcome
      | some (.ok (.failed own)) => .failed c own
      | some (.error fault) => .halted fault := by
  cases hget : r.get? c.name with
  | none => simp [ofClauses, said, hget]
  | some known =>
    cases hjudge : judgement known.rules known.name context c field value record with
    | error fault => simp [ofClauses, said, hget, hjudge, halted]
    | ok verdict => cases verdict <;> simp [ofClauses, said, hget, hjudge]

theorem reached_cons_iff {c d : Clause} {cs : List Clause} :
    Reached r context field value record (d :: cs) c ↔
      c = d ∨ Passes r context field value record d ∧
        Reached r context field value record cs c := by
  constructor
  · rintro ⟨before, after, heq, hbefore⟩
    cases before with
    | nil => exact .inl (List.cons.inj heq).1.symm
    | cons b before =>
      obtain ⟨rfl, rfl⟩ := List.cons.inj heq
      exact .inr ⟨hbefore d (by simp), before, after, rfl, fun p hp => hbefore p (by simp [hp])⟩
  · rintro (rfl | ⟨hd, before, after, rfl, hbefore⟩)
    · exact ⟨[], cs, rfl, by simp⟩
    · refine ⟨d :: before, after, rfl, ?_⟩
      intro p hp
      cases hp with
      | head => exact hd
      | tail _ hp => exact hbefore p hp

theorem not_reached_nil {c : Clause} : ¬Reached r context field value record [] c := by
  rintro ⟨before, after, heq, -⟩
  simp at heq

theorem ofClauses_eq_passed_iff {cs : List Clause} :
    (ofClauses r context field value record cs).outcome = .passed ↔
      ∀ c ∈ cs, Passes r context field value record c := by
  induction cs with
  | nil => simp [ofClauses]
  | cons c cs ih =>
    rw [ofClauses_cons_outcome, List.forall_mem_cons, ← ih]
    unfold Passes
    split <;> simp [*]

theorem ofClauses_eq_failed_iff {cs : List Clause} {c : Clause} {own : String} :
    (ofClauses r context field value record cs).outcome = .failed c own ↔
      Reached r context field value record cs c ∧ Fails r context field value record c own := by
  induction cs with
  | nil => simp [ofClauses, not_reached_nil]
  | cons d cs ih =>
    rw [ofClauses_cons_outcome, reached_cons_iff]
    by_cases hc : c = d
    · subst hc
      unfold Passes Fails at *
      split <;> simp_all
    · have hc' : d ≠ c := Ne.symm hc
      unfold Passes Fails at *
      split <;> simp_all

theorem ofClauses_eq_halted_iff {cs : List Clause} {fault : Fault} :
    (ofClauses r context field value record cs).outcome = .halted fault ↔
      ∃ c, Reached r context field value record cs c ∧
        Halts r context field value record c fault := by
  induction cs with
  | nil => simp [ofClauses, not_reached_nil]
  | cons d cs ih =>
    rw [ofClauses_cons_outcome]
    simp only [reached_cons_iff, or_and_right, exists_or, exists_eq_left, and_assoc]
    unfold Passes Halts at *
    split <;> simp_all

theorem ofValue_outcome_eq_iff {cs : List Clause} {o : Outcome} :
    (ofValue r context field value record cs).outcome = o ↔
      Decided r context field value record cs o := by
  by_cases hex : Exempt value cs
  · have hrun : ofValue r context field value record cs = ⟨[], .passed⟩ := by
      rw [ofValue, if_pos (exempt_iff.mp hex)]
    rw [hrun]
    cases o <;> simp [Decided, hex]
  · have hrun : ofValue r context field value record cs =
        ofClauses r context field value record cs := by
      rw [ofValue, if_neg (fun h => hex (exempt_iff.mpr h))]
    rw [hrun]
    cases o with
    | passed => simp [Decided, hex, ofClauses_eq_passed_iff]
    | failed c own => simp [Decided, hex, ofClauses_eq_failed_iff]
    | halted fault => simp [Decided, hex, ofClauses_eq_halted_iff]

theorem ofClauses_congr {r' : Registry} {cs : List Clause}
    (h : ∀ c, Reached r context field value record cs c → r'.get? c.name = r.get? c.name) :
    ofClauses r' context field value record cs = ofClauses r context field value record cs := by
  induction cs with
  | nil => rfl
  | cons c cs ih =>
    have hc : r'.get? c.name = r.get? c.name := h c (reached_cons_iff.mpr (.inl rfl))
    have hcs : Passes r context field value record c →
        ofClauses r' context field value record cs =
          ofClauses r context field value record cs :=
      fun hpass => ih fun d hd => h d (reached_cons_iff.mpr (.inr ⟨hpass, hd⟩))
    unfold Passes said at hcs
    simp only [ofClauses, hc]
    cases hget : r.get? c.name with
    | none => simp [hcs (.inl (by simp [hget]))]
    | some known =>
      cases hjudge : judgement known.rules known.name context c field value record with
      | error fault => simp [hjudge]
      | ok verdict =>
        cases verdict with
        | passed => simp [hjudge, hcs (.inr (by simp [hget, hjudge]))]
        | failed own => simp [hjudge]

theorem ofValue_congr {r' : Registry} {cs : List Clause}
    (h : ¬Exempt value cs → ∀ c, Reached r context field value record cs c →
      r'.get? c.name = r.get? c.name) :
    ofValue r' context field value record cs = ofValue r context field value record cs := by
  unfold ofValue
  split
  · rfl
  · rename_i hex
    exact ofClauses_congr (h fun hv => hex (exempt_iff.mp hv))

end FieldRun

/-! ## Messages of text -/

def Messages.Textual (m : Messages) : Prop := ∀ e ∈ m, e.2 = .null ∨ ∃ s, e.2 = .text s

namespace Messages

theorem Textual.insert {m : Messages} (hm : m.Textual) {k : String} {v : Value}
    (hv : v = .null ∨ ∃ s, v = .text s) : (m.insert k v).Textual := by
  induction m with
  | nil => simpa [Messages.insert, Textual] using hv
  | cons e r ih =>
    have ⟨he, hr⟩ := List.forall_mem_cons.mp hm
    unfold Messages.insert
    split
    · exact List.forall_mem_cons.mpr ⟨hv, hr⟩
    · exact List.forall_mem_cons.mpr ⟨he, ih hr⟩

theorem Textual.overlay {base top : Messages} (hb : base.Textual) (ht : top.Textual) :
    (base.overlay top).Textual := by
  unfold Messages.overlay
  induction top generalizing base with
  | nil => exact hb
  | cons e r ih =>
    have ⟨he, hr⟩ := List.forall_mem_cons.mp ht
    exact ih (hb.insert he) hr

theorem Textual.of_get? {m : Messages} (hm : m.Textual) {k : String} {v : Value}
    (h : (m.get? k).filter (!·.isNull) = some v) : ∃ s, v = .text s := by
  obtain ⟨hget, hnull⟩ := Option.filter_eq_some_iff.mp h
  obtain ⟨e, hfind, rfl⟩ := Option.map_eq_some_iff.mp hget
  obtain hv | hv := hm e (List.mem_of_find?_eq_some hfind)
  · simp [hv, Value.isNull] at hnull
  · exact hv

end Messages

namespace Message

theorem resolve_of_textual {m : Messages} (hm : m.Textual) (field rule own : String)
    (param : Option String) : ∃ text, resolve m field rule own param = .ok text := by
  have htext : ∀ t, template? m field rule = some t → ∃ s, t = .text s := by
    intro t ht
    unfold template? at ht
    split at ht
    · rename_i v hv
      cases ht
      exact hm.of_get? hv
    · exact hm.of_get? ht
  unfold resolve
  split
  · exact ⟨own, rfl⟩
  · rename_i t ht
    obtain ⟨s, rfl⟩ := htext t ht
    exact ⟨_, rfl⟩

end Message

/-! ## Records -/

def Value.entry (entries : List (Value × Value)) (name : String) : Value :=
  ((entries.find? fun e => e.1.same (.text name)).map (·.2)).getD .null

def Form.ofTexts (specs : List (String × String)) : Form := specs.map fun fs => (fs.1, .text fs.2)

namespace Checker

variable (c : Checker) (entries : List (Value × Value))

def Decides (fs : String × String) (o : Outcome) : Prop :=
  FieldRun.Decided c.registry c.context fs.1 (Value.entry entries fs.1) (.mapping entries)
    (Clause.readAll fs.2) o

def Stops (fs : String × String) : Prop := ∃ fault, c.Decides entries fs (.halted fault)

def FailsAt (fs : String × String) : Prop := ∃ clause own, c.Decides entries fs (.failed clause own)

def Reports (fs e : String × String) : Prop :=
  e.1 = fs.1 ∧ ∃ clause own, c.Decides entries fs (.failed clause own) ∧
    Message.resolve c.messages fs.1 clause.name own clause.param = .ok e.2

def LooksUp (specs : List (String × String)) (name : String) : Prop :=
  ∃ before fs after clause, specs = before ++ fs :: after ∧
    (∀ g ∈ before, ¬c.Stops entries g) ∧
    ¬FieldRun.Exempt (Value.entry entries fs.1) (Clause.readAll fs.2) ∧
    FieldRun.Reached c.registry c.context fs.1 (Value.entry entries fs.1) (.mapping entries)
      (Clause.readAll fs.2) clause ∧ clause.name = name

variable {c entries}

theorem run_outcome_eq_iff {fs : String × String} {o : Outcome} :
    (c.run (.mapping entries) fs.1 (.text fs.2)).outcome = o ↔ c.Decides entries fs o :=
  FieldRun.ofValue_outcome_eq_iff

theorem decides_cases (c : Checker) (entries : List (Value × Value)) (fs : String × String) :
    c.Decides entries fs .passed ∨ c.FailsAt entries fs ∨ c.Stops entries fs := by
  cases h : (c.run (.mapping entries) fs.1 (.text fs.2)).outcome with
  | passed => exact .inl (run_outcome_eq_iff.mp h)
  | failed clause own => exact .inr (.inl ⟨clause, own, run_outcome_eq_iff.mp h⟩)
  | halted fault => exact .inr (.inr ⟨fault, run_outcome_eq_iff.mp h⟩)

theorem Decides.unique {fs : String × String} {o o' : Outcome}
    (h : c.Decides entries fs o) (h' : c.Decides entries fs o') : o = o' :=
  (run_outcome_eq_iff.mpr h).symm.trans (run_outcome_eq_iff.mpr h')

theorem fieldError?_of_passed {fs : String × String} (h : c.Decides entries fs .passed) :
    c.fieldError? (.mapping entries) fs.1 (.text fs.2) = .ok none := by
  rw [fieldError?, run_outcome_eq_iff.mpr h, message?]

theorem fieldError?_of_halted {fs : String × String} {fault : Fault}
    (h : c.Decides entries fs (.halted fault)) :
    c.fieldError? (.mapping entries) fs.1 (.text fs.2) = .error fault := by
  rw [fieldError?, run_outcome_eq_iff.mpr h, message?]

theorem fieldError?_of_failed {fs : String × String} {clause : Clause} {own text : String}
    (h : c.Decides entries fs (.failed clause own))
    (htext : Message.resolve c.messages fs.1 clause.name own clause.param = .ok text) :
    c.fieldError? (.mapping entries) fs.1 (.text fs.2) = .ok (some text) := by
  rw [fieldError?, run_outcome_eq_iff.mpr h, message?, htext]
  rfl

theorem errors_ofTexts_cons (fs : String × String) (specs : List (String × String)) :
    c.errors (.mapping entries) (.ofTexts (fs :: specs)) =
      match c.fieldError? (.mapping entries) fs.1 (.text fs.2) with
      | .error fault => .error fault
      | .ok message =>
        (c.errors (.mapping entries) (.ofTexts specs)).map
          ((message.map fun m => (fs.1, m)).toList ++ ·) :=
  errors_cons c (.mapping entries) (fs.1, .text fs.2) (.ofTexts specs)

open Classical in
theorem errors_of_not_stops (hm : c.messages.Textual) {specs : List (String × String)}
    (h : ∀ fs ∈ specs, ¬c.Stops entries fs) :
    ∃ errs, c.errors (.mapping entries) (.ofTexts specs) = .ok errs ∧
      List.Forall₂ (c.Reports entries) (specs.filter fun fs => c.FailsAt entries fs) errs := by
  induction specs with
  | nil => exact ⟨[], rfl, .nil⟩
  | cons fs specs ih =>
    have ⟨hfs, hspecs⟩ := List.forall_mem_cons.mp h
    obtain ⟨errs, heq, hall⟩ := ih hspecs
    rw [errors_ofTexts_cons]
    obtain hpass | ⟨clause, own, hfail⟩ | hstop := decides_cases c entries fs
    · have hnot : ¬c.FailsAt entries fs := by
        rintro ⟨clause, own, hfail⟩
        cases hpass.unique hfail
      refine ⟨errs, ?_, ?_⟩
      · rw [fieldError?_of_passed hpass, heq]
        rfl
      · rwa [List.filter_cons_of_neg (by simpa using hnot)]
    · obtain ⟨text, htext⟩ := Message.resolve_of_textual hm fs.1 clause.name own clause.param
      refine ⟨(fs.1, text) :: errs, ?_, ?_⟩
      · rw [fieldError?_of_failed hfail htext, heq]
        rfl
      · rw [List.filter_cons_of_pos (by simpa using ⟨clause, own, hfail⟩)]
        exact .cons ⟨rfl, clause, own, hfail, htext⟩ hall
    · exact absurd hstop hfs

theorem errors_of_stops (hm : c.messages.Textual) {before after : List (String × String)}
    {fs : String × String} {fault : Fault} (hbefore : ∀ g ∈ before, ¬c.Stops entries g)
    (h : c.Decides entries fs (.halted fault)) :
    c.errors (.mapping entries) (.ofTexts (before ++ fs :: after)) = .error fault := by
  induction before with
  | nil => rw [List.nil_append, errors_ofTexts_cons, fieldError?_of_halted h]
  | cons g before ih =>
    have ⟨hg, hrest⟩ := List.forall_mem_cons.mp hbefore
    rw [List.cons_append, errors_ofTexts_cons, ih hrest]
    obtain hpass | ⟨clause, own, hfail⟩ | hstop := decides_cases c entries g
    · rw [fieldError?_of_passed hpass]
      rfl
    · obtain ⟨text, htext⟩ := Message.resolve_of_textual hm g.1 clause.name own clause.param
      rw [fieldError?_of_failed hfail htext]
      rfl
    · exact absurd hstop hg

theorem errors_congr {r' : Registry} {specs : List (String × String)}
    (h : ∀ name, c.LooksUp entries specs name → r'.get? name = c.registry.get? name) :
    ({ c with registry := r' } : Checker).errors (.mapping entries) (.ofTexts specs) =
      c.errors (.mapping entries) (.ofTexts specs) := by
  induction specs with
  | nil => rfl
  | cons fs specs ih =>
    have hrun : ({ c with registry := r' } : Checker).run (.mapping entries) fs.1 (.text fs.2) =
        c.run (.mapping entries) fs.1 (.text fs.2) :=
      FieldRun.ofValue_congr fun hex clause hreach =>
        h clause.name ⟨[], fs, specs, clause, rfl, by simp, hex, hreach, rfl⟩
    have hfield : ({ c with registry := r' } : Checker).fieldError? (.mapping entries) fs.1
        (.text fs.2) = c.fieldError? (.mapping entries) fs.1 (.text fs.2) := by
      rw [fieldError?, hrun]
      rfl
    rw [errors_ofTexts_cons, errors_ofTexts_cons, hfield]
    by_cases hstop : c.Stops entries fs
    · obtain ⟨fault, hfault⟩ := hstop
      rw [fieldError?_of_halted hfault]
    · rw [ih]
      rintro name ⟨before, g, after, clause, rfl, hbefore, hrest⟩
      refine h name ⟨fs :: before, g, after, clause, rfl, ?_, hrest⟩
      exact List.forall_mem_cons.mpr ⟨hstop, hbefore⟩

theorem exists_first_stop {specs : List (String × String)}
    (h : ∃ fs ∈ specs, c.Stops entries fs) :
    ∃ before fs after fault, specs = before ++ fs :: after ∧
      (∀ g ∈ before, ¬c.Stops entries g) ∧ c.Decides entries fs (.halted fault) := by
  induction specs with
  | nil => simp at h
  | cons fs specs ih =>
    by_cases hstop : c.Stops entries fs
    · obtain ⟨fault, hfault⟩ := hstop
      exact ⟨[], fs, specs, fault, rfl, by simp, hfault⟩
    · obtain ⟨g, hg, hgstop⟩ := h
      have hg' : g ∈ specs := by
        cases hg with
        | head => exact absurd hgstop hstop
        | tail _ hg => exact hg
      obtain ⟨before, f, after, fault, rfl, hbefore, hfault⟩ := ih ⟨g, hg', hgstop⟩
      exact ⟨fs :: before, f, after, fault, rfl,
        List.forall_mem_cons.mpr ⟨hstop, hbefore⟩, hfault⟩

theorem not_stops_of_errors_eq_ok (hm : c.messages.Textual) {specs : List (String × String)}
    {errs : Errors} (h : c.errors (.mapping entries) (.ofTexts specs) = .ok errs) :
    ∀ fs ∈ specs, ¬c.Stops entries fs := by
  intro fs hfs hstop
  obtain ⟨before, g, after, fault, rfl, hbefore, hfault⟩ := exists_first_stop ⟨fs, hfs, hstop⟩
  rw [errors_of_stops hm hbefore hfault] at h
  cases h

theorem errors_isOk_iff (hm : c.messages.Textual) {specs : List (String × String)} :
    (∃ errs, c.errors (.mapping entries) (.ofTexts specs) = .ok errs) ↔
      ∀ fs ∈ specs, ¬c.Stops entries fs := by
  constructor
  · rintro ⟨errs, hok⟩
    exact not_stops_of_errors_eq_ok hm hok
  · intro h
    obtain ⟨errs, hok, -⟩ := errors_of_not_stops hm h
    exact ⟨errs, hok⟩

theorem errors_eq_error_iff (hm : c.messages.Textual) {specs : List (String × String)}
    {fault : Fault} :
    c.errors (.mapping entries) (.ofTexts specs) = .error fault ↔
      ∃ before fs after, specs = before ++ fs :: after ∧
        (∀ g ∈ before, ¬c.Stops entries g) ∧ c.Decides entries fs (.halted fault) := by
  constructor
  · intro herr
    have hex : ∃ fs ∈ specs, c.Stops entries fs := by
      by_contra hnone
      obtain ⟨errs, hok, -⟩ := errors_of_not_stops hm fun fs hfs hstop => hnone ⟨fs, hfs, hstop⟩
      rw [herr] at hok
      cases hok
    obtain ⟨before, fs, after, first, rfl, hbefore, hfirst⟩ := exists_first_stop hex
    rw [errors_of_stops hm hbefore hfirst] at herr
    cases herr
    exact ⟨before, fs, after, rfl, hbefore, hfirst⟩
  · rintro ⟨before, fs, after, rfl, hbefore, hfault⟩
    exact errors_of_stops hm hbefore hfault

end Checker

namespace Engine

open Classical in
/-- The errors of a record are there if and only if no field has a clause that stops the check
before any other of its clauses fails. Then they belong to the fields that fail, in the order of the
form, each with the message of the clause that decides; otherwise the check ends with the fault of
the first field that stops it. Names of clauses behind the deciding ones, of fields that are exempt
and of fields behind the stop may be bound to any rules, or to none. -/
theorem errors_decided_by_first (e : Engine) (r : Registry) (now : DateTime) (call : Messages)
    (entries : List (Value × Value)) (specs : List (String × String))
    (he : e.messages.Textual) (hcall : call.Textual) :
    let c := e.checker r now call
    ((∃ errs, e.errors r now call (.mapping entries) (.ofTexts specs) = .ok errs) ↔
      ∀ fs ∈ specs, ¬c.Stops entries fs) ∧
    (∀ errs, e.errors r now call (.mapping entries) (.ofTexts specs) = .ok errs →
      List.Forall₂ (c.Reports entries) (specs.filter fun fs => c.FailsAt entries fs) errs) ∧
    (∀ fault, e.errors r now call (.mapping entries) (.ofTexts specs) = .error fault ↔
      ∃ before fs after, specs = before ++ fs :: after ∧
        (∀ g ∈ before, ¬c.Stops entries g) ∧ c.Decides entries fs (.halted fault)) ∧
    (∀ r' : Registry, (∀ name, c.LooksUp entries specs name → r'.get? name = r.get? name) →
      e.errors r' now call (.mapping entries) (.ofTexts specs) =
        e.errors r now call (.mapping entries) (.ofTexts specs)) := by
  intro c
  have hm : c.messages.Textual := he.overlay hcall
  refine ⟨?_, ?_, ?_, ?_⟩
  · exact Checker.errors_isOk_iff hm
  · intro errs hok
    obtain ⟨errs', hok', hall⟩ :=
      Checker.errors_of_not_stops hm (Checker.not_stops_of_errors_eq_ok hm hok)
    cases hok.symm.trans hok'
    exact hall
  · intro fault
    exact Checker.errors_eq_error_iff hm
  · intro r' h
    exact Checker.errors_congr (c := c) h

/-- A null value that is allowed, an unknown name, and a malformed parameter behind a failure. -/
theorem errors_decided_by_first_of_malformed_tail :
    Messages.Textual [("b.min", .text "\x7bfield\x7d: \x7bparam\x7d")] ∧
    Messages.Textual [("min", .null)] ∧
    ∀ fs ∈ [("a", "min:x|nullable"), ("b", "bogus|min:3|max:x")],
      ¬(checker ⟨[], ⟨"", none⟩, [("b.min", .text "\x7bfield\x7d: \x7bparam\x7d")], "YYYY"⟩ .builtin
        (.ofDate ⟨2024, 6, 15, by decide, by decide, by decide, by decide⟩)
        [("min", .null)]).Stops [(.text "a", .null), (.text "b", .text "ab")] fs := by
  have he : Messages.Textual [("b.min", .text "\x7bfield\x7d: \x7bparam\x7d")] := by
    simp [Messages.Textual]
  have hcall : Messages.Textual [("min", .null)] := by simp [Messages.Textual]
  refine ⟨he, hcall, ?_⟩
  exact (errors_decided_by_first ⟨[], ⟨"", none⟩, _, "YYYY"⟩ .builtin _ _ _ _ he hcall).1.mp
    ⟨[("b", "b: 3")], by cbv⟩

end Engine

end FormRules
