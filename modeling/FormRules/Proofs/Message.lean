import FormRules.Proofs.FirstFailure
import FormRules.Proofs.Form

/-! Messages in layers: those of a call lie over those of the engine, and these over those of the
catalog. A failure is told in the words that the highest layer has for its field and its rule, else
in those that the highest layer has for its rule. Which fields fail is the same whatever the words.
-/

namespace FormRules

namespace Messages

def Distinct (m : Messages) : Prop := (m.map (·.1)).Nodup

theorem get?_cons (e : String × Value) (m : Messages) (key : String) :
    Messages.get? (e :: m) key = if e.1 = key then some e.2 else m.get? key := by
  by_cases h : e.1 = key <;> simp [Messages.get?, h]

theorem get?_insert (m : Messages) (k : String) (v : Value) (key : String) :
    (m.insert k v).get? key = if k = key then some v else m.get? key := by
  induction m with
  | nil => rw [Messages.insert, get?_cons]
  | cons e m ih =>
    rw [Messages.insert, get?_cons]
    by_cases he : e.1 = k
    · by_cases hk : k = key <;> simp [he, hk, get?_cons]
    · by_cases hk : k = key
      · subst hk
        simp [he, get?_cons, ih]
      · simp [he, hk, get?_cons, ih]

theorem get?_eq_none {m : Messages} {key : String} (h : key ∉ m.map (·.1)) : m.get? key = none := by
  induction m with
  | nil => rfl
  | cons e m ih =>
    obtain ⟨he, hm⟩ := not_or.mp (List.mem_cons.not.mp h)
    rw [get?_cons, if_neg (Ne.symm he), ih hm]

theorem get?_overlay (base : Messages) {top : Messages} (h : top.Distinct) (key : String) :
    (base.overlay top).get? key = (top.get? key).or (base.get? key) := by
  unfold Messages.overlay
  induction top generalizing base with
  | nil => rfl
  | cons e top ih =>
    obtain ⟨he, htop⟩ := List.nodup_cons.mp h
    rw [List.foldl_cons, ih (base.insert e.1 e.2) htop, get?_insert, get?_cons]
    by_cases hkey : e.1 = key
    · subst hkey
      simp [get?_eq_none he]
    · simp [hkey]

def top? (layers : List Messages) (key : String) : Option Value :=
  layers.findSome? fun m => m.get? key

@[simp] theorem top?_nil (key : String) : top? [] key = none := rfl

@[simp] theorem top?_cons (m : Messages) (layers : List Messages) (key : String) :
    top? (m :: layers) key = (m.get? key).or (top? layers key) := by
  rw [top?, List.findSome?_cons]
  cases m.get? key <;> rfl

/-- The text of a key in the highest of the layers that have it. An absent value there is no text,
and it hides the layers below. -/
def topText? (layers : List Messages) (key : String) : Option String :=
  match top? layers key with
  | some (.text s) => some s
  | _ => none

theorem Textual.filter_get? {m : Messages} (hm : m.Textual) {layers : List Messages} {key : String}
    (h : m.get? key = top? layers key) :
    (m.get? key).filter (!·.isNull) = (topText? layers key).map Value.text := by
  rw [topText?, ← h]
  cases hget : m.get? key with
  | none => rfl
  | some v =>
    obtain ⟨e, hfind, rfl⟩ := Option.map_eq_some_iff.mp hget
    obtain hnull | ⟨s, hs⟩ := hm e (List.mem_of_find?_eq_some hfind)
    · rw [hnull]
      rfl
    · rw [hs]
      rfl

end Messages

namespace Catalog

theorem textual_messages (c : Catalog) : c.messages.Textual := by
  have hfold (entries : List (Value × Value)) {m : Messages} (hm : m.Textual) :
      (entries.foldl (fun m e => m.insert e.1.written (.text e.2.written)) m).Textual := by
    induction entries generalizing m with
    | nil => exact hm
    | cons e entries ih => exact ih (hm.insert (.inr ⟨_, rfl⟩))
  exact hfold _ (List.forall_mem_nil _)

end Catalog

namespace Message

def filled (template field : String) (c : Clause) : String :=
  String.ofList (fill template.toList [("field", .text field), ("rule", .text c.name),
    ("param", (c.param.map Value.text).getD .null)])

def wording (layers : List Messages) (field : String) (c : Clause) (own : String) : String :=
  match (Messages.topText? layers (fieldKey field c.name)).or (Messages.topText? layers c.name) with
  | some template => filled template field c
  | none => own

variable {m : Messages} {layers : List Messages}

theorem template?_eq (hm : m.Textual) (hlayers : ∀ key, m.get? key = Messages.top? layers key)
    (field rule : String) :
    template? m field rule =
      ((Messages.topText? layers (fieldKey field rule)).or (Messages.topText? layers rule)).map
        Value.text := by
  rw [template?, hm.filter_get? (hlayers _), hm.filter_get? (hlayers _)]
  cases Messages.topText? layers (fieldKey field rule) <;> rfl

theorem resolve_eq_wording (hm : m.Textual)
    (hlayers : ∀ key, m.get? key = Messages.top? layers key) (field : String) (c : Clause)
    (own : String) :
    resolve m field c.name own c.param = .ok (wording layers field c own) := by
  rw [resolve, template?_eq hm hlayers, wording]
  cases (Messages.topText? layers (fieldKey field c.name)).or
    (Messages.topText? layers c.name) <;> rfl

end Message

namespace Checker

variable {c : Checker}

theorem map_isSome_message? (hm : c.messages.Textual) (field : String) (o : Outcome) :
    (c.message? field o).map Option.isSome =
      match o with
      | .passed => .ok false
      | .failed _ _ => .ok true
      | .halted fault => .error fault := by
  cases o with
  | failed clause own =>
    obtain ⟨text, htext⟩ := Message.resolve_of_textual hm field clause.name own clause.param
    rw [message?, htext]
    rfl
  | passed | halted => rfl

def Tells (c : Checker) (entries : List (Value × Value)) (layers : List Messages)
    (fs err : String × String) : Prop :=
  err.1 = fs.1 ∧ ∃ clause own, c.Decides entries fs (.failed clause own) ∧
    err.2 = Message.wording layers fs.1 clause own

def failures (c : Checker) (record : Value) (form : Form) : Except Fault (List String) :=
  (c.errors record form).map fun errs => errs.map (·.1)

theorem failures_cons (record : Value) (fs : String × Value) (form : Form) :
    c.failures record (fs :: form) =
      match (c.fieldError? record fs.1 fs.2).map Option.isSome with
      | .error fault => .error fault
      | .ok fails => (c.failures record form).map ((if fails then [fs.1] else []) ++ ·) := by
  rw [failures, errors_cons, failures]
  cases c.fieldError? record fs.1 fs.2 with
  | error fault => rfl
  | ok message => cases c.errors record form <;> cases message <;> rfl

theorem failures_congr {m m' : Messages} (r : Registry) (context : Context) (hm : m.Textual)
    (hm' : m'.Textual) (record : Value) (form : Form) :
    failures ⟨r, context, m'⟩ record form = failures ⟨r, context, m⟩ record form := by
  induction form with
  | nil => rfl
  | cons fs form ih =>
    have hfield : (fieldError? ⟨r, context, m'⟩ record fs.1 fs.2).map Option.isSome =
        (fieldError? ⟨r, context, m⟩ record fs.1 fs.2).map Option.isSome := by
      rw [fieldError?, fieldError?, map_isSome_message? hm', map_isSome_message? hm]
      rfl
    rw [failures_cons, failures_cons, hfield, ih]

end Checker

namespace Engine

variable {catalog : Catalog} {overrides call : Messages} {settings : Settings}
  {loader : Catalog.Loader}

theorem textual_ofCatalog (h : overrides.Textual) :
    (ofCatalog overrides settings loader catalog).messages.Textual :=
  catalog.textual_messages.overlay h

open Classical in
/-- A field that fails is told in the words of the highest layer that has any for the field and the
rule, then of the highest that has any for the rule as it is named in the form, and at last in those
of the rule itself. With other catalogs, overrides and messages of the call, but the same format of
dates, a check ends with the same fault or the same fields fail, in the same order. -/
theorem errors_worded_by_layers (catalog : Catalog) (overrides call : Messages)
    (settings : Settings) (loader : Catalog.Loader) (r : Registry) (now : DateTime)
    (entries : List (Value × Value)) (specs : List (String × String))
    (hoverrides : overrides.Textual) (hdistinct : overrides.Distinct)
    (hcall : call.Textual) (hdistinct' : call.Distinct) :
    let e := ofCatalog overrides settings loader catalog
    let c := e.checker r now call
    (∀ errs, e.errors r now call (.mapping entries) (.ofTexts specs) = .ok errs →
      List.Forall₂ (c.Tells entries [call, overrides, catalog.messages])
        (specs.filter fun fs => c.FailsAt entries fs) errs) ∧
    ∀ (catalog' : Catalog) (overrides' call' : Messages) (settings' : Settings)
      (loader' : Catalog.Loader), overrides'.Textual → call'.Textual →
      let e' := ofCatalog overrides' settings' loader' catalog'
      e'.dateFormat = e.dateFormat → ∀ record form,
        (e'.errors r now call' record form).map (fun errs => errs.map (·.1)) =
          (e.errors r now call record form).map fun errs => errs.map (·.1) := by
  intro e c
  have hm : c.messages.Textual := (textual_ofCatalog hoverrides).overlay hcall
  refine ⟨?_, ?_⟩
  · intro errs herrs
    obtain ⟨errs', herrs', hall⟩ :=
      Checker.errors_of_not_stops hm (Checker.not_stops_of_errors_eq_ok hm herrs)
    cases herrs.symm.trans herrs'
    have hlayers (key : String) :
        c.messages.get? key = Messages.top? [call, overrides, catalog.messages] key := by
      have hget : c.messages.get? key =
          (call.get? key).or ((overrides.get? key).or (catalog.messages.get? key)) := by
        rw [← Messages.get?_overlay _ hdistinct, ← Messages.get?_overlay _ hdistinct']
        rfl
      simpa using hget
    refine hall.imp ?_
    rintro fs err ⟨hfield, clause, own, hdecides, htext⟩
    rw [Message.resolve_eq_wording hm hlayers] at htext
    exact ⟨hfield, clause, own, hdecides, (Except.ok.inj htext).symm⟩
  · intro catalog' overrides' call' settings' loader' hoverrides' hcall' e' hformat record form
    have hm' : (e'.messages.overlay call').Textual := (textual_ofCatalog hoverrides').overlay hcall'
    have hchecker : e'.checker r now call' = ⟨r, c.context, e'.messages.overlay call'⟩ := by
      rw [checker, hformat]
      rfl
    rw [errors, hchecker]
    exact Checker.failures_congr r c.context hm hm' record form

open Classical in
/-- The catalog has words for the first field, the call takes those for the second away, and the
third, whose name looks like a placeholder, is told in the words of its rule. Empty words for a rule
change nothing but the words. -/
theorem errors_worded_by_layers_of_hidden_entry :
    let catalog : Catalog := ⟨[(.text "messages", .mapping
      [(.text "a.required", .text "C \x7bfield\x7d"), (.text "b.required", .text "C b")])]⟩
    let overrides : Messages := [("required", .text "O \x7bfield\x7d")]
    let call : Messages := [("b.required", .null)]
    let now : DateTime := .ofDate ⟨2024, 6, 15, by decide, by decide, by decide, by decide⟩
    let entries : List (Value × Value) := [(.text "\x7brule\x7d", .text "x")]
    let specs := [("a", "required"), ("b", "required|min:x"), ("\x7brule\x7d", "min:3")]
    let e := ofCatalog overrides {} ⟨"", none⟩ catalog
    let c := e.checker .builtin now call
    overrides.Textual ∧ overrides.Distinct ∧ call.Textual ∧ call.Distinct ∧
    List.Forall₂ (c.Tells entries [call, overrides, catalog.messages])
      (specs.filter fun fs => c.FailsAt entries fs)
      [("a", "C a"), ("b", "O b"),
        ("\x7brule\x7d", "\x7brule\x7d must be at least 3 characters long")] ∧
    Messages.Textual [("required", .text "")] ∧
    ((ofCatalog [("required", .text "")] {} ⟨"", none⟩ ⟨[]⟩).errors .builtin now []
      (.mapping entries) (.ofTexts specs)).map (fun errs => errs.map (·.1)) =
        .ok ["a", "b", "\x7brule\x7d"] := by
  intro catalog overrides call now entries specs e c
  have hoverrides : overrides.Textual := by simp [overrides, Messages.Textual]
  have hdistinct : overrides.Distinct := by simp [overrides, Messages.Distinct]
  have hcall : call.Textual := by simp [call, Messages.Textual]
  have hdistinct' : call.Distinct := by simp [call, Messages.Distinct]
  have hempty : Messages.Textual [("required", .text "")] := by simp [Messages.Textual]
  have herrs : e.errors .builtin now call (.mapping entries) (.ofTexts specs) =
      .ok [("a", "C a"), ("b", "O b"),
        ("\x7brule\x7d", "\x7brule\x7d must be at least 3 characters long")] := by
    cbv
  obtain ⟨hwords, hsame⟩ := errors_worded_by_layers catalog overrides call {} ⟨"", none⟩ .builtin
    now entries specs hoverrides hdistinct hcall hdistinct'
  refine ⟨hoverrides, hdistinct, hcall, hdistinct', hwords _ herrs, hempty, ?_⟩
  rw [hsame ⟨[]⟩ _ [] {} ⟨"", none⟩ hempty (List.forall_mem_nil _) (by cbv), herrs]
  rfl

end Engine

end FormRules
