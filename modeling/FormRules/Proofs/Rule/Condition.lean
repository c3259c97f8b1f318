import FormRules.Proofs.Clause
import FormRules.Proofs.Dependence
import FormRules.Proofs.Outcome

namespace FormRules

/-! ## What is written and what is read -/

namespace Text

theorem toList_intercalate_comma (options : List String) :
    (",".intercalate options).toList = join ',' (options.map String.toList) := by
  rw [String.toList_intercalate, join_eq_intercalate]
  rfl

end Text

namespace Clause

theorem Writable.withParameter {name p : String} (h : Writable ⟨name, none⟩) (hbar : '|' ∉ p.toList)
    (hend : ¬Text.EndsBlank p.toList) : Writable ⟨name, some p⟩ :=
  { h with
    bar_notMem_param := by simpa using hbar
    not_endsBlank_param := by simpa using hend
    name_ne_empty := by simp }

theorem write_singleton (name p : String) : write [⟨name, some p⟩] = name ++ ":" ++ p := by
  rw [← String.toList_inj, write, String.toList_ofList]
  simp [Text.join, chars_param]

theorem readAll_parameter {name p : String} (h : Writable ⟨name, none⟩) (hbar : '|' ∉ p.toList)
    (hend : ¬Text.EndsBlank p.toList) : readAll (name ++ ":" ++ p) = [⟨name, some p⟩] := by
  rw [← write_singleton]
  exact readAll_write (List.forall_mem_singleton.mpr (h.withParameter hbar hend))

theorem writable_requiredIf : Writable ⟨"required_if", none⟩ := by
  have hread : readAll "required_if" = [⟨"required_if", none⟩] := by decide +kernel
  exact writable_of_mem_readAll (hread ▸ List.mem_singleton_self _)

theorem writable_in : Writable ⟨"in", none⟩ := by
  have hread : readAll "in" = [⟨"in", none⟩] := by decide +kernel
  exact writable_of_mem_readAll (hread ▸ List.mem_singleton_self _)

end Clause

namespace Rule

theorem not_endsBlank_condition {other expected : String}
    (h : ¬Text.EndsBlank expected.toList) :
    ¬Text.EndsBlank (other ++ "," ++ expected).toList := by
  rw [toList_condition, Text.endsBlank_append_cons]
  by_cases hexpected : expected.toList = []
  · rw [hexpected, Text.endsBlank_singleton]
    decide
  · rwa [Text.endsBlank_cons_iff hexpected]

theorem requireList_intercalate {name : String} {options : List String}
    (hcomma : ∀ o ∈ options, ',' ∉ o.toList) (hne : ",".intercalate options ≠ "") :
    requireList name (some (",".intercalate options)) = .ok options := by
  have hoptions : options.map String.toList ≠ [] := by
    rintro hnil
    rw [List.map_eq_nil_iff.mp hnil] at hne
    exact hne rfl
  have hpieces := Text.pieces_join hoptions (List.forall_mem_map.mpr hcomma)
  refine bind_eq_ok_iff.mpr ⟨_, requireParam_eq_ok_iff.mpr ⟨rfl, hne⟩, ?_⟩
  rw [Text.toList_intercalate_comma, hpieces, List.map_map]
  simp

theorem isFilled_eq_false_iff {v : Value} : isFilled v = false ↔ v = .null ∨ v = .text "" := by
  cases v <;> simp [isFilled, Value.isNull, Value.isEmptyText]

end Rule

/-! ## What the rules understand and say -/

theorem Verdict.exists_onText_eq_passedIf (v : Value) (test : String → Bool) (message : String) :
    ∃ b, onText v test message = passedIf b message ∧
      (b = true ↔ ∀ s, v = .text s → test s = true) := by
  cases v with
  | text s => exact ⟨test s, rfl, by simp⟩
  | _ => exact ⟨true, rfl, by simp⟩

namespace Rule

theorem prepare_requiredIf {other expected : String} (hother : other ≠ "")
    (hcomma : ',' ∉ other.toList) (name : String) (context : Context) :
    ∃ rule, requiredIf.prepare name (some (other ++ "," ++ expected)) context = .ok rule ∧
      rule.parameter = .pair (.text other) (.text expected) ∧
      ∀ field v entries, rule.judge field v (.mapping entries) =
        .ok (.passedIf (!holdsText expected (Value.entry entries other) || isFilled v)
          (field ++ " is required when " ++ other ++ " is " ++ expected)) := by
  have hread : requireFieldAndText name (some (other ++ "," ++ expected)) = .ok (other, expected) :=
    requireFieldAndText_eq_ok_iff.mpr ⟨hother, hcomma, rfl⟩
  exact ⟨_, bind_eq_ok_iff.mpr ⟨_, hread, rfl⟩, rfl, fun _ _ _ => rfl⟩

theorem prepare_oneOf {options : List String} (hcomma : ∀ o ∈ options, ',' ∉ o.toList)
    (hne : ",".intercalate options ≠ "") (name : String) (context : Context) :
    ∃ rule, oneOf.prepare name (some (",".intercalate options)) context = .ok rule ∧
      rule.parameter = .list (options.map .text) ∧
      ∀ field v record, rule.judge field v record =
        .ok (.onText v (fun s => options.contains s)
          (field ++ " must be one of the following values: " ++ ", ".intercalate options)) :=
  ⟨_, bind_eq_ok_iff.mpr ⟨_, requireList_intercalate hcomma hne, rfl⟩, rfl, fun _ _ _ => rfl⟩

end Rule

/-! ## Rule strings of one clause -/

namespace Engine

variable (e : Engine) (now : DateTime) (call : Messages) (entries : List (Value × Value))
  (field spec : String)

def Flags : Prop :=
  ∃ text, e.errors .builtin now call (.mapping entries) (.ofTexts [(field, spec)]) =
    .ok [(field, text)]

def Clears : Prop :=
  e.errors .builtin now call (.mapping entries) (.ofTexts [(field, spec)]) = .ok []

variable {e now call entries field spec}

theorem Clears.not_flags (h : e.Clears now call entries field spec) :
    ¬e.Flags now call entries field spec := by
  rintro ⟨text, htext⟩
  cases h.symm.trans htext

theorem flags_or_clears_of_said (he : e.messages.Textual) (hcall : call.Textual) {c : Clause}
    {b : Bool} {own : String} (hread : Clause.readAll spec = [c])
    (hname : c.name ≠ FieldRun.nullable)
    (hsaid : FieldRun.said .builtin ⟨now, e.dateFormat⟩ field (Value.entry entries field)
      (.mapping entries) c = some (.ok (.passedIf b own))) :
    (b = true ∧ e.Clears now call entries field spec) ∨
      (b = false ∧ e.Flags now call entries field spec) := by
  have hex : ¬FieldRun.Exempt (Value.entry entries field) [c] := by
    rintro ⟨-, d, hd, hnull⟩
    rw [List.mem_singleton.mp hd] at hnull
    exact hname hnull
  have hfield : (e.checker .builtin now call).fieldError? (.mapping entries) field (.text spec) =
      (e.checker .builtin now call).message? field (if b then .passed else .failed c own) := by
    rw [Checker.fieldError?_eq, hread, FieldRun.ofValue_of_not_exempt hex,
      FieldRun.ofClauses_cons_outcome]
    simp only [checker] at hsaid ⊢
    rw [hsaid]
    cases b <;> rfl
  rw [Clears, Flags, errors, Checker.errors_ofTexts_singleton, hfield]
  cases b with
  | true => exact .inl ⟨rfl, rfl⟩
  | false =>
    obtain ⟨text, htext⟩ :=
      Message.resolve_of_textual (he.overlay hcall) field c.name own c.param
    refine .inr ⟨rfl, text, ?_⟩
    simp only [checker, Checker.message?, Bool.false_eq_true, if_false, htext]
    rfl

theorem clears_and_flags_iff_of_said (he : e.messages.Textual) (hcall : call.Textual) {c : Clause}
    {b : Bool} {own : String} (hread : Clause.readAll spec = [c])
    (hname : c.name ≠ FieldRun.nullable)
    (hsaid : FieldRun.said .builtin ⟨now, e.dateFormat⟩ field (Value.entry entries field)
      (.mapping entries) c = some (.ok (.passedIf b own))) :
    (e.Clears now call entries field spec ↔ b = true) ∧
      (e.Flags now call entries field spec ↔ b = false) := by
  rcases flags_or_clears_of_said he hcall hread hname hsaid with ⟨rfl, hclears⟩ | ⟨rfl, hflags⟩
  · simp [hclears, hclears.not_flags]
  · have hclears : ¬e.Clears now call entries field spec := fun h => h.not_flags hflags
    simp [hclears, hflags]

theorem flags_required_iff (he : e.messages.Textual) (hcall : call.Textual) :
    e.Flags now call entries field "required" ↔
      Value.entry entries field = .null ∨ Value.entry entries field = .text "" := by
  have hread : Clause.readAll "required" = [⟨"required", none⟩] := by decide +kernel
  rw [← Rule.isFilled_eq_false_iff]
  exact (clears_and_flags_iff_of_said he hcall hread (by decide) rfl).2

section Condition

variable {other expected : String} (hother : other ≠ "") (hbar : '|' ∉ other.toList)
  (hcomma : ',' ∉ other.toList) (hbar' : '|' ∉ expected.toList)
  (hend : ¬Text.EndsBlank expected.toList)

include hbar hbar' hend in
theorem readAll_condition : Clause.readAll ("required_if:" ++ other ++ "," ++ expected) =
    [⟨"required_if", some (other ++ "," ++ expected)⟩] := by
  have hspec : "required_if:" ++ other ++ "," ++ expected =
      "required_if" ++ ":" ++ (other ++ "," ++ expected) := by
    rw [← String.toList_inj]
    simp
  rw [hspec]
  refine Clause.readAll_parameter Clause.writable_requiredIf ?_ (Rule.not_endsBlank_condition hend)
  simp [hbar, hbar']

include hother hbar hcomma hbar' hend in
theorem condition_iff (he : e.messages.Textual) (hcall : call.Textual) :
    (e.Clears now call entries field ("required_if:" ++ other ++ "," ++ expected) ↔
      ¬(Value.entry entries other = .text expected ∧
        (Value.entry entries field = .null ∨ Value.entry entries field = .text ""))) ∧
    (e.Flags now call entries field ("required_if:" ++ other ++ "," ++ expected) ↔
      Value.entry entries other = .text expected ∧
        (Value.entry entries field = .null ∨ Value.entry entries field = .text "")) := by
  obtain ⟨rule, hmade, -, hjudge⟩ :=
    @Rule.prepare_requiredIf other expected hother hcomma "required_if" ⟨now, e.dateFormat⟩
  have hget : Registry.builtin.get? "required_if" = some ⟨Rule.requiredIf, "required_if"⟩ := rfl
  have hsaid : FieldRun.said .builtin ⟨now, e.dateFormat⟩ field (Value.entry entries field)
      (.mapping entries) ⟨"required_if", some (other ++ "," ++ expected)⟩ = _ :=
    FieldRun.said_of_prepare hget hmade
  rw [hjudge] at hsaid
  have hiff := clears_and_flags_iff_of_said he hcall (readAll_condition hbar hbar' hend)
    (show "required_if" ≠ FieldRun.nullable by decide) hsaid
  rw [hiff.1, hiff.2, ← Rule.holdsText_eq_true_iff, ← Rule.isFilled_eq_false_iff]
  cases Rule.holdsText expected (Value.entry entries other) <;>
    cases Rule.isFilled (Value.entry entries field) <;> decide

end Condition

section Options

variable {options : List String} (hcomma : ∀ o ∈ options, ',' ∉ o.toList)
  (hbar : ∀ o ∈ options, '|' ∉ o.toList) (hne : ",".intercalate options ≠ "")
  (hend : ¬Text.EndsBlank (",".intercalate options).toList)

include hbar hend in
theorem readAll_options : Clause.readAll ("in:" ++ ",".intercalate options) =
    [⟨"in", some (",".intercalate options)⟩] := by
  have hnot : '|' ∉ (",".intercalate options).toList := by
    rw [Text.toList_intercalate_comma]
    exact Text.notMem_join (by decide) (List.forall_mem_map.mpr hbar)
  have hspec : "in:" ++ ",".intercalate options = "in" ++ ":" ++ ",".intercalate options := by
    rw [← String.toList_inj]
    simp
  rw [hspec]
  exact Clause.readAll_parameter Clause.writable_in hnot hend

include hcomma hbar hne hend in
theorem options_iff (he : e.messages.Textual) (hcall : call.Textual) :
    (e.Clears now call entries field ("in:" ++ ",".intercalate options) ↔
      ∀ s, Value.entry entries field = .text s → s ∈ options) ∧
    (e.Flags now call entries field ("in:" ++ ",".intercalate options) ↔
      ∃ s, Value.entry entries field = .text s ∧ s ∉ options) := by
  obtain ⟨rule, hmade, -, hjudge⟩ := Rule.prepare_oneOf hcomma hne "in" ⟨now, e.dateFormat⟩
  have hget : Registry.builtin.get? "in" = some ⟨Rule.oneOf, "in"⟩ := rfl
  have hsaid : FieldRun.said .builtin ⟨now, e.dateFormat⟩ field (Value.entry entries field)
      (.mapping entries) ⟨"in", some (",".intercalate options)⟩ = _ :=
    FieldRun.said_of_prepare hget hmade
  obtain ⟨b, hverdict, hb⟩ := Verdict.exists_onText_eq_passedIf (Value.entry entries field)
    (fun s => options.contains s)
    (field ++ " must be one of the following values: " ++ ", ".intercalate options)
  rw [hjudge, hverdict] at hsaid
  have hiff := clears_and_flags_iff_of_said he hcall (readAll_options hbar hend)
    (show "in" ≠ FieldRun.nullable by decide) hsaid
  rw [hiff.1, hiff.2, ← Bool.not_eq_true, hb]
  simp

end Options

/-- The name of a field and a text, and a list of options, come through the rule string as they were
written: it is read as the one clause meant, and its rule can be made. A condition flags a field
that is not filled in where the other field holds the text, as the rule that asks for a value does,
and clears any other; options clear the texts among them, flag the other texts, and clear what is no
text. -/
theorem errors_of_written_parameters (e : Engine) (now : DateTime) (call : Messages)
    (entries : List (Value × Value)) (field : String) (he : e.messages.Textual)
    (hcall : call.Textual) :
    let value := Value.entry entries field
    let flags := e.Flags now call entries field
    let clears := e.Clears now call entries field
    let context : Context := ⟨now, e.dateFormat⟩
    (∀ other expected : String, other ≠ "" → '|' ∉ other.toList → ',' ∉ other.toList →
      '|' ∉ expected.toList → ¬Text.EndsBlank expected.toList →
      let spec := "required_if:" ++ other ++ "," ++ expected
      Clause.readAll spec = [⟨"required_if", some (other ++ "," ++ expected)⟩] ∧
      (∃ rule, Rule.requiredIf.prepare "required_if" (some (other ++ "," ++ expected)) context =
        .ok rule ∧ rule.parameter = .pair (.text other) (.text expected)) ∧
      (flags spec ↔ Value.entry entries other = .text expected ∧
        (value = .null ∨ value = .text "")) ∧
      (¬flags spec → clears spec) ∧
      (Value.entry entries other = .text expected → (flags spec ↔ flags "required")) ∧
      (Value.entry entries other ≠ .text expected → clears spec)) ∧
    ∀ options : List String, (∀ o ∈ options, ',' ∉ o.toList) → (∀ o ∈ options, '|' ∉ o.toList) →
      ",".intercalate options ≠ "" → ¬Text.EndsBlank (",".intercalate options).toList →
      let spec := "in:" ++ ",".intercalate options
      Clause.readAll spec = [⟨"in", some (",".intercalate options)⟩] ∧
      (∃ rule, Rule.oneOf.prepare "in" (some (",".intercalate options)) context = .ok rule ∧
        rule.parameter = .list (options.map .text)) ∧
      (∀ s, value = .text s → (clears spec ↔ s ∈ options) ∧ (flags spec ↔ s ∉ options)) ∧
      ((∀ s, value ≠ .text s) → clears spec) := by
  intro value flags clears context
  constructor
  · intro other expected hother hbar hcomma hbar' hend spec
    obtain ⟨rule, hmade, hparameter, -⟩ :=
      @Rule.prepare_requiredIf other expected hother hcomma "required_if" context
    have hclears : clears spec ↔ ¬(Value.entry entries other = .text expected ∧
        (value = .null ∨ value = .text "")) :=
      (condition_iff hother hbar hcomma hbar' hend he hcall).1
    have hflags : flags spec ↔ Value.entry entries other = .text expected ∧
        (value = .null ∨ value = .text "") :=
      (condition_iff hother hbar hcomma hbar' hend he hcall).2
    refine ⟨readAll_condition hbar hbar' hend, ⟨rule, hmade, hparameter⟩, hflags, ?_, ?_, ?_⟩
    · intro hnot
      exact hclears.mpr (hflags.not.mp hnot)
    · intro hholds
      have hrequired : flags "required" ↔ value = .null ∨ value = .text "" :=
        flags_required_iff he hcall
      rw [hrequired]
      exact hflags.trans (and_iff_right hholds)
    · intro hnot
      exact hclears.mpr fun h => hnot h.1
  · intro options hcomma hbar hne hend spec
    obtain ⟨rule, hmade, hparameter, -⟩ := Rule.prepare_oneOf hcomma hne "in" context
    have hclears : clears spec ↔ ∀ s, value = .text s → s ∈ options :=
      (options_iff hcomma hbar hne hend he hcall).1
    have hflags : flags spec ↔ ∃ s, value = .text s ∧ s ∉ options :=
      (options_iff hcomma hbar hne hend he hcall).2
    refine ⟨readAll_options hbar hend, ⟨rule, hmade, hparameter⟩, ?_, ?_⟩
    · intro s hs
      constructor
      · exact hclears.trans (by simp [hs])
      · exact hflags.trans (by simp [hs])
    · intro hnot
      exact hclears.mpr fun s hs => absurd hs (hnot s)

/-- A field and a text with a blank in front, a comma and colons, and options of which one is empty.
-/
theorem errors_of_written_parameters_of_colons :
    let e : Engine := ⟨[], ⟨"", none⟩, [], "YYYY"⟩
    let now : DateTime := .ofDate ⟨2024, 6, 15, by decide, by decide, by decide, by decide⟩
    let entries : List (Value × Value) := [(.text " a:b", .text " x,y:z"), (.text "f", .text "")]
    Messages.Textual [] ∧ '|' ∉ " a:b".toList ∧ ',' ∉ " a:b".toList ∧ '|' ∉ " x,y:z".toList ∧
      ¬Text.EndsBlank " x,y:z".toList ∧
      ¬Text.EndsBlank (",".intercalate [" a", "", "b:c"]).toList ∧
      e.Flags now [] entries "f" ("required_if:" ++ " a:b" ++ "," ++ " x,y:z") ∧
      e.Clears now [] entries "f" ("in:" ++ ",".intercalate [" a", "", "b:c"]) ∧
      e.Clears now [] entries "g" ("in:" ++ ",".intercalate [" a", "", "b:c"]) := by
  intro e now entries
  have hm : Messages.Textual [] := by simp [Messages.Textual]
  have hother : Value.entry entries " a:b" = .text " x,y:z" := by cbv
  have hvalue : Value.entry entries "f" = .text "" := by cbv
  have hmissing : Value.entry entries "g" = .null := by cbv
  have hbar : '|' ∉ " a:b".toList := by decide
  have hcomma : ',' ∉ " a:b".toList := by decide
  have hbar' : '|' ∉ " x,y:z".toList := by decide
  have hz : Text.isBlank 'z' = false := by decide
  have hc : Text.isBlank 'c' = false := by decide
  have hend : ¬Text.EndsBlank " x,y:z".toList := by simp [Text.EndsBlank, hz]
  have hoptions : ¬Text.EndsBlank (",".intercalate [" a", "", "b:c"]).toList := by
    simp [Text.EndsBlank, hc]
  have hcommas : ∀ o ∈ [" a", "", "b:c"], ',' ∉ o.toList := by decide
  have hbars : ∀ o ∈ [" a", "", "b:c"], '|' ∉ o.toList := by decide
  obtain ⟨hcondition, hchoice⟩ := errors_of_written_parameters e now [] entries "f" hm hm
  obtain ⟨-, hchoice'⟩ := errors_of_written_parameters e now [] entries "g" hm hm
  obtain ⟨-, -, hflags, -⟩ := hcondition " a:b" " x,y:z" (by decide) hbar hcomma hbar' hend
  obtain ⟨-, -, hclears, -⟩ := hchoice _ hcommas hbars (by simp) hoptions
  obtain ⟨-, -, -, hnoText⟩ := hchoice' _ hcommas hbars (by simp) hoptions
  refine ⟨hm, hbar, hcomma, hbar', hend, hoptions, hflags.mpr ⟨hother, .inr hvalue⟩, ?_, ?_⟩
  · exact (hclears "" hvalue).1.mpr (by decide)
  · exact hnoText fun s hs => Value.noConfusion (hmissing.symm.trans hs)

end Engine

end FormRules
