import FormRules.Engine
import Mathlib

namespace FormRules

namespace Checker

variable (c : Checker) (record : Value)

theorem errors_cons (fs : String × Value) (form : Form) :
    c.errors record (fs :: form) =
      match c.fieldError? record fs.1 fs.2 with
      | .error fault => .error fault
      | .ok message =>
        (c.errors record form).map ((message.map fun m => (fs.1, m)).toList ++ ·) := by
  rw [errors]
  cases c.fieldError? record fs.1 fs.2 with
  | error fault => rfl
  | ok message => cases c.errors record form <;> rfl

def Ends (fs : String × Value) : Prop := ∃ message, c.fieldError? record fs.1 fs.2 = .ok message

def reported? (fs : String × Value) : Option (String × String) :=
  (c.fieldError? record fs.1 fs.2).toOption.join.map fun m => (fs.1, m)

variable {c record}

theorem errors_append (form form' : Form) :
    c.errors record (form ++ form') =
      match c.errors record form, c.errors record form' with
      | .error fault, _ => .error fault
      | .ok _, .error fault => .error fault
      | .ok errs, .ok errs' => .ok (errs ++ errs') := by
  induction form with
  | nil =>
    rw [List.nil_append, errors]
    cases c.errors record form' <;> rfl
  | cons fs form ih =>
    rw [List.cons_append, errors_cons, errors_cons, ih]
    cases c.fieldError? record fs.1 fs.2 with
    | error fault => rfl
    | ok message =>
      cases c.errors record form with
      | error fault => rfl
      | ok errs =>
        cases c.errors record form' with
        | error fault => rfl
        | ok errs' => simp [Except.map]

theorem errors_eq_ok_iff {form : Form} {errs : Errors} :
    c.errors record form = .ok errs ↔
      (∀ fs ∈ form, c.Ends record fs) ∧ errs = form.filterMap (c.reported? record) := by
  induction form generalizing errs with
  | nil => simp [errors, eq_comm]
  | cons fs form ih =>
    rw [errors_cons, List.forall_mem_cons]
    cases hfield : c.fieldError? record fs.1 fs.2 with
    | error fault =>
      have hfs : ¬c.Ends record fs := by simp [Ends, hfield]
      simp [hfs]
    | ok message =>
      have hfs : c.Ends record fs := ⟨message, hfield⟩
      have hreported : c.reported? record fs = message.map fun m => (fs.1, m) := by
        rw [reported?, hfield]
        rfl
      rw [List.filterMap_cons, hreported]
      cases hform : c.errors record form with
      | error fault =>
        have hstop : ¬∀ fs ∈ form, c.Ends record fs := by
          intro h
          cases hform.symm.trans (ih.mpr ⟨h, rfl⟩)
        simp only [Except.map, hstop, and_false, false_and, reduceCtorEq]
      | ok rest =>
        obtain ⟨hrest, rfl⟩ := ih.mp hform
        simp only [Except.map, Except.ok.injEq, hfs, true_and]
        rw [and_iff_right hrest, eq_comm]
        cases message <;> rfl

theorem exists_errors_iff {form : Form} :
    (∃ errs, c.errors record form = .ok errs) ↔ ∀ fs ∈ form, c.Ends record fs := by
  constructor
  · rintro ⟨errs, herrs⟩
    exact (errors_eq_ok_iff.mp herrs).1
  · intro h
    exact ⟨_, errors_eq_ok_iff.mpr ⟨h, rfl⟩⟩

end Checker

namespace Engine

/-- A form in two parts is checked as its first part and then as its second. Forms with the same
fields in another order come to an end together, and then with the same entries. -/
theorem errors_fieldwise (e : Engine) (r : Registry) (now : DateTime) (call : Messages)
    (record : Value) :
    (∀ form form' : Form,
      e.errors r now call record (form ++ form') =
        match e.errors r now call record form, e.errors r now call record form' with
        | .error fault, _ => .error fault
        | .ok _, .error fault => .error fault
        | .ok errs, .ok errs' => .ok (errs ++ errs')) ∧
    ∀ form form' : Form, form.Perm form' →
      ((∃ errs, e.errors r now call record form = .ok errs) ↔
        ∃ errs, e.errors r now call record form' = .ok errs) ∧
      ∀ errs errs', e.errors r now call record form = .ok errs →
        e.errors r now call record form' = .ok errs' → errs.Perm errs' := by
  refine ⟨Checker.errors_append, ?_⟩
  intro form form' hperm
  refine ⟨?_, ?_⟩
  · rw [errors, errors, Checker.exists_errors_iff, Checker.exists_errors_iff]
    exact forall_congr' fun fs => imp_congr_left hperm.mem_iff
  · intro errs errs' herrs herrs'
    obtain ⟨-, rfl⟩ := Checker.errors_eq_ok_iff.mp herrs
    obtain ⟨-, rfl⟩ := Checker.errors_eq_ok_iff.mp herrs'
    exact hperm.filterMap _

/-- A field that fails, one that passes and one that fails, and then the last of them first. -/
theorem errors_fieldwise_of_rotation :
    let e : Engine := ⟨[], ⟨"", none⟩, [("required", .text "\x7bfield\x7d?")], "YYYY"⟩
    let now : DateTime := .ofDate ⟨2024, 6, 15, by decide, by decide, by decide, by decide⟩
    let record : Value := .mapping [(.text "a", .null), (.text "b", .int 5), (.text "c", .text "x")]
    let form : Form := [("a", .text "required"), ("b", .text "integer"), ("c", .text "min:3|max:y")]
    let form' : Form :=
      [("c", .text "min:3|max:y"), ("a", .text "required"), ("b", .text "integer")]
    form.Perm form' ∧
    ∃ errs', e.errors .builtin now [] record form' = .ok errs' ∧
      [("a", "a?"), ("c", "c must be at least 3 characters long")].Perm errs' := by
  intro e now record form form'
  have hperm : (form.take 2 ++ form.drop 2).Perm (form.drop 2 ++ form.take 2) :=
    List.perm_append_comm
  have herrs : e.errors .builtin now [] record form =
      .ok [("a", "a?"), ("c", "c must be at least 3 characters long")] := by
    cbv
  obtain ⟨hends, hsame⟩ := (errors_fieldwise e .builtin now [] record).2 form form' hperm
  obtain ⟨errs', herrs'⟩ := hends.mp ⟨_, herrs⟩
  exact ⟨hperm, errs', herrs', hsame _ _ herrs herrs'⟩

end Engine

end FormRules
