import FormRules.Proofs.Text.Separated
import FormRules.Rule.Basic

namespace FormRules

theorem bind_eq_ok_iff {ε α β : Type} {x : Except ε α} {f : α → Except ε β} {b : β} :
    (x >>= f) = .ok b ↔ ∃ a, x = .ok a ∧ f a = .ok b := by
  cases x <;> simp [bind, Except.bind]

theorem bind_eq_error_iff {ε α β : Type} {x : Except ε α} {f : α → Except ε β} {e : ε} :
    (x >>= f) = .error e ↔ x = .error e ∨ ∃ a, x = .ok a ∧ f a = .error e := by
  cases x <;> simp [bind, Except.bind]

def ReportsAs {α : Type} (name : String) (param : Option String) (read : Except RuleFault α) :
    Prop :=
  ∀ fault, read = .error fault → fault.rule = name ∧ fault.param = param

def RuleClass.ReportsByName (rules : RuleClass) : Prop :=
  ∀ name param context, ReportsAs name param (rules.prepare name param context)

namespace Rule

variable {name : String} {param : Option String}

theorem requireParam_eq_ok_iff {p : String} :
    requireParam name param = .ok p ↔ param = some p ∧ p ≠ "" := by
  cases param with
  | none => simp [requireParam]
  | some q =>
    simp only [requireParam, String.isEmpty_iff]
    split
    · rename_i hq
      simp only [reduceCtorEq, Option.some.injEq, false_iff, not_and, not_not]
      rintro rfl
      exact hq
    · rename_i hq
      simp only [Except.ok.injEq, Option.some.injEq, iff_self_and]
      rintro rfl
      exact hq

theorem toList_condition (other expected : String) :
    (other ++ "," ++ expected).toList = other.toList ++ ',' :: expected.toList := by
  simp

theorem requireFieldAndText_eq_ok_iff {other expected : String} :
    requireFieldAndText name param = .ok (other, expected) ↔
      other ≠ "" ∧ ',' ∉ other.toList ∧ param = some (other ++ "," ++ expected) := by
  rw [requireFieldAndText, bind_eq_ok_iff]
  simp only [requireParam_eq_ok_iff]
  constructor
  · rintro ⟨p, ⟨rfl, -⟩, hcut⟩
    split at hcut
    · rename_i c field rest hcut'
      obtain ⟨heq, hcomma⟩ := Text.eq_append_of_cut hcut'
      cases hcut
      refine ⟨by simp, by simpa using hcomma, congrArg some ?_⟩
      rw [← String.toList_inj, heq, toList_condition, String.toList_ofList, String.toList_ofList]
    · cases hcut
  · rintro ⟨hother, hcomma, rfl⟩
    refine ⟨_, ⟨rfl, ?_⟩, ?_⟩
    · rw [← String.toList_inj.ne, toList_condition]
      simp
    · rw [toList_condition, Text.cut_append_cons hcomma]
      cases hlist : other.toList with
      | nil => exact absurd (String.toList_inj.mp hlist) hother
      | cons c field => simp [← hlist]

end Rule

end FormRules
