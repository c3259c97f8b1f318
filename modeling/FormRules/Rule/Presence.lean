import FormRules.Rule.Basic

namespace FormRules.Rule

def isFilled (v : Value) : Bool := !v.isNull && !v.isEmptyText

def required : RuleClass :=
  ofJudgement "RequiredRule" fun field v => .passedIf (isFilled v) (field ++ " is required")

def notEmpty : RuleClass :=
  ofJudgement "NotEmptyRule" fun field v => .passedIf (!v.isEmptyText) (field ++ " cannot be blank")

def nullable : RuleClass := ofJudgement "NullableRule" fun _ _ => .passed

def confirmationField : String := "confirm_password"

def confirmed : RuleClass :=
  ⟨"ConfirmPasswordRule", fun _ param _ =>
    .ok ⟨rawParameter param, fun field v record => do
      let again ← record.field confirmationField
      if !isFilled again then .ok (.failed (field ++ " is missing confirm password field"))
      else .ok (.passedIf (again.same v) (field ++ " is not matching confirm password field"))⟩⟩

def holdsText (expected : String) : Value → Bool
  | .text s => s == expected
  | _ => false

def requiredIf : RuleClass :=
  ⟨"RequiredIfRule", fun name param _ => do
    let (other, expected) ← requireFieldAndText name param
    .ok ⟨.pair (.text other) (.text expected), fun field v record => do
      let applies := holdsText expected (← record.field other)
      .ok (.passedIf (!applies || isFilled v)
        (field ++ " is required when " ++ other ++ " is " ++ expected))⟩⟩

end FormRules.Rule
