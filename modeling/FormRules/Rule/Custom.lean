import FormRules.Rule.Basic
import FormRules.Text.Case

namespace FormRules.Rule

def uppercase : RuleClass :=
  ofJudgement "UppercaseRule" fun field v =>
    .onText v (fun s => Text.isUppercaseText s.toList) (field ++ " must be uppercase")

def startsWith : RuleClass :=
  ⟨"StartsWithRule", fun name param _ => do
    let start ← requireParam name param
    .ok ⟨.text start, fun field v _ =>
      .ok (.onText v (fun s => start.toList.isPrefixOf s.toList)
        (field ++ " must start with " ++ start))⟩⟩

def contextual : RuleClass :=
  ⟨"ContextRule", fun name param context =>
    .ok ⟨rawParameter param, fun _ _ _ =>
      .ok (.failed (name ++ "/" ++ param.getD "None" ++ "/" ++ context.dateFormat))⟩⟩

end FormRules.Rule
