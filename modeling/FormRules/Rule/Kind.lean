import FormRules.Rule.Basic

namespace FormRules.Rule

def isText : Value → Bool
  | .text _ => true
  | _ => false

def isTruth : Value → Bool
  | .bool _ => true
  | _ => false

def text : RuleClass :=
  ofJudgement "StringRule" fun field v =>
    .passedIf (v.isNull || isText v) (field ++ " must be a string")

def integer : RuleClass :=
  ofJudgement "IntegerRule" fun field v =>
    .passedIf (v.isNull || v.isWhole) (field ++ " must be an integer")

def truth : RuleClass :=
  ofJudgement "BooleanRule" fun field v =>
    .passedIf (v.isNull || isTruth v) (field ++ " must be a boolean")

def numeric : RuleClass :=
  ofJudgement "NumericRule" fun field v =>
    .passedIf (v.isNull || v.number?.isSome) (field ++ " must be a number")

end FormRules.Rule
