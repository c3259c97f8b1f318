import FormRules.Rule.Basic

namespace FormRules.Rule

def ofLength (title : String) (test : (length bound : Int) → Bool)
    (message : (field written : String) → String) : RuleClass :=
  ⟨title, fun name param _ => do
    let bound ← requireInteger name param
    .ok ⟨.int bound, fun field v _ =>
      .ok (.onText v (fun s => test s.length bound) (message field (param.getD "")))⟩⟩

def minLength : RuleClass :=
  ofLength "MinRule" (fun n bound => bound ≤ n)
    fun field written => field ++ " must be at least " ++ written ++ " characters long"

def maxLength : RuleClass :=
  ofLength "MaxRule" (fun n bound => n ≤ bound)
    fun field written => field ++ " cannot be more than " ++ written ++ " characters long"

def exactLength : RuleClass :=
  ofLength "DigitsRule" (fun n bound => n == bound)
    fun field written => field ++ " should be exactly " ++ written ++ " characters long"

def oneOf : RuleClass :=
  ⟨"InRule", fun name param _ => do
    let options ← requireList name param
    .ok ⟨.list (options.map .text), fun field v _ =>
      .ok (.onText v (fun s => options.contains s)
        (field ++ " must be one of the following values: " ++ ", ".intercalate options))⟩⟩

def encodedNumber : Number → Value
  | .integer n => .int n
  | .double d => .double d
  | .decimal d => .decimal (.finite d)

def ofBound (title : String) (test : (n bound : Number) → Bool)
    (message : (field written : String) → String) : RuleClass :=
  ⟨title, fun name param _ => do
    let bound ← requireNumber name param
    .ok ⟨encodedNumber bound, fun field v _ =>
      .ok (.onNumber v (fun n => test n bound) (message field (param.getD "")))⟩⟩

def minValue : RuleClass :=
  ofBound "MinValueRule" (fun n bound => bound ≤ n)
    fun field written => field ++ " must be at least " ++ written

def maxValue : RuleClass :=
  ofBound "MaxValueRule" (fun n bound => n ≤ bound)
    fun field written => field ++ " cannot be greater than " ++ written

end FormRules.Rule
