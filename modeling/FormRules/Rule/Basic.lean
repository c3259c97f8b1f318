import FormRules.Fault
import FormRules.Value.Moment
import FormRules.Value.Number
import FormRules.Number.Integer

namespace FormRules

structure Context where
  now : DateTime
  dateFormat : String

inductive Verdict
  | passed
  | failed (message : String)
  deriving DecidableEq, Repr

structure Rule where
  parameter : Value
  judge : (field : String) → (value record : Value) → Except Fault Verdict

structure RuleClass where
  title : String
  /-- makes a rule from the name under which the class is known and a parameter -/
  prepare : (name : String) → (param : Option String) → Context → Except RuleFault Rule

def Value.field (record : Value) (name : String) : Except Fault Value :=
  match record with
  | .mapping entries => .ok (((entries.find? fun e => e.1.same (.text name)).map (·.2)).getD .null)
  | _ => .error .notARecord

namespace Verdict

def passedIf (b : Bool) (message : String) : Verdict := if b then .passed else .failed message

def onText (v : Value) (test : String → Bool) (message : String) : Verdict :=
  match v with
  | .text s => passedIf (test s) message
  | _ => .passed

def onNumber (v : Value) (test : Number → Bool) (message : String) : Verdict :=
  match v.number? with
  | some n => passedIf (test n) message
  | none => .passed

end Verdict

namespace Rule

def rawParameter (param : Option String) : Value := (param.map Value.text).getD .null

def plain (param : Option String) (judge : (field : String) → Value → Verdict) : Rule :=
  ⟨rawParameter param, fun field v _ => .ok (judge field v)⟩

def ofJudgement (title : String) (judge : (field : String) → Value → Verdict) : RuleClass :=
  ⟨title, fun _ param _ => .ok (plain param judge)⟩

def requireParam (name : String) (param : Option String) : Except RuleFault String :=
  match param with
  | none => .error ⟨name, param, .missing⟩
  | some p => if p.isEmpty then .error ⟨name, param, .missing⟩ else .ok p

def requireInteger (name : String) (param : Option String) : Except RuleFault Int := do
  let p ← requireParam name param
  match Integer.read? (Text.trim p.toList) with
  | some n => .ok n
  | none => .error ⟨name, param, .notInteger⟩

def requireNumber (name : String) (param : Option String) : Except RuleFault Number := do
  let p ← requireParam name param
  match Value.numberOfText? p with
  | some n => .ok n
  | none => .error ⟨name, param, .notNumber⟩

def requireList (name : String) (param : Option String) : Except RuleFault (List String) := do
  let p ← requireParam name param
  .ok ((Text.pieces ',' p.toList).map String.ofList)

def requireFieldAndText (name : String) (param : Option String) :
    Except RuleFault (String × String) := do
  let p ← requireParam name param
  match Text.cut ',' p.toList with
  | some (c :: field, expected) => .ok (String.ofList (c :: field), String.ofList expected)
  | _ => .error ⟨name, param, .notFieldAndValue⟩

end Rule

end FormRules
