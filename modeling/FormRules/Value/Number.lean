import FormRules.Value.Basic
import FormRules.Text.Blank

namespace FormRules.Value

def numberOfText? (s : String) : Option Number :=
  match Decimal.read? (Text.trim s.toList) with
  | none => none
  | some d =>
    let n := Double.ofDecimal d
    if n.isFinite then some (.double n) else none

def number? : Value → Option Number
  | .int n => some (.integer n)
  | .double d => if d.isFinite then some (.double d) else none
  | .decimal (.finite d) => some (.decimal d)
  | .text s => numberOfText? s
  | _ => none

def isWhole : Value → Bool
  | .int _ => true
  | .double d => d.isWhole
  | .decimal (.finite d) => d.isWhole
  | _ => false

end FormRules.Value
