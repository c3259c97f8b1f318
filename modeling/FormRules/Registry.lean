import FormRules.Rule.Presence
import FormRules.Rule.Kind
import FormRules.Rule.Bound
import FormRules.Rule.Form
import FormRules.Rule.Dated
import FormRules.Log

/-! The names of rules. A class of rules knows the name under which it was registered last; it can
be registered under several names. -/

namespace FormRules

structure NamedClass where
  rules : RuleClass
  name : String

/-- Names are bound to places in a list of classes, in the order in which they were bound first. -/
structure Registry where
  classes : List NamedClass
  bindings : List (String × Nat)

namespace Registry

def setBinding (name : String) (i : Nat) : List (String × Nat) → List (String × Nat)
  | [] => [(name, i)]
  | e :: r => if e.1 = name then (name, i) :: r else e :: setBinding name i r

def index? (r : Registry) (name : String) : Option Nat :=
  (r.bindings.find? fun e => e.1 == name).map (·.2)

def get? (r : Registry) (name : String) : Option NamedClass :=
  (r.index? name).bind (r.classes[·]?)

def bind (r : Registry) (name : String) (i : Nat) : Registry :=
  ⟨r.classes.modify i fun c => { c with name := name }, setBinding name i r.bindings⟩

def register (r : Registry) (name : String) (rules : RuleClass) : Registry :=
  (⟨r.classes ++ [⟨rules, name⟩], r.bindings⟩ : Registry).bind name r.classes.length

def registerAs? (r : Registry) (name other : String) : Option Registry :=
  (r.index? other).map fun i => r.bind name i

def unregister (r : Registry) (name : String) : Registry :=
  { r with bindings := r.bindings.filter fun e => e.1 != name }

def names (r : Registry) : List String := r.bindings.map (·.1)

def titles (r : Registry) : List (String × String) :=
  r.bindings.map fun e => (e.1, ((r.classes[e.2]?).map (·.rules.title)).getD "")

def size (r : Registry) : Nat := r.bindings.length

def loggerName : String := "modules.validation.core.registry"

def bindingEntries (r : Registry) (name title : String) : List Log.Entry :=
  ((r.get? name).map fun c =>
    (⟨.warning, loggerName, "Rule name '" ++ name ++ "' rebound: " ++ c.rules.title ++
      " replaced by " ++ title⟩ : Log.Entry)).toList ++
  [⟨.debug, loggerName, "Rule '" ++ name ++ "' bound to " ++ title⟩]

def builtinRules : List (String × RuleClass) :=
  [("required", Rule.required),
   ("not-empty", Rule.notEmpty),
   ("nullable", Rule.nullable),
   ("min", Rule.minLength),
   ("max", Rule.maxLength),
   ("digits", Rule.exactLength),
   ("in", Rule.oneOf),
   ("string", Rule.text),
   ("integer", Rule.integer),
   ("boolean", Rule.truth),
   ("numeric", Rule.numeric),
   ("min_value", Rule.minValue),
   ("max_value", Rule.maxValue),
   ("email", Rule.email),
   ("password", Rule.password),
   ("url", Rule.locator),
   ("date", Rule.date),
   ("future", Rule.future),
   ("past", Rule.past),
   ("confirm_password", Rule.confirmed),
   ("required_if", Rule.requiredIf)]

def builtin : Registry :=
  builtinRules.foldl (fun r e => r.register e.1 e.2) ⟨[], []⟩

end Registry

end FormRules
