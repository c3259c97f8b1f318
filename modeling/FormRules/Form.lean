import FormRules.Outcome
import FormRules.Message

namespace FormRules

abbrev Form := List (String × Value)

abbrev Errors := List (String × String)

structure Checker where
  registry : Registry
  context : Context
  messages : Messages

namespace Checker

def run (c : Checker) (record : Value) (field : String) (spec : Value) : FieldRun :=
  FieldRun.ofField c.registry c.context record field spec

def message? (c : Checker) (field : String) : Outcome → Except Fault (Option String)
  | .passed => .ok none
  | .failed clause own =>
    (Message.resolve c.messages field clause.name own clause.param).map some
  | .halted f => .error f

def fieldError? (c : Checker) (record : Value) (field : String) (spec : Value) :
    Except Fault (Option String) :=
  c.message? field (c.run record field spec).outcome

def errors (c : Checker) (record : Value) : Form → Except Fault Errors
  | [] => .ok []
  | (field, spec) :: form => do
    let message ← c.fieldError? record field spec
    let rest ← c.errors record form
    .ok ((message.map fun m => (field, m)).toList ++ rest)

end Checker

structure Delivery where
  given : List Errors
  result : Except Fault Bool

/-- Checks a record and gives the errors to the receiver, if it takes them, also if there are none.
The record is good if there are none. -/
def Checker.validate (c : Checker) (takesErrors : Bool) (record : Value) (form : Form) : Delivery :=
  if !takesErrors then ⟨[], .error .notCallable⟩
  else match c.errors record form with
    | .ok errors => ⟨[errors], .ok errors.isEmpty⟩
    | .error f => ⟨[], .error f⟩

end FormRules
