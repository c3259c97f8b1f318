import FormRules.Text.Quoted

namespace FormRules

inductive ParameterFault
  | missing
  | notInteger
  | notNumber
  | notFieldAndValue
  deriving DecidableEq, Repr

def ParameterFault.reason : ParameterFault → String
  | .missing => "parameter is required"
  | .notInteger => "expected an integer"
  | .notNumber => "expected a number"
  | .notFieldAndValue => "expected 'field,value'"

def shownParameter (param : Option String) : String :=
  match param with
  | none => "None"
  | some p => Text.quotedText p

def parameterMessage (rule shown reason : String) : String :=
  "Invalid parameter " ++ shown ++ " for rule '" ++ rule ++ "': " ++ reason

structure RuleFault where
  rule : String
  param : Option String
  cause : ParameterFault
  deriving DecidableEq, Repr

def RuleFault.message (f : RuleFault) : String :=
  parameterMessage f.rule (shownParameter f.param) f.cause.reason

inductive Fault
  /-- errors are to be given to something that does not take them -/
  | notCallable
  | rule (fault : RuleFault)
  | specNotText
  /-- a record that has no fields to look up -/
  | notARecord
  | messageNotText
  | messageIsDate
  /-- a date format that gives the same part of a date twice -/
  | repeatedDirective
  /-- a moment whose zone is a day or more away from universal time -/
  | offsetTooLarge
  /-- a number of hours or minutes with too many digits for its fraction to be taken -/
  | quantityTooLong
  /-- a two-digit year that falls before the calendar -/
  | yearBeforeCalendar
  deriving DecidableEq, Repr

def notCallableMessage : String := "set_errors must be a callable accepting the error map"

end FormRules
