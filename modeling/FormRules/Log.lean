namespace FormRules.Log

inductive Level
  | debug
  | info
  | warning
  | error
  | critical
  deriving DecidableEq, Repr

def Level.name : Level → String
  | .debug => "DEBUG"
  | .info => "INFO"
  | .warning => "WARNING"
  | .error => "ERROR"
  | .critical => "CRITICAL"

def Level.rank : Level → Nat
  | .debug => 10
  | .info => 20
  | .warning => 30
  | .error => 40
  | .critical => 50

def levels : List Level := [.debug, .info, .warning, .error, .critical]

def Level.ofName? (name : String) : Option Level := levels.find? fun l => l.name == name

def Level.otherNames : List (String × Level) :=
  [("WARN", .warning), ("FATAL", .critical), ("NOTSET", .warning)]

def Level.ofAnyName? (name : String) : Option Level :=
  (Level.ofName? name).or ((Level.otherNames.find? fun e => e.1 == name).map (·.2))

structure Entry where
  level : Level
  logger : String
  message : String
  deriving DecidableEq, Repr

def errorText (context error : String) : String :=
  if context.isEmpty then error else context ++ ": " ++ error

def traceHeading : String := "Full traceback:"

def errorEntries (debug : Bool) (logger context error : String) : List Entry :=
  ⟨.error, logger, errorText context error⟩ ::
    if debug then [⟨.error, logger, traceHeading⟩] else []

end FormRules.Log
