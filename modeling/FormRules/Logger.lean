import FormRules.Settings.Basic

/-! Logging. A logger is set up once, with the settings of that moment: it writes to the console,
and to a file if the settings name one. The names of loggers are steps between dots. What is logged
goes to the loggers above too, and a logger without a level has that of the next logger above. -/

namespace FormRules

def Log.Entry.reaches (e : Log.Entry) (level : Log.Level) : Bool := level.rank ≤ e.level.rank

inductive Target
  | console
  | file (path : String)
  deriving DecidableEq, Repr

structure Handler where
  target : Target
  level : Log.Level
  written : List Log.Entry
  deriving DecidableEq, Repr

def Handler.write (e : Log.Entry) (h : Handler) : Handler :=
  if e.reaches h.level then { h with written := h.written ++ [e] } else h

structure Logger where
  name : String
  level : Option Log.Level
  attached : List Handler
  deriving DecidableEq, Repr

namespace Logger

def rootName : String := "root"

def nameOf (name : String) : String := if name.isEmpty then rootName else name

def fresh (name : String) : Logger := ⟨name, none, []⟩

def targets (settings : Settings) : List Target :=
  .console :: ((settings.logFile.filter fun p => !p.isEmpty).map Target.file).toList

/-- Sets the logger up, unless that has been done. The file that the settings name is one that can
be opened: a set-up that fails to open it is not described here. -/
def setUp (settings : Settings) (l : Logger) : Logger :=
  if l.attached.isEmpty then
    ⟨l.name, some settings.logLevel, (targets settings).map fun t => ⟨t, settings.logLevel, []⟩⟩
  else l

def pass (e : Log.Entry) (l : Logger) : Logger :=
  { l with attached := l.attached.map (Handler.write e) }

def traceText (trace : String) : String := Log.traceHeading ++ "\n" ++ trace

def line (time : String) (e : Log.Entry) : String :=
  time ++ " - " ++ e.logger ++ " - " ++ e.level.name ++ " - " ++ e.message

def console (l : Logger) (time : String) : List String :=
  (l.attached.filter fun h => h.target = .console).flatMap fun h => h.written.map (line time)

def file? (l : Logger) (time : String) : Option (List String) :=
  (l.attached.find? fun h => h.target ≠ .console).map fun h => h.written.map (line time)

end Logger

/-! ## All loggers -/

abbrev Loggers := List Logger

namespace Loggers

def get? (ls : Loggers) (name : String) : Option Logger := ls.find? fun l => l.name == name

def place? (ls : Loggers) (name : String) : Option Nat := ls.findIdx? fun l => l.name == name

def ensure (ls : Loggers) (name : String) : Loggers :=
  if (ls.get? name).isSome then ls else ls ++ [Logger.fresh name]

def setUp (settings : Settings) (name : String) (ls : Loggers) : Loggers :=
  (ls.ensure (Logger.nameOf name)).map fun l =>
    if l.name = Logger.nameOf name then l.setUp settings else l

/-- The loggers above the one whose name is given backwards. Steps that no logger is named by are
left out, and the root stands above all. -/
def above (ls : Loggers) : List Char → List String
  | '.' :: c :: s =>
    let name := String.ofList (c :: s).reverse
    if name ≠ Logger.rootName ∧ (ls.get? name).isSome then name :: above ls (c :: s)
    else above ls s
  | _ :: s => above ls s
  | [] => [Logger.rootName]

def chain (ls : Loggers) (name : String) : List String :=
  if name = Logger.rootName then [name] else name :: ls.above name.toList.reverse

def levelOf (ls : Loggers) (name : String) : Log.Level :=
  ((ls.chain name).findSome? fun n => (ls.get? n).bind (·.level)).getD .warning

end Loggers

/-! ## A program that logs -/

structure Logging where
  settings : Settings
  loggers : Loggers
  /-- warnings and errors for which no handler was there -/
  unheard : List Log.Entry
  deriving DecidableEq, Repr

namespace Logging

def start (settings : Settings) : Logging := ⟨settings, [], []⟩

def log (p : Logging) (e : Log.Entry) : Logging :=
  let ls := p.loggers.ensure e.logger
  if e.reaches (ls.levelOf e.logger) then
    let chain := ls.chain e.logger
    let heard := ls.any fun l => chain.contains l.name && !l.attached.isEmpty
    { p with
      loggers := ls.map fun l => if l.name ∈ chain then l.pass e else l
      unheard := if !heard && e.reaches .warning then p.unheard ++ [e] else p.unheard }
  else { p with loggers := ls }

inductive Event
  | setUp (name : String)
  | log (name : String) (level : Log.Level) (message : String)
  | logError (name context error trace : String)
  | set (settings : Settings)
  deriving DecidableEq, Repr

def Event.entries (settings : Settings) : Event → List Log.Entry
  | .log name level message => [⟨level, Logger.nameOf name, message⟩]
  | .logError name context error trace =>
    ⟨.error, Logger.nameOf name, Log.errorText context error⟩ ::
      if settings.debug then [⟨.error, Logger.nameOf name, Logger.traceText trace⟩] else []
  | _ => []

def step (p : Logging) : Event → Logging
  | .setUp name => { p with loggers := p.loggers.setUp p.settings name }
  | .set settings => { p with settings := settings }
  | e => (e.entries p.settings).foldl log p

def after (p : Logging) (events : List Event) : Logging := events.foldl step p

end Logging

end FormRules
