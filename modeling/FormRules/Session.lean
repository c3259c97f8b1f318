import FormRules.Engine

/-! Sessions. Over a session the catalog file, the settings, the rules, the clock and the runtime
change, an engine is made and reads its catalog again, records are checked, and what the last
validation reported stays shown. -/

namespace FormRules

inductive Setting
  | appName (s : String)
  | appVersion (s : String)
  | debug (b : Bool)
  | logLevel (l : Log.Level)
  | logFile (path : Option String)
  | messagesPath (path : Option String)
  | dateFormat (s : String)

def Settings.set (s : Settings) : Setting → Settings
  | .appName n => { s with appName := n }
  | .appVersion v => { s with appVersion := v }
  | .debug b => { s with debug := b }
  | .logLevel l => { s with logLevel := l }
  | .logFile p => { s with logFile := p }
  | .messagesPath p => { s with messagesPath := p }
  | .dateFormat f => { s with dateFormat := f }

structure Call where
  record : Value
  form : Form
  messages : Messages

inductive Step
  | create (messages : Messages) (path : Option String)
  | view
  | write (file : File)
  | set (setting : Setting)
  | reload
  | collect (call : Call)
  | validate (takesErrors : Bool) (call : Call)
  | register (name : String) (rules : RuleClass)
  | registerAs (name other : String)
  | unregister (name : String)
  | lookup (name : String)
  | list
  | available
  | setClock (now : DateTime)
  | setRuntime (r : Runtime)

inductive Refusal
  | noEngine
  | noRule
  | catalog (fault : Catalog.Fault)
  | check (fault : Fault)

inductive Answer
  | engine (e : Engine)
  | fileExists (b : Bool)
  | changed
  | errors (e : Errors)
  /-- how often errors were reported, how the validation ended, and what is shown now -/
  | validated (reports : Nat) (result : Except Fault Bool) (shown : Errors)
  | rule (known : Option NamedClass)
  | count (n : Nat)
  | titles (rules : List (String × String))
  | names (rules : List String)
  | refused (r : Refusal)

structure Session where
  settings : Settings
  registry : Registry
  now : DateTime
  path : String
  file : File
  runtime : Runtime
  engine : Option Engine
  shown : Errors

namespace Session

def start (path : String) (now : DateTime) : Session :=
  ⟨{}, .builtin, now, path, .missing, .usual, none, []⟩

def files (s : Session) (path : String) : File :=
  if path = s.path then s.file
  else if path = Catalog.shippedPath then Catalog.shipped
  else if Catalog.isAboveHere path then .folder
  else .missing

structure Reply where
  session : Session
  answer : Answer
  log : List Log.Entry

def checker (s : Session) (e : Engine) (c : Call) : Checker := e.checker s.registry s.now c.messages

def create (s : Session) (messages : Messages) (path : Option String) : Reply :=
  let log := Engine.creationEntries messages path s.settings s.files s.runtime s.registry
  match Engine.create messages path s.settings s.files s.runtime with
  | .ok e => ⟨{ s with engine := some e }, .engine e, log⟩
  | .error f => ⟨s, .refused (.catalog f), log⟩

def reload (s : Session) (e : Engine) : Reply :=
  let after := e.reload s.settings s.files s.runtime
  let log := e.reloadEntries s.files s.runtime
  let session := { s with engine := some after }
  match (e.reloadAnswer s.files s.runtime).result with
  | .ok _ => ⟨session, .engine after, log⟩
  | .error f => ⟨session, .refused (.catalog f), log⟩

def collect (s : Session) (e : Engine) (c : Call) : Reply :=
  let checker := s.checker e c
  let log := Engine.checkEntries s.settings.debug checker c.record c.form
  match checker.errors c.record c.form with
  | .ok errors => ⟨s, .errors errors, log⟩
  | .error f => ⟨s, .refused (.check f), log⟩

def validate (s : Session) (e : Engine) (takesErrors : Bool) (c : Call) : Reply :=
  let checker := s.checker e c
  let d := checker.validate takesErrors c.record c.form
  let shown := d.given.getLast?.getD s.shown
  let log :=
    if takesErrors then Engine.checkEntries s.settings.debug checker c.record c.form else []
  ⟨{ s with shown := shown }, .validated d.given.length d.result shown, log⟩

def withEngine (s : Session) (f : Engine → Reply) : Reply :=
  match s.engine with
  | some e => f e
  | none => ⟨s, .refused .noEngine, []⟩

def rebind (s : Session) (name title : String) (registry : Registry) : Reply :=
  ⟨{ s with registry := registry }, .rule (registry.get? name),
    s.registry.bindingEntries name title⟩

def step (s : Session) : Step → Reply
  | .create messages path => s.create messages path
  | .view => s.withEngine fun e => ⟨s, .engine e, []⟩
  | .write file =>
    ⟨{ s with file := file }, .fileExists (match file with | .missing => false | _ => true), []⟩
  | .set setting => ⟨{ s with settings := s.settings.set setting }, .changed, []⟩
  | .reload => s.withEngine s.reload
  | .collect c => s.withEngine fun e => s.collect e c
  | .validate takesErrors c => s.withEngine fun e => s.validate e takesErrors c
  | .register name rules => s.rebind name rules.title (s.registry.register name rules)
  | .registerAs name other =>
    match s.registry.get? other, s.registry.registerAs? name other with
    | some known, some registry => s.rebind name known.rules.title registry
    | _, _ => ⟨s, .refused .noRule, []⟩
  | .unregister name =>
    let registry := s.registry.unregister name
    ⟨{ s with registry := registry }, .count registry.size, []⟩
  | .lookup name => ⟨s, .rule (s.registry.get? name), []⟩
  | .list => ⟨s, .titles s.registry.titles, []⟩
  | .available => s.withEngine fun _ => ⟨s, .names s.registry.names, []⟩
  | .setClock now => ⟨{ s with now := now }, .changed, []⟩
  | .setRuntime r => ⟨{ s with runtime := r }, .changed, []⟩

def run (s : Session) : List Step → List Reply
  | [] => []
  | step :: steps =>
    let reply := s.step step
    reply :: run reply.session steps

end Session

end FormRules
