import FormRules.Catalog
import FormRules.Form
import FormRules.Settings.Basic

namespace FormRules

structure Engine where
  overrides : Messages
  loader : Catalog.Loader
  messages : Messages
  dateFormat : String

namespace Engine

def loggerName : String := "modules.validation.engine"

def ofCatalog (overrides : Messages) (settings : Settings) (loader : Catalog.Loader) (c : Catalog) :
    Engine :=
  ⟨overrides, loader, c.messages.overlay overrides, c.dateFormat?.getD settings.dateFormat⟩

def firstAnswer (settings : Settings) (path : Option String) (files : String → File)
    (r : Runtime) : Catalog.Answer Catalog :=
  let loader : Catalog.Loader := ⟨Catalog.pathOf path settings.messagesPath, none⟩
  loader.part (files loader.path) r (·.writable r.room)

def create (overrides : Messages) (path : Option String) (settings : Settings)
    (files : String → File) (r : Runtime) : Except Catalog.Fault Engine :=
  let a := firstAnswer settings path files r
  a.result.map (ofCatalog overrides settings a.loader)

def reloadAnswer (e : Engine) (files : String → File) (r : Runtime) : Catalog.Answer Catalog :=
  let a := e.loader.reload (files e.loader.path) r
  { a with result := a.result.bind (·.writable r.room) }

/-- The engine after a catalog has been read again; one that cannot be used changes neither messages
nor format. -/
def reload (e : Engine) (settings : Settings) (files : String → File) (r : Runtime) : Engine :=
  let a := e.reloadAnswer files r
  match a.result with
  | .ok c => ofCatalog e.overrides settings a.loader c
  | .error _ => { e with loader := a.loader }

def checker (e : Engine) (registry : Registry) (now : DateTime) (messages : Messages) : Checker :=
  ⟨registry, ⟨now, e.dateFormat⟩, e.messages.overlay messages⟩

def errors (e : Engine) (registry : Registry) (now : DateTime) (messages : Messages)
    (record : Value) (form : Form) : Except Fault Errors :=
  (e.checker registry now messages).errors record form

/-! ## What is put on record -/

def quotedName (name : String) : String := "'" ++ name ++ "'"

def listed (names : List String) : String := ", ".intercalate names

def creationEntry (e : Engine) (registry : Registry) : Log.Entry :=
  ⟨.debug, loggerName, "InputValidator initialized with " ++ Text.decimal registry.size ++
    " rules and " ++ Text.decimal e.messages.length ++ " message overrides"⟩

def creationEntries (overrides : Messages) (path : Option String) (settings : Settings)
    (files : String → File) (r : Runtime) (registry : Registry) : List Log.Entry :=
  (firstAnswer settings path files r).log ++
    match create overrides path settings files r with
    | .ok e => [e.creationEntry registry]
    | .error _ => []

def reloadEntries (e : Engine) (files : String → File) (r : Runtime) : List Log.Entry :=
  ⟨.info, loggerName, "Reloading validation message catalog"⟩ :: (e.reloadAnswer files r).log

def ignoredEntry (field name : String) : Log.Entry :=
  ⟨.debug, loggerName, "Unknown rule " ++ quotedName name ++ " on field " ++ quotedName field ++
    " ignored"⟩

def fieldEntries (debug : Bool) (field : String) (run : FieldRun) : List Log.Entry :=
  run.ignored.map (ignoredEntry field) ++
    match run.outcome with
    | .halted (.rule f) =>
      Log.errorEntries debug loggerName ("Rule configuration for field " ++ quotedName field)
        ("RuleConfigurationError: " ++ f.message)
    | _ => []

def fieldsEntries (debug : Bool) (c : Checker) (record : Value) : Form → List Log.Entry
  | [] => []
  | (field, spec) :: form =>
    fieldEntries debug field (c.run record field spec) ++
      match c.fieldError? record field spec with
      | .ok _ => fieldsEntries debug c record form
      | .error _ => []

def summaryEntry (form : Form) (errors : Errors) : Log.Entry :=
  let names := listed (errors.map (·.1))
  ⟨.debug, loggerName, "Validated " ++ Text.decimal form.length ++ " fields: " ++
    Text.decimal errors.length ++ " failed (" ++ (if names.isEmpty then "none" else names) ++ ")"⟩

def checkEntries (debug : Bool) (c : Checker) (record : Value) (form : Form) : List Log.Entry :=
  fieldsEntries debug c record form ++
    match c.errors record form with
    | .ok errors => [summaryEntry form errors]
    | .error _ => []

end Engine

end FormRules
