import FormRules.Settings.Basic
import FormRules.Settings.Assignment
import FormRules.Text.Break
import FormRules.Text.Case

/-! Settings from environment variables and from a file of assignments. Names are read without
regard to case; a variable goes before an assignment. -/

namespace FormRules.Settings

abbrev Environment := List (String × String)

def lower (s : List Char) : List Char := s.map Text.asciiLower

def lookup? (name : String) (entries : List (List Char × Option (List Char))) :
    Option (List Char) :=
  (((entries.filter fun e => lower e.1 == lower name.toList).getLast?).map (·.2)).join

def setVariable (name value : List Char) :
    List (List Char × List Char) → List (List Char × List Char)
  | [] => [(name, value)]
  | e :: r => if e.1 = name then (name, value) :: r else e :: setVariable name value r

structure Source where
  environment : List (List Char × List Char)
  assignments : List Assignment

def Source.of (environment : Environment) (file : Option String) : Source :=
  let vs := environment.foldl (fun vs e => setVariable e.1.toList e.2.toList vs) []
  let read (s : String) := Assignment.resolve vs (Assignment.readAll (Text.plainBreaks s.toList))
  ⟨vs, (file.map read).getD []⟩

def Source.get? (s : Source) (name : String) : Option (List Char) :=
  (lookup? name (s.environment.map fun e => (e.1, some e.2))).or
    (lookup? name (s.assignments.map fun a => (a.name, a.value)))

def truth? (s : List Char) : Option Bool :=
  let word := String.ofList (lower s)
  if ["1", "on", "t", "true", "y", "yes"].contains word then some true
  else if ["0", "off", "f", "false", "n", "no"].contains word then some false
  else none

def readAs {α : Type} (standard : α) (read? : List Char → Option α) (text : Option (List Char)) :
    Option α :=
  match text with
  | none => some standard
  | some t => read? t

def ofSource (s : Source) : Except (List String) Settings :=
  let standard : Settings := {}
  let text (name : String) : Option String := (s.get? name).map String.ofList
  let level? (t : List Char) : Option Log.Level := Log.Level.ofName? (String.ofList t)
  match readAs standard.debug truth? (s.get? "DEBUG"),
      readAs standard.logLevel level? (s.get? "LOG_LEVEL") with
  | some debug, some level =>
    .ok { appName := (text "APP_NAME").getD standard.appName
          appVersion := (text "APP_VERSION").getD standard.appVersion
          debug := debug
          logLevel := level
          logFile := text "LOG_FILE"
          messagesPath := text "VALIDATION_MESSAGES_PATH"
          dateFormat := (text "VALIDATION_DEFAULT_DATE_FORMAT").getD standard.dateFormat }
  | debug, level =>
    .error ((if debug.isNone then ["DEBUG"] else []) ++ if level.isNone then ["LOG_LEVEL"] else [])

end FormRules.Settings
