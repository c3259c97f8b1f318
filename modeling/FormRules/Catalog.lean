import FormRules.Log
import FormRules.Message
import FormRules.Text.Break
import FormRules.Yaml.Document

/-! The message catalog: a YAML file with a section of messages and one of options that hold for all
messages. A loader keeps the catalog that it read last. -/

namespace FormRules

/-- What the text of a value depends on besides the value. -/
structure Runtime where
  order : Yaml.SetOrder
  room : Nat

/-- What may be left of a thousand levels, and sets in the order of the text. -/
def Runtime.usual : Runtime := ⟨.asWritten, 960⟩

inductive File
  | missing
  /-- bytes that are no text -/
  | undecodable
  /-- a folder, which cannot be read -/
  | folder
  | text (s : List Char)

namespace File

def ofString (s : String) : File := .text (Text.plainBreaks s.toList)

def ofBytes (bytes : ByteArray) : File :=
  match String.fromUTF8? bytes with
  | some s => ofString s
  | none => .undecodable

end File

structure Catalog where
  entries : List (Value × Value)

namespace Catalog

inductive ShapeFault
  | notMapping
  | globalNotMapping
  | formatNotText
  | messagesNotMapping
  deriving DecidableEq, Repr

inductive Fault
  | yaml (fault : Yaml.Fault)
  | undecodable
  | folder
  | shape (fault : ShapeFault) (path : String)
  /-- a key or a message that is not written -/
  | unwritable (reason : Unwritable)
  deriving DecidableEq, Repr

def ShapeFault.message (path : String) : ShapeFault → String
  | .notMapping => "Validation config must be a mapping: " ++ path
  | .globalNotMapping => "Section 'global' must be a mapping in " ++ path
  | .formatNotText => "'global.default_date_format' must be a non-empty string in " ++ path
  | .messagesNotMapping => "Section 'messages' must be a mapping in " ++ path

def withoutFile : Catalog := ⟨[(.text "global", .mapping []), (.text "messages", .mapping [])]⟩

def lookup (key : String) (entries : List (Value × Value)) : Value :=
  ((entries.find? fun e => e.1.same (.text key)).map (·.2)).getD .null

def section? : Value → Option (List (Value × Value))
  | .null => some []
  | .mapping entries => some entries
  | _ => none

def isFormat : Value → Bool
  | .null => true
  | .text s => !s.isEmpty
  | _ => false

/-- The catalog of a document. An empty document of any kind is an empty catalog. -/
def ofValue (v : Value) : Except ShapeFault Catalog :=
  match if v.isFalsy then .mapping [] else v with
  | .mapping entries =>
    match section? (lookup "global" entries) with
    | none => .error .globalNotMapping
    | some options =>
      if !isFormat (lookup "default_date_format" options) then .error .formatNotText
      else if (section? (lookup "messages" entries)).isNone then .error .messagesNotMapping
      else .ok ⟨entries⟩
  | _ => .error .notMapping

def options (c : Catalog) : List (Value × Value) := (section? (lookup "global" c.entries)).getD []

def dateFormat? (c : Catalog) : Option String :=
  match lookup "default_date_format" c.options with
  | .text s => some s
  | _ => none

def words (c : Catalog) : List (Value × Value) :=
  (section? (lookup "messages" c.entries)).getD []

/-- The messages as texts. Of keys with the same text the first keeps its place and the last its
message. -/
def messages (c : Catalog) : Messages :=
  c.words.foldl (fun m e => m.insert e.1.written (.text e.2.written)) []

def refusal? (c : Catalog) (room : Nat) : Option Unwritable :=
  c.words.findSome? fun e => (e.1.refusal? room).or (e.2.refusal? room)

def writable (c : Catalog) (room : Nat) : Except Fault Catalog :=
  match c.refusal? room with
  | none => .ok c
  | some reason => .error (.unwritable reason)

/-! ## Files -/

def ofFile (r : Runtime) (path : String) : File → Except Fault Catalog
  | .missing => .ok withoutFile
  | .undecodable => .error .undecodable
  | .folder => .error .folder
  | .text s =>
    match Yaml.read r.order s with
    | .error f => .error (.yaml f)
    | .ok v =>
      match ofValue v with
      | .ok c => .ok c
      | .error f => .error (.shape f path)

def loggerName : String := "modules.validation.core.config_loader"

def readingEntries (r : Runtime) (path : String) (file : File) : List Log.Entry :=
  match file, ofFile r path file with
  | .missing, _ =>
    [⟨.warning, loggerName, "Validation config file not found: " ++ path ++
      ". Using default configuration."⟩]
  | _, .ok _ => [⟨.info, loggerName, "Loaded validation config from: " ++ path⟩]
  | _, .error (.yaml f) =>
    ((f.text? path).map fun text =>
      (⟨.error, loggerName, "Failed to parse validation config: " ++ text⟩ : Log.Entry)).toList
  | _, .error _ => []

def shippedPath : String := "config/validation/messages.yaml"

def shipped : File := .ofString "global: \x7b\x7d\nmessages: \x7b\x7d\n"

/-- A path without the steps that stay where they are. Two slashes in front are a root of their own,
and any other number of them is one. -/
def plainPath (path : String) : String :=
  let steps := (Text.pieces '/' path.toList).filter fun p => !p.isEmpty && p != ['.']
  let root := match (path.toList.takeWhile (· == '/')).length with
    | 0 => []
    | 2 => ['/', '/']
    | _ => ['/']
  match root ++ Text.join '/' steps with
  | [] => "."
  | s => String.ofList s

/-- Only steps that stay where they are or go up: there is a folder at every such path. -/
def isAboveHere (path : String) : Bool :=
  (Text.pieces '/' path.toList).all fun p => p.all (· == '.') && p.length ≤ 2

def pathOf (given setting : Option String) : String :=
  match given.or (setting.filter fun p => !p.isEmpty) with
  | some p => plainPath p
  | none => shippedPath

/-! ## Loaders -/

structure Loader where
  path : String
  kept : Option Catalog

structure Answer (α : Type) where
  result : Except Fault α
  loader : Loader
  log : List Log.Entry

namespace Loader

def load (l : Loader) (file : File) (r : Runtime) : Answer Catalog :=
  match ofFile r l.path file with
  | .ok c => ⟨.ok c, { l with kept := some c }, readingEntries r l.path file⟩
  | .error f => ⟨.error f, l, readingEntries r l.path file⟩

def reload (l : Loader) (file : File) (r : Runtime) : Answer Catalog :=
  load { l with kept := none } file r

def catalog (l : Loader) (file : File) (r : Runtime) : Answer Catalog :=
  match l.kept with
  | some c => ⟨.ok c, l, []⟩
  | none => l.load file r

/-- What is made of the catalog, or why it is not. The loader keeps the catalog either way. -/
def part {α : Type} (l : Loader) (file : File) (r : Runtime) (f : Catalog → Except Fault α) :
    Answer α :=
  let a := l.catalog file r
  ⟨a.result.bind f, a.loader, a.log⟩

def messages (l : Loader) (file : File) (r : Runtime) : Answer Messages :=
  l.part file r fun c => (c.writable r.room).map (·.messages)

def options (l : Loader) (file : File) (r : Runtime) : Answer (List (Value × Value)) :=
  l.part file r fun c => .ok c.options

def dateFormat? (l : Loader) (file : File) (r : Runtime) : Answer (Option String) :=
  l.part file r fun c => .ok c.dateFormat?

end Loader

end Catalog

end FormRules
