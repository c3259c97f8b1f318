import FormRules.Text.Pattern

namespace FormRules.Yaml

open Text (Pattern CharSet)

inductive Tag
  | null
  | bool
  | int
  | float
  | binary
  | timestamp
  | omap
  | pairs
  | set
  | str
  | seq
  | map
  /-- a key whose value is merged into its mapping -/
  | merge
  /-- a key whose value stands for its mapping -/
  | value
  | other (name : String)
  deriving DecidableEq, Repr

namespace Tag

def common : String := "tag:yaml.org,2002:"

def names : List (String × Tag) :=
  [("null", .null), ("bool", .bool), ("int", .int), ("float", .float), ("binary", .binary),
   ("timestamp", .timestamp), ("omap", .omap), ("pairs", .pairs), ("set", .set), ("str", .str),
   ("seq", .seq), ("map", .map), ("merge", .merge), ("value", .value)]

def ofName (name : String) : Tag :=
  ((names.find? fun e => common ++ e.1 == name).map (·.2)).getD (.other name)

def fullName : Tag → String
  | .other name => name
  | tag => common ++ ((names.find? fun e => e.2 == tag).map (·.1)).getD ""

def isCollection : Tag → Bool
  | .seq | .map | .set | .omap | .pairs => true
  | _ => false

/-! ## Forms -/

def anyOf : List Pattern → Pattern
  | [] => .never
  | [p] => p
  | p :: ps => .either p (anyOf ps)

def words (s : List String) : Pattern := anyOf (s.map fun w => .text w.toList)

def oneOf (s : String) : Pattern := .one (.among s.toList)

def digit : Pattern := .one .asciiDigit

def spaced : Pattern := .one (.union .asciiDigit (.among ['_']))

def sign : Pattern := .opt (oneOf "+-")

def sixtieth : Pattern := .inOrder [.char ':', .opt (oneOf "012345"), digit]

def boolForm : Pattern :=
  words ["yes", "Yes", "YES", "no", "No", "NO", "true", "True", "TRUE", "false", "False", "FALSE",
    "on", "On", "ON", "off", "Off", "OFF"]

def intForm : Pattern :=
  .seq sign (anyOf
    [.seq (.text "0b".toList) (.plus (oneOf "01_")),
     .seq (.char '0') (.plus (oneOf "01234567_")),
     .char '0',
     .inOrder [oneOf "123456789", .many spaced, .many sixtieth],
     .seq (.text "0x".toList) (.plus (oneOf "0123456789abcdefABCDEF_"))])

def exponent : Pattern := .opt (.inOrder [oneOf "eE", oneOf "+-", .plus digit])

def floatForm : Pattern :=
  anyOf
    [.inOrder [sign, digit, .many spaced, .char '.', .many spaced, exponent],
     .inOrder [.char '.', digit, .many spaced, exponent],
     .inOrder [sign, digit, .many spaced, .plus sixtieth, .char '.', .many spaced],
     .inOrder [sign, words [".inf", ".Inf", ".INF"]],
     words [".nan", ".NaN", ".NAN"]]

def nullForm : Pattern := words ["", "~", "null", "Null", "NULL"]

def blank : Pattern := oneOf " \t"

def clockForm : Pattern :=
  .inOrder
    [.either (oneOf "Tt") (.plus blank), digit, .opt digit, .char ':', digit, digit,
     .char ':', digit, digit, .opt (.seq (.char '.') (.many digit)),
     .opt (.seq (.many blank) (.either (.char 'Z')
       (.inOrder [oneOf "+-", digit, .opt digit, .opt (.inOrder [.char ':', digit, digit])])))]

def year : Pattern := .times 4 digit

def timestampForm : Pattern :=
  .either
    (.inOrder [year, .char '-', digit, digit, .char '-', digit, digit])
    (.inOrder [year, .char '-', digit, .opt digit, .char '-', digit, .opt digit, clockForm])

def forms : List (Tag × Pattern) :=
  [(.bool, boolForm), (.float, floatForm), (.int, intForm), (.merge, .text "<<".toList),
   (.null, nullForm), (.timestamp, timestampForm), (.value, .char '='),
   (.other (common ++ "yaml"), oneOf "!&*")]

def withoutLastBreak (s : List Char) : List Char :=
  if s.getLast? = some '\n' ∧ s ≠ ['\n'] then s.dropLast else s

def ofForm (s : List Char) : Tag :=
  let s := withoutLastBreak s
  ((forms.find? fun e => e.2.accepts s).map (·.1)).getD .str

end Tag

end FormRules.Yaml
