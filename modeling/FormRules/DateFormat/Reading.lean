import FormRules.DateFormat.Strict
import FormRules.Calendar.DateTime
import FormRules.Fault
import FormRules.Text.Blank

namespace FormRules.DateFormat

def monthNames : List (List Char) :=
  ["january", "february", "march", "april", "may", "june", "july", "august", "september",
    "october", "november", "december"].map String.toList

def shortMonthNames : List (List Char) := monthNames.map (·.take 3)

abbrev Shape := List (Char → Bool)

def Shape.fits : Shape → List Char → Bool
  | [], _ => true
  | _ :: _, [] => false
  | p :: ps, c :: s => p c && Shape.fits ps s

def is (c d : Char) : Bool := c == d

def within (lo hi : Char) (c : Char) : Bool := lo ≤ c && c ≤ hi

def word (w : List Char) : Shape := w.map Text.sameLetter

def words (ws : List (List Char)) : List Shape :=
  ([9, 8, 7, 6, 5, 4, 3, 2].flatMap fun n => ws.filter (·.length == n)).map word

def Directive.shapes : Directive → List Shape
  | .year => [List.replicate 4 Text.isDigit]
  | .shortYear => [List.replicate 2 Text.isDigit]
  | .monthName => words monthNames
  | .shortMonthName => words shortMonthNames
  | .month => [[is '1', within '0' '2'], [is '0', within '1' '9'], [within '1' '9']]
  | .day => [[is '3', within '0' '1'], [within '1' '2', Text.isDigit], [is '0', within '1' '9'],
      [within '1' '9'], [is ' ', within '1' '9']]
  | .hour => [[is '2', within '0' '3'], [within '0' '1', Text.isDigit], [Text.isDigit]]
  | .halfDayHour => [[is '1', within '0' '2'], [is '0', within '1' '9'], [within '1' '9']]
  | .minute => [[within '0' '5', Text.isDigit], [Text.isDigit]]
  | .second => [[is '6', within '0' '1'], [within '0' '5', Text.isDigit], [Text.isDigit]]
  | .fraction => [6, 5, 4, 3, 2, 1].map fun n => List.replicate n Text.isAsciiDigit
  | .halfDay => [word ['a', 'm'], word ['p', 'm']]

def Directive.lengths (d : Directive) (s : List Char) : List Nat :=
  (d.shapes.filter fun p => p.fits s).map List.length

inductive Step
  | field (d : Directive)
  | char (c : Char)
  | blanks
  deriving DecidableEq

def steps : List Element → List Step
  | [] => []
  | .field d :: es => .field d :: steps es
  | .char c :: es =>
    if Text.isBlank c then
      match steps es with
      | .blanks :: r => .blanks :: r
      | r => .blanks :: r
    else .char c :: steps es

abbrev Parts := List (Directive × List Char)

def readSteps? : List Step → List Char → Option (Parts × List Char)
  | [], s => some ([], s)
  | .char c :: ps, d :: s => if Text.sameLetter c d then readSteps? ps s else none
  | .char _ :: _, [] => none
  | .blanks :: ps, s =>
    let k := (s.takeWhile Text.isBlank).length
    ((List.range k).map (k - ·)).findSome? fun n => readSteps? ps (s.drop n)
  | .field d :: ps, s =>
    (d.lengths s).findSome? fun n =>
      (readSteps? ps (s.drop n)).map fun (fs, r) => ((d, s.take n) :: fs, r)

structure Fields where
  year : Int := 1900
  month : Int := 1
  day : Int := 1
  hour : Int := 0
  minute : Int := 0
  second : Int := 0
  micro : Int := 0

/-- Two-digit years are those from 1969 to 2068. -/
def fullYear (n : Nat) : Nat := if n ≤ 68 then 2000 + n else 1900 + n

/-- The hour of the day on a clock of twelve hours; without a mark it is before noon. -/
def hourOfDay (hour : Nat) (mark : List Char) : Nat :=
  if mark = ['p', 'm'] then if hour = 12 then 12 else hour + 12
  else if (mark = ['a', 'm'] ∨ mark = []) ∧ hour = 12 then 0
  else hour

def nameIndex? (names : List (List Char)) (s : List Char) : Option Int :=
  (names.findIdx? (· == s.map Text.asciiLower)).map fun i => (i : Int) + 1

def Fields.set? (f : Fields) (mark : List Char) : Directive × List Char → Option Fields
  | (.year, s) => some { f with year := Text.digitsValue s }
  | (.shortYear, s) => some { f with year := fullYear (Text.digitsValue s) }
  | (.monthName, s) => (nameIndex? monthNames s).map fun m => { f with month := m }
  | (.shortMonthName, s) => (nameIndex? shortMonthNames s).map fun m => { f with month := m }
  | (.month, s) => some { f with month := Text.digitsValue s }
  | (.day, s) => some { f with day := Text.digitsValue s }
  | (.hour, s) => some { f with hour := Text.digitsValue s }
  | (.halfDayHour, s) => some { f with hour := hourOfDay (Text.digitsValue s) mark }
  | (.minute, s) => some { f with minute := Text.digitsValue s }
  | (.second, s) => some { f with second := Text.digitsValue s }
  | (.fraction, s) =>
    some { f with micro := Text.digitsValue (s ++ List.replicate (6 - s.length) '0') }
  | (.halfDay, _) => some f

def moment? (parts : Parts) : Option DateTime := do
  let mark := ((parts.find? (·.1 == .halfDay)).map fun p => p.2.map Text.asciiLower).getD []
  let f ← parts.foldlM (fun f p => f.set? mark p) ({} : Fields)
  DateTime.of? f.year f.month f.day f.hour f.minute f.second f.micro none

def read? (es : List Element) (s : List Char) : Option DateTime :=
  match readSteps? (steps es) s with
  | some (parts, []) => moment? parts
  | _ => none

def directives (es : List Element) : List Directive :=
  es.filterMap fun e => match e with
    | .field d => some d
    | .char _ => none

/-- The moment that a text writes in a format: the text has the exact shape of the format, and its
parts make up a moment. A format that gives a part twice cannot be read by. -/
def parse (format : String) (s : String) : Except Fault (Option DateTime) :=
  let ps := pieces format
  if fits ps s.toList then
    if (directives (elements ps)).Nodup then .ok (read? (elements ps) s.toList)
    else .error .repeatedDirective
  else .ok none

end FormRules.DateFormat
