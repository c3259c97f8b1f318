import FormRules.Value.Basic
import FormRules.Number.Integer
import FormRules.Number.Shortest
import FormRules.Text.Quoted

/-! Values as text. A text stands for itself on its own and is quoted inside of another value. Not
every value is written: an integer may have too many digits, and a value too many levels. -/

namespace FormRules

def ExtendedDecimal.chars : ExtendedDecimal → List Char
  | .finite d => d.chars
  | .infinite s => if s then "-Infinity".toList else "Infinity".toList
  | .nan => "NaN".toList

inductive Unwritable
  | tooLong
  | tooDeep
  deriving DecidableEq, Repr

namespace Value

def listed : List (List Char) → List Char
  | [] => []
  | [p] => p
  | p :: ps => p ++ ',' :: ' ' :: listed ps

def call (name : String) (arguments : List (List Char)) : List Char :=
  name.toList ++ '(' :: listed arguments ++ [')']

def offsetExpression (seconds : Int) : List Char :=
  if seconds = 0 then "datetime.timezone.utc".toList
  else
    let days := seconds.fdiv 86400
    let rest := seconds.fmod 86400
    let amount (name : String) (n : Int) := name.toList ++ '=' :: Text.intDigits n
    call "datetime.timezone"
      [call "datetime.timedelta"
        ((if days = 0 then [] else [amount "days" days]) ++
          (if rest = 0 then [] else [amount "seconds" rest]))]

def dateExpression (d : Date) : List Char :=
  call "datetime.date" [Text.natDigits d.year, Text.natDigits d.month, Text.natDigits d.day]

/-- Seconds and microseconds are left out when they and all that follows are zero. -/
def momentExpression (t : DateTime) : List Char :=
  let parts := [t.date.year, t.date.month, t.date.day, t.time.hour, t.time.minute] ++
    (if t.time.micro ≠ 0 then [t.time.second, t.time.micro]
     else if t.time.second ≠ 0 then [t.time.second] else [])
  call "datetime.datetime" (parts.map Text.natDigits ++
    (t.offset.map fun o => "tzinfo=".toList ++ offsetExpression o).toList)

mutual

/-- A value as it is shown inside of another one. A set shows its members in the order in which it
goes through them. -/
def expression : Value → List Char
  | .null => "None".toList
  | .bool b => if b then "True".toList else "False".toList
  | .int n => Text.intDigits n
  | .double d => d.chars
  | .decimal d => call "Decimal" [Text.quoted d.chars]
  | .text s => Text.quoted s.toList
  | .bytes bs => Text.quotedBytes bs
  | .date d => dateExpression d
  | .moment t => momentExpression t
  | .list items => '[' :: listed (itemExpressions items) ++ [']']
  | .pair a b => '(' :: listed [a.expression, b.expression] ++ [')']
  | .set [] => "set()".toList
  | .set members => '\x7b' :: listed (itemExpressions members) ++ ['\x7d']
  | .mapping entries => '\x7b' :: listed (entryExpressions entries) ++ ['\x7d']
  | .again isMapping => if isMapping then "\x7b...\x7d".toList else "[...]".toList

def itemExpressions : List Value → List (List Char)
  | [] => []
  | v :: r => v.expression :: itemExpressions r

def entryExpressions : List (Value × Value) → List (List Char)
  | [] => []
  | (k, v) :: r => (k.expression ++ ':' :: ' ' :: v.expression) :: entryExpressions r

end

def chars : Value → List Char
  | .text s => s.toList
  | .decimal d => d.chars
  | .date d => d.chars
  | .moment t => t.chars ' '
  | v => v.expression

/-- The text of a value, if it has one: see `refusal?`. -/
def written (v : Value) : String := String.ofList v.chars

/-! ## Values that are not written -/

def offsetLevels (t : DateTime) : Nat :=
  match t.offset with
  | none => 0
  | some 0 => 1
  | some _ => 2

mutual

/-- What stands in the way of showing a value inside of another one, with room for so many levels.
A set is shown as the list of its members, which takes a level more. -/
def expressionRefusal? : Value → (room : Nat) → Option Unwritable
  | _, 0 => some .tooDeep
  | .int n, _ + 1 => if Integer.isLong n then some .tooLong else none
  | .moment t, room + 1 => if room < offsetLevels t then some .tooDeep else none
  | .list items, room + 1 => itemsRefusal? items room
  | .pair a b, room + 1 => (a.expressionRefusal? room).or (b.expressionRefusal? room)
  | .set members, room + 1 => itemsRefusal? members (room - 1)
  | .mapping entries, room + 1 => entriesRefusal? entries room
  | _, _ + 1 => none

def itemsRefusal? : List Value → (room : Nat) → Option Unwritable
  | [], _ => none
  | v :: r, room => (v.expressionRefusal? room).or (itemsRefusal? r room)

def entriesRefusal? : List (Value × Value) → (room : Nat) → Option Unwritable
  | [], _ => none
  | (k, v) :: r, room =>
    ((k.expressionRefusal? room).or (v.expressionRefusal? room)).or (entriesRefusal? r room)

end

/-- What stands in the way of writing a value. A text is there already; dates and moments take more
levels on their own than inside of another value. -/
def refusal? (v : Value) (room : Nat) : Option Unwritable :=
  match v with
  | .text _ => none
  | .date _ => if room < 2 then some .tooDeep else none
  | .moment t => if room < (if t.offset.isSome then 3 else 2) then some .tooDeep else none
  | v => v.expressionRefusal? room

end Value

end FormRules
