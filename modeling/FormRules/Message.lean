import FormRules.Fault
import FormRules.Text.Cut
import FormRules.Value.Written

namespace FormRules

abbrev Messages := List (String × Value)

namespace Messages

def get? (m : Messages) (key : String) : Option Value := (m.find? fun e => e.1 == key).map (·.2)

def insert : Messages → String → Value → Messages
  | [], k, v => [(k, v)]
  | e :: r, k, v => if e.1 = k then (k, v) :: r else e :: insert r k v

def overlay (base top : Messages) : Messages := top.foldl (fun m e => m.insert e.1 e.2) base

end Messages

namespace Message

def fieldKey (field rule : String) : String := field ++ "." ++ rule

def placeholder (name : String) : List Char := '\x7b' :: name.toList ++ ['\x7d']

def filling : Value → List Char
  | .null => []
  | v => v.chars

def fill (template : List Char) (values : List (String × Value)) : List Char :=
  values.foldl (fun s e => Text.substitute (placeholder e.1) (filling e.2) s) template

def render (template : Value) (values : List (String × Value)) : Except Fault String :=
  match template with
  | .text s => .ok (String.ofList (fill s.toList values))
  | .date _ | .moment _ => .error .messageIsDate
  | _ => .error .messageNotText

/-- The template for a failure: the field's own entry, else the rule's. An absent value counts as
no entry. -/
def template? (m : Messages) (field rule : String) : Option Value :=
  match (m.get? (fieldKey field rule)).filter (!·.isNull) with
  | some t => some t
  | none => (m.get? rule).filter (!·.isNull)

def resolve (m : Messages) (field rule : String) (own : String) (param : Option String) :
    Except Fault String :=
  match template? m field rule with
  | none => .ok own
  | some t =>
    render t [("field", .text field), ("rule", .text rule),
      ("param", (param.map Value.text).getD .null)]

end Message

end FormRules
