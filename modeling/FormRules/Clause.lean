import FormRules.Text.Blank
import FormRules.Text.Cut

/-! Rule strings. A rule string is a list of clauses between bars; a clause is the name of a rule
and, after the first colon, its parameter. -/

namespace FormRules

structure Clause where
  name : String
  param : Option String
  deriving DecidableEq, Repr

namespace Clause

/-- Blanks around the clause and around the name go; those around the colon belong to the
parameter. -/
def ofChars (s : List Char) : Clause :=
  match Text.cut ':' (Text.trim s) with
  | none => ⟨String.ofList (Text.trim s), none⟩
  | some (name, param) => ⟨String.ofList (Text.trim name), some (String.ofList param)⟩

def read (s : String) : Clause := ofChars s.toList

def readAll (spec : String) : List Clause :=
  ((Text.pieces '|' spec.toList).filter fun p => !Text.isBlankText p).map ofChars

def chars (c : Clause) : List Char :=
  match c.param with
  | none => c.name.toList
  | some p => c.name.toList ++ ':' :: p.toList

def write (cs : List Clause) : String := String.ofList (Text.join '|' (cs.map chars))

def mentions (cs : List Clause) (name : String) : Bool := cs.any fun c => c.name == name

end Clause

end FormRules
