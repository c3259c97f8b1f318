import FormRules.Number.Basic
import FormRules.Calendar.DateTime

namespace FormRules

inductive ExtendedDecimal
  | finite (d : Decimal)
  | infinite (negative : Bool)
  | nan
  deriving DecidableEq

inductive Value
  | null
  | bool (b : Bool)
  | int (n : Int)
  | double (d : Double)
  | decimal (d : ExtendedDecimal)
  | text (s : String)
  | bytes (bs : List UInt8)
  | date (d : Date)
  | moment (t : DateTime)
  | list (items : List Value)
  | pair (a b : Value)
  | set (members : List Value)
  | mapping (entries : List (Value × Value))
  /-- a list or a mapping inside of itself -/
  | again (isMapping : Bool)

instance : Inhabited Value := ⟨.null⟩

inductive Quantity
  | finite (q : Rat)
  | infinite (negative : Bool)
  deriving DecidableEq

namespace Value

def quantity? : Value → Option Quantity
  | .bool b => some (.finite (if b then 1 else 0))
  | .int n => some (.finite n)
  | .double .nan => none
  | .double (.infinite s) => some (.infinite s)
  | .double d => some (.finite d.exact)
  | .decimal (.finite d) => some (.finite d.exact)
  | .decimal (.infinite s) => some (.infinite s)
  | _ => none

/-- Moments without a zone are equal if the clock shows the same, moments with a zone if they are
the same instant. -/
def sameMoment (a b : DateTime) : Bool :=
  a.offset.isSome == b.offset.isSome && a.instant == b.instant

mutual

/-- Numbers of all kinds are compared exactly, lists item by item, sets and mappings without regard
to order. What is no number equals nothing, not even itself. -/
def same : Value → Value → Bool
  | .null, .null => true
  | .text a, .text b => a == b
  | .bytes a, .bytes b => a == b
  | .date a, .date b => a == b
  | .moment a, .moment b => sameMoment a b
  | .list a, .list b => sameItems a b
  | .pair a b, .pair c d => a.same c && b.same d
  | .set a, .set b => a.length == b.length && membersWithin a b
  | .mapping a, .mapping b => a.length == b.length && entriesWithin a b
  | a, b =>
    match a.quantity?, b.quantity? with
    | some p, some q => p == q
    | _, _ => false

def sameItems : List Value → List Value → Bool
  | [], [] => true
  | a :: as, b :: bs => a.same b && sameItems as bs
  | _, _ => false

def membersWithin : List Value → List Value → Bool
  | [], _ => true
  | v :: r, b => (b.any fun w => v.same w) && membersWithin r b

def entriesWithin : List (Value × Value) → List (Value × Value) → Bool
  | [], _ => true
  | (k, v) :: r, b => (b.any fun e => k.same e.1 && v.same e.2) && entriesWithin r b

end

def isFalsy : Value → Bool
  | .null => true
  | .bool b => !b
  | .text s => s.isEmpty
  | .bytes bs => bs.isEmpty
  | .list items | .set items => items.isEmpty
  | .mapping entries => entries.isEmpty
  | .date _ | .moment _ | .pair _ _ | .again _ => false
  | v => v.quantity? == some (.finite 0)

def isNull : Value → Bool
  | .null => true
  | _ => false

def isEmptyText : Value → Bool
  | .text s => s.isEmpty
  | _ => false

end Value

end FormRules
