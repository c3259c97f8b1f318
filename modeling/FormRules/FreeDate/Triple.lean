import FormRules.FreeDate.Quantity
import FormRules.Calendar.Date
import FormRules.Text.Letter

namespace FormRules.FreeDate

inductive Label
  | year
  | month
  deriving DecidableEq, Repr

structure Triple where
  values : List Int := []
  yearAt : Option Nat := none
  monthAt : Option Nat := none
  /-- some number can only be a year written in full -/
  fullYear : Bool := false
  deriving Repr

namespace Triple

def push (t : Triple) (n : Int) : Option Label → Except Stop Triple
  | none => .ok { t with values := t.values ++ [n] }
  | some .year =>
    if t.yearAt.isSome then .error .noDate
    else .ok { t with values := t.values ++ [n], yearAt := some t.values.length }
  | some .month =>
    if t.monthAt.isSome then .error .noDate
    else .ok { t with values := t.values ++ [n], monthAt := some t.values.length }

def allDigits (s : List Char) : Bool := s ≠ [] && s.all Text.isDigitLike

def pushText (t : Triple) (s : List Char) (label : Option Label) : Except Stop Triple :=
  let isFull := allDigits s && 2 < s.length
  match Integer.read? s with
  | none => .error .noDate
  | some n =>
    { t with fullYear := t.fullYear || isFull }.push n (if isFull then some .year else label)

def pushDecimal (t : Triple) (d : Decimal) : Except Stop Triple :=
  let isFull : Bool := 100 < d.exact
  { t with fullYear := t.fullYear || isFull }.push (wholePart d)
    (if isFull then some .year else none)

def couldBeDay (t : Triple) (d : Decimal) : Bool :=
  let most : Nat :=
    match t.monthAt.bind (t.values[·]?) with
    | none => 31
    | some m =>
      let year := (t.yearAt.bind (t.values[·]?)).getD 2000
      Calendar.daysInMonth year.toNat m.toNat
  1 ≤ d.exact && d.exact ≤ (most : Rat)

structure Resolved where
  year : Option Int := none
  month : Option Int := none
  day : Option Int := none
  deriving Repr

def yearOrDay (month : Option Int) (n : Int) : Resolved :=
  if 31 < n then ⟨some n, month, none⟩ else ⟨none, month, some n⟩

def twoNumbers (a b : Int) : Resolved :=
  if 31 < a then ⟨some a, some b, none⟩
  else if 31 < b then ⟨some b, some a, none⟩
  else ⟨none, some a, some b⟩

def threeNumbers (monthAt : Option Nat) (a b c : Int) : Resolved :=
  match monthAt with
  | some 0 => if 31 < b then ⟨some b, some a, some c⟩ else ⟨some c, some a, some b⟩
  | some 1 => if 31 < a then ⟨some a, some b, some c⟩ else ⟨some c, some b, some a⟩
  | some _ => if 31 < b then ⟨some b, some c, some a⟩ else ⟨some a, some c, some b⟩
  | none =>
    if 31 < a then ⟨some a, some b, some c⟩
    else if 12 < a then ⟨some c, some b, some a⟩
    else ⟨some c, some a, some b⟩

/-- Which number is which. If the places of all but one are known, so is the last one; at most three
numbers make a date. -/
def resolve (t : Triple) : Except Stop Resolved :=
  match t.values, t.yearAt, t.monthAt with
  | [], _, _ => .ok {}
  | [a], some _, _ => .ok ⟨some a, none, none⟩
  | [a], none, some _ => .ok ⟨none, some a, none⟩
  | [a], none, none => .ok (yearOrDay none a)
  | [a, b], some 0, some _ => .ok ⟨some a, some b, none⟩
  | [a, b], some _, some _ => .ok ⟨some b, some a, none⟩
  | [a, b], none, some 0 => .ok (yearOrDay (some a) b)
  | [a, b], none, some _ => .ok (yearOrDay (some b) a)
  | [a, b], _, none => .ok (twoNumbers a b)
  | [a, b, c], some y, some m =>
    let nth (i : Nat) := if i = 0 then a else if i = 1 then b else c
    .ok ⟨some (nth y), some (nth m), some (nth (3 - y - m))⟩
  | [a, b, c], some 0, none => .ok ⟨some a, some b, some c⟩
  | [a, b, c], _, m => .ok (threeNumbers m a b c)
  | _, _, _ => .error .noDate

end Triple

end FormRules.FreeDate
