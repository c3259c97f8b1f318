import FormRules.Yaml.Node
import FormRules.Yaml.Moment
import FormRules.Text.Base64
import FormRules.Value.Basic

/-! The value of a YAML text. -/

namespace FormRules.Yaml

namespace Node

def complain {α : Type} (n : Node) (problem : String) : Except Fault α :=
  .error (.malformed ⟨none, none, problem, n.start⟩)

def complainWithin {α : Type} (context : String) (start : Mark) (n : Node) (problem : String) :
    Except Fault α :=
  .error (.malformed ⟨some ("while constructing " ++ context), some start, problem, n.start⟩)

def scalarText (named : List Node) : (room : Nat) → Node → Except Fault (List Char)
  | 0, _ => .error .endless
  | room + 1, n =>
    let refused := n.complain ("expected a scalar node, but found " ++ n.kind)
    match n.opened named with
    | .scalar _ _ s => .ok s
    | .mapping _ _ entries =>
      match entries.find? fun e => e.1.tag == .value with
      | some (_, v) => scalarText named room v
      | none => refused
    | _ => refused

/-! ## Merged mappings -/

abbrev Entries := List (Node × Node)

def complainMerge {α : Type} (start : Mark) (n : Node) (wanted : String) : Except Fault α :=
  n.complainWithin "a mapping" start ("expected a " ++ wanted ++ ", but found " ++ n.kind)

/-- The entries that a node adds where it is merged: those of a mapping, or of several, of which the
last comes first. -/
def mergedEntries (named : List Node) (all : Mark → Entries → Except Fault Entries) (start : Mark)
    (n : Node) : Except Fault Entries :=
  match n.opened named with
  | .mapping m _ entries => all m entries
  | .sequence _ _ items => do
    let parts ← items.mapM fun item =>
      match item.opened named with
      | .mapping m _ entries => all m entries
      | item => complainMerge start item "mapping for merging"
    return parts.reverse.flatten
  | n => complainMerge start n "mapping or list of mappings for merging"

/-- The entries of a mapping behind those of the mappings that are merged into it. One that is
merged into itself adds its own ones only. -/
def allEntries (named : List Node) (around : List Mark) :
    (room : Nat) → Mark → Entries → Except Fault Entries
  | 0, _, _ => .error .endless
  | room + 1, start, entries => do
    let (merges, own) := entries.partition fun e => e.1.tag == .merge
    if around.contains start then return own
    let all := allEntries named (start :: around) room
    let merged ← merges.mapM fun e => mergedEntries named all start e.2
    return merged.flatten ++ own

end Node

/-! ## Scalars -/

def truth (s : List Char) : Except Fault Bool :=
  let word := String.ofList (s.map Text.asciiLower)
  if ["yes", "true", "on"].contains word then .ok true
  else if ["no", "false", "off"].contains word then .ok false
  else .error .unknownTruth

def bytesProblem : Text.Base64.Fault → String
  | .loneCharacter before =>
    "failed to decode base64 data: Invalid base64-encoded string: number of data characters (" ++
      Text.decimal (before + 1) ++ ") cannot be 1 more than a multiple of 4"
  | .missingPadding => "failed to decode base64 data: Incorrect padding"

def foreignProblem (s : List Char) : String :=
  let isForeign (c : Char) : Bool := 128 ≤ c.toNat
  let place := (s.takeWhile fun c => !isForeign c).length
  let run := (s.drop place).takeWhile isForeign
  let shown (c : Char) : String :=
    if c.toNat < 0x100 then "\\x" ++ String.ofList (Text.hex 2 c.toNat)
    else if c.toNat < 0x10000 then "\\u" ++ String.ofList (Text.hex 4 c.toNat)
    else "\\U" ++ String.ofList (Text.hex 8 c.toNat)
  let what :=
    match run with
    | [c] => "character '" ++ shown c ++ "' in position " ++ Text.decimal place
    | _ => "characters in position " ++ Text.decimal place ++ "-" ++
        Text.decimal (place + run.length - 1)
  "failed to convert base64 data into ascii: 'ascii' codec can't encode " ++ what ++
    ": ordinal not in range(128)"

def bytes (n : Node) (s : List Char) : Except Fault (List UInt8) :=
  if s.all (·.toNat < 128) then
    match Text.Base64.decode s with
    | .ok bs => .ok bs
    | .error f => n.complain (bytesProblem f)
  else n.complain (foreignProblem s)

def momentValue (s : List Char) : Except Fault Value := do
  match ← Moment.read s with
  | (d, none) => .ok (.date d)
  | (d, some (t, offset)) => .ok (.moment ⟨d, t, offset⟩)

/-! ## Collections -/

structure Flaw where
  room : Nat
  fault : Fault

abbrev Built (α : Type) := Except Flaw α

namespace Built

def of {α : Type} (room : Nat) (a : Except Fault α) : Built α := a.mapError fun f => ⟨room, f⟩

/-- Both of two parts. Of two faults the one nearer to the root shows, and the first if they are at
the same level. -/
def both {α β : Type} : Built α → Built β → Built (α × β)
  | .ok a, .ok b => .ok (a, b)
  | .error f, .error g => .error (if f.room < g.room then g else f)
  | .error f, .ok _ => .error f
  | .ok _, .error g => .error g

end Built

/-- The value of a key, and the node that it has been made from; there is none if it is the one
that has always been there for no number. -/
structure Key where
  value : Value
  made : Option Mark

def Key.same : Key → Key → Bool
  | ⟨.double .nan, m⟩, ⟨.double .nan, m'⟩ => m == m'
  | a, b => a.value.same b.value

abbrev Keyed := List (Key × Value)

def setKey (k : Key) (v : Value) : Keyed → Keyed
  | [] => [(k, v)]
  | e :: r => if e.1.same k then (e.1, v) :: r else e :: setKey k v r

/-- The order in which a set goes through its members. It is not that of the text. -/
structure SetOrder where
  arrange : (start : Mark) → List Value → List Value
  perm : ∀ start members, (arrange start members).Perm members

def SetOrder.asWritten : SetOrder := ⟨fun _ members => members, fun _ _ => .refl _⟩

structure Place where
  order : SetOrder
  named : List Node
  /-- how many levels there are to the values that are each shown on their own -/
  above : Nat
  /-- the collections around, from the one that is shown on -/
  around : List Mark

def Place.inside (p : Place) (start : Mark) : Place :=
  match p.above with
  | 0 => { p with around := start :: p.around }
  | above + 1 => { p with above := above }

def valuesWith (value : Node → Built Value) : List Node → Built (List Value)
  | [] => .ok []
  | n :: r => ((value n).both (valuesWith value r)).map fun (v, vs) => v :: vs

def keyWith (value : Node → Built Value) (room : Nat) (start : Mark) (n : Node) : Built Value :=
  match n with
  | .scalar _ .value s => .ok (.text (String.ofList s))
  | n =>
    if n.tag.isCollection then
      .of room (n.complainWithin "a mapping" start "found unhashable key")
    else value n

def madeAt (named : List Node) (room : Nat) (n : Node) : Option Mark :=
  match n.scalarText named room with
  | .ok s => if namesNan s then none else some (n.opened named).start
  | .error _ => none

def entriesWith (named : List Node) (value : Node → Built Value) (room : Nat) (start : Mark) :
    List (Node × Node) → Built Keyed
  | [] => .ok []
  | (k, v) :: r =>
    (((keyWith value room start k).both (value v)).both
      (entriesWith named value room start r)).map
        fun (e, es) => (⟨e.1, madeAt named room k⟩, e.2) :: es

def pairsWith (named : List Node) (value : Node → Built Value) (room : Nat) (context : String)
    (start : Mark) : List Node → Built (List Value)
  | [] => .ok []
  | n :: r =>
    match n.opened named with
    | .mapping _ _ [(k, v)] =>
      (((value k).both (value v)).both (pairsWith named value room context start r)).map
        fun ((key, item), items) => .pair key item :: items
    | .mapping _ _ entries =>
      .of room (n.complainWithin context start
        ("expected a single mapping item, but found " ++ Text.decimal entries.length ++ " items"))
    | n =>
      .of room (n.complainWithin context start
        ("expected a mapping of length 1, but found " ++ n.kind))

def itemsOf (value : Node → Built Value) (room : Nat) : Node → Built (List Value)
  | .sequence _ _ items => valuesWith value items
  | n => .of room (n.complain ("expected a sequence node, but found " ++ n.kind))

def pairsOf (named : List Node) (value : Node → Built Value) (room : Nat) (context : String) :
    Node → Built (List Value)
  | .sequence start _ items => pairsWith named value room context start items
  | n => .of room (n.complainWithin context n.start ("expected a sequence, but found " ++ n.kind))

/-- The entries of a node that has to be a mapping. Of equal keys the first keeps its place and the
last its value. -/
def entriesOf (named : List Node) (value : Node → Built Value) (room : Nat) :
    Node → Built (List (Value × Value))
  | .mapping start _ entries => do
    let all ← Built.of room (Node.allEntries named [] room start entries)
    let built ← entriesWith named value room start all
    return (built.foldl (fun done e => setKey e.1 e.2 done) []).map fun e => (e.1.value, e.2)
  | n => .of room (n.complain ("expected a mapping node, but found " ++ n.kind))

def scalarValue (named : List Node) (room : Nat) (n : Node) : Except Fault Value := do
  let s ← n.scalarText named room
  match n.tag with
  | .null => return .null
  | .bool => return .bool (← truth s)
  | .int => return .int (← readInt s)
  | .float => return .double (← readFloat s)
  | .binary => return .bytes (← bytes n s)
  | .timestamp => momentValue s
  | _ => return .text (String.ofList s)

/-- The value of a node in a tree that may have so many levels. A collection that is met inside of
itself is only named there. A collection is there before what it holds, so its own faults show a
level below those of scalars. -/
def valueWithin : (room : Nat) → Place → Node → Built Value
  | 0, _, _ => .error ⟨0, .endless⟩
  | room + 1, p, n =>
    let n := n.opened p.named
    let value := valueWithin room (p.inside n.start)
    if n.tag.isCollection && p.around.contains n.start then .ok (.again (n.tag == .map))
    else match n.tag with
    | .null | .bool | .int | .float | .binary | .timestamp | .str =>
      .of (room + 1) (scalarValue p.named room n)
    | .seq => (itemsOf value room n).map .list
    | .map => (entriesOf p.named value room n).map .mapping
    | .set => (entriesOf p.named value room n).map fun entries =>
      .set (p.order.arrange n.start (entries.map (·.1)))
    | .omap => (pairsOf p.named value room "an ordered map" n).map .list
    | .pairs => (pairsOf p.named value room "pairs" n).map .list
    | .merge | .value | .other _ =>
      .of (room + 1) (n.complain
        ("could not determine a constructor for the tag " ++ Text.quotedText n.tag.fullName))

/-- The value of a tree. Its sections are looked into one by one, and what they hold is shown each
on its own. A tree of some tokens has fewer levels than tokens, and inside of a collection no level
is met again. -/
def Tree.value (order : SetOrder) (t : Tree) (tokens : Nat) : Except Fault Value :=
  let room := (tokens + 2) * (tokens + 3)
  (valueWithin room ⟨order, t.named, 2, []⟩ t.root).mapError (·.fault)

def checkCharacters (s : List Char) : Except Fault Unit :=
  match s.find? fun c => !isAllowed c with
  | some c => .error (.unacceptable c (s.takeWhile isAllowed).length)
  | none => .ok ()

def read (order : SetOrder) (s : List Char) : Except Fault Value := do
  checkCharacters s
  let tokens := Placed.ofChars s
  match ← Tree.ofTokens tokens with
  | none => .ok .null
  | some t => t.value order tokens.length

end FormRules.Yaml
