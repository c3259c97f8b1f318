import FormRules.Yaml.Layout
import FormRules.Yaml.Tag

namespace FormRules.Yaml

inductive Node
  | scalar (start : Mark) (tag : Tag) (text : List Char)
  | sequence (start : Mark) (tag : Tag) (items : List Node)
  | mapping (start : Mark) (tag : Tag) (entries : List (Node × Node))
  | again (start : Mark) (tag : Tag)

namespace Node

def start : Node → Mark
  | .scalar m .. | .sequence m .. | .mapping m .. | .again m _ => m

def tag : Node → Tag
  | .scalar _ t _ | .sequence _ t _ | .mapping _ t _ | .again _ t => t

def kind : Node → String
  | .scalar .. => "scalar"
  | .sequence .. => "sequence"
  | .mapping .. => "mapping"
  | .again .. => "collection"

def absent (m : Mark) : Node := .scalar m .null []

instance : Inhabited Node := ⟨absent ⟨0, 0⟩⟩

/-- A node that stands for a collection around it is that collection, which is one of those with
names. -/
def opened (named : List Node) : Node → Node
  | .again m t => (named.find? fun n => n.start == m).getD (.again m t)
  | n => n

end Node

structure Unfinished where
  name : String
  start : Mark
  tag : Tag

structure Composer where
  tokens : List Placed
  anchors : List (String × Node)
  unfinished : List Unfinished
  levels : Nat

abbrev Composing := StateT Composer (Except Fault)

namespace Composing

abbrev Handles := List (String × String)

def standardHandles : Handles := [("!", "!"), ("!!", Tag.common)]

def peek : Composing Placed := do
  match (← get).tokens with
  | ⟨.fault f, _⟩ :: _ => throw f
  | p :: _ => return p
  | [] => return ⟨.streamEnd, ⟨0, 0⟩⟩

def drop : Composing Unit := modify fun s => { s with tokens := s.tokens.tail }

def nextIs (t : Token) : Composing Bool := do return (← peek).token = t

def accept (t : Token) : Composing Bool := do
  if ← nextIs t then
    drop
    return true
  else return false

def nextIsAmong (ts : List Token) : Composing Bool := do
  return ts.contains (← peek).token

def complain {α : Type} (context : Option String) (start : Option Mark) (problem : String) :
    Composing α := do
  throw (.malformed ⟨context, start, problem, (← peek).mark⟩)

def expect (t : Token) (context : Option String) (start : Option Mark) (wanted : String) :
    Composing Unit := do
  if !(← accept t) then
    complain context start (wanted ++ Text.quotedText (← peek).token.title)

/-! ## Properties -/

def fullName (handles : Handles) (start mark : Mark) (handle : Option String) (suffix : String) :
    Composing String :=
  match handle with
  | none => return suffix
  | some h =>
    match handles.find? fun e => e.1 == h with
    | some (_, addressed) => return addressed ++ suffix
    | none =>
      throw (.malformed ⟨some "while parsing a node", some start,
        "found undefined tag handle " ++ Text.quotedText h, mark⟩)

def anchor? : Composing (Option String) := do
  match (← peek).token with
  | .anchor name =>
    drop
    return some name
  | _ => return none

structure WrittenTag where
  mark : Mark
  handle : Option String
  suffix : String

def tag? : Composing (Option WrittenTag) := do
  match ← peek with
  | ⟨.tag handle suffix, mark⟩ =>
    drop
    return some ⟨mark, handle, suffix⟩
  | _ => return none

def properties (handles : Handles) : Composing (Option String × Option String) := do
  let start := (← peek).mark
  let (anchor, tag) ← match ← anchor? with
    | some name => pure (some name, ← tag?)
    | none =>
      match ← tag? with
      | some t => pure (← anchor?, some t)
      | none => pure (none, none)
  match tag with
  | none => return (anchor, none)
  | some t => return (anchor, some (← fullName handles start t.mark t.handle t.suffix))

def isOpen (tag : Option String) : Bool := tag.all (· == "!")

def scalarTag (tag : Option String) (plain : Bool) (text : List Char) : Tag :=
  match tag with
  | none => if plain then Tag.ofForm text else .str
  | some t => if t = "!" then Tag.ofForm text else Tag.ofName t

def collectionTag (tag : Option String) (standard : Tag) : Tag :=
  if isOpen tag then standard else (tag.map Tag.ofName).getD standard

def markOf? (name : String) (s : Composer) : Option Mark :=
  ((s.anchors.find? fun e => e.1 == name).map (·.2.start)).or
    ((s.unfinished.find? fun e => e.name == name).map (·.start))

def standardTag : Token → Tag
  | .flowMappingStart | .blockMappingStart => .map
  | _ => .seq

def begin (anchor : Option String) (start : Mark) (tag : Tag) : Composing Unit := do
  match anchor with
  | none => return ()
  | some name =>
    let s ← get
    match markOf? name s with
    | some first =>
      throw (.malformed ⟨some ("found duplicate anchor " ++ Text.quotedText name ++
        "; first occurrence"), some first, "second occurrence", start⟩)
    | none => set { s with unfinished := ⟨name, start, tag⟩ :: s.unfinished }

def finish (anchor : Option String) (node : Node) : Composing Node := do
  match anchor with
  | none => return node
  | some name =>
    modify fun s => { s with
      anchors := (name, node) :: s.anchors
      unfinished := s.unfinished.filter fun e => e.name != name }
    return node

def aliased (name : String) (mark : Mark) : Composing Node := do
  let s ← get
  match s.anchors.find? fun e => e.1 == name with
  | some (_, node) => return node
  | none =>
    match s.unfinished.find? fun e => e.name == name with
    | some e => return .again e.start e.tag
    | none =>
      throw (.malformed ⟨none, none, "found undefined alias " ++ Text.quotedText name, mark⟩)

def below {α : Type} (part : Composing α) : Composing α := do
  let s ← get
  match s.levels with
  | 0 => throw .endless
  | levels + 1 =>
    set { s with levels := levels }
    let a ← part
    modify fun s => { s with levels := levels + 1 }
    return a

/-! ## Nodes -/

def leftOut (block hasProperties : Bool) (start : Mark) (tag : Option String) : Composing Node := do
  if hasProperties then return .scalar start (scalarTag tag tag.isNone []) []
  else
    let parsing := "while parsing a " ++ (if block then "block" else "flow") ++ " node"
    complain (some parsing) (some start)
      ("expected the node content, but found " ++ Text.quotedText (← peek).token.title)

mutual

def node (handles : Handles) (block indentless : Bool) : Nat → Composing Node
  | 0 => throw .endless
  | fuel + 1 => do
    match ← peek with
    | ⟨.alias name, mark⟩ =>
      drop
      aliased name mark
    | ⟨_, start⟩ =>
      let (anchor, tag) ← properties handles
      let first := (← peek).token
      begin anchor start (collectionTag tag (standardTag first))
      let n ← below
        (content handles block indentless (anchor.isSome || tag.isSome) start tag fuel)
      finish anchor n

def content (handles : Handles) (block indentless hasProperties : Bool) (start : Mark)
    (tag : Option String) : Nat → Composing Node
  | 0 => throw .endless
  | fuel + 1 => do
    let p ← peek
    let absent := leftOut block hasProperties start tag
    match p.token with
    | .scalar text plain =>
      drop
      return .scalar start (scalarTag tag plain text) text
    | .flowSequenceStart =>
      drop
      return .sequence start (collectionTag tag .seq) (← flowItems handles p.mark true fuel)
    | .flowMappingStart =>
      drop
      return .mapping start (collectionTag tag .map) (← flowPairs handles p.mark true fuel)
    | .blockEntry =>
      if indentless then
        return .sequence start (collectionTag tag .seq) (← entries handles true p.mark fuel)
      else absent
    | .blockSequenceStart =>
      if block then
        drop
        return .sequence start (collectionTag tag .seq) (← entries handles false p.mark fuel)
      else absent
    | .blockMappingStart =>
      if block then
        drop
        return .mapping start (collectionTag tag .map) (← blockPairs handles p.mark fuel)
      else absent
    | _ => absent

def nodeUnless (handles : Handles) (block indentless : Bool) (sign : Mark) (ends : List Token) :
    Nat → Composing Node
  | 0 => throw .endless
  | fuel + 1 => do
    if ← nextIsAmong ends then return .absent ⟨sign.line, sign.column + 1⟩
    else node handles block indentless fuel

def valueOf (handles : Handles) (block : Bool) (ends : List Token) : Nat → Composing Node
  | 0 => throw .endless
  | fuel + 1 => do
    let sign := (← peek).mark
    if ← accept .value then nodeUnless handles block block sign ends fuel else return .absent sign

def entries (handles : Handles) (indentless : Bool) (start : Mark) : Nat → Composing (List Node)
  | 0 => throw .endless
  | fuel + 1 => do
    let sign := (← peek).mark
    if ← accept .blockEntry then
      let ends := [Token.blockEntry, .blockEnd] ++ if indentless then [.key, .value] else []
      let n ← nodeUnless handles true false sign ends fuel
      return n :: (← entries handles indentless start fuel)
    else
      if !indentless then
        expect .blockEnd (some "while parsing a block collection") (some start)
          "expected <block end>, but found "
      return []

def blockPairs (handles : Handles) (start : Mark) : Nat → Composing (List (Node × Node))
  | 0 => throw .endless
  | fuel + 1 => do
    let sign := (← peek).mark
    if ← accept .key then
      let k ← nodeUnless handles true true sign [.key, .value, .blockEnd] fuel
      let v ← valueOf handles true [.key, .value, .blockEnd] fuel
      return (k, v) :: (← blockPairs handles start fuel)
    else
      expect .blockEnd (some "while parsing a block mapping") (some start)
        "expected <block end>, but found "
      return []

def flowItems (handles : Handles) (start : Mark) (first : Bool) : Nat → Composing (List Node)
  | 0 => throw .endless
  | fuel + 1 => do
    if ← accept .flowSequenceEnd then return []
    if !first then
      expect .flowEntry (some "while parsing a flow sequence") (some start)
        "expected ',' or ']', but got "
    let sign := (← peek).mark
    if ← accept .key then
      let e ← below do
        let k ← nodeUnless handles false false sign [.value, .flowEntry, .flowSequenceEnd] fuel
        return (k, ← valueOf handles false [.flowEntry, .flowSequenceEnd] fuel)
      return .mapping sign .map [e] :: (← flowItems handles start false fuel)
    else if ← accept .flowSequenceEnd then return []
    else
      let n ← node handles false false fuel
      return n :: (← flowItems handles start false fuel)

def flowPairs (handles : Handles) (start : Mark) (first : Bool) :
    Nat → Composing (List (Node × Node))
  | 0 => throw .endless
  | fuel + 1 => do
    if ← accept .flowMappingEnd then return []
    if !first then
      expect .flowEntry (some "while parsing a flow mapping") (some start)
        "expected ',' or '\x7d', but got "
    let sign := (← peek).mark
    if ← accept .key then
      let k ← nodeUnless handles false false sign [.value, .flowEntry, .flowMappingEnd] fuel
      let v ← valueOf handles false [.flowEntry, .flowMappingEnd] fuel
      return (k, v) :: (← flowPairs handles start false fuel)
    else if ← accept .flowMappingEnd then return []
    else
      let k ← node handles false false fuel
      return (k, .absent (← peek).mark) :: (← flowPairs handles start false fuel)

end

/-! ## Documents -/

/-- The directives before a document: a version at most once, and it has to be the first; each
handle at most once. -/
def directives (versioned : Bool) (handles : Handles) : Nat → Composing Handles
  | 0 => throw .endless
  | fuel + 1 => do
    match ← peek with
    | ⟨.directive d, mark⟩ =>
      drop
      let wrong (problem : String) : Composing Handles :=
        throw (.malformed ⟨none, none, problem, mark⟩)
      match d with
      | .version major =>
        if versioned then wrong "found duplicate YAML directive"
        else if major ≠ 1 then wrong "found incompatible YAML document (version 1.* is required)"
        else directives true handles fuel
      | .handle name addressed =>
        if handles.any fun e => e.1 == name then
          wrong ("duplicate tag handle " ++ Text.quotedText name)
        else directives versioned (handles ++ [(name, addressed)]) fuel
      | .other => directives versioned handles fuel
    | _ => return handles

def documentHead (fuel : Nat) : Composing Handles := do
  let own ← directives false [] fuel
  expect .documentStart none none "expected '<document start>', but found "
  return own ++ standardHandles

def skipEnds : Nat → Composing Unit
  | 0 => return ()
  | fuel + 1 => do
    if ← accept .documentEnd then skipEnds fuel

def markedDocument (fuel : Nat) : Composing Node := do
  let handles ← documentHead fuel
  match ← peek with
  | ⟨.streamEnd, m⟩ | ⟨.directive _, m⟩ | ⟨.documentStart, m⟩ | ⟨.documentEnd, m⟩ =>
    return .absent m
  | _ => node handles true false fuel

def expectEnd (root : Node) (fuel : Nat) : Composing Unit := do
  skipEnds fuel
  if !(← nextIs .streamEnd) then
    let second := (← peek).mark
    let _ ← documentHead fuel
    throw (.malformed ⟨some "expected a single document in the stream", some root.start,
      "but found another document", second⟩)

def document (fuel : Nat) : Composing (Option Node) := do
  match (← peek).token with
  | .streamEnd => return none
  | .directive _ | .documentStart =>
    let n ← markedDocument fuel
    expectEnd n fuel
    return some n
  | _ =>
    let n ← node standardHandles true false fuel
    expectEnd n fuel
    return some n

end Composing

structure Tree where
  root : Node
  named : List Node

def Tree.depth : Nat := 488

def Tree.ofTokens (tokens : List Placed) : Except Fault (Option Tree) := do
  let (root, s) ← (Composing.document (4 * tokens.length + 4)).run ⟨tokens, [], [], Tree.depth⟩
  return root.map fun n => ⟨n, s.anchors.map (·.2)⟩

end FormRules.Yaml
