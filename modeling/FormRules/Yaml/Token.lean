import FormRules.Yaml.Scalar
import FormRules.Number.Integer

namespace FormRules.Yaml

inductive Directive
  | version (major : Nat)
  | handle (name addressed : String)
  /-- a directive without a meaning -/
  | other
  deriving DecidableEq, Repr

inductive Token
  | directive (d : Directive)
  | documentStart
  | documentEnd
  | blockSequenceStart
  | blockMappingStart
  | blockEnd
  | flowSequenceStart
  | flowSequenceEnd
  | flowMappingStart
  | flowMappingEnd
  | flowEntry
  | blockEntry
  | key
  | value
  | alias (name : String)
  | anchor (name : String)
  | tag (handle : Option String) (suffix : String)
  | scalar (text : List Char) (plain : Bool)
  | streamEnd
  /-- what follows is no token -/
  | fault (f : Fault)
  deriving DecidableEq, Repr

def Token.title : Token → String
  | .directive _ => "<directive>"
  | .documentStart => "<document start>"
  | .documentEnd => "<document end>"
  | .blockSequenceStart => "<block sequence start>"
  | .blockMappingStart => "<block mapping start>"
  | .blockEnd => "<block end>"
  | .flowSequenceStart => "["
  | .flowSequenceEnd => "]"
  | .flowMappingStart => "\x7b"
  | .flowMappingEnd => "\x7d"
  | .flowEntry => ","
  | .blockEntry => "-"
  | .key => "?"
  | .value => ":"
  | .alias _ => "<alias>"
  | .anchor _ => "<anchor>"
  | .tag .. => "<tag>"
  | .scalar .. => "<scalar>"
  | .streamEnd | .fault _ => "<stream end>"

structure Placed where
  token : Token
  mark : Mark

/-! ## Tags -/

def isTagChar (c : Char) : Bool :=
  c.isAlphanum || "-;/?:@&=+$,_.!~*'()[]".toList.contains c

inductive Bearer
  | tag
  | directive
  deriving DecidableEq, Repr

def Bearer.name : Bearer → String
  | .tag => "tag"
  | .directive => "directive"

def Bearer.complain {α : Type} (b : Bearer) (start : Mark) (k : Cursor) (problem : String) :
    Except Fault α :=
  k.complain ("while scanning a " ++ b.name) start problem

def tagBytes (b : Bearer) (start : Mark) : Nat → Cursor → Except Fault (List UInt8 × Cursor)
  | 0, k => .ok ([], k)
  | fuel + 1, k =>
    if !k.isAt '%' then .ok ([], k)
    else
      match hexValue 2 k.next.rest with
      | .error i =>
        b.complain start k.next
          ("expected URI escape sequence of 2 hexadecimal numbers, but found " ++ k.next.shownAt i)
      | .ok n => do
        let (bytes, k) ← tagBytes b start fuel (k.skip 3)
        .ok (n.toUInt8 :: bytes, k)

def decoded (b : Bearer) (start : Mark) (k : Cursor) (bytes : List UInt8) :
    Except Fault (List Char) :=
  match String.fromUTF8? ⟨bytes.toArray⟩ with
  | some s => .ok s.toList
  | none => b.complain start k "'utf-8' codec can't decode the bytes"

def tagTextFrom (b : Bearer) (start : Mark) : Nat → List Char → Cursor →
    Except Fault (List Char × Cursor)
  | 0, text, k => .ok (text, k)
  | fuel + 1, text, k =>
    if k.isAt '%' then do
      let (bytes, after) ← tagBytes b start k.fuel k
      tagTextFrom b start fuel (text ++ (← decoded b start k bytes)) after
    else
      let (run, k) := k.takeWhile isTagChar
      if run = [] then .ok (text, k) else tagTextFrom b start fuel (text ++ run) k

def tagText (b : Bearer) (start : Mark) (k : Cursor) : Except Fault (String × Cursor) := do
  if !(k.isAt '%' || k.peek.any isTagChar) then
    k.complain ("while parsing a " ++ b.name) start ("expected URI, but found " ++ k.shown)
  let (text, k) ← tagTextFrom b start k.fuel [] k
  .ok (String.ofList text, k)

def tagHandle (b : Bearer) (start : Mark) (k : Cursor) : Except Fault (String × Cursor) :=
  let missing (k : Cursor) : Except Fault (String × Cursor) :=
    b.complain start k ("expected '!', but found " ++ k.shown)
  if !k.isAt '!' then missing k
  else if k.peekAt 1 = some ' ' then .ok ("!", k.next)
  else
    let (name, k) := k.next.takeWhile isNameChar
    if k.isAt '!' then .ok (String.ofList ('!' :: name ++ ['!']), k.next) else missing k

def hasLongHandle (k : Cursor) : Bool :=
  (k.next.rest.takeWhile fun c => !endsEntry (some c)).contains '!'

def tagToken (k : Cursor) : Except Fault (Token × Cursor) := do
  let start := k.mark
  let (t, k) ←
    if k.peekAt 1 = some '<' then do
      let (text, k) ← tagText .tag start (k.skip 2)
      if !k.isAt '>' then
        k.complain "while parsing a tag" start ("expected '>', but found " ++ k.shown)
      .ok (Token.tag none text, k.next)
    else if endsWord (k.peekAt 1) then .ok (Token.tag none "!", k.next)
    else do
      let (handle, k) ← if hasLongHandle k then tagHandle .tag start k else .ok ("!", k.next)
      let (text, k) ← tagText .tag start k
      .ok (Token.tag (some handle) text, k)
  if !endsEntry k.peek then Bearer.tag.complain start k ("expected ' ', but found " ++ k.shown)
  .ok (t, k)

/-! ## Anchors -/

def anchorName (kind : String) (k : Cursor) : Except Fault (String × Cursor) :=
  let start := k.mark
  let (name, k) := k.next.takeWhile isNameChar
  if name ≠ [] ∧ (endsWord k.peek || k.peek.any "?:,]\x7d%@\x60".toList.contains) then
    .ok (String.ofList name, k)
  else
    k.complain ("while scanning an " ++ kind) start
      ("expected alphabetic or numeric character, but found " ++ k.shown)

/-! ## Directives -/

def versionNumber (start : Mark) (k : Cursor) : Except Fault (Nat × Cursor) :=
  let (digits, after) := k.takeWhile Text.isAsciiDigit
  if digits = [] then
    Bearer.directive.complain start k ("expected a digit, but found " ++ k.shown)
  else if Integer.digitLimit < digits.length then .error .outOfRange
  else .ok (Text.digitsValue digits, after)

def versionDirective (start : Mark) (k : Cursor) : Except Fault (Directive × Cursor) := do
  let (major, k) ← versionNumber start (k.skipWhile (· = ' '))
  if !k.isAt '.' then
    Bearer.directive.complain start k ("expected a digit or '.', but found " ++ k.shown)
  let (_, k) ← versionNumber start k.next
  if !endsEntry k.peek then
    Bearer.directive.complain start k ("expected a digit or ' ', but found " ++ k.shown)
  .ok (.version major, k)

def handleDirective (start : Mark) (k : Cursor) : Except Fault (Directive × Cursor) := do
  let missing (k : Cursor) : Except Fault Unit :=
    Bearer.directive.complain start k ("expected ' ', but found " ++ k.shown)
  let (handle, k) ← tagHandle .directive start (k.skipWhile (· = ' '))
  if !k.isAt ' ' then missing k
  let (text, k) ← tagText .directive start (k.skipWhile (· = ' '))
  if !endsEntry k.peek then missing k
  .ok (.handle handle text, k)

def directiveToken (k : Cursor) : Except Fault (Token × Cursor) := do
  let start := k.mark
  let (name, k) := k.next.takeWhile isNameChar
  if name = [] || !endsEntry k.peek then
    Bearer.directive.complain start k
      ("expected alphabetic or numeric character, but found " ++ k.shown)
  let (d, k) ←
    if name = "YAML".toList then versionDirective start k
    else if name = "TAG".toList then handleDirective start k
    else .ok (Directive.other, k.skipWhile fun c => !isBreak c)
  let k := (k.skipWhile (· = ' ')).skipComment
  match k.lineBreak? with
  | some (_, k) => .ok (.directive d, k)
  | none =>
    if k.rest = [] then .ok (.directive d, k)
    else
      Bearer.directive.complain start k
        ("expected a comment or a line break, but found " ++ k.shown)

end FormRules.Yaml
