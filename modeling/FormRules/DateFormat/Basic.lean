import FormRules.Text.Cut

/-! Date formats: tokens such as YYYY or MM between literal text. Text in square brackets stands for
itself, and so does every character that begins no token. -/

namespace FormRules

namespace DateFormat

inductive Directive
  | year
  | shortYear
  | monthName
  | shortMonthName
  | month
  | day
  | hour
  | halfDayHour
  | minute
  | second
  | fraction
  | halfDay
  deriving DecidableEq, Repr

def Directive.letter : Directive → Char
  | .year => 'Y'
  | .shortYear => 'y'
  | .monthName => 'B'
  | .shortMonthName => 'b'
  | .month => 'm'
  | .day => 'd'
  | .hour => 'H'
  | .halfDayHour => 'I'
  | .minute => 'M'
  | .second => 'S'
  | .fraction => 'f'
  | .halfDay => 'p'

inductive Width
  | digits (n : Nat)
  | oneOrTwoDigits
  | letters
  | halfDayMark
  deriving DecidableEq, Repr

structure Token where
  spelling : List Char
  width : Width
  directive : Directive
  deriving DecidableEq, Repr

def tokens : List Token :=
  [⟨['Y', 'Y', 'Y', 'Y'], .digits 4, .year⟩,
   ⟨['M', 'M', 'M', 'M'], .letters, .monthName⟩,
   ⟨['M', 'M', 'M'], .letters, .shortMonthName⟩,
   ⟨['S', 'S', 'S'], .digits 3, .fraction⟩,
   ⟨['Y', 'Y'], .digits 2, .shortYear⟩,
   ⟨['M', 'M'], .digits 2, .month⟩,
   ⟨['D', 'D'], .digits 2, .day⟩,
   ⟨['H', 'H'], .digits 2, .hour⟩,
   ⟨['h', 'h'], .digits 2, .halfDayHour⟩,
   ⟨['m', 'm'], .digits 2, .minute⟩,
   ⟨['s', 's'], .digits 2, .second⟩,
   ⟨['M'], .oneOrTwoDigits, .month⟩,
   ⟨['D'], .oneOrTwoDigits, .day⟩,
   ⟨['H'], .oneOrTwoDigits, .hour⟩,
   ⟨['h'], .oneOrTwoDigits, .halfDayHour⟩,
   ⟨['m'], .oneOrTwoDigits, .minute⟩,
   ⟨['s'], .oneOrTwoDigits, .second⟩,
   ⟨['A'], .halfDayMark, .halfDay⟩,
   ⟨['a'], .halfDayMark, .halfDay⟩]

inductive Piece
  | literal (c : Char)
  | bracketed (text : List Char)
  | token (t : Token)
  deriving DecidableEq, Repr

def Piece.source : Piece → List Char
  | .literal c => [c]
  | .bracketed t => '[' :: t ++ [']']
  | .token t => t.spelling

def bracketGroup? : List Char → Option (List Char)
  | '[' :: s => (Text.cut ']' s).map (·.1)
  | _ => none

def token? (s : List Char) : Option Token :=
  tokens.find? fun t => (Text.after? t.spelling s).isSome

def pieceAt (c : Char) (s : List Char) : Piece :=
  match bracketGroup? (c :: s) with
  | some t => .bracketed t
  | none =>
    match token? (c :: s) with
    | some t => .token t
    | none => .literal c

def piecesFrom : (skip : Nat) → List Char → List Piece
  | _, [] => []
  | skip + 1, _ :: s => piecesFrom skip s
  | 0, c :: s =>
    let p := pieceAt c s
    p :: piecesFrom (p.source.length - 1) s

def pieces (format : String) : List Piece := piecesFrom 0 format.toList

inductive Element
  | char (c : Char)
  | field (d : Directive)
  deriving DecidableEq, Repr

def Piece.elements : Piece → List Element
  | .literal c => [.char c]
  | .bracketed t => t.map .char
  | .token t => [.field t.directive]

def elements (ps : List Piece) : List Element := ps.flatMap Piece.elements

def Element.chars : Element → List Char
  | .char c => if c = '%' then ['%', '%'] else [c]
  | .field d => ['%', d.letter]

def percentNotation (ps : List Piece) : String :=
  String.ofList ((elements ps).flatMap Element.chars)

end DateFormat

end FormRules
