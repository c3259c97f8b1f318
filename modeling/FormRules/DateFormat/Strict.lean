import FormRules.DateFormat.Basic
import FormRules.Text.Case
import FormRules.Text.Digit

namespace FormRules.DateFormat

def isAsciiLetter (c : Char) : Bool := 'a' ≤ Text.asciiLower c && Text.asciiLower c ≤ 'z'

def digitsNext (n : Nat) (s : List Char) : Bool :=
  n ≤ s.length && (s.take n).all Text.isDigit

def Width.lengths : Width → List Char → List Nat
  | .digits n, s => if digitsNext n s then [n] else []
  | .oneOrTwoDigits, s => [2, 1].filter fun n => digitsNext n s
  | .letters, s =>
    let k := (s.takeWhile isAsciiLetter).length
    (List.range k).map (k - ·)
  | .halfDayMark, a :: m :: _ =>
    if (Text.asciiLower a = 'a' ∨ Text.asciiLower a = 'p') ∧ Text.asciiLower m = 'm' then [2]
    else []
  | .halfDayMark, _ => []

def Piece.lengths : Piece → List Char → List Nat
  | .literal c, s => if (Text.after? [c] s).isSome then [1] else []
  | .bracketed t, s => if (Text.after? t s).isSome then [t.length] else []
  | .token t, s => t.width.lengths s

def fits : List Piece → List Char → Bool
  | [], s => s.isEmpty
  | p :: ps, s => (p.lengths s).any fun n => fits ps (s.drop n)

end FormRules.DateFormat
