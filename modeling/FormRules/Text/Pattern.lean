import FormRules.Text.Blank
import FormRules.Text.Digit
import FormRules.Text.Case

/-! Regular patterns over characters, matched by derivatives: the derivative of a pattern by `c`
accepts what the pattern accepts after `c`. -/

namespace FormRules.Text

inductive CharSet
  | blank
  | digit
  | asciiDigit
  | asciiLetter
  /-- the letters a to z as a case-insensitive comparison reads them -/
  | letter
  /-- one character, compared without regard to case -/
  | ignoringCase (c : Char)
  | among (cs : List Char)
  | union (a b : CharSet)
  | outside (a : CharSet)
  deriving DecidableEq

def CharSet.holds : CharSet → Char → Bool
  | .blank, c => isBlank c
  | .digit, c => isDigit c
  | .asciiDigit, c => isAsciiDigit c
  | .asciiLetter, c => 'a' ≤ asciiLower c && asciiLower c ≤ 'z'
  | .letter, c => 'a' ≤ caseFold c && caseFold c ≤ 'z'
  | .ignoringCase d, c => sameLetter d c
  | .among cs, c => cs.contains c
  | .union a b, c => a.holds c || b.holds c
  | .outside a, c => !a.holds c

inductive Pattern
  | never
  | empty
  | one (s : CharSet)
  | seq (p q : Pattern)
  | either (p q : Pattern)
  | both (p q : Pattern)
  | many (p : Pattern)
  deriving DecidableEq

namespace Pattern

def Matches : Pattern → List Char → Prop
  | .never, _ => False
  | .empty, s => s = []
  | .one cs, s => ∃ c, cs.holds c = true ∧ s = [c]
  | .seq p q, s => ∃ a b, s = a ++ b ∧ p.Matches a ∧ q.Matches b
  | .either p q, s => p.Matches s ∨ q.Matches s
  | .both p q, s => p.Matches s ∧ q.Matches s
  | .many p, s => ∃ parts : List (List Char), s = parts.flatten ∧ ∀ a ∈ parts, p.Matches a

def nullable : Pattern → Bool
  | .never => false
  | .empty => true
  | .one _ => false
  | .seq p q => p.nullable && q.nullable
  | .either p q => p.nullable || q.nullable
  | .both p q => p.nullable && q.nullable
  | .many _ => true

def isAlternativeOf (p : Pattern) : Pattern → Bool
  | .either a b => p == a || p.isAlternativeOf b
  | q => p == q

def or : Pattern → Pattern → Pattern
  | .never, q => q
  | .either a b, q => or a (or b q)
  | p, .never => p
  | p, q => if p.isAlternativeOf q then q else .either p q

def next : Pattern → Pattern → Pattern
  | .never, _ => .never
  | .empty, q => q
  | p, q => .seq p q

def and : Pattern → Pattern → Pattern
  | .never, _ => .never
  | _, .never => .never
  | p, q => .both p q

def derive (c : Char) : Pattern → Pattern
  | .never => .never
  | .empty => .never
  | .one cs => if cs.holds c then .empty else .never
  | .seq p q =>
    if p.nullable then or (next (p.derive c) q) (q.derive c) else next (p.derive c) q
  | .either p q => or (p.derive c) (q.derive c)
  | .both p q => and (p.derive c) (q.derive c)
  | .many p => next (p.derive c) (.many p)

def accepts : Pattern → List Char → Bool
  | p, [] => p.nullable
  | p, c :: s => (p.derive c).accepts s

def opt (p : Pattern) : Pattern := .either p .empty

def plus (p : Pattern) : Pattern := .seq p (.many p)

def times : Nat → Pattern → Pattern
  | 0, _ => .empty
  | n + 1, p => .seq p (times n p)

def upTo : Nat → Pattern → Pattern
  | 0, _ => .empty
  | n + 1, p => opt (.seq p (upTo n p))

def between (lo hi : Nat) (p : Pattern) : Pattern := .seq (times lo p) (upTo (hi - lo) p)

def atLeast (n : Nat) (p : Pattern) : Pattern := .seq (times n p) (.many p)

def char (c : Char) : Pattern := .one (.among [c])

def text : List Char → Pattern
  | [] => .empty
  | c :: s => .seq (char c) (text s)

def word : List Char → Pattern
  | [] => .empty
  | c :: s => .seq (.one (.ignoringCase c)) (word s)

def inOrder : List Pattern → Pattern
  | [] => .empty
  | [p] => p
  | p :: ps => .seq p (inOrder ps)

end Pattern

end FormRules.Text
