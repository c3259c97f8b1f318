import FormRules.Text.Letter
import FormRules.Text.Blank

namespace FormRules.FreeDate

inductive Run
  | word
  | number
  | dottedWord
  | dottedNumber
  deriving DecidableEq, Repr

structure Partial where
  run : Run
  reversed : List Char
  /-- a character has been read after a letter -/
  sawLetters : Bool
  deriving Repr

def Partial.extend? (p : Partial) (c : Char) : Option Partial :=
  let last := p.reversed.head?
  let add (r : Run) (saw : Bool) : Option Partial := some ⟨r, c :: p.reversed, saw⟩
  match p.run with
  | .word =>
    if Text.isLetter c then add .word true
    else if c = '.' then add .dottedWord true
    else none
  | .number =>
    if Text.isDigitLike c then add .number p.sawLetters
    else if c = '.' ∨ (c = ',' ∧ 2 ≤ p.reversed.length) then add .dottedNumber p.sawLetters
    else none
  | .dottedWord =>
    if c = '.' ∨ Text.isLetter c then add .dottedWord true
    else if Text.isDigitLike c ∧ last = some '.' then add .dottedNumber true
    else none
  | .dottedNumber =>
    if c = '.' ∨ Text.isDigitLike c then add .dottedNumber p.sawLetters
    else if Text.isLetter c ∧ last = some '.' then add .dottedWord p.sawLetters
    else none

def Partial.interrupted (p : Partial) : Partial :=
  match p.run with
  | .word | .dottedWord => { p with sawLetters := true }
  | .number | .dottedNumber => p

def takenApart : List Char → List (List Char)
  | [] => [[]]
  | c :: s =>
    if c = '.' ∨ c = ',' then [] :: [c] :: takenApart s
    else match takenApart s with
      | [] => [[c]]
      | p :: ps => (c :: p) :: ps

def Partial.lexemes (p : Partial) : List (List Char) :=
  let s := p.reversed.reverse
  let dotted := p.run = .dottedWord ∨ p.run = .dottedNumber
  let ends := p.reversed.head? = some '.' ∨ p.reversed.head? = some ','
  if dotted ∧ (p.sawLetters ∨ 1 < s.count '.' ∨ ends) then
    (takenApart s).filter (· ≠ [])
  else if p.run = .dottedNumber ∧ s.count '.' = 0 then
    [s.map fun c => if c = ',' then '.' else c]
  else [s]

def opens (c : Char) : Option Partial :=
  if Text.isLetter c then some ⟨.word, [c], false⟩
  else if Text.isDigitLike c then some ⟨.number, [c], false⟩
  else none

def alone (c : Char) : List Char := if Text.isBlank c then [' '] else [c]

def lexFrom : Option Partial → List Char → List (List Char)
  | none, [] => []
  | some p, [] => p.lexemes
  | none, c :: s =>
    match opens c with
    | some q => lexFrom (some q) s
    | none => alone c :: lexFrom none s
  | some p, c :: s =>
    match p.extend? c with
    | some q => lexFrom (some q) s
    | none =>
      p.interrupted.lexemes ++
        match opens c with
        | some q => lexFrom (some q) s
        | none => alone c :: lexFrom none s

def lex (s : List Char) : List (List Char) := lexFrom none (s.filter fun c => c.toNat ≠ 0)

end FormRules.FreeDate
