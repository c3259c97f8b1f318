namespace FormRules.Text.Base64

def bits? (c : Char) : Option Nat :=
  if 'A' ≤ c ∧ c ≤ 'Z' then some (c.toNat - 65)
  else if 'a' ≤ c ∧ c ≤ 'z' then some (c.toNat - 71)
  else if '0' ≤ c ∧ c ≤ '9' then some (c.toNat + 4)
  else if c = '+' then some 62
  else if c = '/' then some 63
  else none

inductive Fault
  /-- one character of a group stands alone; so many have been used before it -/
  | loneCharacter (before : Nat)
  | missingPadding
  deriving DecidableEq, Repr

/-- The bytes of a text. `used` characters stand in full groups, `count` characters of a group of
four have been read, `left` holds their bits that are still to be used, and `pads` padding signs
have just been passed. Other characters are passed over; the padding that fills up a group ends the
text. -/
def decodeFrom : (used count left pads : Nat) → List Char → Except Fault (List UInt8)
  | used, count, _, _, [] =>
    match count with
    | 0 => .ok []
    | 1 => .error (.loneCharacter used)
    | _ => .error .missingPadding
  | used, count, left, pads, c :: s =>
    if c = '=' then
      if 2 ≤ count then
        if 4 ≤ count + (pads + 1) then .ok [] else decodeFrom used count left (pads + 1) s
      else decodeFrom used count left pads s
    else
      match bits? c with
      | none => decodeFrom used count left pads s
      | some b =>
        match count with
        | 0 => decodeFrom used 1 b 0 s
        | 1 => (decodeFrom used 2 (b % 16) 0 s).map ((left * 4 + b / 16).toUInt8 :: ·)
        | 2 => (decodeFrom used 3 (b % 4) 0 s).map ((left * 16 + b / 4).toUInt8 :: ·)
        | _ => (decodeFrom (used + 4) 0 0 0 s).map ((left * 64 + b).toUInt8 :: ·)

def decode (s : List Char) : Except Fault (List UInt8) := decodeFrom 0 0 0 0 s

end FormRules.Text.Base64
