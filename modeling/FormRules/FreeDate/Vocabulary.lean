import FormRules.Text.Case

namespace FormRules.FreeDate

abbrev Lexeme := List Char

def lower (t : Lexeme) : Lexeme := t.map Text.asciiLower

def groupIndex? (groups : List (List String)) (t : Lexeme) : Option Nat :=
  groups.findIdx? fun g => g.any fun w => w.toList == lower t

def weekday? : Lexeme → Option Nat :=
  groupIndex? [["mon", "monday"], ["tue", "tuesday"], ["wed", "wednesday"], ["thu", "thursday"],
    ["fri", "friday"], ["sat", "saturday"], ["sun", "sunday"]]

def month? (t : Lexeme) : Option Nat :=
  (groupIndex? [["jan", "january"], ["feb", "february"], ["mar", "march"], ["apr", "april"],
    ["may"], ["jun", "june"], ["jul", "july"], ["aug", "august"], ["sep", "sept", "september"],
    ["oct", "october"], ["nov", "november"], ["dec", "december"]] t).map (· + 1)

def unit? : Lexeme → Option Nat :=
  groupIndex? [["h", "hour", "hours"], ["m", "minute", "minutes"], ["s", "second", "seconds"]]

def afternoon? (t : Lexeme) : Option Bool :=
  (groupIndex? [["am", "a"], ["pm", "p"]] t).map (· == 1)

def isFiller (t : Lexeme) : Bool :=
  (groupIndex? [[" ", ".", ",", ";", "-", "/", "'", "at", "on", "and", "ad", "m", "t", "of", "st",
    "nd", "rd", "th"]] t).isSome

def isOf (t : Lexeme) : Bool := lower t == ['o', 'f']

def isUniversal (t : Lexeme) : Bool :=
  (groupIndex? [["utc", "gmt", "z"]] t).isSome

def looksLikeZone (t : Lexeme) : Bool :=
  t.length ≤ 5 && (t.all (fun c => 'A' ≤ c && c ≤ 'Z') || t == ['z'])

def isNumberWord (t : Lexeme) : Bool :=
  (groupIndex? [["inf", "infinity", "nan"]] t).isSome

end FormRules.FreeDate
