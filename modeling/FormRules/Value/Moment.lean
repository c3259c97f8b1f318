import FormRules.Value.Basic
import FormRules.DateFormat.Reading
import FormRules.Calendar.Iso
import FormRules.FreeDate.Reading

namespace FormRules

namespace Value

def moment? : Value → Option DateTime
  | .moment t => some t
  | .date d => some (.ofDate d)
  | _ => none

def strictMoment? (format : String) (v : Value) : Except Fault (Option DateTime) :=
  match v.moment?, v with
  | some t, _ => .ok (some t)
  | none, .text s => DateFormat.parse format s
  | none, _ => .ok none

def lenientMoment? (now : DateTime) (v : Value) : Except Fault (Option DateTime) :=
  match v.moment?, v with
  | some t, _ => .ok (some t)
  | none, .text s =>
    if Text.isBlankText s.toList then .ok none
    else match Iso.parse? s.toList with
      | some t => .ok (some t)
      | none => FreeDate.parse now.date s.toList
  | none, _ => .ok none

end Value

def DateTime.compareTo (t now : DateTime) : Except Fault Ordering :=
  if t.isLawful then .ok (compare t.instant now.instant) else .error .offsetTooLarge

end FormRules
