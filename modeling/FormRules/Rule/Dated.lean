import FormRules.Rule.Basic

namespace FormRules.Rule

def dateFormat (param : Option String) (context : Context) : String :=
  match param with
  | none => context.dateFormat
  | some p => if p.isEmpty then context.dateFormat else p

def date : RuleClass :=
  ⟨"DateRule", fun _ param context =>
    let format := dateFormat param context
    .ok ⟨.text format, fun field v _ =>
      if v.isNull then .ok .passed
      else do
        let t ← v.strictMoment? format
        .ok (.passedIf t.isSome (field ++ " must be a valid date with format " ++ format))⟩⟩

def ofSide (title : String) (side : Ordering) (name : String) : RuleClass :=
  ⟨title, fun _ param context =>
    .ok ⟨rawParameter param, fun field v _ => do
      match ← v.lenientMoment? context.now with
      | none => .ok (.failed (field ++ " is not a valid date"))
      | some t =>
        .ok (.passedIf ((← t.compareTo context.now) == side)
          (field ++ " must be a " ++ name ++ " date"))⟩⟩

def future : RuleClass := ofSide "FutureRule" .gt "future"

def past : RuleClass := ofSide "PastRule" .lt "past"

end FormRules.Rule
