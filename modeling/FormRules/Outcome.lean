import FormRules.Clause
import FormRules.Registry

namespace FormRules

inductive Outcome
  | passed
  /-- a clause failed, with the message of its rule -/
  | failed (clause : Clause) (own : String)
  | halted (fault : Fault)
  deriving DecidableEq, Repr

structure FieldRun where
  ignored : List String
  outcome : Outcome
  deriving DecidableEq, Repr

namespace FieldRun

def halted (fault : Fault) : FieldRun := ⟨[], .halted fault⟩

/-- The name that lets a null value pass whatever else is asked of it. -/
def nullable : String := "nullable"

def judgement (rules : RuleClass) (name : String) (context : Context) (c : Clause)
    (field : String) (value record : Value) : Except Fault Verdict :=
  match rules.prepare name c.param context with
  | .error f => .error (.rule f)
  | .ok rule => rule.judge field value record

def ofClauses (r : Registry) (context : Context) (field : String) (value record : Value) :
    List Clause → FieldRun
  | [] => ⟨[], .passed⟩
  | c :: cs =>
    match r.get? c.name with
    | none =>
      let run := ofClauses r context field value record cs
      ⟨c.name :: run.ignored, run.outcome⟩
    | some known =>
      match judgement known.rules known.name context c field value record with
      | .error f => halted f
      | .ok (.failed own) => ⟨[], .failed c own⟩
      | .ok .passed => ofClauses r context field value record cs

def ofValue (r : Registry) (context : Context) (field : String) (value record : Value)
    (cs : List Clause) : FieldRun :=
  if value.isNull && Clause.mentions cs nullable then ⟨[], .passed⟩
  else ofClauses r context field value record cs

def ofField (r : Registry) (context : Context) (record : Value) (field : String) (spec : Value) :
    FieldRun :=
  match record.field field, spec with
  | .error f, _ => halted f
  | .ok value, .text s => ofValue r context field value record (Clause.readAll s)
  | .ok _, _ => halted .specNotText

end FieldRun

end FormRules
