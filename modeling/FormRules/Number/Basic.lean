import FormRules.Number.Double

namespace FormRules

inductive Number
  | integer (n : Int)
  | double (d : Double)
  | decimal (d : Decimal)
  deriving DecidableEq

def Number.exact : Number → Rat
  | .integer n => n
  | .double d => d.exact
  | .decimal d => d.exact

instance : LE Number := ⟨fun a b => a.exact ≤ b.exact⟩

instance (a b : Number) : Decidable (a ≤ b) := inferInstanceAs (Decidable (a.exact ≤ b.exact))

end FormRules
