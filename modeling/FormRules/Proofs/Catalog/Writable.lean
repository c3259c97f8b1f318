import FormRules.Catalog
import FormRules.Proofs.Value.Written

namespace FormRules.Catalog

variable {c d : Catalog} {r : Runtime} {room : Nat} {path : String} {file : File}
  {reason : Unwritable}

def EntryFits (room : Nat) (e : Value × Value) : Prop := e.1.Fits room ∧ e.2.Fits room

theorem refusal?_eq_none_iff : c.refusal? room = none ↔ ∀ e ∈ c.words, EntryFits room e := by
  simp [refusal?, EntryFits, Value.refusal?_eq_none_iff]

theorem writable_eq_ok_iff : c.writable room = .ok d ↔ c.refusal? room = none ∧ d = c := by
  rw [writable]
  cases c.refusal? room with
  | none => simp [eq_comm]
  | some reason => simp

theorem writable_of_refusal? (h : c.refusal? room = some reason) :
    c.writable room = .error (.unwritable reason) := by
  rw [writable, h]

end FormRules.Catalog
