import FormRules.Number.Decimal
import FormRules.Proofs.DateFormat.Kind
import FormRules.Proofs.Number.Grammar
import FormRules.Proofs.Text.Padded
import FormRules.Proofs.Text.Separated
import Mathlib

namespace FormRules

namespace Text

theorem natDigits_ne_nil (n : ℕ) : natDigits n ≠ [] := Nat.toDigits_ne_nil

theorem padded_length_natDigits (n : ℕ) : padded (natDigits n).length n = natDigits n := by
  simp [padded]

theorem isDigit_of_mem_natDigits {n : ℕ} {c : Char} (h : c ∈ natDigits n) : isDigit c = true := by
  rw [← padded_length_natDigits] at h
  rw [isDigit, digit?_of_isAsciiDigit (isAsciiDigit_of_mem_padded h)]
  rfl

theorem digits_natDigits (n : ℕ) : Digits (natDigits n) :=
  ⟨natDigits_ne_nil n, fun _ => isDigit_of_mem_natDigits⟩

theorem digitsValue_natDigits (n : ℕ) : digitsValue (natDigits n) = n := by
  have hpos : 0 < (natDigits n).length := List.length_pos_iff.mpr (natDigits_ne_nil n)
  have hlt : n < 10 ^ (natDigits n).length :=
    (Nat.length_toDigits_le_iff (by decide) hpos).mp (le_refl _)
  have := digitsValue_padded hpos hlt
  rwa [padded_length_natDigits] at this

theorem not_isBlank_of_mem_natDigits {n : ℕ} {c : Char} (h : c ∈ natDigits n) :
    ¬isBlank c = true :=
  fun hblank => DateFormat.not_isDigit_of_isBlank hblank (isDigit_of_mem_natDigits h)

theorem not_isBlank_of_mem_intDigits {n : ℤ} {c : Char} (h : c ∈ intDigits n) :
    ¬isBlank c = true := by
  cases n with
  | ofNat n => exact not_isBlank_of_mem_natDigits h
  | negSucc n =>
    rcases List.mem_cons.mp h with rfl | h
    · decide
    · exact not_isBlank_of_mem_natDigits h

theorem trim_intDigits (n : ℤ) : trim (intDigits n) = intDigits n := by
  apply trim_of_not_blank
  · rintro ⟨c, hc, hblank⟩
    exact not_isBlank_of_mem_intDigits (List.mem_of_head? hc) hblank
  · rintro ⟨c, hc, hblank⟩
    exact not_isBlank_of_mem_intDigits (List.mem_of_getLast? hc) hblank

end Text

namespace Decimal

def ofInt (n : ℤ) : Decimal := ⟨decide (n < 0), n.natAbs, 0⟩

theorem exact_ofInt (n : ℤ) : (ofInt n).exact = n := by
  have hn : (if decide (n < 0) then -(n.natAbs : ℤ) else n.natAbs) = n := by
    simp only [decide_eq_true_eq]
    split <;> omega
  rw [exact, ofInt, hn]
  simp [scaled]

theorem written_intDigits (n : ℤ) :
    Numeral.Written ⟨decide (n < 0), Text.natDigits n.natAbs, [], 0⟩ (Text.intDigits n) := by
  have hwhole : Numeral.Mantissa (Text.natDigits n.natAbs) [] (Text.natDigits n.natAbs) :=
    .whole (Text.digits_natDigits n.natAbs)
  refine .intro hwhole .absent ?_
  rw [List.append_nil]
  cases n with
  | ofNat n => exact .bare
  | negSucc n =>
    rw [decide_eq_true (Int.negSucc_lt_zero n)]
    exact .minus

theorem read?_intDigits (n : ℤ) : read? (Text.intDigits n) = some (ofInt n) := by
  rw [read?_of_written (written_intDigits n)]
  simp [Numeral.decimal, ofInt, Text.digitsValue_natDigits]

end Decimal

end FormRules
