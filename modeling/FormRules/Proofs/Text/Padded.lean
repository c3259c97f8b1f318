import FormRules.Text.Digit
import Mathlib

namespace FormRules.Text

theorem isAsciiDigit_iff {c : Char} : isAsciiDigit c = true ↔ 48 ≤ c.toNat ∧ c.toNat ≤ 57 := by
  simp only [isAsciiDigit, Bool.and_eq_true, decide_eq_true_eq]
  exact Iff.rfl

theorem digit?_of_isAsciiDigit {c : Char} (h : isAsciiDigit c = true) :
    digit? c = some (c.toNat - 48) := by
  obtain ⟨hlo, hhi⟩ := isAsciiDigit_iff.mp h
  simp [digit?, zeros, hlo, hhi]

theorem digitsValue_append_singleton (u : List Char) (c : Char) :
    digitsValue (u ++ [c]) = 10 * digitsValue u + (digit? c).getD 0 := by
  simp [digitsValue]

theorem isAsciiDigit_digitChar : ∀ n < 10, isAsciiDigit n.digitChar = true := by decide

theorem toNat_digitChar : ∀ n < 10, n.digitChar.toNat = n + 48 := by decide

theorem digitChar_toNat {c : Char} (h : isAsciiDigit c = true) :
    (c.toNat - 48).digitChar = c := by
  obtain ⟨hlo, hhi⟩ := isAsciiDigit_iff.mp h
  apply Char.toNat_inj.mp
  rw [toNat_digitChar _ (by omega)]
  omega

theorem padded_one {n : Nat} (h : n < 10) : padded 1 n = [n.digitChar] := by
  simp [padded, natDigits, Nat.toDigits_of_lt_base h]

theorem padded_succ {w : Nat} (hw : 0 < w) (n : Nat) :
    padded (w + 1) n = padded w (n / 10) ++ [(n % 10).digitChar] := by
  by_cases hn : n < 10
  · have hzero : padded w 0 = List.replicate w '0' := by
      obtain ⟨v, rfl⟩ := Nat.exists_eq_succ_of_ne_zero (Nat.ne_of_gt hw)
      simp [padded, natDigits, List.replicate_succ']
    rw [Nat.div_eq_of_lt hn, Nat.mod_eq_of_lt hn, hzero]
    simp [padded, natDigits, Nat.toDigits_of_lt_base hn]
  · have hn : 10 ≤ n := by omega
    simp [padded, natDigits, Nat.toDigits_of_base_le (by decide) hn]

theorem length_padded {w n : Nat} (hw : 0 < w) (h : n < 10 ^ w) : (padded w n).length = w := by
  have hle := (Nat.length_toDigits_le_iff (b := 10) (by decide) hw).mpr h
  simp [padded, natDigits]
  omega

theorem isAsciiDigit_of_mem_padded {w n : Nat} {c : Char} (hc : c ∈ padded w n) :
    isAsciiDigit c = true := by
  rcases List.mem_append.mp hc with hc | hc
  · rw [List.eq_of_mem_replicate hc]
    decide
  · have := Nat.isDigit_of_mem_toDigits (b := 10) (by decide) (by decide) hc
    exact isAsciiDigit_iff.mpr (Char.isDigit_iff_toNat.mp this)

theorem digitsValue_padded {w n : Nat} (hw : 0 < w) (h : n < 10 ^ w) :
    digitsValue (padded w n) = n := by
  induction w generalizing n with
  | zero => omega
  | succ w ih =>
    have hlast : digit? (n % 10).digitChar = some (n % 10) := by
      rw [digit?_of_isAsciiDigit (isAsciiDigit_digitChar _ (by omega)),
        toNat_digitChar _ (by omega), Nat.add_sub_cancel]
    cases w with
    | zero =>
      have hn : n % 10 = n := Nat.mod_eq_of_lt h
      rw [padded_one h]
      rw [hn] at hlast
      simp [digitsValue, hlast]
    | succ w =>
      have hdiv : n / 10 < 10 ^ (w + 1) := by
        rw [Nat.div_lt_iff_lt_mul (by decide), ← Nat.pow_succ]
        exact h
      rw [padded_succ (by omega), digitsValue_append_singleton, ih (by omega) hdiv, hlast]
      simp only [Option.getD_some]
      omega

theorem digitsValue_lt {u : List Char} (h : ∀ c ∈ u, isAsciiDigit c = true) :
    digitsValue u < 10 ^ u.length := by
  induction u using List.reverseRecOn with
  | nil => decide
  | append_singleton u c ih =>
    obtain ⟨hu, hc⟩ := List.forall_mem_append.mp h
    have hc := hc c (by simp)
    have ih := ih hu
    have := isAsciiDigit_iff.mp hc
    rw [digitsValue_append_singleton, digit?_of_isAsciiDigit hc, Option.getD_some,
      List.length_append, List.length_singleton, Nat.pow_succ]
    omega

theorem padded_digitsValue {u : List Char} (hne : u ≠ []) (h : ∀ c ∈ u, isAsciiDigit c = true) :
    padded u.length (digitsValue u) = u := by
  induction u using List.reverseRecOn with
  | nil => exact absurd rfl hne
  | append_singleton u c ih =>
    obtain ⟨hu, hc⟩ := List.forall_mem_append.mp h
    have hc := hc c (by simp)
    have hlt := isAsciiDigit_iff.mp hc
    rw [digitsValue_append_singleton, digit?_of_isAsciiDigit hc, Option.getD_some,
      List.length_append, List.length_singleton]
    by_cases hnil : u = []
    · subst hnil
      rw [List.length_nil, Nat.zero_add, padded_one (by simp [digitsValue]; omega)]
      simp [digitsValue, digitChar_toNat hc]
    · have hdiv : (10 * digitsValue u + (c.toNat - 48)) / 10 = digitsValue u := by omega
      have hmod : (10 * digitsValue u + (c.toNat - 48)) % 10 = c.toNat - 48 := by omega
      rw [padded_succ (List.length_pos_iff.mpr hnil), hdiv, hmod, ih hnil hu, digitChar_toNat hc]

end FormRules.Text
