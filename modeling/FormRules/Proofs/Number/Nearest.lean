import FormRules.Proofs.Number.Rounding
import Mathlib

namespace FormRules

theorem pow_toNat_div {b : ℚ} (hb : b ≠ 0) (e : ℤ) : b ^ e.toNat / b ^ (-e).toNat = b ^ e := by
  rw [← zpow_natCast, ← zpow_natCast, ← zpow_sub₀ hb, Int.toNat_sub_toNat_neg]

theorem scaled_eq_mul_zpow {b : ℕ} (hb : (b : ℚ) ≠ 0) (n e : ℤ) :
    (if 0 ≤ e then ((n * Nat.pow b e.toNat : ℤ) : ℚ) else mkRat n (Nat.pow b (-e).toNat)) =
      n * (b : ℚ) ^ e := by
  rw [← pow_toNat_div hb e]
  split
  · rw [Int.toNat_of_nonpos (z := -e) (by omega)]
    simp
  · rw [Int.toNat_of_nonpos (z := e) (by omega), Rat.mkRat_eq_div]
    simp [div_eq_mul_inv]

theorem Decimal.scaled_eq (n e : ℤ) : scaled n e = n * 10 ^ e :=
  scaled_eq_mul_zpow (b := 10) (by norm_num) n e

theorem Double.scaled_eq (n e : ℤ) : scaled n e = n * 2 ^ e :=
  scaled_eq_mul_zpow (b := 2) (by norm_num) n e

def withSign (negative : Bool) (q : ℚ) : ℚ := if negative then -q else q

theorem withSign_withSign (negative : Bool) (q : ℚ) :
    withSign negative (withSign negative q) = q := by
  cases negative <;> simp [withSign]

theorem abs_withSign (negative : Bool) (q : ℚ) : |withSign negative q| = |q| := by
  cases negative
  · rfl
  · exact abs_neg q

theorem Rounded.withSign {x v : ℚ} (h : Rounded x v) (negative : Bool) :
    Rounded (withSign negative x) (withSign negative v) := by
  cases negative
  · exact h
  · exact h.neg

namespace Double

/-! ## Fractions -/

theorem roundDiv_roundsTo {n d : ℕ} (hd : 0 < d) : RoundsTo ((n : ℚ) / d) (roundDiv n d) := by
  have hsplit : (n : ℤ) = d * (n / d : ℕ) + (n % d : ℕ) := by
    exact_mod_cast (Nat.div_add_mod n d).symm
  have hrest := Nat.mod_lt n hd
  rw [← Int.cast_natCast n, RoundsTo.div_iff hd, hsplit, roundDiv]
  generalize n / d = q, n % d = r at *
  split
  · rename_i h
    have hdiff : |(d * q + r - q * d : ℤ)| = r := by
      rw [mul_comm, add_sub_cancel_left]
      exact abs_of_nonneg (by omega)
    rw [hdiff, Int.even_coe_nat, Nat.even_iff]
    omega
  · rename_i h
    have hdiff : |(d * q + r - (q + 1 : ℕ) * d : ℤ)| = d - r := by
      rw [abs_sub_comm]
      push_cast
      rw [abs_of_nonneg (by linarith)]
      ring
    rw [hdiff, Int.even_coe_nat, Nat.even_iff]
    omega

theorem log2Ratio_spec {n d : ℕ} (hn : 0 < n) (hd : 0 < d) :
    (2 : ℚ) ^ log2Ratio n d ≤ n / d ∧ (n : ℚ) / d < 2 ^ (log2Ratio n d + 1) := by
  have hd' : (0 : ℚ) < d := by exact_mod_cast hd
  have hn_lo : (2 : ℚ) ^ (n.log2 : ℤ) ≤ n := by exact_mod_cast Nat.log2_self_le hn.ne'
  have hn_hi : (n : ℚ) < 2 ^ (n.log2 + 1 : ℤ) := by exact_mod_cast Nat.lt_log2_self
  have hd_lo : (2 : ℚ) ^ (d.log2 : ℤ) ≤ d := by exact_mod_cast Nat.log2_self_le hd.ne'
  have hd_hi : (d : ℚ) < 2 ^ (d.log2 + 1 : ℤ) := by exact_mod_cast Nat.lt_log2_self
  have hhi : (n : ℚ) / d < 2 ^ ((n.log2 - d.log2 : ℤ) + 1) := by
    rw [div_lt_iff₀ hd']
    calc (n : ℚ) < 2 ^ (n.log2 + 1 : ℤ) := hn_hi
      _ = 2 ^ ((n.log2 - d.log2 : ℤ) + 1) * 2 ^ (d.log2 : ℤ) := by
        rw [← zpow_add₀ two_ne_zero]
        congr 1
        ring
      _ ≤ _ := mul_le_mul_of_nonneg_left hd_lo (two_zpow_pos _).le
  have hlo : 2 ^ ((n.log2 - d.log2 : ℤ) - 1) ≤ (n : ℚ) / d := by
    rw [le_div_iff₀ hd']
    calc _ ≤ (2 : ℚ) ^ ((n.log2 - d.log2 : ℤ) - 1) * 2 ^ (d.log2 + 1 : ℤ) :=
          mul_le_mul_of_nonneg_left hd_hi.le (two_zpow_pos _).le
      _ = 2 ^ (n.log2 : ℤ) := by
        rw [← zpow_add₀ two_ne_zero]
        congr 1
        ring
      _ ≤ n := hn_lo
  have hmid (k : ℤ) : d * Nat.pow 2 k.toNat ≤ n * Nat.pow 2 (-k).toNat ↔
      (2 : ℚ) ^ k ≤ n / d := by
    rw [← pow_toNat_div two_ne_zero k, div_le_div_iff₀ (by positivity) hd', mul_comm]
    norm_cast
  rw [log2Ratio]
  split
  · rename_i h
    exact ⟨(hmid _).mp h, hhi⟩
  · rename_i h
    rw [sub_add_cancel]
    exact ⟨hlo, lt_of_not_ge fun hle => h ((hmid _).mpr hle)⟩

/-! ## The numbers of the format -/

structure Fits (m : ℕ) (e : ℤ) : Prop where
  lt : m < 2 * leastFull
  full : leastFull ≤ m ∨ e = leastExponent
  least : leastExponent ≤ e
  greatest : e ≤ greatestExponent

inductive InFormat : Double → Prop
  | finite (negative : Bool) {m : ℕ} {e : ℤ} (h : Fits m e) : InFormat (.finite negative m e)

theorem exact_finite (negative : Bool) (m : ℕ) (e : ℤ) :
    (Double.finite negative m e).exact = withSign negative (m * 2 ^ e) := by
  rw [exact, scaled_eq]
  cases negative <;> simp [withSign]

variable {x v : ℚ} {negative : Bool} {d : Double}

theorem InFormat.isFinite (h : d.InFormat) : d.isFinite = true := by
  cases h
  rfl

theorem InFormat.exists_exact (h : d.InFormat) :
    ∃ m e : ℤ, |m| < 2 ^ 53 ∧ leastExponent ≤ e ∧ e ≤ greatestExponent ∧ d.exact = m * 2 ^ e := by
  obtain ⟨negative, h⟩ := h
  rename_i m e
  have hm : |(m : ℤ)| < 2 ^ 53 := by
    rw [abs_of_nonneg (Int.natCast_nonneg m)]
    exact_mod_cast h.lt
  rw [exact_finite]
  cases negative
  · exact ⟨m, e, hm, h.least, h.greatest, rfl⟩
  · refine ⟨-m, e, by rwa [abs_neg], h.least, h.greatest, ?_⟩
    rw [withSign, if_pos rfl, Int.cast_neg, neg_mul]
    rfl

theorem InFormat.abs_lt (h : d.InFormat) : |d.exact| < 2 ^ (1024 : ℤ) := by
  obtain ⟨m, e, hm, -, hgreatest, hexact⟩ := h.exists_exact
  have hgreatest : e ≤ 971 := hgreatest
  rw [hexact]
  exact (abs_mul_two_zpow_lt hm e).trans_le (two_zpow_mono (by omega))

theorem InFormat.rounded (h : d.InFormat) : Rounded d.exact d.exact := by
  obtain ⟨m, e, hm, hleast, -, hexact⟩ := h.exists_exact
  rw [hexact]
  exact Rounded.self hm hleast

/-- How `v` is stored: as it is, or as an infinity from `2 ^ 1024` on. -/
inductive Stores (v : ℚ) : Double → Prop
  | finite {d : Double} (h : d.InFormat) (hv : d.exact = v) : Stores v d
  | infinite {negative : Bool} (h : 2 ^ (1024 : ℤ) ≤ withSign negative v) :
    Stores v (.infinite negative)

theorem stores_zero (negative : Bool) :
    Stores (withSign negative 0) (.finite negative 0 leastExponent) := by
  apply Stores.finite
  · exact .finite negative ⟨by decide, .inr rfl, le_refl _, by decide⟩
  · rw [exact_finite, Nat.cast_zero, zero_mul]

theorem stores_of_exponent (negative : Bool) {m : ℕ} {e : ℤ} (hlt : m < 2 * leastFull)
    (hfull : leastFull ≤ m ∨ e = leastExponent) (hleast : leastExponent ≤ e) :
    Stores (withSign negative (m * 2 ^ e))
      (if greatestExponent < e then .infinite negative else .finite negative m e) := by
  split
  · rename_i h
    have he : 971 < e := h
    have hm : leastFull ≤ m := by
      rcases hfull with hfull | rfl
      · exact hfull
      · exact absurd he (by decide)
    have hm' : (2 : ℚ) ^ (52 : ℤ) ≤ m := by exact_mod_cast hm
    apply Stores.infinite
    rw [withSign_withSign]
    calc (2 : ℚ) ^ (1024 : ℤ) ≤ 2 ^ (52 + e) := two_zpow_mono (by omega)
      _ = 2 ^ (52 : ℤ) * 2 ^ e := zpow_add₀ two_ne_zero _ _
      _ ≤ m * 2 ^ e := mul_le_mul_of_nonneg_right hm' (two_zpow_pos e).le
  · rename_i h
    exact .finite (.finite negative ⟨hlt, hfull, hleast, not_lt.mp h⟩) (exact_finite _ _ _)

theorem stores_of_lastBit (negative : Bool) {m : ℕ} {e : ℤ} (hbit : LastBit x e)
    (hm : RoundsTo (x / 2 ^ e) m) :
    Stores (withSign negative (m * 2 ^ e))
      (let p : ℕ × ℤ := if m = 2 * leastFull then (leastFull, e + 1) else (m, e)
       if greatestExponent < p.2 then .infinite negative else .finite negative p.1 p.2) := by
  have hle : m ≤ 2 * leastFull := by
    have := hm.abs_le_of_abs_le (k := 2 ^ 53) (by push_cast; exact hbit.abs_div_lt.le)
    exact_mod_cast this
  by_cases hcarry : m = 2 * leastFull
  · have hvalue : (m : ℚ) * 2 ^ e = leastFull * 2 ^ (e + 1) := by
      rw [hcarry, zpow_add_one₀ two_ne_zero]
      push_cast
      ring
    rw [if_pos hcarry, hvalue]
    exact stores_of_exponent negative (by decide) (.inl (le_refl _))
      (hbit.least.trans (by omega))
  · have hfull : leastFull ≤ m ∨ e = leastExponent := by
      rcases hbit.full with hfull | hleast
      · left
        have := hm.le_abs_of_le_abs (k := 2 ^ 52) (by push_cast; exact LastBit.le_abs_div hfull)
        exact_mod_cast this
      · exact .inr hleast
    rw [if_neg hcarry]
    exact stores_of_exponent negative (by omega) hfull hbit.least

theorem ofRatio_stores (negative : Bool) {n d : ℕ} (hd : 0 < d) :
    ∃ v, Rounded ((n : ℚ) / d) v ∧ Stores (withSign negative v) (ofRatio negative n d) := by
  rw [ofRatio]
  split
  · rename_i hn
    refine ⟨0, ?_, stores_zero negative⟩
    rw [hn, Nat.cast_zero, zero_div]
    simpa using Rounded.self (m := 0) (e := leastExponent) (by decide) (le_refl _)
  · rename_i hn
    obtain ⟨hlo, hhi⟩ := log2Ratio_spec (Nat.pos_of_ne_zero hn) hd
    have hx : |(n : ℚ) / d| = n / d := abs_of_nonneg (by positivity)
    rw [← hx] at hlo hhi
    have hbit := LastBit.of_log hlo hhi
    dsimp only
    generalize max (log2Ratio n d - 52) leastExponent = e at *
    have hround := roundDiv_roundsTo (n := n * Nat.pow 2 (-e).toNat) (d := d * Nat.pow 2 e.toNat)
      (Nat.mul_pos hd (Nat.pow_pos two_pos))
    have hquotient : ((n * Nat.pow 2 (-e).toNat : ℕ) : ℚ) / (d * Nat.pow 2 e.toNat : ℕ) =
        n / d / 2 ^ e := by
      simp only [Nat.pow_eq]
      rw [← pow_toNat_div two_ne_zero e]
      push_cast
      field_simp
    rw [hquotient] at hround
    exact ⟨_, .intro hbit hround, stores_of_lastBit negative hbit hround⟩

end Double

/-! ## Decimals -/

namespace Decimal

variable {d : Decimal}

theorem exact_eq (d : Decimal) :
    d.exact = withSign d.negative (d.coefficient * 10 ^ d.exponent) := by
  rw [exact, scaled_eq]
  cases d.negative <;> simp [FormRules.withSign]

theorem abs_exact (d : Decimal) : |d.exact| = d.coefficient * 10 ^ d.exponent := by
  rw [exact_eq, abs_withSign]
  exact abs_of_nonneg (mul_nonneg (Nat.cast_nonneg _) (zpow_pos (by norm_num) _).le)

theorem size_pos (d : Decimal) : 0 < d.size := List.length_pos_iff.mpr Nat.toDigits_ne_nil

theorem coefficient_lt (d : Decimal) : d.coefficient < 10 ^ d.size :=
  (Nat.length_toDigits_le_iff (by decide) d.size_pos).mp (le_refl _)

theorem le_coefficient (h : d.coefficient ≠ 0) : 10 ^ (d.size - 1) ≤ d.coefficient := by
  by_contra hlt
  rcases Nat.eq_zero_or_pos (d.size - 1) with hsize | hsize
  · rw [hsize] at hlt
    omega
  · have : d.size ≤ d.size - 1 :=
      (Nat.length_toDigits_le_iff (by decide) hsize).mpr (not_le.mp hlt)
    omega

theorem ten_zpow_mono {m n : ℤ} (h : m ≤ n) : (10 : ℚ) ^ m ≤ 10 ^ n :=
  zpow_le_zpow_right₀ (by norm_num) h

theorem two_zpow_le_ten_zpow (k : ℕ) : (2 : ℚ) ^ (3 * k : ℤ) ≤ 10 ^ (k : ℤ) := by
  rw [zpow_mul, zpow_natCast, zpow_natCast]
  exact pow_le_pow_left₀ (by norm_num) (by norm_num) k

theorem le_abs_exact (hne : d.coefficient ≠ 0) (h : 400 < d.exponent + d.size) :
    2 ^ (1024 : ℤ) ≤ |d.exact| := by
  have hc : (10 : ℚ) ^ (d.size - 1 : ℤ) ≤ d.coefficient := by
    rw [← Nat.cast_pred d.size_pos, zpow_natCast]
    exact_mod_cast le_coefficient hne
  rw [abs_exact]
  calc (2 : ℚ) ^ (1024 : ℤ) ≤ 2 ^ (3 * (400 : ℕ) : ℤ) := two_zpow_mono (by norm_num)
    _ ≤ 10 ^ ((400 : ℕ) : ℤ) := two_zpow_le_ten_zpow 400
    _ ≤ 10 ^ (d.size - 1 + d.exponent : ℤ) := ten_zpow_mono (by omega)
    _ = 10 ^ (d.size - 1 : ℤ) * 10 ^ d.exponent := zpow_add₀ (by norm_num) _ _
    _ ≤ _ := mul_le_mul_of_nonneg_right hc (zpow_pos (by norm_num) _).le

theorem abs_exact_lt (h : d.exponent + d.size < -400) :
    |d.exact| < 2 ^ (Double.leastExponent - 1) := by
  have hc : (d.coefficient : ℚ) < 10 ^ (d.size : ℤ) := by exact_mod_cast d.coefficient_lt
  rw [abs_exact]
  calc (d.coefficient : ℚ) * 10 ^ d.exponent < 10 ^ (d.size : ℤ) * 10 ^ d.exponent :=
        mul_lt_mul_of_pos_right hc (zpow_pos (by norm_num) _)
    _ = 10 ^ (d.exponent + d.size : ℤ) := by rw [← zpow_add₀ (by norm_num), add_comm]
    _ ≤ 10 ^ (-(400 : ℕ) : ℤ) := ten_zpow_mono (by omega)
    _ = (10 ^ ((400 : ℕ) : ℤ))⁻¹ := zpow_neg _ _
    _ ≤ (2 ^ (3 * (400 : ℕ) : ℤ))⁻¹ := inv_anti₀ (two_zpow_pos _) (two_zpow_le_ten_zpow 400)
    _ = 2 ^ (-(3 * (400 : ℕ)) : ℤ) := (zpow_neg _ _).symm
    _ ≤ 2 ^ (Double.leastExponent - 1) := two_zpow_mono (by decide)

end Decimal

namespace Double

variable {d : Decimal}

theorem ofDecimal_stores (d : Decimal) : ∃ v, Rounded d.exact v ∧ Stores v (ofDecimal d) := by
  have hratio : ((d.coefficient * Nat.pow 10 d.exponent.toNat : ℕ) : ℚ) /
      (Nat.pow 10 (-d.exponent).toNat : ℕ) = d.coefficient * 10 ^ d.exponent := by
    simp only [Nat.pow_eq]
    rw [← pow_toNat_div (by norm_num) d.exponent, mul_div_assoc']
    push_cast
    rfl
  obtain ⟨v, hround, hstores⟩ := ofRatio_stores d.negative
    (n := d.coefficient * Nat.pow 10 d.exponent.toNat) (d := Nat.pow 10 (-d.exponent).toNat)
    (Nat.pow_pos (by decide))
  rw [hratio] at hround
  have hexact := hround.withSign d.negative
  rw [← Decimal.exact_eq] at hexact
  refine ⟨withSign d.negative v, hexact, ?_⟩
  rw [← Decimal.abs_exact] at hround
  rw [ofDecimal]
  split
  · rename_i hzero
    have habs := d.abs_exact
    rw [hzero, Nat.cast_zero, zero_mul] at habs
    rw [hround.eq_zero_of_lt (by rw [abs_abs, habs]; exact two_zpow_pos _)]
    exact stores_zero d.negative
  · rename_i hne
    dsimp only
    split
    · rename_i hlarge
      have hpower := Rounded.self (m := 1) (e := 1024) (by decide) (by decide)
      rw [Int.cast_one, one_mul] at hpower
      apply Stores.infinite
      rw [withSign_withSign]
      exact hpower.mono hround (Decimal.le_abs_exact hne hlarge)
    · split
      · rename_i hsmall
        rw [hround.eq_zero_of_lt (by rw [abs_abs]; exact Decimal.abs_exact_lt hsmall)]
        exact stores_zero d.negative
      · exact hstores

/-! ## The nearest double -/

def mantissa : Double → ℕ
  | .finite _ m _ => m
  | _ => 0

/-- No finite number of the format is nearer to `x`, and none other is as near if the mantissa is
odd. -/
structure IsNearest (n : Double) (x : ℚ) : Prop where
  inFormat : n.InFormat
  le : ∀ other : Double, other.InFormat → |x - n.exact| ≤ |x - other.exact|
  even : ∀ other : Double, other.InFormat → other.exact ≠ n.exact →
    |x - n.exact| = |x - other.exact| → Even n.mantissa

variable {x v : ℚ} {n : Double}

theorem InFormat.even_mantissa (h : n.InFormat) {m e : ℤ} (hle : |m| ≤ 2 ^ 53)
    (hleast : leastExponent ≤ e) (hm : Even m) (hv : n.exact = m * 2 ^ e) : Even n.mantissa := by
  obtain ⟨negative, h⟩ := h
  rename_i k f
  have habs : (k : ℚ) * 2 ^ f = m.natAbs * 2 ^ e := by
    have := congrArg abs hv
    rw [exact_finite, abs_withSign, abs_mul, abs_mul, abs_of_pos (two_zpow_pos e),
      abs_of_pos (two_zpow_pos f), Nat.abs_cast] at this
    rw [this, Nat.cast_natAbs, Int.cast_abs]
  have heven : Even m.natAbs := Int.natAbs_even.mpr hm
  rw [mantissa]
  rcases le_total f e with hfe | hef
  · obtain ⟨j, rfl⟩ := Int.exists_add_of_le hfe
    rw [zpow_add₀ two_ne_zero, mul_comm (2 ^ f : ℚ), ← mul_assoc, zpow_natCast] at habs
    have hk : k = m.natAbs * 2 ^ j := by exact_mod_cast mul_right_cancel₀ (two_zpow_pos f).ne' habs
    rw [hk]
    exact heven.mul_right _
  · obtain ⟨j, rfl⟩ := Int.exists_add_of_le hef
    rw [zpow_add₀ two_ne_zero, mul_comm (2 ^ e : ℚ), ← mul_assoc, zpow_natCast] at habs
    have hk : k * 2 ^ j = m.natAbs := by exact_mod_cast mul_right_cancel₀ (two_zpow_pos e).ne' habs
    cases j with
    | zero =>
      rw [pow_zero, mul_one] at hk
      rw [hk]
      exact heven
    | succ j =>
      -- the only mantissa that a carry leaves
      have hfull : leastFull ≤ k := h.full.resolve_right (by omega)
      have hcarry : k * 2 ≤ 2 * leastFull := by
        calc k * 2 ≤ k * 2 ^ (j + 1) := Nat.mul_le_mul_left k (Nat.le_self_pow (by omega) 2)
          _ = m.natAbs := hk
          _ ≤ 2 * leastFull := by
            have : (m.natAbs : ℤ) ≤ 2 ^ 53 := by rwa [Int.natCast_natAbs]
            exact_mod_cast this
      rw [le_antisymm (by omega) hfull]
      decide

theorem Stores.isFinite_iff (h : Stores v n) : n.isFinite = true ↔ |v| < 2 ^ (1024 : ℤ) := by
  cases h with
  | finite h hv =>
    rw [← hv]
    exact iff_of_true h.isFinite h.abs_lt
  | infinite h =>
    rename_i negative
    have := h.trans (le_abs_self _)
    rw [abs_withSign] at this
    exact iff_of_false Bool.false_ne_true (not_lt.mpr this)

theorem Stores.of_isFinite (h : Stores v n) (hfinite : n.isFinite = true) :
    n.InFormat ∧ n.exact = v := by
  cases h with
  | finite h hv => exact ⟨h, hv⟩
  | infinite h => cases hfinite

theorem limit_le_ten_pow : limit ≤ 10 ^ 400 := by
  calc limit ≤ 2 ^ (1024 : ℤ) := Rounded.limit_lt.le
    _ ≤ 2 ^ (3 * (400 : ℕ) : ℤ) := two_zpow_mono (by norm_num)
    _ ≤ 10 ^ ((400 : ℕ) : ℤ) := Decimal.two_zpow_le_ten_zpow 400
    _ = 10 ^ 400 := zpow_natCast _ _

theorem isFinite_ofDecimal_iff : (ofDecimal d).isFinite = true ↔ |d.exact| < limit := by
  obtain ⟨v, hround, hstores⟩ := ofDecimal_stores d
  rw [hstores.isFinite_iff, ← not_le, hround.le_abs_iff, not_le]

theorem rounded_ofDecimal (h : (ofDecimal d).isFinite = true) :
    Rounded d.exact (ofDecimal d).exact := by
  obtain ⟨v, hround, hstores⟩ := ofDecimal_stores d
  rwa [(hstores.of_isFinite h).2]

theorem isNearest_ofDecimal (h : (ofDecimal d).isFinite = true) :
    (ofDecimal d).IsNearest d.exact := by
  obtain ⟨v, hround, hstores⟩ := ofDecimal_stores d
  obtain ⟨hformat, hv⟩ := hstores.of_isFinite h
  obtain ⟨hbit, hm⟩ := hround
  refine ⟨hformat, ?_, ?_⟩
  · intro other hother
    obtain ⟨k, f, hk, hf, -, hw⟩ := hother.exists_exact
    rw [hv, hw]
    exact (Rounded.nearest hbit hm hk hf).1
  · intro other hother hne htie
    obtain ⟨k, f, hk, hf, -, hw⟩ := hother.exists_exact
    rw [hv, hw] at hne htie
    have heven := (Rounded.nearest hbit hm hk hf).2 hne htie
    apply hformat.even_mantissa _ hbit.least heven hv
    exact hm.abs_le_of_abs_le (by push_cast; exact hbit.abs_div_lt.le)

theorem IsNearest.exact_eq {other : Double} (h : n.IsNearest x) (hother : other.InFormat)
    (heq : other.exact = x) : n.exact = x := by
  have hle := h.le other hother
  rw [heq, sub_self, abs_zero] at hle
  exact (sub_eq_zero.mp (abs_nonpos_iff.mp hle)).symm

end Double
end FormRules
