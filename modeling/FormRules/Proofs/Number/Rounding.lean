import FormRules.Number.Double
import Mathlib

/-! Rounding to 53 bits, as a relation between rational numbers. The place of the last bit goes by
the magnitude of a number; a number is rounded to the nearest multiple of that bit, from half way to
the even one. -/

namespace FormRules

/-- No integer is nearer to `x` than `m`, and from half way `m` is the even one. -/
structure RoundsTo (x : ℚ) (m : ℤ) : Prop where
  close : |x - m| ≤ 1 / 2
  even : |x - m| = 1 / 2 → Even m

namespace RoundsTo

variable {x y : ℚ} {m n k : ℤ}

theorem self (m : ℤ) : RoundsTo m m := by
  constructor
  · simp
  · intro h
    norm_num at h

theorem neg (h : RoundsTo x m) : RoundsTo (-x) (-m) := by
  have habs : |-x - ((-m : ℤ) : ℚ)| = |x - m| := by
    rw [← abs_neg]
    push_cast
    ring_nf
  constructor
  · rw [habs]
    exact h.close
  · intro heq
    rw [habs] at heq
    exact (h.even heq).neg

theorem mono (hx : RoundsTo x m) (hy : RoundsTo y n) (h : x ≤ y) : m ≤ n := by
  by_contra hlt
  have hstep : n + 1 ≤ m := by omega
  have hstep' : (n : ℚ) + 1 ≤ m := by exact_mod_cast hstep
  obtain ⟨hx_lo, -⟩ := abs_le.mp hx.close
  obtain ⟨-, hy_hi⟩ := abs_le.mp hy.close
  -- only half way between the two, where one of them is odd
  have hm : x - m = -(1 / 2) := by linarith
  have hn : y - n = 1 / 2 := by linarith
  have hnext : m = n + 1 := by
    have : (m : ℚ) = n + 1 := by linarith
    exact_mod_cast this
  have hm_even := hx.even (by rw [hm]; norm_num)
  have hn_even := hy.even (by rw [hn]; norm_num)
  rw [hnext] at hm_even
  exact Int.not_even_iff_odd.mpr hn_even.add_one hm_even

theorem le_of_le (hx : RoundsTo x m) (h : x ≤ k) : m ≤ k := hx.mono (self k) h

theorem le_of_ge (hx : RoundsTo x m) (h : k ≤ x) : k ≤ m := (self k).mono hx h

theorem abs_le_of_abs_le (hx : RoundsTo x m) (h : |x| ≤ k) : |m| ≤ k := by
  obtain ⟨hlo, hhi⟩ := abs_le.mp h
  apply abs_le.mpr
  exact ⟨hx.le_of_ge (by push_cast; exact hlo), hx.le_of_le hhi⟩

theorem le_abs_of_le_abs (hx : RoundsTo x m) (h : k ≤ |x|) : k ≤ |m| := by
  rcases le_abs.mp h with h | h
  · exact (hx.le_of_ge h).trans (le_abs_self m)
  · exact (hx.neg.le_of_ge h).trans (neg_le_abs m)

theorem half_le (hx : RoundsTo x m) (hk : k ≠ m) : 1 / 2 ≤ |x - k| := by
  have hstep : 1 ≤ |k - m| := Int.one_le_abs (sub_ne_zero.mpr hk)
  have hstep' : (1 : ℚ) ≤ |(k : ℚ) - m| := by exact_mod_cast hstep
  have htriangle := abs_sub_le (k : ℚ) x m
  rw [abs_sub_comm (k : ℚ) x] at htriangle
  have := hx.close
  linarith

theorem nearest (hx : RoundsTo x m) (k : ℤ) : |x - m| ≤ |x - k| := by
  by_cases hk : k = m
  · rw [hk]
  · exact hx.close.trans (hx.half_le hk)

theorem even_of_tie (hx : RoundsTo x m) (hk : k ≠ m) (htie : |x - m| = |x - k|) : Even m :=
  hx.even (le_antisymm hx.close (htie ▸ hx.half_le hk))

theorem div_iff {d : ℕ} (hd : 0 < d) :
    RoundsTo (n / d) m ↔ 2 * |n - m * d| ≤ d ∧ (2 * |n - m * d| = d → Even m) := by
  have hd' : (0 : ℚ) < d := by exact_mod_cast hd
  have habs : |(n : ℚ) / d - m| = ((|n - m * d| : ℤ) : ℚ) / d := by
    rw [div_sub' hd'.ne', abs_div, abs_of_pos hd', mul_comm (d : ℚ)]
    push_cast
    rfl
  have hle : |(n : ℚ) / d - m| ≤ 1 / 2 ↔ 2 * |n - m * d| ≤ d := by
    rw [habs, div_le_div_iff₀ hd' two_pos, one_mul, mul_comm]
    exact_mod_cast Iff.rfl
  have heq : |(n : ℚ) / d - m| = 1 / 2 ↔ 2 * |n - m * d| = d := by
    rw [habs, div_eq_div_iff hd'.ne' two_ne_zero, one_mul, mul_comm]
    exact_mod_cast Iff.rfl
  rw [← hle, ← heq]
  exact ⟨fun h => ⟨h.close, h.even⟩, fun h => ⟨h.1, h.2⟩⟩

end RoundsTo

theorem two_zpow_pos (e : ℤ) : (0 : ℚ) < 2 ^ e := zpow_pos two_pos e

theorem two_zpow_mono {d e : ℤ} (h : d ≤ e) : (2 : ℚ) ^ d ≤ 2 ^ e :=
  zpow_le_zpow_right₀ one_le_two h

theorem mul_two_zpow_add (m e : ℤ) (k : ℕ) :
    (m : ℚ) * 2 ^ (e + k) = ((m * 2 ^ k : ℤ) : ℚ) * 2 ^ e := by
  rw [zpow_add₀ two_ne_zero, zpow_natCast]
  push_cast
  ring

theorem abs_mul_two_zpow_lt {m : ℤ} (hm : |m| < 2 ^ 53) (e : ℤ) :
    |(m : ℚ) * 2 ^ e| < 2 ^ (53 + e) := by
  have hm' : |(m : ℚ)| < 2 ^ (53 : ℤ) := by exact_mod_cast hm
  rw [abs_mul, abs_of_pos (two_zpow_pos e), zpow_add₀ two_ne_zero]
  exact mul_lt_mul_of_pos_right hm' (two_zpow_pos e)

/-- The bits of `2 ^ e` and the 52 before it are those that a number of the magnitude of `x` keeps.
-/
structure LastBit (x : ℚ) (e : ℤ) : Prop where
  lt : |x| < 2 ^ (53 + e)
  full : 2 ^ (52 + e) ≤ |x| ∨ e = Double.leastExponent
  least : Double.leastExponent ≤ e

namespace LastBit

variable {x y : ℚ} {d e : ℤ}

theorem neg (h : LastBit x e) : LastBit (-x) e := by
  obtain ⟨hlt, hfull, hleast⟩ := h
  rw [← abs_neg x] at hlt hfull
  exact ⟨hlt, hfull, hleast⟩

theorem le_of_lt (hx : LastBit x d) (hleast : Double.leastExponent ≤ e)
    (hlt : |x| < 2 ^ (53 + e)) : d ≤ e := by
  rcases hx.full with hfull | rfl
  · have := (zpow_lt_zpow_iff_right₀ (one_lt_two (α := ℚ))).mp (hfull.trans_lt hlt)
    omega
  · exact hleast

theorem mono (hx : LastBit x d) (hy : LastBit y e) (h : |x| ≤ |y|) : d ≤ e :=
  hx.le_of_lt hy.least (h.trans_lt hy.lt)

theorem abs_div_lt (h : LastBit x e) : |x / 2 ^ e| < 2 ^ 53 := by
  rw [abs_div, abs_of_pos (two_zpow_pos e), div_lt_iff₀ (two_zpow_pos e), ← zpow_natCast,
    ← zpow_add₀ two_ne_zero]
  exact h.lt

theorem le_abs_div (h : 2 ^ (52 + e) ≤ |x|) : 2 ^ 52 ≤ |x / 2 ^ e| := by
  rw [abs_div, abs_of_pos (two_zpow_pos e), le_div_iff₀ (two_zpow_pos e), ← zpow_natCast,
    ← zpow_add₀ two_ne_zero]
  exact h

theorem of_log {k : ℤ} (hlo : 2 ^ k ≤ |x|) (hhi : |x| < 2 ^ (k + 1)) :
    LastBit x (max (k - 52) Double.leastExponent) := by
  refine ⟨hhi.trans_le (two_zpow_mono (by omega)), ?_, le_max_right _ _⟩
  rcases le_total (k - 52) Double.leastExponent with h | h
  · exact .inr (max_eq_right h)
  · rw [max_eq_left h, add_sub_cancel]
    exact .inl hlo

theorem exists_of (x : ℚ) : ∃ e, LastBit x e := by
  by_cases hx : x = 0
  · refine ⟨Double.leastExponent, ?_, .inr rfl, le_refl _⟩
    rw [hx, abs_zero]
    exact two_zpow_pos _
  · have hlo := Int.zpow_log_le_self (b := 2) one_lt_two (abs_pos.mpr hx)
    have hhi := Int.lt_zpow_succ_log_self (b := 2) one_lt_two |x|
    exact ⟨_, of_log (by exact_mod_cast hlo) (by exact_mod_cast hhi)⟩

end LastBit

inductive Rounded (x : ℚ) : ℚ → Prop
  | intro {m e : ℤ} (hbit : LastBit x e) (hm : RoundsTo (x / 2 ^ e) m) : Rounded x (m * 2 ^ e)

namespace Rounded

variable {x y v w : ℚ} {m e : ℤ}

theorem neg (h : Rounded x v) : Rounded (-x) (-v) := by
  obtain ⟨hbit, hm⟩ := h
  rw [← neg_mul, ← Int.cast_neg]
  apply intro hbit.neg
  rw [neg_div]
  exact hm.neg

theorem nonneg (h : Rounded x v) (hx : 0 ≤ x) : 0 ≤ v := by
  obtain ⟨hbit, hm⟩ := h
  have hm0 := hm.le_of_ge (k := 0) (by push_cast; exact div_nonneg hx (two_zpow_pos _).le)
  exact mul_nonneg (by exact_mod_cast hm0) (two_zpow_pos _).le

theorem abs_le_of_lastBit (hbit : LastBit x e) (hm : RoundsTo (x / 2 ^ e) m) :
    |(m : ℚ) * 2 ^ e| ≤ 2 ^ (53 + e) := by
  have hle : |m| ≤ 2 ^ 53 := hm.abs_le_of_abs_le (by push_cast; exact hbit.abs_div_lt.le)
  have hle' : |(m : ℚ)| ≤ 2 ^ (53 : ℤ) := by exact_mod_cast hle
  rw [abs_mul, abs_of_pos (two_zpow_pos e), zpow_add₀ two_ne_zero]
  exact mul_le_mul_of_nonneg_right hle' (two_zpow_pos e).le

theorem le_abs_of_full (hfull : 2 ^ (52 + e) ≤ |x|) (hm : RoundsTo (x / 2 ^ e) m) :
    2 ^ (52 + e) ≤ |(m : ℚ) * 2 ^ e| := by
  have hle : 2 ^ 52 ≤ |m| := hm.le_abs_of_le_abs (by push_cast; exact LastBit.le_abs_div hfull)
  have hle' : (2 : ℚ) ^ (52 : ℤ) ≤ |(m : ℚ)| := by exact_mod_cast hle
  rw [abs_mul, abs_of_pos (two_zpow_pos e), zpow_add₀ two_ne_zero]
  exact mul_le_mul_of_nonneg_right hle' (two_zpow_pos e).le

theorem mono_of_nonneg (hx : Rounded x v) (hy : Rounded y w) (h0 : 0 ≤ x) (h : x ≤ y) :
    v ≤ w := by
  have hw := hy.nonneg (h0.trans h)
  have hv := hx.nonneg h0
  obtain ⟨hbit, hm⟩ := hx
  obtain ⟨hbit', hm'⟩ := hy
  rename_i d m e n
  have habs : |x| ≤ |y| := abs_le_abs_of_nonneg h0 h
  rcases (hbit.mono hbit' habs).eq_or_lt with rfl | hlt
  · have hmn := hm.mono hm' (div_le_div_of_nonneg_right h (two_zpow_pos _).le)
    exact mul_le_mul_of_nonneg_right (by exact_mod_cast hmn) (two_zpow_pos _).le
  · -- a higher bit comes with a higher binade
    have hfull : 2 ^ (52 + n) ≤ |y| := by
      have := hbit.least
      rcases hbit'.full with hfull | hleast
      · exact hfull
      · omega
    rw [← abs_of_nonneg hv, ← abs_of_nonneg hw]
    calc _ ≤ (2 : ℚ) ^ (53 + _) := abs_le_of_lastBit hbit hm
      _ ≤ 2 ^ (52 + n) := two_zpow_mono (by omega)
      _ ≤ _ := le_abs_of_full hfull hm'

theorem mono (hx : Rounded x v) (hy : Rounded y w) (h : x ≤ y) : v ≤ w := by
  rcases le_total 0 x with hx0 | hx0
  · exact hx.mono_of_nonneg hy hx0 h
  · rcases le_total 0 y with hy0 | hy0
    · have hv := hx.neg.nonneg (neg_nonneg.mpr hx0)
      have hw := hy.nonneg hy0
      linarith
    · have := hy.neg.mono_of_nonneg hx.neg (neg_nonneg.mpr hy0) (neg_le_neg h)
      linarith

theorem unique (h : Rounded x v) (h' : Rounded x w) : v = w :=
  le_antisymm (h.mono h' (le_refl x)) (h'.mono h (le_refl x))

theorem le_iff_of_ne (hx : Rounded x v) (hy : Rounded y w) (hne : v ≠ w) : v ≤ w ↔ x ≤ y := by
  constructor
  · intro hle
    by_contra hlt
    exact hne (le_antisymm hle (hy.mono hx (le_of_not_ge hlt)))
  · exact hx.mono hy

theorem self (hm : |m| < 2 ^ 53) (hleast : Double.leastExponent ≤ e) :
    Rounded ((m : ℚ) * 2 ^ e) (m * 2 ^ e) := by
  obtain ⟨d, hbit⟩ := LastBit.exists_of ((m : ℚ) * 2 ^ e)
  have hle := hbit.le_of_lt hleast (abs_mul_two_zpow_lt hm e)
  obtain ⟨k, rfl⟩ := Int.exists_add_of_le hle
  rw [mul_two_zpow_add] at hbit ⊢
  apply intro hbit
  rw [mul_div_assoc, div_self (two_zpow_pos d).ne', mul_one]
  exact RoundsTo.self _

theorem eq_zero_of_lt (h : Rounded x v) (hlt : |x| < 2 ^ (Double.leastExponent - 1)) : v = 0 := by
  have hbit : LastBit x Double.leastExponent :=
    ⟨hlt.trans_le (two_zpow_mono (by omega)), .inr rfl, le_refl _⟩
  have hhalf : |x / 2 ^ Double.leastExponent| < 1 / 2 := by
    rw [abs_div, abs_of_pos (two_zpow_pos _), div_lt_iff₀ (two_zpow_pos _), mul_comm,
      mul_one_div, div_eq_mul_inv, ← zpow_sub_one₀ two_ne_zero]
    exact hlt
  have hm : RoundsTo (x / 2 ^ Double.leastExponent) 0 := by
    rw [← sub_zero (x / 2 ^ Double.leastExponent), ← Int.cast_zero] at hhalf
    exact ⟨hhalf.le, fun heq => absurd heq hhalf.ne⟩
  have := h.unique (.intro hbit hm)
  rwa [Int.cast_zero, zero_mul] at this

theorem abs (h : Rounded x v) : Rounded |x| |v| := by
  rcases le_total 0 x with hx | hx
  · rw [abs_of_nonneg hx, abs_of_nonneg (h.nonneg hx)]
    exact h
  · have hv := h.neg.nonneg (neg_nonneg.mpr hx)
    rw [abs_of_nonpos hx, abs_of_nonpos (neg_nonneg.mp hv)]
    exact h.neg

theorem abs_sub_mul_zpow (x : ℚ) (m e : ℤ) : |x - m * 2 ^ e| = |x / 2 ^ e - m| * 2 ^ e := by
  rw [← abs_of_pos (two_zpow_pos e), ← abs_mul, abs_of_pos (two_zpow_pos e), sub_mul,
    div_mul_cancel₀ _ (two_zpow_pos e).ne']

/-- Multiples of the last bit are no nearer, ... -/
theorem le_of_multiple (hm : RoundsTo (x / 2 ^ e) m) (k : ℤ) :
    |x - m * 2 ^ e| ≤ |x - k * 2 ^ e| ∧
      (k ≠ m → |x - m * 2 ^ e| = |x - k * 2 ^ e| → Even m) := by
  rw [abs_sub_mul_zpow, abs_sub_mul_zpow]
  constructor
  · exact mul_le_mul_of_nonneg_right (hm.nearest k) (two_zpow_pos e).le
  · intro hk htie
    exact hm.even_of_tie hk (mul_right_cancel₀ (two_zpow_pos e).ne' htie)

/-- ... and numbers of a lower binade are farther away than the power of two above them. -/
theorem lt_of_lower (hfull : 2 ^ (52 + e) ≤ |x|) (hm : RoundsTo (x / 2 ^ e) m)
    (hw : |w| < 2 ^ (52 + e)) : |x - m * 2 ^ e| < |x - w| := by
  have hpower : (2 : ℚ) ^ (52 + e) = ((2 ^ 52 : ℤ) : ℚ) * 2 ^ e := by
    rw [zpow_add₀ two_ne_zero]
    norm_num
  have hnear : |x - m * 2 ^ e| ≤ |x| - 2 ^ (52 + e) := by
    rcases abs_cases x with ⟨hx, -⟩ | ⟨hx, -⟩
    · calc |x - m * 2 ^ e| ≤ |x - (2 ^ 52 : ℤ) * 2 ^ e| := (le_of_multiple hm (2 ^ 52)).1
        _ = |x| - 2 ^ (52 + e) := by rw [← hpower, abs_of_nonneg (by linarith), hx]
    · calc |x - m * 2 ^ e| ≤ |x - (-2 ^ 52 : ℤ) * 2 ^ e| := (le_of_multiple hm (-2 ^ 52)).1
        _ = |x| - 2 ^ (52 + e) := by
          rw [Int.cast_neg, neg_mul, ← hpower, abs_of_nonpos (by linarith), hx]
          ring
  have := abs_sub_abs_le_abs_sub x w
  linarith

theorem nearest (hbit : LastBit x e) (hm : RoundsTo (x / 2 ^ e) m) {k f : ℤ} (hk : |k| < 2 ^ 53)
    (hleast : Double.leastExponent ≤ f) :
    |x - m * 2 ^ e| ≤ |x - k * 2 ^ f| ∧
      ((k : ℚ) * 2 ^ f ≠ m * 2 ^ e → |x - m * 2 ^ e| = |x - k * 2 ^ f| → Even m) := by
  rcases le_or_gt e f with hef | hef
  · obtain ⟨n, rfl⟩ := Int.exists_add_of_le hef
    obtain ⟨hle, htie⟩ := le_of_multiple hm (k * 2 ^ n)
    rw [mul_two_zpow_add]
    exact ⟨hle, fun hne => htie fun heq => hne (by rw [heq])⟩
  · have hfull := hbit.full.resolve_right (by omega)
    have hw := (abs_mul_two_zpow_lt hk f).trans_le (two_zpow_mono (e := 52 + e) (by omega))
    have hlt := lt_of_lower hfull hm hw
    exact ⟨hlt.le, fun _ heq => absurd heq hlt.ne⟩

end Rounded

/-! ## The upper end -/

/-- From here on a number is rounded to `2 ^ 1024` or more: it is half way between that and the
greatest number of 53 bits below. -/
def Double.limit : ℚ := 2 ^ (1024 : ℤ) - 2 ^ (970 : ℤ)

namespace Rounded

variable {x v : ℚ}

theorem two_zpow_1024 : (2 : ℚ) ^ (1024 : ℤ) = 2 ^ (53 : ℤ) * 2 ^ (971 : ℤ) :=
  zpow_add₀ two_ne_zero 53 971

theorem limit_div : Double.limit / 2 ^ (971 : ℤ) = 2 ^ (53 : ℤ) - 1 / 2 := by
  have hstep : (2 : ℚ) ^ (971 : ℤ) = 2 * 2 ^ (970 : ℤ) := zpow_one_add₀ two_ne_zero 970
  rw [Double.limit, div_eq_iff (two_zpow_pos 971).ne', two_zpow_1024, hstep]
  ring

theorem limit_lt : Double.limit < 2 ^ (1024 : ℤ) := sub_lt_self _ (two_zpow_pos 970)

theorem le_limit : 2 ^ (1023 : ℤ) ≤ Double.limit := by
  have hbinade : (2 : ℚ) ^ (1024 : ℤ) = 2 * 2 ^ (1023 : ℤ) := zpow_one_add₀ two_ne_zero 1023
  have hlower : (2 : ℚ) ^ (970 : ℤ) ≤ 2 ^ (1023 : ℤ) := two_zpow_mono (by decide)
  rw [Double.limit, hbinade, two_mul, le_sub_iff_add_le]
  exact add_le_add_right hlower _

theorem limit_pos : 0 < Double.limit := (two_zpow_pos 1023).trans_le le_limit

theorem rounded_limit : Rounded Double.limit (2 ^ (1024 : ℤ)) := by
  have hbit : LastBit Double.limit 971 := by
    refine ⟨?_, .inl ?_, by decide⟩
    · rw [abs_of_pos limit_pos]
      exact limit_lt
    · rw [abs_of_pos limit_pos]
      exact le_limit
  have hm : RoundsTo (Double.limit / 2 ^ (971 : ℤ)) (2 ^ 53) := by
    rw [limit_div]
    constructor
    · norm_num
    · intro _
      decide
  have := Rounded.intro hbit hm
  rwa [Int.cast_pow, Int.cast_ofNat, ← zpow_natCast, ← zpow_add₀ two_ne_zero] at this

theorem lt_of_lt_limit (h : Rounded x v) (hx : |x| < Double.limit) : v < 2 ^ (1024 : ℤ) := by
  obtain ⟨hbit, hm⟩ := h
  rename_i m e
  have hle : e ≤ 971 := hbit.le_of_lt (by decide) (hx.trans limit_lt)
  rcases hle.eq_or_lt with rfl | hlower
  · have hquotient := div_lt_div_of_pos_right ((le_abs_self x).trans_lt hx) (two_zpow_pos 971)
    rw [limit_div] at hquotient
    have hclose := (abs_le.mp hm.close).1
    rw [two_zpow_1024]
    exact mul_lt_mul_of_pos_right (by linarith) (two_zpow_pos 971)
  · calc (m : ℚ) * 2 ^ e ≤ |(m : ℚ) * 2 ^ e| := le_abs_self _
      _ ≤ 2 ^ (53 + e) := abs_le_of_lastBit hbit hm
      _ < 2 ^ (1024 : ℤ) := zpow_lt_zpow_right₀ one_lt_two (by omega)

theorem le_abs_iff (h : Rounded x v) : 2 ^ (1024 : ℤ) ≤ |v| ↔ Double.limit ≤ |x| := by
  constructor
  · contrapose!
    intro hlt
    exact h.abs.lt_of_lt_limit (by rwa [abs_abs])
  · exact rounded_limit.mono h.abs

end Rounded

end FormRules
