import FormRules.Proofs.FirstFailure
import FormRules.Proofs.Number.Literal
import FormRules.Proofs.Number.Nearest
import FormRules.Value.Written

/-! Bounds on numbers. A bound is kept as the double nearest to its literal, and a numeric text is
the double nearest to it; integers and decimals are compared as they are. So a verdict is that of
the exact numbers but for what rounding puts together or apart. -/

namespace FormRules

def Value.rational? : Value → Option ℚ
  | .int n => some n
  | .decimal (.finite d) => some d.exact
  | _ => none

def Text.spelled? (s : String) : Option ℚ := (Decimal.read? (trim s.toList)).map Decimal.exact

namespace Value

theorem numberOfText?_of_read {s : String} {d : Decimal}
    (h : Decimal.read? (Text.trim s.toList) = some d) :
    numberOfText? s =
      if (Double.ofDecimal d).isFinite then some (.double (Double.ofDecimal d)) else none := by
  rw [numberOfText?, h]

theorem read?_of_numberOfText? {s : String} {n : Number} (h : numberOfText? s = some n) :
    ∃ d, Decimal.read? (Text.trim s.toList) = some d ∧ (Double.ofDecimal d).isFinite = true ∧
      n = .double (Double.ofDecimal d) := by
  cases hread : Decimal.read? (Text.trim s.toList) with
  | none => simp [numberOfText?, hread] at h
  | some d =>
    rw [numberOfText?_of_read hread] at h
    split at h
    · rename_i hfinite
      exact ⟨d, rfl, hfinite, (Option.some.inj h).symm⟩
    · cases h

theorem number?_of_rational? {v : Value} {q : ℚ} (h : v.rational? = some q) :
    ∃ n, v.number? = some n ∧ n.exact = q := by
  cases v with
  | int n => exact ⟨.integer n, rfl, Option.some.inj h⟩
  | decimal d =>
    cases d with
    | finite d => exact ⟨.decimal d, rfl, Option.some.inj h⟩
    | _ => cases h
  | _ => cases h

theorem number?_text_of_lt {s : String} {d : Decimal}
    (h : Decimal.read? (Text.trim s.toList) = some d) (hlimit : |d.exact| < Double.limit) :
    (text s).number? = some (.double (Double.ofDecimal d)) := by
  rw [number?, numberOfText?_of_read h, if_pos (Double.isFinite_ofDecimal_iff.mpr hlimit)]

theorem number?_text_of_ge {s : String} {d : Decimal}
    (h : Decimal.read? (Text.trim s.toList) = some d) (hlimit : Double.limit ≤ |d.exact|) :
    (text s).number? = none := by
  rw [number?, numberOfText?_of_read h,
    if_neg (Double.isFinite_ofDecimal_iff.not.mpr (not_lt.mpr hlimit))]

theorem read?_written (n : ℤ) :
    Decimal.read? (Text.trim (Value.int n).written.toList) = some (Decimal.ofInt n) := by
  have hchars : (Value.int n).chars = Text.intDigits n := by simp [chars, expression]
  rw [written, String.toList_ofList, hchars, Text.trim_intDigits, Decimal.read?_intDigits]

end Value

namespace Rule

theorem requireNumber_eq_ok_iff {name N : String} {bound : Number} :
    requireNumber name (some N) = .ok bound ↔
      N.isEmpty = false ∧ Value.numberOfText? N = some bound := by
  simp only [requireNumber, requireParam]
  cases N.isEmpty <;> cases hnumber : Value.numberOfText? N <;>
    simp [hnumber, bind, Except.bind]

theorem requireNumber_of_requireNumber {name other N : String} {bound : Number}
    (h : requireNumber name (some N) = .ok bound) : requireNumber other (some N) = .ok bound :=
  requireNumber_eq_ok_iff.mpr (requireNumber_eq_ok_iff.mp h)

end Rule

namespace FieldRun

variable {context : Context} {field : String} {v record : Value} {name N : String}
  {bound : Number}

theorem passes_iff_of_get? {r : Registry} {known : NamedClass} {c : Clause}
    (h : r.get? c.name = some known) :
    Passes r context field v record c ↔
      judgement known.rules known.name context c field v record = .ok .passed := by
  simp [Passes, said, h]

theorem passes_numeric_iff {param : Option String} :
    Passes .builtin context field v record ⟨"numeric", param⟩ ↔
      v.isNull = true ∨ v.number?.isSome = true := by
  have hget : Registry.builtin.get? "numeric" = some ⟨Rule.numeric, "numeric"⟩ := rfl
  rw [passes_iff_of_get? (c := ⟨"numeric", param⟩) hget]
  simp only [judgement, Rule.numeric, Rule.ofJudgement, Rule.plain, Verdict.passedIf,
    ← Bool.or_eq_true]
  split <;> simp [*]

theorem passes_numeric_of_number? {param : Option String} {n : Number} (h : v.number? = some n) :
    Passes .builtin context field v record ⟨"numeric", param⟩ := by
  rw [passes_numeric_iff, h]
  exact .inr rfl

theorem passes_ofBound_iff {title : String} {test : Number → Number → Bool}
    {message : String → String → String}
    (hget : Registry.builtin.get? name = some ⟨Rule.ofBound title test message, name⟩)
    (haccepted : Rule.requireNumber name (some N) = .ok bound) :
    Passes .builtin context field v record ⟨name, some N⟩ ↔
      ∀ n, v.number? = some n → test n bound = true := by
  rw [passes_iff_of_get? hget]
  simp only [judgement, Rule.ofBound, haccepted, bind, Except.bind, Verdict.onNumber,
    Verdict.passedIf]
  cases v.number? with
  | none => simp
  | some n => cases htest : test n bound <;> simp [htest]

variable (haccepted : Rule.requireNumber name (some N) = .ok bound)

include haccepted

theorem passes_min_iff :
    Passes .builtin context field v record ⟨"min_value", some N⟩ ↔
      ∀ n, v.number? = some n → bound.exact ≤ n.exact := by
  rw [passes_ofBound_iff rfl (Rule.requireNumber_of_requireNumber haccepted)]
  simp only [decide_eq_true_eq]
  rfl

theorem passes_max_iff :
    Passes .builtin context field v record ⟨"max_value", some N⟩ ↔
      ∀ n, v.number? = some n → n.exact ≤ bound.exact := by
  rw [passes_ofBound_iff rfl (Rule.requireNumber_of_requireNumber haccepted)]
  simp only [decide_eq_true_eq]
  rfl

theorem passes_bounds_of_number? {n : Number} (h : v.number? = some n) :
    (Passes .builtin context field v record ⟨"min_value", some N⟩ ↔ bound.exact ≤ n.exact) ∧
      (Passes .builtin context field v record ⟨"max_value", some N⟩ ↔ n.exact ≤ bound.exact) := by
  rw [passes_min_iff haccepted, passes_max_iff haccepted, h]
  simp

theorem passes_bounds_of_no_number (h : v.number? = none) :
    Passes .builtin context field v record ⟨"min_value", some N⟩ ∧
      Passes .builtin context field v record ⟨"max_value", some N⟩ := by
  rw [passes_min_iff haccepted, passes_max_iff haccepted, h]
  simp

end FieldRun

theorem le_iff_of_notMem_Ico {b c q : ℚ} (h : q ∉ Set.Ico (b ⊓ c) (b ⊔ c)) : c ≤ q ↔ b ≤ q := by
  rw [Set.mem_Ico, inf_le_iff, lt_sup_iff] at h
  grind

theorem le_iff_of_notMem_Ioc {b c q : ℚ} (h : q ∉ Set.Ioc (b ⊓ c) (b ⊔ c)) : q ≤ c ↔ q ≤ b := by
  rw [Set.mem_Ioc, inf_lt_iff, le_sup_iff] at h
  grind

/-- What the verdicts under a bound `b` have to do with it, when `stored` is the double nearest to
it. -/
structure ExactButForRounding (b : ℚ) (stored : Double) (numeric min max : Value → Prop) :
    Prop where
  /-- of integers and decimals, unless they stand between the bound and its double -/
  number : ∀ v q, v.rational? = some q → numeric v ∧
    (q ∉ Set.Ico (b ⊓ stored.exact) (b ⊔ stored.exact) → (min v ↔ b ≤ q)) ∧
    (q ∉ Set.Ioc (b ⊓ stored.exact) (b ⊔ stored.exact) → (max v ↔ q ≤ b))
  /-- of numeric texts: none that is within the bound is refused, and unless they are the double of
  the bound, none that is not within it passes -/
  text : ∀ s q, Text.spelled? s = some q → |q| < Double.limit →
    ∃ near : Double, near.IsNearest q ∧ numeric (.text s) ∧
      (b ≤ q → min (.text s)) ∧ (q ≤ b → max (.text s)) ∧
      (near.exact ≠ stored.exact → (min (.text s) ↔ b ≤ q) ∧ (max (.text s) ↔ q ≤ b))
  /-- of texts beyond the doubles, which are no numbers -/
  large : ∀ s q, Text.spelled? s = some q → Double.limit ≤ |q| →
    ¬numeric (.text s) ∧ min (.text s) ∧ max (.text s)
  /-- of an integer and what it is written as: they are the same, if the integer is a double or its
  double is not that of the bound -/
  written : ∀ n : ℤ, Text.spelled? (Value.int n).written = some (n : ℚ) ∧
    (|(n : ℚ)| < Double.limit → ∃ near : Double, near.IsNearest n ∧
      (|n| ≤ 2 ^ 53 → near.exact = n) ∧
      numeric (.int n) ∧ numeric (.text (Value.int n).written) ∧
      (near.exact = n ∨ near.exact ≠ stored.exact →
        (min (.int n) ↔ min (.text (Value.int n).written)) ∧
        (max (.int n) ↔ max (.text (Value.int n).written))))

theorem Double.exact_ofDecimal_ofInt {n : ℤ} (h : |n| ≤ 2 ^ 53)
    (hround : Rounded n (ofDecimal (.ofInt n)).exact) : (ofDecimal (.ofInt n)).exact = n := by
  apply hround.unique
  rcases h.lt_or_eq with hlt | heq
  · simpa using Rounded.self (e := 0) hlt (by decide)
  · -- one bit, far enough up
    obtain ⟨k, hk, hn⟩ : ∃ k : ℤ, |k| < 2 ^ 53 ∧ (n : ℚ) = k * 2 ^ (53 : ℤ) := by
      rcases (abs_eq (by norm_num)).mp heq with rfl | rfl
      · exact ⟨1, by decide, by norm_num⟩
      · exact ⟨-1, by decide, by norm_num⟩
    rw [hn]
    exact Rounded.self hk (by decide)

namespace FieldRun

section

variable {context : Context} {field : String} {record : Value} {name N : String} {d : Decimal}
  (haccepted : Rule.requireNumber name (some N) = .ok (.double (Double.ofDecimal d)))
  (hround : Rounded d.exact (Double.ofDecimal d).exact)

include haccepted

theorem bounds_of_rational? {v : Value} {q : ℚ} (hq : v.rational? = some q) :
    (q ∉ Set.Ico (d.exact ⊓ (Double.ofDecimal d).exact) (d.exact ⊔ (Double.ofDecimal d).exact) →
      (Passes .builtin context field v record ⟨"min_value", some N⟩ ↔ d.exact ≤ q)) ∧
    (q ∉ Set.Ioc (d.exact ⊓ (Double.ofDecimal d).exact) (d.exact ⊔ (Double.ofDecimal d).exact) →
      (Passes .builtin context field v record ⟨"max_value", some N⟩ ↔ q ≤ d.exact)) := by
  obtain ⟨n, hn, rfl⟩ := Value.number?_of_rational? hq
  obtain ⟨hmin, hmax⟩ := passes_bounds_of_number? haccepted hn
  constructor
  · intro hq
    rw [hmin, ← le_iff_of_notMem_Ico hq]
    rfl
  · intro hq
    rw [hmax, ← le_iff_of_notMem_Ioc hq]
    rfl

theorem bounds_written_iff (hformat : (Double.ofDecimal d).InFormat) {n : ℤ}
    (hlimit : |(n : ℚ)| < Double.limit)
    (h : (Double.ofDecimal (.ofInt n)).exact = n ∨
      (Double.ofDecimal (.ofInt n)).exact ≠ (Double.ofDecimal d).exact) :
    (Passes .builtin context field (.int n) record ⟨"min_value", some N⟩ ↔
      Passes .builtin context field (.text (Value.int n).written) record
        ⟨"min_value", some N⟩) ∧
    (Passes .builtin context field (.int n) record ⟨"max_value", some N⟩ ↔
      Passes .builtin context field (.text (Value.int n).written) record
        ⟨"max_value", some N⟩) := by
  have hlimit' : |(Decimal.ofInt n).exact| < Double.limit := by rwa [Decimal.exact_ofInt]
  have hround := Double.rounded_ofDecimal (Double.isFinite_ofDecimal_iff.mpr hlimit')
  rw [Decimal.exact_ofInt] at hround
  have hinteger : (Value.int n).number? = some (.integer n) := rfl
  obtain ⟨hmin, hmax⟩ := passes_bounds_of_number? haccepted hinteger
  obtain ⟨hmin', hmax'⟩ :=
    passes_bounds_of_number? haccepted (Value.number?_text_of_lt (Value.read?_written n) hlimit')
  rw [hmin, hmax, hmin', hmax']
  simp only [Number.exact]
  rcases h with h | h
  · rw [h]
    exact ⟨Iff.rfl, Iff.rfl⟩
  · have hself := hformat.rounded
    exact ⟨(hself.le_iff_of_ne hround h.symm).symm, (hround.le_iff_of_ne hself h).symm⟩

include hround

theorem bounds_of_read? {s : String} {t : Decimal}
    (ht : Decimal.read? (Text.trim s.toList) = some t) (hlimit : |t.exact| < Double.limit) :
    (d.exact ≤ t.exact → Passes .builtin context field (.text s) record ⟨"min_value", some N⟩) ∧
    (t.exact ≤ d.exact → Passes .builtin context field (.text s) record ⟨"max_value", some N⟩) ∧
    ((Double.ofDecimal t).exact ≠ (Double.ofDecimal d).exact →
      (Passes .builtin context field (.text s) record ⟨"min_value", some N⟩ ↔ d.exact ≤ t.exact) ∧
      (Passes .builtin context field (.text s) record ⟨"max_value", some N⟩ ↔
        t.exact ≤ d.exact)) := by
  have hround' := Double.rounded_ofDecimal (Double.isFinite_ofDecimal_iff.mpr hlimit)
  obtain ⟨hmin, hmax⟩ := passes_bounds_of_number? haccepted (Value.number?_text_of_lt ht hlimit)
  rw [hmin, hmax]
  refine ⟨hround.mono hround', hround'.mono hround, ?_⟩
  intro hne
  exact ⟨hround.le_iff_of_ne hround' hne.symm, hround'.le_iff_of_ne hround hne⟩

end

variable (context : Context) (field : String) (record : Value)

/-- For every literal that is accepted as a bound: it is kept as the double nearest to it, which is
the bound itself if that is a double, and the verdicts are exact but for that. -/
theorem bounds_exact_but_for_rounding {name N : String} {bound : Number}
    (haccepted : Rule.requireNumber name (some N) = .ok bound) :
    ∃ (b : ℚ) (stored : Double), Text.spelled? N = some b ∧ bound = .double stored ∧
      stored.IsNearest b ∧
      (∀ other : Double, other.InFormat → other.exact = b → stored.exact = b) ∧
      ExactButForRounding b stored
        (fun v => Passes .builtin context field v record ⟨"numeric", none⟩)
        (fun v => Passes .builtin context field v record ⟨"min_value", some N⟩)
        (fun v => Passes .builtin context field v record ⟨"max_value", some N⟩) := by
  obtain ⟨-, hnumber⟩ := Rule.requireNumber_eq_ok_iff.mp haccepted
  obtain ⟨d, hread, hfinite, rfl⟩ := Value.read?_of_numberOfText? hnumber
  have hround := Double.rounded_ofDecimal hfinite
  have hnearest := Double.isNearest_ofDecimal hfinite
  refine ⟨d.exact, Double.ofDecimal d, ?_, rfl, hnearest,
    fun _ hother => hnearest.exact_eq hother, ?_, ?_, ?_, ?_⟩
  · rw [Text.spelled?, hread]
    rfl
  · intro v q hq
    obtain ⟨n, hn, -⟩ := Value.number?_of_rational? hq
    exact ⟨passes_numeric_of_number? hn, bounds_of_rational? haccepted hq⟩
  · intro s q hs hlimit
    obtain ⟨t, ht, rfl⟩ := Option.map_eq_some_iff.mp hs
    exact ⟨_, Double.isNearest_ofDecimal (Double.isFinite_ofDecimal_iff.mpr hlimit),
      passes_numeric_of_number? (Value.number?_text_of_lt ht hlimit),
      bounds_of_read? haccepted hround ht hlimit⟩
  · intro s q hs hlimit
    obtain ⟨t, ht, rfl⟩ := Option.map_eq_some_iff.mp hs
    have hnone := Value.number?_text_of_ge ht hlimit
    refine ⟨?_, passes_bounds_of_no_number haccepted hnone⟩
    rw [passes_numeric_iff, hnone]
    simp [Value.isNull]
  · intro n
    have hwritten := Value.read?_written n
    have hexact := Decimal.exact_ofInt n
    refine ⟨by rw [Text.spelled?, hwritten, Option.map_some, hexact], ?_⟩
    intro hlimit
    rw [← hexact] at hlimit
    have hnfinite := Double.isFinite_ofDecimal_iff.mpr hlimit
    have hnround := Double.rounded_ofDecimal hnfinite
    have hnnearest := Double.isNearest_ofDecimal hnfinite
    rw [hexact] at hlimit hnround hnnearest
    exact ⟨_, hnnearest, fun h => Double.exact_ofDecimal_ofInt h hnround,
      passes_numeric_of_number? (n := .integer n) rfl,
      passes_numeric_of_number? (Value.number?_text_of_lt hwritten (by rwa [hexact])),
      bounds_written_iff haccepted hnearest.inFormat hlimit⟩

/-- A tenth is kept as a double slightly above it. -/
theorem bounds_exact_but_for_rounding_of_tenth :
    let context : Context :=
      ⟨.ofDate ⟨2024, 6, 15, by decide, by decide, by decide, by decide⟩, "YYYY-MM-DD"⟩
    let stored : Double := .finite false 0x1999999999999A (-56)
    Rule.requireNumber "min_value" (some "0.1") = .ok (.double stored) ∧
      ExactButForRounding (1 / 10) stored
        (fun v => Passes .builtin context "f" v (.mapping []) ⟨"numeric", none⟩)
        (fun v => Passes .builtin context "f" v (.mapping []) ⟨"min_value", some "0.1"⟩)
        (fun v => Passes .builtin context "f" v (.mapping []) ⟨"max_value", some "0.1"⟩) := by
  intro context stored
  have haccepted : Rule.requireNumber "min_value" (some "0.1") = .ok (.double stored) := rfl
  refine ⟨haccepted, ?_⟩
  obtain ⟨b, kept, hb, hkept, -, -, hexact⟩ :=
    bounds_exact_but_for_rounding context "f" (.mapping []) haccepted
  have hspelled : Text.spelled? "0.1" = some (1 / 10) := by decide +kernel
  cases hkept
  rw [hspelled] at hb
  cases hb
  exact hexact

/-- The decimal of a bound may fail it, and the text of an integer need not be a number. -/
theorem bounds_not_exact_of_tenth :
    let context : Context :=
      ⟨.ofDate ⟨2024, 6, 15, by decide, by decide, by decide, by decide⟩, "YYYY-MM-DD"⟩
    let tenth : Value := .decimal (.finite ⟨false, 1, -1⟩)
    let large : ℤ := 10 ^ 400
    (tenth.rational? = Text.spelled? "0.1" ∧
      ¬Passes .builtin context "f" tenth (.mapping []) ⟨"min_value", some "0.1"⟩) ∧
    Passes .builtin context "f" (.int large) (.mapping []) ⟨"numeric", none⟩ ∧
    ¬Passes .builtin context "f" (.text (Value.int large).written) (.mapping [])
      ⟨"numeric", none⟩ := by
  intro context tenth large
  have haccepted : Rule.requireNumber "min_value" (some "0.1") =
      .ok (.double (.finite false 0x1999999999999A (-56))) := rfl
  have htenth : tenth.number? = some (.decimal ⟨false, 1, -1⟩) := rfl
  have hlarge : (Value.text (Value.int large).written).number? = none := by
    apply Value.number?_text_of_ge (Value.read?_written large)
    rw [Decimal.exact_ofInt, Int.cast_pow, abs_of_nonneg (by positivity)]
    exact Double.limit_le_ten_pow
  refine ⟨⟨by decide +kernel, ?_⟩, passes_numeric_of_number? (n := .integer large) rfl, ?_⟩
  · rw [(passes_bounds_of_number? haccepted htenth).1]
    decide +kernel
  · rw [passes_numeric_iff, hlarge]
    simp [Value.isNull]

end FieldRun

end FormRules
