import FormRules.Proofs.Number.Grammar
import FormRules.Proofs.Rule.Bound

namespace FormRules

namespace Double

def isNegative : Double → Bool
  | .nan => false
  | .infinite negative => negative
  | .finite negative _ _ => negative

variable {d : Decimal}

theorem isNegative_ofRatio (negative : Bool) (n d : ℕ) :
    (ofRatio negative n d).isNegative = negative := by
  rw [ofRatio]
  split
  · rfl
  · dsimp only
    split <;> split <;> rfl

theorem isNegative_ofDecimal (d : Decimal) : (ofDecimal d).isNegative = d.negative := by
  rw [ofDecimal]
  split
  · rfl
  · dsimp only
    split
    · rfl
    · split
      · rfl
      · exact isNegative_ofRatio _ _ _

theorem ofDecimal_eq_infinite (h : limit ≤ |d.exact|) : ofDecimal d = .infinite d.negative := by
  have hinfinite : ¬(ofDecimal d).isFinite = true :=
    isFinite_ofDecimal_iff.not.mpr (not_lt.mpr h)
  obtain ⟨v, -, hstores⟩ := ofDecimal_stores d
  rw [← isNegative_ofDecimal d]
  generalize ofDecimal d = near at *
  cases hstores with
  | finite hformat => exact absurd hformat.isFinite hinfinite
  | infinite => rfl

theorem read?_of_written {n : Numeral} {s : List Char} (h : n.Written s) :
    read? s = some (ofDecimal n.decimal) := by
  rw [read?, Decimal.read?_of_written h]

end Double

def Number.IsFinite : Number → Prop
  | .double d => d.isFinite = true
  | _ => True

namespace Value

open Double

variable {s : String} {v : Value} {n : Numeral}

theorem number?_of_written (h : n.Written (Text.trim s.toList)) (hlimit : |n.value| < limit) :
    (text s).number? = some (.double (ofDecimal n.decimal)) := by
  rw [← n.exact_decimal] at hlimit
  exact number?_text_of_lt (Decimal.read?_of_written h) hlimit

theorem number?_of_written_of_ge (h : n.Written (Text.trim s.toList)) (hlimit : limit ≤ |n.value|) :
    (text s).number? = none := by
  rw [← n.exact_decimal] at hlimit
  exact number?_text_of_ge (Decimal.read?_of_written h) hlimit

theorem isSome_number?_text_iff : (text s).number?.isSome = true ↔
    ∃ n : Numeral, n.Written (Text.trim s.toList) ∧ |n.value| < limit := by
  constructor
  · intro h
    obtain ⟨x, hx⟩ := Option.isSome_iff_exists.mp h
    obtain ⟨d, hread, hfinite, -⟩ := read?_of_numberOfText? hx
    obtain ⟨n, hn, rfl⟩ := Decimal.read?_eq_some_iff.mp hread
    rw [isFinite_ofDecimal_iff, n.exact_decimal] at hfinite
    exact ⟨n, hn, hfinite⟩
  · rintro ⟨n, hn, hlimit⟩
    rw [number?_of_written hn hlimit]
    rfl

theorem number?_eq_some_iff (hv : ∀ s, v ≠ .text s) {x : Number} :
    v.number? = some x ↔ x.IsFinite ∧ v = Rule.encodedNumber x := by
  cases v with
  | text s => exact absurd rfl (hv s)
  | int n => cases x <;> simp [number?, Number.IsFinite, Rule.encodedNumber]
  | double d =>
    cases x with
    | double d' =>
      simp only [number?, Number.IsFinite, Rule.encodedNumber, Value.double.injEq]
      constructor
      · intro h
        split at h
        · rename_i hfinite
          cases h
          exact ⟨hfinite, rfl⟩
        · cases h
      · rintro ⟨hfinite, rfl⟩
        exact if_pos hfinite
    | _ => simp [number?, Rule.encodedNumber]
  | decimal d =>
    cases d <;> cases x <;> simp [number?, Number.IsFinite, Rule.encodedNumber]
  | _ => cases x <;> simp [number?, Rule.encodedNumber]

theorem isSome_number?_of_isWhole (h : v.isWhole = true) : v.number?.isSome = true := by
  cases v with
  | int n => rfl
  | double d =>
    cases d with
    | finite => rfl
    | _ => cases h
  | decimal d =>
    cases d with
    | finite d => rfl
    | _ => cases h
  | _ => cases h

end Value

theorem FieldRun.passes_integer_iff {context : Context} {field : String} {v record : Value}
    {param : Option String} :
    Passes .builtin context field v record ⟨"integer", param⟩ ↔
      v.isNull = true ∨ v.isWhole = true := by
  have hget : Registry.builtin.get? "integer" = some ⟨Rule.integer, "integer"⟩ := rfl
  rw [passes_iff_of_get? (c := ⟨"integer", param⟩) hget]
  simp only [judgement, Rule.integer, Rule.ofJudgement, Rule.plain, Verdict.passedIf,
    ← Bool.or_eq_true]
  split <;> simp [*]

namespace Value

/-- Texts are numbers by the grammar of decimal literals and the range of the doubles: every literal
is read as a double, with the sign that is written, and within the range it is the nearest one.
Other values are numbers as they are, and whole numbers among them. -/
theorem number?_by_grammar :
    (∀ s : String, ((text s).number?.isSome = true ↔
      ∃ n : Numeral, n.Written (Text.trim s.toList) ∧ |n.value| < Double.limit)) ∧
    (∀ (s : String) (n : Numeral), n.Written (Text.trim s.toList) → ∃ near : Double,
      Double.read? (Text.trim s.toList) = some near ∧ near.isNegative = n.negative ∧
      (|n.value| < Double.limit →
        near.IsNearest n.value ∧ (text s).number? = some (.double near)) ∧
      (Double.limit ≤ |n.value| → near = .infinite n.negative ∧ (text s).number? = none)) ∧
    (∀ v : Value, (∀ s, v ≠ .text s) → ∀ x,
      (v.number? = some x ↔ x.IsFinite ∧ v = Rule.encodedNumber x)) ∧
    (∀ v : Value, v.isWhole = true → v.number?.isSome = true) ∧
    ∀ context field v record param other,
      FieldRun.Passes .builtin context field v record ⟨"integer", param⟩ →
        FieldRun.Passes .builtin context field v record ⟨"numeric", other⟩ := by
  refine ⟨fun _ => isSome_number?_text_iff, ?_, fun _ hv _ => number?_eq_some_iff hv,
    fun _ => isSome_number?_of_isWhole, ?_⟩
  · intro s n hn
    refine ⟨_, Double.read?_of_written hn, Double.isNegative_ofDecimal _, ?_, ?_⟩
    · intro hlimit
      have hfinite : (Double.ofDecimal n.decimal).isFinite = true := by
        rwa [Double.isFinite_ofDecimal_iff, n.exact_decimal]
      have hnearest := Double.isNearest_ofDecimal hfinite
      rw [n.exact_decimal] at hnearest
      exact ⟨hnearest, number?_of_written hn hlimit⟩
    · intro hlimit
      refine ⟨?_, number?_of_written_of_ge hn hlimit⟩
      rw [← n.exact_decimal] at hlimit
      exact Double.ofDecimal_eq_infinite hlimit
  · intro context field v record param other hinteger
    rw [FieldRun.passes_integer_iff] at hinteger
    rw [FieldRun.passes_numeric_iff]
    exact hinteger.imp_right isSome_number?_of_isWhole

example : (text "0e99999").number? = some (.double (.finite false 0 (-1074))) ∧
    (text " -1E-99999 ").number? = some (.double (.finite true 0 (-1074))) ∧
    (text "1e99999").number? = none := by
  decide +kernel

example : ["1_0", "nan", "inf", "0x1", ".", "1e", "1 0"].all
    (fun s => (text s).number?.isNone) = true := by
  decide +kernel

end Value

end FormRules
