import FormRules.Proofs.Rule.Parameter
import FormRules.Proofs.Value.Number

namespace FormRules

theorem Value.rounded_of_number? {s : String} {n : Numeral} {x : Number}
    (hn : n.Written (Text.trim s.toList)) (hx : (text s).number? = some x) :
    Rounded n.value x.exact := by
  obtain ⟨d, hread, hfinite, rfl⟩ := read?_of_numberOfText? hx
  rw [Decimal.read?_of_written hn] at hread
  cases hread
  have hround := Double.rounded_ofDecimal hfinite
  rwa [n.exact_decimal] at hround

def Rule.KeptAs (N : String) (x : Number) : Prop := requireNumber "min_value" (some N) = .ok x

theorem Rule.exists_keptAs {N : String} {context : Context}
    (h : ∃ rule, minValue.prepare "min_value" (some N) context = .ok rule) : ∃ x, KeptAs N x := by
  obtain ⟨rule, hrule⟩ := h
  obtain ⟨x, hx, -⟩ := bind_eq_ok_iff.mp hrule
  exact ⟨x, hx⟩

theorem Rule.KeptAs.rounded {N : String} {n : Numeral} {x : Number} (h : KeptAs N x)
    (hn : n.Written (Text.trim N.toList)) : Rounded n.value x.exact :=
  Value.rounded_of_number? hn (requireNumber_eq_ok_iff.mp h).2

namespace FieldRun

def AtLeast (context : Context) (field : String) (record : Value) (N s : String) : Prop :=
  Passes .builtin context field (.text s) record ⟨"min_value", some N⟩

def AtMost (context : Context) (field : String) (record : Value) (N s : String) : Prop :=
  Passes .builtin context field (.text s) record ⟨"max_value", some N⟩

section

variable {context : Context} {field : String} {record : Value} {s t M N : String}
  {p q m n : Numeral} {x y b c : Number}

section Texts

variable (hN : Rule.KeptAs N b) (hx : (Value.text s).number? = some x)
  (hp : p.Written (Text.trim s.toList)) (hq : q.Written (Text.trim t.toList))

include hN hx hp hq

theorem AtLeast.of_le (h : AtLeast context field record N s) (hle : p.value ≤ q.value) :
    AtLeast context field record N t := by
  refine (passes_min_iff hN).mpr fun y hy => ?_
  have hround := Value.rounded_of_number? hp hx
  have hround' := Value.rounded_of_number? hq hy
  calc b.exact ≤ x.exact := (passes_min_iff hN).mp h x hx
    _ ≤ y.exact := hround.mono hround' hle

theorem AtMost.of_ge (h : AtMost context field record N s) (hle : q.value ≤ p.value) :
    AtMost context field record N t := by
  refine (passes_max_iff hN).mpr fun y hy => ?_
  have hround := Value.rounded_of_number? hp hx
  have hround' := Value.rounded_of_number? hq hy
  calc y.exact ≤ x.exact := hround'.mono hround hle
    _ ≤ b.exact := (passes_max_iff hN).mp h x hx

end Texts

section Literals

variable (hM : Rule.KeptAs M c) (hN : Rule.KeptAs N b) (hm : m.Written (Text.trim M.toList))
  (hn : n.Written (Text.trim N.toList))

include hM hN hm hn

theorem AtLeast.lower (h : AtLeast context field record N s) (hle : m.value ≤ n.value) :
    AtLeast context field record M s := by
  refine (passes_min_iff hM).mpr fun x hx => ?_
  calc c.exact ≤ b.exact := (hM.rounded hm).mono (hN.rounded hn) hle
    _ ≤ x.exact := (passes_min_iff hN).mp h x hx

theorem AtMost.raise (h : AtMost context field record N s) (hle : n.value ≤ m.value) :
    AtMost context field record M s := by
  refine (passes_max_iff hM).mpr fun x hx => ?_
  calc x.exact ≤ b.exact := (passes_max_iff hN).mp h x hx
    _ ≤ c.exact := (hN.rounded hn).mono (hM.rounded hm) hle

end Literals

theorem atLeast_and_atMost_of_eq (hN : Rule.KeptAs N b) (hp : p.Written (Text.trim s.toList))
    (hn : n.Written (Text.trim N.toList)) (heq : p.value = n.value) :
    AtLeast context field record N s ∧ AtMost context field record N s := by
  have hsame (x : Number) (hx : (Value.text s).number? = some x) : x.exact = b.exact := by
    have hround := Value.rounded_of_number? hp hx
    rw [heq] at hround
    exact hround.unique (hN.rounded hn)
  exact ⟨(passes_min_iff hN).mpr fun x hx => (hsame x hx).ge,
    (passes_max_iff hN).mpr fun x hx => (hsame x hx).le⟩

theorem atLeast_or_atMost (hN : Rule.KeptAs N b) :
    AtLeast context field record N s ∨ AtMost context field record N s := by
  rw [AtLeast, AtMost, passes_min_iff hN, passes_max_iff hN]
  cases (Value.text s).number? with
  | none => simp
  | some x => simpa using le_total b.exact x.exact

end

/-- A greater number passes a lower bound that a smaller one passes, and a lower bound is passed
where a greater one is; upper bounds are the mirror image. What spells the bound itself passes both
ways, and every text passes one way or the other. -/
theorem bounds_keep_order (context : Context) (field : String) (record : Value)
    {s t M N : String} {p q m n : Numeral} (hs : p.Written (Text.trim s.toList))
    (ht : q.Written (Text.trim t.toList)) (hM : m.Written (Text.trim M.toList))
    (hN : n.Written (Text.trim N.toList))
    (hnumeric : Passes .builtin context field (.text s) record ⟨"numeric", none⟩)
    (hacceptM : ∃ rule, Rule.minValue.prepare "min_value" (some M) context = .ok rule)
    (hacceptN : ∃ rule, Rule.minValue.prepare "min_value" (some N) context = .ok rule) :
    (p.value ≤ q.value → AtLeast context field record N s → AtLeast context field record N t) ∧
    (m.value ≤ n.value → AtLeast context field record N s → AtLeast context field record M s) ∧
    (q.value ≤ p.value → AtMost context field record N s → AtMost context field record N t) ∧
    (n.value ≤ m.value → AtMost context field record N s → AtMost context field record M s) ∧
    (p.value = n.value → AtLeast context field record N s ∧ AtMost context field record N s) ∧
    (AtLeast context field record N s ∨ AtMost context field record N s) := by
  obtain ⟨c, hc⟩ := Rule.exists_keptAs hacceptM
  obtain ⟨b, hb⟩ := Rule.exists_keptAs hacceptN
  obtain ⟨x, hx⟩ : ∃ x, (Value.text s).number? = some x := by
    rw [passes_numeric_iff] at hnumeric
    exact Option.isSome_iff_exists.mp (hnumeric.resolve_left Bool.false_ne_true)
  exact ⟨fun hle h => h.of_le hb hx hs ht hle, fun hle h => h.lower hc hb hM hN hle,
    fun hle h => h.of_ge hb hx hs ht hle, fun hle h => h.raise hc hb hM hN hle,
    atLeast_and_atMost_of_eq hb hs hN, atLeast_or_atMost hb⟩

/-- Ten in another notation passes both ways, and ten and a half passes where it is the bound below.
-/
theorem bounds_keep_order_of_exponent :
    let context : Context :=
      ⟨.ofDate ⟨2024, 6, 15, by decide, by decide, by decide, by decide⟩, "YYYY-MM-DD"⟩
    Passes .builtin context "f" (.text " +01e1 ") (.mapping []) ⟨"numeric", none⟩ ∧
      AtLeast context "f" (.mapping []) "10.00" " +01e1 " ∧
      AtMost context "f" (.mapping []) "10.00" " +01e1 " ∧
      AtLeast context "f" (.mapping []) "10.00" "10.5" := by
  intro context
  have hten : Decimal.read? (Text.trim " +01e1 ".toList) = some ⟨false, 1, 1⟩ := by decide +kernel
  have hmore : Decimal.read? (Text.trim "10.5".toList) = some ⟨false, 105, -1⟩ := by decide +kernel
  have hbound : Decimal.read? (Text.trim "10.00".toList) = some ⟨false, 1000, -2⟩ := by
    decide +kernel
  obtain ⟨p, hp, hpd⟩ := Decimal.exists_written_of_read? hten
  obtain ⟨q, hq, hqd⟩ := Decimal.exists_written_of_read? hmore
  obtain ⟨n, hn, hnd⟩ := Decimal.exists_written_of_read? hbound
  have hnumeric : Passes .builtin context "f" (.text " +01e1 ") (.mapping []) ⟨"numeric", none⟩ :=
    passes_numeric_of_number? (Value.number?_text_of_lt hten (by decide +kernel))
  have haccepted : ∃ rule, Rule.minValue.prepare "min_value" (some "10.00") context = .ok rule :=
    ⟨_, rfl⟩
  have hequal : p.value = n.value := by
    rw [← p.exact_decimal, ← n.exact_decimal, hpd, hnd]
    decide +kernel
  have hle : p.value ≤ q.value := by
    rw [← p.exact_decimal, ← q.exact_decimal, hpd, hqd]
    decide +kernel
  obtain ⟨hlarger, -, -, -, hboth, -⟩ :=
    bounds_keep_order context "f" (.mapping []) hp hq hn hn hnumeric haccepted haccepted
  obtain ⟨hleast, hmost⟩ := hboth hequal
  exact ⟨hnumeric, hleast, hmost, hlarger hle hleast⟩

end FieldRun

end FormRules
