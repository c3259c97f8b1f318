import FormRules.Proofs.Calendar.Count
import FormRules.Proofs.Verdict

namespace FormRules

namespace DateTime

variable {t now : DateTime} {k : Int}

theorem compare_add_self (n k : Int) : compare (n + k) n = compare k 0 := by
  rcases lt_trichotomy k 0 with hk | rfl | hk
  · rw [compare_lt_iff_lt.mpr hk, compare_lt_iff_lt]
    omega
  · rw [add_zero, compare_eq_iff_eq.mpr rfl, compare_eq_iff_eq.mpr rfl]
  · rw [compare_gt_iff_gt.mpr hk, compare_gt_iff_gt]
    omega

variable (ht : ∀ offset ∈ t.offset, offset.natAbs < 86400)

include ht

theorem compareTo_eq : t.compareTo now = .ok (compare t.instant now.instant) := by
  rw [compareTo, if_pos (isLawful_iff.mpr ht)]

theorem compareTo_of_since (h : Since now t k) : t.compareTo now = .ok (compare k 0) := by
  rw [compareTo_eq ht, ← since_iff.mp h, compare_add_self]

theorem compareTo_iff_shownBefore (hoffset : t.offset.getD 0 = now.offset.getD 0) :
    (t.compareTo now = .ok .lt ↔ t.ShownBefore now) ∧
      (t.compareTo now = .ok .gt ↔ now.ShownBefore t) := by
  rw [compareTo_eq ht, shownBefore_iff, shownBefore_iff, Except.ok.injEq, Except.ok.injEq,
    compare_lt_iff_lt, compare_gt_iff_gt, instant, instant, hoffset]
  constructor <;> omega

end DateTime

theorem DateTime.existsUnique_since (a b : DateTime) : ∃! k, Since a b k := by
  refine ⟨b.instant - a.instant, since_iff.mpr (by omega), fun k hk => ?_⟩
  have heq := since_iff.mp hk
  omega

/-- The value is read as the moment, and the moment is less than a day away from universal time. -/
def Value.Placed (now : DateTime) (v : Value) (t : DateTime) : Prop :=
  v.lenientMoment? now = .ok (some t) ∧ ∀ offset ∈ t.offset, offset.natAbs < 86400

theorem Value.lenientMoment?_of_not_text {v : Value} (h : ∀ s, v ≠ .text s) (now : DateTime) :
    ∃ moment, v.lenientMoment? now = .ok moment := by
  cases v with
  | text s => exact absurd rfl (h s)
  | _ => exact ⟨_, rfl⟩

namespace FieldRun

open DateTime

variable {now t : DateTime} {format field name title word : String} {v record : Value}
  {param : Option String} {side o : Ordering}

section Side

variable (hget : Registry.builtin.get? name = some ⟨Rule.ofSide title side word, name⟩)

include hget

theorem said_ofSide : said .builtin ⟨now, format⟩ field v record ⟨name, param⟩ =
    some (do
      match ← v.lenientMoment? now with
      | none => .ok (.failed (field ++ " is not a valid date"))
      | some t =>
        .ok (.passedIf ((← t.compareTo now) == side)
          (field ++ " must be a " ++ word ++ " date"))) :=
  said_of_prepare (c := ⟨name, param⟩) hget rfl

theorem said_ofSide_of_placed (hv : v.Placed now t) (ho : t.compareTo now = .ok o) :
    said .builtin ⟨now, format⟩ field v record ⟨name, param⟩ =
      some (.ok (.passedIf (o == side) (field ++ " must be a " ++ word ++ " date"))) := by
  rw [said_ofSide hget, hv.1]
  simp [bind, Except.bind, ho]

theorem passes_ofSide_iff (hv : v.Placed now t) (ho : t.compareTo now = .ok o) :
    Passes .builtin ⟨now, format⟩ field v record ⟨name, param⟩ ↔ o = side := by
  rw [Passes, said_ofSide_of_placed hget hv ho, Verdict.passedIf]
  split <;> simp_all

theorem fails_ofSide_iff {own : String} (hv : v.Placed now t) (ho : t.compareTo now = .ok o)
    (hown : " must be a " ++ word ++ " date" = own) :
    Fails .builtin ⟨now, format⟩ field v record ⟨name, param⟩ (field ++ own) ↔ o ≠ side := by
  rw [Fails, said_ofSide_of_placed hget hv ho, ← hown, Verdict.passedIf]
  simp only [String.append_assoc]
  split <;> simp_all

theorem fails_ofSide_of_none (hv : v.lenientMoment? now = .ok none) :
    Fails .builtin ⟨now, format⟩ field v record ⟨name, param⟩
      (field ++ " is not a valid date") := by
  rw [Fails, said_ofSide hget, hv]
  rfl

theorem halts_ofSide_of_error {fault : Fault} (hv : v.lenientMoment? now = .error fault) :
    Halts .builtin ⟨now, format⟩ field v record ⟨name, param⟩ fault := by
  rw [Halts, said_ofSide hget, hv]
  rfl

end Side

theorem get?_future : Registry.builtin.get? "future" = some ⟨Rule.future, "future"⟩ := by rfl

theorem get?_past : Registry.builtin.get? "past" = some ⟨Rule.past, "past"⟩ := by rfl

/-- What the two rules say of a value on each side of the clock. -/
inductive Shown (context : Context) (field : String) (v record : Value) (param : Option String) :
    Ordering → Prop
  | after :
    Passes .builtin context field v record ⟨"future", param⟩ →
    Fails .builtin context field v record ⟨"past", param⟩ (field ++ " must be a past date") →
    Shown context field v record param .gt
  | before :
    Passes .builtin context field v record ⟨"past", param⟩ →
    Fails .builtin context field v record ⟨"future", param⟩ (field ++ " must be a future date") →
    Shown context field v record param .lt
  | equal :
    Fails .builtin context field v record ⟨"future", param⟩ (field ++ " must be a future date") →
    Fails .builtin context field v record ⟨"past", param⟩ (field ++ " must be a past date") →
    Shown context field v record param .eq

def Undated (context : Context) (field : String) (v record : Value) (param : Option String) :
    Prop :=
  Fails .builtin context field v record ⟨"future", param⟩ (field ++ " is not a valid date") ∧
    Fails .builtin context field v record ⟨"past", param⟩ (field ++ " is not a valid date")

section Placed

variable (hv : v.Placed now t) (ho : t.compareTo now = .ok o)

include hv ho

theorem shown_iff {o' : Ordering} : Shown ⟨now, format⟩ field v record param o' ↔ o' = o := by
  have hfuture : Passes .builtin ⟨now, format⟩ field v record ⟨"future", param⟩ ↔ o = .gt :=
    passes_ofSide_iff get?_future hv ho
  have hpast : Passes .builtin ⟨now, format⟩ field v record ⟨"past", param⟩ ↔ o = .lt :=
    passes_ofSide_iff get?_past hv ho
  have hnotFuture : Fails .builtin ⟨now, format⟩ field v record ⟨"future", param⟩
      (field ++ " must be a future date") ↔ o ≠ .gt := fails_ofSide_iff get?_future hv ho rfl
  have hnotPast : Fails .builtin ⟨now, format⟩ field v record ⟨"past", param⟩
      (field ++ " must be a past date") ↔ o ≠ .lt := fails_ofSide_iff get?_past hv ho rfl
  constructor
  · rintro (⟨hpasses, -⟩ | ⟨hpasses, -⟩ | ⟨hfails, hfails'⟩)
    · exact (hfuture.mp hpasses).symm
    · exact (hpast.mp hpasses).symm
    · have hgt := hnotFuture.mp hfails
      have hlt := hnotPast.mp hfails'
      cases o <;> simp_all
  · rintro rfl
    cases o' with
    | lt => exact .before (hpast.mpr rfl) (hnotFuture.mpr (by decide))
    | eq => exact .equal (hnotFuture.mpr (by decide)) (hnotPast.mpr (by decide))
    | gt => exact .after (hfuture.mpr rfl) (hnotPast.mpr (by decide))

end Placed

theorem passes_future_of_later {now' u : DateTime} {w : Value} {j k : Int} (hv : v.Placed now t)
    (hw : w.Placed now' u) (hclock : Since now' now j) (hmoment : Since t u k) (hj : 0 ≤ j)
    (hk : 0 ≤ k)
    (h : Passes .builtin ⟨now, format⟩ field v record ⟨"future", param⟩) :
    Passes .builtin ⟨now', format⟩ field w record ⟨"future", param⟩ := by
  rw [passes_ofSide_iff get?_future hv (compareTo_eq hv.2), compare_gt_iff_gt] at h
  rw [passes_ofSide_iff get?_future hw (compareTo_eq hw.2), compare_gt_iff_gt]
  have hearlier := since_iff.mp hclock
  have hlater := since_iff.mp hmoment
  omega

theorem undated_iff (hv : ∀ t, v.lenientMoment? now ≠ .ok (some t)) :
    Undated ⟨now, format⟩ field v record param ↔ ∃ moment, v.lenientMoment? now = .ok moment := by
  constructor
  · rintro ⟨hfails, -⟩
    cases hmoment : v.lenientMoment? now with
    | ok moment => exact ⟨moment, rfl⟩
    | error fault =>
      have hhalts : Halts .builtin ⟨now, format⟩ field v record ⟨"future", param⟩ fault :=
        halts_ofSide_of_error get?_future hmoment
      rw [Halts, hfails] at hhalts
      cases hhalts
  · rintro ⟨moment, hmoment⟩
    cases moment with
    | none =>
      exact ⟨fails_ofSide_of_none get?_future hmoment, fails_ofSide_of_none get?_past hmoment⟩
    | some t => exact absurd hmoment (hv t)

/-- A moment less than a day away from universal time is compared with the clock by the microseconds
between them, and at the same offset by what the two show. A value that is read as such a moment is
after the clock, before it or at it, as one of the two rules or neither lets it pass; the same
instant at another offset is on the same side, and a later one, or an earlier clock, does not take
it back from after the clock. A value that is read as no moment fails both rules as long as the
reading comes to an end, which for all but texts it does; otherwise both end with the fault of the
reading. -/
theorem sides_by_instants (format field : String) (record : Value) (param : Option String) :
    let shown (now : DateTime) (v : Value) := Shown ⟨now, format⟩ field v record param
    let future (now : DateTime) (v : Value) :=
      Passes .builtin ⟨now, format⟩ field v record ⟨"future", param⟩
    let halts (now : DateTime) (v : Value) (name : String) :=
      Halts .builtin ⟨now, format⟩ field v record ⟨name, param⟩
    (∀ now t, (∀ offset ∈ t.offset, offset.natAbs < 86400) →
      (∃! k, Since now t k) ∧ (∀ k, Since now t k → t.compareTo now = .ok (compare k 0)) ∧
      (t.offset.getD 0 = now.offset.getD 0 →
        (t.compareTo now = .ok .lt ↔ t.ShownBefore now) ∧
        (t.compareTo now = .ok .gt ↔ now.ShownBefore t))) ∧
    (∀ now v t, v.Placed now t → (∃! o, shown now v o) ∧
      ∀ o, shown now v o ↔ t.compareTo now = .ok o) ∧
    (∀ now v w t u, v.Placed now t → w.Placed now u → Since t u 0 →
      ∀ o, shown now v o ↔ shown now w o) ∧
    (∀ now now' v w t u j k, v.Placed now t → w.Placed now' u → Since now' now j → Since t u k →
      0 ≤ j → 0 ≤ k → future now v → future now' w) ∧
    (∀ now v, (∀ t, v.lenientMoment? now ≠ .ok (some t)) →
      (Undated ⟨now, format⟩ field v record param ↔
        ∃ moment, v.lenientMoment? now = .ok moment) ∧
      ((∀ s, v ≠ .text s) → Undated ⟨now, format⟩ field v record param) ∧
      ∀ fault, v.lenientMoment? now = .error fault →
        halts now v "future" fault ∧ halts now v "past" fault) := by
  intro shown future halts
  have hshown (now : DateTime) (v : Value) (t : DateTime) (hv : v.Placed now t) (o : Ordering) :
      shown now v o ↔ t.compareTo now = .ok o := by
    rw [compareTo_eq hv.2, Except.ok.injEq, eq_comm]
    exact shown_iff hv (compareTo_eq hv.2)
  refine ⟨?_, ?_, ?_, ?_, ?_⟩
  · intro now t ht
    exact ⟨existsUnique_since now t, fun k hk => compareTo_of_since ht hk,
      compareTo_iff_shownBefore ht⟩
  · intro now v t hv
    refine ⟨⟨compare t.instant now.instant, ?_, fun o ho => ?_⟩, hshown now v t hv⟩
    · exact (hshown now v t hv _).mpr (compareTo_eq hv.2)
    · have heq := (hshown now v t hv o).mp ho
      rw [compareTo_eq hv.2, Except.ok.injEq] at heq
      exact heq.symm
  · intro now v w t u hv hw hsame o
    have hinstant : t.instant = u.instant := by simpa using since_iff.mp hsame
    rw [hshown now v t hv, hshown now w u hw, compareTo_eq hv.2, compareTo_eq hw.2, hinstant]
  · intro now now' v w t u j k hv hw hclock hmoment hj hk h
    exact passes_future_of_later hv hw hclock hmoment hj hk h
  · intro now v hv
    refine ⟨undated_iff hv, fun hnot => ?_, fun fault hfault => ?_⟩
    · exact (undated_iff hv).mpr (Value.lenientMoment?_of_not_text hnot now)
    · exact ⟨halts_ofSide_of_error get?_future hfault, halts_ofSide_of_error get?_past hfault⟩

/-- A moment that is before the calendar in universal time, noon told at another offset, a moment
and a clock that are moved apart, and a missing value. -/
theorem sides_by_instants_of_offsets :
    let noon (second : Nat) (h : second < 60) : DateTime :=
      ⟨⟨2024, 6, 15, by decide, by decide, by decide, by decide⟩,
        ⟨12, 0, second, 0, by decide, by decide, h, by decide⟩, none⟩
    let first (offset : Option Int) : DateTime :=
      ⟨⟨1, 1, 1, by decide, by decide, by decide, by decide⟩, .midnight, offset⟩
    let shown (now : DateTime) (v : Value) := Shown ⟨now, "YYYY-MM-DD"⟩ "f" v (.mapping []) none
    shown (first none) (.moment (first (some 86340))) .lt ∧
      shown (noon 0 (by decide)) (.text "2024-06-15T14:30+02:30") .eq ∧
      Passes .builtin ⟨first none, "YYYY-MM-DD"⟩ "f" (.moment (noon 2 (by decide))) (.mapping [])
        ⟨"future", none⟩ ∧
      Undated ⟨first none, "YYYY-MM-DD"⟩ "f" .null (.mapping []) none := by
  intro noon first shown
  obtain ⟨hcompare, hside, hsame, hlater, hnone⟩ :=
    sides_by_instants "YYYY-MM-DD" "f" (.mapping []) none
  let told : DateTime := ⟨⟨2024, 6, 15, by decide, by decide, by decide, by decide⟩,
    ⟨14, 30, 0, 0, by decide, by decide, by decide, by decide⟩, some 9000⟩
  have htold : (Value.text "2024-06-15T14:30+02:30").Placed (noon 0 (by decide)) told :=
    ⟨by decide +kernel, by simp [told]⟩
  have hfirst : (Value.moment (first (some 86340))).Placed (first none) (first (some 86340)) :=
    ⟨rfl, by simp [first]⟩
  have hnoon (second : Nat) (h : second < 60) (now : DateTime) :
      (Value.moment (noon second h)).Placed now (noon second h) :=
    ⟨rfl, by simp [noon]⟩
  have hbefore : (first (some 86340)).compareTo (first none) = .ok .lt :=
    (hcompare _ _ hfirst.2).2.1 (-86340000000) (since_iff.mpr (by decide +kernel))
  have hequal : (noon 0 (by decide)).compareTo (noon 0 (by decide)) = .ok .eq :=
    (hcompare _ _ (hnoon 0 (by decide) (noon 0 (by decide))).2).2.1 0
      (since_iff.mpr (by decide +kernel))
  have hafter : (noon 1 (by decide)).compareTo (noon 0 (by decide)) = .ok .gt :=
    (hcompare _ _ (hnoon 1 (by decide) (noon 0 (by decide))).2).2.1 1000000
      (since_iff.mpr (by decide +kernel))
  refine ⟨((hside _ _ _ hfirst).2 .lt).mpr hbefore, ?_, ?_, ?_⟩
  · refine (hsame _ _ _ _ _ htold (hnoon 0 (by decide) _) ?_ .eq).mpr ?_
    · exact since_iff.mpr (by decide +kernel)
    · exact ((hside _ _ _ (hnoon 0 (by decide) _)).2 .eq).mpr hequal
  · have hshown := ((hside _ _ _ (hnoon 1 (by decide) (noon 0 (by decide)))).2 .gt).mpr hafter
    obtain ⟨hpasses, -⟩ := hshown
    refine hlater _ _ _ _ _ _ 63854049600000000 1000000 (hnoon 1 (by decide) _)
      (hnoon 2 (by decide) _) ?_ ?_ (by decide) (by decide) hpasses
    · exact since_iff.mpr (by decide +kernel)
    · exact since_iff.mpr (by decide +kernel)
  · have hmoment (t : DateTime) : Value.null.lenientMoment? (first none) ≠ .ok (some t) := by
      simp [Value.lenientMoment?, Value.moment?]
    exact (hnone _ _ hmoment).2.1 (by simp)

/-- An hour with so many digits that no fraction of it can be taken is no date, but the rules do not
say so. -/
theorem not_undated_of_long_hour :
    let context : Context :=
      ⟨.ofDate ⟨2024, 6, 15, by decide, by decide, by decide, by decide⟩, "YYYY-MM-DD"⟩
    let v : Value := .text "11111111111111111111111111111h"
    (∀ t, v.lenientMoment? context.now ≠ .ok (some t)) ∧
      Halts .builtin context "f" v (.mapping []) ⟨"future", none⟩ .quantityTooLong ∧
      Halts .builtin context "f" v (.mapping []) ⟨"past", none⟩ .quantityTooLong ∧
      ¬Undated context "f" v (.mapping []) none := by
  intro context v
  have hfault : v.lenientMoment? context.now = .error .quantityTooLong := by decide +kernel
  have hnone (t : DateTime) : v.lenientMoment? context.now ≠ .ok (some t) := by simp [hfault]
  refine ⟨hnone, halts_ofSide_of_error get?_future hfault,
    halts_ofSide_of_error get?_past hfault, ?_⟩
  rw [undated_iff hnone]
  simp [hfault]

end FieldRun

end FormRules
