import FormRules.Number.Integer
import FormRules.Proofs.Number.Nearest
import FormRules.Proofs.Text.Padded
import Mathlib

namespace FormRules

structure Digits (s : List Char) : Prop where
  ne_nil : s ≠ []
  isDigit : ∀ c ∈ s, Text.isDigit c = true

inductive Signed (body : List Char) : (negative : Bool) → List Char → Prop
  | bare : Signed body false body
  | plus : Signed body false ('+' :: body)
  | minus : Signed body true ('-' :: body)

def IsSign (c : Char) : Prop := c = '+' ∨ c = '-'

theorem not_isSign_of_isDigit {c : Char} (h : Text.isDigit c = true) : ¬IsSign c := by
  rintro (rfl | rfl) <;> exact absurd h (by decide)

theorem Digits.not_isSign_head? {s : List Char} (h : Digits s) (r : List Char) :
    ∀ c ∈ (s ++ r).head?, ¬IsSign c := by
  obtain ⟨c, t, rfl⟩ := List.exists_cons_of_ne_nil h.ne_nil
  intro d hd
  cases hd
  exact not_isSign_of_isDigit (h.isDigit c List.mem_cons_self)

theorem Text.digitsValue_append (s t : List Char) :
    digitsValue (s ++ t) = digitsValue s * 10 ^ t.length + digitsValue t := by
  induction t using List.reverseRecOn with
  | nil => simp [digitsValue]
  | append_singleton t c ih =>
    rw [← List.append_assoc, digitsValue_append_singleton, ih, digitsValue_append_singleton,
      List.length_append, List.length_singleton, pow_succ]
    ring

namespace Decimal

theorem signed_readSign (s : List Char) : Signed (readSign s).2 (readSign s).1 s := by
  unfold readSign
  split
  · exact .minus
  · exact .plus
  · exact .bare

theorem readSign_of_signed {body s : List Char} {negative : Bool} (h : Signed body negative s)
    (hbody : ∀ c ∈ body.head?, ¬IsSign c) : readSign s = (negative, body) := by
  cases h with
  | plus => rfl
  | minus => rfl
  | bare =>
    unfold readSign
    split
    · exact absurd (.inr rfl) (hbody '-' rfl)
    · exact absurd (.inl rfl) (hbody '+' rfl)
    · rfl

end Decimal

/-! ## Integers -/

namespace Integer

/-- An optional sign and at most 4300 digits, with single underscores between groups of them. -/
inductive Written : ℤ → List Char → Prop
  | intro {negative : Bool} {groups : List (List Char)} {s : List Char} (hne : groups ≠ [])
      (hgroups : ∀ g ∈ groups, Digits g) (hlength : groups.flatten.length ≤ 4300)
      (hs : Signed (Text.join '_' groups) negative s) :
    Written (if negative then -(Text.digitsValue groups.flatten : ℤ)
      else Text.digitsValue groups.flatten) s

theorem separated?_cons_cons {c d : Char} (hc : Text.isDigit c = true)
    (hd : Text.isDigit d = true) (s : List Char) :
    separated? (c :: d :: s) = (separated? (d :: s)).map (c :: ·) := by
  rw [separated?, if_pos hc]
  · simp
  · rintro s ⟨⟩
    exact absurd hd (by decide)

theorem separated?_of_digits {g : List Char} (h : Digits g) : separated? g = some g := by
  obtain ⟨hne, hg⟩ := h
  induction g with
  | nil => exact absurd rfl hne
  | cons c g ih =>
    obtain ⟨hc, hg⟩ := List.forall_mem_cons.mp hg
    cases g with
    | nil => simp [separated?, hc]
    | cons d g =>
      rw [separated?_cons_cons hc (hg d List.mem_cons_self), ih (by simp) hg]
      rfl

theorem separated?_append {g s ds : List Char} (h : Digits g) (hs : separated? s = some ds) :
    separated? (g ++ '_' :: s) = some (g ++ ds) := by
  obtain ⟨hne, hg⟩ := h
  induction g with
  | nil => exact absurd rfl hne
  | cons c g ih =>
    obtain ⟨hc, hg⟩ := List.forall_mem_cons.mp hg
    cases g with
    | nil => simp [separated?, hc, hs]
    | cons d g =>
      have ih : separated? (d :: (g ++ '_' :: s)) = some (d :: g ++ ds) := ih (by simp) hg
      rw [List.cons_append, List.cons_append,
        separated?_cons_cons hc (hg d List.mem_cons_self), ih]
      rfl

theorem separated?_join {groups : List (List Char)} (hne : groups ≠ [])
    (h : ∀ g ∈ groups, Digits g) :
    separated? (Text.join '_' groups) = some groups.flatten := by
  induction groups with
  | nil => exact absurd rfl hne
  | cons g groups ih =>
    obtain ⟨hg, hgroups⟩ := List.forall_mem_cons.mp h
    cases groups with
    | nil => simpa [Text.join] using separated?_of_digits hg
    | cons g' groups => exact separated?_append hg (ih (by simp) hgroups)

theorem exists_groups_of_separated? {s ds : List Char} (h : separated? s = some ds) :
    ∃ groups : List (List Char), groups ≠ [] ∧ (∀ g ∈ groups, Digits g) ∧
      s = Text.join '_' groups ∧ ds = groups.flatten := by
  have hsingle {c : Char} (hc : Text.isDigit c = true) : Digits [c] := ⟨by simp, by simpa using hc⟩
  fun_induction separated? s generalizing ds with
  | case1 => cases h
  | case2 c hc =>
    cases h
    exact ⟨[[c]], by simp, by simpa using hsingle hc, rfl, rfl⟩
  | case3 => cases h
  | case4 c s hc ih =>
    obtain ⟨ds, hds, rfl⟩ := Option.map_eq_some_iff.mp h
    obtain ⟨groups, hne, hgroups, rfl, rfl⟩ := ih hds
    obtain ⟨g, groups, rfl⟩ := List.exists_cons_of_ne_nil hne
    exact ⟨[c] :: g :: groups, by simp, List.forall_mem_cons.mpr ⟨hsingle hc, hgroups⟩, rfl, rfl⟩
  | case5 => cases h
  | case6 c s _ _ hc ih =>
    obtain ⟨ds, hds, rfl⟩ := Option.map_eq_some_iff.mp h
    obtain ⟨groups, hne, hgroups, rfl, rfl⟩ := ih hds
    obtain ⟨g, groups, rfl⟩ := List.exists_cons_of_ne_nil hne
    obtain ⟨hg, hgroups⟩ := List.forall_mem_cons.mp hgroups
    refine ⟨(c :: g) :: groups, by simp, List.forall_mem_cons.mpr ⟨⟨by simp, ?_⟩, hgroups⟩, ?_, rfl⟩
    · exact List.forall_mem_cons.mpr ⟨hc, hg.isDigit⟩
    · cases groups <;> rfl
  | case7 => cases h

theorem not_isSign_head?_join {groups : List (List Char)} (h : ∀ g ∈ groups, Digits g) :
    ∀ c ∈ (Text.join '_' groups).head?, ¬IsSign c := by
  match groups with
  | [] => simp [Text.join]
  | [g] => simpa [Text.join] using (h g (by simp)).not_isSign_head? []
  | g :: g' :: groups => exact (h g (by simp)).not_isSign_head? _

theorem read?_eq_some_iff {s : List Char} {n : ℤ} : read? s = some n ↔ Written n s := by
  constructor
  · intro h
    have hsigned := Decimal.signed_readSign s
    rw [read?] at h
    generalize Decimal.readSign s = p at *
    obtain ⟨negative, body⟩ := p
    dsimp only at h hsigned
    split at h
    · cases h
    · rename_i digits hdigits
      obtain ⟨groups, hne, hgroups, rfl, rfl⟩ := exists_groups_of_separated? hdigits
      split at h
      · rename_i hlength
        rw [← Option.some.inj h]
        exact .intro hne hgroups hlength hsigned
      · cases h
  · rintro ⟨hne, hgroups, hlength, hsigned⟩
    rw [read?, Decimal.readSign_of_signed hsigned (not_isSign_head?_join hgroups)]
    simp only [separated?_join hne hgroups]
    exact if_pos hlength

end Integer

/-! ## Decimal literals -/

structure Numeral where
  negative : Bool
  whole : List Char
  fraction : List Char
  exponent : ℤ

namespace Numeral

inductive Mantissa : (whole fraction : List Char) → List Char → Prop
  | whole {w : List Char} (hw : Digits w) : Mantissa w [] w
  | point {w f : List Char} (hw : Digits w) (hf : ∀ c ∈ f, Text.isDigit c = true) :
    Mantissa w f (w ++ '.' :: f)
  | fraction {f : List Char} (hf : Digits f) : Mantissa [] f ('.' :: f)

inductive Exponent : ℤ → List Char → Prop
  | absent : Exponent 0 []
  | given {mark : Char} {negative : Bool} {digits s : List Char} (hmark : mark = 'e' ∨ mark = 'E')
      (hdigits : Digits digits) (hs : Signed digits negative s) :
    Exponent (if negative then -(Text.digitsValue digits : ℤ) else Text.digitsValue digits)
      (mark :: s)

inductive Written (n : Numeral) : List Char → Prop
  | intro {m e s : List Char} (hm : Mantissa n.whole n.fraction m) (he : Exponent n.exponent e)
      (hs : Signed (m ++ e) n.negative s) : Written n s

def value (n : Numeral) : ℚ :=
  withSign n.negative
    ((Text.digitsValue n.whole + Text.digitsValue n.fraction / 10 ^ n.fraction.length) *
      10 ^ n.exponent)

def decimal (n : Numeral) : Decimal :=
  ⟨n.negative, Text.digitsValue (n.whole ++ n.fraction), n.exponent - n.fraction.length⟩

theorem exact_decimal (n : Numeral) : n.decimal.exact = n.value := by
  rw [Decimal.exact_eq, decimal, value, Text.digitsValue_append,
    zpow_sub₀ (by norm_num : (10 : ℚ) ≠ 0), zpow_natCast]
  congr 1
  push_cast
  field_simp

theorem Mantissa.not_isSign_head? {w f m : List Char} (h : Mantissa w f m) (r : List Char) :
    ∀ c ∈ (m ++ r).head?, ¬IsSign c := by
  cases h with
  | whole hw => exact hw.not_isSign_head? r
  | point hw _ =>
    rw [List.append_assoc]
    exact hw.not_isSign_head? _
  | fraction _ =>
    intro c hc
    cases hc
    rintro (h | h) <;> exact absurd h (by decide)

end Numeral

namespace Decimal

open Numeral

theorem readExponent?_eq_some_iff {s : List Char} {e : ℤ} :
    readExponent? s = some e ↔ Exponent e s := by
  constructor
  · intro h
    cases s with
    | nil =>
      cases h
      exact .absent
    | cons c s =>
      have hsigned := signed_readSign s
      rw [readExponent?] at h
      generalize readSign s = p at *
      obtain ⟨negative, digits⟩ := p
      dsimp only at h hsigned
      split at h
      · rename_i hgiven
        obtain ⟨hmark, hne, hdigits⟩ := hgiven
        rw [← Option.some.inj h]
        exact .given hmark ⟨hne, List.all_eq_true.mp hdigits⟩ hsigned
      · cases h
  · intro h
    cases h with
    | absent => rfl
    | given hmark hdigits hsigned =>
      have hhead := hdigits.not_isSign_head? []
      rw [List.append_nil] at hhead
      rw [readExponent?, readSign_of_signed hsigned hhead]
      exact if_pos ⟨hmark, hdigits.ne_nil, List.all_eq_true.mpr hdigits.isDigit⟩

theorem head?_of_exponent {e : ℤ} {s : List Char} (h : Exponent e s) :
    ∀ c ∈ s.head?, ¬Text.isDigit c = true ∧ c ≠ '.' := by
  cases h with
  | absent => simp
  | given hmark _ _ =>
    intro c hc
    cases hc
    rcases hmark with rfl | rfl <;> decide

theorem span_of_digits {s r : List Char} (hs : ∀ c ∈ s, Text.isDigit c = true)
    (hr : ∀ c ∈ r.head?, ¬Text.isDigit c = true) :
    (s ++ r).takeWhile Text.isDigit = s ∧ (s ++ r).dropWhile Text.isDigit = r := by
  rw [List.takeWhile_append_of_pos hs, List.dropWhile_append_of_pos hs]
  cases r with
  | nil => simp
  | cons c r =>
    have hc := hr c rfl
    simp [hc]

theorem exists_span (s : List Char) :
    ∃ w r, s = w ++ r ∧ (∀ c ∈ w, Text.isDigit c = true) ∧
      ∀ c ∈ r.head?, ¬Text.isDigit c = true := by
  refine ⟨s.takeWhile Text.isDigit, s.dropWhile Text.isDigit, List.takeWhile_append_dropWhile.symm,
    fun c hc => List.mem_takeWhile_imp hc, ?_⟩
  intro c hc hdigit
  have hnot := List.head?_dropWhile_not Text.isDigit s
  rw [Option.mem_def.mp hc] at hnot
  exact Bool.noConfusion (hdigit.symm.trans hnot)

section Body

variable {s w f r : List Char} {negative : Bool} (hw : ∀ c ∈ w, Text.isDigit c = true)
  (hr : ∀ c ∈ r.head?, ¬Text.isDigit c = true)

include hw hr

theorem read?_of_whole (hsign : readSign s = (negative, w ++ r)) (hpoint : ∀ c ∈ r.head?, c ≠ '.') :
    read? s =
      if w = [] then none
      else (readExponent? r).map fun e => (⟨negative, w, [], e⟩ : Numeral).decimal := by
  obtain ⟨htake, hdrop⟩ := span_of_digits hw hr
  rw [read?, hsign]
  dsimp only
  rw [htake, hdrop]
  split
  · exact absurd rfl (hpoint '.' rfl)
  · simp [decimal]

theorem read?_of_point (hf : ∀ c ∈ f, Text.isDigit c = true)
    (hsign : readSign s = (negative, w ++ '.' :: (f ++ r))) :
    read? s =
      if w = [] ∧ f = [] then none
      else (readExponent? r).map fun e => (⟨negative, w, f, e⟩ : Numeral).decimal := by
  obtain ⟨htake, hdrop⟩ := span_of_digits (r := '.' :: (f ++ r)) hw (by simp; decide)
  obtain ⟨htake', hdrop'⟩ := span_of_digits hf hr
  rw [read?, hsign]
  dsimp only
  rw [htake, hdrop]
  simp only [htake', hdrop']
  rfl

end Body

theorem read?_of_written {n : Numeral} {s : List Char} (h : n.Written s) :
    read? s = some n.decimal := by
  obtain ⟨hm, he, hsigned⟩ := h
  have hsign := readSign_of_signed hsigned (hm.not_isSign_head? _)
  have hend c hc := (head?_of_exponent he c hc).1
  have hread := readExponent?_eq_some_iff.mpr he
  obtain ⟨negative, whole, fraction, exponent⟩ := n
  dsimp only at hm hsign hread
  cases hm with
  | whole hw =>
    rw [read?_of_whole hw.isDigit hend hsign fun c hc => (head?_of_exponent he c hc).2,
      if_neg hw.ne_nil, hread]
    rfl
  | point hw hf =>
    rw [List.append_assoc, List.cons_append] at hsign
    rw [read?_of_point hw.isDigit hend hf hsign, if_neg fun h => hw.ne_nil h.1, hread]
    rfl
  | fraction hf =>
    rw [read?_of_point (w := []) (by simp) hend hf.isDigit hsign, if_neg fun h => hf.ne_nil h.2,
      hread]
    rfl

theorem exists_written_of_read? {s : List Char} {d : Decimal} (h : read? s = some d) :
    ∃ n : Numeral, n.Written s ∧ n.decimal = d := by
  obtain ⟨negative, body, hsign⟩ : ∃ negative body, readSign s = (negative, body) := ⟨_, _, rfl⟩
  have hsigned := signed_readSign s
  rw [hsign] at hsigned
  obtain ⟨w, r, rfl, hw, hr⟩ := exists_span body
  by_cases hpoint : ∃ t, r = '.' :: t
  · obtain ⟨t, rfl⟩ := hpoint
    obtain ⟨f, r, rfl, hf, hr⟩ := exists_span t
    rw [read?_of_point hw hr hf hsign] at h
    split at h
    · cases h
    · rename_i hne
      obtain ⟨e, he, rfl⟩ := Option.map_eq_some_iff.mp h
      have hm : Mantissa w f (w ++ '.' :: f) := by
        by_cases hempty : w = []
        · subst hempty
          exact .fraction ⟨fun h => hne ⟨rfl, h⟩, hf⟩
        · exact .point ⟨hempty, hw⟩ hf
      refine ⟨⟨negative, w, f, e⟩, .intro hm (readExponent?_eq_some_iff.mp he) ?_, rfl⟩
      simpa using hsigned
  · have hpoint' : ∀ c ∈ r.head?, c ≠ '.' := by
      rintro c hc rfl
      exact hpoint ⟨r.tail, (List.cons_head?_tail hc).symm⟩
    rw [read?_of_whole hw hr hsign hpoint'] at h
    split at h
    · cases h
    · rename_i hne
      obtain ⟨e, he, rfl⟩ := Option.map_eq_some_iff.mp h
      exact ⟨⟨negative, w, [], e⟩,
        .intro (.whole ⟨hne, hw⟩) (readExponent?_eq_some_iff.mp he) hsigned, rfl⟩

theorem read?_eq_some_iff {s : List Char} {d : Decimal} :
    read? s = some d ↔ ∃ n : Numeral, n.Written s ∧ n.decimal = d := by
  constructor
  · exact exists_written_of_read?
  · rintro ⟨n, hn, rfl⟩
    exact read?_of_written hn

end Decimal

end FormRules
