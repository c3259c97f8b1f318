import FormRules.Proofs.DateFormat.Cut
import Mathlib

namespace FormRules.DateFormat

inductive Kind
  | digit
  | blank
  | letter
  | other
  deriving DecidableEq

def isFoldedLetter (c : Char) : Bool := isAsciiLetter (Text.caseFold c)

def kind (c : Char) : Kind :=
  if Text.isDigit c then .digit
  else if Text.isBlank c then .blank
  else if isFoldedLetter c then .letter
  else .other

def digitRanges : List Text.Range := Text.zeros.map fun z => (z, z + 9)

def foldedLetterRanges : List Text.Range :=
  [(0x41, 0x5A), (0x61, 0x7A), (0x130, 0x131), (0x17F, 0x17F), (0x212A, 0x212A)]

def apart (rs qs : List Text.Range) : Bool :=
  rs.all fun r => qs.all fun q => r.2 < q.1 || q.2 < r.1

theorem inRanges_eq_true_iff {rs : List Text.Range} {c : Char} :
    Text.inRanges rs c = true ↔ ∃ r ∈ rs, r.1 ≤ c.toNat ∧ c.toNat ≤ r.2 := by
  simp only [Text.inRanges, List.any_eq_true, Bool.and_eq_true, decide_eq_true_eq]

theorem not_inRanges_of_apart {rs qs : List Text.Range} (h : apart rs qs = true) {c : Char}
    (hc : Text.inRanges rs c = true) : ¬Text.inRanges qs c = true := by
  intro hc'
  obtain ⟨r, hr, hlo, hhi⟩ := inRanges_eq_true_iff.mp hc
  obtain ⟨q, hq, hlo', hhi'⟩ := inRanges_eq_true_iff.mp hc'
  have := List.all_eq_true.mp (List.all_eq_true.mp h r hr) q hq
  simp only [Bool.or_eq_true, decide_eq_true_eq] at this
  omega

theorem isDigit_eq (c : Char) : Text.isDigit c = Text.inRanges digitRanges c := by
  simp [Text.isDigit, Text.digit?, Text.inRanges, digitRanges, List.any_map, Function.comp_def,
    List.isSome_find?]

theorem toNat_ofNat {n : Nat} (h : n < 0xD800) : (Char.ofNat n).toNat = n := by
  have hvalid : n.isValidChar := .inl h
  simp [Char.ofNat, hvalid, Char.toNat, Char.ofNatAux]

theorem le_iff_toNat_le {a c : Char} : a ≤ c ↔ a.toNat ≤ c.toNat := Iff.rfl

theorem toNat_asciiLower (c : Char) :
    (Text.asciiLower c).toNat = if 65 ≤ c.toNat ∧ c.toNat ≤ 90 then c.toNat + 32 else c.toNat := by
  unfold Text.asciiLower
  simp only [le_iff_toNat_le, Char.reduceToNat]
  split
  · exact toNat_ofNat (by omega)
  · rfl

theorem isAsciiLetter_iff (c : Char) : isAsciiLetter c = true ↔
    65 ≤ c.toNat ∧ c.toNat ≤ 90 ∨ 97 ≤ c.toNat ∧ c.toNat ≤ 122 := by
  simp only [isAsciiLetter, Bool.and_eq_true, decide_eq_true_eq, le_iff_toNat_le, toNat_asciiLower,
    Char.reduceToNat]
  split <;> omega

theorem isFoldedLetter_eq (c : Char) : isFoldedLetter c = Text.inRanges foldedLetterRanges c := by
  rw [Bool.eq_iff_iff, inRanges_eq_true_iff, isFoldedLetter, Text.caseFold]
  split <;> simp_all [isAsciiLetter_iff, toNat_asciiLower, foldedLetterRanges]
  split <;> omega

theorem not_isDigit_of_isBlank {c : Char} (h : Text.isBlank c = true) : ¬Text.isDigit c = true := by
  rw [isDigit_eq]
  exact not_inRanges_of_apart (by decide) h

theorem not_isDigit_of_isFoldedLetter {c : Char} (h : isFoldedLetter c = true) :
    ¬Text.isDigit c = true := by
  rw [isFoldedLetter_eq] at h
  rw [isDigit_eq]
  exact not_inRanges_of_apart (by decide) h

theorem not_isBlank_of_isFoldedLetter {c : Char} (h : isFoldedLetter c = true) :
    ¬Text.isBlank c = true := by
  rw [isFoldedLetter_eq] at h
  exact not_inRanges_of_apart (by decide) h

theorem kind_eq_digit_iff {c : Char} : kind c = .digit ↔ Text.isDigit c = true := by
  unfold kind
  split
  · simp [*]
  · split
    · simp [*]
    · split <;> simp [*]

theorem kind_eq_blank_iff {c : Char} : kind c = .blank ↔ Text.isBlank c = true := by
  unfold kind
  split
  · next h => simpa using fun hb => not_isDigit_of_isBlank hb h
  · split
    · simp [*]
    · split <;> simp [*]

theorem kind_eq_letter_iff {c : Char} : kind c = .letter ↔ isFoldedLetter c = true := by
  unfold kind
  split
  · next h => simpa using fun hl => not_isDigit_of_isFoldedLetter hl h
  · split
    · next h => simpa using fun hl => not_isBlank_of_isFoldedLetter hl h
    · split <;> simp [*]

theorem caseFold_eq_self {c : Char} (h : kind c ≠ .letter) : Text.caseFold c = c := by
  rw [Ne, kind_eq_letter_iff, isFoldedLetter_eq, inRanges_eq_true_iff] at h
  apply Char.toNat_inj.mp
  unfold Text.caseFold
  split <;> simp_all [foldedLetterRanges, toNat_asciiLower]

theorem kind_caseFold (c : Char) : kind (Text.caseFold c) = kind c := by
  by_cases h : kind c = .letter
  · rw [h]
    rw [kind_eq_letter_iff, isFoldedLetter_eq, inRanges_eq_true_iff] at h ⊢
    unfold Text.caseFold
    split <;> simp_all [foldedLetterRanges, toNat_asciiLower]
    split <;> omega
  · rw [caseFold_eq_self h]

theorem kind_eq_of_sameLetter {c d : Char} (h : Text.sameLetter c d = true) : kind d = kind c := by
  rw [← kind_caseFold d, ← kind_caseFold c, ← beq_iff_eq.mp h]

theorem eq_of_sameLetter {c d : Char} (h : Text.sameLetter c d = true) (hc : kind c ≠ .letter) :
    d = c := by
  have hd : kind d ≠ .letter := by rwa [kind_eq_of_sameLetter h]
  rw [← caseFold_eq_self hd, ← caseFold_eq_self hc, ← beq_iff_eq.mp h]

theorem kind_of_isAsciiDigit {c : Char} (h : Text.isAsciiDigit c = true) : kind c = .digit := by
  simp only [Text.isAsciiDigit, Bool.and_eq_true, decide_eq_true_eq, le_iff_toNat_le,
    Char.reduceToNat] at h
  rw [kind_eq_digit_iff, isDigit_eq, inRanges_eq_true_iff]
  exact ⟨(0x30, 0x39), by decide, by simpa using h⟩

theorem kind_of_isAsciiLetter {c : Char} (h : isAsciiLetter c = true) : kind c = .letter := by
  rw [isAsciiLetter_iff] at h
  rw [kind_eq_letter_iff, isFoldedLetter_eq, inRanges_eq_true_iff]
  rcases h with h | h
  · exact ⟨(0x41, 0x5A), by decide, h⟩
  · exact ⟨(0x61, 0x7A), by decide, h⟩

def changes : List Kind → Nat
  | a :: b :: ks => (if a = b then 0 else 1) + changes (b :: ks)
  | _ => 0

theorem changes_cons (k : Kind) (ks : List Kind) :
    changes (k :: ks) =
      (if ks.head? = none ∨ ks.head? = some k then 0 else 1) + changes ks := by
  cases ks <;> simp [changes, eq_comm]

theorem changes_cons_self (k : Kind) (ks : List Kind) :
    changes (k :: k :: ks) = changes (k :: ks) := by
  simp [changes]

theorem changes_replicate_append (k : Kind) (n : Nat) (ks : List Kind) :
    changes (List.replicate (n + 1) k ++ ks) = changes (k :: ks) := by
  induction n with
  | zero => rfl
  | succ n ih => rw [List.replicate_succ, List.replicate_succ, List.cons_append, List.cons_append,
      changes_cons_self, ← ih, List.replicate_succ, List.cons_append]

theorem eq_append_blank_of_changes_eq {ks js : List Kind}
    (h : changes (ks ++ .blank :: .digit :: js) = changes (ks ++ .digit :: js)) :
    ∃ is, ks = is ++ [.blank] := by
  match ks with
  | [] => simp [changes] at h
  | [a] => cases a <;> simp [changes] at h ⊢; omega
  | a :: b :: ks =>
    obtain ⟨is, his⟩ := @eq_append_blank_of_changes_eq (b :: ks) js (by simpa [changes] using h)
    exact ⟨a :: is, by simp [his]⟩

inductive Runs : List Kind → List Char → Prop
  | nil : Runs [] []
  | cons {k : Kind} {ks : List Kind} {t s : List Char} :
      t ≠ [] → (∀ c ∈ t, kind c = k) → Runs ks s → Runs (k :: ks) (t ++ s)

namespace Runs

variable {ks js : List Kind} {k : Kind} {s t : List Char}

theorem cons_char (c : Char) (h : Runs ks s) : Runs (kind c :: ks) (c :: s) :=
  .cons (t := [c]) (by simp) (by simp) h

theorem append (h : Runs ks s) (h' : Runs js t) : Runs (ks ++ js) (s ++ t) := by
  induction h with
  | nil => exact h'
  | cons hne hk _ ih => simpa using Runs.cons hne hk ih

theorem append_inv (h : Runs (ks ++ js) s) : ∃ s₁ s₂, s = s₁ ++ s₂ ∧ Runs ks s₁ ∧ Runs js s₂ := by
  induction ks generalizing s with
  | nil => exact ⟨[], s, rfl, .nil, h⟩
  | cons k ks ih =>
    cases h with
    | cons hne hk h =>
      obtain ⟨s₁, s₂, rfl, h₁, h₂⟩ := ih h
      exact ⟨_, s₂, by simp, .cons hne hk h₁, h₂⟩

theorem head?_eq (h : Runs ks s) : s.head?.map kind = ks.head? := by
  cases h with
  | nil => rfl
  | @cons k _ t _ hne hk _ =>
    cases t with
    | nil => exact absurd rfl hne
    | cons c t => simp [hk c]

theorem changes_eq (h : Runs ks s) : changes (s.map kind) = changes ks := by
  induction h with
  | nil => rfl
  | @cons k ks t s hne hk h ih =>
    obtain ⟨n, hn⟩ := Nat.exists_eq_succ_of_ne_zero (by simpa using hne : t.length ≠ 0)
    have hrep : t.map kind = List.replicate (n + 1) k := by
      rw [List.eq_replicate_iff]
      simpa [hn] using hk
    rw [List.map_append, hrep, changes_replicate_append]
    rw [changes_cons, changes_cons k ks, ih, List.head?_map, h.head?_eq]

end Runs

end FormRules.DateFormat
