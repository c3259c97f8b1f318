import FormRules.Proofs.DateFormat.Kind
import FormRules.Text.Pattern

namespace FormRules.Text

/-! ## Sets of characters -/

def isForeign (c : Char) : Bool := 0x80 ≤ c.toNat && DateFormat.kind c == .other

def alike (a b : Char) : Bool := sameLetter a b || isForeign a && isForeign b

theorem alike_comm (a b : Char) : alike a b = alike b a := by
  rw [alike, alike, sameLetter, sameLetter, Bool.beq_comm, Bool.and_comm]

theorem kind_eq_other_of_isForeign {c : Char} (h : isForeign c = true) :
    DateFormat.kind c = .other := by
  rw [isForeign, Bool.and_eq_true] at h
  exact beq_iff_eq.mp h.2

namespace CharSet

/-- A set that has letters without regard to their case, and of the characters of other scripts all
or none. -/
def isCaseless : CharSet → Bool
  | .asciiLetter => false
  | .ignoringCase c => !isForeign c
  | .among cs => cs.all fun c => DateFormat.kind c != .letter && !isForeign c
  | .union a b => a.isCaseless && b.isCaseless
  | .outside a => a.isCaseless
  | .blank | .digit | .asciiDigit | .letter => true

def coversBlank : CharSet → Bool
  | .blank => true
  | .union a b => a.coversBlank || b.coversBlank
  | _ => false

def isInked : CharSet → Bool
  | .blank => false
  | .ignoringCase c => !isBlank c
  | .among cs => cs.all (!isBlank ·)
  | .union a b => a.isInked && b.isInked
  | .outside a => a.coversBlank
  | .digit | .asciiDigit | .asciiLetter | .letter => true

variable {cs ds : CharSet} {a b c : Char}

theorem union_holds_iff :
    (union cs ds).holds c = true ↔ cs.holds c = true ∨ ds.holds c = true := by
  rw [holds, Bool.or_eq_true]

theorem outside_holds_iff : (outside cs).holds c = true ↔ ¬cs.holds c = true := by
  simp [holds]

theorem among_holds_iff {chars : List Char} : (among chars).holds c = true ↔ c ∈ chars :=
  List.contains_iff_mem

theorem letter_holds_iff : letter.holds c = true ↔ DateFormat.isFoldedLetter c = true := by
  rw [DateFormat.isFoldedLetter_eq, DateFormat.inRanges_eq_true_iff, holds, caseFold]
  split <;> simp_all [DateFormat.le_iff_toNat_le, DateFormat.toNat_asciiLower,
    DateFormat.foldedLetterRanges]
  split <;> omega

theorem holds_eq_of_sameLetter (h : cs.isCaseless = true) (hab : sameLetter a b = true) :
    cs.holds a = cs.holds b := by
  by_cases ha : DateFormat.kind a = .letter
  · have hb : DateFormat.kind b = .letter := by rwa [DateFormat.kind_eq_of_sameLetter hab]
    have hfold : caseFold a = caseFold b := beq_iff_eq.mp hab
    induction cs with
    | blank =>
      rw [Bool.eq_iff_iff, holds, holds, ← DateFormat.kind_eq_blank_iff,
        ← DateFormat.kind_eq_blank_iff, ha, hb]
    | digit =>
      rw [Bool.eq_iff_iff, holds, holds, ← DateFormat.kind_eq_digit_iff,
        ← DateFormat.kind_eq_digit_iff, ha, hb]
    | asciiDigit =>
      have hnot {c : Char} (hc : DateFormat.kind c = .letter) : ¬isAsciiDigit c = true := by
        intro hdigit
        simp [DateFormat.kind_of_isAsciiDigit hdigit] at hc
      simp only [holds, hnot ha, hnot hb]
    | asciiLetter => simp [isCaseless] at h
    | letter => simp only [holds, hfold]
    | ignoringCase d => simp only [holds, sameLetter, hfold]
    | among cs =>
      have hnot {c : Char} (hc : DateFormat.kind c = .letter) : c ∉ cs := by
        intro hmem
        simpa [hc] using List.all_eq_true.mp h c hmem
      simp [holds, hnot ha, hnot hb]
    | union p q ihp ihq =>
      rw [isCaseless, Bool.and_eq_true] at h
      rw [holds, holds, ihp h.1, ihq h.2]
    | outside p ih => rw [holds, holds, ih h]
  · rw [DateFormat.eq_of_sameLetter hab ha]

theorem exists_holds_eq_of_isForeign (h : cs.isCaseless = true) :
    ∃ verdict, ∀ c, isForeign c = true → cs.holds c = verdict := by
  induction cs with
  | blank =>
    refine ⟨false, fun c hc => ?_⟩
    rw [holds, Bool.eq_false_iff, Ne, ← DateFormat.kind_eq_blank_iff, kind_eq_other_of_isForeign hc]
    decide
  | digit =>
    refine ⟨false, fun c hc => ?_⟩
    rw [holds, Bool.eq_false_iff, Ne, ← DateFormat.kind_eq_digit_iff, kind_eq_other_of_isForeign hc]
    decide
  | asciiDigit =>
    refine ⟨false, fun c hc => Bool.eq_false_iff.mpr fun hdigit => ?_⟩
    have hkind := kind_eq_other_of_isForeign hc
    rw [DateFormat.kind_of_isAsciiDigit hdigit] at hkind
    cases hkind
  | asciiLetter => simp [isCaseless] at h
  | letter =>
    refine ⟨false, fun c hc => ?_⟩
    rw [Bool.eq_false_iff, Ne, letter_holds_iff, ← DateFormat.kind_eq_letter_iff,
      kind_eq_other_of_isForeign hc]
    decide
  | ignoringCase d =>
    refine ⟨false, fun c hc => Bool.eq_false_iff.mpr fun hsame => ?_⟩
    have hd : DateFormat.kind d ≠ .letter := by
      rw [← DateFormat.kind_eq_of_sameLetter hsame, kind_eq_other_of_isForeign hc]
      decide
    rw [DateFormat.eq_of_sameLetter hsame hd] at hc
    simp [isCaseless, hc] at h
  | among cs =>
    refine ⟨false, fun c hc => Bool.eq_false_iff.mpr fun hmem => ?_⟩
    simpa [hc] using List.all_eq_true.mp h c (among_holds_iff.mp hmem)
  | union p q ihp ihq =>
    rw [isCaseless, Bool.and_eq_true] at h
    obtain ⟨u, hu⟩ := ihp h.1
    obtain ⟨v, hv⟩ := ihq h.2
    exact ⟨u || v, fun c hc => by rw [holds, hu c hc, hv c hc]⟩
  | outside p ih =>
    obtain ⟨u, hu⟩ := ih h
    exact ⟨!u, fun c hc => by rw [holds, hu c hc]⟩

theorem holds_eq_of_alike (h : cs.isCaseless = true) (hab : alike a b = true) :
    cs.holds a = cs.holds b := by
  rw [alike, Bool.or_eq_true, Bool.and_eq_true] at hab
  rcases hab with hsame | ⟨ha, hb⟩
  · exact holds_eq_of_sameLetter h hsame
  · obtain ⟨verdict, hverdict⟩ := exists_holds_eq_of_isForeign h
    rw [hverdict a ha, hverdict b hb]

theorem holds_of_coversBlank (h : cs.coversBlank = true) (hc : isBlank c = true) :
    cs.holds c = true := by
  induction cs with
  | blank => exact hc
  | union a b iha ihb =>
    rw [coversBlank, Bool.or_eq_true] at h
    exact union_holds_iff.mpr (h.imp iha ihb)
  | _ => simp [coversBlank] at h

theorem not_isBlank_of_isInked (h : cs.isInked = true) (hc : cs.holds c = true) :
    ¬isBlank c = true := by
  induction cs with
  | blank => simp [isInked] at h
  | digit => exact fun hblank => DateFormat.not_isDigit_of_isBlank hblank hc
  | asciiDigit =>
    rw [← DateFormat.kind_eq_blank_iff, DateFormat.kind_of_isAsciiDigit hc]
    decide
  | asciiLetter =>
    rw [← DateFormat.kind_eq_blank_iff, DateFormat.kind_of_isAsciiLetter hc]
    decide
  | letter => exact DateFormat.not_isBlank_of_isFoldedLetter (letter_holds_iff.mp hc)
  | ignoringCase d =>
    rw [← DateFormat.kind_eq_blank_iff, DateFormat.kind_eq_of_sameLetter hc,
      DateFormat.kind_eq_blank_iff]
    simpa [isInked] using h
  | among cs =>
    rw [isInked, List.all_eq_true] at h
    simpa using h c (among_holds_iff.mp hc)
  | union a b iha ihb =>
    rw [isInked, Bool.and_eq_true] at h
    exact (union_holds_iff.mp hc).elim (iha h.1) (ihb h.2)
  | outside a _ =>
    exact fun hblank => outside_holds_iff.mp hc (holds_of_coversBlank h hblank)

end CharSet

namespace Pattern

variable {p q : Pattern} {cs : CharSet} {s : List Char} {c : Char} {n : Nat}

/-! ## Reading by derivatives -/

theorem nullable_iff (p : Pattern) : p.nullable = true ↔ p.Matches [] := by
  induction p with
  | never => simp [nullable, Matches]
  | empty => simp [nullable, Matches]
  | one cs => simp [nullable, Matches]
  | seq p q ihp ihq => simp [nullable, Matches, ihp, ihq]
  | either p q ihp ihq => simp [nullable, Matches, ihp, ihq]
  | both p q ihp ihq => simp [nullable, Matches, ihp, ihq]
  | many p ih => simpa [nullable, Matches] using ⟨[], by simp⟩

theorem matches_of_isAlternativeOf (h : p.isAlternativeOf q = true) (hp : p.Matches s) :
    q.Matches s := by
  induction q with
  | either a b _ ihb =>
    rw [isAlternativeOf, Bool.or_eq_true, beq_iff_eq] at h
    rcases h with rfl | h
    · exact .inl hp
    · exact .inr (ihb h)
  | _ =>
    simp only [isAlternativeOf, beq_iff_eq] at h
    exact h ▸ hp

theorem matches_or : (or p q).Matches s ↔ p.Matches s ∨ q.Matches s := by
  fun_induction or p q with
  | case1 q => simp [Matches]
  | case2 q a b ihb iha => rw [iha, ihb, Matches, or_assoc]
  | case3 p => simp [Matches]
  | case4 p q _ _ _ h => simpa using matches_of_isAlternativeOf h
  | case5 p q => rfl

theorem matches_next : (next p q).Matches s ↔ (seq p q).Matches s := by
  fun_cases next p q with
  | case1 => simp [Matches]
  | case2 => simp [Matches]
  | case3 => rfl

theorem matches_and : (and p q).Matches s ↔ p.Matches s ∧ q.Matches s := by
  fun_cases and p q with
  | case1 => simp [Matches]
  | case2 => simp [Matches]
  | case3 => rfl

theorem seq_matches_cons :
    (seq p q).Matches (c :: s) ↔
      (∃ a b, s = a ++ b ∧ p.Matches (c :: a) ∧ q.Matches b) ∨
        p.Matches [] ∧ q.Matches (c :: s) := by
  constructor
  · rintro ⟨a, b, heq, ha, hb⟩
    cases a with
    | nil => exact .inr ⟨ha, heq ▸ hb⟩
    | cons d a =>
      obtain ⟨rfl, rfl⟩ := List.cons.inj heq
      exact .inl ⟨a, b, rfl, ha, hb⟩
  · rintro (⟨a, b, rfl, ha, hb⟩ | ⟨hp, hq⟩)
    · exact ⟨c :: a, b, rfl, ha, hb⟩
    · exact ⟨[], c :: s, rfl, hp, hq⟩

theorem many_matches_cons :
    (many p).Matches (c :: s) ↔ ∃ a b, s = a ++ b ∧ p.Matches (c :: a) ∧ (many p).Matches b := by
  constructor
  · rintro ⟨parts, heq, hparts⟩
    induction parts with
    | nil => simp at heq
    | cons part parts ih =>
      obtain ⟨hpart, hrest⟩ := List.forall_mem_cons.mp hparts
      cases part with
      | nil => exact ih heq hrest
      | cons d a =>
        obtain ⟨rfl, rfl⟩ := List.cons.inj heq
        exact ⟨a, parts.flatten, rfl, hpart, parts, rfl, hrest⟩
  · rintro ⟨a, _, rfl, ha, parts, rfl, hparts⟩
    exact ⟨(c :: a) :: parts, rfl, List.forall_mem_cons.mpr ⟨ha, hparts⟩⟩

theorem matches_derive (c : Char) (p : Pattern) (s : List Char) :
    (p.derive c).Matches s ↔ p.Matches (c :: s) := by
  induction p generalizing s with
  | never => rfl
  | empty => simp [derive, Matches]
  | one cs =>
    rw [derive]
    split <;> simp_all [Matches]
  | seq p q ihp ihq =>
    have hnext : (next (p.derive c) q).Matches s ↔
        ∃ a b, s = a ++ b ∧ p.Matches (c :: a) ∧ q.Matches b := by
      simp only [matches_next, Matches, ihp]
    rw [derive, seq_matches_cons, ← nullable_iff]
    split
    · rw [matches_or, hnext, ihq]
      simp [*]
    · rw [hnext]
      simp [*]
  | either p q ihp ihq => rw [derive, matches_or, ihp, ihq, Matches]
  | both p q ihp ihq => rw [derive, matches_and, ihp, ihq, Matches]
  | many p ih =>
    rw [derive, matches_next, many_matches_cons]
    simp only [Matches, ih]

theorem accepts_iff (p : Pattern) (s : List Char) : p.accepts s = true ↔ p.Matches s := by
  induction s generalizing p with
  | nil => exact nullable_iff p
  | cons c s ih => rw [accepts, ih, matches_derive]

/-! ## Derived forms -/

theorem matches_opt : (opt p).Matches s ↔ s = [] ∨ p.Matches s := or_comm

theorem matches_one : (one cs).Matches s ↔ ∃ c, cs.holds c = true ∧ s = [c] := Iff.rfl

theorem matches_char : (char c).Matches s ↔ s = [c] := by
  simp [char, Matches, CharSet.holds]

theorem matches_seq : (seq p q).Matches s ↔ ∃ a b, s = a ++ b ∧ p.Matches a ∧ q.Matches b := Iff.rfl

theorem matches_text {t : List Char} : (text t).Matches s ↔ s = t := by
  induction t generalizing s with
  | nil => rfl
  | cons c t ih =>
    rw [text, matches_seq]
    simp [matches_char, ih]

theorem matches_word {t : List Char} :
    (word t).Matches s ↔ List.Forall₂ (fun a b => sameLetter a b = true) t s := by
  induction t generalizing s with
  | nil => simp [word, Matches]
  | cons c t ih =>
    rw [List.forall₂_cons_left_iff]
    simp only [word, matches_seq, matches_one, CharSet.holds, ih]
    constructor
    · rintro ⟨_, b, rfl, ⟨d, hd, rfl⟩, hb⟩
      exact ⟨d, b, hd, hb, rfl⟩
    · rintro ⟨d, b, hd, hb, rfl⟩
      exact ⟨[d], b, rfl, ⟨d, hd, rfl⟩, hb⟩

theorem matches_many_one : (many (one cs)).Matches s ↔ ∀ c ∈ s, cs.holds c = true := by
  constructor
  · rintro ⟨parts, rfl, hparts⟩ c hc
    obtain ⟨part, hpart, hc⟩ := List.mem_flatten.mp hc
    obtain ⟨d, hd, rfl⟩ := hparts part hpart
    rwa [List.mem_singleton.mp hc]
  · intro h
    refine ⟨s.map fun c => [c], (List.flatMap_singleton' s).symm, ?_⟩
    rintro _ hpart
    obtain ⟨c, hc, rfl⟩ := List.mem_map.mp hpart
    exact ⟨c, h c hc, rfl⟩

theorem matches_plus :
    (plus p).Matches s ↔ ∃ parts ≠ [], s = parts.flatten ∧ ∀ a ∈ parts, p.Matches a := by
  constructor
  · rintro ⟨a, _, rfl, ha, parts, rfl, hparts⟩
    exact ⟨a :: parts, List.cons_ne_nil _ _, rfl, List.forall_mem_cons.mpr ⟨ha, hparts⟩⟩
  · rintro ⟨parts, hne, rfl, hparts⟩
    obtain ⟨a, parts, rfl⟩ := List.exists_cons_of_ne_nil hne
    obtain ⟨ha, hrest⟩ := List.forall_mem_cons.mp hparts
    exact ⟨a, parts.flatten, rfl, ha, parts, rfl, hrest⟩

theorem matches_plus_one :
    (plus (one cs)).Matches s ↔ s ≠ [] ∧ ∀ c ∈ s, cs.holds c = true := by
  cases s with
  | nil => simp [plus, Matches]
  | cons c s => simp [plus, matches_seq, matches_one, matches_many_one, List.cons_eq_append_iff]

theorem matches_times :
    (times n p).Matches s ↔
      ∃ parts : List (List Char),
        parts.length = n ∧ s = parts.flatten ∧ ∀ a ∈ parts, p.Matches a := by
  induction n generalizing s with
  | zero => simp [times, Matches]
  | succ n ih =>
    simp only [times, matches_seq, ih]
    constructor
    · rintro ⟨a, _, rfl, ha, parts, hlength, rfl, hparts⟩
      exact ⟨a :: parts, by simp [hlength], rfl, List.forall_mem_cons.mpr ⟨ha, hparts⟩⟩
    · rintro ⟨parts, hlength, rfl, hparts⟩
      obtain ⟨a, parts, rfl⟩ := List.exists_cons_of_length_eq_add_one hlength
      obtain ⟨ha, hrest⟩ := List.forall_mem_cons.mp hparts
      exact ⟨a, parts.flatten, rfl, ha, parts, by simpa using hlength, rfl, hrest⟩

theorem matches_times_one :
    (times n (one cs)).Matches s ↔ s.length = n ∧ ∀ c ∈ s, cs.holds c = true := by
  induction n generalizing s with
  | zero => cases s <;> simp [times, Matches]
  | succ n ih =>
    cases s with
    | nil => simp [times, Matches]
    | cons c s =>
      simp [times, matches_seq, matches_one, ih, List.cons_eq_append_iff, and_left_comm]

theorem matches_upTo_one :
    (upTo n (one cs)).Matches s ↔ s.length ≤ n ∧ ∀ c ∈ s, cs.holds c = true := by
  induction n generalizing s with
  | zero => cases s <;> simp [upTo, Matches]
  | succ n ih =>
    cases s with
    | nil => simp [upTo, matches_opt]
    | cons c s =>
      simp [upTo, matches_opt, matches_seq, matches_one, ih, List.cons_eq_append_iff,
        and_left_comm]

theorem matches_between_one {lo hi : Nat} (h : lo ≤ hi) :
    (between lo hi (one cs)).Matches s ↔
      lo ≤ s.length ∧ s.length ≤ hi ∧ ∀ c ∈ s, cs.holds c = true := by
  simp only [between, matches_seq, matches_times_one, matches_upTo_one]
  constructor
  · rintro ⟨a, b, rfl, ⟨ha, hcs⟩, hb, hcs'⟩
    rw [List.length_append]
    exact ⟨by omega, by omega, List.forall_mem_append.mpr ⟨hcs, hcs'⟩⟩
  · rintro ⟨hlo, hhi, hcs⟩
    refine ⟨s.take lo, s.drop lo, (List.take_append_drop lo s).symm, ⟨by simpa using hlo, ?_⟩,
      by simp; omega, ?_⟩
    · exact fun c hc => hcs c (List.mem_of_mem_take hc)
    · exact fun c hc => hcs c (List.mem_of_mem_drop hc)

theorem matches_atLeast_one :
    (atLeast n (one cs)).Matches s ↔ n ≤ s.length ∧ ∀ c ∈ s, cs.holds c = true := by
  simp only [atLeast, matches_seq, matches_times_one, matches_many_one]
  constructor
  · rintro ⟨a, b, rfl, ⟨ha, hcs⟩, hcs'⟩
    rw [List.length_append]
    exact ⟨by omega, List.forall_mem_append.mpr ⟨hcs, hcs'⟩⟩
  · rintro ⟨hn, hcs⟩
    refine ⟨s.take n, s.drop n, (List.take_append_drop n s).symm, ⟨by simpa using hn, ?_⟩, ?_⟩
    · exact fun c hc => hcs c (List.mem_of_mem_take hc)
    · exact fun c hc => hcs c (List.mem_of_mem_drop hc)

/-! ## All characters of a text -/

def sets : Pattern → List CharSet
  | .never | .empty => []
  | .one cs => [cs]
  | .seq p q | .either p q | .both p q => p.sets ++ q.sets
  | .many p => p.sets

theorem forall_mem_of_matches {P : Char → Prop} (h : ∀ cs ∈ p.sets, ∀ c, cs.holds c = true → P c)
    (hs : p.Matches s) : ∀ c ∈ s, P c := by
  induction p generalizing s with
  | never => exact hs.elim
  | empty => simp [show s = [] from hs]
  | one cs =>
    obtain ⟨c, hc, rfl⟩ := hs
    simpa using h cs (by simp [sets]) c hc
  | seq p q ihp ihq =>
    obtain ⟨a, b, rfl, ha, hb⟩ := hs
    obtain ⟨hp, hq⟩ := List.forall_mem_append.mp h
    exact List.forall_mem_append.mpr ⟨ihp hp ha, ihq hq hb⟩
  | either p q ihp ihq =>
    obtain ⟨hp, hq⟩ := List.forall_mem_append.mp h
    exact hs.elim (ihp hp) (ihq hq)
  | both p q ihp _ => exact ihp (List.forall_mem_append.mp h).1 hs.1
  | many p ih =>
    obtain ⟨parts, rfl, hparts⟩ := hs
    intro c hc
    obtain ⟨part, hpart, hc⟩ := List.mem_flatten.mp hc
    exact ih h (hparts part hpart) c hc

theorem matches_of_forall₂ {R : Char → Char → Prop}
    (h : ∀ cs ∈ p.sets, ∀ a b, R a b → cs.holds b = true → cs.holds a = true) {t : List Char}
    (hR : List.Forall₂ R t s) (hs : p.Matches s) : p.Matches t := by
  induction p generalizing s t with
  | never => exact hs
  | empty =>
    cases (show s = [] from hs)
    exact List.forall₂_nil_right_iff.mp hR
  | one cs =>
    obtain ⟨b, hb, rfl⟩ := hs
    obtain ⟨a, u, hab, hu, rfl⟩ := List.forall₂_cons_right_iff.mp hR
    cases List.forall₂_nil_right_iff.mp hu
    exact ⟨a, h cs (by simp [sets]) a b hab hb, rfl⟩
  | seq p q ihp ihq =>
    obtain ⟨a, b, rfl, ha, hb⟩ := hs
    obtain ⟨hp, hq⟩ := List.forall_mem_append.mp h
    exact ⟨t.take a.length, t.drop a.length, (List.take_append_drop _ _).symm,
      ihp hp (List.forall₂_take_append _ _ _ hR) ha, ihq hq (List.forall₂_drop_append _ _ _ hR) hb⟩
  | either p q ihp ihq =>
    obtain ⟨hp, hq⟩ := List.forall_mem_append.mp h
    exact hs.imp (ihp hp hR) (ihq hq hR)
  | both p q ihp ihq =>
    obtain ⟨hp, hq⟩ := List.forall_mem_append.mp h
    exact ⟨ihp hp hR hs.1, ihq hq hR hs.2⟩
  | many p ih =>
    obtain ⟨parts, rfl, hparts⟩ := hs
    induction parts generalizing t with
    | nil =>
      cases List.forall₂_nil_right_iff.mp hR
      exact ⟨[], rfl, by simp⟩
    | cons a parts ihparts =>
      obtain ⟨ha, hrest⟩ := List.forall_mem_cons.mp hparts
      have hhead := ih h (List.forall₂_take_append _ _ _ hR) ha
      obtain ⟨parts', heq, hparts'⟩ := ihparts hrest (List.forall₂_drop_append _ _ _ hR)
      refine ⟨t.take a.length :: parts', ?_, List.forall_mem_cons.mpr ⟨hhead, hparts'⟩⟩
      rw [List.flatten_cons, ← heq, List.take_append_drop]

end Pattern

end FormRules.Text
