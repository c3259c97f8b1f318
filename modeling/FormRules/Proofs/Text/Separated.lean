import FormRules.Text.Blank
import FormRules.Text.Cut
import Mathlib

namespace FormRules.Text

/-! ## Separators -/

theorem pieces_append_cons (sep : Char) (s t : List Char) :
    pieces sep (s ++ sep :: t) = pieces sep s ++ pieces sep t := by
  induction s with
  | nil => simp [pieces]
  | cons c s ih =>
    rw [List.cons_append, pieces, pieces, ih]
    split
    · rfl
    · cases h : pieces sep s with
      | nil => exact absurd h (pieces_ne_nil sep s)
      | cons p ps => rfl

theorem pieces_of_notMem {sep : Char} {s : List Char} (h : sep ∉ s) : pieces sep s = [s] := by
  induction s with
  | nil => rfl
  | cons c s ih =>
    obtain ⟨hc, hs⟩ := not_or.mp (List.mem_cons.not.mp h)
    rw [pieces, if_neg (Ne.symm hc), ih hs]

theorem notMem_of_mem_pieces {sep : Char} {s p : List Char} (h : p ∈ pieces sep s) : sep ∉ p := by
  induction s generalizing p with
  | nil =>
    rw [List.mem_singleton.mp h]
    exact List.not_mem_nil
  | cons c s ih =>
    rw [pieces] at h
    split at h
    · rcases List.mem_cons.mp h with rfl | h
      · exact List.not_mem_nil
      · exact ih h
    · rename_i hc
      cases hps : pieces sep s with
      | nil => exact absurd hps (pieces_ne_nil sep s)
      | cons q qs =>
        rw [hps] at h ih
        rcases List.mem_cons.mp h with rfl | h
        · exact List.mem_cons.not.mpr (not_or.mpr ⟨Ne.symm hc, ih List.mem_cons_self⟩)
        · exact ih (List.mem_cons_of_mem q h)

theorem pieces_join {sep : Char} {ps : List (List Char)} (hne : ps ≠ [])
    (h : ∀ p ∈ ps, sep ∉ p) : pieces sep (join sep ps) = ps := by
  induction ps with
  | nil => exact absurd rfl hne
  | cons p ps ih =>
    obtain ⟨hp, hps⟩ := List.forall_mem_cons.mp h
    cases ps with
    | nil => exact pieces_of_notMem hp
    | cons q qs =>
      rw [join, pieces_append_cons, pieces_of_notMem hp, ih (List.cons_ne_nil q qs) hps]
      · rfl
      · exact List.cons_ne_nil q qs

theorem join_eq_intercalate (sep : Char) (ps : List (List Char)) :
    join sep ps = [sep].intercalate ps := by
  induction ps with
  | nil => rfl
  | cons p ps ih =>
    cases ps with
    | nil => simp [join]
    | cons q qs => simp [join, ih]

theorem notMem_join {sep c : Char} {ps : List (List Char)} (hsep : c ≠ sep) (h : ∀ p ∈ ps, c ∉ p) :
    c ∉ join sep ps := by
  induction ps with
  | nil => exact List.not_mem_nil
  | cons p ps ih =>
    obtain ⟨hp, hps⟩ := List.forall_mem_cons.mp h
    cases ps with
    | nil => exact hp
    | cons q qs => simp [join, hp, hsep, ih hps]

theorem cut_eq_none_iff {sep : Char} {s : List Char} : cut sep s = none ↔ sep ∉ s := by
  induction s with
  | nil => simp [cut]
  | cons c s ih =>
    rw [cut, List.mem_cons, not_or]
    split
    · rename_i hc
      simp [hc]
    · rename_i hc
      simp [ih, Ne.symm hc]

theorem cut_append_cons {sep : Char} {l : List Char} (h : sep ∉ l) (r : List Char) :
    cut sep (l ++ sep :: r) = some (l, r) := by
  induction l with
  | nil => simp [cut]
  | cons c l ih =>
    obtain ⟨hc, hl⟩ := not_or.mp (List.mem_cons.not.mp h)
    rw [List.cons_append, cut, if_neg (Ne.symm hc), ih hl]
    rfl

theorem eq_append_of_cut {sep : Char} {s l r : List Char} (h : cut sep s = some (l, r)) :
    s = l ++ sep :: r ∧ sep ∉ l := by
  induction s generalizing l with
  | nil => simp [cut] at h
  | cons c s ih =>
    rw [cut] at h
    split at h
    · rename_i hc
      cases h
      exact ⟨by rw [hc, List.nil_append], List.not_mem_nil⟩
    · rename_i hc
      obtain ⟨⟨l', r'⟩, hcut, heq⟩ := Option.map_eq_some_iff.mp h
      cases heq
      obtain ⟨rfl, hl⟩ := ih hcut
      exact ⟨rfl, List.mem_cons.not.mpr (not_or.mpr ⟨Ne.symm hc, hl⟩)⟩

/-! ## Blanks -/

def StartsBlank (s : List Char) : Prop := ∃ c ∈ s.head?, isBlank c = true

def EndsBlank (s : List Char) : Prop := ∃ c ∈ s.getLast?, isBlank c = true

theorem startsBlank_cons {c : Char} {s : List Char} : StartsBlank (c :: s) ↔ isBlank c = true := by
  simp [StartsBlank]

theorem endsBlank_singleton {c : Char} : EndsBlank [c] ↔ isBlank c = true := by
  simp [EndsBlank]

theorem not_startsBlank_nil : ¬StartsBlank [] := by simp [StartsBlank]

theorem not_endsBlank_nil : ¬EndsBlank [] := by simp [EndsBlank]

theorem endsBlank_append_cons {s t : List Char} {c : Char} :
    EndsBlank (s ++ c :: t) ↔ EndsBlank (c :: t) := by
  simp [EndsBlank, List.getLast?_append]

theorem endsBlank_cons_iff {c : Char} {s : List Char} (hne : s ≠ []) :
    EndsBlank (c :: s) ↔ EndsBlank s := by
  obtain ⟨d, s, rfl⟩ := List.exists_cons_of_ne_nil hne
  exact endsBlank_append_cons (s := [c])

theorem trimLeft_of_not_startsBlank {s : List Char} (h : ¬StartsBlank s) : trimLeft s = s := by
  cases s with
  | nil => rfl
  | cons c s =>
    rw [startsBlank_cons] at h
    rw [trimLeft, List.dropWhile_cons_of_neg h]

theorem not_startsBlank_trimLeft (s : List Char) : ¬StartsBlank (trimLeft s) := by
  rintro ⟨c, hc, hblank⟩
  have hnot := List.head?_dropWhile_not isBlank s
  rw [trimLeft, Option.mem_def] at hc
  rw [hc] at hnot
  exact Bool.noConfusion (hblank.symm.trans hnot)

theorem trimRight_of_not_endsBlank {s : List Char} (h : ¬EndsBlank s) : trimRight s = s := by
  refine List.rdropWhile_eq_self_iff.mpr fun hne hblank => h ⟨s.getLast hne, ?_, hblank⟩
  exact List.getLast?_eq_getLast_of_ne_nil hne

theorem not_endsBlank_trimRight (s : List Char) : ¬EndsBlank (trimRight s) := by
  rintro ⟨c, hc, hblank⟩
  obtain ⟨hne, rfl⟩ := List.mem_getLast?_eq_getLast hc
  exact List.rdropWhile_last_not isBlank s hne hblank

theorem trim_of_not_blank {s : List Char} (hstart : ¬StartsBlank s) (hend : ¬EndsBlank s) :
    trim s = s := by
  rw [trim, trimLeft_of_not_startsBlank hstart, trimRight_of_not_endsBlank hend]

theorem trimRight_start (s : List Char) : trimRight s <+: s := List.rdropWhile_prefix isBlank s

theorem not_startsBlank_trim (s : List Char) : ¬StartsBlank (trim s) := by
  obtain ⟨t, ht⟩ := trimRight_start (trimLeft s)
  cases hs : trim s with
  | nil => exact not_startsBlank_nil
  | cons c u =>
    have hstart := not_startsBlank_trimLeft s
    rw [← ht, ← trim, hs, List.cons_append, startsBlank_cons] at hstart
    rwa [startsBlank_cons]

theorem not_endsBlank_trim (s : List Char) : ¬EndsBlank (trim s) := not_endsBlank_trimRight _

theorem mem_of_mem_trim {s : List Char} {c : Char} (h : c ∈ trim s) : c ∈ s := by
  apply (List.dropWhile_suffix isBlank).subset
  exact (trimRight_start (trimLeft s)).subset h

theorem trim_eq_nil_iff {s : List Char} : trim s = [] ↔ isBlankText s = true := by
  rw [isBlankText, List.all_eq_true]
  constructor
  · intro h c hc
    have hleft : ∀ d ∈ trimLeft s, isBlank d = true :=
      List.rdropWhile_eq_nil_iff.mp h
    rw [← List.takeWhile_append_dropWhile (p := isBlank) (l := s)] at hc
    rcases List.mem_append.mp hc with hc | hc
    · exact List.mem_takeWhile_imp hc
    · exact hleft c hc
  · intro h
    have hleft : trimLeft s = [] := List.dropWhile_eq_nil_iff.mpr h
    rw [trim, hleft]
    rfl

end FormRules.Text
