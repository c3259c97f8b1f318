import FormRules.Clause
import FormRules.Proofs.Text.Separated

namespace FormRules.Clause

/-- The name has no bar and no colon and no blank at either end, the parameter no bar and no blank
at its end; the name may be empty if there is a parameter. -/
structure Writable (c : Clause) : Prop where
  bar_notMem_name : '|' ∉ c.name.toList
  colon_notMem_name : ':' ∉ c.name.toList
  not_startsBlank_name : ¬Text.StartsBlank c.name.toList
  not_endsBlank_name : ¬Text.EndsBlank c.name.toList
  bar_notMem_param : ∀ p ∈ c.param, '|' ∉ p.toList
  not_endsBlank_param : ∀ p ∈ c.param, ¬Text.EndsBlank p.toList
  name_ne_empty : c.param = none → c.name ≠ ""

theorem chars_bare (name : String) : chars ⟨name, none⟩ = name.toList := rfl

theorem chars_param (name p : String) :
    chars ⟨name, some p⟩ = name.toList ++ ':' :: p.toList := rfl

theorem not_isBlank_colon : ¬Text.isBlank ':' = true := by decide

variable {c : Clause}

namespace Writable

theorem bar_notMem_chars (h : c.Writable) : '|' ∉ c.chars := by
  obtain ⟨name, param⟩ := c
  cases param with
  | none => exact h.bar_notMem_name
  | some p =>
    have hname : '|' ∉ name.toList := h.bar_notMem_name
    have hparam : '|' ∉ p.toList := h.bar_notMem_param p rfl
    simp [chars_param, hname, hparam]

theorem not_startsBlank_chars (h : c.Writable) : ¬Text.StartsBlank c.chars := by
  have hname := h.not_startsBlank_name
  obtain ⟨name, param⟩ := c
  cases param with
  | none => exact hname
  | some p =>
    rw [chars_param]
    cases hn : name.toList with
    | nil =>
      rw [List.nil_append, Text.startsBlank_cons]
      exact not_isBlank_colon
    | cons a s =>
      simp only [hn, Text.startsBlank_cons] at hname
      rwa [List.cons_append, Text.startsBlank_cons]

theorem not_endsBlank_chars (h : c.Writable) : ¬Text.EndsBlank c.chars := by
  obtain ⟨name, param⟩ := c
  cases param with
  | none => exact h.not_endsBlank_name
  | some p =>
    rw [chars_param, Text.endsBlank_append_cons]
    by_cases hp : p.toList = []
    · rw [hp, Text.endsBlank_singleton]
      exact not_isBlank_colon
    · rw [Text.endsBlank_cons_iff hp]
      exact h.not_endsBlank_param p rfl

theorem trim_chars (h : c.Writable) : Text.trim c.chars = c.chars :=
  Text.trim_of_not_blank h.not_startsBlank_chars h.not_endsBlank_chars

theorem chars_ne_nil (h : c.Writable) : c.chars ≠ [] := by
  obtain ⟨name, param⟩ := c
  cases param with
  | none => simpa [chars_bare] using h.name_ne_empty rfl
  | some p => simp [chars_param]

theorem not_isBlankText_chars (h : c.Writable) : ¬Text.isBlankText c.chars = true := by
  rw [← Text.trim_eq_nil_iff, h.trim_chars]
  exact h.chars_ne_nil

theorem ofChars_chars (h : c.Writable) : ofChars c.chars = c := by
  have hname : Text.trim c.name.toList = c.name.toList :=
    Text.trim_of_not_blank h.not_startsBlank_name h.not_endsBlank_name
  unfold ofChars
  rw [h.trim_chars]
  obtain ⟨name, param⟩ := c
  cases param with
  | none =>
    rw [chars_bare, Text.cut_eq_none_iff.mpr h.colon_notMem_name]
    simp
  | some p =>
    rw [chars_param, Text.cut_append_cons h.colon_notMem_name]
    simp [hname]

end Writable

theorem writable_ofChars {s : List Char} (hbar : '|' ∉ s) (hblank : ¬Text.isBlankText s = true) :
    (ofChars s).Writable := by
  have hbar : '|' ∉ Text.trim s := fun h => hbar (Text.mem_of_mem_trim h)
  have hne : Text.trim s ≠ [] := Text.trim_eq_nil_iff.not.mpr hblank
  unfold ofChars
  cases hcut : Text.cut ':' (Text.trim s) with
  | none =>
    exact {
      bar_notMem_name := by simpa using hbar
      colon_notMem_name := by simpa using Text.cut_eq_none_iff.mp hcut
      not_startsBlank_name := by simpa using Text.not_startsBlank_trim s
      not_endsBlank_name := by simpa using Text.not_endsBlank_trim s
      bar_notMem_param := by simp
      not_endsBlank_param := by simp
      name_ne_empty := by simpa using hne }
  | some cut =>
    obtain ⟨name, param⟩ := cut
    obtain ⟨heq, hcolon⟩ := Text.eq_append_of_cut hcut
    have hend := Text.not_endsBlank_trim s
    rw [heq, Text.endsBlank_append_cons] at hend
    rw [heq] at hbar
    have hparam : ¬Text.EndsBlank param := by
      by_cases hp : param = []
      · rw [hp]
        exact Text.not_endsBlank_nil
      · rwa [Text.endsBlank_cons_iff hp] at hend
    exact {
      bar_notMem_name := by simpa using fun h => hbar (by simp [Text.mem_of_mem_trim h])
      colon_notMem_name := by simpa using fun h => hcolon (Text.mem_of_mem_trim h)
      not_startsBlank_name := by simpa using Text.not_startsBlank_trim name
      not_endsBlank_name := by simpa using Text.not_endsBlank_trim name
      bar_notMem_param := by simpa using fun h => hbar (by simp [h])
      not_endsBlank_param := by simpa using hparam
      name_ne_empty := by simp }

theorem writable_of_mem_readAll {spec : String} (h : c ∈ readAll spec) : c.Writable := by
  obtain ⟨p, hp, rfl⟩ := List.mem_map.mp h
  obtain ⟨hpiece, hblank⟩ := List.mem_filter.mp hp
  exact writable_ofChars (Text.notMem_of_mem_pieces hpiece) (by simpa using hblank)

theorem readAll_write {cs : List Clause} (h : ∀ c ∈ cs, c.Writable) : readAll (write cs) = cs := by
  have hkeep : (cs.map chars).filter (fun p => !Text.isBlankText p) = cs.map chars := by
    rw [List.filter_eq_self, List.forall_mem_map]
    intro c hc
    simpa using (h c hc).not_isBlankText_chars
  have hread : (cs.map chars).map ofChars = cs :=
    calc
      (cs.map chars).map ofChars = cs.map (ofChars ∘ chars) := List.map_map
      _ = cs.map id := List.map_congr_left fun c hc => (h c hc).ofChars_chars
      _ = cs := List.map_id cs
  unfold readAll write
  rw [String.toList_ofList]
  cases cs with
  | nil => rfl
  | cons d ds =>
    rw [Text.pieces_join (by simp) (List.forall_mem_map.mpr fun c hc => (h c hc).bar_notMem_chars),
      hkeep, hread]

/-- Rule strings are read into lists of writable clauses, all of these lists are read, and each of
them is read back from what it is written as. -/
theorem readAll_write_iff_writable :
    (∀ cs : List Clause, readAll (write cs) = cs ↔ ∀ c ∈ cs, c.Writable) ∧
    (∀ cs : List Clause, (∃ spec, readAll spec = cs) ↔ ∀ c ∈ cs, c.Writable) ∧
    ∀ spec, readAll (write (readAll spec)) = readAll spec := by
  have himage (cs : List Clause) : (∃ spec, readAll spec = cs) ↔ ∀ c ∈ cs, c.Writable := by
    constructor
    · rintro ⟨spec, rfl⟩ c hc
      exact writable_of_mem_readAll hc
    · intro h
      exact ⟨write cs, readAll_write h⟩
  refine ⟨?_, himage, ?_⟩
  · intro cs
    constructor
    · intro h
      exact (himage cs).mp ⟨write cs, h⟩
    · exact readAll_write
  · intro spec
    exact readAll_write fun c hc => writable_of_mem_readAll hc

/-- Colons, blanks in front of a parameter, an empty parameter and an empty name come back. -/
theorem readAll_write_of_colons :
    (∀ c ∈ [⟨"date", some " HH:mm"⟩, ⟨"min", some ""⟩, ⟨"", some ":"⟩, ⟨"a b", none⟩],
      Writable c) ∧
    readAll (write [⟨"date", some " HH:mm"⟩, ⟨"min", some ""⟩, ⟨"", some ":"⟩, ⟨"a b", none⟩]) =
      [⟨"date", some " HH:mm"⟩, ⟨"min", some ""⟩, ⟨"", some ":"⟩, ⟨"a b", none⟩] := by
  have hread : readAll " date : HH:mm ||min:|::|a b" =
      [⟨"date", some " HH:mm"⟩, ⟨"min", some ""⟩, ⟨"", some ":"⟩, ⟨"a b", none⟩] := by
    decide +kernel
  have hwritable := (readAll_write_iff_writable.2.1 _).mp ⟨_, hread⟩
  exact ⟨hwritable, (readAll_write_iff_writable.1 _).mpr hwritable⟩

end FormRules.Clause
