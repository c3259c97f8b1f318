import FormRules.Proofs.DateFormat.Stretch
import FormRules.Proofs.DateFormat.Part

namespace FormRules.DateFormat

def given (format : String) : List Directive := directives (elements (pieces format))

def Single (format : String) : Prop := ((given format).filterMap Directive.component?).Nodup

instance (format : String) : Decidable (Single format) :=
  inferInstanceAs (Decidable (List.Nodup _))

theorem map_fst_of_cut {format : String} {s : List Char} {parts : Parts}
    (h : Cut (items (pieces format)) s parts) : parts.map Prod.fst = given format := by
  rw [h.map_fst, ← elements_eq]
  rfl

/-- The text can be cut, in the exact widths of the tokens, so that every component is the number
that its token's segment spells. -/
def Spelled (format s : String) (t : DateTime) : Prop :=
  ∃ parts, Cut (items (pieces format)) s.toList parts ∧ ∀ k, parts.value? k = some (t.get k : Int)

theorem amount?_of_value? {format : String} (h : Single format) {parts : Parts}
    (hparts : parts.map Prod.fst = given format) {p : Directive × List Char} (hp : p ∈ parts)
    {k : Component} (hk : p.1.component? = some k) {n : Int} (hvalue : parts.value? k = some n) :
    amount? parts.mark p = some n := by
  have hnodup : parts.components.Nodup := by
    rw [Parts.components, hparts]
    exact h
  rwa [Parts.value?, Parts.last?_eq_of_mem hnodup hp hk] at hvalue

def AllUnmixed (format : String) : Prop := ∀ g ∈ stretches (items (pieces format)), Unmixed g

instance (format : String) : Decidable (AllUnmixed format) :=
  inferInstanceAs (Decidable (∀ g ∈ stretches (items (pieces format)), Unmixed g))

theorem mark_of_sameButBlank {parts parts' : Parts} (h : SameButBlank parts parts') :
    parts.mark = parts'.mark := by
  rcases h with rfl | ⟨before, after, t, rfl, rfl⟩
  · rfl
  · simp [Parts.mark, List.find?_append]

theorem moment?_of_sameButBlank {parts parts' : Parts} (h : SameButBlank parts parts') :
    moment? parts = moment? parts' := by
  have hmark := mark_of_sameButBlank h
  rcases h with rfl | ⟨before, after, t, rfl, rfl⟩
  · rfl
  · rw [moment?_eq, moment?_eq, hmark]
    simp [List.foldlM_append, Fields.set?, digitsValue_cons_blank]

theorem exists_cut_of_parse {format s : String} {t : DateTime} (h : NoRepeats format)
    (hunmixed : AllUnmixed format) (hparse : parse format s = .ok (some t)) :
    ∃ parts, Cut (items (pieces format)) s.toList parts ∧ (∀ p ∈ parts, p.1.Takes p.2) ∧
      moment? parts = some t := by
  have htab := tabled_items format
  rw [parse_of_noRepeats h] at hparse
  split at hparse
  · next hfits =>
    obtain ⟨parts₀, hcut⟩ := fits_iff.mp hfits
    have hread := Except.ok.inj hparse
    unfold read? at hread
    split at hread
    · next parts hsteps =>
      obtain ⟨u, hu, hreading⟩ := reading_of_readSteps? hsteps
      rw [List.append_nil] at hu
      subst hu
      have hnodup : (parts.map Prod.fst).Nodup := by
        rw [hreading.map_fst, filterMap_directive?_steps]
        exact h
      have hchanges := (hcut.runs htab).changes_eq
      rw [show
        (items (pieces format)).map Item.kind = (elements (pieces format)).map Element.kind by
        rw [elements_eq, List.map_map]; rfl] at hchanges
      obtain ⟨parts', hreading', heven, hsame⟩ := exists_even_reading hchanges hnodup hreading
      rw [elements_eq] at hreading'
      refine ⟨parts', cut_of_reading htab hunmixed hcut hreading' heven, hreading'.takes, ?_⟩
      rw [← moment?_of_sameButBlank hsame, hread]
    · cases hread
  · cases hparse

theorem spelled_of_parse {format s : String} {t : DateTime} (h : NoRepeats format)
    (hunmixed : AllUnmixed format) (hparse : parse format s = .ok (some t)) :
    Spelled format s t := by
  obtain ⟨parts, hcut, -, hmoment⟩ := exists_cut_of_parse h hunmixed hparse
  exact ⟨parts, hcut, (moment?_eq_some_iff.mp hmoment).2.2⟩

end FormRules.DateFormat
