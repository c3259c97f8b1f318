import FormRules.Logger
import Mathlib

namespace FormRules.Loggers

variable {ls : Loggers} {l : Logger} {name other : String} {f : Logger → Logger}

def Below (name other : String) : Prop :=
  name ≠ other ∧ (other = Logger.rootName ∨ other.toList ++ ['.'] <+: name.toList)

instance (name other : String) : Decidable (Below name other) := inferInstanceAs (Decidable (_ ∧ _))

/-! ## Lookup -/

theorem mem_of_get? (h : ls.get? name = some l) : l ∈ ls ∧ l.name = name :=
  ⟨List.mem_of_find?_eq_some h, by simpa using List.find?_some h⟩

theorem get?_map (hf : ∀ l, (f l).name = l.name) (ls : Loggers) (name : String) :
    get? (ls.map f) name = (ls.get? name).map f := by
  have hcomp : (fun l : Logger => l.name == name) ∘ f = fun l => l.name == name :=
    funext fun l => by rw [Function.comp_apply, hf]
  rw [get?, List.find?_map, hcomp, get?]

theorem place?_map (hf : ∀ l, (f l).name = l.name) (ls : Loggers) (name : String) :
    place? (ls.map f) name = ls.place? name := by
  have hcomp : (fun l : Logger => l.name == name) ∘ f = fun l => l.name == name :=
    funext fun l => by rw [Function.comp_apply, hf]
  rw [place?, List.findIdx?_map, hcomp, place?]

theorem place?_ensure {i : Nat} (h : ls.place? name = some i) :
    (ls.ensure other).place? name = some i := by
  rw [ensure]
  split
  · exact h
  · rw [place?, List.findIdx?_append]
    rw [place?] at h
    rw [h]
    rfl

theorem exists_place? (h : (ls.get? name).isSome) : ∃ i, ls.place? name = some i := by
  rw [← Option.isSome_iff_exists, place?, List.findIdx?_isSome]
  rwa [get?, List.find?_isSome, ← List.any_eq_true] at h

theorem mem_ensure (h : l ∈ ls.ensure name) : l ∈ ls ∨ l = .fresh name := by
  rw [ensure] at h
  split at h
  · exact .inl h
  · simpa using h

theorem mem_of_mem_ensure (h : l ∈ ls.ensure name) (hl : (ls.get? l.name).isSome) : l ∈ ls := by
  rw [ensure] at h
  split at h
  · exact h
  · rename_i hnone
    rcases List.mem_append.mp h with h | h
    · exact h
    · rw [List.mem_singleton.mp h] at hl
      exact absurd hl hnone

theorem isSome_get?_ensure (ls : Loggers) (name : String) :
    ((ls.ensure name).get? name).isSome := by
  rw [ensure]
  split
  · assumption
  · simp [get?, Logger.fresh]

theorem get?_ensure_of_get? (h : ls.get? name = some l) (other : String) :
    (ls.ensure other).get? name = some l := by
  rw [ensure]
  split
  · exact h
  · rw [get?, List.find?_append]
    rw [get?] at h
    rw [h]
    rfl

/-! ## Loggers above -/

theorem of_mem_above {s : List Char} (h : name ∈ ls.above s) :
    name = Logger.rootName ∨ name.toList ++ ['.'] <+: s.reverse := by
  fun_induction above ls s with
  | case1 c s next hthere ih =>
    rw [List.reverse_cons]
    rcases List.mem_cons.mp h with rfl | h
    · exact .inr (by rw [String.toList_ofList])
    · exact (ih h).imp id fun hbegins => hbegins.trans (List.prefix_append _ _)
  | case2 c s next hnone ih =>
    rw [List.reverse_cons, List.reverse_cons, List.append_assoc]
    exact (ih h).imp id fun hbegins => hbegins.trans (List.prefix_append _ _)
  | case3 c s hdot ih =>
    rw [List.reverse_cons]
    exact (ih h).imp id fun hbegins => hbegins.trans (List.prefix_append _ _)
  | case4 => exact .inl (List.mem_singleton.mp h)

theorem mem_chain_self (ls : Loggers) (name : String) : name ∈ ls.chain name := by
  rw [chain]
  split <;> exact List.mem_cons_self

theorem eq_or_below_of_mem_chain (h : other ∈ ls.chain name) : other = name ∨ Below name other := by
  rw [chain] at h
  split at h
  · exact .inl (List.mem_singleton.mp h)
  · rename_i hroot
    rcases List.mem_cons.mp h with rfl | h
    · exact .inl rfl
    · refine .inr ?_
      rcases of_mem_above h with rfl | hbegins
      · exact ⟨hroot, .inl rfl⟩
      · rw [List.reverse_reverse] at hbegins
        refine ⟨?_, .inr hbegins⟩
        rintro rfl
        have hle := hbegins.length_le
        simp at hle

theorem levelOf_eq {level : Log.Level} (h : ls.get? name = some l) (hl : l.level = some level) :
    ls.levelOf name = level := by
  have hown : (ls.get? name).bind (·.level) = some level := by rw [h, Option.bind_some, hl]
  rw [levelOf, chain]
  split <;> rw [List.findSome?_cons, hown] <;> rfl

end FormRules.Loggers
