import FormRules.Proofs.Registry
import Mathlib

/-! The names of rules after any history of changes: a name is bound to the class for which it was
registered last, a class reports the name under which it was registered last, and the names stand in
the order in which they have come to be bound. -/

namespace FormRules.Registry

/-! ## Histories -/

inductive Change
  /-- of a class that is new -/
  | register (name : String) (rules : RuleClass)
  | registerAgain (name : String) (place : Nat)
  | unregister (name : String)

namespace Change

def name : Change → String
  | register name _ | registerAgain name _ | unregister name => name

def made? : Change → Option RuleClass
  | register _ rules => some rules
  | registerAgain _ _ | unregister _ => none

def place? (count : Nat) : Change → Option Nat
  | register _ _ => some count
  | registerAgain _ i => some i
  | unregister _ => none

end Change

def change? (r : Registry) : Change → Option Registry
  | .register name rules => some (r.register name rules)
  | .registerAgain name i => if i < r.classes.length then some (r.bind name i) else none
  | .unregister name => some (r.unregister name)

def after? (r : Registry) (cs : List Change) : Option Registry := cs.foldlM change? r

structure Event where
  name : String
  place : Option Nat
  deriving DecidableEq

def made (past : List Change) : List RuleClass := past.filterMap Change.made?

def events (count : Nat) : List Change → List Event
  | [] => []
  | c :: past => ⟨c.name, c.place? count⟩ :: events (count + c.made?.toList.length) past

def boundTo? (es : List Event) (name : String) : Option Nat :=
  (es.filter fun e => e.name == name).getLast?.bind (·.place)

def lastName? (es : List Event) (i : Nat) : Option String :=
  (es.filter fun e => e.place == some i).getLast?.map (·.name)

/-- The name has come to be bound at event `p`, and has not been dropped since. -/
def BoundSince (es : List Event) (name : String) (p : Nat) : Prop :=
  ∃ before e after, es = before ++ e :: after ∧ before.length = p ∧
    boundTo? before name = none ∧ e.name = name ∧ e.place.isSome = true ∧
    ∀ d ∈ after, d.name = name → d.place.isSome = true

def classAt? (past : List Change) (i : Nat) : Option NamedClass :=
  (made past)[i]?.bind fun rules =>
    (lastName? (events 0 past) i).map fun name => ⟨rules, name⟩

/-! ## One more event -/

variable {es : List Event} {e : Event} {name other : String} {i p : Nat}

theorem boundTo?_concat :
    boundTo? (es ++ [e]) name = if e.name = name then e.place else boundTo? es name := by
  by_cases h : e.name = name <;> simp [boundTo?, h]

theorem lastName?_concat :
    lastName? (es ++ [e]) i = if e.place = some i then some e.name else lastName? es i := by
  by_cases h : e.place = some i <;> simp [lastName?, h]

theorem boundSince_concat :
    BoundSince (es ++ [e]) name p ↔
      BoundSince es name p ∧ (e.name = name → e.place.isSome = true) ∨
        p = es.length ∧ boundTo? es name = none ∧ e.name = name ∧ e.place.isSome = true := by
  constructor
  · rintro ⟨before, d, after, heq, rfl, hbefore, hname, hplace, hafter⟩
    obtain rfl | ⟨after, last, rfl⟩ := List.eq_nil_or_concat after
    · obtain ⟨rfl, hlast⟩ := List.append_inj' heq rfl
      cases hlast
      exact .inr ⟨rfl, hbefore, hname, hplace⟩
    · rw [List.concat_eq_append, ← List.cons_append, ← List.append_assoc] at heq
      obtain ⟨rfl, hlast⟩ := List.append_inj' heq rfl
      cases hlast
      refine .inl ⟨⟨before, d, after, rfl, rfl, hbefore, hname, hplace, ?_⟩, hafter e (by simp)⟩
      exact fun x hx => hafter x (by simp [hx])
  · rintro (⟨⟨before, d, after, rfl, rfl, hbefore, hname, hplace, hafter⟩, he⟩ |
      ⟨rfl, hbefore, hname, hplace⟩)
    · refine ⟨before, d, after ++ [e], by simp, rfl, hbefore, hname, hplace, ?_⟩
      intro x hx
      rcases List.mem_append.mp hx with hx | hx
      · exact hafter x hx
      · rw [List.mem_singleton.mp hx]
        exact he
    · exact ⟨es, e, [], rfl, rfl, hbefore, hname, hplace, by simp⟩

theorem BoundSince.lt_length (h : BoundSince es name p) : p < es.length := by
  obtain ⟨before, e, after, rfl, rfl, -⟩ := h
  simp

theorem made_cons (c : Change) (past : List Change) :
    made (c :: past) = c.made?.toList ++ made past := by
  cases h : c.made? <;> simp [made, h]

theorem made_concat (past : List Change) (c : Change) :
    made (past ++ [c]) = made past ++ c.made?.toList := by
  rw [made, List.filterMap_append]
  cases h : c.made? <;> simp [made, h]

theorem events_concat (count : Nat) (past : List Change) (c : Change) :
    events count (past ++ [c]) =
      events count past ++ [⟨c.name, c.place? (count + (made past).length)⟩] := by
  induction past generalizing count with
  | nil => rfl
  | cons d past ih =>
    rw [List.cons_append, events, events, ih, List.cons_append, made_cons, List.length_append,
      Nat.add_assoc]

/-! ## Bindings -/

structure Tracks (bs : List (String × Nat)) (es : List Event) : Prop where
  find? : ∀ name, (bs.find? fun b => b.1 == name).map (·.2) = boundTo? es name
  mem_iff : ∀ name, name ∈ bs.map (·.1) ↔ ∃ p, BoundSince es name p
  ordered : (bs.map (·.1)).Pairwise fun name other =>
    ∀ p q, BoundSince es name p → BoundSince es other q → p < q

theorem keys_setBinding (name : String) (i : Nat) (bs : List (String × Nat)) :
    (setBinding name i bs).map (·.1) =
      if name ∈ bs.map (·.1) then bs.map (·.1) else bs.map (·.1) ++ [name] := by
  induction bs with
  | nil => rfl
  | cons b bs ih =>
    by_cases hb : b.1 = name
    · simp [setBinding, hb]
    · have hb' : name ≠ b.1 := Ne.symm hb
      rw [setBinding, if_neg hb, List.map_cons, List.map_cons, ih]
      by_cases hname : name ∈ bs.map (·.1) <;> simp [hb', hname]

theorem find?_filter_name (name other : String) (bs : List (String × Nat)) :
    (bs.filter fun b => b.1 != name).find? (fun b => b.1 == other) =
      if name = other then none else bs.find? fun b => b.1 == other := by
  rw [List.find?_filter]
  split
  · rename_i h
    simp [h]
  · rename_i h
    refine List.find?_congr fun b _ => ?_
    by_cases hb : b.1 = other <;> simp [hb, Ne.symm h]

theorem mem_keys_iff {bs : List (String × Nat)} :
    name ∈ bs.map (·.1) ↔ (bs.find? fun b => b.1 == name).isSome = true := by
  simp

namespace Tracks

variable {bs : List (String × Nat)}

theorem boundTo?_eq_none_iff (h : Tracks bs es) :
    boundTo? es name = none ↔ name ∉ bs.map (·.1) := by
  rw [← h.find?, Option.map_eq_none_iff, mem_keys_iff, Option.not_isSome_iff_eq_none]

theorem setBinding (h : Tracks bs es) (name : String) (i : Nat) :
    Tracks (setBinding name i bs) (es ++ [⟨name, some i⟩]) := by
  have hsince (other : String) (p : Nat) :
      BoundSince (es ++ [⟨name, some i⟩]) other p ↔
        BoundSince es other p ∨ p = es.length ∧ other ∉ bs.map (·.1) ∧ name = other := by
    rw [boundSince_concat, h.boundTo?_eq_none_iff]
    simp
  constructor
  · intro other
    rw [find?_setBinding, boundTo?_concat, ← h.find?]
    split <;> rfl
  · intro other
    simp only [keys_setBinding, hsince, exists_or, ← h.mem_iff, exists_eq_left]
    split
    · rename_i hname
      refine ⟨.inl, ?_⟩
      rintro (hother | ⟨hnot, rfl⟩)
      · exact hother
      · exact absurd hname hnot
    · rename_i hname
      rw [List.mem_append, List.mem_singleton]
      refine or_congr_right ?_
      constructor
      · rintro rfl
        exact ⟨hname, rfl⟩
      · exact fun hother => hother.2.symm
  · have hold (other : String) (hother : other ∈ bs.map (·.1)) (p : Nat) :
        BoundSince (es ++ [⟨name, some i⟩]) other p ↔ BoundSince es other p := by
      simp [hsince, hother]
    have hordered : (bs.map (·.1)).Pairwise fun other third =>
        ∀ p q, BoundSince (es ++ [⟨name, some i⟩]) other p →
          BoundSince (es ++ [⟨name, some i⟩]) third q → p < q := by
      refine h.ordered.imp_of_mem ?_
      intro other third hother hthird hlt p q hp hq
      exact hlt p q ((hold other hother p).mp hp) ((hold third hthird q).mp hq)
    rw [keys_setBinding]
    split
    · exact hordered
    · rename_i hname
      refine List.pairwise_append.mpr ⟨hordered, List.pairwise_singleton _ _, ?_⟩
      intro other hother third hthird p q hp hq
      rw [List.mem_singleton.mp hthird, hsince] at hq
      rcases hq with hq | ⟨rfl, -⟩
      · exact absurd ((h.mem_iff name).mpr ⟨q, hq⟩) hname
      · exact ((hold other hother p).mp hp).lt_length

theorem filter (h : Tracks bs es) (name : String) :
    Tracks (bs.filter fun b => b.1 != name) (es ++ [⟨name, none⟩]) := by
  have hsince (other : String) (p : Nat) :
      BoundSince (es ++ [⟨name, none⟩]) other p ↔ BoundSince es other p ∧ name ≠ other := by
    rw [boundSince_concat]
    simp
  have hkeys : (bs.filter fun b => b.1 != name).map (·.1) =
      (bs.map (·.1)).filter fun other => other != name := by
    rw [List.filter_map]
    rfl
  constructor
  · intro other
    rw [find?_filter_name, boundTo?_concat, ← h.find?]
    split <;> rfl
  · intro other
    simp only [hkeys, hsince, exists_and_right, ← h.mem_iff]
    simp [ne_comm]
  · rw [hkeys]
    refine (h.ordered.imp ?_).filter _
    intro other third hlt p q hp hq
    exact hlt p q ((hsince other p).mp hp).1 ((hsince third q).mp hq).1

end Tracks

/-! ## Classes -/

/-- The registry is what a history leaves, if it begins with no classes. -/
structure Follows (past : List Change) (r : Registry) : Prop where
  length_eq : r.classes.length = (made past).length
  classes_eq : ∀ i, r.classes[i]? = classAt? past i
  tracks : Tracks r.bindings (events 0 past)
  sound : r.Sound

namespace Follows

variable {past : List Change} {r : Registry}

theorem class_of_lt (h : Follows past r) {i : Nat} (hi : i < r.classes.length) :
    (made past)[i]? = some r.classes[i].rules ∧
      lastName? (events 0 past) i = some r.classes[i].name := by
  have hclass : classAt? past i = some r.classes[i] := by
    rw [← h.classes_eq, List.getElem?_eq_getElem hi]
  obtain ⟨rules, hrules, hnamed⟩ := Option.bind_eq_some_iff.mp hclass
  obtain ⟨name, hname, heq⟩ := Option.map_eq_some_iff.mp hnamed
  rw [← heq]
  exact ⟨hrules, hname⟩

theorem register (h : Follows past r) (name : String) (rules : RuleClass) :
    Follows (past ++ [.register name rules]) (r.register name rules) := by
  have hevents : events 0 (past ++ [.register name rules]) =
      events 0 past ++ [⟨name, some (made past).length⟩] := by
    rw [events_concat, Nat.zero_add]
    rfl
  have hmade : made (past ++ [.register name rules]) = made past ++ [rules] := made_concat _ _
  constructor
  · rw [classes_register, hmade, List.length_append, List.length_append, h.length_eq]
    rfl
  · intro i
    rw [classes_register, classAt?, hmade, hevents, lastName?_concat]
    rcases Nat.lt_trichotomy i (made past).length with hi | rfl | hi
    · have hne : some (made past).length ≠ some i := by simp [hi.ne']
      rw [List.getElem?_append_left (h.length_eq ▸ hi), List.getElem?_append_left hi, if_neg hne]
      exact h.classes_eq i
    · rw [← h.length_eq, List.getElem?_concat_length, h.length_eq, List.getElem?_concat_length,
        if_pos rfl]
      rfl
    · rw [List.getElem?_eq_none (by simpa [h.length_eq] using hi),
        List.getElem?_eq_none (by simpa using hi)]
      rfl
  · rw [hevents, ← h.length_eq]
    exact h.tracks.setBinding name r.classes.length
  · exact h.sound.register name rules

theorem registerAgain (h : Follows past r) (name : String) {i : Nat} (hi : i < r.classes.length) :
    Follows (past ++ [.registerAgain name i]) (r.bind name i) := by
  have hevents : events 0 (past ++ [.registerAgain name i]) =
      events 0 past ++ [⟨name, some i⟩] := events_concat _ _ _
  have hmade : made (past ++ [.registerAgain name i]) = made past := by
    rw [made_concat]
    exact List.append_nil _
  constructor
  · rw [hmade, ← h.length_eq, bind, List.length_modify]
  · intro j
    rw [bind, List.getElem?_modify, h.classes_eq, classAt?, classAt?, hmade, hevents,
      lastName?_concat]
    by_cases hij : i = j
    · subst hij
      obtain ⟨hrules, hname⟩ := h.class_of_lt hi
      simp [hrules, hname]
    · simp [hij]
  · rw [hevents]
    exact h.tracks.setBinding name i
  · intro b hb
    rw [bind, List.length_modify]
    rcases mem_setBinding hb with rfl | hb
    · exact hi
    · exact h.sound b hb

theorem unregister (h : Follows past r) (name : String) :
    Follows (past ++ [.unregister name]) (r.unregister name) := by
  have hevents : events 0 (past ++ [.unregister name]) = events 0 past ++ [⟨name, none⟩] :=
    events_concat _ _ _
  have hmade : made (past ++ [.unregister name]) = made past := by
    rw [made_concat]
    exact List.append_nil _
  constructor
  · rw [hmade, ← h.length_eq, Registry.unregister]
  · intro i
    rw [classAt?, hmade, hevents, lastName?_concat]
    exact h.classes_eq i
  · rw [hevents]
    exact h.tracks.filter name
  · intro b hb
    exact h.sound b (List.mem_filter.mp hb).1

theorem change {r' : Registry} {c : Change} (h : Follows past r) (hc : r.change? c = some r') :
    Follows (past ++ [c]) r' := by
  cases c with
  | register name rules =>
    cases hc
    exact h.register name rules
  | registerAgain name i =>
    rw [change?] at hc
    split at hc
    · rename_i hi
      cases hc
      exact h.registerAgain name hi
    · cases hc
  | unregister name =>
    cases hc
    exact h.unregister name

theorem after {r' : Registry} {cs : List Change} (h : Follows past r)
    (hcs : r.after? cs = some r') : Follows (past ++ cs) r' := by
  induction cs generalizing past r with
  | nil =>
    cases hcs
    rwa [List.append_nil]
  | cons c cs ih =>
    rw [after?, List.foldlM_cons] at hcs
    obtain ⟨next, hnext, hrest⟩ := Option.bind_eq_some_iff.mp hcs
    rw [← List.singleton_append, ← List.append_assoc]
    exact ih (h.change hnext) hrest

end Follows

theorem follows_empty : Follows [] ⟨[], []⟩ := by
  refine ⟨rfl, ?_, ?_, sound_empty⟩
  · intro i
    rfl
  · constructor
    · intro name
      rfl
    · intro name
      simp [BoundSince, events]
    · exact .nil

def builtinChanges : List Change := builtinRules.map fun e => .register e.1 e.2

theorem after?_map_register (es : List (String × RuleClass)) (r : Registry) :
    r.after? (es.map fun e => .register e.1 e.2) =
      some (es.foldl (fun r e => r.register e.1 e.2) r) := by
  induction es generalizing r with
  | nil => rfl
  | cons e es ih => exact ih _

theorem follows_builtin : Follows builtinChanges builtin :=
  follows_empty.after (after?_map_register builtinRules _)

end FormRules.Registry
