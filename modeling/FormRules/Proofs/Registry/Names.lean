import FormRules.Proofs.Registry.History

namespace FormRules.Registry

theorem find?_name_of_mem {bs : List (String × Nat)} (hnodup : (bs.map (·.1)).Nodup)
    {b : String × Nat} (hb : b ∈ bs) : bs.find? (fun d => d.1 == b.1) = some b := by
  induction bs with
  | nil => cases hb
  | cons d bs ih =>
    obtain ⟨hd, hbs⟩ := List.nodup_cons.mp hnodup
    cases hb with
    | head => simp
    | tail _ hb =>
      have hne : d.1 ≠ b.1 := (ne_of_mem_of_not_mem (List.mem_map_of_mem hb) hd).symm
      rw [List.find?_cons_of_neg (by simpa using hne), ih hbs hb]

/-! ## What a history tells -/

theorem map_fst_titles (r : Registry) : r.titles.map (·.1) = r.names := by
  simp [titles, names]

namespace Follows

variable {past : List Change} {r r' : Registry} {c : Change} {name : String}

theorem index?_eq (h : Follows past r) (name : String) :
    r.index? name = boundTo? (events 0 past) name :=
  h.tracks.find? name

theorem get?_eq (h : Follows past r) (name : String) :
    r.get? name = (boundTo? (events 0 past) name).bind (classAt? past) := by
  rw [Registry.get?, h.index?_eq]
  exact Option.bind_congr fun i _ => h.classes_eq i

theorem isSome_get? (h : Follows past r) (name : String) :
    (r.get? name).isSome = (boundTo? (events 0 past) name).isSome := by
  rw [Registry.get?, ← h.index?_eq]
  cases hindex : r.index? name with
  | none => rfl
  | some i => simp [h.sound.lt_of_index? hindex]

theorem map_rules (h : Follows past r) : r.classes.map (·.rules) = made past := by
  refine List.ext_getElem? fun i => ?_
  rw [List.getElem?_map]
  by_cases hi : i < r.classes.length
  · rw [List.getElem?_eq_getElem hi, (h.class_of_lt hi).1]
    rfl
  · have hi' : (made past).length ≤ i := h.length_eq ▸ Nat.le_of_not_lt hi
    rw [List.getElem?_eq_none (Nat.le_of_not_lt hi), List.getElem?_eq_none hi']
    rfl

theorem map_rules_get? (h : Follows past r) (name : String) :
    (r.get? name).map (·.rules) =
      (boundTo? (events 0 past) name).bind fun i => (made past)[i]? := by
  rw [Registry.get?, h.index?_eq, Option.map_bind, ← h.map_rules]
  exact Option.bind_congr fun i _ => (List.getElem?_map ..).symm

theorem nodup_names (h : Follows past r) : r.names.Nodup := by
  refine h.tracks.ordered.imp_of_mem ?_
  rintro name other hname - hlt rfl
  obtain ⟨p, hp⟩ := (h.tracks.mem_iff name).mp hname
  exact Nat.lt_irrefl p (hlt p p hp hp)

theorem title_of_mem_titles (h : Follows past r) {e : String × String} (he : e ∈ r.titles) :
    (r.get? e.1).map (·.rules.title) = some e.2 := by
  obtain ⟨b, hb, rfl⟩ := List.mem_map.mp he
  have hindex : r.index? b.1 = some b.2 := by
    rw [index?, find?_name_of_mem h.nodup_names hb]
    rfl
  simp [get?, hindex, h.sound b hb]

theorem index?_of_ne (h : Follows past r) (hc : r.change? c = some r') (hne : name ≠ c.name) :
    r'.index? name = r.index? name := by
  rw [(h.change hc).index?_eq, h.index?_eq, events_concat, boundTo?_concat, if_neg hne.symm]

theorem rules_get?_of_ne (h : Follows past r) (hc : r.change? c = some r') (hne : name ≠ c.name) :
    (r'.get? name).map (·.rules) = (r.get? name).map (·.rules) := by
  rw [(h.change hc).map_rules_get?, h.map_rules_get?, events_concat, boundTo?_concat,
    if_neg hne.symm]
  refine Option.bind_congr fun i hi => ?_
  have hlt : i < (made past).length :=
    h.length_eq ▸ h.sound.lt_of_index? ((h.index?_eq name).trans hi)
  rw [made_concat, List.getElem?_append_left hlt]

end Follows

theorem filter_setBinding (name : String) (i : Nat) (bs : List (String × Nat)) :
    (setBinding name i bs).filter (fun b => b.1 != name) = bs.filter fun b => b.1 != name := by
  induction bs with
  | nil => simp [setBinding]
  | cons b bs ih =>
    by_cases hb : b.1 = name
    · simp [setBinding, hb]
    · simp [setBinding, hb, ih]

theorem bindings_unregister_change {r r' : Registry} {c : Change} (hc : r.change? c = some r') :
    (r'.unregister c.name).bindings = (r.unregister c.name).bindings := by
  cases c with
  | register name rules =>
    cases hc
    exact filter_setBinding name _ _
  | registerAgain name i =>
    rw [change?] at hc
    split at hc
    · cases hc
      exact filter_setBinding name i _
    · cases hc
  | unregister name =>
    cases hc
    simp [unregister, Change.name]

theorem bindings_unregister_of_get?_eq_none {r : Registry} (hr : r.Sound) {name : String}
    (h : r.get? name = none) : (r.unregister name).bindings = r.bindings := by
  have hindex : r.index? name = none := by
    cases hindex : r.index? name with
    | none => rfl
    | some i => simp [get?, hindex, hr.lt_of_index? hindex] at h
  have hfind : r.bindings.find? (fun b => b.1 == name) = none := by simpa [index?] using hindex
  rw [unregister, List.filter_eq_self]
  intro b hb
  have hne := List.find?_eq_none.mp hfind b hb
  simpa using hne

theorem titles_eq (r : Registry) :
    r.titles = r.bindings.map fun b =>
      (b.1, (((r.classes.map (·.rules))[b.2]?).map (·.title)).getD "") := by
  refine List.map_congr_left fun b _ => ?_
  rw [List.getElem?_map, Option.map_map]
  rfl

theorem titles_congr {r r' : Registry} (hr : r.Sound) (hbindings : r'.bindings = r.bindings)
    (hrules : r.classes.map (·.rules) <+: r'.classes.map (·.rules)) : r'.titles = r.titles := by
  obtain ⟨rest, hrest⟩ := hrules
  rw [titles_eq, titles_eq, hbindings, ← hrest]
  refine List.map_congr_left fun b hb => ?_
  have hlt : b.2 < (r.classes.map (·.rules)).length := by simpa using hr b hb
  rw [List.getElem?_append_left hlt]

namespace Follows

variable {past : List Change} {r r' : Registry} {c : Change}

theorem bindings_undone (h : Follows past r) (hc : r.change? c = some r')
    (hnone : r.get? c.name = none) : (r'.unregister c.name).bindings = r.bindings :=
  (bindings_unregister_change hc).trans (bindings_unregister_of_get?_eq_none h.sound hnone)

theorem titles_undone (h : Follows past r) (hc : r.change? c = some r')
    (hnone : r.get? c.name = none) : (r'.unregister c.name).titles = r.titles := by
  refine titles_congr h.sound (h.bindings_undone hc hnone) ?_
  have hrules : r'.classes.map (·.rules) = r.classes.map (·.rules) ++ c.made?.toList := by
    rw [(h.change hc).map_rules, h.map_rules, made_concat]
  exact ⟨c.made?.toList, hrules.symm⟩

end Follows

/-! ## Classes with one name -/

/-- No class is bound to two names. -/
def Unaliased (es : List Event) : Prop :=
  ∀ x ∈ es, ∀ y ∈ es, ∀ i, x.place = some i → y.place = some i → x.name = y.name

theorem exists_event_of_boundTo? {es : List Event} {name : String} {i : Nat}
    (h : boundTo? es name = some i) : ∃ e ∈ es, e.name = name ∧ e.place = some i := by
  obtain ⟨e, hlast, hplace⟩ := Option.bind_eq_some_iff.mp h
  obtain ⟨hmem, hname⟩ := List.mem_filter.mp (List.mem_of_getLast? hlast)
  exact ⟨e, hmem, by simpa using hname, hplace⟩

theorem exists_event_of_lastName? {es : List Event} {name : String} {i : Nat}
    (h : lastName? es i = some name) : ∃ e ∈ es, e.name = name ∧ e.place = some i := by
  obtain ⟨e, hlast, hname⟩ := Option.map_eq_some_iff.mp h
  obtain ⟨hmem, hplace⟩ := List.mem_filter.mp (List.mem_of_getLast? hlast)
  exact ⟨e, hmem, hname, by simpa using hplace⟩

theorem Follows.name_of_get? {past : List Change} {r : Registry} (h : Follows past r)
    (hone : Unaliased (events 0 past)) {name : String} {known : NamedClass}
    (hget : r.get? name = some known) : known.name = name := by
  rw [h.get?_eq] at hget
  obtain ⟨i, hbound, hclass⟩ := Option.bind_eq_some_iff.mp hget
  obtain ⟨rules, -, hknown⟩ := Option.bind_eq_some_iff.mp hclass
  obtain ⟨word, hword, rfl⟩ := Option.map_eq_some_iff.mp hknown
  obtain ⟨x, hx, rfl, hxplace⟩ := exists_event_of_boundTo? hbound
  obtain ⟨y, hy, rfl, hyplace⟩ := exists_event_of_lastName? hword
  exact hone y hy x hx i hyplace hxplace

/-! ## Names and their history -/

structure NamedBy (past : List Change) (r : Registry) : Prop where
  /-- A name is bound to the class for which it was registered last, unless it was dropped since. -/
  get?_eq : ∀ name, r.get? name = (boundTo? (events 0 past) name).bind (classAt? past)
  isSome_get? : ∀ name, (r.get? name).isSome = (boundTo? (events 0 past) name).isSome
  /-- A class reports the name under which it was registered last. -/
  classes_eq : ∀ i, r.classes[i]? = classAt? past i
  name_of_get? : Unaliased (events 0 past) →
    ∀ name known, r.get? name = some known → known.name = name
  mem_names : ∀ name, name ∈ r.names ↔ ∃ p, BoundSince (events 0 past) name p
  nodup_names : r.names.Nodup
  /-- Names stand in the order in which they have come to be bound. -/
  ordered : r.names.Pairwise fun name other => ∀ p q,
    BoundSince (events 0 past) name p → BoundSince (events 0 past) other q → p < q
  names_titles : r.titles.map (·.1) = r.names
  title_of_mem : ∀ e ∈ r.titles, (r.get? e.1).map (·.rules.title) = some e.2

theorem Follows.namedBy {past : List Change} {r : Registry} (h : Follows past r) :
    NamedBy past r where
  get?_eq := h.get?_eq
  isSome_get? := h.isSome_get?
  classes_eq := h.classes_eq
  name_of_get? := fun hone _ _ hget => h.name_of_get? hone hget
  mem_names := h.tracks.mem_iff
  nodup_names := h.nodup_names
  ordered := h.tracks.ordered
  names_titles := r.map_fst_titles
  title_of_mem := fun _ he => h.title_of_mem_titles he

/-- A change of one name does nothing to the others. If the name has not been bound, the change is
undone when the name is dropped. -/
structure Change.Local (c : Change) (r r' : Registry) : Prop where
  index?_of_ne : ∀ name ≠ c.name, r'.index? name = r.index? name
  rules_of_ne : ∀ name ≠ c.name, (r'.get? name).map (·.rules) = (r.get? name).map (·.rules)
  bindings_undone : r.get? c.name = none → (r'.unregister c.name).bindings = r.bindings
  titles_undone : r.get? c.name = none → (r'.unregister c.name).titles = r.titles

theorem Follows.isLocal {past : List Change} {r r' : Registry} {c : Change} (h : Follows past r)
    (hc : r.change? c = some r') : c.Local r r' where
  index?_of_ne := fun _ hne => h.index?_of_ne hc hne
  rules_of_ne := fun _ hne => h.rules_get?_of_ne hc hne
  bindings_undone := h.bindings_undone hc
  titles_undone := h.titles_undone hc

theorem made_map_register (es : List (String × RuleClass)) :
    made (es.map fun e => .register e.1 e.2) = es.map (·.2) := by
  induction es with
  | nil => rfl
  | cons e es ih =>
    rw [List.map_cons, made_cons, ih]
    rfl

theorem mem_made_or_mem_builtinRules {changes : List Change} {r : Registry}
    (h : Follows (builtinChanges ++ changes) r) {name : String} {known : NamedClass}
    (hget : r.get? name = some known) :
    known.rules ∈ made changes ∨ ∃ word, (word, known.rules) ∈ builtinRules := by
  obtain ⟨i, -, hclass⟩ := Option.bind_eq_some_iff.mp hget
  have hmem : known.rules ∈ made (builtinChanges ++ changes) := by
    rw [← h.map_rules]
    exact List.mem_map_of_mem (List.mem_of_getElem? hclass)
  rw [made, List.filterMap_append, ← made, ← made, builtinChanges, made_map_register,
    List.mem_append] at hmem
  rcases hmem with hmem | hmem
  · obtain ⟨e, he, heq⟩ := List.mem_map.mp hmem
    exact .inr ⟨e.1, heq ▸ he⟩
  · exact .inl hmem

end FormRules.Registry
