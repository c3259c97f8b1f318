import FormRules.Message
import FormRules.Proofs.DateFormat.Cut
import FormRules.Proofs.Text.Separated

namespace FormRules

/-! ## Substituting a text -/

namespace Text

theorem substituteFrom_append (old new : List Char) (u s : List Char) :
    substituteFrom old new u.length (u ++ s) = substitute old new s := by
  induction u with
  | nil => rfl
  | cons c u ih => exact ih

theorem substitute_append_self {old : List Char} (h : old ≠ []) (new s : List Char) :
    substitute old new (old ++ s) = new ++ substitute old new s := by
  have hafter : (after? old (old ++ s)).isSome = true :=
    Option.isSome_iff_exists.mpr ⟨s, DateFormat.after?_eq_some_iff.mpr rfl⟩
  obtain ⟨c, u, rfl⟩ := List.exists_cons_of_ne_nil h
  rw [substitute, List.cons_append, substituteFrom, ← List.cons_append, if_pos hafter,
    List.length_cons, Nat.add_sub_cancel, substituteFrom_append]

theorem substitute_cons_of_not_starts {old : List Char} {c : Char} {s : List Char}
    (h : ¬old <+: c :: s) (new : List Char) :
    substitute old new (c :: s) = c :: substitute old new s := by
  have hafter : ¬(after? old (c :: s)).isSome = true := by
    rw [Option.isSome_iff_exists]
    rintro ⟨r, hr⟩
    exact h ⟨r, (DateFormat.after?_eq_some_iff.mp hr).symm⟩
  rw [substitute, substituteFrom, if_neg hafter, substitute]

end Text

namespace Message

variable {name other : String} {texts texts' : String → List Char → Prop}
  {template s out : List Char} {values : List (String × Value)}

def BraceFree (name : String) : Prop := '\x7b' ∉ name.toList ∧ '\x7d' ∉ name.toList

theorem placeholder_append (name : String) (s : List Char) :
    placeholder name ++ s = '\x7b' :: (name.toList ++ '\x7d' :: s) := by
  simp [placeholder]

theorem placeholder_append_inj (h : '\x7d' ∉ name.toList) (h' : '\x7d' ∉ other.toList)
    {s t : List Char} (heq : placeholder name ++ s = placeholder other ++ t) :
    name = other ∧ s = t := by
  rw [placeholder_append, placeholder_append] at heq
  have hcut := Text.cut_append_cons h s
  rw [(List.cons.inj heq).2, Text.cut_append_cons h' t, Option.some_inj, Prod.mk.injEq,
    String.toList_inj] at hcut
  exact ⟨hcut.1.symm, hcut.2.symm⟩

theorem not_placeholder_starts {c : Char} (h : c ≠ '\x7b') (s : List Char) :
    ¬placeholder name <+: c :: s := by
  rintro ⟨r, hr⟩
  rw [placeholder_append] at hr
  exact h (List.cons.inj hr).1.symm

/-! ## What one value does -/

theorem substitute_append_of_notMem {u : List Char} (h : '\x7b' ∉ u) (new s : List Char) :
    Text.substitute (placeholder name) new (u ++ s) =
      u ++ Text.substitute (placeholder name) new s := by
  induction u with
  | nil => rfl
  | cons c u ih =>
    obtain ⟨hc, hu⟩ := not_or.mp (List.mem_cons.not.mp h)
    rw [List.cons_append, Text.substitute_cons_of_not_starts
      (not_placeholder_starts (Ne.symm hc) _), ih hu, List.cons_append]

theorem substitute_placeholder_self (name : String) (new s : List Char) :
    Text.substitute (placeholder name) new (placeholder name ++ s) =
      new ++ Text.substitute (placeholder name) new s :=
  Text.substitute_append_self (List.cons_ne_nil _ _) new s

theorem substitute_placeholder_other (h : BraceFree name) (h' : BraceFree other)
    (hne : other ≠ name) (new s : List Char) :
    Text.substitute (placeholder name) new (placeholder other ++ s) =
      placeholder other ++ Text.substitute (placeholder name) new s := by
  have hnot : ¬placeholder name <+: placeholder other ++ s := by
    rintro ⟨r, hr⟩
    exact hne (placeholder_append_inj h.2 h'.2 hr).1.symm
  have hrest : '\x7b' ∉ other.toList ++ ['\x7d'] := by
    simpa using h'.1
  have hsplit (t : List Char) :
      other.toList ++ '\x7d' :: t = other.toList ++ ['\x7d'] ++ t := by simp
  rw [placeholder_append] at hnot ⊢
  rw [Text.substitute_cons_of_not_starts hnot, hsplit s, substitute_append_of_notMem hrest,
    placeholder_append, hsplit (Text.substitute (placeholder name) new s)]

/-! ## All values at once -/

/-- The template with every placeholder replaced by a text that goes with its name; all other
characters stay. -/
inductive Filled (texts : String → List Char → Prop) : (template out : List Char) → Prop
  | nil : Filled texts [] []
  | plain {c s out} : c ≠ '\x7b' → Filled texts s out → Filled texts (c :: s) (c :: out)
  | hole {name text s out} : texts name text → Filled texts s out →
      Filled texts (placeholder name ++ s) (text ++ out)

def Puts (values : List (String × Value)) (name : String) (text : List Char) : Prop :=
  ∃ v, (name, v) ∈ values ∧ text = filling v

def WellOpened (values : List (String × Value)) (template : List Char) : Prop :=
  ∀ s, '\x7b' :: s <:+ template → ∃ e ∈ values, placeholder e.1 <+: '\x7b' :: s

theorem wellOpened_iff : WellOpened values template ↔
    ∀ t ∈ template.tails, t.head? = some '\x7b' → ∃ e ∈ values, placeholder e.1 <+: t := by
  constructor
  · intro h t ht hhead
    obtain ⟨s, rfl⟩ := List.head?_eq_some_iff.mp hhead
    exact h s ((List.mem_tails _ _).mp ht)
  · intro h s hs
    exact h _ ((List.mem_tails _ _).mpr hs) rfl

instance : Decidable (WellOpened values template) := decidable_of_iff _ wellOpened_iff.symm

theorem Filled.mono (h : ∀ name text, texts name text → texts' name text)
    (hfilled : Filled texts template out) : Filled texts' template out := by
  induction hfilled with
  | nil => exact .nil
  | plain hc _ ih => exact .plain hc ih
  | hole htext _ ih => exact .hole (h _ _ htext) ih

theorem Filled.substitute {new : List Char}
    (h : ∀ other text, texts other text → ∃ text', texts' other text' ∧
      ∀ s, Text.substitute (placeholder name) new (text ++ s) =
        text' ++ Text.substitute (placeholder name) new s)
    (hfilled : Filled texts template s) :
    Filled texts' template (Text.substitute (placeholder name) new s) := by
  induction hfilled with
  | nil => exact .nil
  | plain hc _ ih =>
    rw [Text.substitute_cons_of_not_starts (not_placeholder_starts hc _)]
    exact .plain hc ih
  | hole htext _ ih =>
    obtain ⟨text', htext', heq⟩ := h _ _ htext
    rw [heq]
    exact .hole htext' ih

theorem Filled.unique (hnames : ∀ name text, texts name text → '\x7d' ∉ name.toList)
    (hunique : ∀ name text text', texts name text → texts name text' → text = text')
    {out' : List Char} (h : Filled texts template out) (h' : Filled texts template out') :
    out = out' := by
  induction h generalizing out' with
  | nil =>
    generalize ht : ([] : List Char) = t at h'
    cases h' with
    | nil => rfl
    | plain => exact absurd ht (by simp)
    | hole => exact absurd ht (by simp [placeholder])
  | @plain c s out hc _ ih =>
    generalize ht : c :: s = t at h'
    cases h' with
    | nil => exact absurd ht (by simp)
    | plain _ hs =>
      obtain ⟨rfl, rfl⟩ := List.cons.inj ht
      rw [ih hs]
    | hole => exact absurd ⟨_, ht.symm⟩ (not_placeholder_starts hc s)
  | @hole name text s out htext _ ih =>
    generalize ht : placeholder name ++ s = t at h'
    cases h' with
    | nil => exact absurd ht (by simp [placeholder])
    | plain hc _ => exact absurd ⟨_, ht⟩ (not_placeholder_starts hc _)
    | hole htext' hs =>
      obtain ⟨rfl, rfl⟩ := placeholder_append_inj (hnames _ _ htext) (hnames _ _ htext') ht
      rw [hunique _ _ _ htext htext', ih hs]

theorem filled_self (h : WellOpened values template) :
    Filled (fun name text => name ∈ values.map (·.1) ∧ text = placeholder name)
      template template := by
  induction hlength : template.length using Nat.strong_induction_on generalizing template with
  | _ n ih =>
    have hrest {s : List Char} (hs : s <:+ template) (hlt : s.length < template.length) :
        Filled (fun name text => name ∈ values.map (·.1) ∧ text = placeholder name) s s :=
      ih _ (hlength ▸ hlt) (fun t ht => h t (ht.trans hs)) rfl
    cases template with
    | nil => exact .nil
    | cons c s =>
      by_cases hc : c = '\x7b'
      · subst hc
        obtain ⟨e, he, t, ht⟩ := h s List.suffix_rfl
        have hlt : t.length < ('\x7b' :: s).length := by
          rw [← ht, placeholder_append]
          simp
          omega
        have hfilled := hrest (ht ▸ List.suffix_append _ t) hlt
        rw [← ht]
        exact .hole ⟨List.mem_map_of_mem he, rfl⟩ hfilled
      · exact .plain hc (hrest (List.suffix_cons c s) (Nat.lt_succ_self _))

/-- What stands in the places of names when the values `done` have been put in and those of `rest`
have not. -/
def Stage (done rest : List (String × Value)) (name : String) (text : List Char) : Prop :=
  Puts done name text ∨ name ∈ rest.map (·.1) ∧ text = placeholder name

theorem stage_step {done rest : List (String × Value)} {e : String × Value}
    (hnames : ∀ d ∈ e :: rest, BraceFree d.1) (hnotMem : e.1 ∉ rest.map (·.1))
    (hdone : ∀ d ∈ done, '\x7b' ∉ filling d.2) {text : List Char}
    (h : Stage done (e :: rest) name text) :
    ∃ text', Stage (done ++ [e]) rest name text' ∧
      ∀ s, Text.substitute (placeholder e.1) (filling e.2) (text ++ s) =
        text' ++ Text.substitute (placeholder e.1) (filling e.2) s := by
  obtain ⟨v, hv, rfl⟩ | ⟨hname, rfl⟩ := h
  · exact ⟨_, .inl ⟨v, List.mem_append_left _ hv, rfl⟩,
      substitute_append_of_notMem (hdone _ hv) _⟩
  · rcases List.mem_cons.mp hname with rfl | hrest
    · exact ⟨_, .inl ⟨e.2, by simp, rfl⟩, substitute_placeholder_self _ _⟩
    · have hne : name ≠ e.1 := by
        rintro rfl
        exact hnotMem hrest
      obtain ⟨d, hd, rfl⟩ := List.mem_map.mp hrest
      exact ⟨_, .inr ⟨hrest, rfl⟩, substitute_placeholder_other (hnames e List.mem_cons_self)
        (hnames d (List.mem_cons_of_mem _ hd)) hne _⟩

theorem filled_fill_of_stage (done : List (String × Value)) {rest : List (String × Value)}
    (hnames : ∀ d ∈ rest, BraceFree d.1) (hdistinct : (rest.map (·.1)).Nodup)
    (hbraces : ∀ d ∈ (done ++ rest).dropLast, '\x7b' ∉ filling d.2)
    (h : Filled (Stage done rest) template s) :
    Filled (Puts (done ++ rest)) template (fill s rest) := by
  induction rest generalizing done s with
  | nil =>
    rw [List.append_nil]
    exact h.mono fun name text hstage => hstage.resolve_right (by simp)
  | cons e rest ih =>
    obtain ⟨he, hrest⟩ := List.nodup_cons.mp hdistinct
    have hdone : ∀ d ∈ done, '\x7b' ∉ filling d.2 := fun d hd => hbraces d (by
      rw [List.dropLast_append_of_ne_nil (List.cons_ne_nil e rest)]
      exact List.mem_append_left _ hd)
    have hsplit : done ++ e :: rest = done ++ [e] ++ rest := by simp
    rw [hsplit] at hbraces ⊢
    exact ih (done ++ [e]) (fun d hd => hnames d (List.mem_cons_of_mem e hd)) hrest hbraces
      (h.substitute fun name text => stage_step hnames he hdone)

section

variable (hdistinct : (values.map (·.1)).Nodup) (hnames : ∀ e ∈ values, BraceFree e.1)

include hdistinct in
theorem Puts.unique {text text' : List Char} (h : Puts values name text)
    (h' : Puts values name text') : text = text' := by
  obtain ⟨v, hv, rfl⟩ := h
  obtain ⟨v', hv', rfl⟩ := h'
  have heq : (name, v) = (name, v') := List.inj_on_of_nodup_map hdistinct hv hv' rfl
  rw [(Prod.mk.inj heq).2]

include hdistinct hnames

theorem filled_fill (hopened : WellOpened values template)
    (hbraces : ∀ e ∈ values.dropLast, '\x7b' ∉ filling e.2) :
    Filled (Puts values) template (fill template values) :=
  filled_fill_of_stage [] hnames hdistinct hbraces
    ((filled_self hopened).mono fun _ _ h => .inr h)

theorem filled_iff (hopened : WellOpened values template)
    (hbraces : ∀ e ∈ values.dropLast, '\x7b' ∉ filling e.2) :
    Filled (Puts values) template out ↔ out = fill template values := by
  have hfill := filled_fill hdistinct hnames hopened hbraces
  constructor
  · intro h
    have hfree (name : String) (text : List Char) (hputs : Puts values name text) :
        '\x7d' ∉ name.toList := by
      obtain ⟨v, hv, -⟩ := hputs
      exact (hnames _ hv).2
    have hunique (name : String) (text text' : List Char) (hputs : Puts values name text)
        (hputs' : Puts values name text') : text = text' :=
      hputs.unique hdistinct hputs'
    exact h.unique hfree hunique hfill
  · rintro rfl
    exact hfill

theorem fill_perm {values' : List (String × Value)} (hopened : WellOpened values template)
    (hbraces : ∀ e ∈ values, '\x7b' ∉ filling e.2) (hperm : values.Perm values') :
    fill template values' = fill template values := by
  have hfilled' : Filled (Puts values') template (fill template values') := by
    refine filled_fill ((hperm.map _).nodup_iff.mp hdistinct)
      (fun e he => hnames e (hperm.mem_iff.mpr he)) ?_ ?_
    · intro s hs
      obtain ⟨e, he, hstarts⟩ := hopened s hs
      exact ⟨e, hperm.mem_iff.mp he, hstarts⟩
    · exact fun e he => hbraces e (hperm.mem_iff.mpr (List.mem_of_mem_dropLast he))
  refine (filled_iff hdistinct hnames hopened fun e he =>
    hbraces e (List.mem_of_mem_dropLast he)).mp (hfilled'.mono ?_)
  rintro name text ⟨v, hv, rfl⟩
  exact ⟨v, hperm.mem_iff.mpr hv, rfl⟩

end

def failureValues (field rule : String) (param : Option String) : List (String × Value) :=
  [("field", .text field), ("rule", .text rule), ("param", (param.map Value.text).getD .null)]

/-- Putting one value after the other into a template is putting in all of them at once, if names
are different and without braces, every opening brace is that of a placeholder, and only the last
value has any. If not even the last has one, the order of the values does not matter. The message of
a failure is of this kind whatever the parameter is. -/
theorem render_iff_filled :
    (∀ (template : String) (values : List (String × Value)),
      (values.map (·.1)).Nodup → (∀ e ∈ values, BraceFree e.1) →
      WellOpened values template.toList →
      ((∀ e ∈ values.dropLast, '\x7b' ∉ filling e.2) → ∀ out : String,
        render (.text template) values = .ok out ↔
          Filled (Puts values) template.toList out.toList) ∧
      ((∀ e ∈ values, '\x7b' ∉ filling e.2) → ∀ values', values.Perm values' →
        render (.text template) values' = render (.text template) values)) ∧
    ∀ (m : Messages) (field rule own template : String) (param : Option String),
      template? m field rule = some (.text template) →
      WellOpened (failureValues field rule param) template.toList →
      '\x7b' ∉ field.toList → '\x7b' ∉ rule.toList → ∀ out : String,
      resolve m field rule own param = .ok out ↔
        Filled (Puts (failureValues field rule param)) template.toList out.toList := by
  have hrender (template : String) (values : List (String × Value))
      (hdistinct : (values.map (·.1)).Nodup) (hnames : ∀ e ∈ values, BraceFree e.1)
      (hopened : WellOpened values template.toList)
      (hbraces : ∀ e ∈ values.dropLast, '\x7b' ∉ filling e.2) (out : String) :
      render (.text template) values = .ok out ↔
        Filled (Puts values) template.toList out.toList := by
    rw [filled_iff hdistinct hnames hopened hbraces, render, Except.ok.injEq,
      ← String.toList_inj, String.toList_ofList, eq_comm]
  refine ⟨fun template values hdistinct hnames hopened => ⟨?_, ?_⟩, ?_⟩
  · exact hrender template values hdistinct hnames hopened
  · intro hbraces values' hperm
    rw [render, render, fill_perm hdistinct hnames hopened hbraces hperm]
  · intro m field rule own template param htemplate hopened hfield hrule out
    rw [resolve, htemplate]
    refine hrender template (failureValues field rule param) (by simp [failureValues]) ?_ hopened
      ?_ out
    · simp [failureValues, BraceFree]
    · simpa [failureValues, filling, Value.chars] using ⟨hfield, hrule⟩

/-- A value with a closing brace before one that looks like a placeholder, two values in either
order, and a parameter that looks like the field. -/
theorem render_iff_filled_of_braces :
    let values : List (String × Value) := [("x", .text "y\x7d"), ("y", .text "\x7bx\x7d")]
    let harmless : List (String × Value) := [("x", .text "y\x7d"), ("y", .null)]
    (values.map (·.1)).Nodup ∧ (∀ e ∈ values, BraceFree e.1) ∧
    WellOpened values "\x7bx\x7d, \x7by\x7d\x7d".toList ∧
    (∀ e ∈ values.dropLast, '\x7b' ∉ filling e.2) ∧
    Filled (Puts values) "\x7bx\x7d, \x7by\x7d\x7d".toList "y\x7d, \x7bx\x7d\x7d".toList ∧
    (∀ e ∈ harmless, '\x7b' ∉ filling e.2) ∧ harmless.Perm harmless.reverse ∧
    render (.text "\x7bx\x7d, \x7by\x7d\x7d") harmless.reverse = .ok "y\x7d, \x7d" ∧
    template? [("min", .text "\x7bfield\x7d: \x7bparam\x7d")] "f" "min" =
      some (.text "\x7bfield\x7d: \x7bparam\x7d") ∧
    Filled (Puts (failureValues "f" "min" (some "\x7bfield\x7d")))
      "\x7bfield\x7d: \x7bparam\x7d".toList "f: \x7bfield\x7d".toList := by
  intro values harmless
  have hdistinct : (values.map (·.1)).Nodup := by decide
  have hdistinct' : (harmless.map (·.1)).Nodup := by decide
  have hnames : ∀ e ∈ values, BraceFree e.1 := by simp [values, BraceFree]
  have hnames' : ∀ e ∈ harmless, BraceFree e.1 := by simp [harmless, BraceFree]
  have hopened : WellOpened values "\x7bx\x7d, \x7by\x7d\x7d".toList := by decide +kernel
  have hopened' : WellOpened harmless "\x7bx\x7d, \x7by\x7d\x7d".toList := by decide +kernel
  have hfirst : ∀ e ∈ values.dropLast, '\x7b' ∉ filling e.2 := by decide +kernel
  have hnone : ∀ e ∈ harmless, '\x7b' ∉ filling e.2 := by decide +kernel
  have hperm : harmless.Perm harmless.reverse := (List.reverse_perm harmless).symm
  have htemplate : template? [("min", .text "\x7bfield\x7d: \x7bparam\x7d")] "f" "min" =
      some (.text "\x7bfield\x7d: \x7bparam\x7d") := by
    cbv
  obtain ⟨hrender, hresolve⟩ := render_iff_filled
  refine ⟨hdistinct, hnames, hopened, hfirst, ?_, hnone, hperm, ?_, htemplate, ?_⟩
  · exact ((hrender _ values hdistinct hnames hopened).1 hfirst _).mp (by decide +kernel)
  · rw [(hrender _ harmless hdistinct' hnames' hopened').2 hnone _ hperm]
    decide +kernel
  · exact (hresolve _ "f" "min" "own" _ (some "\x7bfield\x7d") htemplate (by decide +kernel)
      (by decide) (by decide) _).mp (by decide +kernel)

end Message

end FormRules
