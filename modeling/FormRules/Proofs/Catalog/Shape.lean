import FormRules.Catalog
import Mathlib

namespace FormRules

namespace Value

inductive Blank : Value → Prop
  | null : Blank .null
  | no : Blank (.bool false)
  | zero {v : Value} (h : v.quantity? = some (.finite 0)) : Blank v
  | text : Blank (.text "")
  | bytes : Blank (.bytes [])
  | list : Blank (.list [])
  | set : Blank (.set [])
  | mapping : Blank (.mapping [])

theorem isFalsy_iff {v : Value} : v.isFalsy = true ↔ v.Blank := by
  constructor
  · intro h
    cases v with
    | null => exact .null
    | bool b =>
      obtain rfl : b = false := by simpa [isFalsy] using h
      exact .no
    | text s =>
      obtain rfl : s = "" := by simpa [isFalsy] using h
      exact .text
    | bytes bs =>
      obtain rfl : bs = [] := by simpa [isFalsy] using h
      exact .bytes
    | list items =>
      obtain rfl : items = [] := by simpa [isFalsy] using h
      exact .list
    | set members =>
      obtain rfl : members = [] := by simpa [isFalsy] using h
      exact .set
    | mapping entries =>
      obtain rfl : entries = [] := by simpa [isFalsy] using h
      exact .mapping
    | int n => exact .zero (beq_iff_eq.mp h)
    | double d => exact .zero (beq_iff_eq.mp h)
    | decimal d => exact .zero (beq_iff_eq.mp h)
    | date d => cases h
    | moment t => cases h
    | pair a b => cases h
    | again isMapping => cases h
  · intro h
    cases h with
    | zero h =>
      cases v with
      | bool b => cases b <;> simp_all [quantity?, isFalsy]
      | int n => exact beq_iff_eq.mpr h
      | double d => exact beq_iff_eq.mpr h
      | decimal d => exact beq_iff_eq.mpr h
      | _ => cases h
    | _ => rfl

theorem same_text_iff {v : Value} {key : String} : v.same (.text key) = true ↔ v = .text key := by
  cases v with
  | text s => simp [same]
  | _ => simp [same, quantity?]

end Value

namespace Catalog

variable {key : String} {entries : List (Value × Value)} {v : Value}

/-- What a mapping has under a text, if it has the text for a key. -/
def Under (key : String) (entries : List (Value × Value)) (v : Value) : Prop :=
  ∃ before after, entries = before ++ (.text key, v) :: after ∧ ∀ e ∈ before, e.1 ≠ .text key

theorem under_iff_find? : Under key entries v ↔
    (entries.find? fun e => e.1.same (.text key)) = some (.text key, v) := by
  rw [List.find?_eq_some_iff_append]
  simp only [Under, Bool.not_eq_true', ← Bool.not_eq_true, Value.same_text_iff, true_and]

theorem lookup_cases (key : String) (entries : List (Value × Value)) :
    Under key entries (lookup key entries) ∨
      lookup key entries = .null ∧ ∀ v, ¬Under key entries v := by
  cases hfind : entries.find? fun e => e.1.same (.text key) with
  | none =>
    refine .inr ⟨by rw [lookup, hfind]; rfl, fun v hv => ?_⟩
    rw [under_iff_find?, hfind] at hv
    cases hv
  | some e =>
    have hsame := List.find?_some (p := fun e : Value × Value => e.1.same (.text key)) hfind
    have hkey : e.1 = .text key := Value.same_text_iff.mp hsame
    refine .inl (under_iff_find?.mpr ?_)
    rw [lookup, hfind, ← hkey]
    rfl

theorem Under.lookup_eq (h : Under key entries v) : lookup key entries = v := by
  rw [lookup, under_iff_find?.mp h]
  rfl

/-- What holds of null holds of what is under a key, if there is something, as soon as it does of
what is looked up. -/
theorem forall_under_iff {P : Value → Prop} (hnull : P .null) :
    (∀ v, Under key entries v → P v) ↔ P (lookup key entries) := by
  constructor
  · intro h
    rcases lookup_cases key entries with hunder | ⟨hnone, -⟩
    · exact h _ hunder
    · rwa [hnone]
  · rintro h v hv
    rwa [← hv.lookup_eq]

/-! ## Sections -/

def HasSection (key : String) (entries : List (Value × Value)) : Prop :=
  ∀ v, Under key entries v → v = .null ∨ ∃ es, v = .mapping es

def HasFormat (entries : List (Value × Value)) : Prop :=
  ∀ options, Under "global" entries (.mapping options) →
    ∀ v, Under "default_date_format" options v → v = .null ∨ ∃ s, v = .text s ∧ s ≠ ""

structure Shaped (entries : List (Value × Value)) : Prop where
  options : HasSection "global" entries
  format : HasFormat entries
  messages : HasSection "messages" entries

theorem section?_eq_none_iff : section? v = none ↔ ¬(v = .null ∨ ∃ es, v = .mapping es) := by
  cases v <;> simp [section?]

theorem hasSection_iff : HasSection key entries ↔ section? (lookup key entries) ≠ none := by
  rw [HasSection, forall_under_iff (.inl rfl), ne_eq, section?_eq_none_iff, not_not]

theorem isFormat_iff : isFormat v = true ↔ v = .null ∨ ∃ s, v = .text s ∧ s ≠ "" := by
  cases v <;> simp [isFormat]

theorem hasFormat_iff {options : List (Value × Value)}
    (h : section? (lookup "global" entries) = some options) :
    HasFormat entries ↔ isFormat (lookup "default_date_format" options) = true := by
  have hformat (es : List (Value × Value)) : (∀ v, Under "default_date_format" es v →
      v = .null ∨ ∃ s, v = .text s ∧ s ≠ "") ↔
        isFormat (lookup "default_date_format" es) = true := by
    rw [isFormat_iff, forall_under_iff (P := fun v => v = .null ∨ ∃ s, v = .text s ∧ s ≠ "")]
    exact .inl rfl
  have hglobal : (∀ v, Under "global" entries v →
      ∀ es, v = .mapping es → isFormat (lookup "default_date_format" es) = true) ↔ _ :=
    forall_under_iff
      (P := fun v => ∀ es, v = .mapping es → isFormat (lookup "default_date_format" es) = true)
      nofun
  calc
    HasFormat entries ↔ ∀ v, Under "global" entries v →
        ∀ es, v = .mapping es → isFormat (lookup "default_date_format" es) = true := by
      simp only [HasFormat, hformat]
      exact ⟨fun hall v hv es hes => hall es (hes ▸ hv), fun hall es hes => hall _ hes es rfl⟩
    _ ↔ ∀ es, lookup "global" entries = .mapping es →
        isFormat (lookup "default_date_format" es) = true := hglobal
    _ ↔ isFormat (lookup "default_date_format" options) = true := by
      cases hlookup : lookup "global" entries with
      | null =>
        rw [hlookup] at h
        cases h
        exact ⟨fun _ => rfl, fun _ => nofun⟩
      | mapping es =>
        rw [hlookup] at h
        cases h
        exact ⟨fun hall => hall _ rfl, fun hes _ heq => by cases heq; exact hes⟩
      | _ =>
        rw [hlookup] at h
        cases h

/-! ## Documents -/

/-- The catalog is what the document holds. -/
inductive Holds : Value → List (Value × Value) → Prop
  | blank {v : Value} : v.Blank → Holds v []
  | mapping {entries : List (Value × Value)} : Shaped entries → Holds (.mapping entries) entries

/-- The document is no catalog, and this is the first thing that is wrong with it. -/
inductive Misshapen : Value → ShapeFault → Prop
  | notMapping {v : Value} : ¬v.Blank → (∀ entries, v ≠ .mapping entries) → Misshapen v .notMapping
  | options {entries : List (Value × Value)} : ¬HasSection "global" entries →
      Misshapen (.mapping entries) .globalNotMapping
  | format {entries : List (Value × Value)} : HasSection "global" entries → ¬HasFormat entries →
      Misshapen (.mapping entries) .formatNotText
  | messages {entries : List (Value × Value)} : HasSection "global" entries → HasFormat entries →
      ¬HasSection "messages" entries → Misshapen (.mapping entries) .messagesNotMapping

theorem shaped_nil : Shaped [] := by
  have hnone (key : String) (v : Value) : ¬Under key [] v := by
    rintro ⟨before, after, heq, -⟩
    simp at heq
  exact ⟨fun v hv => absurd hv (hnone _ v), fun _ hes => absurd hes (hnone _ _),
    fun v hv => absurd hv (hnone _ v)⟩

theorem ofValue_mapping (entries : List (Value × Value)) :
    (Shaped entries ∧ ofValue (.mapping entries) = .ok ⟨entries⟩) ∨
      ∃ fault, Misshapen (.mapping entries) fault ∧ ofValue (.mapping entries) = .error fault := by
  have hvalue : (if (Value.mapping entries).isFalsy then Value.mapping [] else .mapping entries) =
      .mapping entries := by
    cases entries <;> rfl
  simp only [ofValue, hvalue]
  cases hoptions : section? (lookup "global" entries) with
  | none =>
    exact .inr ⟨_, .options fun h => hasSection_iff.mp h hoptions, rfl⟩
  | some options =>
    have hglobal : HasSection "global" entries := hasSection_iff.mpr (by simp [hoptions])
    have hformat := hasFormat_iff hoptions
    cases hf : isFormat (lookup "default_date_format" options) with
    | false => exact .inr ⟨_, .format hglobal (by simp [hformat, hf]), by simp [hf]⟩
    | true =>
      have hmessages : HasSection "messages" entries ↔ _ := hasSection_iff
      cases hm : section? (lookup "messages" entries) with
      | none =>
        have hno : ¬HasSection "messages" entries := by simp [hmessages, hm]
        exact .inr ⟨_, .messages hglobal (hformat.mpr hf) hno, by simp [hf]⟩
      | some words =>
        have hsection : HasSection "messages" entries := hmessages.mpr (by simp [hm])
        exact .inl ⟨⟨hglobal, hformat.mpr hf, hsection⟩, by simp [hf]⟩

theorem ofValue_blank (h : v.Blank) : ofValue v = .ok ⟨[]⟩ := by
  rw [ofValue, if_pos (Value.isFalsy_iff.mpr h)]
  rfl

theorem ofValue_cases (v : Value) : (∃ entries, Holds v entries ∧ ofValue v = .ok ⟨entries⟩) ∨
    ∃ fault, Misshapen v fault ∧ ofValue v = .error fault := by
  by_cases hblank : v.Blank
  · exact .inl ⟨[], .blank hblank, ofValue_blank hblank⟩
  by_cases hmapping : ∃ entries, v = .mapping entries
  · obtain ⟨entries, rfl⟩ := hmapping
    rcases ofValue_mapping entries with ⟨hshaped, hok⟩ | hfault
    · exact .inl ⟨entries, .mapping hshaped, hok⟩
    · exact .inr hfault
  · have hno : ∀ entries, v ≠ .mapping entries := fun entries h => hmapping ⟨entries, h⟩
    refine .inr ⟨_, .notMapping hblank hno, ?_⟩
    rw [ofValue, if_neg (mt Value.isFalsy_iff.mp hblank)]
    cases v with
    | mapping entries => exact absurd rfl (hno entries)
    | _ => rfl

theorem eq_nil_of_blank (h : (Value.mapping entries).Blank) : entries = [] := by
  cases h with
  | zero h => cases h
  | mapping => rfl

theorem shaped_of_holds {es : List (Value × Value)} (h : Holds (.mapping es) entries) :
    Shaped es := by
  cases h with
  | blank hblank =>
    rw [eq_nil_of_blank hblank]
    exact shaped_nil
  | mapping hshaped => exact hshaped

theorem Misshapen.not_holds {fault : ShapeFault} (h : Misshapen v fault) : ¬Holds v entries := by
  intro hholds
  cases h with
  | notMapping hblank hno =>
    cases hholds with
    | blank hnot => exact hblank hnot
    | mapping _ => exact hno _ rfl
  | options hno => exact hno (shaped_of_holds hholds).options
  | format _ hno => exact hno (shaped_of_holds hholds).format
  | messages _ _ hno => exact hno (shaped_of_holds hholds).messages

theorem Holds.unique {es : List (Value × Value)} (h : Holds v entries) (h' : Holds v es) :
    entries = es := by
  cases h with
  | blank hblank =>
    cases h' with
    | blank _ => rfl
    | mapping _ => exact (eq_nil_of_blank hblank).symm
  | mapping _ =>
    cases h' with
    | blank hblank => exact eq_nil_of_blank hblank
    | mapping _ => rfl

theorem ofValue_eq_ok_iff {c : Catalog} : ofValue v = .ok c ↔ Holds v c.entries := by
  rcases ofValue_cases v with ⟨entries, hholds, hok⟩ | ⟨fault, hfault, herror⟩
  · rw [hok, Except.ok.injEq]
    refine ⟨fun h => h ▸ hholds, fun h => ?_⟩
    rw [hholds.unique h]
  · rw [herror]
    exact ⟨nofun, fun h => absurd h hfault.not_holds⟩

theorem shaped_withoutFile : Shaped withoutFile.entries := by
  have hoptions : lookup "global" withoutFile.entries = .mapping [] :=
    Under.lookup_eq ⟨[], _, rfl, nofun⟩
  have hmessages : lookup "messages" withoutFile.entries = .mapping [] :=
    Under.lookup_eq ⟨[_], [], rfl, by simp⟩
  have hsection : section? (lookup "global" withoutFile.entries) = some [] := by
    rw [hoptions, section?]
  refine ⟨hasSection_iff.mpr ?_, (hasFormat_iff hsection).mpr rfl, hasSection_iff.mpr ?_⟩
  · simp [hsection]
  · simp [hmessages, section?]

/-! ## Files -/

inductive Found (r : Runtime) : File → Catalog → Prop
  | missing : Found r .missing withoutFile
  | document {s : List Char} {v : Value} {c : Catalog} : Yaml.read r.order s = .ok v →
      Holds v c.entries → Found r (.text s) c

variable {r : Runtime}

theorem ofFile_of_read {path : String} {s : List Char} (h : Yaml.read r.order s = .ok v) :
    (∃ c, Holds v c.entries ∧ ofFile r path (.text s) = .ok c) ∨
      ∃ fault, Misshapen v fault ∧ ofFile r path (.text s) = .error (.shape fault path) := by
  rw [ofFile, h]
  rcases ofValue_cases v with ⟨entries, hholds, hok⟩ | ⟨fault, hfault, herror⟩
  · exact .inl ⟨⟨entries⟩, hholds, by simp only [hok]⟩
  · exact .inr ⟨fault, hfault, by simp only [herror]⟩

theorem ofFile_eq_ok_iff {path : String} {file : File} {c : Catalog} :
    ofFile r path file = .ok c ↔ Found r file c := by
  cases file with
  | missing =>
    rw [ofFile, Except.ok.injEq]
    exact ⟨fun h => h ▸ .missing, fun h => by cases h; rfl⟩
  | undecodable => exact ⟨nofun, nofun⟩
  | folder => exact ⟨nofun, nofun⟩
  | text s =>
    cases hread : Yaml.read r.order s with
    | error f =>
      rw [ofFile, hread]
      refine ⟨nofun, fun h => ?_⟩
      cases h with
      | document h _ =>
        rw [hread] at h
        cases h
    | ok v =>
      have hfound : Found r (.text s) c ↔ Holds v c.entries := by
        refine ⟨fun h => ?_, .document hread⟩
        cases h with
        | document h hholds =>
          rw [hread] at h
          cases h
          exact hholds
      rw [hfound, ← ofValue_eq_ok_iff, ofFile, hread]
      cases hv : ofValue v <;> simp [hv]

theorem ofFile_ne_unwritable {path : String} {file : File} {reason : Unwritable} :
    ofFile r path file ≠ .error (.unwritable reason) := by
  cases file with
  | text s =>
    rw [ofFile]
    split
    · exact nofun
    · split <;> exact nofun
  | _ => exact nofun

theorem Found.shaped {file : File} {c : Catalog} (h : Found r file c) : Shaped c.entries := by
  cases h with
  | missing => exact shaped_withoutFile
  | document _ hholds =>
    obtain ⟨entries⟩ := c
    cases hholds with
    | blank _ => exact shaped_nil
    | mapping hshaped => exact hshaped

end Catalog

end FormRules
