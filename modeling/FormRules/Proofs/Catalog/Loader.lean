import FormRules.Proofs.Catalog.Shape
import FormRules.Proofs.Catalog.Writable
import FormRules.Proofs.Message

/-! What a loader keeps and serves. It keeps nothing, or the catalog that it read last with success,
and that has been checked; so what it serves can be gone through, whatever calls came before and
whatever has become of the file in between. Only its messages may be refused, where they cannot be
written. -/

namespace FormRules

namespace Messages

theorem Distinct.insert {m : Messages} (h : m.Distinct) (k : String) (v : Value) :
    (m.insert k v).Distinct := by
  have hkeys (m : Messages) (key : String) :
      key ∈ (m.insert k v).map (·.1) ↔ key = k ∨ key ∈ m.map (·.1) := by
    induction m with
    | nil => simp [Messages.insert]
    | cons e m ih =>
      rw [Messages.insert]
      split
      · rename_i he
        simp [← he]
      · rw [List.map_cons, List.mem_cons, ih, List.map_cons, List.mem_cons]
        tauto
  induction m with
  | nil => simp [Distinct, Messages.insert]
  | cons e m ih =>
    obtain ⟨he, hm⟩ := List.nodup_cons.mp h
    rw [Messages.insert]
    split
    · rename_i heq
      exact List.nodup_cons.mpr ⟨by rwa [← heq], hm⟩
    · rename_i hne
      refine List.nodup_cons.mpr ⟨?_, ih hm⟩
      rw [hkeys]
      exact not_or.mpr ⟨hne, he⟩

theorem Distinct.mem_iff {m : Messages} (h : m.Distinct) {key : String} {v : Value} :
    (key, v) ∈ m ↔ m.get? key = some v := by
  induction m with
  | nil => simp [Messages.get?]
  | cons e m ih =>
    obtain ⟨he, hm⟩ := List.nodup_cons.mp h
    rw [get?_cons, List.mem_cons, ih hm]
    split
    · rename_i hkey
      subst hkey
      rw [get?_eq_none he]
      simp [Prod.ext_iff, eq_comm]
    · rename_i hkey
      simp [Prod.ext_iff, Ne.symm hkey]

end Messages

namespace Catalog

variable {c : Catalog} {entries words : List (Value × Value)} {key : String} {v : Value}

/-! ## What a catalog serves -/

/-- Goes through a section. A blank one has no entries, and nothing else but a mapping has any to go
through. -/
def walk? (v : Value) : Option (List (Value × Value)) :=
  if v.isFalsy then some []
  else match v with
    | .mapping es => some es
    | _ => none

theorem walk?_eq_section? (h : section? v ≠ none) : walk? v = section? v := by
  cases v with
  | null => rfl
  | mapping es => cases es <;> rfl
  | _ => exact absurd rfl h

/-- The last of the entries whose keys have the text. -/
def LastUnder (key : String) (words : List (Value × Value)) (v : Value) : Prop :=
  ∃ before k after, words = before ++ (k, v) :: after ∧ k.written = key ∧
    ∀ e ∈ after, e.1.written ≠ key

theorem lastUnder_nil : ¬LastUnder key [] v := by
  rintro ⟨before, k, after, heq, -⟩
  simp at heq

theorem lastUnder_append_singleton {e : Value × Value} : LastUnder key (words ++ [e]) v ↔
    if e.1.written = key then v = e.2 else LastUnder key words v := by
  constructor
  · rintro ⟨before, k, after, heq, hk, hafter⟩
    rcases List.eq_nil_or_concat' after with rfl | ⟨after, e', rfl⟩
    · obtain ⟨-, rfl⟩ := List.append_inj' heq rfl |>.imp id List.singleton_inj.mp
      rw [if_pos hk]
    · rw [← List.cons_append, ← List.append_assoc] at heq
      obtain ⟨rfl, h⟩ := List.append_inj' heq rfl
      obtain rfl := List.singleton_inj.mp h
      rw [if_neg (hafter e (by simp))]
      exact ⟨before, k, after, rfl, hk, fun e he => hafter e (by simp [he])⟩
  · intro h
    split at h
    · rename_i hkey
      exact ⟨words, e.1, [], by rw [h], hkey, nofun⟩
    · rename_i hkey
      obtain ⟨before, k, after, rfl, hk, hafter⟩ := h
      refine ⟨before, k, after ++ [e], by simp, hk, fun e' he' => ?_⟩
      rcases List.mem_append.mp he' with he' | he'
      · exact hafter e' he'
      · rwa [List.mem_singleton.mp he']

def collected (words : List (Value × Value)) : Messages :=
  words.foldl (fun m e => m.insert e.1.written (.text e.2.written)) []

theorem collected_append_singleton (e : Value × Value) :
    collected (words ++ [e]) = (collected words).insert e.1.written (.text e.2.written) := by
  rw [collected, List.foldl_append]
  rfl

theorem distinct_collected (words : List (Value × Value)) : (collected words).Distinct := by
  induction words using List.reverseRecOn with
  | nil => exact List.nodup_nil
  | append_singleton words e ih =>
    rw [collected_append_singleton]
    exact ih.insert _ _

theorem mem_collected_iff {t : Value} :
    (key, t) ∈ collected words ↔ ∃ v, LastUnder key words v ∧ t = .text v.written := by
  rw [(distinct_collected words).mem_iff]
  induction words using List.reverseRecOn with
  | nil => simp [collected, Messages.get?, lastUnder_nil]
  | append_singleton words e ih =>
    rw [collected_append_singleton, Messages.get?_insert]
    simp only [lastUnder_append_singleton]
    split
    · simp [eq_comm]
    · exact ih

theorem words_eq (h : walk? (lookup "messages" c.entries) = some words) (hc : Shaped c.entries) :
    c.words = words := by
  rw [walk?_eq_section? (hasSection_iff.mp hc.messages)] at h
  rw [Catalog.words, h]
  rfl

theorem options_eq (h : walk? (lookup "global" c.entries) = some words) (hc : Shaped c.entries) :
    c.options = words := by
  rw [walk?_eq_section? (hasSection_iff.mp hc.options)] at h
  rw [options, h]
  rfl

theorem exists_walk? (h : HasSection key entries) : ∃ es, walk? (lookup key entries) = some es := by
  rw [walk?_eq_section? (hasSection_iff.mp h)]
  exact Option.ne_none_iff_exists'.mp (hasSection_iff.mp h)

theorem dateFormat?_eq_some_iff (hc : Shaped c.entries) {s : String} :
    c.dateFormat? = some s ↔ s ≠ "" ∧ Under "default_date_format" c.options (.text s) := by
  obtain ⟨options, hoptions⟩ := Option.ne_none_iff_exists'.mp (hasSection_iff.mp hc.options)
  have heq : c.options = options := by
    rw [Catalog.options, hoptions]
    rfl
  have hformat := isFormat_iff.mp ((hasFormat_iff hoptions).mp hc.format)
  rw [dateFormat?, heq]
  rcases lookup_cases "default_date_format" options with hunder | ⟨hnull, hnone⟩
  · rcases hformat with hnull | ⟨t, ht, hne⟩
    · rw [hnull]
      refine ⟨fun h => ?_, fun h => ?_⟩
      · cases h
      · rw [h.2.lookup_eq] at hnull
        cases hnull
    · rw [ht] at hunder ⊢
      refine ⟨fun h => ?_, fun h => ?_⟩
      · cases h
        exact ⟨hne, hunder⟩
      · rw [h.2.lookup_eq] at ht
        cases ht
        rfl
  · rw [hnull]
    refine ⟨fun h => ?_, fun h => absurd h.2 (hnone _)⟩
    cases h

namespace Loader

/-! ## One call -/

inductive Call
  | load
  | reload
  | messages
  | options
  | dateFormat
  deriving DecidableEq

structure Request where
  call : Call
  file : File
  runtime : Runtime

def reached (l : Loader) (q : Request) : Answer Catalog :=
  match q.call with
  | .load => l.load q.file q.runtime
  | .reload => l.reload q.file q.runtime
  | _ => l.catalog q.file q.runtime

def ending {α : Type} (a : Answer α) : Except Fault Unit × Loader :=
  (a.result.map fun _ => (), a.loader)

def outcome (l : Loader) (q : Request) : Except Fault Unit × Loader :=
  match q.call with
  | .load => ending (l.load q.file q.runtime)
  | .reload => ending (l.reload q.file q.runtime)
  | .messages => ending (l.messages q.file q.runtime)
  | .options => ending (l.options q.file q.runtime)
  | .dateFormat => ending (l.dateFormat? q.file q.runtime)

def reads (l : Loader) (call : Call) : Bool :=
  call = .load || call = .reload || l.kept.isNone

def found? (l : Loader) (q : Request) : Option Catalog :=
  if l.reads q.call then (ofFile q.runtime l.path q.file).toOption else none

variable {l : Loader} {call : Call} {q : Request} {requests : List Request} {file : File}
  {r : Runtime} {path : String} {fault : Fault} {reason : Unwritable}

theorem load_of_found (h : ofFile r l.path file = .ok c) :
    l.load file r = ⟨.ok c, { l with kept := some c }, readingEntries r l.path file⟩ := by
  rw [load, h]

theorem load_of_fault (h : ofFile r l.path file = .error fault) :
    l.load file r = ⟨.error fault, l, readingEntries r l.path file⟩ := by
  rw [load, h]

theorem catalog_of_none (h : l.kept = none) : l.catalog file r = l.load file r := by
  rw [catalog, h]

theorem catalog_of_kept (h : l.kept = some c) (file : File) (r : Runtime) :
    l.catalog file r = ⟨.ok c, l, []⟩ := by
  rw [catalog, h]

theorem part_of_kept {α : Type} (h : l.kept = some c) (file : File) (r : Runtime)
    (f : Catalog → Except Fault α) : l.part file r f = ⟨f c, l, []⟩ := by
  rw [part, catalog_of_kept h]
  rfl

theorem ending_ok {α : Type} (a : Answer Catalog) (f : Catalog → α) :
    ending ⟨a.result.bind fun c => .ok (f c), a.loader, a.log⟩ = ending a := by
  obtain ⟨result, loader, log⟩ := a
  cases result <;> rfl

theorem outcome_eq (l : Loader) (q : Request) : l.outcome q =
    ((if q.call = .messages then (l.reached q).result.bind (·.writable q.runtime.room)
      else (l.reached q).result).map fun _ => (), (l.reached q).loader) := by
  obtain ⟨call, file, r⟩ := q
  cases call with
  | load | reload => rfl
  | options | dateFormat => exact ending_ok (l.catalog file r) _
  | messages =>
    simp only [outcome, ending, messages, part, reached, if_true]
    cases (l.catalog file r).result with
    | error fault => rfl
    | ok c =>
      simp only [Except.bind]
      cases c.writable r.room <;> rfl

theorem loader_outcome (l : Loader) (q : Request) :
    (l.outcome q).2 = (l.reached q).loader := by
  rw [outcome_eq]

theorem reached_of_found (hreads : l.reads q.call = true)
    (h : ofFile q.runtime l.path q.file = .ok c) :
    (l.reached q).result = .ok c ∧ (l.reached q).loader = { l with kept := some c } := by
  have hload := load_of_found h
  have hreload : l.reload q.file q.runtime = _ :=
    load_of_found (l := { l with kept := none }) h
  rw [reached]
  split
  · simp only [hload, and_self]
  · simp only [hreload, and_self]
  · rw [catalog_of_none (by simp_all [reads])]
    simp only [hload, and_self]

theorem reached_of_fault (hreads : l.reads q.call = true)
    (h : ofFile q.runtime l.path q.file = .error fault) :
    (l.reached q).result = .error fault ∧
      (l.reached q).loader = if q.call = .load then l else { l with kept := none } := by
  have hload := load_of_fault h
  have hreload : l.reload q.file q.runtime = _ :=
    load_of_fault (l := { l with kept := none }) h
  rw [reached]
  split
  · rename_i hcall
    simp only [hload, hcall, if_true, and_self]
  · rename_i hcall
    simp [hreload, hcall]
  · rename_i hload' hreload'
    have hnone : l.kept = none := by simp_all [reads]
    rw [catalog_of_none hnone, if_neg hload', hload, ← hnone]
    exact ⟨rfl, rfl⟩

theorem reached_of_kept (hreads : ¬l.reads q.call = true) :
    ∃ c, l.kept = some c ∧ l.reached q = ⟨.ok c, l, []⟩ := by
  obtain ⟨c, hc⟩ : ∃ c, l.kept = some c := by
    rw [← Option.isSome_iff_exists, Option.isSome_iff_ne_none]
    rintro hnone
    simp [reads, hnone] at hreads
  refine ⟨c, hc, ?_⟩
  rw [reached]
  split
  · simp_all [reads]
  · simp_all [reads]
  · exact catalog_of_kept hc _ _

theorem outcome_of_found (hreads : l.reads q.call = true)
    (h : ofFile q.runtime l.path q.file = .ok c) (hcall : q.call ≠ .messages) :
    l.outcome q = (.ok (), { l with kept := some c }) := by
  obtain ⟨hresult, hloader⟩ := reached_of_found hreads h
  rw [outcome_eq, if_neg hcall, hresult, hloader]
  rfl

theorem outcome_of_fault (hreads : l.reads q.call = true)
    (h : ofFile q.runtime l.path q.file = .error fault) :
    l.outcome q = (.error fault, if q.call = .load then l else { l with kept := none }) := by
  obtain ⟨hresult, hloader⟩ := reached_of_fault hreads h
  rw [outcome_eq, hresult, hloader]
  split <;> rfl

/-! ## A run of calls -/

def after (l : Loader) : List Request → Loader
  | [] => l
  | q :: requests => (l.outcome q).2.after requests

def successes (l : Loader) : List Request → List Catalog
  | [] => []
  | q :: requests => (l.found? q).toList ++ (l.outcome q).2.successes requests

theorem path_outcome (l : Loader) (q : Request) : (l.outcome q).2.path = l.path := by
  rw [loader_outcome]
  by_cases hreads : l.reads q.call = true
  · cases hfile : ofFile q.runtime l.path q.file with
    | ok c => rw [(reached_of_found hreads hfile).2]
    | error fault =>
      rw [(reached_of_fault hreads hfile).2]
      split <;> rfl
  · obtain ⟨c, -, h⟩ := reached_of_kept hreads
    rw [h]

theorem path_after (l : Loader) (requests : List Request) :
    (l.after requests).path = l.path := by
  induction requests generalizing l with
  | nil => rfl
  | cons q requests ih => rw [after, ih, path_outcome]

theorem kept_outcome (l : Loader) (q : Request) :
    (l.outcome q).2.kept = none ∨ (l.outcome q).2.kept = (l.found? q).or l.kept := by
  rw [loader_outcome, found?]
  by_cases hreads : l.reads q.call = true
  · rw [if_pos hreads]
    cases hfile : ofFile q.runtime l.path q.file with
    | ok c =>
      rw [(reached_of_found hreads hfile).2]
      exact .inr rfl
    | error fault =>
      rw [(reached_of_fault hreads hfile).2]
      split
      · exact .inr rfl
      · exact .inl rfl
  · obtain ⟨c, -, h⟩ := reached_of_kept hreads
    rw [h, if_neg hreads]
    exact .inr rfl

theorem kept_after (l : Loader) (requests : List Request) :
    (l.after requests).kept = none ∨
      (l.after requests).kept = ((l.successes requests).getLast?).or l.kept := by
  induction requests generalizing l with
  | nil => exact .inr rfl
  | cons q requests ih =>
    rw [after, successes, List.getLast?_append, Option.or_assoc]
    rcases ih (l.outcome q).2 with hnone | hkept
    · exact .inl hnone
    rcases kept_outcome l q with hnone | hnow
    · rw [hkept, hnone, Option.or_none]
      cases hlast : ((l.outcome q).2.successes requests).getLast? with
      | none => exact .inl rfl
      | some c => exact .inr rfl
    · rw [hkept, hnow]
      cases l.found? q <;> exact .inr rfl

theorem found_of_found? (h : l.found? q = some c) : Found q.runtime q.file c := by
  rw [found?] at h
  split at h
  · refine ofFile_eq_ok_iff.mp (?_ : ofFile q.runtime l.path q.file = .ok c)
    cases hfile : ofFile q.runtime l.path q.file with
    | ok d =>
      rw [hfile] at h
      exact congrArg Except.ok (Option.some.inj h)
    | error fault =>
      rw [hfile] at h
      cases h
  · cases h

theorem found_of_mem_successes (h : c ∈ l.successes requests) :
    ∃ q ∈ requests, Found q.runtime q.file c := by
  induction requests generalizing l with
  | nil => cases h
  | cons q requests ih =>
    rw [successes, List.mem_append] at h
    rcases h with hnow | hlater
    · exact ⟨q, List.mem_cons_self, found_of_found? (Option.mem_toList.mp hnow)⟩
    · obtain ⟨q', hmem, hfound⟩ := ih hlater
      exact ⟨q', List.mem_cons_of_mem _ hmem, hfound⟩

/-! ## What is served -/

/-- The loader gives out the parts of the catalog, whatever is in the file by now, and stays as it
is. The messages have one entry for every text that keys have, which is the text of what the last of
these keys has; they are refused if and only if a key or a message cannot be written. The format is
a text that is not empty, or there is none. -/
structure Serves (l : Loader) (c : Catalog) : Prop where
  messages : ∃ words m, walk? (lookup "messages" c.entries) = some words ∧ m.Distinct ∧
    (∀ key t, (key, t) ∈ m ↔ ∃ v, LastUnder key words v ∧ t = .text v.written) ∧
    ∀ file r,
      ((∀ e ∈ words, EntryFits r.room e) → l.messages file r = ⟨.ok m, l, []⟩) ∧
      ((¬∀ e ∈ words, EntryFits r.room e) →
        ∃ reason, l.messages file r = ⟨.error (.unwritable reason), l, []⟩)
  options : ∃ options, walk? (lookup "global" c.entries) = some options ∧
    ∀ file r, l.options file r = ⟨.ok options, l, []⟩
  dateFormat : ∃ options format?, walk? (lookup "global" c.entries) = some options ∧
    (∀ s, format? = some s ↔ s ≠ "" ∧ Under "default_date_format" options (.text s)) ∧
    ∀ file r, l.dateFormat? file r = ⟨.ok format?, l, []⟩

theorem messages_of_fits (hkept : l.kept = some c) (h : ∀ e ∈ c.words, EntryFits r.room e) :
    l.messages file r = ⟨.ok c.messages, l, []⟩ := by
  rw [messages, part_of_kept hkept, writable_eq_ok_iff.mpr ⟨refusal?_eq_none_iff.mpr h, rfl⟩]
  rfl

theorem messages_of_refusal (hkept : l.kept = some c) (h : c.refusal? r.room = some reason) :
    l.messages file r = ⟨.error (.unwritable reason), l, []⟩ := by
  rw [messages, part_of_kept hkept, writable_of_refusal? h]
  rfl

theorem serves_of_shaped (hkept : l.kept = some c) (hc : Shaped c.entries) : l.Serves c := by
  obtain ⟨words, hwords⟩ := exists_walk? hc.messages
  obtain ⟨options, hoptions⟩ := exists_walk? hc.options
  have hfits := words_eq hwords hc
  have heq : c.options = options := options_eq hoptions hc
  refine ⟨⟨words, c.messages, hwords, ?_, ?_, fun file r => ⟨?_, ?_⟩⟩,
    ⟨options, hoptions, fun file r => ?_⟩,
    ⟨options, c.dateFormat?, hoptions, fun s => ?_, fun file r => part_of_kept hkept file r _⟩⟩
  · exact distinct_collected c.words
  · intro key t
    rw [← hfits]
    exact mem_collected_iff
  · rw [← hfits]
    exact messages_of_fits hkept
  · rw [← hfits, ← refusal?_eq_none_iff]
    intro h
    obtain ⟨reason, hreason⟩ := Option.ne_none_iff_exists'.mp h
    exact ⟨reason, messages_of_refusal hkept hreason⟩
  · rw [← heq]
    exact part_of_kept hkept file r _
  · rw [← heq]
    exact dateFormat?_eq_some_iff hc

theorem load_of_read {s : List Char} (h : Yaml.read r.order s = .ok v) :
    (∀ c, (l.load (.text s) r).result = .ok c ↔ Holds v c.entries) ∧
      ∀ fault, (l.load (.text s) r).result = .error fault →
        ∃ shape, Misshapen v shape ∧ fault = .shape shape l.path := by
  obtain ⟨path, kept⟩ := l
  rcases ofFile_of_read h with ⟨d, hholds, hok⟩ | ⟨shape, hshape, herror⟩
  · rw [load_of_found hok]
    refine ⟨fun c => ?_, nofun⟩
    rw [Except.ok.injEq]
    refine ⟨fun heq => heq ▸ hholds, fun hc => ?_⟩
    obtain ⟨entries⟩ := c
    obtain ⟨entries'⟩ := d
    exact congrArg Catalog.mk (hholds.unique hc)
  · rw [load_of_fault herror]
    refine ⟨fun c => ⟨nofun, fun hc => absurd hc hshape.not_holds⟩, fun fault hfault => ?_⟩
    exact ⟨shape, hshape, (Except.error.inj hfault).symm⟩

/-! ## Calls that fail -/

theorem fault_of_reached (hreached : (l.reached q).result = .ok c)
    (h : (l.outcome q).1 = .error fault) :
    q.call = .messages ∧ ∃ reason, fault = .unwritable reason := by
  rw [outcome_eq, hreached] at h
  split at h
  · rename_i hcall
    refine ⟨hcall, ?_⟩
    simp only [Except.bind, writable] at h
    split at h
    · cases h
    · rename_i reason _
      exact ⟨reason, (Except.error.inj h).symm⟩
  · cases h

/-- A call that fails reads no catalog, or has one of which the messages cannot be written. -/
theorem fault_cases (h : (l.outcome q).1 = .error fault) :
    ((∀ reason, fault ≠ .unwritable reason) ∧
      (l.outcome q).2 = if q.call = .load then l else { l with kept := none }) ∨
    (q.call = .messages ∧ (∃ reason, fault = .unwritable reason) ∧
      ∃ c, (l.outcome q).2 = { l with kept := some c } ∧
        (l.kept = some c ∨ l.kept = none ∧ Found q.runtime q.file c)) := by
  by_cases hreads : l.reads q.call = true
  · cases hfile : ofFile q.runtime l.path q.file with
    | ok c =>
      obtain ⟨hresult, hloader⟩ := reached_of_found hreads hfile
      obtain ⟨hcall, hreason⟩ := fault_of_reached hresult h
      have hnone : l.kept = none := by simpa [reads, hcall] using hreads
      rw [loader_outcome, hloader]
      exact .inr ⟨hcall, hreason, c, rfl, .inr ⟨hnone, ofFile_eq_ok_iff.mp hfile⟩⟩
    | error fault' =>
      rw [outcome_of_fault hreads hfile] at h ⊢
      cases h
      exact .inl ⟨fun reason heq => ofFile_ne_unwritable (heq ▸ hfile), rfl⟩
  · obtain ⟨c, hkept, hreached⟩ := reached_of_kept hreads
    obtain ⟨hcall, hreason⟩ := fault_of_reached (by rw [hreached]) h
    rw [loader_outcome, hreached]
    exact .inr ⟨hcall, hreason, c, by rw [← hkept], .inl hkept⟩

/-- A loader never serves a catalog that has not been checked. After any calls, with the file and
the runtime in any state at each of them, a document is taken if and only if it has the shape of a
catalog; what is kept is nothing, or what the last call that read the file with success found there;
and a catalog that is kept is served part by part, without a fault unless its messages cannot be
written. A call that finds no catalog leaves nothing kept, except that to load once more leaves what
is kept; one that fails to write messages leaves what it has them from. -/
theorem serves_checked (path : String) (requests : List Request) :
    let new : Loader := ⟨path, none⟩
    let l := new.after requests
    (∀ r s v, Yaml.read r.order s = .ok v →
      (∀ c, (l.load (.text s) r).result = .ok c ↔ Holds v c.entries) ∧
      ∀ fault, (l.load (.text s) r).result = .error fault →
        ∃ shape, Misshapen v shape ∧ fault = .shape shape path) ∧
    (l.kept = none ∨ ∃ c, l.kept = some c ∧ (new.successes requests).getLast? = some c ∧
      ∃ q ∈ requests, Found q.runtime q.file c) ∧
    (∀ c, l.kept = some c → Shaped c.entries ∧ l.Serves c) ∧
    ∀ q fault, (l.outcome q).1 = .error fault →
      ((∀ reason, fault ≠ .unwritable reason) ∧
        (l.outcome q).2 = if q.call = .load then l else new) ∨
      (q.call = .messages ∧ (∃ reason, fault = .unwritable reason) ∧
        ∃ c, (l.outcome q).2 = ⟨path, some c⟩ ∧
          (l.kept = some c ∨ l.kept = none ∧ Found q.runtime q.file c)) := by
  intro new l
  have hpath : l.path = path := path_after new requests
  have hkept : l.kept = none ∨ ∃ c, l.kept = some c ∧
      (new.successes requests).getLast? = some c ∧ ∃ q ∈ requests, Found q.runtime q.file c := by
    rcases kept_after new requests with hnone | hlast
    · exact .inl hnone
    cases hc : (new.successes requests).getLast? with
    | none =>
      rw [hc] at hlast
      exact .inl hlast
    | some c =>
      rw [hc] at hlast
      exact .inr ⟨c, hlast, rfl, found_of_mem_successes (List.mem_of_getLast? hc)⟩
  refine ⟨fun r s v h => ?_, hkept, fun c hc => ?_, fun q fault h => ?_⟩
  · rw [← hpath]
    exact load_of_read h
  · rcases hkept with hnone | ⟨d, hd, -, q, -, hfound⟩
    · rw [hnone] at hc
      cases hc
    · obtain rfl : d = c := Option.some.inj (hd.symm.trans hc)
      exact ⟨hfound.shaped, serves_of_shaped hc hfound.shaped⟩
  · have hcases := fault_cases h
    rwa [hpath] at hcases

/-- Two keys with one text, then a file that is no catalog: what is kept is served, until it is
asked for anew. -/
theorem serves_checked_of_misshapen :
    let good : File := .ofString "messages:\n  1: A\n  '1': B\n"
    let bad : File := .ofString "global: []"
    let c : Catalog :=
      ⟨[(.text "messages", .mapping [(.int 1, .text "A"), (.text "1", .text "B")])]⟩
    let l : Loader := (⟨"c.yaml", none⟩ : Loader).after
      [⟨.load, good, .usual⟩, ⟨.load, bad, .usual⟩]
    Yaml.read .asWritten (Text.plainBreaks "global: []".toList) =
      .ok (.mapping [(.text "global", .list [])]) ∧
    (∀ entries, ¬Holds (.mapping [(.text "global", .list [])]) entries) ∧
    l.kept = some c ∧ l.Serves c ∧ (l.messages bad .usual).result = .ok [("1", .text "B")] ∧
    (l.outcome ⟨.reload, bad, .usual⟩).1 = .error (.shape .globalNotMapping "c.yaml") ∧
    (l.outcome ⟨.reload, bad, .usual⟩).2 = ⟨"c.yaml", none⟩ := by
  have hshape : ofValue (.mapping [(.text "global", .list [])]) = .error .globalNotMapping := by
    cbv
  have hmessages : Catalog.messages
      ⟨[(.text "messages", .mapping [(.int 1, .text "A"), (.text "1", .text "B")])]⟩ =
      [("1", .text "B")] := by
    cbv
  have hwords : Catalog.words
      ⟨[(.text "messages", .mapping [(.int 1, .text "A"), (.text "1", .text "B")])]⟩ =
      [(.int 1, .text "A"), (.text "1", .text "B")] := by
    cbv
  have hread : Yaml.read .asWritten (Text.plainBreaks "global: []".toList) =
      .ok (.mapping [(.text "global", .list [])]) := by
    cbv
  have hgood : ofFile .usual "c.yaml" (.ofString "messages:\n  1: A\n  '1': B\n") =
      .ok ⟨[(.text "messages", .mapping [(.int 1, .text "A"), (.text "1", .text "B")])]⟩ := by
    cbv
  have hbad : ofFile .usual "c.yaml" (.ofString "global: []") =
      .error (.shape .globalNotMapping "c.yaml") := by
    rw [File.ofString, ofFile, Runtime.usual, hread]
    simp only [hshape]
  intro good bad c l
  have hfirst : (⟨"c.yaml", none⟩ : Loader).outcome ⟨.load, good, .usual⟩ =
      (.ok (), ⟨"c.yaml", some c⟩) :=
    outcome_of_found rfl hgood (fun h => by cases h)
  have hsecond : (⟨"c.yaml", some c⟩ : Loader).outcome ⟨.load, bad, .usual⟩ =
      (.error (.shape .globalNotMapping "c.yaml"), ⟨"c.yaml", some c⟩) :=
    outcome_of_fault rfl hbad
  have hthird : (⟨"c.yaml", some c⟩ : Loader).outcome ⟨.reload, bad, .usual⟩ =
      (.error (.shape .globalNotMapping "c.yaml"), ⟨"c.yaml", none⟩) :=
    outcome_of_fault rfl hbad
  have hl : l = ⟨"c.yaml", some c⟩ := by simp only [l, after, hfirst, hsecond]
  obtain ⟨hload, -, hserves, hfault⟩ :=
    serves_checked "c.yaml" [⟨.load, good, .usual⟩, ⟨.load, bad, .usual⟩]
  have hkept : l.kept = some c := by rw [hl]
  have hfits : ∀ e ∈ c.words, EntryFits Runtime.usual.room e := by
    rw [hwords]
    simp [EntryFits, Value.Fits, Value.ownLevels, Value.levels, Value.HasLong, Runtime.usual,
      Integer.isLong_one]
  refine ⟨hread, fun entries hholds => ?_, hkept, (hserves c hkept).2, ?_, by rw [hl, hthird], ?_⟩
  · have hok := ((hload .usual _ _ hread).1 ⟨entries⟩).mpr hholds
    have herror : (⟨"c.yaml", some c⟩ : Loader).load bad .usual = _ := load_of_fault hbad
    have hresult : (l.load bad .usual).result = .error (.shape .globalNotMapping "c.yaml") := by
      rw [hl, herror]
    cases hok.symm.trans hresult
  · rw [messages_of_fits hkept hfits, hmessages]
  · have hrefused : (l.outcome ⟨.reload, bad, .usual⟩).1 =
        .error (.shape .globalNotMapping "c.yaml") := by rw [hl, hthird]
    rcases hfault ⟨.reload, bad, .usual⟩ _ hrefused with ⟨-, hloader⟩ | ⟨hcall, -⟩
    · exact hloader
    · cases hcall

theorem messages_refused_of_nested :
    let c : Catalog := ⟨[(.text "messages", .mapping [(.text "m", .nested 1000 (.int 1))])]⟩
    let full : Loader := ⟨"c.yaml", some c⟩
    let file : File := .ofString "messages:\n m: [1]"
    let d : Catalog := ⟨[(.text "messages", .mapping [(.text "m", .nested 1 (.int 1))])]⟩
    let l : Loader := (⟨"c.yaml", none⟩ : Loader).after [⟨.load, file, .usual⟩]
    (Holds (.mapping c.entries) c.entries ∧ ¬(Value.mapping c.entries).HasLong ∧
      full.messages .missing ⟨.asWritten, 1000⟩ =
        ⟨.error (.unwritable .tooDeep), full, []⟩) ∧
    l.kept = some d ∧
      l.messages file ⟨.asWritten, 1⟩ = ⟨.error (.unwritable .tooDeep), l, []⟩ := by
  have hfile : ofFile .usual "c.yaml" (.ofString "messages:\n m: [1]") =
      .ok ⟨[(.text "messages", .mapping [(.text "m", .list [.int 1])])]⟩ := by
    cbv
  have hshort : ¬(Value.int 1).HasLong := by simp [Value.HasLong, Integer.isLong_one]
  have hlong (n : Nat) : ¬(Value.mapping
      [(.text "messages", .mapping [(.text "m", .nested n (.int 1))])]).HasLong := by
    simp [Value.HasLong, Value.EntriesHaveLong, Value.hasLong_nested, Integer.isLong_one]
  have hshaped (v : Value) : Shaped [(.text "messages", .mapping [(.text "m", v)])] := by
    have hglobal : section? (lookup "global" [(.text "messages", .mapping [(.text "m", v)])]) =
        some [] := by
      simp [lookup, Value.same, section?]
    refine ⟨hasSection_iff.mpr (by simp [hglobal]), (hasFormat_iff hglobal).mpr rfl,
      hasSection_iff.mpr ?_⟩
    simp [lookup, Value.same, section?]
  have hrefusal (n : Nat) : Catalog.refusal?
      ⟨[(.text "messages", .mapping [(.text "m", .nested (n + 1) (.int 1))])]⟩ (n + 1) =
        some .tooDeep := by
    have hwords : Catalog.words
        ⟨[(.text "messages", .mapping [(.text "m", .nested (n + 1) (.int 1))])]⟩ =
        [(.text "m", .nested (n + 1) (.int 1))] := by
      simp [words, lookup, Value.same, section?]
    rw [refusal?, hwords, List.findSome?_singleton]
    exact Value.refusal?_nested hshort (Nat.le_refl _)
  intro c full file d l
  have hl : l = ⟨"c.yaml", some d⟩ := by
    have hload : (⟨"c.yaml", none⟩ : Loader).outcome ⟨.load, file, .usual⟩ =
        (.ok (), ⟨"c.yaml", some d⟩) :=
      outcome_of_found rfl hfile (fun h => by cases h)
    simp only [l, after, hload]
  refine ⟨⟨.mapping (hshaped _), hlong _, messages_of_refusal rfl (hrefusal 999)⟩, by rw [hl], ?_⟩
  rw [hl]
  exact messages_of_refusal rfl (hrefusal 0)

end Loader

end Catalog

end FormRules
