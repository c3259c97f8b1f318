import FormRules.Proofs.Logger.Table

/-! A logger is set up once. Whatever is logged, however often it is set up again and whatever
becomes of the settings, its handlers are those that the first set-up made; each of them has every
entry of the logger that reaches the level of that moment, once and in order, and nobody else has
any of them. -/

namespace FormRules.Logging

variable {p : Logging} {e : Log.Entry} {event : Event} {events : List Event} {name : String}
  {level : Log.Level} {targets : List Target} {kept es : List Log.Entry}

/-! ## Records of a logger -/

def ofLogger (name : String) (es : List Log.Entry) : List Log.Entry :=
  es.filter fun e => e.logger = name

def Event.setUp? : Event → Option String
  | .setUp name => some (Logger.nameOf name)
  | _ => none

def logged (p : Logging) : List Event → List Log.Entry
  | [] => []
  | event :: events => event.entries p.settings ++ (p.step event).logged events

def given (p : Logging) (name : String) : List Event → List (Option Nat)
  | [] => []
  | event :: events =>
    (if event.setUp? = some name then [(p.step event).loggers.place? name] else []) ++
      (p.step event).given name events

def made (name : String) (level : Log.Level) (targets : List Target) (kept : List Log.Entry) :
    Logger :=
  ⟨name, some level, targets.map fun t => ⟨t, level, kept⟩⟩

/-- What is kept of the entries: all those of the logger that reach the level, and of others only
such as come from loggers below. -/
structure KeptOf (name : String) (level : Log.Level) (kept es : List Log.Entry) : Prop where
  own : ofLogger name kept = (ofLogger name es).filter fun e => e.reaches level
  sublist : kept.Sublist es
  below : ∀ e ∈ kept, e.logger = name ∨ Loggers.Below e.logger name

theorem keptOf_nil (name : String) (level : Log.Level) : KeptOf name level [] [] :=
  ⟨rfl, .slnil, nofun⟩

theorem ofLogger_append (name : String) (es ds : List Log.Entry) :
    ofLogger name (es ++ ds) = ofLogger name es ++ ofLogger name ds := List.filter_append ..

theorem KeptOf.concat (h : KeptOf name level kept es) (hreaches : e.reaches level = true)
    (he : e.logger = name ∨ Loggers.Below e.logger name) :
    KeptOf name level (kept ++ [e]) (es ++ [e]) := by
  refine ⟨?_, h.sublist.append_right [e], ?_⟩
  · have hone : (ofLogger name [e]).filter (fun e => e.reaches level) = ofLogger name [e] := by
      by_cases hname : e.logger = name <;> simp [ofLogger, hname, hreaches]
    rw [ofLogger_append, ofLogger_append, List.filter_append, h.own, hone]
  · intro d hd
    rcases List.mem_append.mp hd with hd | hd
    · exact h.below d hd
    · rwa [List.mem_singleton.mp hd]

theorem KeptOf.skip (h : KeptOf name level kept es)
    (he : e.logger = name → e.reaches level = false) : KeptOf name level kept (es ++ [e]) := by
  refine ⟨?_, h.sublist.trans (List.sublist_append_left es [e]), h.below⟩
  have hone : (ofLogger name [e]).filter (fun e => e.reaches level) = [] := by
    by_cases hname : e.logger = name
    · simp [ofLogger, hname, he hname]
    · simp [ofLogger, hname]
  rw [ofLogger_append, List.filter_append, hone, List.append_nil, h.own]

/-! ## One entry -/

def handed (p : Logging) (e : Log.Entry) (l : Logger) : Logger :=
  if e.reaches ((p.loggers.ensure e.logger).levelOf e.logger) ∧
    l.name ∈ (p.loggers.ensure e.logger).chain e.logger then l.pass e else l

theorem name_handed (p : Logging) (e : Log.Entry) (l : Logger) : (p.handed e l).name = l.name := by
  rw [handed]
  split <;> rfl

theorem handed_of_bare {l : Logger} (h : l.attached = []) : p.handed e l = l := by
  obtain ⟨name, level, attached⟩ := l
  obtain rfl : attached = [] := h
  exact ite_self _

theorem loggers_log (p : Logging) (e : Log.Entry) :
    (p.log e).loggers = (p.loggers.ensure e.logger).map (p.handed e) := by
  rw [log]
  split
  · rename_i hreaches
    have hhanded : p.handed e = fun l =>
        if l.name ∈ (p.loggers.ensure e.logger).chain e.logger then l.pass e else l :=
      funext fun l => by simp only [handed, hreaches, true_and]
    rw [hhanded]
  · rename_i hreaches
    have hsame : ∀ l ∈ p.loggers.ensure e.logger, p.handed e l = l := fun l _ =>
      if_neg fun h => hreaches h.1
    rw [List.map_congr_left hsame, List.map_id']

theorem exists_of_mem_log {l : Logger} (h : l ∈ (p.log e).loggers) :
    ∃ m ∈ p.loggers.ensure e.logger, l = p.handed e m := by
  rw [loggers_log] at h
  obtain ⟨m, hm, rfl⟩ := List.mem_map.mp h
  exact ⟨m, hm, rfl⟩

theorem mem_written_write {h : Handler} {d : Log.Entry} (hd : d ∈ (h.write e).written) :
    d ∈ h.written ∨ d = e := by
  rw [Handler.write] at hd
  split at hd
  · simpa using hd
  · exact .inl hd

/-- The loggers above have no handlers, and no other logger has anything of what this one puts on
record. -/
structure Alone (name : String) (p : Logging) : Prop where
  above : ∀ l ∈ p.loggers, Loggers.Below name l.name → l.attached = []
  elsewhere : ∀ l ∈ p.loggers, l.name ≠ name → ∀ h ∈ l.attached, ∀ e ∈ h.written, e.logger ≠ name

theorem Alone.ensure (h : p.Alone name) (other : String) :
    Alone name { p with loggers := p.loggers.ensure other } := by
  refine ⟨fun l hl hbelow => ?_, fun l hl hne => ?_⟩
  · rcases Loggers.mem_ensure hl with hl | rfl
    · exact h.above l hl hbelow
    · rfl
  · rcases Loggers.mem_ensure hl with hl | rfl
    · exact h.elsewhere l hl hne
    · exact nofun

theorem Alone.log (h : p.Alone name) (e : Log.Entry) : (p.log e).Alone name := by
  have hensure := h.ensure e.logger
  refine ⟨fun l hl hbelow => ?_, fun l hl hne k hk d hd => ?_⟩
  · obtain ⟨m, hm, rfl⟩ := exists_of_mem_log hl
    rw [name_handed] at hbelow
    have hbare := hensure.above m hm hbelow
    rwa [handed_of_bare hbare]
  · obtain ⟨m, hm, rfl⟩ := exists_of_mem_log hl
    rw [name_handed] at hne
    have hold := hensure.elsewhere m hm hne
    rw [handed] at hk
    split at hk
    · rename_i hpassed
      obtain ⟨k, hin, rfl⟩ := List.mem_map.mp hk
      rcases mem_written_write hd with hd | rfl
      · exact hold k hin d hd
      · rintro rfl
        rcases Loggers.eq_or_below_of_mem_chain hpassed.2 with hname | hbelow
        · exact hne hname
        · rw [hensure.above m hm hbelow] at hin
          cases hin
    · exact hold k hk d hd

def Bare (name : String) (p : Logging) : Prop :=
  ∀ l ∈ p.loggers, l.name = name → l.attached = []

theorem Bare.log (h : p.Bare name) (e : Log.Entry) : (p.log e).Bare name := by
  intro l hl hname
  obtain ⟨m, hm, rfl⟩ := exists_of_mem_log hl
  rw [name_handed] at hname
  have hbare : m.attached = [] := by
    rcases Loggers.mem_ensure hm with hm | rfl
    · exact h m hm hname
    · rfl
  rwa [handed_of_bare hbare]

structure Settled (name : String) (level : Log.Level) (targets : List Target)
    (kept : List Log.Entry) (p : Logging) : Prop extends Alone name p where
  here : (p.loggers.get? name).isSome
  own : ∀ l ∈ p.loggers, l.name = name → l = made name level targets kept

theorem Settled.get?_eq (h : p.Settled name level targets kept) :
    p.loggers.get? name = some (made name level targets kept) := by
  obtain ⟨l, hl⟩ := Option.isSome_iff_exists.mp h.here
  obtain ⟨hmem, hname⟩ := Loggers.mem_of_get? hl
  rw [hl, h.own l hmem hname]

theorem pass_made (kept : List Log.Entry) (e : Log.Entry) :
    (made name level targets kept).pass e =
      made name level targets (if e.reaches level then kept ++ [e] else kept) := by
  cases he : e.reaches level <;> simp [made, Logger.pass, Handler.write, he]

theorem Settled.exists_handed (h : p.Settled name level targets kept)
    (hes : KeptOf name level kept es) (e : Log.Entry) :
    ∃ kept', p.handed e (made name level targets kept) =
      made name level targets kept' ∧ KeptOf name level kept' (es ++ [e]) := by
  have hpass : (made name level targets kept).pass e = _ := pass_made kept e
  by_cases hlogger : e.logger = name
  · subst hlogger
    have hlevel := Loggers.levelOf_eq (Loggers.get?_ensure_of_get? h.get?_eq e.logger) rfl
    have hchain : (made e.logger level targets kept).name ∈
        (p.loggers.ensure e.logger).chain e.logger := Loggers.mem_chain_self _ _
    cases hreaches : e.reaches level with
    | true =>
      refine ⟨kept ++ [e], ?_, hes.concat hreaches (.inl rfl)⟩
      rw [handed, hlevel, if_pos ⟨hreaches, hchain⟩, hpass, if_pos hreaches]
    | false =>
      refine ⟨kept, ?_, hes.skip fun _ => hreaches⟩
      rw [handed, hlevel, if_neg fun h => by simp [hreaches] at h]
  · have hskip := hes.skip (e := e) fun hname => absurd hname hlogger
    rw [handed]
    split
    · rename_i hpassed
      rw [hpass]
      refine ⟨_, rfl, ?_⟩
      split
      · rename_i hreaches
        rcases Loggers.eq_or_below_of_mem_chain hpassed.2 with hname | hbelow
        · exact absurd hname.symm hlogger
        · exact hes.concat hreaches (.inr hbelow)
      · exact hskip
    · exact ⟨kept, rfl, hskip⟩

theorem Settled.log (h : p.Settled name level targets kept) (hes : KeptOf name level kept es)
    (e : Log.Entry) : ∃ kept', (p.log e).Settled name level targets kept' ∧
      KeptOf name level kept' (es ++ [e]) := by
  obtain ⟨kept', hhanded, hkept'⟩ := h.exists_handed hes e
  refine ⟨kept', ⟨h.toAlone.log e, ?_, fun l hl hname => ?_⟩, hkept'⟩
  · rw [loggers_log, Loggers.get?_map (p.name_handed e),
      Loggers.get?_ensure_of_get? h.get?_eq e.logger]
    rfl
  · obtain ⟨m, hm, rfl⟩ := exists_of_mem_log hl
    rw [name_handed] at hname
    obtain rfl := h.own m (Loggers.mem_of_mem_ensure hm (by rw [hname]; exact h.here)) hname
    exact hhanded

theorem Settled.unheard_log (h : p.Settled name level targets kept) (htargets : targets ≠ [])
    (e : Log.Entry) : ofLogger name (p.log e).unheard = ofLogger name p.unheard := by
  have hsame : (p.log e).unheard = p.unheard ∨
      (p.log e).unheard = p.unheard ++ [e] ∧ e.logger ≠ name := by
    rw [Logging.log]
    split
    · dsimp only
      split
      · rename_i hunheard
        refine .inr ⟨rfl, ?_⟩
        rintro rfl
        have hmem := (Loggers.mem_of_get? (Loggers.get?_ensure_of_get? h.get?_eq e.logger)).1
        simp only [Bool.and_eq_true, Bool.not_eq_true', List.any_eq_false] at hunheard
        have hnone := hunheard.1 _ hmem
        simp [made, htargets, Loggers.mem_chain_self] at hnone
      · exact .inl rfl
    · exact .inl rfl
  rcases hsame with hsame | ⟨hsame, hne⟩
  · rw [hsame]
  · rw [hsame]
    simp [ofLogger, hne]

/-! ## Many entries -/

section Entries

variable (entries : List Log.Entry)

theorem Alone.foldl_log (h : p.Alone name) : (entries.foldl Logging.log p).Alone name := by
  induction entries generalizing p with
  | nil => exact h
  | cons e entries ih => exact ih (h.log e)

theorem Bare.foldl_log (h : p.Bare name) : (entries.foldl Logging.log p).Bare name := by
  induction entries generalizing p with
  | nil => exact h
  | cons e entries ih => exact ih (h.log e)

theorem Settled.foldl_log (h : p.Settled name level targets kept) (hes : KeptOf name level kept es)
    (htargets : targets ≠ []) :
    ∃ kept', (entries.foldl Logging.log p).Settled name level targets kept' ∧
      KeptOf name level kept' (es ++ entries) ∧
      ofLogger name (entries.foldl Logging.log p).unheard = ofLogger name p.unheard := by
  induction entries generalizing p kept es with
  | nil => exact ⟨kept, h, by rwa [List.append_nil], rfl⟩
  | cons e entries ih =>
    obtain ⟨now, hnow, hkept⟩ := h.log hes e
    obtain ⟨later, hlater, hkept', hunheard⟩ := ih hnow hkept
    refine ⟨later, hlater, ?_, hunheard.trans (h.unheard_log htargets e)⟩
    rwa [List.append_assoc] at hkept'

theorem place?_foldl_log {i : Nat} (h : p.loggers.place? name = some i) :
    (entries.foldl log p).loggers.place? name = some i := by
  induction entries generalizing p with
  | nil => exact h
  | cons e entries ih =>
    apply ih
    rw [loggers_log, Loggers.place?_map (p.name_handed e)]
    exact Loggers.place?_ensure h

end Entries

/-! ## One set-up -/

theorem setUp_of_bare {l : Logger} (h : l.attached = []) (settings : Settings) :
    l.setUp settings = made l.name settings.logLevel (Logger.targets settings) [] := by
  rw [Logger.setUp, h]
  rfl

theorem setUp_of_attached {l : Logger} (h : l.attached ≠ []) (settings : Settings) :
    l.setUp settings = l := by
  rw [Logger.setUp, if_neg (by simpa using h)]

theorem name_setUp_ite (settings : Settings) (other : String) (l : Logger) :
    (if l.name = other then l.setUp settings else l).name = l.name := by
  split
  · rw [Logger.setUp]
    split <;> rfl
  · rfl

theorem exists_of_mem_setUp {l : Logger} {other : String}
    (h : l ∈ (p.step (.setUp other)).loggers) :
    ∃ m ∈ p.loggers.ensure (Logger.nameOf other),
      l = if m.name = Logger.nameOf other then m.setUp p.settings else m := by
  obtain ⟨m, hm, rfl⟩ := List.mem_map.mp h
  exact ⟨m, hm, rfl⟩

theorem Alone.setUp (h : p.Alone name) {other : String}
    (hother : ¬Loggers.Below name (Logger.nameOf other)) :
    (p.step (.setUp other)).Alone name := by
  have hensure := h.ensure (Logger.nameOf other)
  refine ⟨fun l hl hbelow => ?_, fun l hl hne k hk => ?_⟩
  · obtain ⟨m, hm, rfl⟩ := exists_of_mem_setUp hl
    rw [name_setUp_ite] at hbelow
    have hne : m.name ≠ Logger.nameOf other := by
      intro heq
      rw [heq] at hbelow
      exact hother hbelow
    rw [if_neg hne]
    exact hensure.above m hm hbelow
  · obtain ⟨m, hm, rfl⟩ := exists_of_mem_setUp hl
    rw [name_setUp_ite] at hne
    have hold := hensure.elsewhere m hm hne
    split at hk
    · by_cases hattached : m.attached = []
      · rw [setUp_of_bare hattached] at hk
        obtain ⟨t, -, rfl⟩ := List.mem_map.mp hk
        exact nofun
      · rw [setUp_of_attached hattached] at hk
        exact hold k hk
    · exact hold k hk

theorem Settled.setUp (h : p.Settled name level targets kept) (htargets : targets ≠ [])
    {other : String} (hother : ¬Loggers.Below name (Logger.nameOf other)) :
    (p.step (.setUp other)).Settled name level targets kept := by
  refine ⟨h.toAlone.setUp hother, ?_, fun l hl hname => ?_⟩
  · rw [step, Loggers.setUp, Loggers.get?_map (name_setUp_ite _ _),
      Loggers.get?_ensure_of_get? h.get?_eq]
    rfl
  · obtain ⟨m, hm, rfl⟩ := exists_of_mem_setUp hl
    rw [name_setUp_ite] at hname
    obtain rfl := h.own m (Loggers.mem_of_mem_ensure hm (by rw [hname]; exact h.here)) hname
    rw [setUp_of_attached (by simpa [made] using htargets), ite_self]

theorem settled_setUp {other : String} (halone : p.Alone (Logger.nameOf other))
    (hbare : p.Bare (Logger.nameOf other)) :
    (p.step (.setUp other)).Settled (Logger.nameOf other) p.settings.logLevel
      (Logger.targets p.settings) [] := by
  refine ⟨halone.setUp fun hbelow => hbelow.1 rfl, ?_, fun l hl hname => ?_⟩
  · rw [step, Loggers.setUp, Loggers.get?_map (name_setUp_ite _ _), Option.isSome_map]
    exact Loggers.isSome_get?_ensure _ _
  · obtain ⟨m, hm, rfl⟩ := exists_of_mem_setUp hl
    rw [name_setUp_ite] at hname
    have hattached : m.attached = [] := by
      rcases Loggers.mem_ensure hm with hm | rfl
      · exact hbare m hm hname
      · rfl
    rw [if_pos hname, setUp_of_bare hattached, hname]

/-! ## One event -/

theorem step_cases (event : Event) : (∃ other, event = .setUp other) ∨
    (∃ settings, event = .set settings) ∨
    ∀ p : Logging, p.step event = (event.entries p.settings).foldl log p := by
  cases event with
  | setUp other => exact .inl ⟨other, rfl⟩
  | set settings => exact .inr (.inl ⟨settings, rfl⟩)
  | log other level message => exact .inr (.inr fun p => rfl)
  | logError other context error trace => exact .inr (.inr fun p => rfl)

def SparesAbove (name : String) (event : Event) : Prop :=
  ∀ other, event.setUp? = some other → ¬Loggers.Below name other

theorem Alone.step (h : p.Alone name) (hevent : SparesAbove name event) :
    (p.step event).Alone name := by
  rcases step_cases event with ⟨other, rfl⟩ | ⟨settings, rfl⟩ | hstep
  · exact h.setUp (hevent _ rfl)
  · exact ⟨h.above, h.elsewhere⟩
  · rw [hstep]
    exact h.foldl_log _

theorem Bare.step (h : p.Bare name) (hevent : event.setUp? ≠ some name) :
    (p.step event).Bare name := by
  rcases step_cases event with ⟨other, rfl⟩ | ⟨settings, rfl⟩ | hstep
  · intro l hl hname
    obtain ⟨m, hm, rfl⟩ := exists_of_mem_setUp hl
    rw [name_setUp_ite] at hname
    rw [if_neg fun heq => hevent (congrArg some (heq.symm.trans hname))]
    rcases Loggers.mem_ensure hm with hm | rfl
    · exact h m hm hname
    · rfl
  · exact h
  · rw [hstep]
    exact h.foldl_log _

theorem Settled.step (h : p.Settled name level targets kept) (hes : KeptOf name level kept es)
    (htargets : targets ≠ []) (hevent : SparesAbove name event) :
    ∃ kept', (p.step event).Settled name level targets kept' ∧
      KeptOf name level kept' (es ++ event.entries p.settings) ∧
      ofLogger name (p.step event).unheard = ofLogger name p.unheard := by
  have hnone : KeptOf name level kept (es ++ []) := by rwa [List.append_nil]
  rcases step_cases event with ⟨other, rfl⟩ | ⟨settings, rfl⟩ | hstep
  · exact ⟨kept, h.setUp htargets (hevent _ rfl), hnone, rfl⟩
  · exact ⟨kept, ⟨⟨h.above, h.elsewhere⟩, h.here, h.own⟩, hnone, rfl⟩
  · rw [hstep]
    exact h.foldl_log _ hes htargets

theorem place?_step {i : Nat} (h : p.loggers.place? name = some i) (event : Event) :
    (p.step event).loggers.place? name = some i := by
  rcases step_cases event with ⟨other, rfl⟩ | ⟨settings, rfl⟩ | hstep
  · rw [step, Loggers.setUp, Loggers.place?_map (name_setUp_ite _ _)]
    exact Loggers.place?_ensure h
  · exact h
  · rw [hstep]
    exact place?_foldl_log _ h

/-! ## Many events -/

theorem Alone.after (h : p.Alone name) (hevents : ∀ event ∈ events, SparesAbove name event) :
    (p.after events).Alone name := by
  induction events generalizing p with
  | nil => exact h
  | cons event events ih =>
    obtain ⟨hevent, hevents⟩ := List.forall_mem_cons.mp hevents
    exact ih (h.step hevent) hevents

theorem Bare.after (h : p.Bare name) (hevents : ∀ event ∈ events, event.setUp? ≠ some name) :
    (p.after events).Bare name := by
  induction events generalizing p with
  | nil => exact h
  | cons event events ih =>
    obtain ⟨hevent, hevents⟩ := List.forall_mem_cons.mp hevents
    exact ih (h.step hevent) hevents

theorem Settled.after (h : p.Settled name level targets kept) (hes : KeptOf name level kept es)
    (htargets : targets ≠ []) (hevents : ∀ event ∈ events, SparesAbove name event) :
    ∃ kept', (p.after events).Settled name level targets kept' ∧
      KeptOf name level kept' (es ++ p.logged events) ∧
      ofLogger name (p.after events).unheard = ofLogger name p.unheard := by
  induction events generalizing p kept es with
  | nil => exact ⟨kept, h, by rwa [logged, List.append_nil], rfl⟩
  | cons event events ih =>
    obtain ⟨hevent, hevents⟩ := List.forall_mem_cons.mp hevents
    obtain ⟨now, hnow, hkept, hunheard⟩ := h.step hes htargets hevent
    obtain ⟨later, hlater, hkept', hunheard'⟩ := ih hnow hkept hevents
    refine ⟨later, hlater, ?_, hunheard'.trans hunheard⟩
    rwa [List.append_assoc] at hkept'

theorem given_of_place? {i : Nat} (h : p.loggers.place? name = some i) (events : List Event) :
    ∀ r ∈ p.given name events, r = some i := by
  induction events generalizing p with
  | nil => exact nofun
  | cons event events ih =>
    have hplace := place?_step h event
    intro r hr
    rw [given, List.mem_append] at hr
    rcases hr with hr | hr
    · split at hr
      · rw [List.mem_singleton.mp hr, hplace]
      · cases hr
    · exact ih hplace r hr

/-! ## Handlers -/

theorem targets_of_console {settings : Settings}
    (h : ∀ path, settings.logFile = some path → path = "") :
    Logger.targets settings = [.console] := by
  cases hfile : settings.logFile with
  | none => simp [Logger.targets, hfile]
  | some path => simp [Logger.targets, hfile, h path hfile]

theorem targets_of_file {settings : Settings} {path : String}
    (h : settings.logFile = some path) (hne : path ≠ "") :
    Logger.targets settings = [.console, .file path] := by
  simp [Logger.targets, h, hne]

theorem ne_console_of_mem {settings : Settings} : ∀ t ∈ ((settings.logFile.filter fun path =>
    !path.isEmpty).map Target.file).toList, t ≠ .console := by
  intro t ht
  obtain ⟨path, -, rfl⟩ := Option.map_eq_some_iff.mp (Option.mem_toList.mp ht)
  exact nofun

theorem console_made {file : List Target} (hfile : ∀ t ∈ file, t ≠ .console) (time : String) :
    (made name level (.console :: file) kept).console time = kept.map (Logger.line time) := by
  have hnone : (file.filter fun t => t = .console) = [] := by
    simpa [List.filter_eq_nil_iff] using hfile
  simp [made, Logger.console, List.filter_map, Function.comp_def, hnone]

theorem file?_made {file : List Target} (hfile : ∀ t ∈ file, t ≠ .console) {time : String}
    {lines : List String}
    (h : (made name level (.console :: file) kept).file? time = some lines) :
    lines = (made name level (.console :: file) kept).console time := by
  obtain ⟨k, hk, rfl⟩ := Option.map_eq_some_iff.mp h
  obtain ⟨t, -, rfl⟩ := List.mem_map.mp (List.mem_of_find?_eq_some hk)
  rw [console_made hfile]

/-- A logger is set up for the first time. Before and after that anything may be logged, the
settings may change, and loggers may be set up, but for those above this one. Then every set-up of
the logger gives back the same one. It writes to the console and, if and only if the settings of the
first time name one, to a file. Its level is that of the settings of the first time, and so is that
of its handlers, which have all kept the same: every entry that the logger has put on record since
then and that reaches the level, once and in order, and otherwise only entries of loggers below.
Nothing that it has put on record has gone to another logger, or unheard. -/
theorem set_up_once (settings : Settings) (name : String) (before after : List Event)
    (hbefore : ∀ event ∈ before, event.setUp? ≠ some (Logger.nameOf name))
    (habove : ∀ event ∈ before ++ after, SparesAbove (Logger.nameOf name) event) :
    let own := Logger.nameOf name
    let first := (start settings).after before
    let now := first.after (.setUp name :: after)
    let level := first.settings.logLevel
    let entries := first.logged (.setUp name :: after)
    ∃ targets place kept,
      ((∀ path, first.settings.logFile = some path → path = "") → targets = [.console]) ∧
      (∀ path, first.settings.logFile = some path → path ≠ "" →
        targets = [.console, .file path]) ∧
      (∀ given ∈ first.given own (.setUp name :: after), given = some place) ∧
      (ofLogger own kept = (ofLogger own entries).filter (·.reaches level) ∧
        kept.Sublist entries ∧ ∀ e ∈ kept, e.logger = own ∨ Loggers.Below e.logger own) ∧
      let l : Logger := ⟨own, some level, targets.map fun t => ⟨t, level, kept⟩⟩
      now.loggers.get? own = some l ∧
      (∀ m ∈ now.loggers, m.name = own → m = l) ∧
      (∀ m ∈ now.loggers, m.name ≠ own → ∀ h ∈ m.attached, ∀ e ∈ h.written, e.logger ≠ own) ∧
      ofLogger own now.unheard = ofLogger own first.unheard ∧
      ∀ time, l.console time = kept.map (Logger.line time) ∧
        ∀ lines, l.file? time = some lines → lines = l.console time := by
  intro own first now level entries
  obtain ⟨haboveBefore, haboveAfter⟩ := List.forall_mem_append.mp habove
  have halone : first.Alone own :=
    Alone.after (p := start settings) ⟨nofun, nofun⟩ haboveBefore
  have hbare : first.Bare own := Bare.after (p := start settings) nofun hbefore
  have hfirst := settled_setUp halone hbare
  obtain ⟨kept, hnow, hkept, hunheard⟩ :=
    hfirst.after (keptOf_nil own level) (List.cons_ne_nil _ _) haboveAfter
  obtain ⟨place, hplace⟩ := Loggers.exists_place? hfirst.here
  refine ⟨Logger.targets first.settings, place, kept, targets_of_console,
    fun path => targets_of_file, ?_, ⟨hkept.own, hkept.sublist, hkept.below⟩, hnow.get?_eq,
    hnow.own, hnow.elsewhere, hunheard, fun time =>
      ⟨console_made ne_console_of_mem time, fun lines => file?_made ne_console_of_mem⟩⟩
  intro given hgiven
  have hname : Event.setUp? (.setUp name) = some own := rfl
  rw [Logging.given, if_pos hname, List.singleton_append, hplace] at hgiven
  rcases List.mem_cons.mp hgiven with rfl | hgiven
  · rfl
  · exact given_of_place? hplace after given hgiven

/-- Something is logged before the set-up, a logger below is set up and logs, and the settings
change: the level stays that of warnings, and the file stays. -/
theorem set_up_once_of_new_settings :
    let settings : Settings := { logLevel := .warning, logFile := some "app.log" }
    let before : List Event := [.log "app" .critical "early", .setUp "app.rules"]
    let after : List Event := [.log "app" .info "fine", .set {}, .setUp "app",
      .log "app" .info "good", .logError "app" "load" "Refused" "", .log "app.rules" .error "late"]
    (∀ event ∈ before, event.setUp? ≠ some "app") ∧
    (∀ event ∈ before ++ after, SparesAbove "app" event) ∧
    ∃ kept, ofLogger "app" kept = [⟨.error, "app", "load: Refused"⟩] ∧
      ((start settings).after (before ++ .setUp "app" :: after)).loggers.get? "app" =
        some ⟨"app", some .warning,
          [⟨.console, .warning, kept⟩, ⟨.file "app.log", .warning, kept⟩]⟩ := by
  intro settings before after
  have hbefore : ∀ event ∈ before, event.setUp? ≠ some "app" := by decide
  have habove : ∀ event ∈ before ++ after, SparesAbove "app" event := by
    have hbelow : ¬Loggers.Below "app" "app.rules" := by decide
    have hself : ¬Loggers.Below "app" "app" := by decide
    simp [SparesAbove, before, after, Event.setUp?, Logger.nameOf, hbelow, hself]
  obtain ⟨targets, place, kept, -, hfile, -, ⟨hown, -⟩, hget, -⟩ :=
    set_up_once settings "app" before after hbefore habove
  obtain rfl := hfile "app.log" (by decide) (by decide)
  refine ⟨hbefore, habove, kept, hown.trans (by decide), ?_⟩
  rw [Logging.after, List.foldl_append]
  exact hget

end FormRules.Logging
