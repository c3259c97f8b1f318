import FormRules.Proofs.DateFormat.Cut
import FormRules.Proofs.FirstFailure
import FormRules.Proofs.Registry
import FormRules.Proofs.Rule.Parameter

namespace FormRules

instance instDecidableEqAnswer {ε α : Type} [DecidableEq ε] [DecidableEq α] :
    DecidableEq (Except ε α)
  | .ok a, .ok b => decidable_of_iff (a = b) (by simp)
  | .error a, .error b => decidable_of_iff (a = b) (by simp)
  | .ok _, .error _ => isFalse (by simp)
  | .error _, .ok _ => isFalse (by simp)

/-! ## Rules that judge every value -/

def RuleClass.JudgesAll (rules : RuleClass) : Prop :=
  ∀ name param context rule, rules.prepare name param context = .ok rule →
    ∀ field v entries, ∃ verdict, rule.judge field v (.mapping entries) = .ok verdict

namespace Rule

theorem ofJudgement_judgesAll (title : String) (judge : String → Value → Verdict) :
    (ofJudgement title judge).JudgesAll := by
  intro name param context rule h field v entries
  cases h
  exact ⟨_, rfl⟩

theorem judgesAll_of_read {α : Type} {title : String}
    {read : String → Option String → Except RuleFault α} {make : Option String → α → Rule}
    (h : ∀ param a field v entries,
      ∃ verdict, (make param a).judge field v (.mapping entries) = .ok verdict) :
    RuleClass.JudgesAll ⟨title, fun name param _ => do .ok (make param (← read name param))⟩ := by
  intro name param context rule hrule
  obtain ⟨a, -, hmade⟩ := bind_eq_ok_iff.mp hrule
  cases hmade
  exact h param a

theorem ofLength_judgesAll (title : String) (test : Int → Int → Bool)
    (message : String → String → String) : (ofLength title test message).JudgesAll :=
  judgesAll_of_read fun _ _ _ _ _ => ⟨_, rfl⟩

theorem ofBound_judgesAll (title : String) (test : Number → Number → Bool)
    (message : String → String → String) : (ofBound title test message).JudgesAll :=
  judgesAll_of_read fun _ _ _ _ _ => ⟨_, rfl⟩

theorem oneOf_judgesAll : oneOf.JudgesAll :=
  judgesAll_of_read fun _ _ _ _ _ => ⟨_, rfl⟩

theorem requiredIf_judgesAll : requiredIf.JudgesAll :=
  judgesAll_of_read fun _ _ _ _ _ => ⟨_, rfl⟩

theorem confirmed_judgesAll : confirmed.JudgesAll := by
  intro name param context rule h field v entries
  cases h
  have hfield : (Value.mapping entries).field confirmationField =
      .ok (Value.entry entries confirmationField) := rfl
  by_cases hfilled : isFilled (Value.entry entries confirmationField)
  · exact ⟨_, by simp [hfield, hfilled, bind, Except.bind]; rfl⟩
  · exact ⟨_, by simp [hfield, hfilled, bind, Except.bind]; rfl⟩

theorem judgesAll_of_mem {name : String} {rules : RuleClass}
    (h : (name, rules) ∈ Registry.builtinRules) (hdate : name ≠ "date") (hfuture : name ≠ "future")
    (hpast : name ≠ "past") : rules.JudgesAll := by
  have hall := Registry.forall_mem_builtinRules
    (P := fun name rules => name ≠ "date" → name ≠ "future" → name ≠ "past" → rules.JudgesAll)
    (fun _ title judge _ _ _ => ofJudgement_judgesAll title judge)
    (fun _ title test message _ _ _ => ofLength_judgesAll title test message)
    (fun _ title test message _ _ _ => ofBound_judgesAll title test message)
    (fun _ _ _ => oneOf_judgesAll) (fun h _ _ => absurd rfl h) (fun _ h _ => absurd rfl h)
    (fun _ _ h => absurd rfl h) (fun _ _ _ => confirmed_judgesAll)
    (fun _ _ _ => requiredIf_judgesAll)
  exact hall (name, rules) h hdate hfuture hpast

end Rule

/-! ## Rules about dates -/

/-- It can be told whether the text is before or after the clock: reading it comes to an end, and a
moment that it tells has no zone or is less than a day away from universal time. -/
def Answerable (now : DateTime) (s : String) : Prop :=
  ∃ moment, (Value.text s).lenientMoment? now = .ok moment ∧
    ∀ t ∈ moment, ∀ offset ∈ t.offset, offset.natAbs < 86400

theorem strictMoment?_of_noRepeats {format : String} (h : DateFormat.NoRepeats format) (v : Value) :
    ∃ moment, v.strictMoment? format = .ok moment := by
  unfold Value.strictMoment?
  split
  · exact ⟨_, rfl⟩
  · rename_i s _
    exact ⟨_, DateFormat.parse_of_noRepeats h s⟩
  · exact ⟨none, rfl⟩

theorem DateTime.isLawful_iff {t : DateTime} :
    t.isLawful = true ↔ ∀ offset ∈ t.offset, offset.natAbs < 86400 := by
  unfold isLawful
  cases t.offset with
  | none => simp
  | some o =>
    simp only [Option.all_some, lawfulOffset, Bool.and_eq_true, decide_eq_true_eq,
      Option.mem_some_iff, forall_eq']
    omega

namespace Rule

theorem date_judges {name : String} {param : Option String} {context : Context} {rule : Rule}
    (hrule : date.prepare name param context = .ok rule)
    (h : DateFormat.NoRepeats (dateFormat param context)) (field : String) (v : Value)
    (entries : List (Value × Value)) :
    ∃ verdict, rule.judge field v (.mapping entries) = .ok verdict := by
  cases hrule
  obtain ⟨moment, hmoment⟩ := strictMoment?_of_noRepeats h v
  by_cases hnull : v.isNull
  · exact ⟨.passed, by simp [hnull]⟩
  · exact ⟨_, by simp [hnull, hmoment, bind, Except.bind]; rfl⟩

theorem ofSide_judge_isOk_iff {title side : String} {order : Ordering} {name : String}
    {param : Option String} {context : Context} {rule : Rule}
    (hrule : (ofSide title order side).prepare name param context = .ok rule) (field : String)
    (v record : Value) :
    (∃ verdict, rule.judge field v record = .ok verdict) ↔
      ∃ moment, v.lenientMoment? context.now = .ok moment ∧
        ∀ t ∈ moment, ∀ offset ∈ t.offset, offset.natAbs < 86400 := by
  cases hrule
  cases hmoment : v.lenientMoment? context.now with
  | error fault => simp [hmoment, bind, Except.bind]
  | ok moment =>
    cases moment with
    | none => simp [hmoment, bind, Except.bind]
    | some t =>
      simp only [Except.ok.injEq, exists_eq_left', Option.mem_some_iff, forall_eq',
        ← DateTime.isLawful_iff]
      by_cases hlawful : t.isLawful <;>
        simp [hmoment, hlawful, bind, Except.bind, DateTime.compareTo]

end Rule

/-! ## Records -/

namespace Checker

def AllMade (c : Checker) (specs : List (String × String)) : Prop :=
  ∀ fs ∈ specs, ∀ clause ∈ Clause.readAll fs.2, ∀ known, c.registry.get? clause.name = some known →
    ∃ rule, known.rules.prepare known.name clause.param c.context = .ok rule

def NoRepeats (c : Checker) (specs : List (String × String)) : Prop :=
  ∀ fs ∈ specs, ∀ clause ∈ Clause.readAll fs.2, clause.name = "date" →
    DateFormat.NoRepeats (Rule.dateFormat clause.param c.context)

def ComparesText (c : Checker) (entries : List (Value × Value)) (fs : String × String)
    (s : String) :
    Prop :=
  Value.entry entries fs.1 = .text s ∧
    ∃ clause, (clause.name = "future" ∨ clause.name = "past") ∧
      FieldRun.Reached c.registry c.context fs.1 (.text s) (.mapping entries)
        (Clause.readAll fs.2) clause

end Checker

namespace FieldRun

variable {context : Context} {field : String} {value : Value} {entries : List (Value × Value)}

theorem Reached.mem {r : Registry} {record : Value} {cs : List Clause} {c : Clause}
    (h : Reached r context field value record cs c) : c ∈ cs := by
  obtain ⟨before, after, rfl, -⟩ := h
  simp

theorem halts_iff_of_prepare {r : Registry} {c : Clause} {known : NamedClass} {rule : Rule}
    {record : Value} (hget : r.get? c.name = some known)
    (hmade : known.rules.prepare known.name c.param context = .ok rule) :
    (∃ fault, Halts r context field value record c fault) ↔
      ¬∃ verdict, rule.judge field value record = .ok verdict := by
  unfold Halts
  rw [said_of_prepare hget hmade]
  cases rule.judge field value record <;> simp

theorem halts_builtin_iff {c : Clause}
    (hmade : ∀ known, Registry.builtin.get? c.name = some known →
      ∃ rule, known.rules.prepare known.name c.param context = .ok rule)
    (hdate : c.name = "date" → DateFormat.NoRepeats (Rule.dateFormat c.param context)) :
    (∃ fault, Halts .builtin context field value (.mapping entries) c fault) ↔
      (c.name = "future" ∨ c.name = "past") ∧
        ¬∃ moment, value.lenientMoment? context.now = .ok moment ∧
          ∀ t ∈ moment, ∀ offset ∈ t.offset, offset.natAbs < 86400 := by
  cases hget : Registry.builtin.get? c.name with
  | none =>
    have hname : ¬(c.name = "future" ∨ c.name = "past") := by
      rintro (hname | hname) <;> rw [hname] at hget <;> cases hget
    simp [Halts, said, hget, hname]
  | some known =>
    obtain ⟨rule, hrule⟩ := hmade known hget
    obtain ⟨-, hmem⟩ := Registry.mem_builtinRules_of_get? hget
    rw [halts_iff_of_prepare hget hrule]
    by_cases hfuture : c.name = "future"
    · rw [hfuture] at hget
      cases hget
      simp only [hfuture, true_or, true_and]
      exact not_congr (Rule.ofSide_judge_isOk_iff hrule field value _)
    by_cases hpast : c.name = "past"
    · rw [hpast] at hget
      cases hget
      simp only [hpast, or_true, true_and]
      exact not_congr (Rule.ofSide_judge_isOk_iff hrule field value _)
    have hjudge : ∃ verdict, rule.judge field value (.mapping entries) = .ok verdict := by
      by_cases hd : c.name = "date"
      · have hformat := hdate hd
        rw [hd] at hget
        cases hget
        exact Rule.date_judges hrule hformat field value entries
      · exact Rule.judgesAll_of_mem hmem hd hfuture hpast _ _ _ _ hrule _ _ _
    simp [hjudge, hfuture, hpast]

end FieldRun

def LawfulEntries (entries : List (Value × Value)) : Prop :=
  ∀ e ∈ entries, ∀ t, e.2 = .moment t → t.isLawful = true

theorem Value.eq_null_or_mem_of_entry (entries : List (Value × Value)) (name : String) :
    entry entries name = .null ∨ ∃ e ∈ entries, e.2 = entry entries name := by
  unfold entry
  cases hfind : entries.find? fun e => e.1.same (.text name) with
  | none => exact .inl rfl
  | some e => exact .inr ⟨e, List.mem_of_find?_eq_some hfind, rfl⟩

theorem lenientMoment?_of_entry {now : DateTime} {entries : List (Value × Value)} {name : String}
    (hlawful : LawfulEntries entries) (hnot : ∀ s, Value.entry entries name ≠ .text s) :
    ∃ moment, (Value.entry entries name).lenientMoment? now = .ok moment ∧
      ∀ t ∈ moment, ∀ offset ∈ t.offset, offset.natAbs < 86400 := by
  cases hv : Value.entry entries name with
  | text s => exact absurd hv (hnot s)
  | date d => exact ⟨some (.ofDate d), rfl, by simp [DateTime.ofDate]⟩
  | moment t =>
    obtain hnull | ⟨e, he, heq⟩ := Value.eq_null_or_mem_of_entry entries name
    · rw [hv] at hnull
      cases hnull
    · have ht := DateTime.isLawful_iff.mp (hlawful e he t (heq.trans hv))
      exact ⟨some t, rfl, by simpa using ht⟩
  | _ => exact ⟨none, rfl, by simp⟩

namespace Checker

variable {c : Checker} {entries : List (Value × Value)} {specs : List (String × String)}

theorem stops_builtin_iff {context : Context} {messages : Messages}
    (hmade : AllMade ⟨.builtin, context, messages⟩ specs)
    (hformat : NoRepeats ⟨.builtin, context, messages⟩ specs)
    (hlawful : LawfulEntries entries) {fs : String × String} (hfs : fs ∈ specs) :
    Stops ⟨.builtin, context, messages⟩ entries fs ↔
      ∃ s, ComparesText ⟨.builtin, context, messages⟩ entries fs s ∧ ¬Answerable context.now s := by
  have hhalts (clause : Clause) (hclause : clause ∈ Clause.readAll fs.2) :
      (∃ fault, FieldRun.Halts .builtin context fs.1 (Value.entry entries fs.1) (.mapping entries)
        clause fault) ↔ _ :=
    FieldRun.halts_builtin_iff (hmade fs hfs clause hclause) (hformat fs hfs clause hclause)
  constructor
  · rintro ⟨fault, -, clause, hreach, hhalt⟩
    obtain ⟨hname, hno⟩ := (hhalts clause hreach.mem).mp ⟨fault, hhalt⟩
    by_cases htext : ∃ s, Value.entry entries fs.1 = .text s
    · obtain ⟨s, hs⟩ := htext
      rw [hs] at hno hreach
      exact ⟨s, ⟨hs, clause, hname, hreach⟩, hno⟩
    · exact absurd (lenientMoment?_of_entry hlawful fun s hs => htext ⟨s, hs⟩) hno
  · rintro ⟨s, ⟨hs, clause, hname, hreach⟩, hno⟩
    rw [← hs] at hreach
    obtain ⟨fault, hhalt⟩ :=
      (hhalts clause hreach.mem).mpr ⟨hname, by rwa [hs]⟩
    refine ⟨fault, ?_, clause, hreach, hhalt⟩
    rintro ⟨hnull, -⟩
    rw [hs] at hnull
    cases hnull

end Checker

namespace Engine

/-- Whatever the user has typed, a check with the rules that are there from the start comes to an
end, unless a text is compared with the clock that cannot be placed before or after it. -/
theorem errors_isOk_iff_answerable (e : Engine) (now : DateTime) (call : Messages)
    (entries : List (Value × Value)) (specs : List (String × String))
    (he : e.messages.Textual) (hcall : call.Textual)
    (hmade : (e.checker .builtin now call).AllMade specs)
    (hformat : (e.checker .builtin now call).NoRepeats specs) (hlawful : LawfulEntries entries) :
    (∃ errs, e.errors .builtin now call (.mapping entries) (.ofTexts specs) = .ok errs) ↔
      ∀ fs ∈ specs, ∀ s, (e.checker .builtin now call).ComparesText entries fs s →
        Answerable now s := by
  have hm : (e.checker .builtin now call).messages.Textual := he.overlay hcall
  rw [errors, Checker.errors_isOk_iff hm]
  refine forall₂_congr fun fs hfs => ?_
  have hstops := Checker.stops_builtin_iff hmade hformat hlawful hfs
  simp only [checker] at hstops ⊢
  rw [hstops]
  push Not
  rfl

theorem errors_isOk_iff_answerable_of_lawful_offset :
    Messages.Textual [] ∧ LawfulEntries [(.text "from", .text "2020-01-01T10:00+23:00")] ∧
    ∀ fs ∈ [("from", "nullable|min:3|date:YYYY-MM-DD[T]HH:mm[+23:00]|past")], ∀ s,
      (checker ⟨[], ⟨"", none⟩, [], "YYYY"⟩ .builtin
        (.ofDate ⟨2024, 6, 15, by decide, by decide, by decide, by decide⟩) []).ComparesText
        [(.text "from", .text "2020-01-01T10:00+23:00")] fs s →
      Answerable (.ofDate ⟨2024, 6, 15, by decide, by decide, by decide, by decide⟩) s := by
  have hm : Messages.Textual [] := by simp [Messages.Textual]
  have hlawful : LawfulEntries [(.text "from", .text "2020-01-01T10:00+23:00")] := by
    simp [LawfulEntries]
  have hread : Clause.readAll "nullable|min:3|date:YYYY-MM-DD[T]HH:mm[+23:00]|past" =
      [⟨"nullable", none⟩, ⟨"min", some "3"⟩, ⟨"date", some "YYYY-MM-DD[T]HH:mm[+23:00]"⟩,
        ⟨"past", none⟩] := by
    decide +kernel
  refine ⟨hm, hlawful, ?_⟩
  refine (errors_isOk_iff_answerable ⟨[], ⟨"", none⟩, [], "YYYY"⟩ _ [] _ _ hm hm ?_ ?_
    hlawful).mp ⟨[], by decide +kernel⟩
  · intro fs hfs clause hclause known hknown
    cases List.mem_singleton.mp hfs
    rw [hread] at hclause
    simp only [List.mem_cons, List.not_mem_nil, or_false] at hclause
    rcases hclause with rfl | rfl | rfl | rfl <;> cases hknown <;> exact ⟨_, rfl⟩
  · intro fs hfs clause hclause hname
    cases List.mem_singleton.mp hfs
    rw [hread] at hclause
    simp only [List.mem_cons, List.not_mem_nil, or_false] at hclause
    rcases hclause with rfl | rfl | rfl | rfl <;> decide +kernel

/-- An offset of twenty-five hours is read, and then cannot be compared. -/
theorem errors_of_offset_above_day :
    Messages.Textual [] ∧ LawfulEntries [(.text "f", .text "2020-01-01T00:00:00+25:00")] ∧
    (checker ⟨[], ⟨"", none⟩, [], "YYYY"⟩ .builtin
      (.ofDate ⟨2024, 6, 15, by decide, by decide, by decide, by decide⟩) []).AllMade
      [("f", "future")] ∧
    (checker ⟨[], ⟨"", none⟩, [], "YYYY"⟩ .builtin
      (.ofDate ⟨2024, 6, 15, by decide, by decide, by decide, by decide⟩) []).NoRepeats
      [("f", "future")] ∧
    errors ⟨[], ⟨"", none⟩, [], "YYYY"⟩ .builtin
      (.ofDate ⟨2024, 6, 15, by decide, by decide, by decide, by decide⟩) []
      (.mapping [(.text "f", .text "2020-01-01T00:00:00+25:00")]) (.ofTexts [("f", "future")]) =
      .error .offsetTooLarge := by
  have hread : Clause.readAll "future" = [⟨"future", none⟩] := by decide +kernel
  refine ⟨by simp [Messages.Textual], by simp [LawfulEntries], ?_, ?_, by decide +kernel⟩
  · intro fs hfs clause hclause known hknown
    cases List.mem_singleton.mp hfs
    rw [hread] at hclause
    cases List.mem_singleton.mp hclause
    cases hknown
    exact ⟨_, rfl⟩
  · intro fs hfs clause hclause hname
    cases List.mem_singleton.mp hfs
    rw [hread] at hclause
    cases List.mem_singleton.mp hclause
    exact absurd hname (by decide)

end Engine

end FormRules
