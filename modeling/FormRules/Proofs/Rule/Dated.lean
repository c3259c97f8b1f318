import FormRules.Proofs.DateFormat.Sample
import FormRules.Proofs.Verdict

namespace FormRules

namespace DateFormat

def Shaped (format s : String) : Prop := ∃ parts, Cut (items (pieces format)) s.toList parts

theorem parse_eq_error_iff {format s : String} {fault : Fault} :
    parse format s = .error fault ↔
      fault = .repeatedDirective ∧ ¬NoRepeats format ∧ Shaped format s := by
  rw [Shaped, ← fits_iff, NoRepeats, parse]
  by_cases hfits : fits (pieces format) s.toList = true
  · by_cases hrepeats : (directives (elements (pieces format))).Nodup <;>
      simp [hfits, hrepeats, eq_comm]
  · simp [hfits]

theorem exists_cut_sample {is : List Item} (htab : Tabled is) :
    ∃ parts, Cut is (sample is) parts := by
  induction is with
  | nil => exact ⟨[], .nil⟩
  | cons i is ih =>
    obtain ⟨hi, hrest⟩ := tabled_cons.mp htab
    obtain ⟨parts, hcut⟩ := ih hrest
    cases i with
    | char c => exact ⟨parts, .char c hcut⟩
    | token t => exact ⟨_, .token t (width_takes_sample (hi t List.mem_cons_self)) hcut⟩

theorem exists_shaped (format : String) : ∃ s, Shaped format s := by
  obtain ⟨parts, hcut⟩ := exists_cut_sample (tabled_items format)
  refine ⟨String.ofList (sample (items (pieces format))), parts, ?_⟩
  rwa [String.toList_ofList]

end DateFormat

open DateFormat

namespace Value

theorem strictMoment?_eq_error_iff {format : String} {v : Value} {fault : Fault} :
    v.strictMoment? format = .error fault ↔
      fault = .repeatedDirective ∧ ¬NoRepeats format ∧ ∃ s, v = .text s ∧ Shaped format s := by
  cases v with
  | text s =>
    simp only [text.injEq, exists_eq_left']
    exact parse_eq_error_iff
  | _ => simp [strictMoment?, moment?]

theorem strictMoment?_isOk_iff {format : String} :
    (∀ v : Value, ∃ moment, v.strictMoment? format = .ok moment) ↔ NoRepeats format := by
  constructor
  · intro h
    by_contra hrepeats
    obtain ⟨s, hs⟩ := exists_shaped format
    obtain ⟨moment, hmoment⟩ := h (.text s)
    have hfault := strictMoment?_eq_error_iff.mpr ⟨rfl, hrepeats, s, rfl, hs⟩
    rw [hmoment] at hfault
    cases hfault
  · exact strictMoment?_of_noRepeats

end Value

namespace FieldRun

variable {context : Context} {field : String} {v record : Value} {param : Option String}

theorem said_date : said .builtin context field v record ⟨"date", param⟩ =
    some (if v.isNull then .ok .passed
      else do
        let moment ← v.strictMoment? (Rule.dateFormat param context)
        .ok (.passedIf moment.isSome
          (field ++ " must be a valid date with format " ++ Rule.dateFormat param context))) := by
  have hget : Registry.builtin.get? "date" = some ⟨Rule.date, "date"⟩ := rfl
  exact said_of_prepare (c := ⟨"date", param⟩) hget rfl

theorem halts_date_iff {fault : Fault} :
    Halts .builtin context field v record ⟨"date", param⟩ fault ↔
      v.strictMoment? (Rule.dateFormat param context) = .error fault := by
  rw [Halts, said_date, Option.some.injEq]
  split
  · rename_i hnull
    have hmoment : v.strictMoment? (Rule.dateFormat param context) = .ok none := by
      cases v with
      | null => rfl
      | _ => cases hnull
    simp [hmoment]
  · rw [bind_eq_error_iff]
    simp

theorem answers_date_iff :
    (∃ verdict, said .builtin context field v record ⟨"date", param⟩ = some (.ok verdict)) ↔
      ∃ moment, v.strictMoment? (Rule.dateFormat param context) = .ok moment := by
  have hhalts (fault : Fault) : Halts .builtin context field v record ⟨"date", param⟩ fault ↔
      v.strictMoment? (Rule.dateFormat param context) = .error fault := halts_date_iff
  simp only [Halts, said_date, Option.some.injEq] at hhalts ⊢
  generalize v.strictMoment? (Rule.dateFormat param context) = moment at *
  generalize (if v.isNull = true then _ else _ : Except Fault Verdict) = verdict at *
  cases verdict <;> cases moment <;> simp_all

end FieldRun

/-- A strict reading gives an answer for every value, and a rule about dates of the format a
verdict, exactly if the format gives no part of a date twice. Otherwise they end in a fault on the
texts of the shape of the format, of which there are some, and on nothing else. -/
theorem Rule.date_answers_iff_noRepeats (format : String) :
    (∀ v fault, Value.strictMoment? format v = .error fault ↔
      fault = .repeatedDirective ∧ ¬NoRepeats format ∧ ∃ s, v = .text s ∧ Shaped format s) ∧
    ((∀ v : Value, ∃ moment, v.strictMoment? format = .ok moment) ↔ NoRepeats format) ∧
    ∀ context field record param, dateFormat param context = format →
      (∀ v fault, FieldRun.Halts .builtin context field v record ⟨"date", param⟩ fault ↔
        fault = .repeatedDirective ∧ ¬NoRepeats format ∧ ∃ s, v = .text s ∧ Shaped format s) ∧
      ((∀ v, ∃ verdict,
        FieldRun.said .builtin context field v record ⟨"date", param⟩ = some (.ok verdict)) ↔
          NoRepeats format) := by
  refine ⟨fun _ _ => Value.strictMoment?_eq_error_iff, Value.strictMoment?_isOk_iff, ?_⟩
  rintro context field record param rfl
  constructor
  · intro v fault
    rw [FieldRun.halts_date_iff]
    exact Value.strictMoment?_eq_error_iff
  · simp only [FieldRun.answers_date_iff]
    exact Value.strictMoment?_isOk_iff

/-- There is no thirteenth month, so that no date has this text; but the format gives the month
twice. -/
theorem Rule.date_halts_of_two_months :
    let context : Context :=
      ⟨.ofDate ⟨2024, 6, 15, by decide, by decide, by decide, by decide⟩, "YYYY-MM-DD"⟩
    (Value.text "13-13").strictMoment? "MM-MM" = .error .repeatedDirective ∧
      FieldRun.Halts .builtin context "f" (.text "13-13") (.mapping []) ⟨"date", some "MM-MM"⟩
        .repeatedDirective := by
  intro context
  have hfault : (Value.text "13-13").strictMoment? "MM-MM" = .error .repeatedDirective := by decide
  exact ⟨hfault, FieldRun.halts_date_iff.mpr hfault⟩

end FormRules
