import FormRules.Proofs.Calendar.Iso
import FormRules.Proofs.DateFormat.FixedWidth
import FormRules.Proofs.Rule.Dated
import FormRules.Proofs.Rule.Side

namespace FormRules

namespace DateFormat

def isoFormat : String := "YYYY-MM-DD"

theorem fixedWidth_isoFormat : FixedWidth isoFormat := by decide

theorem items_isoFormat : items (pieces isoFormat) =
    [.token ⟨['Y', 'Y', 'Y', 'Y'], .digits 4, .year⟩, .char '-',
      .token ⟨['M', 'M'], .digits 2, .month⟩, .char '-',
      .token ⟨['D', 'D'], .digits 2, .day⟩] := by
  decide

theorem isAsciiDigit_of_isAscii {c : Char} (hc : Iso.isAscii c = true)
    (h : Text.isDigit c = true) : Text.isAsciiDigit c = true := by
  have hfirst : ∀ z ∈ Text.zeros, z < 128 → z = 48 := by decide
  have hlt : c.toNat < 128 := of_decide_eq_true hc
  rw [Text.isDigit, Text.digit?, Option.isSome_map, List.find?_isSome] at h
  obtain ⟨z, hz, hwithin⟩ := h
  simp only [Bool.and_eq_true, decide_eq_true_eq] at hwithin
  obtain rfl := hfirst z hz (by omega)
  exact Text.isAsciiDigit_iff.mpr hwithin

theorem eq_isoText_of_parse {s : String} (hs : ∀ c ∈ s.toList, Iso.isAscii c = true) {t : DateTime}
    (h : parse isoFormat s = .ok (some t)) : t = .ofDate t.date ∧ s = t.date.isoText := by
  obtain ⟨hcompletes, hrendering⟩ := rendering_of_parse fixedWidth_isoFormat
    (fun c hc => isAsciiDigit_of_isAscii (hs c hc)) h
  rw [items_isoFormat] at hrendering
  constructor
  · have hdefault (k : Component) (hk : k ∉ [Component.year, .month, .day]) : t.get k = k.default :=
      hcompletes.default k hk
    obtain ⟨d, ⟨hour, minute, second, micro, _, _, _, _⟩, offset⟩ := t
    obtain rfl : offset = none := hcompletes.offset
    obtain rfl : hour = 0 := hdefault .hour (by decide)
    obtain rfl : minute = 0 := hdefault .minute (by decide)
    obtain rfl : second = 0 := hdefault .second (by decide)
    obtain rfl : micro = 0 := hdefault .micro (by decide)
    rfl
  · rw [← String.toList_inj, Date.isoText, String.toList_ofList, Date.chars]
    generalize s.toList = w at hrendering
    cases hrendering with
    | token _ hyear hrest =>
    cases hrest with
    | char _ hrest =>
    cases hrest with
    | token _ hmonth hrest =>
    cases hrest with
    | char _ hrest =>
    cases hrest with
    | token _ hday hrest =>
    cases hrest with
    | nil =>
    obtain rfl := hyear
    obtain rfl := hmonth
    obtain rfl := hday
    simp only [DateTime.get, List.append_assoc, List.cons_append, List.append_nil]

end DateFormat

namespace Value

theorem lenientMoment?_of_iso {s : List Char} {c : Char} (hc : c ∈ s)
    (hdigit : Text.isDigit c = true)
    {t : DateTime} (h : Iso.parse? s = some t) (now : DateTime) :
    (Value.text (String.ofList s)).lenientMoment? now = .ok (some t) := by
  have hblank : ¬Text.isBlankText s = true := by
    intro hall
    exact DateFormat.not_isDigit_of_isBlank (List.all_eq_true.mp hall c hc) hdigit
  simp only [lenientMoment?, moment?, String.toList_ofList, if_neg hblank, h]

theorem exists_digit_mem_chars (d : Date) : ∃ c ∈ d.chars, Text.isDigit c = true := by
  have hlength : (Text.padded 4 d.year).length = 4 :=
    Text.length_padded (by decide) (Nat.lt_succ_of_le d.year_le)
  obtain ⟨c, r, hr⟩ := List.exists_cons_of_length_pos (by omega : 0 < (Text.padded 4 d.year).length)
  have hc : c ∈ Text.padded 4 d.year := by simp [hr]
  refine ⟨c, by simp [Date.chars, hc], ?_⟩
  rw [Text.isDigit, Text.digit?_of_isAsciiDigit (Text.isAsciiDigit_of_mem_padded hc)]
  rfl

theorem lenientMoment?_date_isoText (d : Date) (now : DateTime) :
    (Value.text d.isoText).lenientMoment? now = .ok (some (.ofDate d)) := by
  obtain ⟨c, hc, hdigit⟩ := exists_digit_mem_chars d
  exact lenientMoment?_of_iso hc hdigit (Iso.parse?_date d) now

theorem lenientMoment?_isoText {t : DateTime} (ht : t.HasMinuteOffset) (now : DateTime) :
    (Value.text t.isoText).lenientMoment? now = .ok (some t) := by
  obtain ⟨c, hc, hdigit⟩ := exists_digit_mem_chars t.date
  refine lenientMoment?_of_iso (c := c) ?_ hdigit (Iso.parse?_chars (by decide) ht) now
  rw [DateTime.chars_eq]
  exact List.mem_append_left _ hc

end Value

namespace FieldRun

open DateFormat

variable {now t : DateTime} {format field name title word : String} {v w record : Value}
  {param : Option String} {side : Ordering}

theorem said_congr (hname : name = "future" ∨ name = "past")
    (h : v.lenientMoment? now = w.lenientMoment? now) :
    said .builtin ⟨now, format⟩ field v record ⟨name, param⟩ =
      said .builtin ⟨now, format⟩ field w record ⟨name, param⟩ := by
  rcases hname with rfl | rfl
  · rw [said_ofSide get?_future, said_ofSide get?_future, h]
  · rw [said_ofSide get?_past, said_ofSide get?_past, h]

theorem not_fails_of_placed
    (hget : Registry.builtin.get? name = some ⟨Rule.ofSide title side word, name⟩)
    (hword : " must be a " ++ word ++ " date" ≠ " is not a valid date") (hv : v.Placed now t) :
    ¬Fails .builtin ⟨now, format⟩ field v record ⟨name, param⟩
      (field ++ " is not a valid date") := by
  rw [Fails, said_ofSide_of_placed hget hv (DateTime.compareTo_eq hv.2), Verdict.passedIf]
  intro hfails
  split at hfails
  · cases hfails
  · simp only [Option.some.injEq, Except.ok.injEq, Verdict.failed.injEq, String.append_assoc,
      String.append_right_inj] at hfails
    exact hword (by simpa only [String.append_assoc] using hfails)

theorem passes_date_text_iff {s : String} (hparam : param = some isoFormat) :
    Passes .builtin ⟨now, format⟩ field (.text s) record ⟨"date", param⟩ ↔
      ∃ t, (Value.text s).strictMoment? isoFormat = .ok (some t) := by
  have hformat : Rule.dateFormat param ⟨now, format⟩ = isoFormat := by rw [hparam]; rfl
  obtain ⟨moment, hmoment⟩ : ∃ moment, (Value.text s).strictMoment? isoFormat = .ok moment :=
    strictMoment?_of_noRepeats fixedWidth_isoFormat.noRepeats _
  rw [Passes, said_date, hformat, hmoment]
  cases moment <;> simp [Value.isNull, bind, Except.bind, Verdict.passedIf]

/-- A moment with an offset of whole minutes, or none, is read back from its ISO text as it is, a
date as its midnight, and the rules that compare with the clock say the same of the text as of the
moment or the date. An ASCII text that the format of ISO dates reads is the text of a day: read
leniently it is the same day, and of one that the rule of that format lets pass the other rules do
not say that it is no date. -/
theorem iso_text_same_moment (now : DateTime) (format field : String) (record : Value)
    (param : Option String) :
    let alike (v w : Value) := ∀ name, name = "future" ∨ name = "past" →
      said .builtin ⟨now, format⟩ field v record ⟨name, param⟩ =
        said .builtin ⟨now, format⟩ field w record ⟨name, param⟩
    (∀ t : DateTime, t.HasMinuteOffset →
      (Value.text t.isoText).lenientMoment? now = .ok (some t) ∧
      alike (.text t.isoText) (.moment t)) ∧
    (∀ d : Date, (Value.text d.isoText).lenientMoment? now = .ok (some (.ofDate d)) ∧
      alike (.text d.isoText) (.date d)) ∧
    ∀ s : String, (∀ c ∈ s.toList, Iso.isAscii c = true) →
      (∀ t, (Value.text s).strictMoment? "YYYY-MM-DD" = .ok (some t) →
        (Value.text s).lenientMoment? now = .ok (some t)) ∧
      (Passes .builtin ⟨now, format⟩ field (.text s) record ⟨"date", some "YYYY-MM-DD"⟩ →
        ∃ d : Date, (Value.text s).strictMoment? "YYYY-MM-DD" = .ok (some (.ofDate d)) ∧
          (Value.text s).lenientMoment? now = .ok (some (.ofDate d)) ∧
          alike (.text s) (.date d) ∧
          ∀ name, name = "future" ∨ name = "past" →
            ¬Fails .builtin ⟨now, format⟩ field (.text s) record ⟨name, param⟩
              (field ++ " is not a valid date")) := by
  intro alike
  have hdate (d : Date) : (Value.text d.isoText).lenientMoment? now = .ok (some (.ofDate d)) ∧
      alike (.text d.isoText) (.date d) := by
    have hmoment := Value.lenientMoment?_date_isoText d now
    exact ⟨hmoment, fun name hname => said_congr hname hmoment⟩
  refine ⟨fun t ht => ?_, hdate, fun s hs => ⟨fun t ht => ?_, fun hpasses => ?_⟩⟩
  · have hmoment := Value.lenientMoment?_isoText ht now
    exact ⟨hmoment, fun name hname => said_congr hname hmoment⟩
  · obtain ⟨hmidnight, htext⟩ := eq_isoText_of_parse hs ht
    rw [htext, (hdate t.date).1, ← hmidnight]
  · obtain ⟨t, ht⟩ := (passes_date_text_iff rfl).mp hpasses
    obtain ⟨hmidnight, htext⟩ := eq_isoText_of_parse hs ht
    obtain ⟨hmoment, halike⟩ := hdate t.date
    rw [hmidnight] at ht
    rw [← htext] at hmoment halike
    refine ⟨t.date, ht, hmoment, halike, fun name hname => ?_⟩
    have hplaced : (Value.text s).Placed now (.ofDate t.date) := ⟨hmoment, nofun⟩
    rcases hname with rfl | rfl
    · exact not_fails_of_placed get?_future (by decide) hplaced
    · exact not_fails_of_placed get?_past (by decide) hplaced

/-- The first microsecond of the calendar far in the west, and a leap day. -/
theorem iso_text_same_moment_of_first_day :
    let now : DateTime := .ofDate ⟨2024, 6, 15, by decide, by decide, by decide, by decide⟩
    let first : DateTime := ⟨⟨1, 1, 1, by decide, by decide, by decide, by decide⟩,
      ⟨0, 0, 0, 1, by decide, by decide, by decide, by decide⟩, some (-86340)⟩
    let leap : Value := .text "2024-02-29"
    first.isoText = "0001-01-01T00:00:00.000001-23:59" ∧
      (Value.text "0001-01-01T00:00:00.000001-23:59").lenientMoment? now = .ok (some first) ∧
      (∃ t, leap.strictMoment? "YYYY-MM-DD" = .ok (some t) ∧
        leap.lenientMoment? now = .ok (some t)) ∧
      ¬Fails .builtin ⟨now, "DD.MM.YYYY"⟩ "f" leap (.mapping []) ⟨"past", none⟩
        ("f" ++ " is not a valid date") := by
  intro now first leap
  obtain ⟨hmoments, -, hstrict⟩ := iso_text_same_moment now "DD.MM.YYYY" "f" (.mapping []) none
  have htext : first.isoText = "0001-01-01T00:00:00.000001-23:59" := by decide +kernel
  have hascii : "2024-02-29".toList.all Iso.isAscii = true := by decide
  obtain ⟨hread, hsaid⟩ := hstrict "2024-02-29" (List.all_eq_true.mp hascii)
  have hleap : leap.strictMoment? "YYYY-MM-DD" =
      .ok (some (.ofDate ⟨2024, 2, 29, by decide, by decide, by decide, by decide⟩)) := by
    decide +kernel
  refine ⟨htext, ?_, ⟨_, hleap, hread _ hleap⟩, ?_⟩
  · rw [← htext]
    refine (hmoments first ?_).1
    intro offset hoffset
    obtain rfl := Option.mem_some_iff.mp hoffset
    decide
  · obtain ⟨-, -, -, -, hnot⟩ := hsaid ((passes_date_text_iff rfl).mpr ⟨_, hleap⟩)
    exact hnot "past" (.inr rfl)

end FieldRun

end FormRules
