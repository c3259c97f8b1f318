import FormRules.DateFormat.Reading

namespace FormRules.DateFormat

def NoRepeats (format : String) : Prop := (directives (elements (pieces format))).Nodup

instance (format : String) : Decidable (NoRepeats format) :=
  inferInstanceAs (Decidable (List.Nodup _))

theorem parse_of_noRepeats {format : String} (h : NoRepeats format) (s : String) :
    parse format s =
      .ok (if fits (pieces format) s.toList then read? (elements (pieces format)) s.toList
        else none) := by
  unfold NoRepeats at h
  by_cases hfits : fits (pieces format) s.toList <;> simp [parse, hfits, h]

inductive Item
  | char (c : Char)
  | token (t : Token)
  deriving DecidableEq

def Piece.items : Piece → List Item
  | .literal c => [.char c]
  | .bracketed t => t.map .char
  | .token t => [.token t]

def items (ps : List Piece) : List Item := ps.flatMap Piece.items

def Item.element : Item → Element
  | .char c => .char c
  | .token t => .field t.directive

theorem elements_eq (ps : List Piece) : elements ps = (items ps).map Item.element := by
  induction ps with
  | nil => rfl
  | cons p ps ih =>
    simp only [elements, items, List.flatMap_cons, List.map_append] at ih ⊢
    rw [ih]
    cases p <;> simp [Piece.elements, Piece.items, Item.element]

def Tabled (is : List Item) : Prop := ∀ t, .token t ∈ is → t ∈ tokens

theorem tabled_append {is js : List Item} : Tabled (is ++ js) ↔ Tabled is ∧ Tabled js := by
  simp [Tabled, or_imp, forall_and]

theorem tabled_cons {i : Item} {is : List Item} :
    Tabled (i :: is) ↔ Tabled [i] ∧ Tabled is := @tabled_append [i] is

theorem mem_tokens_of_pieceAt {c : Char} {s : List Char} {t : Token}
    (h : pieceAt c s = .token t) : t ∈ tokens := by
  unfold pieceAt at h
  split at h
  · simp at h
  · split at h
    · next u hu =>
        obtain rfl : u = t := by simpa using h
        exact List.mem_of_find?_eq_some hu
    · simp at h

theorem tabled_items (format : String) : Tabled (items (pieces format)) := by
  have hfrom : ∀ skip (s : List Char), ∀ t, .token t ∈ piecesFrom skip s → t ∈ tokens := by
    intro skip s
    induction s generalizing skip with
    | nil => simp [piecesFrom]
    | cons c s ih =>
      cases skip with
      | succ skip => exact ih skip
      | zero =>
        intro t ht
        simp only [piecesFrom, List.mem_cons] at ht
        rcases ht with ht | ht
        · exact mem_tokens_of_pieceAt ht.symm
        · exact ih _ t ht
  intro t ht
  obtain ⟨p, hp, htp⟩ := List.mem_flatMap.mp ht
  cases p with
  | literal c => simp [Piece.items] at htp
  | bracketed u => simp [Piece.items] at htp
  | token u =>
    obtain rfl : t = u := by simpa [Piece.items] using htp
    exact hfrom 0 _ t hp

def Width.Takes : Width → List Char → Prop
  | .digits n, s => s.length = n ∧ ∀ c ∈ s, Text.isDigit c = true
  | .oneOrTwoDigits, s => (s.length = 1 ∨ s.length = 2) ∧ ∀ c ∈ s, Text.isDigit c = true
  | .letters, s => s ≠ [] ∧ ∀ c ∈ s, isAsciiLetter c = true
  | .halfDayMark, s =>
    ∃ a m, s = [a, m] ∧ (Text.asciiLower a = 'a' ∨ Text.asciiLower a = 'p') ∧
      Text.asciiLower m = 'm'

/-- The text is cut into one segment for each item: a literal character stands for itself, and a
token takes a segment of its width. The parts are the segments of the tokens. -/
inductive Cut : List Item → List Char → Parts → Prop
  | nil : Cut [] [] []
  | char {is : List Item} {s : List Char} {parts : Parts} (c : Char) :
      Cut is s parts → Cut (.char c :: is) (c :: s) parts
  | token {is : List Item} {s : List Char} {parts : Parts} (t : Token) {u : List Char} :
      t.width.Takes u → Cut is s parts → Cut (.token t :: is) (u ++ s) ((t.directive, u) :: parts)

namespace Cut

variable {is js : List Item} {s s' : List Char} {parts parts' : Parts}

theorem append (h : Cut is s parts) (h' : Cut js s' parts') :
    Cut (is ++ js) (s ++ s') (parts ++ parts') := by
  induction h with
  | nil => exact h'
  | char c _ ih => exact .char c ih
  | token t hu _ ih => simpa using Cut.token t hu ih

theorem append_inv (h : Cut (is ++ js) s parts) :
    ∃ s₁ s₂ parts₁ parts₂, s = s₁ ++ s₂ ∧ parts = parts₁ ++ parts₂ ∧
      Cut is s₁ parts₁ ∧ Cut js s₂ parts₂ := by
  induction is generalizing s parts with
  | nil => exact ⟨[], s, [], parts, rfl, rfl, .nil, h⟩
  | cons i is ih =>
    cases h with
    | char c h =>
      obtain ⟨s₁, s₂, parts₁, parts₂, rfl, rfl, h₁, h₂⟩ := ih h
      exact ⟨c :: s₁, s₂, parts₁, parts₂, rfl, rfl, .char c h₁, h₂⟩
    | token t hu h =>
      obtain ⟨s₁, s₂, parts₁, parts₂, rfl, rfl, h₁, h₂⟩ := ih h
      exact ⟨_, s₂, _, parts₂, by simp, rfl, .token t hu h₁, h₂⟩

theorem map_fst (h : Cut is s parts) :
    parts.map Prod.fst = directives (is.map Item.element) := by
  induction h with
  | nil => rfl
  | char c _ ih => simpa [directives, Item.element] using ih
  | token t _ _ ih => simpa [directives, Item.element] using ih

theorem exists_token (h : Cut is s parts) {p : Directive × List Char} (hp : p ∈ parts) :
    ∃ t, .token t ∈ is ∧ t.directive = p.1 ∧ t.width.Takes p.2 ∧ ∀ c ∈ p.2, c ∈ s := by
  induction h with
  | nil => cases hp
  | char c _ ih =>
    obtain ⟨t, ht, hd, hu, hs⟩ := ih hp
    exact ⟨t, by simp [ht], hd, hu, fun a ha => by simp [hs a ha]⟩
  | token t hu _ ih =>
    rcases List.mem_cons.mp hp with rfl | hp
    · exact ⟨t, by simp, rfl, hu, fun a ha => by simp [ha]⟩
    · obtain ⟨t', ht', hd, hu', hs⟩ := ih hp
      exact ⟨t', by simp [ht'], hd, hu', fun a ha => by simp [hs a ha]⟩

theorem chars_iff {t : List Char} : Cut (t.map .char ++ is) s parts ↔
    ∃ r, s = t ++ r ∧ Cut is r parts := by
  induction t generalizing s with
  | nil => simp
  | cons c t ih =>
    constructor
    · intro h
      cases h with
      | char _ h =>
        obtain ⟨r, rfl, hr⟩ := ih.mp h
        exact ⟨r, rfl, hr⟩
    · rintro ⟨r, rfl, hr⟩
      exact .char c (ih.mpr ⟨r, rfl, hr⟩)

end Cut

theorem after?_eq_some_iff {p s r : List Char} : Text.after? p s = some r ↔ s = p ++ r := by
  induction p generalizing s with
  | nil => simp [Text.after?, eq_comm]
  | cons a p ih =>
    cases s with
    | nil => simp [Text.after?]
    | cons c s =>
      by_cases hac : a = c
      · simp [Text.after?, hac, ih]
      · have hca : ¬c = a := fun h => hac h.symm
        simp [Text.after?, hac, hca]

theorem digitsNext_iff {n : Nat} {s : List Char} :
    digitsNext n s = true ↔ n ≤ s.length ∧ ∀ c ∈ s.take n, Text.isDigit c = true := by
  simp [digitsNext]

theorem le_length_takeWhile_iff {p : Char → Bool} {n : Nat} {s : List Char} :
    n ≤ (s.takeWhile p).length ↔ n ≤ s.length ∧ ∀ c ∈ s.take n, p c = true := by
  induction s generalizing n with
  | nil => simp
  | cons c s ih =>
    cases n with
    | zero => simp
    | succ n =>
      by_cases hc : p c = true
      · simpa [hc] using ih
      · simp [hc]

theorem mem_runLengths_iff {k n : Nat} :
    n ∈ (List.range k).map (k - ·) ↔ 0 < n ∧ n ≤ k := by
  simp only [List.mem_map, List.mem_range]
  constructor
  · rintro ⟨i, hi, rfl⟩
    omega
  · rintro ⟨hn, hle⟩
    exact ⟨k - n, by omega, by omega⟩

theorem Width.mem_lengths_iff {w : Width} {n : Nat} {s : List Char} :
    n ∈ w.lengths s ↔ n ≤ s.length ∧ w.Takes (s.take n) := by
  cases w with
  | digits k =>
    simp only [Width.lengths, Width.Takes, List.length_take]
    by_cases h : digitsNext k s = true
    · have := digitsNext_iff.mp h
      constructor
      · intro hn
        obtain rfl : n = k := by simpa [h] using hn
        exact ⟨this.1, by omega, this.2⟩
      · rintro ⟨hle, hk, -⟩
        simp only [h, if_true, List.mem_singleton]
        omega
    · simp only [h]
      constructor
      · simp
      · rintro ⟨hle, hk, hall⟩
        obtain rfl : n = k := by omega
        exact absurd (digitsNext_iff.mpr ⟨hle, hall⟩) h
  | oneOrTwoDigits =>
    simp only [Width.lengths, Width.Takes, List.mem_filter, digitsNext_iff, List.length_take]
    constructor
    · rintro ⟨hn, hle, hall⟩
      have : n = 2 ∨ n = 1 := by simpa using hn
      exact ⟨hle, by omega, hall⟩
    · rintro ⟨hle, hn, hall⟩
      have : n = 2 ∨ n = 1 := by omega
      exact ⟨by simpa using this, hle, hall⟩
  | letters =>
    simp only [Width.lengths, mem_runLengths_iff, le_length_takeWhile_iff, Width.Takes]
    constructor
    · rintro ⟨hn, hle, hall⟩
      exact ⟨hle, by simpa using ⟨by omega, fun h => by simp [h] at hle; omega⟩, hall⟩
    · rintro ⟨hle, hne, hall⟩
      exact ⟨Nat.pos_of_ne_zero (by rintro rfl; simp at hne), hle, hall⟩
  | halfDayMark =>
    match s with
    | [] => simp [Width.lengths, Width.Takes]
    | [a] => cases n <;> simp [Width.lengths, Width.Takes]
    | a :: m :: s =>
      simp only [Width.lengths, Width.Takes]
      constructor
      · intro hn
        split at hn
        · next h =>
            obtain rfl : n = 2 := by simpa using hn
            exact ⟨by simp, a, m, by simp, h⟩
        · simp at hn
      · rintro ⟨hle, a', m', heq, hmark⟩
        obtain rfl : n = 2 := by
          have := congrArg List.length heq
          simp only [List.length_take, List.length_cons, List.length_nil] at this hle
          omega
        obtain ⟨rfl, rfl⟩ : a = a' ∧ m = m' := by simpa using heq
        simp [hmark]

theorem fits_iff {ps : List Piece} {s : List Char} :
    fits ps s = true ↔ ∃ parts, Cut (items ps) s parts := by
  induction ps generalizing s with
  | nil =>
    constructor
    · intro h
      obtain rfl : s = [] := by simpa [fits] using h
      exact ⟨[], .nil⟩
    · rintro ⟨parts, h⟩
      cases h
      rfl
  | cons p ps ih =>
    have hlit (t : List Char) :
        ((if (Text.after? t s).isSome then [t.length] else []).any fun n => fits ps (s.drop n)) =
            true ↔
          ∃ parts, Cut (t.map .char ++ items ps) s parts := by
      cases hafter : Text.after? t s with
      | none =>
        simp only [Cut.chars_iff]
        constructor
        · simp
        · rintro ⟨parts, r, hr, -⟩
          rw [after?_eq_some_iff.mpr hr] at hafter
          cases hafter
      | some r =>
        obtain rfl := after?_eq_some_iff.mp hafter
        simp [Cut.chars_iff, ih]
    cases p with
    | literal c => simpa [fits, Piece.lengths, items, Piece.items] using hlit [c]
    | bracketed t => simpa [fits, Piece.lengths, items, Piece.items] using hlit t
    | token t =>
      simp only [fits, Piece.lengths, List.any_eq_true, Width.mem_lengths_iff, ih]
      constructor
      · rintro ⟨n, ⟨-, htakes⟩, parts, h⟩
        refine ⟨(t.directive, s.take n) :: parts, ?_⟩
        have := Cut.token t htakes h
        rwa [List.take_append_drop] at this
      · rintro ⟨parts, h⟩
        cases h with
        | @token _ r parts _ u hu h =>
          refine ⟨u.length, ⟨by simp, by simpa using hu⟩, parts, ?_⟩
          rw [List.drop_left]
          exact h

end FormRules.DateFormat
