import FormRules.Proofs.DateFormat.Cut
import FormRules.Proofs.Text.Separated

namespace FormRules.DateFormat

/-- A text in brackets begins here. Its own end is the first closing bracket. -/
structure BeginsGroup (t s : List Char) : Prop where
  notMem : ']' ∉ t
  isPrefix : (Piece.bracketed t).source <+: s

/-- A token begins here, and no token that does is longer. -/
structure BeginsToken (t : Token) (s : List Char) : Prop where
  mem : t ∈ tokens
  isPrefix : t.spelling <+: s
  longest : ∀ u ∈ tokens, u.spelling <+: s → u.spelling.length ≤ t.spelling.length

def Piece.Stands : Piece → List Char → Prop
  | .bracketed t, s => BeginsGroup t s
  | .token t, s => BeginsToken t s
  | .literal c, s => [c] <+: s ∧ (∀ t, ¬BeginsGroup t s) ∧ ∀ t ∈ tokens, ¬t.spelling <+: s

def source (ps : List Piece) : List Char := ps.flatMap Piece.source

def Placed : List Piece → Prop
  | [] => True
  | p :: ps => p.Stands (source (p :: ps)) ∧ Placed ps

/-! ## One piece -/

theorem spelling_ne_nil : ∀ t ∈ tokens, t.spelling ≠ [] := by decide

theorem bracket_notMem_spelling : ∀ t ∈ tokens, '[' ∉ t.spelling := by decide

theorem spelling_inj : ∀ t ∈ tokens, ∀ u ∈ tokens, t.spelling = u.spelling → t = u := by decide

theorem pairwise_tokens : tokens.Pairwise fun t u => u.spelling.length ≤ t.spelling.length := by
  decide

theorem isSome_after?_iff {p s : List Char} : (Text.after? p s).isSome = true ↔ p <+: s := by
  rw [Option.isSome_iff_exists]
  exact exists_congr fun r => after?_eq_some_iff.trans eq_comm

theorem bracketGroup?_eq_some_iff {s t : List Char} :
    bracketGroup? s = some t ↔ BeginsGroup t s := by
  constructor
  · intro h
    unfold bracketGroup? at h
    split at h
    · obtain ⟨⟨l, r⟩, hcut, rfl⟩ := Option.map_eq_some_iff.mp h
      obtain ⟨rfl, hnotMem⟩ := Text.eq_append_of_cut hcut
      exact ⟨hnotMem, r, by simp [Piece.source]⟩
    · cases h
  · rintro ⟨hnotMem, r, rfl⟩
    simp [Piece.source, bracketGroup?, Text.cut_append_cons hnotMem]

theorem BeginsToken.unique {t u : Token} {s : List Char} (ht : BeginsToken t s)
    (hu : BeginsToken u s) : t = u := by
  have hlength : t.spelling.length = u.spelling.length :=
    le_antisymm (hu.longest t ht.mem ht.isPrefix) (ht.longest u hu.mem hu.isPrefix)
  have hbegins := List.prefix_of_prefix_length_le ht.isPrefix hu.isPrefix hlength.le
  exact spelling_inj t ht.mem u hu.mem (hbegins.eq_of_length hlength)

theorem token?_eq_some_iff {s : List Char} {t : Token} : token? s = some t ↔ BeginsToken t s := by
  have hsound {t : Token} (h : token? s = some t) : BeginsToken t s := by
    obtain ⟨hafter, shorter, longer, htokens, hlonger⟩ := List.find?_eq_some_iff_append.mp h
    have hpairwise := pairwise_tokens
    rw [htokens, List.pairwise_append] at hpairwise
    refine ⟨List.mem_of_find?_eq_some h, isSome_after?_iff.mp hafter, fun u hu hbegins => ?_⟩
    rw [htokens, List.mem_append, List.mem_cons] at hu
    rcases hu with hu | rfl | hu
    · have hnot := hlonger u hu
      rw [isSome_after?_iff.mpr hbegins] at hnot
      cases hnot
    · exact le_rfl
    · exact List.rel_of_pairwise_cons hpairwise.2.1 hu
  refine ⟨hsound, fun h => ?_⟩
  cases hfound : token? s with
  | none =>
    have hnot := List.find?_eq_none.mp hfound t h.mem
    exact absurd (isSome_after?_iff.mpr h.isPrefix) hnot
  | some u => rw [(hsound hfound).unique h]

theorem token?_eq_none_iff {s : List Char} :
    token? s = none ↔ ∀ t ∈ tokens, ¬t.spelling <+: s := by
  simp only [token?, List.find?_eq_none, isSome_after?_iff]

theorem bracketGroup?_eq_none_iff {s : List Char} :
    bracketGroup? s = none ↔ ∀ t, ¬BeginsGroup t s := by
  simp only [← bracketGroup?_eq_some_iff, Option.eq_none_iff_forall_ne_some]

theorem BeginsToken.not_beginsGroup {t : Token} {s : List Char} (ht : BeginsToken t s)
    (u : List Char) : ¬BeginsGroup u s := by
  rintro ⟨-, r, rfl⟩
  obtain ⟨c, w, hspelling⟩ := List.exists_cons_of_ne_nil (spelling_ne_nil t ht.mem)
  have hbegins := ht.isPrefix
  rw [hspelling, Piece.source, List.cons_append, List.cons_append,
    List.cons_prefix_cons] at hbegins
  apply bracket_notMem_spelling t ht.mem
  rw [hspelling, hbegins.1]
  exact List.mem_cons_self

theorem pieceAt_eq_iff {c : Char} {s : List Char} {p : Piece} :
    pieceAt c s = p ↔ p.Stands (c :: s) := by
  unfold pieceAt
  cases hgroup : bracketGroup? (c :: s) with
  | some t =>
    have ht := bracketGroup?_eq_some_iff.mp hgroup
    cases p with
    | bracketed u =>
      rw [Piece.Stands, ← bracketGroup?_eq_some_iff, hgroup]
      simp
    | token u =>
      refine ⟨nofun, fun hu => absurd ht (BeginsToken.not_beginsGroup hu t)⟩
    | literal d => exact ⟨nofun, fun hd => absurd ht (hd.2.1 t)⟩
  | none =>
    have hno := bracketGroup?_eq_none_iff.mp hgroup
    cases htoken : token? (c :: s) with
    | some t =>
      have ht := token?_eq_some_iff.mp htoken
      cases p with
      | bracketed u => exact ⟨nofun, fun hu => absurd hu (hno u)⟩
      | token u =>
        rw [Piece.Stands, ← token?_eq_some_iff, htoken]
        simp
      | literal d => exact ⟨nofun, fun hd => absurd ht.isPrefix (hd.2.2 t ht.mem)⟩
    | none =>
      have hnone := token?_eq_none_iff.mp htoken
      cases p with
      | bracketed u => exact ⟨nofun, fun hu => absurd hu (hno u)⟩
      | token u => exact ⟨nofun, fun hu => absurd hu.isPrefix (hnone u hu.mem)⟩
      | literal d =>
        have hhead : [d] <+: c :: s ↔ c = d := by simp [eq_comm]
        simp only [Piece.Stands, hhead, Piece.literal.injEq]
        exact ⟨fun h => ⟨h, hno, hnone⟩, And.left⟩

namespace Piece.Stands

variable {p : Piece} {s : List Char}

theorem source_isPrefix (h : p.Stands s) : p.source <+: s := by
  cases p with
  | literal c => exact h.1
  | bracketed t => exact h.isPrefix
  | token t => exact h.isPrefix

theorem source_ne_nil (h : p.Stands s) : p.source ≠ [] := by
  cases p with
  | literal c => simp [source]
  | bracketed t => simp [source]
  | token t => exact spelling_ne_nil t h.mem

end Piece.Stands

/-! ## All pieces -/

@[simp] theorem source_nil : source [] = [] := rfl

@[simp] theorem source_cons (p : Piece) (ps : List Piece) :
    source (p :: ps) = p.source ++ source ps := rfl

theorem piecesFrom_skip (k : Nat) (s : List Char) : piecesFrom k s = piecesFrom 0 (s.drop k) := by
  induction s generalizing k with
  | nil => simp [piecesFrom]
  | cons c s ih =>
    cases k with
    | zero => rfl
    | succ k => exact ih k

theorem piecesFrom_cons {c : Char} {s r : List Char} (h : c :: s = (pieceAt c s).source ++ r) :
    piecesFrom 0 (c :: s) = pieceAt c s :: piecesFrom 0 r := by
  have hne := (pieceAt_eq_iff.mp (rfl : pieceAt c s = _)).source_ne_nil
  obtain ⟨d, u, hsource⟩ := List.exists_cons_of_ne_nil hne
  rw [piecesFrom, piecesFrom_skip]
  rw [hsource, List.cons_append, List.cons.injEq] at h
  rw [hsource, h.2, List.length_cons, Nat.add_sub_cancel, List.drop_left]

theorem piecesFrom_source {ps : List Piece} (h : Placed ps) : piecesFrom 0 (source ps) = ps := by
  induction ps with
  | nil => rfl
  | cons p ps ih =>
    obtain ⟨hstands, hplaced⟩ := h
    obtain ⟨c, u, hsource⟩ := List.exists_cons_of_ne_nil hstands.source_ne_nil
    have hcons : source (p :: ps) = c :: (u ++ source ps) := by rw [source_cons, hsource]; rfl
    have hpiece : pieceAt c (u ++ source ps) = p := by
      rw [pieceAt_eq_iff, ← hcons]
      exact hstands
    rw [hcons, piecesFrom_cons (r := source ps), hpiece, ih hplaced]
    rw [hpiece, hsource]
    rfl

theorem exists_placed (s : List Char) : ∃ ps, source ps = s ∧ Placed ps := by
  induction hn : s.length using Nat.strong_induction_on generalizing s with
  | _ n ih =>
    cases s with
    | nil => exact ⟨[], rfl, trivial⟩
    | cons c s =>
      have hstands : (pieceAt c s).Stands (c :: s) := pieceAt_eq_iff.mp rfl
      obtain ⟨r, hr⟩ := hstands.source_isPrefix
      have hlt : r.length < n := by
        have hpos := List.length_pos_iff.mpr hstands.source_ne_nil
        rw [← hn, ← hr, List.length_append]
        omega
      obtain ⟨ps, rfl, hplaced⟩ := ih _ hlt r rfl
      exact ⟨pieceAt c s :: ps, hr, by rwa [source_cons, hr], hplaced⟩

theorem source_pieces (format : String) : source (pieces format) = format.toList := by
  obtain ⟨ps, hsource, hplaced⟩ := exists_placed format.toList
  rw [pieces, ← hsource, piecesFrom_source hplaced]

theorem placed_pieces (format : String) : Placed (pieces format) := by
  obtain ⟨ps, hsource, hplaced⟩ := exists_placed format.toList
  rwa [pieces, ← hsource, piecesFrom_source hplaced]

/-! ## Percent notation -/

def Directive.all : List Directive :=
  [.year, .shortYear, .monthName, .shortMonthName, .month, .day, .hour, .halfDayHour, .minute,
    .second, .fraction, .halfDay]

def Directive.ofLetter? (c : Char) : Option Directive := Directive.all.find? fun d => d.letter == c

/-- Reads percent notation from the left: two percent signs are one, a percent sign and a letter are
a directive, and everything else stands for itself. -/
def readPercent? : List Char → Option (List Element)
  | [] => some []
  | ['%'] => none
  | '%' :: c :: s =>
    if c = '%' then (readPercent? s).map (.char '%' :: ·)
    else (Directive.ofLetter? c).bind fun d => (readPercent? s).map (.field d :: ·)
  | c :: s => (readPercent? s).map (.char c :: ·)

theorem Directive.letter_ne_percent (d : Directive) : d.letter ≠ '%' := by cases d <;> decide

theorem Directive.ofLetter?_letter (d : Directive) : ofLetter? d.letter = some d := by
  cases d <;> rfl

theorem readPercent?_chars (e : Element) (s : List Char) :
    readPercent? (e.chars ++ s) = (readPercent? s).map (e :: ·) := by
  cases e with
  | field d =>
    simp [Element.chars, readPercent?, Directive.letter_ne_percent, Directive.ofLetter?_letter]
  | char c =>
    by_cases hc : c = '%'
    · subst hc
      simp [Element.chars, readPercent?]
    · simp only [Element.chars, if_neg hc, List.cons_append, List.nil_append]
      rw [readPercent?]
      all_goals simp [hc]

theorem readPercent?_flatMap_chars (es : List Element) :
    readPercent? (es.flatMap Element.chars) = some es := by
  induction es with
  | nil => rfl
  | cons e es ih => rw [List.flatMap_cons, readPercent?_chars, ih, Option.map_some]

/-- The pieces of a format are its text again, each of them is what has to stand at its place, and
no other pieces are. The percent notation reads back, from the left, as the same sequence without
the brackets and with the directive of each token, and the exact shape is that of the texts that can
be cut along this sequence. -/
theorem pieces_lossless (format : String) :
    source (pieces format) = format.toList ∧ Placed (pieces format) ∧
    (∀ ps, source ps = format.toList → Placed ps → ps = pieces format) ∧
    readPercent? (percentNotation (pieces format)).toList = some (elements (pieces format)) ∧
    elements (pieces format) = (items (pieces format)).map Item.element ∧
    ∀ s, fits (pieces format) s = true ↔ ∃ parts, Cut (items (pieces format)) s parts := by
  refine ⟨source_pieces format, placed_pieces format, ?_, ?_, elements_eq _, fun s => fits_iff⟩
  · intro ps hsource hplaced
    rw [← piecesFrom_source hplaced, hsource]
    rfl
  · rw [percentNotation, String.toList_ofList]
    exact readPercent?_flatMap_chars _

/-- A percent sign in brackets and one in front of a token, and one year letter too many. -/
theorem pieces_lossless_of_percent :
    let qs : List Piece := [.bracketed ['a', '%'],
      .token ⟨['Y', 'Y', 'Y', 'Y'], .digits 4, .year⟩, .literal 'Y', .literal '%',
      .token ⟨['m'], .oneOrTwoDigits, .minute⟩]
    source qs = "[a%]YYYYY%m".toList ∧ Placed qs ∧ qs = pieces "[a%]YYYYY%m" ∧
    percentNotation qs = "a%%%YY%%%M" ∧ readPercent? "a%%%YY%%%M".toList =
      some [.char 'a', .char '%', .field .year, .char 'Y', .char '%', .field .minute] := by
  intro qs
  have hpieces : pieces "[a%]YYYYY%m" = qs := by decide
  have hsource : source qs = "[a%]YYYYY%m".toList := by decide
  have hplaced : Placed qs := hpieces ▸ placed_pieces "[a%]YYYYY%m"
  obtain ⟨-, -, hunique, hread, -⟩ := pieces_lossless "[a%]YYYYY%m"
  have hpercent : percentNotation qs = "a%%%YY%%%M" := by decide
  rw [hpieces, hpercent] at hread
  exact ⟨hsource, hplaced, hunique qs hsource hplaced, hpercent, hread⟩

end FormRules.DateFormat
