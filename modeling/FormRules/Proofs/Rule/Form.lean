import FormRules.Proofs.FirstFailure
import FormRules.Proofs.Text.Pattern

namespace FormRules

namespace Text

theorem join_cons (sep : Char) (p : List Char) (ps : List (List Char)) :
    join sep (p :: ps) = p ++ (ps.map (sep :: ·)).flatten := by
  induction ps generalizing p with
  | nil => simp [join]
  | cons q ps ih => simp [join, ih]

theorem exists_eq_map {α β : Type} {f : α → β} {P : α → Prop} {xs : List β}
    (h : ∀ x ∈ xs, ∃ a, P a ∧ x = f a) : ∃ as : List α, xs = as.map f ∧ ∀ a ∈ as, P a := by
  induction xs with
  | nil => exact ⟨[], rfl, by simp⟩
  | cons x xs ih =>
    obtain ⟨⟨a, ha, rfl⟩, hxs⟩ := List.forall_mem_cons.mp h
    obtain ⟨as, rfl, has⟩ := ih hxs
    exact ⟨a :: as, rfl, List.forall_mem_cons.mpr ⟨ha, has⟩⟩

end Text

namespace Rule.Locator

open Text

/-! ## The grammar -/

/-- A letter of the ASCII alphabet, or one of the four that are taken for such a letter where case
does not count. -/
def IsLetter (c : Char) : Prop := inRanges DateFormat.foldedLetterRanges c = true

def IsScheme (s : List Char) : Prop :=
  ∃ c rest, s = c :: rest ++ "://".toList ∧ IsLetter c ∧
    ∀ d ∈ rest, IsLetter d ∨ isAsciiDigit d = true ∨ d ∈ ['+', '.', '-']

def IsUser (s : List Char) : Prop :=
  ∃ name password, s = name ++ password ++ ['@'] ∧
    (name ≠ [] ∧ ∀ c ∈ name, ¬isBlank c = true ∧ c ∉ [':', '@', '/']) ∧
    (password = [] ∨ ∃ t, password = ':' :: t ∧ ∀ c ∈ t, ¬isBlank c = true ∧ c ∉ ['@', '/'])

def IsLabel (s : List Char) : Prop :=
  1 ≤ s.length ∧ s.length ≤ 63 ∧
    (∀ c ∈ s, IsLetter c ∨ isAsciiDigit c = true ∨ c = '-') ∧
    s.head? ≠ some '-' ∧ s.getLast? ≠ some '-'

def IsTop (s : List Char) : Prop := 2 ≤ s.length ∧ s.length ≤ 63 ∧ ∀ c ∈ s, IsLetter c

def IsDigits (most : Nat) (s : List Char) : Prop :=
  1 ≤ s.length ∧ s.length ≤ most ∧ ∀ c ∈ s, isDigit c = true

inductive IsHost : List Char → Prop
  | here {s} : List.Forall₂ (fun a b => sameLetter a b = true) "localhost".toList s → IsHost s
  | domain {labels top} : labels ≠ [] → (∀ label ∈ labels, IsLabel label) → IsTop top →
      IsHost ((labels.map (· ++ ['.'])).flatten ++ top)
  | address {groups} : groups.length = 4 → (∀ group ∈ groups, IsDigits 3 group) →
      IsHost (join '.' groups)

def IsPort (s : List Char) : Prop := ∃ digits, s = ':' :: digits ∧ IsDigits 5 digits

def IsTail (s : List Char) : Prop :=
  ∃ c rest, s = c :: rest ∧ c ∈ ['/', '?', '#'] ∧ ∀ d ∈ rest, ¬isBlank d = true

def IsLocator (s : List Char) : Prop :=
  ∃ scheme user host port tail, s = scheme ++ user ++ host ++ port ++ tail ∧
    (scheme = [] ∨ IsScheme scheme) ∧ (user = [] ∨ IsUser user) ∧ IsHost host ∧
    (port = [] ∨ IsPort port) ∧ (tail = [] ∨ IsTail tail)

/-! ## The patterns -/

variable {s : List Char} {c : Char}

theorem letter_holds_iff : CharSet.letter.holds c = true ↔ IsLetter c := by
  rw [CharSet.letter_holds_iff, DateFormat.isFoldedLetter_eq, IsLetter]

theorem asciiDigit_holds_iff : CharSet.asciiDigit.holds c = true ↔ isAsciiDigit c = true := Iff.rfl

theorem blank_holds_iff : CharSet.blank.holds c = true ↔ isBlank c = true := Iff.rfl

theorem letterOrDigit_holds_iff :
    letterOrDigit.holds c = true ↔ IsLetter c ∨ isAsciiDigit c = true := by
  rw [letterOrDigit, CharSet.union_holds_iff, letter_holds_iff, asciiDigit_holds_iff]

theorem matches_scheme_iff : scheme.Matches s ↔ IsScheme s := by
  simp only [scheme, Pattern.inOrder, Pattern.matches_seq, Pattern.matches_one,
    Pattern.matches_many_one, Pattern.matches_text, CharSet.union_holds_iff, letter_holds_iff,
    asciiDigit_holds_iff, CharSet.among_holds_iff, or_assoc]
  constructor
  · rintro ⟨_, _, rfl, ⟨c, hc, rfl⟩, rest, _, rfl, hrest, rfl⟩
    exact ⟨c, rest, rfl, hc, hrest⟩
  · rintro ⟨c, rest, rfl, hc, hrest⟩
    exact ⟨[c], _, rfl, ⟨c, hc, rfl⟩, rest, _, rfl, hrest, rfl⟩

theorem matches_user_iff : user.Matches s ↔ IsUser s := by
  simp only [user, Pattern.inOrder, Pattern.matches_seq, Pattern.matches_plus_one,
    Pattern.matches_opt, Pattern.matches_char, Pattern.matches_many_one,
    CharSet.outside_holds_iff, CharSet.union_holds_iff, blank_holds_iff,
    CharSet.among_holds_iff, not_or]
  constructor
  · rintro ⟨name, _, rfl, hname, password, _, rfl, hpassword, rfl⟩
    refine ⟨name, password, by simp, hname, hpassword.imp_right ?_⟩
    rintro ⟨_, t, rfl, rfl, ht⟩
    exact ⟨t, rfl, ht⟩
  · rintro ⟨name, password, rfl, hname, hpassword⟩
    refine ⟨name, password ++ ['@'], by simp, hname, password, ['@'], rfl, hpassword.imp_right ?_,
      rfl⟩
    rintro ⟨t, rfl, ht⟩
    exact ⟨[':'], t, rfl, rfl, ht⟩

theorem letterOrDigit_iff : IsLetter c ∨ isAsciiDigit c = true ↔
    (IsLetter c ∨ isAsciiDigit c = true ∨ c = '-') ∧ c ≠ '-' := by
  by_cases h : c = '-'
  · have hhyphen : ¬IsLetter '-' ∧ ¬isAsciiDigit '-' = true := by
      unfold IsLetter
      decide
    simp [h, hhyphen]
  · simp [h]

theorem isLabel_singleton_iff : IsLabel [c] ↔ IsLetter c ∨ isAsciiDigit c = true := by
  rw [letterOrDigit_iff]
  simp [IsLabel]

theorem isLabel_ends_iff {middle : List Char} {d : Char} :
    IsLabel (c :: (middle ++ [d])) ↔ (IsLetter c ∨ isAsciiDigit c = true) ∧
      (middle.length ≤ 61 ∧ ∀ a ∈ middle, IsLetter a ∨ isAsciiDigit a = true ∨ a = '-') ∧
      (IsLetter d ∨ isAsciiDigit d = true) := by
  have hlast : (c :: (middle ++ [d])).getLast? = some d := List.getLast?_concat (l := c :: middle)
  rw [letterOrDigit_iff, letterOrDigit_iff (c := d), IsLabel, hlast]
  simp only [List.length_cons, List.length_append, List.length_nil, List.forall_mem_cons,
    List.forall_mem_append, List.not_mem_nil, List.head?_cons, ne_eq, Option.some.injEq]
  constructor
  · rintro ⟨-, hlength, ⟨hc, hmiddle, hd, -⟩, hc', hd'⟩
    exact ⟨⟨hc, hc'⟩, ⟨by omega, hmiddle⟩, hd, hd'⟩
  · rintro ⟨⟨hc, hc'⟩, ⟨hlength, hmiddle⟩, hd, hd'⟩
    exact ⟨by omega, by omega, ⟨hc, hmiddle, hd, nofun⟩, hc', hd'⟩

theorem matches_label_iff : label.Matches s ↔ IsLabel s := by
  simp only [label, Pattern.inOrder, Pattern.matches_seq, Pattern.matches_one,
    Pattern.matches_opt, Pattern.matches_upTo_one, CharSet.union_holds_iff,
    letterOrDigit_holds_iff, CharSet.among_holds_iff, List.mem_singleton, or_assoc]
  constructor
  · rintro ⟨_, _, rfl, ⟨c, hc, rfl⟩, rfl | ⟨middle, _, rfl, hmiddle, d, hd, rfl⟩⟩
    · exact isLabel_singleton_iff.mpr hc
    · exact isLabel_ends_iff.mpr ⟨hc, hmiddle, hd⟩
  · intro h
    cases s with
    | nil => exact absurd h.1 (by simp)
    | cons c t =>
      obtain rfl | ⟨middle, d, rfl⟩ := List.eq_nil_or_concat' t
      · exact ⟨[c], [], rfl, ⟨c, isLabel_singleton_iff.mp h, rfl⟩, .inl rfl⟩
      · obtain ⟨hc, hmiddle, hd⟩ := isLabel_ends_iff.mp h
        exact ⟨[c], _, rfl, ⟨c, hc, rfl⟩, .inr ⟨middle, [d], rfl, hmiddle, d, hd, rfl⟩⟩

theorem matches_domain_iff : domain.Matches s ↔
    ∃ labels top, s = (labels.map (· ++ ['.'])).flatten ++ top ∧ labels ≠ [] ∧
      (∀ label ∈ labels, IsLabel label) ∧ IsTop top := by
  simp only [domain, Pattern.inOrder, Pattern.matches_seq, Pattern.matches_plus,
    Pattern.matches_between_one (show 2 ≤ 63 by decide), letter_holds_iff, matches_label_iff,
    Pattern.matches_char]
  constructor
  · rintro ⟨_, top, rfl, ⟨parts, hne, rfl, hparts⟩, htop⟩
    obtain ⟨labels, rfl, hlabels⟩ := exists_eq_map (f := (· ++ ['.'])) (P := IsLabel) fun x hx => by
      obtain ⟨label, _, rfl, hlabel, rfl⟩ := hparts x hx
      exact ⟨label, hlabel, rfl⟩
    exact ⟨labels, top, rfl, by simpa using hne, hlabels, htop⟩
  · rintro ⟨labels, top, rfl, hne, hlabels, htop⟩
    refine ⟨_, top, rfl, ⟨_, by simpa using hne, rfl, ?_⟩, htop⟩
    rintro _ hx
    obtain ⟨label, hmem, rfl⟩ := List.mem_map.mp hx
    exact ⟨label, ['.'], rfl, hlabels label hmem, rfl⟩

theorem matches_digits_iff {most : Nat} (h : 1 ≤ most) :
    (Pattern.between 1 most (.one .digit)).Matches s ↔ IsDigits most s :=
  Pattern.matches_between_one h

theorem matches_address_iff : address.Matches s ↔
    ∃ groups, s = join '.' groups ∧ groups.length = 4 ∧ ∀ group ∈ groups, IsDigits 3 group := by
  simp only [address, Pattern.inOrder, Pattern.matches_seq, Pattern.matches_times,
    matches_digits_iff (show 1 ≤ 3 by decide), Pattern.matches_char]
  constructor
  · rintro ⟨group, _, rfl, hgroup, parts, hlength, rfl, hparts⟩
    obtain ⟨groups, rfl, hgroups⟩ :=
      exists_eq_map (f := ('.' :: ·)) (P := IsDigits 3) fun x hx => by
        obtain ⟨_, group, rfl, rfl, hgroup⟩ := hparts x hx
        exact ⟨group, hgroup, rfl⟩
    exact ⟨group :: groups, (join_cons '.' group groups).symm, by simpa using hlength,
      List.forall_mem_cons.mpr ⟨hgroup, hgroups⟩⟩
  · rintro ⟨groups, rfl, hlength, hgroups⟩
    obtain ⟨group, groups, rfl⟩ := List.exists_cons_of_length_eq_add_one hlength
    obtain ⟨hgroup, hrest⟩ := List.forall_mem_cons.mp hgroups
    refine ⟨group, _, join_cons '.' group groups, hgroup, _, by simpa using hlength, rfl, ?_⟩
    rintro _ hx
    obtain ⟨other, hmem, rfl⟩ := List.mem_map.mp hx
    exact ⟨['.'], other, rfl, rfl, hrest other hmem⟩

theorem matches_host_iff : host.Matches s ↔ IsHost s := by
  simp only [host, Pattern.Matches, Pattern.matches_word, matches_domain_iff, matches_address_iff]
  constructor
  · rintro (h | ⟨labels, top, rfl, hne, hlabels, htop⟩ | ⟨groups, rfl, hlength, hgroups⟩)
    · exact .here h
    · exact .domain hne hlabels htop
    · exact .address hlength hgroups
  · rintro (h | ⟨hne, hlabels, htop⟩ | ⟨hlength, hgroups⟩)
    · exact .inl h
    · exact .inr (.inl ⟨_, _, rfl, hne, hlabels, htop⟩)
    · exact .inr (.inr ⟨_, rfl, hlength, hgroups⟩)

theorem matches_port_iff : port.Matches s ↔ IsPort s := by
  simp only [port, Pattern.inOrder, Pattern.matches_seq, Pattern.matches_char,
    matches_digits_iff (show 1 ≤ 5 by decide)]
  constructor
  · rintro ⟨_, digits, rfl, rfl, hdigits⟩
    exact ⟨digits, rfl, hdigits⟩
  · rintro ⟨digits, rfl, hdigits⟩
    exact ⟨[':'], digits, rfl, rfl, hdigits⟩

theorem matches_tail_iff : tail.Matches s ↔ IsTail s := by
  simp only [tail, Pattern.inOrder, Pattern.matches_seq, Pattern.matches_one,
    Pattern.matches_many_one, CharSet.among_holds_iff, CharSet.outside_holds_iff, blank_holds_iff]
  constructor
  · rintro ⟨_, rest, rfl, ⟨c, hc, rfl⟩, hrest⟩
    exact ⟨c, rest, rfl, hc, hrest⟩
  · rintro ⟨c, rest, rfl, hc, hrest⟩
    exact ⟨[c], rest, rfl, ⟨c, hc, rfl⟩, hrest⟩

theorem matches_pattern_iff : pattern.Matches s ↔ IsLocator s := by
  simp only [pattern, Pattern.inOrder, Pattern.matches_seq, Pattern.matches_opt,
    matches_scheme_iff, matches_user_iff, matches_host_iff, matches_port_iff, matches_tail_iff]
  constructor
  · rintro ⟨scheme, _, rfl, hscheme, user, _, rfl, huser, host, _, rfl, hhost, port, tail, rfl,
      hport, htail⟩
    exact ⟨scheme, user, host, port, tail, by simp, hscheme, huser, hhost, hport, htail⟩
  · rintro ⟨scheme, user, host, port, tail, rfl, hscheme, huser, hhost, hport, htail⟩
    exact ⟨scheme, _, by simp only [List.append_assoc], hscheme, user, _, rfl, huser, host, _, rfl,
      hhost, port, tail, rfl, hport, htail⟩

/-! ## What follows -/

theorem IsLocator.not_isBlank (h : IsLocator s) : ∀ c ∈ s, ¬isBlank c = true := by
  have hsets : pattern.sets.all CharSet.isInked = true := by decide +kernel
  exact Pattern.forall_mem_of_matches (fun cs hcs c hc =>
    CharSet.not_isBlank_of_isInked (List.all_eq_true.mp hsets cs hcs) hc)
    (matches_pattern_iff.mpr h)

theorem IsLocator.of_alike {t : List Char} (h : List.Forall₂ (fun a b => alike a b = true) t s)
    (hs : IsLocator s) : IsLocator t := by
  have hsets : pattern.sets.all CharSet.isCaseless = true := by decide +kernel
  refine matches_pattern_iff.mp (Pattern.matches_of_forall₂ (fun cs hcs a b hab hb => ?_) h
    (matches_pattern_iff.mpr hs))
  rwa [CharSet.holds_eq_of_alike (List.all_eq_true.mp hsets cs hcs) hab]

theorem isLocator_iff_of_alike {t : List Char}
    (h : List.Forall₂ (fun a b => alike a b = true) s t) : IsLocator s ↔ IsLocator t := by
  have hflip : List.Forall₂ (fun a b => alike a b = true) t s :=
    List.Forall₂.flip (h.imp fun a b hab => by rwa [flip, alike_comm])
  exact ⟨.of_alike hflip, .of_alike h⟩

theorem IsTail.append {t : List Char} (h : IsTail s) (ht : ∀ c ∈ t, ¬isBlank c = true) :
    IsTail (s ++ t) := by
  obtain ⟨c, rest, rfl, hc, hrest⟩ := h
  exact ⟨c, rest ++ t, rfl, hc, List.forall_mem_append.mpr ⟨hrest, ht⟩⟩

theorem IsLocator.append_path {t : List Char} (h : IsLocator s)
    (ht : ∀ c ∈ t, ¬isBlank c = true) : IsLocator (s ++ '/' :: t) := by
  have hpath : IsTail ('/' :: t) := ⟨'/', t, rfl, by simp, ht⟩
  obtain ⟨scheme, user, host, port, tail, rfl, hscheme, huser, hhost, hport, htail⟩ := h
  refine ⟨scheme, user, host, port, tail ++ '/' :: t, by simp, hscheme, huser, hhost, hport,
    .inr ?_⟩
  rcases htail with rfl | htail
  · exact hpath
  · exact htail.append (List.forall_mem_cons.mpr ⟨by decide, ht⟩)

end Rule.Locator

namespace FieldRun

open Text Rule.Locator

variable {r : Registry} {context : Context} {field name : String} {record : Value}
  {param : Option String} {title : String} {p : Pattern} {message : String → String} {s : String}

theorem said_ofPattern (hget : r.get? name = some ⟨Rule.ofPattern title p message, name⟩) :
    said r context field (.text s) record ⟨name, param⟩ =
      some (.ok (.passedIf (p.accepts s.toList) (message field))) := by
  rw [said, hget]
  rfl

theorem passes_ofPattern_iff (hget : r.get? name = some ⟨Rule.ofPattern title p message, name⟩) :
    Passes r context field (.text s) record ⟨name, param⟩ ↔ p.Matches s.toList := by
  rw [Passes, said_ofPattern hget, ← Pattern.accepts_iff, Verdict.passedIf]
  split <;> simp [*]

theorem fails_ofPattern_iff (hget : r.get? name = some ⟨Rule.ofPattern title p message, name⟩)
    {own : String} : Fails r context field (.text s) record ⟨name, param⟩ own ↔
      ¬p.Matches s.toList ∧ message field = own := by
  rw [Fails, said_ofPattern hget, ← Pattern.accepts_iff, Verdict.passedIf]
  split <;> simp [*]

/-- A text is a locator by the grammar, whatever the parameter, and any other text fails with the
message of the rule. No locator has a blank or ends a line, a path makes it no less a locator, and
the case of letters does not count, nor which character of another script stands at a place. -/
theorem locator_by_grammar (context : Context) (field : String) (record : Value)
    (param : Option String) :
    let passes (v : String) : Prop :=
      Passes .builtin context field (.text v) record ⟨"url", param⟩
    (∀ v, passes v ↔ IsLocator v.toList) ∧
    (∀ v, ¬passes v → Fails .builtin context field (.text v) record ⟨"url", param⟩
      (field ++ " must be a valid URL")) ∧
    (∀ v, passes v → ∀ c ∈ v.toList, ¬isBlank c = true) ∧
    (∀ v, ¬passes (v ++ "\n")) ∧
    (∀ v t, passes v → (∀ c ∈ t.toList, ¬isBlank c = true) → passes (v ++ "/" ++ t)) ∧
    ∀ v w, List.Forall₂ (fun a b => alike a b = true) v.toList w.toList →
      (passes v ↔ passes w) := by
  intro passes
  have hget : Registry.builtin.get? "url" = some ⟨Rule.locator, "url"⟩ := rfl
  have hpasses (v : String) : passes v ↔ IsLocator v.toList := by
    rw [← matches_pattern_iff]
    exact passes_ofPattern_iff hget
  have hinked (v : String) (h : passes v) : ∀ c ∈ v.toList, ¬isBlank c = true :=
    ((hpasses v).mp h).not_isBlank
  refine ⟨hpasses, fun v h => ?_, hinked, fun v h => ?_, fun v t h ht => ?_, fun v w h => ?_⟩
  · rw [hpasses, ← matches_pattern_iff] at h
    exact (fails_ofPattern_iff hget).mpr ⟨h, rfl⟩
  · exact hinked _ h '\n' (by simp) (by decide)
  · rw [hpasses] at h ⊢
    simpa using h.append_path ht
  · rw [hpasses, hpasses]
    exact isLocator_iff_of_alike h

/-- All five parts, a password that might be a port, a label of 63 characters and a letter that
compares as another. -/
theorem locator_by_grammar_of_all_parts :
    let context : Context :=
      ⟨.ofDate ⟨2024, 6, 15, by decide, by decide, by decide, by decide⟩, "YYYY-MM-DD"⟩
    let passes (v : String) : Prop :=
      Passes .builtin context "f" (.text v) (.mapping []) ⟨"url", none⟩
    let host : String := String.ofList (List.replicate 63 'a') ++ ".Co\u017f:8080?/@:#"
    let v := "svn+SSH://J\u00e9?.#:80@" ++ host
    let w := "SVN+ssh://j\u00c9?.#:80@" ++ host
    passes v ∧ passes w ∧ passes (v ++ "/" ++ ":") ∧ ¬passes (v ++ "\n") ∧
      Fails .builtin context "f" (.text ("a" ++ host)) (.mapping []) ⟨"url", none⟩
        "f must be a valid URL" := by
  intro context passes host v w
  have hget : Registry.builtin.get? "url" = some ⟨Rule.locator, "url"⟩ := rfl
  have hmatches (u : String) : passes u ↔ pattern.Matches u.toList := passes_ofPattern_iff hget
  have hpasses : passes v := by
    rw [hmatches, ← Pattern.accepts_iff]
    decide +kernel
  have hlong : ¬passes ("a" ++ host) := by
    rw [hmatches, ← Pattern.accepts_iff]
    decide +kernel
  have hcolon : ∀ c ∈ ":".toList, ¬isBlank c = true := List.forall_mem_singleton.mpr (by decide)
  obtain ⟨-, hfails, -, hline, hpath, hcase⟩ :=
    locator_by_grammar context "f" (.mapping []) none
  refine ⟨hpasses, (hcase v w ?_).mp hpasses, hpath v ":" hpasses hcolon, hline v,
    hfails _ hlong⟩
  decide +kernel

end FieldRun

end FormRules
