import FormRules.Proofs.DateFormat.Sample

/-! Stretches that mix their tokens: for each there is a row of digits that is written in one way
and read in another. -/

namespace FormRules.DateFormat

def numericTokens : List Token := tokens.filter fun t => t.directive.kind = .digit

theorem kind_of_numeric {t : Token} (h : t ∈ numericTokens) : t.directive.kind = .digit := by
  simpa using List.of_mem_filter h

def totalSize (n : Nat) (ts : List Token) : Nat := (ts.map (Token.size n)).sum

section Row

variable {ts : List Token} {n : Nat} {s : List Char} {parts : Parts}

theorem takes_ones {t : Token} (ht : t ∈ numericTokens) (hn : n = 1 ∨ n = 2) :
    t.width.Takes (ones (t.size n)) := by
  have hlengths : ∀ t ∈ numericTokens, ∀ n ∈ [1, 2],
      (ones (t.size n)).length ∈ t.width.lengths (ones (t.size n)) := by decide
  have htakes := (Width.mem_lengths_iff.mp (hlengths t ht n (by simpa using hn))).2
  rwa [List.take_length] at htakes

theorem exists_cut_ones (hts : ∀ t ∈ ts, t ∈ numericTokens) (hn : n = 1 ∨ n = 2) :
    ∃ parts, Cut (ts.map .token) (ones (totalSize n ts)) parts := by
  induction ts with
  | nil => exact ⟨[], .nil⟩
  | cons t ts ih =>
    obtain ⟨ht, hts⟩ := List.forall_mem_cons.mp hts
    obtain ⟨parts, hparts⟩ := ih hts
    have hsum : totalSize n (t :: ts) = t.size n + totalSize n ts := List.sum_cons
    rw [hsum, ones_add]
    exact ⟨_, .token t (takes_ones ht hn) hparts⟩

theorem size_le_length {t : Token} {u : List Char} (h : t.width.Takes u) : t.size 1 ≤ u.length := by
  unfold Token.size
  cases hw : t.width with
  | digits k => exact (hw ▸ h).1.ge
  | oneOrTwoDigits =>
    have hlen := (hw ▸ h).1
    change 1 ≤ u.length
    omega
  | letters => exact List.length_pos_iff.mpr (hw ▸ h).1
  | halfDayMark =>
    obtain ⟨a, m, rfl, -⟩ := hw ▸ h
    exact Nat.le_refl 2

theorem totalSize_le_length (h : Cut (ts.map .token) s parts) : totalSize 1 ts ≤ s.length := by
  induction ts generalizing s parts with
  | nil => exact Nat.zero_le _
  | cons t ts ih =>
    have hsum : totalSize 1 (t :: ts) = t.size 1 + totalSize 1 ts := List.sum_cons
    cases h with
    | token _ hu h =>
      rw [hsum, List.length_append]
      exact Nat.add_le_add (size_le_length hu) (ih h)

theorem least_le_size : ∀ t ∈ numericTokens, ∀ n ∈ [1, 2], t.directive.least ≤ t.size n := by
  decide

theorem size_le_most : ∀ t ∈ numericTokens, ∀ n ∈ [1, 2], t.size n ≤ t.directive.most := by
  decide

theorem leastWidth_le_totalSize (hts : ∀ t ∈ ts, t ∈ numericTokens) (hn : n ∈ [1, 2]) :
    leastWidth (ts.map Token.directive) ≤ totalSize n ts := by
  rw [leastWidth, List.map_map]
  exact List.sum_le_sum fun t ht => least_le_size t (hts t ht) n hn

theorem totalSize_le_mostWidth (hts : ∀ t ∈ ts, t ∈ numericTokens) (hn : n ∈ [1, 2]) :
    totalSize n ts ≤ mostWidth (ts.map Token.directive) := by
  rw [mostWidth, List.map_map]
  exact List.sum_le_sum fun t ht => size_le_most t (hts t ht) n hn

theorem leastWidth_lt_totalSize (hts : ∀ t ∈ ts, t ∈ numericTokens) (hn : n ∈ [1, 2])
    (hlt : ∃ t ∈ ts, t.directive.least < t.size n) :
    leastWidth (ts.map Token.directive) < totalSize n ts := by
  rw [leastWidth, List.map_map]
  exact List.sum_lt_sum _ _ (fun t ht => least_le_size t (hts t ht) n hn) hlt

theorem totalSize_lt_mostWidth (hts : ∀ t ∈ ts, t ∈ numericTokens) (hn : n ∈ [1, 2])
    (hlt : ∃ t ∈ ts, t.size n < t.directive.most) :
    totalSize n ts < mostWidth (ts.map Token.directive) := by
  rw [mostWidth, List.map_map]
  exact List.sum_lt_sum _ _ (fun t ht => size_le_most t (hts t ht) n hn) hlt

end Row

def Apart (d : Directive) (u u' : List Char) : Prop :=
  ∀ mark mark', amount? mark (d, u) ≠ amount? mark' (d, u')

/-- The row of digits `w` has the exact shape of the items, and then `u'` stands for the directive,
but what is read for it is `u`. -/
structure Misread (g : List Item) (w : List Char) (d : Directive) (u u' : List Char) : Prop where
  kind : d.kind = .digit
  apart : Apart d u u'
  cut : ∃ parts, Cut g w parts
  written : ∀ parts, Cut g w parts → (d, u') ∈ parts
  read : ∀ {ps : List Step} {r : List Char} {rest : Parts}, Bare r →
    readSteps? ps r = some (rest, []) → ∃ parts,
      readSteps? (g.map Item.step ++ ps) (w ++ r) = some (parts ++ rest, []) ∧ (d, u) ∈ parts ∧
        ∀ p ∈ parts, p.2 ∈ p.1.plain

theorem map_step_map_token (ts : List Token) :
    (ts.map Item.token).map Item.step = (ts.map Token.directive).map Step.field := by
  rw [List.map_map, List.map_map]
  rfl

section Misread

variable {t : Token} {ts : List Token}

theorem mem_of_cut_token {is : List Item} {u s : List Char} {parts : Parts}
    (h : Cut (.token t :: is) (u ++ s) parts)
    (hlen : ∀ u' s' parts', t.width.Takes u' → Cut is s' parts' →
      u'.length + s'.length = u.length + s.length → u'.length = u.length) :
    (t.directive, u) ∈ parts := by
  generalize hw : u ++ s = w at h
  cases h with
  | @token _ s' parts' _ u' hu' h =>
    have hsum := congrArg List.length hw
    simp only [List.length_append] at hsum
    obtain ⟨rfl, -⟩ := List.append_inj hw (hlen u' s' parts' hu' h hsum.symm).symm
    exact List.mem_cons_self

theorem plain_of_mem_share {n : Nat} (hts : ∀ t ∈ ts, t ∈ numericTokens)
    (hlo : leastWidth (ts.map Token.directive) ≤ n) :
    ∀ p ∈ share (ts.map Token.directive) n, p.2 ∈ p.1.plain := by
  intro p hp
  obtain ⟨hmem, k, hlo, hhi, hk⟩ := mem_share hlo hp
  obtain ⟨t, ht, hd⟩ := List.mem_map.mp hmem
  rw [hk]
  exact Directive.ones_mem_plain (hd ▸ kind_of_numeric (hts t ht)) hlo hhi

theorem kind_of_mem_directives (hts : ∀ t ∈ ts, t ∈ numericTokens) :
    ∀ d ∈ ts.map Token.directive, d.kind = .digit := by
  intro d hd
  obtain ⟨t, ht, rfl⟩ := List.mem_map.mp hd
  exact kind_of_numeric (hts t ht)

def shortDirectives : List Directive := [.month, .day, .hour, .halfDayHour, .minute, .second]

theorem hourOfDay_of_ne {hour : Nat} (h : hour ≠ 12) (mark : List Char) :
    hourOfDay hour mark = hour ∨ hourOfDay hour mark = hour + 12 := by
  unfold hourOfDay
  by_cases hpm : mark = ['p', 'm'] <;> simp [hpm, h]

theorem amount?_short {d : Directive} (hd : d ∈ shortDirectives) {u : List Char} {n : Nat}
    (hu : Text.digitsValue u = n) (hn : n ≠ 12) (mark : List Char) :
    amount? mark (d, u) = some (n : Int) ∨ amount? mark (d, u) = some ((n + 12 : Nat) : Int) := by
  subst hu
  cases d with
  | halfDayHour =>
    change some _ = _ ∨ some _ = _
    rcases hourOfDay_of_ne hn mark with h | h
    · exact .inl (congrArg _ (congrArg _ h))
    · exact .inr (congrArg _ (congrArg _ h))
  | month | day | hour | minute | second => exact .inl rfl
  | _ => simp [shortDirectives] at hd

theorem apart_of_short {d : Directive} (hd : d ∈ shortDirectives) {u u' : List Char} {n n' : Nat}
    (hu : Text.digitsValue u = n) (hu' : Text.digitsValue u' = n') (hn : n ≠ 12 ∧ n' ≠ 12)
    (hne : n ≠ n' ∧ n + 12 ≠ n' ∧ n ≠ n' + 12) : Apart d u u' := by
  intro mark mark' h
  rcases amount?_short hd hu hn.1 mark with ha | ha <;>
    rcases amount?_short hd hu' hn.2 mark' with hb | hb <;>
    · rw [ha, hb, Option.some.injEq, Int.ofNat_inj] at h
      omega

theorem head?_lengths_nine {d : Directive} (hd : d ∈ shortDirectives) (s : List Char) :
    (d.lengths ('9' :: s)).head? = some 1 := by
  cases d with
  | month | day | hour | halfDayHour | minute | second => cases s <;> rfl
  | _ => simp [shortDirectives] at hd

theorem head?_lengths_ones {d : Directive} (hd : d ∈ shortDirectives) (s : List Char) :
    (d.lengths (ones 2 ++ s)).head? = some 2 := by
  cases d with
  | month | day | hour | halfDayHour | minute | second => rfl
  | _ => simp [shortDirectives] at hd

theorem misread_of_two_digits (hts : ∀ t ∈ ts, t ∈ numericTokens)
    (hd : t.directive ∈ shortDirectives) (hw : t.width = .digits 2)
    (hloose : ∃ t ∈ ts, t.size 1 < t.directive.most) :
    Misread (.token t :: ts.map .token) (['9', '1'] ++ ones (totalSize 1 ts)) t.directive ['9']
      ['9', '1'] where
  kind := (by decide : ∀ d ∈ shortDirectives, d.kind = .digit) _ hd
  apart := apart_of_short hd (by decide : _ = 9) (by decide : _ = 91) (by decide) (by decide)
  cut := by
    obtain ⟨parts, hparts⟩ := exists_cut_ones hts (.inl rfl)
    refine ⟨_, .token t ?_ hparts⟩
    rw [hw]
    exact ⟨rfl, List.all_eq_true.mp (by decide)⟩
  written := by
    refine fun parts h => mem_of_cut_token h fun u' s' parts' hu' _ _ => ?_
    rw [hw] at hu'
    exact hu'.1
  read := by
    intro ps r rest hr hrest
    have hlo := leastWidth_le_totalSize hts (n := 1) (by simp)
    have hhi := totalSize_lt_mostWidth hts (n := 1) (by simp) hloose
    have hread := readSteps?_ones (kind_of_mem_directives hts) hr hrest (n := 1 + totalSize 1 ts)
      (by omega) (by omega)
    rw [ones_add] at hread
    rw [List.map_cons, map_step_map_token]
    refine ⟨(t.directive, ['9']) :: share (ts.map Token.directive) (1 + totalSize 1 ts), ?_,
      List.mem_cons_self, List.forall_mem_cons.mpr ⟨?_, plain_of_mem_share hts (by omega)⟩⟩
    · exact readSteps?_field_of_head? (u := ['9']) (head?_lengths_nine hd _) hread
    · exact (by decide : ∀ d ∈ shortDirectives, ['9'] ∈ d.plain) _ hd

theorem misread_of_one_or_two_digits (hts : ∀ t ∈ ts, t ∈ numericTokens)
    (hd : t.directive ∈ shortDirectives) (hw : t.width = .oneOrTwoDigits)
    (hloose : ∃ t ∈ ts, t.directive.least < t.size 1) :
    Misread (.token t :: ts.map .token) (ones 1 ++ ones (totalSize 1 ts)) t.directive (ones 2)
      (ones 1) where
  kind := (by decide : ∀ d ∈ shortDirectives, d.kind = .digit) _ hd
  apart := apart_of_short hd (by decide : _ = 11) (by decide : _ = 1) (by decide) (by decide)
  cut := by
    obtain ⟨parts, hparts⟩ := exists_cut_ones hts (.inl rfl)
    refine ⟨_, .token t ?_ hparts⟩
    rw [hw]
    exact ⟨.inl rfl, List.all_eq_true.mp (by decide)⟩
  written := by
    refine fun parts h => mem_of_cut_token h fun u' s' parts' hu' hs' hlen => ?_
    have hle := totalSize_le_length hs'
    rw [hw] at hu'
    have hone := hu'.1
    rw [length_ones, length_ones] at *
    omega
  read := by
    intro ps r rest hr hrest
    have hlo := leastWidth_lt_totalSize hts (n := 1) (by simp) hloose
    have hhi := totalSize_le_mostWidth hts (n := 1) (by simp)
    have hread := readSteps?_ones (kind_of_mem_directives hts) hr hrest (n := totalSize 1 ts - 1)
      (by omega) (by omega)
    rw [List.map_cons, map_step_map_token]
    refine ⟨(t.directive, ones 2) :: share (ts.map Token.directive) (totalSize 1 ts - 1), ?_,
      List.mem_cons_self, List.forall_mem_cons.mpr ⟨?_, plain_of_mem_share hts (by omega)⟩⟩
    · have hsum : 1 + totalSize 1 ts = 2 + (totalSize 1 ts - 1) := by omega
      rw [← ones_add, hsum, ones_add, List.append_assoc]
      exact readSteps?_field_of_head? (head?_lengths_ones hd _) hread
    · exact (by decide : ∀ d ∈ shortDirectives, ones 2 ∈ d.plain) _ hd

theorem apart_fraction {k : Nat} (hlo : 4 ≤ k) (hhi : k ≤ 6) :
    Apart .fraction (ones k) (ones 3) := by
  have hall : ∀ k ≤ 6, 4 ≤ k → amount? [] (.fraction, ones k) ≠ amount? [] (.fraction, ones 3) := by
    decide
  exact fun _ _ => hall k hhi hlo

theorem misread_of_fraction (ht : t ∈ numericTokens) (hts : ∀ t ∈ ts, t ∈ numericTokens)
    (hd : t.directive = .fraction) (hw : t.width = .digits 3)
    (hloose : ∃ t ∈ ts, t.directive.least < t.size 2) :
    ∃ u, Misread (.token t :: ts.map .token) (ones 3 ++ ones (totalSize 2 ts)) t.directive u
      (ones 3) := by
  have hrow : ∀ t' ∈ t :: ts, t' ∈ numericTokens := List.forall_mem_cons.mpr ⟨ht, hts⟩
  have hlo := leastWidth_lt_totalSize hts (n := 2) (by simp) hloose
  have hhi := totalSize_le_mostWidth hts (n := 2) (by simp)
  have hleast : leastWidth ((t :: ts).map Token.directive) =
      1 + leastWidth (ts.map Token.directive) := by
    rw [List.map_cons, leastWidth_cons, hd]
    rfl
  have hmost : mostWidth ((t :: ts).map Token.directive) =
      6 + mostWidth (ts.map Token.directive) := by
    rw [List.map_cons, mostWidth_cons, hd]
    rfl
  refine ⟨ones (min 6 (3 + totalSize 2 ts - leastWidth (ts.map Token.directive))),
    kind_of_numeric ht, ?_, ?_, ?_, ?_⟩
  · rw [hd]
    exact apart_fraction (by omega) (by omega)
  · obtain ⟨parts, hparts⟩ := exists_cut_ones hts (.inr rfl)
    refine ⟨_, .token t ?_ hparts⟩
    rw [hw]
    exact ⟨rfl, List.all_eq_true.mp (by decide)⟩
  · refine fun parts h => mem_of_cut_token h fun u' s' parts' hu' _ _ => ?_
    rw [hw] at hu'
    exact hu'.1
  · intro ps r rest hr hrest
    have hread := readSteps?_ones (kind_of_mem_directives hrow) hr hrest (n := 3 + totalSize 2 ts)
      (by omega) (by omega)
    rw [← List.map_cons, map_step_map_token, ← ones_add]
    refine ⟨_, hread, ?_, plain_of_mem_share hrow (by omega)⟩
    rw [List.map_cons, share, hd]
    exact List.mem_cons_self

theorem Misread.cons {g : List Item} {w u u' : List Char} {d : Directive} (h : Misread g w d u u')
    (ht : t ∈ numericTokens) (hfixed : (Item.token t).isFixed = true) :
    Misread (.token t :: g) (ones (t.size 1) ++ w) d u u' := by
  have hsizes : ∀ t ∈ numericTokens, (Item.token t).isFixed = true → t.width = .digits (t.size 1) ∧
      t.directive.least = t.size 1 ∧ t.directive.most = t.size 1 ∧
      (t.directive = .year ∧ t.size 1 = 4 ∨ t.directive = .shortYear ∧ t.size 1 = 2) := by decide
  obtain ⟨hw, hleast, hmost, hd⟩ := hsizes t ht hfixed
  refine ⟨h.kind, h.apart, ?_, ?_, ?_⟩
  · obtain ⟨parts, hparts⟩ := h.cut
    exact ⟨_, .token t (takes_ones ht (.inl rfl)) hparts⟩
  · intro parts hcut
    generalize hs : ones (t.size 1) ++ w = s at hcut
    cases hcut with
    | @token _ s' parts' _ v hv hcut =>
      rw [hw] at hv
      obtain ⟨-, rfl⟩ := List.append_inj hs ((length_ones _).trans hv.1.symm)
      exact List.mem_cons_of_mem _ (h.written parts' hcut)
  · intro ps r rest hr hrest
    obtain ⟨parts, hread, hmem, hplain⟩ := h.read hr hrest
    have hhead : (t.directive.lengths (ones (t.size 1) ++ (w ++ r))).head? =
        some (ones (t.size 1)).length := by
      rcases hd with ⟨hd, hsize⟩ | ⟨hd, hsize⟩ <;> rw [hd, hsize] <;> rfl
    refine ⟨(t.directive, ones (t.size 1)) :: parts, ?_, List.mem_cons_of_mem _ hmem,
      List.forall_mem_cons.mpr ⟨?_, hplain⟩⟩
    · rw [List.append_assoc]
      exact readSteps?_field_of_head? hhead hread
    · exact Directive.ones_mem_plain (kind_of_numeric ht) hleast.le hmost.ge

theorem numeric_cases : ∀ t ∈ numericTokens, ¬(Item.token t).isFixed = true →
    t.directive ∈ shortDirectives ∧ t.width = .digits 2 ∨
      t.directive ∈ shortDirectives ∧ t.width = .oneOrTwoDigits ∨
        t.directive = .fraction ∧ t.width = .digits 3 := by
  decide

theorem loose_cases : ∀ t ∈ numericTokens,
    (¬(Item.token t).isTight = true → t.size 1 < t.directive.most) ∧
      (¬(Item.token t).isLax = true → t.directive.least < t.size 1) ∧
        (¬(Item.token t).isFixed = true → t.directive.least < t.size 2) := by
  decide

theorem exists_misread {ts : List Token} (hts : ∀ t ∈ ts, t ∈ numericTokens)
    (hmixed : ¬Unmixed (ts.map .token)) : ∃ w d u u', Misread (ts.map .token) w d u u' := by
  -- The first token that is not fixed is the one that is misread; which of its readings is wrong
  -- depends on what it is, and the text takes its length from that.
  induction ts with
  | nil => exact absurd (.inr (.inr (by simp))) hmixed
  | cons t ts ih =>
    obtain ⟨ht, hts⟩ := List.forall_mem_cons.mp hts
    by_cases hfixed : (Item.token t).isFixed = true
    · have hlax : (Item.token t).isLax = true := by simp [Item.isLax, hfixed]
      have htight := Item.isTight_of_isFixed hfixed
      obtain ⟨w, d, u, u', h⟩ :=
        ih hts fun h => hmixed (by simpa [Unmixed, hfixed, hlax, htight] using h)
      exact ⟨_, d, u, u', h.cons ht hfixed⟩
    · simp only [Unmixed, not_or, List.map_cons, List.forall_mem_cons, not_and] at hmixed
      obtain ⟨hlax, htight, hmany⟩ := hmixed
      rcases numeric_cases t ht hfixed with ⟨hd, hw⟩ | ⟨hd, hw⟩ | ⟨hd, hw⟩
      · have hbehind : ∃ t ∈ ts, ¬(Item.token t).isTight = true := by
          simpa using htight (by simp [Item.isTight, hw])
        exact ⟨_, _, _, _, misread_of_two_digits hts hd hw
          (hbehind.imp fun t ht => ⟨ht.1, (loose_cases t (hts t ht.1)).1 ht.2⟩)⟩
      · have hbehind : ∃ t ∈ ts, ¬(Item.token t).isLax = true := by
          simpa using hlax (by simp [Item.isLax, hw])
        exact ⟨_, _, _, _, misread_of_one_or_two_digits hts hd hw
          (hbehind.imp fun t ht => ⟨ht.1, (loose_cases t (hts t ht.1)).2.1 ht.2⟩)⟩
      · have hbehind : ∃ t ∈ ts, ¬(Item.token t).isFixed = true := by
          by_contra h
          have hall : ∀ t ∈ ts, (Item.token t).isFixed = true := by simpa using h
          exact hmany (by simpa [hfixed] using hall)
        obtain ⟨u, h⟩ := misread_of_fraction ht hts hd hw
          (hbehind.imp fun t ht => ⟨ht.1, (loose_cases t (hts t ht.1)).2.2 ht.2⟩)
        exact ⟨_, _, _, _, h⟩

end Misread

end FormRules.DateFormat
