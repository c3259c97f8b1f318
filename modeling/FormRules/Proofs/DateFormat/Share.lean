import FormRules.Proofs.DateFormat.Tried

namespace FormRules.DateFormat

def ones (n : Nat) : List Char := List.replicate n '1'

theorem length_ones (n : Nat) : (ones n).length = n := List.length_replicate

theorem ones_add (m n : Nat) : ones (m + n) = ones m ++ ones n :=
  List.replicate_add m n '1'

theorem take_ones_append {k n : Nat} (h : k ≤ n) (r : List Char) :
    (ones n ++ r).take k = ones k := by
  obtain ⟨m, rfl⟩ := Nat.exists_eq_add_of_le h
  rw [ones_add, List.append_assoc, List.take_left' (length_ones k)]

theorem drop_ones_append {k n : Nat} (h : k ≤ n) (r : List Char) :
    (ones n ++ r).drop k = ones (n - k) ++ r := by
  obtain ⟨m, rfl⟩ := Nat.exists_eq_add_of_le h
  rw [ones_add, List.append_assoc, List.drop_left' (length_ones k), Nat.add_sub_cancel_left]

structure Bare (r : List Char) : Prop where
  head : r.head?.map kind ≠ some .digit
  lengths : ∀ d : Directive, d.kind = .digit → d.lengths r = []

theorem Shape.fits_ones {p : Shape} {r : List Char} (hp : p.OfKind .digit)
    (hr : r.head?.map kind ≠ some .digit) (n : Nat) :
    p.fits (ones n ++ r) = (p.all (· '1') && decide (p.length ≤ n)) := by
  induction p generalizing n with
  | nil => simp [fits]
  | cons a p ih =>
    obtain ⟨ha, hp⟩ := List.forall_mem_cons.mp hp
    cases n with
    | zero =>
      cases r with
      | nil => simp [ones, fits]
      | cons c r =>
        have hc : a c = false := by
          by_contra h
          exact hr (congrArg some (ha c (by simpa using h)))
        simp [ones, fits, hc]
    | succ n =>
      have ih := ih hp n
      simp only [ones] at ih
      simp [ones, List.replicate_succ, fits, ih, Bool.and_assoc]

namespace Directive

def least : Directive → Nat
  | .year => 4
  | .shortYear => 2
  | _ => 1

def most : Directive → Nat
  | .year => 4
  | .fraction => 6
  | _ => 2

def counts (d : Directive) : List Nat := (d.shapes.filter fun p => p.all (· '1')).map List.length

theorem counts_eq {d : Directive} (hd : d.kind = .digit) :
    d.counts = (List.range (d.most + 1 - d.least)).map (d.most - ·) := by
  cases d <;> first | decide | cases hd

theorem least_le_most (d : Directive) : d.least ≤ d.most := by
  cases d <;> decide

theorem mem_counts_iff {d : Directive} (hd : d.kind = .digit) {n : Nat} :
    n ∈ d.counts ↔ d.least ≤ n ∧ n ≤ d.most := by
  have hle := d.least_le_most
  simp only [counts_eq hd, List.mem_map, List.mem_range]
  constructor
  · rintro ⟨i, hi, rfl⟩
    omega
  · rintro ⟨hlo, hhi⟩
    exact ⟨d.most - n, by omega, by omega⟩

theorem pairwise_counts (d : Directive) : d.counts.Pairwise (· > ·) := by
  cases d <;> decide

theorem lengths_ones {d : Directive} (hd : d.kind = .digit) {r : List Char} (hr : Bare r)
    (n : Nat) :
    d.lengths (ones n ++ r) = d.counts.filter (· ≤ n) := by
  have hfits : ∀ p ∈ d.shapes,
      p.fits (ones n ++ r) = (p.all (· '1') && decide (p.length ≤ n)) := by
    intro p hp
    rcases ofKind_of_mem_shapes hp with hkind | ⟨rfl, rfl⟩
    · exact Shape.fits_ones (hd ▸ hkind) hr.head n
    · cases n with
      | zero =>
        have hnil := hr.lengths .day rfl
        simp only [lengths, List.map_eq_nil_iff, List.filter_eq_nil_iff] at hnil
        simpa [ones] using hnil _ hp
      | succ n => simp [ones, List.replicate_succ, Shape.fits, is]
  rw [lengths, List.filter_congr hfits, counts, List.filter_map, List.filter_filter]
  exact congrArg _ (List.filter_congr fun p _ => Bool.and_comm _ _)

end Directive

def leastWidth (ds : List Directive) : Nat := (ds.map Directive.least).sum

def mostWidth (ds : List Directive) : Nat := (ds.map Directive.most).sum

theorem leastWidth_cons (d : Directive) (ds : List Directive) :
    leastWidth (d :: ds) = d.least + leastWidth ds := List.sum_cons

theorem mostWidth_cons (d : Directive) (ds : List Directive) :
    mostWidth (d :: ds) = d.most + mostWidth ds := List.sum_cons

theorem leastWidth_le_mostWidth (ds : List Directive) : leastWidth ds ≤ mostWidth ds :=
  List.sum_le_sum fun d _ => d.least_le_most

def share : List Directive → Nat → Parts
  | [], _ => []
  | d :: ds, n =>
    let k := min d.most (n - leastWidth ds)
    (d, ones k) :: share ds (n - k)

theorem findSome?_eq_of_pairwise {α : Type} {f : Nat → Option α} {ns : List Nat} {n : Nat} {a : α}
    (hns : ns.Pairwise (· > ·)) (hn : n ∈ ns) (ha : f n = some a)
    (hgt : ∀ m ∈ ns, n < m → f m = none) : ns.findSome? f = some a := by
  obtain ⟨before, after, rfl⟩ := List.append_of_mem hn
  have hbefore : before.findSome? f = none := by
    rw [List.findSome?_eq_none_iff]
    intro m hm
    exact hgt m (by simp [hm]) ((List.pairwise_append.mp hns).2.2 m hm n (by simp))
  simp [List.findSome?_append, hbefore, ha]

section Share

variable {ds : List Directive} {ps : List Step} {r : List Char}

theorem readSteps?_ones_eq_none (hds : ∀ d ∈ ds, d.kind = .digit) (hr : Bare r) {n : Nat}
    (hn : n < leastWidth ds) : readSteps? (ds.map .field ++ ps) (ones n ++ r) = none := by
  induction ds generalizing n with
  | nil => cases hn
  | cons d ds ih =>
    obtain ⟨hd, hds⟩ := List.forall_mem_cons.mp hds
    rw [leastWidth_cons] at hn
    rw [List.map_cons, List.cons_append, readSteps?, Directive.lengths_ones hd hr,
      List.findSome?_eq_none_iff]
    intro k hk
    simp only [List.mem_filter, Directive.mem_counts_iff hd, decide_eq_true_eq] at hk
    rw [drop_ones_append hk.2, ih hds (by omega)]
    rfl

theorem readSteps?_ones (hds : ∀ d ∈ ds, d.kind = .digit) (hr : Bare r) {rest : Parts}
    (hrest : readSteps? ps r = some (rest, [])) {n : Nat} (hlo : leastWidth ds ≤ n)
    (hhi : n ≤ mostWidth ds) :
    readSteps? (ds.map .field ++ ps) (ones n ++ r) = some (share ds n ++ rest, []) := by
  induction ds generalizing n with
  | nil =>
    obtain rfl : n = 0 := Nat.le_zero.mp hhi
    exact hrest
  | cons d ds ih =>
    obtain ⟨hd, hds⟩ := List.forall_mem_cons.mp hds
    have hle := leastWidth_le_mostWidth ds
    have hle_d := d.least_le_most
    rw [leastWidth_cons] at hlo
    rw [mostWidth_cons] at hhi
    rw [List.map_cons, List.cons_append, readSteps?, Directive.lengths_ones hd hr]
    -- Any more for `d` would leave too few ones for the directives behind it.
    refine findSome?_eq_of_pairwise (n := min d.most (n - leastWidth ds))
      ((Directive.pairwise_counts d).filter _) ?_ ?_ ?_
    · simp only [List.mem_filter, Directive.mem_counts_iff hd, decide_eq_true_eq]
      omega
    · rw [drop_ones_append (by omega), take_ones_append (by omega), ih hds (by omega) (by omega)]
      rfl
    · intro k hk hgt
      simp only [List.mem_filter, Directive.mem_counts_iff hd, decide_eq_true_eq] at hk
      rw [drop_ones_append hk.2, readSteps?_ones_eq_none hds hr (by omega)]
      rfl

theorem mem_share {n : Nat} {p : Directive × List Char} (hlo : leastWidth ds ≤ n)
    (hp : p ∈ share ds n) :
    p.1 ∈ ds ∧ ∃ k, p.1.least ≤ k ∧ k ≤ p.1.most ∧ p.2 = ones k := by
  induction ds generalizing n with
  | nil => cases hp
  | cons d ds ih =>
    have hle := d.least_le_most
    rw [leastWidth_cons] at hlo
    rcases List.mem_cons.mp hp with rfl | hp
    · exact ⟨List.mem_cons_self, _, Nat.le_min.mpr ⟨hle, Nat.le_sub_of_add_le hlo⟩,
        Nat.min_le_left _ _, rfl⟩
    · obtain ⟨hmem, hk⟩ := ih (by omega) hp
      exact ⟨List.mem_cons_of_mem d hmem, hk⟩

end Share

end FormRules.DateFormat
