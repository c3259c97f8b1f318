import FormRules.Value.Written

namespace FormRules

theorem Integer.isLong_one : isLong 1 = false := by decide

namespace Unwritable

/-- What is refused is refused with reason, and nothing else is. -/
inductive Tells (deep long : Prop) : Option Unwritable → Prop
  | written : ¬deep → ¬long → Tells deep long none
  | tooDeep : deep → Tells deep long (some .tooDeep)
  | tooLong : long → Tells deep long (some .tooLong)

variable {deep long deep' long' : Prop} {o o' : Option Unwritable}

theorem tells_tooDeep [Decidable deep] :
    Tells deep False (if deep then some .tooDeep else none) := by
  split
  · exact .tooDeep (by assumption)
  · exact .written (by assumption) id

theorem tells_tooLong [Decidable long] :
    Tells False long (if long then some .tooLong else none) := by
  split
  · exact .tooLong (by assumption)
  · exact .written id (by assumption)

theorem Tells.or (h : Tells deep long o) (h' : Tells deep' long' o') :
    Tells (deep ∨ deep') (long ∨ long') (o.or o') := by
  cases h with
  | written hdeep hlong =>
    cases h' with
    | written hdeep' hlong' =>
      exact .written (not_or.mpr ⟨hdeep, hdeep'⟩) (not_or.mpr ⟨hlong, hlong'⟩)
    | tooDeep h => exact .tooDeep (.inr h)
    | tooLong h => exact .tooLong (.inr h)
  | tooDeep h => exact .tooDeep (.inl h)
  | tooLong h => exact .tooLong (.inl h)

theorem Tells.congr (h : Tells deep long o) (hdeep : deep ↔ deep') (hlong : long ↔ long') :
    Tells deep' long' o := by
  obtain rfl := propext hdeep
  obtain rfl := propext hlong
  exact h

theorem Tells.eq_tooDeep (h : Tells deep long o) (hdeep : deep) (hlong : ¬long) :
    o = some .tooDeep := by
  cases h with
  | written hno _ => exact absurd hdeep hno
  | tooDeep _ => rfl
  | tooLong h => exact absurd h hlong

theorem Tells.eq_none_iff (h : Tells deep long o) : o = none ↔ ¬deep ∧ ¬long := by
  cases h with
  | written hdeep hlong => exact ⟨fun _ => ⟨hdeep, hlong⟩, fun _ => rfl⟩
  | tooDeep h => exact ⟨nofun, fun hno => absurd h hno.1⟩
  | tooLong h => exact ⟨nofun, fun hno => absurd h hno.2⟩

end Unwritable

namespace Value

open Unwritable

mutual

def HasLong : Value → Prop
  | .int n => Integer.isLong n
  | .list items => ItemsHaveLong items
  | .pair a b => a.HasLong ∨ b.HasLong
  | .set members => ItemsHaveLong members
  | .mapping entries => EntriesHaveLong entries
  | _ => False

def ItemsHaveLong : List Value → Prop
  | [] => False
  | v :: r => v.HasLong ∨ ItemsHaveLong r

def EntriesHaveLong : List (Value × Value) → Prop
  | [] => False
  | (k, v) :: r => (k.HasLong ∨ v.HasLong) ∨ EntriesHaveLong r

end

mutual

def levels : Value → Nat
  | .moment t => offsetLevels t + 1
  | .list items => itemsLevels items + 1
  | .pair a b => max a.levels b.levels + 1
  | .set [] => 1
  | .set members => itemsLevels members + 2
  | .mapping entries => entriesLevels entries + 1
  | _ => 1

def itemsLevels : List Value → Nat
  | [] => 0
  | v :: r => max v.levels (itemsLevels r)

def entriesLevels : List (Value × Value) → Nat
  | [] => 0
  | (k, v) :: r => max (max k.levels v.levels) (entriesLevels r)

end

theorem levels_pos (v : Value) : 0 < v.levels := by
  cases v with
  | set members => cases members <;> simp [levels]
  | _ => simp [levels]

theorem lt_levels_set {members : List Value} {room : Nat} :
    room + 1 < (Value.set members).levels ↔ room - 1 < itemsLevels members := by
  cases members with
  | nil => simp [levels, itemsLevels]
  | cons v r =>
    have hpos := v.levels_pos
    simp only [levels, itemsLevels]
    omega

theorem tells_of_succ {v : Value}
    (h : ∀ room, Tells (room + 1 < v.levels) v.HasLong (v.expressionRefusal? (room + 1))) :
    ∀ room, Tells (room < v.levels) v.HasLong (v.expressionRefusal? room)
  | 0 => by
    have hdeep : v.expressionRefusal? 0 = some .tooDeep := by
      cases v <;> rw [expressionRefusal?]
    rw [hdeep]
    exact .tooDeep v.levels_pos
  | room + 1 => h room

mutual

theorem tells_expressionRefusal? : ∀ (v : Value) (room : Nat),
    Tells (room < v.levels) v.HasLong (v.expressionRefusal? room)
  | .int n => tells_of_succ fun _ => tells_tooLong.congr (by simp [levels]) Iff.rfl
  | .moment t => tells_of_succ fun _ => tells_tooDeep.congr Nat.succ_lt_succ_iff.symm Iff.rfl
  | .list items => tells_of_succ fun room =>
    (tells_itemsRefusal? items room).congr Nat.succ_lt_succ_iff.symm Iff.rfl
  | .pair a b => tells_of_succ fun room =>
    ((tells_expressionRefusal? a room).or (tells_expressionRefusal? b room)).congr
      (by simp only [levels]; omega) Iff.rfl
  | .set members => tells_of_succ fun room =>
    (tells_itemsRefusal? members (room - 1)).congr lt_levels_set.symm Iff.rfl
  | .mapping entries => tells_of_succ fun room =>
    (tells_entriesRefusal? entries room).congr Nat.succ_lt_succ_iff.symm Iff.rfl
  | .null | .bool _ | .double _ | .decimal _ | .text _ | .bytes _ | .date _ | .again _ =>
    tells_of_succ fun _ => .written (by simp [levels]) id

theorem tells_itemsRefusal? : ∀ (items : List Value) (room : Nat),
    Tells (room < itemsLevels items) (ItemsHaveLong items) (itemsRefusal? items room)
  | [], _ => .written (Nat.not_lt_zero _) id
  | v :: r, room =>
    ((tells_expressionRefusal? v room).or (tells_itemsRefusal? r room)).congr
      (by simp only [itemsLevels]; omega) Iff.rfl

theorem tells_entriesRefusal? : ∀ (entries : List (Value × Value)) (room : Nat),
    Tells (room < entriesLevels entries) (EntriesHaveLong entries) (entriesRefusal? entries room)
  | [], _ => .written (Nat.not_lt_zero _) id
  | (k, v) :: r, room =>
    (((tells_expressionRefusal? k room).or (tells_expressionRefusal? v room)).or
      (tells_entriesRefusal? r room)).congr (by simp only [entriesLevels]; omega) Iff.rfl

end

def ownLevels : Value → Nat
  | .text _ => 0
  | .date _ => 2
  | .moment t => if t.offset.isSome then 3 else 2
  | v => v.levels

theorem tells_refusal? (v : Value) (room : Nat) :
    Tells (room < v.ownLevels) v.HasLong (v.refusal? room) := by
  cases v with
  | text s => exact .written (Nat.not_lt_zero _) id
  | date d => exact tells_tooDeep
  | moment t => exact tells_tooDeep
  | _ => exact tells_expressionRefusal? _ room

def nested : Nat → Value → Value
  | 0, v => v
  | n + 1, v => .list [nested n v]

theorem levels_nested (n : Nat) (v : Value) : (nested n v).levels = v.levels + n := by
  induction n with
  | zero => rfl
  | succ n ih => simp [nested, levels, itemsLevels, ih, Nat.add_assoc]

theorem hasLong_nested (n : Nat) (v : Value) : (nested n v).HasLong ↔ v.HasLong := by
  induction n with
  | zero => rfl
  | succ n ih => simp [nested, HasLong, ItemsHaveLong, ih]

theorem refusal?_nested {v : Value} {n room : Nat} (hv : ¬v.HasLong) (hroom : room ≤ n + 1) :
    (nested (n + 1) v).refusal? room = some .tooDeep := by
  have hpos := v.levels_pos
  have hdeep : room < (nested (n + 1) v).levels := by
    rw [levels_nested]
    omega
  exact (tells_refusal? (nested (n + 1) v) room).eq_tooDeep hdeep (mt (hasLong_nested _ _).mp hv)

def Fits (room : Nat) (v : Value) : Prop := v.ownLevels ≤ room ∧ ¬v.HasLong

theorem Fits.mono {v : Value} {room room' : Nat} (h : v.Fits room) (hle : room ≤ room') :
    v.Fits room' :=
  ⟨Nat.le_trans h.1 hle, h.2⟩

theorem refusal?_eq_none_iff {v : Value} {room : Nat} : v.refusal? room = none ↔ v.Fits room := by
  rw [(v.tells_refusal? room).eq_none_iff, Nat.not_lt, Fits]

end Value

end FormRules
