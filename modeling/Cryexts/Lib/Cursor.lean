import Mathlib.Data.List.Nodup
import Mathlib.Data.List.Count
import Mathlib.Tactic.Common

set_option autoImplicit false

/-! An enumeration of items at places, by a position that only moves up, while items come and
go. -/

namespace Cursor

variable {α κ : Type}

/-- Items at places, from low to high. -/
def Ordered (spots : List (Nat × α)) : Prop := spots.Pairwise fun first second => first.1 < second.1

/-- One item more, wherever in the order it comes. -/
def Inserted (spot : Nat × α) (before after : List (Nat × α)) : Prop :=
  ∃ front rest, before = front ++ rest ∧ after = front ++ spot :: rest

/-- The items at places from `low` up to `high`. -/
def between (low high : Nat) (spots : List (Nat × α)) : List α :=
  (spots.filter fun spot => decide (low ≤ spot.1 ∧ spot.1 < high)).map Prod.snd

/-- The items enumerated while the position went from `low` to `high`. -/
structure Emits (spots : List (Nat × α)) (low high : Nat) (before after : List α) : Prop where
  forward : low ≤ high
  items : after = before ++ between low high spots

theorem Inserted.mem {spot : Nat × α} {before after : List (Nat × α)}
    (inserted : Inserted spot before after) (other : Nat × α) :
    other ∈ after ↔ other = spot ∨ other ∈ before := by
  obtain ⟨front, rest, rfl, rfl⟩ := inserted
  simp only [List.mem_append, List.mem_cons]
  tauto

theorem Inserted.perm {spot : Nat × α} {before after : List (Nat × α)}
    (inserted : Inserted spot before after) : after.Perm (spot :: before) := by
  obtain ⟨front, rest, rfl, rfl⟩ := inserted
  exact List.perm_middle

theorem between_nil (low high : Nat) : between low high ([] : List (Nat × α)) = [] := rfl

theorem between_cons (low high : Nat) (spot : Nat × α) (rest : List (Nat × α)) :
    between low high (spot :: rest) =
      if low ≤ spot.1 ∧ spot.1 < high then spot.2 :: between low high rest
      else between low high rest := by
  unfold between
  rw [List.filter_cons]
  split
  · rename_i inside
    rw [if_pos (of_decide_eq_true inside), List.map_cons]
  · rename_i outside
    rw [if_neg (by simpa using outside)]

theorem between_append (low high : Nat) (first second : List (Nat × α)) :
    between low high (first ++ second) = between low high first ++ between low high second := by
  simp [between]

theorem between_empty (low high : Nat) (spots : List (Nat × α))
    (outside : ∀ spot ∈ spots, ¬ (low ≤ spot.1 ∧ spot.1 < high)) : between low high spots = [] := by
  unfold between
  rw [List.map_eq_nil_iff, List.filter_eq_nil_iff]
  intro spot member
  simpa using outside spot member

/-- An interval cut in two enumerates its items in the same order. -/
theorem between_trans (low mid high : Nat) (spots : List (Nat × α)) (ordered : Ordered spots)
    (lower : low ≤ mid) (upper : mid ≤ high) :
    between low high spots = between low mid spots ++ between mid high spots := by
  induction spots with
  | nil => rfl
  | cons spot rest ih =>
      obtain ⟨above, tail⟩ := List.pairwise_cons.mp ordered
      have later := ih tail
      rw [between_cons, between_cons, between_cons]
      by_cases early : spot.1 < mid
      · rw [if_neg (show ¬ (mid ≤ spot.1 ∧ spot.1 < high) by omega)]
        by_cases inside : low ≤ spot.1
        · rw [if_pos ⟨inside, by omega⟩, if_pos ⟨inside, early⟩, later, List.cons_append]
        · rw [if_neg (by omega), if_neg (by omega), later]
      · have none : between low mid rest = [] := by
          apply between_empty
          intro other member
          have order := above other member
          omega
        rw [if_neg (show ¬ (low ≤ spot.1 ∧ spot.1 < mid) by omega), later, none, List.nil_append,
          List.nil_append]
        by_cases inside : spot.1 < high
        · rw [if_pos (by omega), if_pos (by omega)]
        · rw [if_neg (by omega), if_neg (by omega)]

theorem Emits.refl (spots : List (Nat × α)) (position : Nat) (items : List α) :
    Emits spots position position items items where
  forward := Nat.le_refl _
  items := by
    rw [between_empty _ _ _ (by omega), List.append_nil]

theorem Emits.trans {spots : List (Nat × α)} {low mid high : Nat} {before between_ after : List α}
    (ordered : Ordered spots) (first : Emits spots low mid before between_)
    (second : Emits spots mid high between_ after) : Emits spots low high before after where
  forward := Nat.le_trans first.forward second.forward
  items := by
    rw [second.items, first.items, between_trans low mid high spots ordered first.forward
      second.forward, List.append_assoc]

/-- Items behind the interval are not enumerated. -/
theorem Emits.left {first : List (Nat × α)} {low high : Nat} {before after : List α}
    (emits : Emits first low high before after) (second : List (Nat × α))
    (behind : ∀ spot ∈ second, high ≤ spot.1) : Emits (first ++ second) low high before after where
  forward := emits.forward
  items := by
    have none : between low high second = [] := by
      apply between_empty
      intro spot member
      have bound := behind spot member
      omega
    rw [emits.items, between_append, none, List.append_nil]

/-- Nor are the items before it. -/
theorem Emits.right {second : List (Nat × α)} {low high : Nat} {before after : List α}
    (emits : Emits second low high before after) (first : List (Nat × α))
    (ahead : ∀ spot ∈ first, spot.1 < low) : Emits (first ++ second) low high before after where
  forward := emits.forward
  items := by
    have none : between low high first = [] := by
      apply between_empty
      intro spot member
      have bound := ahead spot member
      omega
    rw [emits.items, between_append, none, List.nil_append]

theorem Inserted.within {spot : Nat × α} {before after : List (Nat × α)}
    (inserted : Inserted spot before after) (front rest : List (Nat × α)) :
    Inserted spot (front ++ before ++ rest) (front ++ after ++ rest) := by
  obtain ⟨left, right, rfl, rfl⟩ := inserted
  exact ⟨front ++ left, right ++ rest, by simp, by simp⟩

section Keys

variable [DecidableEq κ] (key : α → κ)

/-- How often the items with a key have been enumerated. -/
def times (wanted : κ) (items : List α) : Nat := (items.map key).count wanted

/-- No two items have the same key. -/
def Distinct (spots : List (Nat × α)) : Prop := (spots.map fun spot => key spot.2).Nodup

/-- The item with the key has been enumerated once if it is below the position, and not yet
otherwise. -/
def Fair (spots : List (Nat × α)) (position : Nat) (items : List α) (wanted : κ) : Prop :=
  ∀ place item, (place, item) ∈ spots → key item = wanted →
    times key wanted items = if place < position then 1 else 0

variable {key}

/-- In an interval the one item with a key is enumerated once. -/
theorem times_between (spots : List (Nat × α)) (distinct : Distinct key spots) (place : Nat)
    (item : α) (member : (place, item) ∈ spots) (low high : Nat) :
    times key (key item) (between low high spots) =
      if low ≤ place ∧ place < high then 1 else 0 := by
  have absent : ∀ rest : List (Nat × α), (∀ spot ∈ rest, key spot.2 ≠ key item) →
      times key (key item) (between low high rest) = 0 := by
    intro rest others
    apply List.count_eq_zero_of_not_mem
    intro inside
    simp only [between, List.map_map, List.mem_map, List.mem_filter, Function.comp_apply] at inside
    obtain ⟨spot, ⟨here, _⟩, same⟩ := inside
    exact others spot here same
  induction spots with
  | nil => cases member
  | cons spot rest ih =>
      obtain ⟨fresh, tail⟩ := List.nodup_cons.mp distinct
      rw [between_cons]
      rcases List.mem_cons.mp member with rfl | later
      · have none := absent rest fun other inside same =>
          fresh (List.mem_map.mpr ⟨other, inside, same⟩)
        split
        · rw [times, List.map_cons, List.count_cons_self]
          exact congrArg (· + 1) none
        · exact none
      · have other : key spot.2 ≠ key item := by
          intro same
          exact fresh (List.mem_map.mpr ⟨(place, item), later, same.symm⟩)
        split
        · rw [times, List.map_cons, List.count_cons_of_ne other]
          exact ih tail later
        · exact ih tail later

theorem fair_start (spots : List (Nat × α)) (wanted : κ) : Fair key spots 0 [] wanted := by
  intro place item _ _
  rw [if_neg (Nat.not_lt_zero place)]
  rfl

theorem Fair.emits {spots : List (Nat × α)} {low high : Nat} {before after : List α} {wanted : κ}
    (fair : Fair key spots low before wanted) (distinct : Distinct key spots)
    (emits : Emits spots low high before after) : Fair key spots high after wanted := by
  intro place item member same
  have earlier := fair place item member same
  have now := times_between spots distinct place item member low high
  have forward := emits.forward
  rw [emits.items, times, List.map_append, List.count_append]
  rw [times] at earlier
  rw [times, same] at now
  rw [earlier, now]
  split <;> split <;> split <;> omega

omit [DecidableEq κ] in
theorem Inserted.distinct {spot : Nat × α} {before after : List (Nat × α)}
    (inserted : Inserted spot before after) :
    Distinct key after ↔
      (∀ other ∈ before, key other.2 ≠ key spot.2) ∧ Distinct key before := by
  have same := (inserted.perm.map fun spot => key spot.2).nodup_iff
  rw [Distinct, same, List.map_cons, List.nodup_cons, List.mem_map, Distinct]
  apply and_congr_left
  intro _
  constructor
  · intro absent other member equal
    exact absent ⟨other, member, equal⟩
  · rintro fresh ⟨other, member, equal⟩
    exact fresh other member equal

/-- Items with other keys come and go without a trace. -/
theorem Fair.of_mem {before after : List (Nat × α)} {position : Nat} {items : List α} {wanted : κ}
    (fair : Fair key before position items wanted)
    (same : ∀ spot, spot ∈ after → key spot.2 = wanted → spot ∈ before) :
    Fair key after position items wanted := by
  intro place item member keyed
  exact fair place item (same _ member keyed) keyed

end Keys

end Cursor
