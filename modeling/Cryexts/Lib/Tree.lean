import Cryexts.Lib.Chain
import Mathlib.Data.Finset.Card

set_option autoImplicit false

/-! A tree given by its parents: from every node of it the parents lead to the root. -/

namespace Linked

open WriteLog (store store_same store_other)

variable {α : Type}

/-- No node comes twice on the way to the end. -/
theorem Chain.nodup {nil : α} {next : α → α} {head : α} {nodes : List α}
    (chain : Chain nil next head nodes) : nodes.Nodup := by
  induction nodes generalizing head with
  | nil => exact List.nodup_nil
  | cons node rest ih =>
      obtain ⟨_, _, behind⟩ := chain
      refine List.nodup_cons.mpr ⟨?_, ih behind⟩
      intro again
      obtain ⟨before, tail, split⟩ := List.append_of_mem again
      have shorter : Chain nil next (next node) tail := by
        rw [split] at behind
        exact behind.suffix
      have lengths := congrArg List.length (shorter.unique behind)
      rw [split, List.length_append, List.length_cons] at lengths
      omega

/-- `path` are the nodes from `node` up to the root, which is not among them. -/
def Climbs (root : α) (parent : α → α) (node : α) (path : List α) : Prop :=
  Chain root parent node path

/-- The node lies on the way up from `low`, or is the root. -/
def Above (root : α) (parent : α → α) (high low : α) : Prop :=
  high = root ∨ ∃ path, Climbs root parent low path ∧ high ∈ path

section Climbing

variable {root : α} {parent : α → α} {node : α} {path : List α}

theorem Climbs.at_root : Climbs root parent root [] := rfl

theorem Climbs.step (below : node ≠ root) (rest : Climbs root parent (parent node) path) :
    Climbs root parent node (node :: path) := ⟨rfl, below, rest⟩

theorem Climbs.nodup (climbs : Climbs root parent node path) : path.Nodup := Chain.nodup climbs

theorem Climbs.ne_root (climbs : Climbs root parent node path) : root ∉ path :=
  fun member => Chain.ne_nil climbs root member rfl

theorem Climbs.above_iff (climbs : Climbs root parent node path) (high : α) :
    Above root parent high node ↔ high = root ∨ high ∈ path := by
  constructor
  · rintro (top | ⟨other, up, member⟩)
    · exact Or.inl top
    · rw [Chain.unique up climbs] at member
      exact Or.inr member
  · rintro (top | member)
    · exact Or.inl top
    · exact Or.inr ⟨path, climbs, member⟩

/-- The nodes of a path are the nodes it passes, from a set that has every parent of its own. -/
theorem Climbs.subset [DecidableEq α] (climbs : Climbs root parent node path) (nodes : Finset α)
    (inside : node ∈ nodes) (closed : ∀ other ∈ nodes, other ≠ root → parent other ∈ nodes) :
    ∀ other ∈ path, other ∈ nodes := by
  induction path generalizing node with
  | nil => simp
  | cons first rest ih =>
      obtain ⟨rfl, below, behind⟩ := climbs
      intro other member
      rcases List.mem_cons.mp member with rfl | later
      · exact inside
      · exact ih behind (closed _ inside below) other later

/-- The way up is shorter than the set is large. -/
theorem Climbs.length_lt [DecidableEq α] (climbs : Climbs root parent node path) (nodes : Finset α)
    (top : root ∈ nodes) (inside : node ∈ nodes)
    (closed : ∀ other ∈ nodes, other ≠ root → parent other ∈ nodes) :
    path.length < nodes.card := by
  have once := climbs.nodup
  have within : path.toFinset ⊆ nodes.erase root := by
    intro other member
    rw [List.mem_toFinset] at member
    rw [Finset.mem_erase]
    refine ⟨?_, climbs.subset nodes inside closed other member⟩
    rintro rfl
    exact climbs.ne_root member
  have count := Finset.card_le_card within
  rw [List.toFinset_card_of_nodup once, Finset.card_erase_of_mem top] at count
  have positive := Finset.card_pos.mpr ⟨root, top⟩
  omega

variable [DecidableEq α]

/-- A node that gets another parent is on no way that does not pass it. -/
theorem Climbs.store_away (climbs : Climbs root parent node path) (moved new : α)
    (away : moved ∉ path) : Climbs root (store parent moved new) node path := by
  apply Chain.congr climbs
  intro other member
  apply store_other
  rintro rfl
  exact away member

/-- A node is moved below one that it is not above: everything still climbs to the root. -/
theorem Climbs.move (climbs : Climbs root parent node path) (moved new : α) (up : List α)
    (target : Climbs root parent new up) (outside : moved ∉ up) :
    ∃ other, Climbs root (store parent moved new) node other := by
  have high := target.store_away moved new outside
  induction path generalizing node with
  | nil => exact ⟨[], climbs⟩
  | cons first rest ih =>
      obtain ⟨rfl, below, behind⟩ := climbs
      by_cases here : node = moved
      · refine ⟨node :: up, Climbs.step below ?_⟩
        rw [here, store_same]
        exact high
      · obtain ⟨other, climbed⟩ := ih behind
        refine ⟨node :: other, Climbs.step below ?_⟩
        rw [store_other _ _ _ _ here]
        exact climbed

/-- A new node below one that climbs. -/
theorem Climbs.grow (new above : α) (up : List α) (low : new ≠ root)
    (target : Climbs root parent above up) (fresh : new ∉ up) :
    Climbs root (store parent new above) new (new :: up) := by
  refine Climbs.step low ?_
  rw [store_same]
  exact target.store_away new above fresh

end Climbing

end Linked
