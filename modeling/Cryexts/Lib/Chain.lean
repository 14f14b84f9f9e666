import Cryexts.Lib.WriteLog
import Mathlib.Data.List.Nodup

set_option autoImplicit false

/-! A singly linked list through a table of successors, with `nil` for the end. -/

namespace Linked

open WriteLog (store store_same store_other)

variable {α : Type}

/-- From `head` the table leads through the nodes of the list, in order, to `nil`. -/
def Chain (nil : α) (next : α → α) : α → List α → Prop
  | head, [] => head = nil
  | head, node :: rest => head = node ∧ node ≠ nil ∧ Chain nil next (next node) rest

variable {nil : α} {next : α → α}

theorem Chain.ne_nil {head : α} {nodes : List α} (chain : Chain nil next head nodes) :
    ∀ node ∈ nodes, node ≠ nil := by
  induction nodes generalizing head with
  | nil => simp
  | cons first rest ih =>
      intro node member
      rcases List.mem_cons.mp member with rfl | later
      · exact chain.2.1
      · exact ih chain.2.2 node later

/-- The table and the head determine the list. -/
theorem Chain.unique {head : α} {first second : List α} (chain : Chain nil next head first)
    (other : Chain nil next head second) : first = second := by
  induction first generalizing head second with
  | nil =>
      cases second with
      | nil => rfl
      | cons node rest => exact absurd (other.1.symm.trans chain) other.2.1
  | cons node rest ih =>
      cases second with
      | nil => exact absurd (chain.1.symm.trans other) chain.2.1
      | cons node' rest' =>
          have same : node = node' := chain.1.symm.trans other.1
          subst same
          rw [ih chain.2.2 other.2.2]

theorem Chain.congr {after : α → α} {head : α} {nodes : List α} (chain : Chain nil next head nodes)
    (same : ∀ node ∈ nodes, after node = next node) : Chain nil after head nodes := by
  induction nodes generalizing head with
  | nil => exact chain
  | cons first rest ih =>
      refine ⟨chain.1, chain.2.1, ?_⟩
      rw [same first List.mem_cons_self]
      exact ih chain.2.2 fun node member => same node (List.mem_cons_of_mem _ member)

/-- A list splits at any of its nodes, and may be joined with another end there. -/
theorem Chain.rejoin {after : α → α} {head node : α} {before tail other : List α}
    (chain : Chain nil next head (before ++ node :: tail))
    (same : ∀ earlier ∈ before, after earlier = next earlier)
    (joined : Chain nil after (after node) other) :
    Chain nil after head (before ++ node :: other) := by
  induction before generalizing head with
  | nil => exact ⟨chain.1, chain.2.1, joined⟩
  | cons first rest ih =>
      refine ⟨chain.1, chain.2.1, ?_⟩
      rw [same first List.mem_cons_self]
      exact ih chain.2.2 fun node member => same node (List.mem_cons_of_mem _ member)

theorem Chain.suffix {head node : α} {before tail : List α}
    (chain : Chain nil next head (before ++ node :: tail)) : Chain nil next (next node) tail := by
  induction before generalizing head with
  | nil => exact chain.2.2
  | cons first rest ih => exact ih chain.2.2

variable [DecidableEq α]

/-- A new node in front of a list. -/
theorem Chain.push {head node : α} {nodes : List α} (chain : Chain nil next head nodes)
    (named : node ≠ nil) (fresh : node ∉ nodes) :
    Chain nil (store next node head) node (node :: nodes) := by
  refine ⟨rfl, named, ?_⟩
  rw [store_same]
  apply chain.congr
  intro other member
  exact store_other _ _ _ _ fun same => fresh (same ▸ member)

/-- The first node is taken out: its successor becomes the head, and its own link is dropped. -/
theorem Chain.pop {head node : α} {tail : List α} (chain : Chain nil next head (node :: tail))
    (once : (node :: tail).Nodup) : Chain nil (store next node nil) (next node) tail := by
  apply chain.2.2.congr
  intro other member
  exact store_other _ _ _ _ fun same => (List.nodup_cons.mp once).1 (same ▸ member)

/-- A node with a predecessor loses its own link. -/
theorem Chain.cut {head node : α} {before tail : List α}
    (chain : Chain nil next head (before ++ node :: tail))
    (once : (before ++ node :: tail).Nodup) :
    Chain nil (store next node nil) head (before ++ [node]) := by
  apply chain.rejoin
  · intro earlier member
    apply store_other
    rintro rfl
    exact (List.nodup_append.mp once).2.2 earlier member earlier List.mem_cons_self rfl
  · exact store_same _ _ _

/-- The predecessor of a node that has lost its link is led to what followed the node. -/
theorem Chain.unlink {head prev node : α} {before tail : List α}
    (chain : Chain nil next head (before ++ prev :: node :: tail))
    (once : (before ++ prev :: node :: tail).Nodup) :
    Chain nil (store (store next node nil) prev (next node)) head (before ++ prev :: tail) := by
  have apart := List.nodup_append.mp once
  have behind := List.nodup_cons.mp apart.2.1
  have later := List.nodup_cons.mp behind.2
  have rest : Chain nil next (next node) tail := (Chain.suffix chain).2.2
  apply Chain.rejoin chain
  · intro earlier member
    rw [store_other _ _ _ _ (apart.2.2 earlier member prev List.mem_cons_self),
      store_other _ _ _ _ (apart.2.2 earlier member node (by simp))]
  · rw [store_same]
    apply rest.congr
    intro other member
    rw [store_other, store_other]
    · rintro rfl
      exact later.1 member
    · rintro rfl
      exact behind.1 (List.mem_cons_of_mem _ member)

end Linked
