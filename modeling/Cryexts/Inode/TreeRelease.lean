import Cryexts.Inode.ExtentTree

set_option autoImplicit false

namespace Cryexts

namespace Inode

open Balloc (Allocator Ready Freed blockBitmapUsed)
open Extent (stored lookup Ordered reach cut cutAll removed removedAll)

/-- The blocks of the leaves a loop leaves empty. -/
def emptiedBlocks (kept : List Extent → List Extent) (leaves : List ExtentLeaf) : List Nat :=
  (leaves.filter fun leaf => decide (kept leaf.extents = [])).map ExtentLeaf.block

section Cut

variable (first last : Nat)

theorem leafEntries_kept (leaves : List ExtentLeaf) :
    leafEntries (keptLeaves (cutAll first last) leaves) =
      cutAll first last (leafEntries leaves) := by
  induction leaves with
  | nil => rfl
  | cons leaf rest ih =>
      rw [leafEntries_cons, cutAll, List.flatMap_append, ← cutAll, ← cutAll, ← ih]
      by_cases emptied : cutAll first last leaf.extents = []
      · rw [emptied]
        simp [keptLeaves, emptied]
      · simp [keptLeaves, emptied]

theorem keptLeaves_blocks (kept : List Extent → List Extent) (leaves : List ExtentLeaf) :
    ((keptLeaves kept leaves).map ExtentLeaf.block ++ emptiedBlocks kept leaves).Perm
      (leaves.map ExtentLeaf.block) := by
  induction leaves with
  | nil => exact List.Perm.refl _
  | cons leaf rest ih =>
      by_cases emptied : kept leaf.extents = []
      · have stays : keptLeaves kept (leaf :: rest) = keptLeaves kept rest := by
          simp [keptLeaves, emptied]
        have gone : emptiedBlocks kept (leaf :: rest) =
            leaf.block :: emptiedBlocks kept rest := by
          simp [emptiedBlocks, emptied]
        rw [stays, gone, List.map_cons]
        exact List.perm_middle.trans (ih.cons _)
      · have stays : keptLeaves kept (leaf :: rest) =
            { leaf with extents := kept leaf.extents } :: keptLeaves kept rest := by
          simp [keptLeaves, emptied]
        have gone : emptiedBlocks kept (leaf :: rest) = emptiedBlocks kept rest := by
          simp [emptiedBlocks, emptied]
        rw [stays, gone, List.map_cons, List.map_cons, List.cons_append]
        exact ih.cons _

theorem sweptBlocks_perm (kept : List Extent → List Extent) (leaves : List ExtentLeaf) :
    (sweptBlocks kept (removedAll first last) leaves).Perm
      (removedAll first last (leafEntries leaves) ++ emptiedBlocks kept leaves) := by
  induction leaves with
  | nil => exact List.Perm.refl _
  | cons leaf rest ih =>
      have head : sweptBlocks kept (removedAll first last) (leaf :: rest) =
          removedAll first last leaf.extents ++
            ((if kept leaf.extents = [] then [leaf.block] else []) ++
              sweptBlocks kept (removedAll first last) rest) := by
        simp only [sweptBlocks, List.flatMap_cons, List.append_assoc]
      have entries : removedAll first last (leafEntries (leaf :: rest)) =
          removedAll first last leaf.extents ++ removedAll first last (leafEntries rest) := by
        rw [leafEntries_cons, removedAll, List.flatMap_append]
        rfl
      rw [head, entries, List.append_assoc]
      apply List.Perm.append_left
      by_cases emptied : kept leaf.extents = []
      · have gone : emptiedBlocks kept (leaf :: rest) =
            leaf.block :: emptiedBlocks kept rest := by
          simp [emptiedBlocks, emptied]
        rw [if_pos emptied, gone, List.singleton_append]
        exact (ih.cons _).trans List.perm_middle.symm
      · have gone : emptiedBlocks kept (leaf :: rest) = emptiedBlocks kept rest := by
          simp [emptiedBlocks, emptied]
        rw [if_neg emptied, gone, List.nil_append]
        exact ih

/-- What a sweep keeps and what it frees are what the tree occupied. -/
theorem occupied_cut (range : first ≤ last) (info : InodeInfo) :
    (occupied (withLeaves info (keptLeaves (cutAll first last) info.extentLeaves)) ++
      sweptBlocks (cutAll first last) (removedAll first last) info.extentLeaves).Perm
      (occupied info) := by
  have blocks := keptLeaves_blocks (cutAll first last) info.extentLeaves
  have swept := sweptBlocks_perm first last (cutAll first last) info.extentLeaves
  have cuts := Extent.stored_cutAll first last range (leafEntries info.extentLeaves)
  have kept : occupied (withLeaves info (keptLeaves (cutAll first last) info.extentLeaves)) =
      stored (cutAll first last (leafEntries info.extentLeaves)) ++
        (keptLeaves (cutAll first last) info.extentLeaves).map ExtentLeaf.block := by
    rw [← leafEntries_kept]
    rfl
  rw [kept, occupied]
  apply (swept.append_left _).trans
  rw [List.append_assoc]
  apply List.Perm.trans _ (cuts.append blocks)
  rw [List.append_assoc]
  apply List.Perm.append_left
  rw [← List.append_assoc, ← List.append_assoc]
  exact List.perm_append_comm.append_right _

theorem Tree.keep_cut {leaves : List ExtentLeaf} (tree : Tree leaves) (range : first ≤ last)
    (roomy : ∀ leaf, leaf ∈ leaves →
      (cutAll first last leaf.extents).length ≤ EXTENTS_PER_BLOCK) :
    Tree (keptLeaves (cutAll first last) leaves) := by
  constructor
  · have shorter := List.length_filter_le (fun leaf : ExtentLeaf => decide (leaf.extents ≠ []))
      (leaves.map fun leaf => { leaf with extents := cutAll first last leaf.extents })
    rw [List.length_map] at shorter
    exact Nat.le_trans shorter tree.few
  · intro leaf member
    have kept := (List.mem_filter.mp member).2
    simpa using kept
  · intro leaf member
    obtain ⟨old, there, rfl⟩ := List.mem_map.mp (List.mem_filter.mp member).1
    exact roomy old there
  · rw [leafEntries_kept]
    exact tree.ordered.cutAll first last range
  · rw [leafEntries_kept]
    intro piece member
    obtain ⟨e, there, short, _⟩ := Extent.cutAll_member first last _ piece member
    exact Nat.le_trans short (tree.short e there)
  · rw [leafEntries_kept]
    intro piece member
    obtain ⟨e, there, _, inside⟩ := Extent.cutAll_member first last _ piece member
    exact Nat.le_trans inside (tree.inside e there)

end Cut

theorem TreeOwned.valid {s : MapState} (owned : TreeOwned s) : AllValid s.allocator (occupied s.info) :=
  fun block member => Balloc.valid_of_used (owned.used block member)

/-- An inode whose tree has given blocks back owns the rest. -/
theorem TreeOwned.released {s : MapState} (owned : TreeOwned s) {allocator : Allocator}
    {blocks : List Nat} {info : InodeInfo} (ready : Ready allocator)
    (freed : Freed s.allocator allocator blocks) (shape : TreeShape info)
    (parts : (occupied info ++ blocks).Perm (occupied s.info)) :
    TreeOwned (s.release allocator blocks info) := by
  have distinct := parts.nodup_iff.mpr owned.distinct
  rw [List.nodup_append] at distinct
  refine ⟨ready, shape, distinct.1, ?_⟩
  intro block member
  have before := owned.used block (parts.mem_iff.mp (List.mem_append_left _ member))
  have away : block ∉ blocks := fun gone => distinct.2.2 block member block gone rfl
  rw [release_allocator, freed.used, before]
  simp [away]

/-! ### `cryexts_free_blocks_from` -/

section Truncate

variable (keepBlocks : Nat)

/-- A bound behind every block of a file and behind what a truncation keeps. -/
def beyond : Nat := max keepBlocks EXTENT_TREE_V2_FILE_BLOCKS_MAX

theorem keep_le_beyond : keepBlocks ≤ beyond keepBlocks := Nat.le_max_left _ _

theorem Tree.below_beyond {leaves : List ExtentLeaf} (tree : Tree leaves) (e : Extent)
    (member : e ∈ leafEntries leaves) : e.stop ≤ beyond keepBlocks :=
  Nat.le_trans (tree.inside e member) (Nat.le_max_right _ _)

/-- A truncation leaves at most one piece of an extent. -/
theorem truncated_length (limit : Nat) (extents : List Extent)
    (bounded : ∀ e, e ∈ extents → e.stop ≤ limit) :
    (cutAll keepBlocks limit extents).length ≤ extents.length := by
  induction extents with
  | nil => exact Nat.le_refl 0
  | cons e rest ih =>
      have later := ih fun other member => bounded other (List.mem_cons_of_mem _ member)
      have here := bounded e List.mem_cons_self
      have one : (cut keepBlocks limit e).length ≤ 1 := by
        rw [cut, Extent.front, Extent.back, if_neg (by omega : ¬ limit < e.stop)]
        split
        · exact Nat.le_refl 1
        · exact Nat.zero_le 1
      rw [Extent.cutAll_cons, List.length_append, List.length_cons]
      omega

theorem Tree.leafOrdered {leaves : List ExtentLeaf} (tree : Tree leaves) (leaf : ExtentLeaf)
    (member : leaf ∈ leaves) : ∃ low, Ordered low leaf.extents := by
  obtain ⟨before, after, split⟩ := List.append_of_mem member
  have ordered := tree.ordered
  rw [split, leafEntries_append, leafEntries_cons, Extent.ordered_append,
    Extent.ordered_append] at ordered
  exact ⟨_, ordered.2.1⟩

theorem freeBlocksFrom_tree {s : MapState} (ready : Ready s.allocator) (shape : TreeShape s.info)
    (valid : AllValid s.allocator (occupied s.info)) :
    Frees (freeBlocksFrom keepBlocks) s
      (sweptBlocks (cutAll keepBlocks (beyond keepBlocks))
        (removedAll keepBlocks (beyond keepBlocks)) s.info.extentLeaves)
      (withLeaves s.info
        (keptLeaves (cutAll keepBlocks (beyond keepBlocks)) s.info.extentLeaves)) := by
  have room := keep_le_beyond keepBlocks
  have parts := occupied_cut keepBlocks (beyond keepBlocks) room s.info
  have run := sweepLeaves_run (freeLeafFrom keepBlocks) (cutAll keepBlocks (beyond keepBlocks))
    (removedAll keepBlocks (beyond keepBlocks))
    (fun leaf => (∃ low, Ordered low leaf.extents) ∧
      ∀ e, e ∈ leaf.extents → e.stop ≤ beyond keepBlocks)
    (fun before after leaf state settled leaves good given => by
      obtain ⟨⟨low, ordered⟩, bounded⟩ := good
      exact freeLeafFrom_run keepBlocks (beyond keepBlocks) room settled leaves ordered bounded given)
    [] s.info.extentLeaves s ready rfl
    (fun leaf member => ⟨shape.tree.leafOrdered leaf member, fun e there =>
      shape.tree.below_beyond keepBlocks e (mem_leafEntries member there)⟩)
    (fun block member => valid block (parts.mem_iff.mp (List.mem_append_right _ member)))
  unfold freeBlocksFrom
  simp only [Frees.read_iff, shape.extents, shape.flagged, ↓reduceIte]
  exact run

theorem Tree.truncated {leaves : List ExtentLeaf} (tree : Tree leaves) :
    Tree (keptLeaves (cutAll keepBlocks (beyond keepBlocks)) leaves) := by
  apply tree.keep_cut keepBlocks (beyond keepBlocks) (keep_le_beyond keepBlocks)
  intro leaf member
  have shorter := truncated_length keepBlocks (beyond keepBlocks) leaf.extents fun e there =>
    tree.below_beyond keepBlocks e (mem_leafEntries member there)
  exact Nat.le_trans shorter (tree.roomy leaf member)

end Truncate

end Inode

end Cryexts
