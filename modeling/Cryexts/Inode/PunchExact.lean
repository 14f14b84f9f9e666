import Cryexts.Inode.Punch

set_option autoImplicit false

namespace Cryexts

namespace Inode

open Balloc (Allocator Ready Freed blockBitmapUsed)
open Extent (stored lookup placed cutAll removedAll)

section Exact

variable (first last : Nat)

/-- The extent lies in the range. -/
def Within (e : Extent) : Prop := first ≤ e.logicalStart ∧ e.stop ≤ last

instance (e : Extent) : Decidable (Within first last e) := inferInstanceAs (Decidable (_ ∧ _))

/-- The blocks of the leaves with no extent outside the range. -/
def coveredLeaves (leaves : List ExtentLeaf) : List Nat :=
  (leaves.filter fun leaf => decide (∀ e, e ∈ leaf.extents → Within first last e)).map
    ExtentLeaf.block

/-- What is left once a range is punched out: each block it mapped and each leaf it covered is
freed once, in whatever order, and no other one. -/
structure Punched (s late : MapState) (blocks : List Nat) : Prop where
  map : ∀ logical, lookup (extentEntries late.info) logical =
    if first ≤ logical ∧ logical < last then none else lookup (extentEntries s.info) logical
  released : late.released = s.released ++ blocks
  freed : blocks.Perm (placed (lookup (extentEntries s.info)) first last ++
    coveredLeaves first last s.info.extentLeaves)
  placedOnce : (placed (lookup (extentEntries s.info)) first last).Nodup
  once : (occupied s.info).Nodup → blocks.Nodup
  used : ∀ block, blockBitmapUsed late.allocator block =
    (blockBitmapUsed s.allocator block && decide (block ∉ blocks))
  shape : TreeShape late.info
  buffers : late.buffers = s.buffers

variable {first last}

theorem cutAll_emptied (extents : List Extent) :
    cutAll first last extents = [] ↔ ∀ e, e ∈ extents → Within first last e := by
  induction extents with
  | nil => simp
  | cons e rest ih =>
      have here : Extent.cut first last e = [] ↔ Within first last e := by
        rw [Extent.cut, Extent.front, Extent.back, Within]
        split <;> split <;> simp <;> omega
      rw [Extent.cutAll_cons, List.append_eq_nil_iff, here, ih, List.forall_mem_cons]

theorem emptied_covered (leaves : List ExtentLeaf) :
    emptiedBlocks (cutAll first last) leaves = coveredLeaves first last leaves := by
  rw [emptiedBlocks, coveredLeaves]
  simp only [cutAll_emptied]

/-- An empty range covers no leaf with an extent in it. -/
theorem covered_nothing {leaves : List ExtentLeaf} (tree : Tree leaves) (range : last ≤ first) :
    coveredLeaves first last leaves = [] := by
  rw [coveredLeaves, List.map_eq_nil_iff, List.filter_eq_nil_iff]
  intro leaf member
  rw [decide_eq_true_iff]
  intro covered
  obtain ⟨e, there⟩ := List.exists_mem_of_ne_nil _ (tree.filled leaf member)
  have inside := covered e there
  have size := (tree.ordered.bounds e (mem_leafEntries member there)).2.1
  simp only [Within, Extent.stop] at inside
  omega

theorem punchHoleBlocks_empty {s : MapState} (shape : TreeShape s.info) (range : last ≤ first) :
    punchHoleBlocks first last s = (.ok (), s) := by
  rw [punchHoleBlocks, Routine.read_bind, if_neg (by simp [shape.extents, shape.flagged]),
    if_pos range]
  rfl

theorem punched_nothing {s : MapState} (shape : TreeShape s.info) (range : last ≤ first) :
    Punched first last s s [] where
  map logical := by
    rw [if_neg (by omega)]
  released := (List.append_nil _).symm
  freed := by
    rw [covered_nothing shape.tree range, placed, Nat.sub_eq_zero_of_le range]
    exact List.Perm.refl _
  placedOnce := by
    rw [placed, Nat.sub_eq_zero_of_le range]
    exact List.nodup_nil
  once _ := List.nodup_nil
  used block := by simp
  shape := shape
  buffers := rfl

theorem punched_swept {s : MapState} (shape : TreeShape s.info) (range : first ≤ last)
    (distinct : (stored (extentEntries s.info)).Nodup) (faults : List Bool) (allocator : Allocator)
    (freed : Freed s.allocator allocator
      (sweptBlocks (cutAll first last) (removedAll first last) s.info.extentLeaves))
    (tree : Tree (keptLeaves (cutAll first last) s.info.extentLeaves)) :
    Punched first last s (({ s with faults := faults } : MapState).release allocator
        (sweptBlocks (cutAll first last) (removedAll first last) s.info.extentLeaves)
        (withLeaves s.info (keptLeaves (cutAll first last) s.info.extentLeaves)))
      (sweptBlocks (cutAll first last) (removedAll first last) s.info.extentLeaves) := by
  have after := shape.withLeaves tree
  have kept : extentEntries (withLeaves s.info (keptLeaves (cutAll first last) s.info.extentLeaves)) =
      cutAll first last (extentEntries s.info) := by
    rw [after.entries, shape.entries]
    exact leafEntries_kept first last _
  have taken : placed (lookup (extentEntries s.info)) first last =
      removedAll first last (leafEntries s.info.extentLeaves) := by
    rw [shape.entries]
    exact Extent.placed_lookup first last _ range shape.tree.ordered
  constructor
  · intro logical
    rw [release_info, kept, Extent.lookup_cutAll first last range]
  · rfl
  · rw [taken, ← emptied_covered]
    exact sweptBlocks_perm first last _ _
  · rw [taken]
    rw [shape.entries] at distinct
    have parts := Extent.stored_cutAll first last range (leafEntries s.info.extentLeaves)
    have whole := parts.nodup_iff.mpr distinct
    rw [List.nodup_append] at whole
    exact whole.2.1
  · intro whole
    have parts := (occupied_cut first last range s.info).nodup_iff.mpr whole
    rw [List.nodup_append] at parts
    exact parts.2.1
  · intro block
    exact freed.used block
  · exact after
  · rfl

end Exact

/-- Punching a range takes its blocks out of the map, frees each of them and each leaf left empty
once, and keeps the tree in shape; without memory faults it fails on nothing but a range strictly
inside an extent of a full leaf, and then changes nothing. -/
theorem punchHoleBlocks_exact (first last : Nat) (s : MapState) (ready : Ready s.allocator)
    (shape : TreeShape s.info) (valid : AllValid s.allocator (occupied s.info))
    (distinct : (stored (extentEntries s.info)).Nodup)
    (memory : ∀ fault, fault ∈ s.faults → fault = false) :
    (∀ late, punchHoleBlocks first last s = (.ok (), late) →
      ∃ blocks, Punched first last s late blocks) ∧
    (∀ reason late, punchHoleBlocks first last s = (.error reason, late) →
      reason = .enospc ∧ FullLeafInside first last s.info.extentLeaves ∧ late = s) := by
  by_cases range : first < last
  · rcases punchHoleBlocks_tree first last range ready shape valid with
      ⟨faults, allocator, ran, _, freed, tree⟩ | ⟨ran, full⟩ | ⟨_, fault⟩
    · constructor
      · intro late result
        rw [ran] at result
        obtain rfl := congrArg Prod.snd result
        exact ⟨_, punched_swept shape (Nat.le_of_lt range) distinct faults allocator freed tree⟩
      · intro reason late result
        rw [ran] at result
        cases congrArg Prod.fst result
    · constructor
      · intro late result
        rw [ran] at result
        cases congrArg Prod.fst result
      · intro reason late result
        rw [ran] at result
        exact ⟨(Except.error.inj (congrArg Prod.fst result)).symm, full,
          (congrArg Prod.snd result).symm⟩
    · have served := memory true (List.mem_of_mem_head? fault)
      cases served
  · have nothing := punchHoleBlocks_empty shape (Nat.le_of_not_lt range)
    constructor
    · intro late result
      rw [nothing] at result
      obtain rfl := congrArg Prod.snd result
      exact ⟨[], punched_nothing shape (Nat.le_of_not_lt range)⟩
    · intro reason late result
      rw [nothing] at result
      cases congrArg Prod.fst result

/-- A file of two leaves, with two extents in the one and one in the other. -/
def twoLeafFile : InodeInfo where
  useExtents := true
  inodeFlags := INODE_FLAG_EXTENTS ||| INODE_FLAG_EXTENT_TREE_V2
  direct := fun _ => 0
  indirectBlock := 0
  extentInlineMax := EXTENT_TREE_ROOT_REFS
  extents := []
  overflowExtents := []
  extentOverflowBlock := 0
  extentOverflowChecksum := 0
  extentRootRefs := [⟨0, 19, 2, 0⟩, ⟨12, 24, 1, 0⟩, ExtentRootRef.zero, ExtentRootRef.zero]
  extentLeaves := [⟨19, 0, [⟨0, 5, 4, 0⟩, ⟨10, 20, 2, 0⟩]⟩, ⟨24, 0, [⟨12, 25, 1, 0⟩]⟩]
  xattrBlock := 0
  encryptionPolicyId := 0
  nextOrphan := 0
  dirIndexBlock := 0
  hints := ⟨0, 0, 0, 0, 0⟩

theorem twoLeafFile_shape : TreeShape twoLeafFile where
  extents := rfl
  flagged := by decide
  tree := {
    few := by decide
    filled := by decide
    roomy := by decide
    ordered := by simp [twoLeafFile, Extent.stop]
    short := by decide
    inside := by decide }
  refs := by decide

/-- The state of a mount that has the file of two leaves open. -/
def twoLeafState : MapState where
  allocator := Balloc.smallAllocator
  buffers := fun _ => ByteBuf.zero BLOCK_SIZE
  faults := []
  released := []
  mode := 0x8000
  info := twoLeafFile

theorem twoLeafState_valid : AllValid twoLeafState.allocator (occupied twoLeafState.info) := by
  unfold AllValid
  decide

theorem punchHoleBlocks_exact_twoLeaf :
    (∀ late, punchHoleBlocks 2 13 twoLeafState = (.ok (), late) →
      ∃ blocks, Punched 2 13 twoLeafState late blocks) ∧
    (∀ reason late, punchHoleBlocks 2 13 twoLeafState = (.error reason, late) →
      reason = .enospc ∧ FullLeafInside 2 13 twoLeafState.info.extentLeaves ∧
        late = twoLeafState) :=
  punchHoleBlocks_exact 2 13 twoLeafState (Or.inl Balloc.smallAllocator_sound) twoLeafFile_shape
    twoLeafState_valid (by decide) (by decide)

end Inode

end Cryexts
