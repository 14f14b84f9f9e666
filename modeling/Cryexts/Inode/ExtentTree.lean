import Cryexts.Inode.Taking

set_option autoImplicit false

namespace Cryexts

namespace Inode

open Balloc (Allocator Ready Freed Switched Full blockBitmapUsed)
open Extent (stored lookup Ordered reach)

/-- The extents of all leaves. -/
def leafEntries (leaves : List ExtentLeaf) : List Extent := leaves.flatMap ExtentLeaf.extents

@[simp] theorem leafEntries_nil : leafEntries [] = [] := rfl

@[simp] theorem leafEntries_cons (leaf : ExtentLeaf) (rest : List ExtentLeaf) :
    leafEntries (leaf :: rest) = leaf.extents ++ leafEntries rest := rfl

@[simp] theorem leafEntries_append (first second : List ExtentLeaf) :
    leafEntries (first ++ second) = leafEntries first ++ leafEntries second := by
  simp only [leafEntries, List.flatMap_append]

theorem mem_leafEntries {leaves : List ExtentLeaf} {leaf : ExtentLeaf} {e : Extent}
    (there : leaf ∈ leaves) (member : e ∈ leaf.extents) : e ∈ leafEntries leaves :=
  List.mem_flatMap.mpr ⟨leaf, there, member⟩

/-- Leaves as the code keeps them: at most four, each with at least one extent and no more than a
block holds, all of them in order and inside the largest file. -/
structure Tree (leaves : List ExtentLeaf) : Prop where
  few : leaves.length ≤ EXTENT_TREE_ROOT_REFS
  filled : ∀ leaf, leaf ∈ leaves → leaf.extents ≠ []
  roomy : ∀ leaf, leaf ∈ leaves → leaf.extents.length ≤ EXTENTS_PER_BLOCK
  ordered : Ordered 0 (leafEntries leaves)
  short : ∀ e, e ∈ leafEntries leaves → e.length ≤ MAX_EXTENT_BLOCKS
  inside : ∀ e, e ∈ leafEntries leaves → e.stop ≤ EXTENT_TREE_V2_FILE_BLOCKS_MAX

/-- An inode mapped by an extent tree, its root references those of its leaves. -/
structure TreeShape (info : InodeInfo) : Prop where
  extents : info.useExtents = true
  flagged : extentTreeV2Inode info = true
  tree : Tree info.extentLeaves
  refs : info.extentRootRefs = rootRefs info.extentLeaves

/-- The blocks an extent tree occupies: those it maps, and its leaves. -/
def occupied (info : InodeInfo) : List Nat :=
  stored (leafEntries info.extentLeaves) ++ info.extentLeaves.map ExtentLeaf.block

/-- An inode mapped by an extent tree that shares no block, with all its blocks marked used. -/
structure TreeOwned (s : MapState) : Prop where
  ready : Ready s.allocator
  shape : TreeShape s.info
  distinct : (occupied s.info).Nodup
  used : ∀ block, block ∈ occupied s.info → blockBitmapUsed s.allocator block = true

theorem TreeShape.entries {info : InodeInfo} (shape : TreeShape info) :
    extentEntries info = leafEntries info.extentLeaves := by
  rw [extentEntries, if_pos shape.flagged]
  rfl

theorem TreeShape.sameButHints {info after : InodeInfo} (shape : TreeShape info)
    (same : SameButHints info after) : TreeShape after := by
  obtain ⟨hints, rfl⟩ := same
  exact ⟨shape.extents, shape.flagged, shape.tree, shape.refs⟩

theorem TreeShape.withLeaves {info : InodeInfo} (shape : TreeShape info)
    {leaves : List ExtentLeaf} (tree : Tree leaves) : TreeShape (withLeaves info leaves) :=
  ⟨shape.extents, shape.flagged, tree, rfl⟩

theorem SameButHints.leaves {info after : InodeInfo} (same : SameButHints info after) :
    after.extentLeaves = info.extentLeaves := by
  obtain ⟨hints, rfl⟩ := same
  rfl

theorem SameButHints.entries {info after : InodeInfo} (same : SameButHints info after) :
    extentEntries after = extentEntries info := by
  obtain ⟨hints, rfl⟩ := same
  rfl

theorem TreeOwned.unchanged {s after : MapState} (owned : TreeOwned s) (same : Unchanged s after) :
    TreeOwned after := by
  have kept : occupied after.info = occupied s.info := by
    rw [occupied, occupied, same.info.leaves]
  refine ⟨same.ready, owned.shape.sameButHints same.info, ?_, ?_⟩
  · rw [kept]
    exact owned.distinct
  · intro block member
    rw [kept] at member
    rw [same.used]
    exact owned.used block member

/-! ### One more mapping -/

/-- One block more in the map of some leaves, with the blocks of new leaves. -/
structure Inserted (leaves after : List ExtentLeaf) (logical block : Nat) (more : List Nat) :
    Prop where
  tree : Tree after
  map : ∀ other, lookup (leafEntries after) other =
    if other = logical then some block else lookup (leafEntries leaves) other
  stored : (stored (leafEntries after)).Perm (block :: stored (leafEntries leaves))
  blocks : after.map ExtentLeaf.block = leaves.map ExtentLeaf.block ++ more

theorem singleExtent_covers (logical block other : Nat) :
    (singleExtent logical block).Covers other ↔ other = logical := by
  simp only [singleExtent, Extent.Covers, Extent.stop]
  omega

/-- A new entry between two others of a list, or behind them all. -/
theorem insert_single {first rest : List Extent} (logical block : Nat)
    (ordered : Ordered 0 (first ++ rest)) (behind : reach 0 first ≤ logical)
    (before : Ordered (logical + 1) rest) :
    Ordered 0 (first ++ singleExtent logical block :: rest) ∧
      (∀ other, lookup (first ++ singleExtent logical block :: rest) other =
        if other = logical then some block else lookup (first ++ rest) other) ∧
      (stored (first ++ singleExtent logical block :: rest)).Perm
        (block :: stored (first ++ rest)) := by
  refine ⟨ordered.insert _ Nat.one_pos behind before, ?_, ?_⟩
  · intro other
    rw [Extent.lookup_insert _ ((Extent.ordered_append 0 first rest).mp ordered).1 behind]
    by_cases here : other = logical
    · rw [if_pos ((singleExtent_covers logical block other).mpr here), if_pos here, Extent.blockAt,
        here]
      simp [singleExtent]
    · rw [if_neg fun covered => here ((singleExtent_covers logical block other).mp covered),
        if_neg here]
  · exact Extent.stored_insert first rest (singleExtent logical block)

section Insertion

variable {leaves : List ExtentLeaf} (tree : Tree leaves) (logical block : Nat)
  (below : logical < EXTENT_TREE_V2_FILE_BLOCKS_MAX)

include tree below

theorem single_fits (e : Extent)
    (member : e = singleExtent logical block ∨ e ∈ leafEntries leaves) :
    e.length ≤ MAX_EXTENT_BLOCKS ∧ e.stop ≤ EXTENT_TREE_V2_FILE_BLOCKS_MAX := by
  rcases member with rfl | old
  · exact ⟨(by decide : 1 ≤ MAX_EXTENT_BLOCKS), below⟩
  · exact ⟨tree.short e old, tree.inside e old⟩

/-- A new entry in a leaf with room for it. -/
theorem inserted_in_leaf {before after : List ExtentLeaf} {leaf : ExtentLeaf}
    {first rest : List Extent} (split : leaves = before ++ leaf :: after)
    (entries : leaf.extents = first ++ rest) (room : leaf.extents.length < EXTENTS_PER_BLOCK)
    (behind : reach 0 (leafEntries before ++ first) ≤ logical)
    (ahead : Ordered (logical + 1) (rest ++ leafEntries after)) :
    Inserted leaves
      (before ++ { leaf with extents := first ++ singleExtent logical block :: rest } :: after)
      logical block [] := by
  have old : leafEntries leaves = (leafEntries before ++ first) ++ (rest ++ leafEntries after) := by
    rw [split, leafEntries_append, leafEntries_cons, entries]
    simp only [List.append_assoc]
  have new : leafEntries (before ++
      { leaf with extents := first ++ singleExtent logical block :: rest } :: after) =
      (leafEntries before ++ first) ++ singleExtent logical block ::
        (rest ++ leafEntries after) := by
    rw [leafEntries_append, leafEntries_cons]
    simp only [List.append_assoc, List.cons_append]
  have ordered := tree.ordered
  rw [old] at ordered
  have placed := insert_single logical block ordered behind ahead
  rw [← new, ← old] at placed
  have member (e : Extent) (inside : e ∈ leafEntries (before ++
      { leaf with extents := first ++ singleExtent logical block :: rest } :: after)) :
      e = singleExtent logical block ∨ e ∈ leafEntries leaves := by
    rw [new] at inside
    rw [old]
    simp only [List.mem_append, List.mem_cons] at inside ⊢
    tauto
  refine ⟨⟨?_, ?_, ?_, placed.1, ?_, ?_⟩, placed.2.1, placed.2.2, ?_⟩
  · have few := tree.few
    rw [split] at few
    simpa using few
  · intro other there
    rcases List.mem_append.mp there with early | late
    · exact tree.filled other (by rw [split]; exact List.mem_append_left _ early)
    · rcases List.mem_cons.mp late with rfl | late
      · simp
      · exact tree.filled other (by
          rw [split]
          exact List.mem_append_right _ (List.mem_cons_of_mem _ late))
  · intro other there
    rcases List.mem_append.mp there with early | late
    · exact tree.roomy other (by rw [split]; exact List.mem_append_left _ early)
    · rcases List.mem_cons.mp late with rfl | late
      · rw [entries, List.length_append] at room
        simp only [List.length_append, List.length_cons]
        omega
      · exact tree.roomy other (by
          rw [split]
          exact List.mem_append_right _ (List.mem_cons_of_mem _ late))
  · intro e inside
    exact (single_fits tree logical block below e (member e inside)).1
  · intro e inside
    exact (single_fits tree logical block below e (member e inside)).2
  · rw [split]
    simp

/-- A new entry in a new leaf. -/
theorem inserted_new_leaf (leafBlock : Nat) (room : leaves.length < EXTENT_TREE_ROOT_REFS)
    (behind : reach 0 (leafEntries leaves) ≤ logical) :
    Inserted leaves (leaves ++ [singleLeaf leafBlock logical block]) logical block [leafBlock] := by
  have whole : Ordered 0 (leafEntries leaves ++ []) := by
    rw [List.append_nil]
    exact tree.ordered
  have placed := insert_single logical block whole behind trivial
  have new : leafEntries (leaves ++ [singleLeaf leafBlock logical block]) =
      leafEntries leaves ++ [singleExtent logical block] := by
    rw [leafEntries_append]
    rfl
  rw [← new, List.append_nil] at placed
  have member (e : Extent) (inside : e ∈ leafEntries (leaves ++ [singleLeaf leafBlock logical block])) :
      e = singleExtent logical block ∨ e ∈ leafEntries leaves := by
    rw [new, List.mem_append, List.mem_singleton] at inside
    exact inside.symm
  refine ⟨⟨?_, ?_, ?_, placed.1, ?_, ?_⟩, placed.2.1, placed.2.2, by simp [singleLeaf]⟩
  · rw [List.length_append, List.length_singleton]
    exact room
  · intro other there
    rcases List.mem_append.mp there with old | new
    · exact tree.filled other old
    · rw [List.mem_singleton.mp new]
      simp [singleLeaf]
  · intro other there
    rcases List.mem_append.mp there with old | new
    · exact tree.roomy other old
    · rw [List.mem_singleton.mp new]
      exact (by decide : 1 ≤ EXTENTS_PER_BLOCK)
  · intro e inside
    exact (single_fits tree logical block below e (member e inside)).1
  · intro e inside
    exact (single_fits tree logical block below e (member e inside)).2

end Insertion

/-! ### The last extent grown -/

section Grown

variable (change : Extent → Extent) (leaves : List ExtentLeaf) (index : Nat)

theorem leafEntries_modify : leafEntries (modifyLeafEntry change leaves index) =
    (leafEntries leaves).modify index change := by
  induction leaves generalizing index with
  | nil => simp [modifyLeafEntry]
  | cons leaf rest ih =>
      unfold modifyLeafEntry
      by_cases here : index < leaf.extents.length
      · rw [if_pos here, leafEntries_cons, leafEntries_cons,
          ListAt.modify_left _ _ _ here]
      · rw [if_neg here, leafEntries_cons, leafEntries_cons, ih,
          ListAt.modify_right _ _ _ (Nat.le_of_not_lt here)]

theorem modifyLeafEntry_blocks : (modifyLeafEntry change leaves index).map ExtentLeaf.block =
    leaves.map ExtentLeaf.block := by
  induction leaves generalizing index with
  | nil => rfl
  | cons leaf rest ih =>
      unfold modifyLeafEntry
      split
      · rfl
      · rw [List.map_cons, List.map_cons, ih]

theorem modifyLeafEntry_member (after : ExtentLeaf)
    (member : after ∈ modifyLeafEntry change leaves index) :
    ∃ leaf, leaf ∈ leaves ∧ after.extents.length = leaf.extents.length := by
  induction leaves generalizing index with
  | nil => cases member
  | cons leaf rest ih =>
      unfold modifyLeafEntry at member
      split at member
      · rcases List.mem_cons.mp member with rfl | later
        · exact ⟨leaf, List.mem_cons_self, by simp⟩
        · exact ⟨after, List.mem_cons_of_mem _ later, rfl⟩
      · rcases List.mem_cons.mp member with rfl | later
        · exact ⟨after, List.mem_cons_self, rfl⟩
        · obtain ⟨old, there, same⟩ := ih _ later
          exact ⟨old, List.mem_cons_of_mem _ there, same⟩

/-- A change that keeps where an extent starts keeps the root references. -/
theorem modifyLeafEntry_refs (starts : ∀ e, (change e).logicalStart = e.logicalStart) :
    rootRefs (modifyLeafEntry change leaves index) = rootRefs leaves := by
  have same : (modifyLeafEntry change leaves index).map ExtentLeaf.ref =
      leaves.map ExtentLeaf.ref := by
    induction leaves generalizing index with
    | nil => rfl
    | cons leaf rest ih =>
        unfold modifyLeafEntry
        split
        · have start : (leaf.extents.modify index change).head?.map Extent.logicalStart =
              leaf.extents.head?.map Extent.logicalStart := by
            cases leaf.extents with
            | nil => simp
            | cons e later =>
                cases index with
                | zero => simp [starts]
                | succ index => simp
          simp only [List.map_cons, ExtentLeaf.ref, start, List.length_modify]
        · rw [List.map_cons, List.map_cons, ih]
  have length := congrArg List.length same
  rw [List.length_map, List.length_map] at length
  rw [rootRefs, rootRefs, same, length]

end Grown

theorem inserted_grown {leaves : List ExtentLeaf} (tree : Tree leaves) {first : List Extent}
    {last : Extent} (entries : leafEntries leaves = first ++ [last])
    (room : last.length < MAX_EXTENT_BLOCKS) (below : last.stop < EXTENT_TREE_V2_FILE_BLOCKS_MAX) :
    Inserted leaves (modifyLeafEntry Extent.grown leaves ((leafEntries leaves).length - 1))
      last.stop (last.physicalStart + last.length) [] := by
  have new : leafEntries (modifyLeafEntry Extent.grown leaves ((leafEntries leaves).length - 1)) =
      first ++ [last.grown] := by
    rw [leafEntries_modify, entries, List.length_append, List.length_singleton,
      Nat.add_sub_cancel, ListAt.modify_at]
  have ordered := tree.ordered
  rw [entries] at ordered
  have parts := (Extent.ordered_append 0 first [last]).mp ordered
  have old (e : Extent) (member : e ∈ first) : e ∈ leafEntries leaves := by
    rw [entries]
    exact List.mem_append_left _ member
  refine ⟨⟨?_, ?_, ?_, ?_, ?_, ?_⟩, ?_, ?_, ?_⟩
  · have same := congrArg List.length
      (modifyLeafEntry_blocks Extent.grown leaves ((leafEntries leaves).length - 1))
    rw [List.length_map, List.length_map] at same
    rw [same]
    exact tree.few
  · intro after member
    obtain ⟨leaf, there, same⟩ := modifyLeafEntry_member _ _ _ _ member
    rw [← List.length_pos_iff, same, List.length_pos_iff]
    exact tree.filled leaf there
  · intro after member
    obtain ⟨leaf, there, same⟩ := modifyLeafEntry_member _ _ _ _ member
    rw [same]
    exact tree.roomy leaf there
  · rw [new, Extent.ordered_append]
    exact ⟨parts.1, parts.2.1, Nat.succ_pos _, trivial⟩
  · rw [new]
    intro e member
    rcases List.mem_append.mp member with early | late
    · exact tree.short e (old e early)
    · rw [List.mem_singleton.mp late]
      exact room
  · rw [new]
    intro e member
    rcases List.mem_append.mp member with early | late
    · exact tree.inside e (old e early)
    · rw [List.mem_singleton.mp late]
      exact below
  · intro other
    rw [new, entries, Extent.lookup_grown first last ordered]
  · rw [new, entries, Extent.stored_append, Extent.stored_append]
    have wider : stored [last.grown] = stored [last] ++ [last.physicalStart + last.length] := by
      simp only [Extent.stored_cons, Extent.stored_nil, List.append_nil, Extent.grown]
      rw [List.range'_concat, Nat.one_mul]
    rw [wider, ← List.append_assoc]
    exact List.perm_append_comm
  · rw [modifyLeafEntry_blocks, List.append_nil]

/-- The place the search finds: every entry before it starts at or before the block. -/
theorem insertSlot_some (logical : Nat) (leaves : List ExtentLeaf) (index leafIndex entryIndex : Nat)
    (found : insertSlot logical leaves index = some (leafIndex, entryIndex)) :
    ∃ before leaf after first e rest, leaves = before ++ leaf :: after ∧
      leafIndex = index + before.length ∧ leaf.extents = first ++ e :: rest ∧
      entryIndex = first.length ∧ logical < e.logicalStart ∧
      ∀ other, other ∈ leafEntries before ++ first → other.logicalStart ≤ logical := by
  induction leaves generalizing index with
  | nil => cases found
  | cons leaf rest ih =>
      unfold insertSlot at found
      cases slot : leaf.extents.findIdx? fun e => decide (logical < e.logicalStart) with
      | some place =>
          rw [slot] at found
          obtain ⟨rfl, rfl⟩ := Prod.mk.inj (Option.some.inj found)
          obtain ⟨first, e, later, entries, rfl, behind, others⟩ :=
            ListAt.of_findIdx? _ _ _ slot
          refine ⟨[], leaf, rest, first, e, later, rfl, rfl, entries, rfl,
            of_decide_eq_true behind, ?_⟩
          intro other member
          have passed := others other (by simpa using member)
          simpa using passed
      | none =>
          rw [slot] at found
          obtain ⟨before, next, after, first, e, later, rfl, place, entries, here, behind, others⟩ :=
            ih (index + 1) found
          refine ⟨leaf :: before, next, after, first, e, later, rfl, ?_, entries, here, behind, ?_⟩
          · rw [List.length_cons]
            omega
          · intro other member
            rw [leafEntries_cons, List.append_assoc, List.mem_append] at member
            rcases member with old | new
            · have passed := List.findIdx?_eq_none_iff.mp slot other old
              simpa using passed
            · exact others other new

theorem insertSlot_none (logical : Nat) (leaves : List ExtentLeaf) (index : Nat)
    (absent : insertSlot logical leaves index = none) :
    ∀ e, e ∈ leafEntries leaves → e.logicalStart ≤ logical := by
  induction leaves generalizing index with
  | nil =>
      intro e member
      cases member
  | cons leaf rest ih =>
      unfold insertSlot at absent
      cases slot : leaf.extents.findIdx? fun e => decide (logical < e.logicalStart) with
      | some place =>
          rw [slot] at absent
          cases absent
      | none =>
          rw [slot] at absent
          intro e member
          rcases List.mem_append.mp member with old | new
          · have passed := List.findIdx?_eq_none_iff.mp slot e old
            simpa using passed
          · exact ih (index + 1) absent e new

end Inode

end Cryexts
