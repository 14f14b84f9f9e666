import Cryexts.Inode.ExtentTree

set_option autoImplicit false

namespace Cryexts

namespace Inode

open WriteLog (store store_same store_other)
open Balloc (Allocator Ready Freed Switched Full blockBitmapUsed SameShape)
open Extent (stored lookup Ordered reach)

/-- Some free blocks have become used ones full of zeros; what the used ones hold is as before. -/
structure Granted (s after : MapState) (blocks : List Nat) : Prop where
  ready : Ready after.allocator
  shape : SameShape s.allocator after.allocator
  distinct : blocks.Nodup
  valid : ∀ block, block ∈ blocks → Balloc.dataBlockValid s.allocator block = true
  free : ∀ block, block ∈ blocks → blockBitmapUsed s.allocator block = false
  used : ∀ block, blockBitmapUsed after.allocator block =
    (blockBitmapUsed s.allocator block || decide (block ∈ blocks))
  zeroed : ∀ block, block ∈ blocks → after.buffers block = ByteBuf.zero BLOCK_SIZE
  buffers : ∀ block, blockBitmapUsed s.allocator block = true →
    after.buffers block = s.buffers block
  mode : after.mode = s.mode

theorem Taken.granted {s after : MapState} {block : Nat} (taken : Taken s after block) :
    Granted s after [block] where
  ready := taken.ready
  shape := taken.switched.shape
  distinct := List.nodup_singleton block
  valid other member := by rw [List.mem_singleton.mp member, taken.valid]
  free other member := by rw [List.mem_singleton.mp member, taken.free]
  used other := by
    by_cases here : other = block
    · rw [here, taken.switched.here]
      simp
    · rw [taken.switched.others other here]
      simp [here]
  zeroed other member := by rw [List.mem_singleton.mp member, taken.zeroed]
  buffers := taken.buffers
  mode := taken.mode

theorem Unchanged.granted {s after : MapState} (same : Unchanged s after) : Granted s after [] where
  ready := same.ready
  shape := same.freed.shape
  distinct := List.nodup_nil
  valid block member := by cases member
  free block member := by cases member
  used block := by
    rw [same.used]
    simp
  zeroed block member := by cases member
  buffers := same.buffers
  mode := same.mode

theorem Granted.trans {s middle after : MapState} {first second : List Nat}
    (start : Granted s middle first) (rest : Granted middle after second) :
    Granted s after (first ++ second) where
  ready := rest.ready
  shape := start.shape.trans rest.shape
  distinct := by
    apply List.Nodup.append start.distinct rest.distinct
    intro block early late
    have free := rest.free block late
    rw [start.used] at free
    simp [early] at free
  valid block member := by
    rcases List.mem_append.mp member with early | late
    · exact start.valid block early
    · rw [← start.shape.dataBlockValid_eq]
      exact rest.valid block late
  free block member := by
    rcases List.mem_append.mp member with early | late
    · exact start.free block early
    · have free := rest.free block late
      rw [start.used, Bool.or_eq_false_iff] at free
      exact free.1
  used block := by
    rw [rest.used, start.used, Bool.or_assoc]
    congr 1
    simp
  zeroed block member := by
    rcases List.mem_append.mp member with early | late
    · rw [rest.buffers block (by rw [start.used]; simp [early]), start.zeroed block early]
    · exact rest.zeroed block late
  buffers block used := by
    rw [rest.buffers block (by rw [start.used, used]; rfl), start.buffers block used]
  mode := rest.mode.trans start.mode

/-- A change of the inode in memory grants nothing. -/
theorem Granted.info {s after : MapState} {blocks : List Nat} (granted : Granted s after blocks)
    (info : InodeInfo) : Granted s { after with info := info } blocks :=
  ⟨granted.ready, granted.shape, granted.distinct, granted.valid, granted.free, granted.used,
    granted.zeroed, granted.buffers, granted.mode⟩

/-- The block is bound to a fresh one and nothing else is mapped otherwise; one new leaf may have
been needed for that. -/
structure Created (s after : MapState) (logical block : Nat) (more : List Nat) : Prop where
  granted : Granted s after (block :: more)
  inserted : Inserted s.info.extentLeaves after.info.extentLeaves logical block more
  shape : TreeShape after.info
  leaf : more.length ≤ 1

theorem Created.owned {s after : MapState} {logical block : Nat} {more : List Nat}
    (owned : TreeOwned s) (created : Created s after logical block more) : TreeOwned after := by
  have parts : (occupied after.info).Perm (block :: more ++ occupied s.info) := by
    rw [occupied, occupied, created.inserted.blocks]
    have swap : (stored (leafEntries after.info.extentLeaves) ++
        (s.info.extentLeaves.map ExtentLeaf.block ++ more)).Perm
        ((block :: stored (leafEntries s.info.extentLeaves)) ++
          (s.info.extentLeaves.map ExtentLeaf.block ++ more)) :=
      created.inserted.stored.append_right _
    apply swap.trans
    rw [List.cons_append, List.cons_append]
    apply List.Perm.cons
    rw [← List.append_assoc]
    exact List.perm_append_comm
  refine ⟨created.granted.ready, created.shape, ?_, ?_⟩
  · rw [parts.nodup_iff]
    apply List.Nodup.append created.granted.distinct owned.distinct
    intro other fresh old
    have free := created.granted.free other fresh
    rw [owned.used other old] at free
    cases free
  · intro other member
    rw [created.granted.used]
    rcases List.mem_append.mp (parts.mem_iff.mp member) with fresh | old
    · simp [fresh]
    · simp [owned.used other old]

/-! ### `cryexts_append_extent_entry_v2` -/

/-- The extents of the last leaf. -/
def lastExtents (info : InodeInfo) : List Extent := leafExtents info (info.extentLeaves.length - 1)

/-- There is no slot for a new entry before another one, and none in the last leaf. -/
def NeedsLeaf (info : InodeInfo) (logical : Nat) : Prop :=
  insertSlot logical info.extentLeaves 0 = none ∧
    (info.extentLeaves = [] ∨ EXTENTS_PER_BLOCK ≤ (lastExtents info).length)

/-- The leaf whose entries lie around a block is full, or it would be a fifth leaf that takes the
new entry. -/
def NoRoom (info : InodeInfo) (logical : Nat) : Prop :=
  (∃ leafIndex entryIndex,
    insertSlot logical info.extentLeaves 0 = some (leafIndex, entryIndex) ∧
      EXTENTS_PER_BLOCK ≤ (leafExtents info leafIndex).length) ∨
  (NeedsLeaf info logical ∧ EXTENT_TREE_ROOT_REFS ≤ info.extentLeaves.length)

theorem appendExtentEntryV2_refused (logical physical : Nat) (s : MapState)
    (full : NoRoom s.info logical) :
    appendExtentEntryV2 logical physical s = (.error .enospc, s) := by
  unfold appendExtentEntryV2
  simp only [Routine.read_bind]
  rcases full with ⟨leafIndex, entryIndex, slot, full⟩ | ⟨⟨slot, last⟩, four⟩
  · rw [slot]
    simp only [insertLeafEntry, Routine.read_bind, full, ↓reduceIte, Routine.fail_run]
  · rw [slot]
    simp only [lastExtents] at last
    simp only [last, four, ↓reduceIte, Routine.fail_run]

/-- An entry put into a leaf that has room for it. -/
theorem insertLeafEntry_cases {s : MapState} (ready : Ready s.allocator) (shape : TreeShape s.info)
    {before after : List ExtentLeaf} {leaf : ExtentLeaf} {first rest : List Extent}
    (logical physical : Nat) (below : logical < EXTENT_TREE_V2_FILE_BLOCKS_MAX)
    (split : s.info.extentLeaves = before ++ leaf :: after)
    (entries : leaf.extents = first ++ rest) (room : leaf.extents.length < EXTENTS_PER_BLOCK)
    (behind : reach 0 (leafEntries before ++ first) ≤ logical)
    (ahead : Ordered (logical + 1) (rest ++ leafEntries after)) :
    (∃ late, insertLeafEntry before.length first.length logical physical s = (.ok (), late) ∧
      Granted s late [] ∧ TreeShape late.info ∧
      Inserted s.info.extentLeaves late.info.extentLeaves logical physical []) ∨
    (∃ late, insertLeafEntry before.length first.length logical physical s =
      (.error .enomem, late) ∧ Unchanged s late ∧ true ∈ s.faults) := by
  have inserted := inserted_in_leaf shape.tree logical physical below split entries room behind ahead
  have extents := leafExtents_at split
  unfold insertLeafEntry
  simp only [Routine.read_bind, extents, Nat.not_le.mpr room, ↓reduceIte]
  by_cases fault : s.faults.head? = some true
  · right
    refine ⟨_, ?_, unchanged_faults s ready s.faults.tail, List.mem_of_head? fault⟩
    rw [Routine.bind_error _ _ _ _ _ (attempt_error s .enomem fault)]
  · left
    rw [Routine.bind_ok _ _ _ _ _ (attempt_ok s .enomem fault)]
    refine ⟨_, rfl, (unchanged_faults s ready s.faults.tail).granted.info _, ?_, ?_⟩
    · simp only [withLeafExtents_at split, entries, ListAt.insertIdx_at]
      exact shape.withLeaves inserted.tree
    · simp only [withLeafExtents_at split, entries, ListAt.insertIdx_at]
      exact inserted

/-- An entry put into a new leaf. -/
theorem insertNewLeaf_cases {s : MapState} (ready : Ready s.allocator) (shape : TreeShape s.info)
    (logical physical : Nat) (below : logical < EXTENT_TREE_V2_FILE_BLOCKS_MAX)
    (room : s.info.extentLeaves.length < EXTENT_TREE_ROOT_REFS)
    (behind : reach 0 (leafEntries s.info.extentLeaves) ≤ logical) :
    (∃ late leafBlock, insertNewLeaf logical physical s = (.ok (), late) ∧
      Granted s late [leafBlock] ∧ TreeShape late.info ∧
      Inserted s.info.extentLeaves late.info.extentLeaves logical physical [leafBlock] ∧
      ¬ Full s.allocator) ∨
    (∃ late reason, insertNewLeaf logical physical s = (.error reason, late) ∧ Unchanged s late ∧
      (reason ≠ .enospc → true ∈ s.faults) ∧ (reason = .enospc ↔ Full s.allocator)) := by
  have inserted (leafBlock : Nat) :=
    inserted_new_leaf shape.tree logical physical below leafBlock room behind
  rcases allocExtentLeafBlock_cases ready with ⟨leafBlock, middle, ran, taken, info, _, faults⟩ |
    ⟨late, ran, same, fault, vacant⟩ | ⟨ran, full⟩
  · have vacant := Balloc.not_full taken.valid taken.free
    by_cases fault : middle.faults.head? = some true
    · right
      have failed := attempt_error middle .enomem fault
      have undone := taken.undone (unchanged_faults middle taken.ready middle.faults.tail)
      have blamed : true ∈ s.faults := by
        rw [faults] at fault
        exact List.mem_of_mem_tail (List.mem_of_head? fault)
      refine ⟨_, .enomem, ?_, undone, fun _ => blamed, by simp [vacant]⟩
      rw [insertNewLeaf, Routine.bind_ok _ _ _ _ _ ran,
        Routine.bind_error _ _ _ _ _ (Routine.onFailure_error _ _ _ _ _ failed)]
    · left
      have went := attempt_ok middle .enomem fault
      have granted := taken.granted.trans
        (unchanged_faults middle taken.ready middle.faults.tail).granted
      refine ⟨_, leafBlock, ?_, granted.info (withLeaves middle.info
        (middle.info.extentLeaves ++ [singleLeaf leafBlock logical physical])), ?_, ?_, vacant⟩
      · rw [insertNewLeaf, Routine.bind_ok _ _ _ _ _ ran,
          Routine.bind_ok _ _ _ _ _ (Routine.onFailure_ok _ _ _ _ _ went)]
        rfl
      · rw [info]
        exact shape.withLeaves (inserted leafBlock).tree
      · show Inserted s.info.extentLeaves
          (middle.info.extentLeaves ++ [singleLeaf leafBlock logical physical]) _ _ _
        rw [info]
        exact inserted leafBlock
  · right
    refine ⟨late, .eio, ?_, same, fun _ => List.mem_of_head? fault, by simp [vacant]⟩
    rw [insertNewLeaf, Routine.bind_error _ _ _ _ _ ran]
  · right
    refine ⟨s, .enospc, ?_, Unchanged.refl ready, fun other => absurd rfl other, by simp [full]⟩
    rw [insertNewLeaf, Routine.bind_error _ _ _ _ _ ran]

theorem appendExtentEntryV2_cases {s : MapState} (ready : Ready s.allocator)
    (shape : TreeShape s.info) (logical physical : Nat)
    (below : logical < EXTENT_TREE_V2_FILE_BLOCKS_MAX)
    (unmapped : lookup (leafEntries s.info.extentLeaves) logical = none)
    (room : ¬ NoRoom s.info logical) :
    (∃ late more, appendExtentEntryV2 logical physical s = (.ok (), late) ∧
      Granted s late more ∧ TreeShape late.info ∧ more.length ≤ 1 ∧
      Inserted s.info.extentLeaves late.info.extentLeaves logical physical more ∧
      (more ≠ [] → NeedsLeaf s.info logical) ∧
      ¬ (NeedsLeaf s.info logical ∧ Full s.allocator)) ∨
    (∃ late reason, appendExtentEntryV2 logical physical s = (.error reason, late) ∧
      Unchanged s late ∧ (reason ≠ .enospc → true ∈ s.faults) ∧
      (reason = .enospc ↔ NeedsLeaf s.info logical ∧ Full s.allocator)) := by
  have ordered := shape.tree.ordered
  unfold appendExtentEntryV2
  simp only [Routine.read_bind]
  cases slot : insertSlot logical s.info.extentLeaves 0 with
  | some place =>
      obtain ⟨leafIndex, entryIndex⟩ := place
      obtain ⟨before, leaf, after, first, e, rest, split, rfl, entries, rfl, ahead, behind⟩ :=
        insertSlot_some _ _ _ _ _ slot
      simp only [Nat.zero_add] at *
      have old : leafEntries s.info.extentLeaves =
          (leafEntries before ++ first) ++ (e :: rest ++ leafEntries after) := by
        rw [split, leafEntries_append, leafEntries_cons, entries]
        simp only [List.append_assoc]
      have space : leaf.extents.length < EXTENTS_PER_BLOCK := by
        by_contra full
        apply room
        left
        refine ⟨_, _, slot, ?_⟩
        rw [leafExtents_at split]
        omega
      rw [old, Extent.ordered_append] at ordered
      rw [old, Extent.lookup_append, Option.or_eq_none_iff] at unmapped
      have low := ordered.1.reach_le logical (Nat.zero_le _) unmapped.1 behind
      have high : Ordered (logical + 1) (e :: rest ++ leafEntries after) :=
        ⟨ahead, ordered.2.2⟩
      rcases insertLeafEntry_cases ready shape logical physical below split entries space low high
        with ⟨late, ran, rest⟩ | ⟨late, ran, same, blamed⟩
      · left
        refine ⟨late, [], ran, rest.1, rest.2.1, Nat.zero_le _, rest.2.2, absurd rfl, ?_⟩
        simp [NeedsLeaf, slot]
      · right
        refine ⟨late, .enomem, ran, same, fun _ => blamed, ?_⟩
        simp [NeedsLeaf, slot]
  | none =>
      have behind := shape.tree.ordered.reach_le logical (Nat.zero_le _) unmapped
        (insertSlot_none _ _ _ slot)
      by_cases last : s.info.extentLeaves = [] ∨
          EXTENTS_PER_BLOCK ≤ (leafExtents s.info (s.info.extentLeaves.length - 1)).length
      · have needs : NeedsLeaf s.info logical := ⟨slot, last⟩
        have few : s.info.extentLeaves.length < EXTENT_TREE_ROOT_REFS := by
          by_contra four
          exact room (Or.inr ⟨needs, Nat.le_of_not_lt four⟩)
        simp only [last, ↓reduceIte, Nat.not_le.mpr few]
        rcases insertNewLeaf_cases ready shape logical physical below few behind with
          ⟨late, leafBlock, ran, granted, shape, inserted, vacant⟩ |
          ⟨late, reason, ran, same, blamed, classified⟩
        · left
          exact ⟨late, [leafBlock], ran, granted, shape, Nat.le_refl 1, inserted, fun _ => needs,
            fun full => vacant full.2⟩
        · right
          exact ⟨late, reason, ran, same, blamed, by simp [classified, needs]⟩
      · have nonempty : s.info.extentLeaves ≠ [] := fun none => last (Or.inl none)
        obtain ⟨before, leaf, split⟩ := (List.eq_nil_or_concat' s.info.extentLeaves).resolve_left
          nonempty
        have index : s.info.extentLeaves.length - 1 = before.length := by
          rw [split]
          simp
        have extents : leafExtents s.info before.length = leaf.extents :=
          leafExtents_at (show _ = before ++ leaf :: [] from split)
        rw [index, extents] at last
        have space : leaf.extents.length < EXTENTS_PER_BLOCK := by
          by_contra full
          exact last (Or.inr (by omega))
        rw [split, leafEntries_append, leafEntries_cons, leafEntries_nil, List.append_nil] at behind
        simp only [index, extents, last, ↓reduceIte]
        have placed : ¬ NeedsLeaf s.info logical := by
          rintro ⟨_, none | full⟩
          · exact nonempty none
          · rw [lastExtents, index, extents] at full
            omega
        rcases insertLeafEntry_cases ready shape logical physical below
          (show _ = before ++ leaf :: [] from split)
          (show _ = leaf.extents ++ [] from (List.append_nil _).symm) space behind trivial with
          ⟨late, ran, rest⟩ | ⟨late, ran, same, blamed⟩
        · left
          exact ⟨late, [], ran, rest.1, rest.2.1, Nat.zero_le _, rest.2.2, absurd rfl,
            fun full => placed full.1⟩
        · right
          refine ⟨late, .enomem, ran, same, fun _ => blamed, ?_⟩
          simp [placed]

/-! ### `cryexts_try_merge_last_extent` -/

/-- The block lies just behind the last extent and the allocator has the block behind that one. -/
def Merges (s : MapState) (logical : Nat) : Prop :=
  ∃ last, (extentEntries s.info).getLast? = some last ∧ logical = last.stop ∧
    last.length < MAX_EXTENT_BLOCKS ∧
    (Balloc.allocBlockGoal (last.physicalStart + last.length) s.info.hints.allocGoalGroup
      s.allocator).1 = .ok (last.physicalStart + last.length)

theorem created_of_grown {s middle : MapState} {first : List Extent} {last : Extent}
    (shape : TreeShape s.info) (entries : leafEntries s.info.extentLeaves = first ++ [last])
    (room : last.length < MAX_EXTENT_BLOCKS) (below : last.stop < EXTENT_TREE_V2_FILE_BLOCKS_MAX)
    (taken : Taken s middle (last.physicalStart + last.length)) (info : middle.info = s.info)
    (hints : AllocHints) :
    Created s { middle with info := { modifyEntry middle.info
      ((extentEntries s.info).length - 1) Extent.grown with hints := hints } }
      last.stop (last.physicalStart + last.length) [] := by
  have inserted := inserted_grown shape.tree entries room below
  have grown : modifyEntry s.info ((extentEntries s.info).length - 1) Extent.grown =
      { s.info with
        extentLeaves := modifyLeafEntry Extent.grown s.info.extentLeaves
          ((leafEntries s.info.extentLeaves).length - 1) } := by
    rw [modifyEntry, if_pos shape.flagged, shape.entries]
  rw [info, grown]
  refine ⟨taken.granted.info _, inserted, ⟨shape.extents, shape.flagged, inserted.tree, ?_⟩,
    Nat.zero_le 1⟩
  show s.info.extentRootRefs = rootRefs (modifyLeafEntry _ _ _)
  rw [modifyLeafEntry_refs Extent.grown _ _ fun _ => rfl, shape.refs]

theorem tryMergeLastExtent_cases {s : MapState} (ready : Ready s.allocator)
    (shape : TreeShape s.info) (logical : Nat) (below : logical < EXTENT_TREE_V2_FILE_BLOCKS_MAX) :
    (∃ late, tryMergeLastExtent logical s = (.ok none, late) ∧ Unchanged s late ∧
      late.faults = s.faults ∧ ¬ Merges s logical) ∨
    (∃ late block, tryMergeLastExtent logical s = (.ok (some block), late) ∧
      Created s late logical block [] ∧ Merges s logical) ∨
    (∃ late reason, tryMergeLastExtent logical s = (.error reason, late) ∧ Unchanged s late ∧
      (reason ≠ .enospc → true ∈ s.faults ∧ ¬ Full s.allocator ∧ Merges s logical) ∧
      (reason = .enospc → Full s.allocator)) := by
  unfold tryMergeLastExtent
  simp only [Routine.read_bind]
  cases found : (extentEntries s.info).getLast? with
  | none =>
      left
      refine ⟨s, rfl, Unchanged.refl ready, rfl, ?_⟩
      rintro ⟨last, other, _⟩
      rw [found] at other
      cases other
  | some last =>
      by_cases apart : logical ≠ last.stop ∨ MAX_EXTENT_BLOCKS ≤ last.length
      · left
        simp only [apart, ↓reduceIte]
        refine ⟨s, rfl, Unchanged.refl ready, rfl, ?_⟩
        rintro ⟨other, there, adjacent, room, _⟩
        rw [found] at there
        rw [Option.some.inj there] at apart
        omega
      · simp only [apart, ↓reduceIte]
        have adjacent : logical = last.stop := by omega
        have room : last.length < MAX_EXTENT_BLOCKS := by omega
        have entries : ∃ first, leafEntries s.info.extentLeaves = first ++ [last] := by
          rw [← shape.entries]
          exact ⟨_, (List.dropLast_append_getLast? last found).symm⟩
        obtain ⟨first, entries⟩ := entries
        rcases allocBlockGoal_cases ready (last.physicalStart + last.length)
          s.info.hints.allocGoalGroup with
          ⟨block, allocator, ran, settled, valid, free, switched⟩ | ⟨ran, full⟩
        · rw [Routine.bind_ok _ _ _ _ _ ran]
          by_cases goal : block ≠ last.physicalStart + last.length
          · -- The allocator has another block, which goes back.
            left
            have still : Balloc.dataBlockValid allocator block = true := by
              rw [switched.shape.dataBlockValid_eq, valid]
            obtain ⟨later, gone, ready, freed⟩ :=
              freeBlock_run (s := { s with allocator := allocator }) settled block still
            rw [if_pos goal, Routine.bind_ok _ _ _ _ _ gone]
            refine ⟨_, rfl, ⟨ready, switched.undone free freed, SameButHints.refl s.info,
              fun _ _ => rfl, rfl⟩, rfl, ?_⟩
            rintro ⟨other, there, _, _, granted⟩
            rw [found] at there
            rw [← Option.some.inj there] at granted
            have answer : (Balloc.allocBlockGoal (last.physicalStart + last.length)
                s.info.hints.allocGoalGroup s.allocator).1 = .ok block := congrArg Prod.fst ran
            rw [answer] at granted
            exact goal (Except.ok.inj granted)
          · right
            rw [if_neg goal]
            have same : block = last.physicalStart + last.length := by simpa using goal
            have merges : Merges s logical := by
              have answer : (Balloc.allocBlockGoal (last.physicalStart + last.length)
                  s.info.hints.allocGoalGroup s.allocator).1 = .ok block := congrArg Prod.fst ran
              exact ⟨last, found, adjacent, room, answer.trans (congrArg Except.ok same)⟩
            rcases @zeroOrFree_cases s { s with allocator := allocator } _ settled valid free
              switched (SameButHints.refl s.info) rfl rfl with
              ⟨middle, went, taken, _, _, info⟩ | ⟨late, failed, unchanged, fault⟩
            · left
              rw [Routine.bind_ok _ _ _ _ _ went, same]
              rw [same] at taken
              rw [adjacent] at below ⊢
              exact ⟨_, _, rfl, created_of_grown shape entries room below taken info _,
                adjacent ▸ merges⟩
            · right
              refine ⟨late, .eio, ?_, unchanged, ?_, by simp⟩
              · rw [Routine.bind_error _ _ _ _ _ failed]
              · intro _
                exact ⟨List.mem_of_head? fault, Balloc.not_full valid free, merges⟩
        · right
          right
          exact ⟨s, .enospc, Routine.bind_error _ _ _ _ _ ran, Unchanged.refl ready, absurd rfl,
            fun _ => full⟩

/-! ### `cryexts_resolve_block` -/

theorem SameButHints.noRoom {info after : InodeInfo} (same : SameButHints info after)
    (logical : Nat) : NoRoom after logical ↔ NoRoom info logical := by
  obtain ⟨hints, rfl⟩ := same
  exact Iff.rfl

theorem SameButHints.needsLeaf {info after : InodeInfo} (same : SameButHints info after)
    (logical : Nat) : NeedsLeaf after logical ↔ NeedsLeaf info logical := by
  obtain ⟨hints, rfl⟩ := same
  exact Iff.rfl

theorem Created.hints {s after : MapState} {logical block : Nat} {more : List Nat}
    (created : Created s after logical block more) (hints : AllocHints) :
    Created s { after with info := { after.info with hints := hints } } logical block more :=
  ⟨created.granted.info _, created.inserted, created.shape.sameButHints ⟨hints, rfl⟩, created.leaf⟩

theorem appendExtentEntry_tree {s : MapState} (flagged : extentTreeV2Inode s.info = true)
    (logical physical : Nat) :
    appendExtentEntry logical physical s = appendExtentEntryV2 logical physical s := by
  rw [appendExtentEntry, Routine.read_bind, if_pos flagged]

/-- The order of events of a creating call: nothing is merged, a block is taken, an entry added. -/
theorem Created.of_steps {s merged middle late : MapState} {logical block : Nat} {more : List Nat}
    (same : Unchanged s merged) (taken : Taken merged middle block)
    (granted : Granted middle late more) (shape : TreeShape late.info) (leaf : more.length ≤ 1)
    (inserted : Inserted middle.info.extentLeaves late.info.extentLeaves logical block more) :
    Created s late logical block more := by
  have whole := taken.after same
  refine ⟨?_, ?_, shape, leaf⟩
  · rw [← List.singleton_append]
    exact whole.granted.trans granted
  · rw [← whole.info.leaves]
    exact inserted

/-- One block is free, and no other. -/
def OneFree (a : Allocator) : Prop :=
  ∃ block, Balloc.dataBlockValid a block = true ∧ blockBitmapUsed a block = false ∧
    ∀ other, Balloc.dataBlockValid a other = true → other ≠ block → blockBitmapUsed a other = true

theorem Taken.full_iff {s middle : MapState} {block : Nat} (taken : Taken s middle block) :
    Full middle.allocator ↔ OneFree s.allocator := by
  have valid (other : Nat) := taken.switched.shape.dataBlockValid_eq other
  constructor
  · intro full
    refine ⟨block, taken.valid, taken.free, ?_⟩
    intro other inside apart
    rw [← taken.switched.others other apart]
    apply full
    rw [valid, inside]
  · rintro ⟨last, _, _, used⟩ other inside
    rw [valid] at inside
    have same : block = last := by
      by_contra apart
      have busy := used block taken.valid apart
      rw [taken.free] at busy
      cases busy
    by_cases here : other = block
    · rw [here, taken.switched.here]
    · rw [taken.switched.others other here]
      apply used other inside
      rw [← same]
      exact here

/-- What a creating call needs is missing: a free block, room for a new entry where the order of
the entries puts it, or a second free block for a new leaf. -/
def NoSpace (s : MapState) (logical : Nat) : Prop :=
  Full s.allocator ∨
    (¬ Merges s logical ∧ s.faults.head? ≠ some true ∧
      (NoRoom s.info logical ∨ (NeedsLeaf s.info logical ∧ OneFree s.allocator)))

/-- Once the data block is there, only a leaf can be missing. -/
theorem Taken.noSpace_iff {s middle : MapState} {logical block : Nat}
    (taken : Taken s middle block) (separate : ¬ Merges s logical)
    (calm : s.faults.head? ≠ some true) (room : ¬ NoRoom middle.info logical) :
    NoSpace s logical ↔ NeedsLeaf middle.info logical ∧ Full middle.allocator := by
  rw [taken.info.noRoom] at room
  rw [taken.info.needsLeaf, taken.full_iff]
  have vacant := Balloc.not_full taken.valid taken.free
  simp [NoSpace, vacant, separate, calm, room]

section Resolve

variable {s : MapState} (shape : TreeShape s.info) (logical : Nat)

include shape

theorem resolveBlock_mapped (create : Bool) (block : Nat)
    (mapped : lookup (extentEntries s.info) logical = some block) :
    resolveBlock logical create s = (.ok block, s) := by
  have below : ¬ extentFileBlocksMax s.info ≤ logical := by
    obtain ⟨e, member, covered⟩ := Extent.lookup_covers _ _ _ mapped
    rw [shape.entries] at member
    have inside := shape.tree.inside e member
    have short := covered.2
    rw [extentFileBlocksMax, if_pos shape.flagged]
    omega
  unfold resolveBlock resolveExtent
  simp only [Routine.read_bind, shape.extents, ↓reduceIte, below, mapped]
  rfl

theorem resolveBlock_hole (below : logical < extentFileBlocksMax s.info)
    (unmapped : lookup (extentEntries s.info) logical = none) :
    resolveBlock logical false s = (.ok 0, s) := by
  unfold resolveBlock resolveExtent
  simp only [Routine.read_bind, shape.extents, ↓reduceIte, Nat.not_le.mpr below, unmapped]
  rfl

theorem resolveBlock_beyond (create : Bool) (beyond : extentFileBlocksMax s.info ≤ logical) :
    resolveBlock logical create s = (.error .efbig, s) := by
  unfold resolveBlock resolveExtent
  simp only [Routine.read_bind, shape.extents, ↓reduceIte, beyond]
  rfl

/-- A creating call for a block without a place binds it, or has changed nothing. -/
theorem resolveBlock_create (ready : Ready s.allocator)
    (below : logical < extentFileBlocksMax s.info)
    (unmapped : lookup (extentEntries s.info) logical = none) :
    (∃ late block more, resolveBlock logical true s = (.ok block, late) ∧
      Created s late logical block more ∧ (more ≠ [] → NeedsLeaf s.info logical) ∧
      ¬ NoSpace s logical) ∨
    (∃ late reason, resolveBlock logical true s = (.error reason, late) ∧ Unchanged s late ∧
      (reason ≠ .enospc → true ∈ s.faults) ∧ (reason = .enospc ↔ NoSpace s logical)) := by
  have limit : extentFileBlocksMax s.info = EXTENT_TREE_V2_FILE_BLOCKS_MAX := by
    rw [extentFileBlocksMax, if_pos shape.flagged]
  have inside : logical < EXTENT_TREE_V2_FILE_BLOCKS_MAX := by rw [← limit]; exact below
  unfold resolveBlock resolveExtent
  simp only [Routine.read_bind, shape.extents, ↓reduceIte, Nat.not_le.mpr below, unmapped,
    Bool.true_eq_false]
  rcases tryMergeLastExtent_cases ready shape logical inside with
    ⟨merged, ran, same, faults, separate⟩ | ⟨late, block, ran, created, merges⟩ |
    ⟨late, reason, ran, same, blamed, full⟩
  · rw [Routine.bind_ok _ _ _ _ _ ran]
    simp only
    rcases newDataBlock_cases same.ready with ⟨block, middle, went, taken, calm, rest⟩ |
      ⟨late, went, rest, fault, vacant⟩ | ⟨went, full⟩
    · rw [Routine.bind_ok _ _ _ _ _ went]
      have whole := taken.after same
      rw [faults] at calm rest
      have shape := shape.sameButHints whole.info
      have append := appendExtentEntry_tree shape.flagged logical block
      have unmapped : lookup (leafEntries middle.info.extentLeaves) logical = none := by
        rw [← shape.entries, whole.info.entries, unmapped]
      by_cases room : NoRoom middle.info logical
      · right
        have failed := append.trans (appendExtentEntryV2_refused logical block middle room)
        have refused : NoSpace s logical :=
          Or.inr ⟨separate, calm, Or.inl ((whole.info.noRoom logical).mp room)⟩
        exact ⟨_, .enospc,
          Routine.bind_error _ _ _ _ _ (Routine.onFailure_error _ _ _ _ _ failed),
          whole.undone (Unchanged.refl taken.ready), absurd rfl, fun _ => refused, fun _ => rfl⟩
      · have space := whole.noSpace_iff separate calm room
        rcases appendExtentEntryV2_cases taken.ready shape logical block inside unmapped room with
          ⟨late, more, added, granted, shape, leaf, inserted, needs, found⟩ |
          ⟨late, reason, failed, unchanged, blamed, cause⟩
        · left
          rw [Routine.bind_ok _ _ _ _ _ (Routine.onFailure_ok _ _ _ _ _ (append.trans added))]
          exact ⟨_, block, more, rfl,
            (Created.of_steps same taken granted shape leaf inserted).hints _,
            fun some => (whole.info.needsLeaf logical).mp (needs some),
            fun refused => found (space.mp refused)⟩
        · right
          have failed := append.trans failed
          refine ⟨_, reason, Routine.bind_error _ _ _ _ _ (Routine.onFailure_error _ _ _ _ _ failed),
            whole.undone unchanged, ?_, cause.trans space.symm⟩
          intro other
          have later := blamed other
          rw [rest] at later
          exact List.mem_of_mem_tail later
    · right
      rw [faults] at fault
      refine ⟨late, .eio, Routine.bind_error _ _ _ _ _ went, same.trans rest,
        fun _ => List.mem_of_head? fault, ?_⟩
      simp only [reduceCtorEq, false_iff]
      rintro (full | ⟨_, calm, _⟩)
      · exact vacant (same.full_of full)
      · exact calm fault
    · right
      exact ⟨merged, .enospc, Routine.bind_error _ _ _ _ _ went, same, absurd rfl,
        fun _ => Or.inl (same.full full), fun _ => rfl⟩
  · left
    rw [Routine.bind_ok _ _ _ _ _ ran]
    refine ⟨late, block, [], rfl, created, absurd rfl, ?_⟩
    rintro (full | ⟨separate, _⟩)
    · have fresh : block ∈ [block] := List.mem_singleton_self block
      exact Balloc.not_full (created.granted.valid block fresh) (created.granted.free block fresh)
        full
    · exact separate merges
  · right
    refine ⟨late, reason, Routine.bind_error _ _ _ _ _ ran, same, fun other => (blamed other).1,
      fun here => Or.inl (full here), ?_⟩
    intro refused
    by_contra other
    obtain ⟨_, vacant, merges⟩ := blamed other
    rcases refused with full | ⟨separate, _⟩
    · exact vacant full
    · exact separate merges

end Resolve

end Inode

end Cryexts
