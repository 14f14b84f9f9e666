import Cryexts.Inode.TreeRun

set_option autoImplicit false

namespace Cryexts

namespace Inode

open Balloc (Allocator Ready Full blockBitmapUsed)
open Extent (stored lookup Ordered)

/-- Every leaf the root can refer to is there and full. -/
def LeavesFull (info : InodeInfo) : Prop :=
  EXTENT_TREE_ROOT_REFS ≤ info.extentLeaves.length ∧
    ∀ leaf, leaf ∈ info.extentLeaves → EXTENTS_PER_BLOCK ≤ leaf.extents.length

/-! ### Every second block of a file -/

theorem emptyAllocator_spare (block : Nat) (low : 17 ≤ block) (high : block < 417) :
    Balloc.dataBlockValid Balloc.emptyAllocator block = true ∧
      blockBitmapUsed Balloc.emptyAllocator block = false := by
  revert block
  decide +kernel

/-- The blocks 0, 2, 4 and so on up to `2 * count` are mapped, each by an entry of its own in the
one leaf there is at most. -/
structure Comb (count : Nat) (s : MapState) : Prop where
  run : MapRun emptyFile s
  map : ∀ logical, lookup (leafEntries s.info.extentLeaves) logical ≠ none ↔
    logical % 2 = 0 ∧ logical < 2 * count
  blocks : (stored (leafEntries s.info.extentLeaves)).length = count
  leaves : s.info.extentLeaves.length ≤ 1
  spare : ∃ free : Finset Nat, 400 ≤ free.card + 2 * count ∧ ∀ block, block ∈ free →
    Balloc.dataBlockValid s.allocator block = true ∧ blockBitmapUsed s.allocator block = false
  calm : s.faults = []

theorem lookup_of_covers {extents : List Extent} {e : Extent} {logical : Nat}
    (member : e ∈ extents) (covers : e.Covers logical) : lookup extents logical ≠ none := by
  induction extents with
  | nil => cases member
  | cons first rest ih =>
      rw [Extent.lookup_cons]
      by_cases here : first.Covers logical
      · simp [here]
      · rcases List.mem_cons.mp member with same | later
        · rw [same] at covers
          exact absurd covers here
        · simp only [here, ↓reduceIte]
          exact ih later

theorem stored_length_single {extents : List Extent}
    (single : ∀ e, e ∈ extents → e.length = 1) : (stored extents).length = extents.length := by
  induction extents with
  | nil => rfl
  | cons e rest ih =>
      rw [Extent.stored_cons, List.length_append, List.length_range', single e List.mem_cons_self,
        ih fun other member => single other (List.mem_cons_of_mem e member), List.length_cons]
      omega

namespace Comb

variable {count : Nat} {s : MapState} (comb : Comb count s)

include comb

theorem owned : TreeOwned s := comb.run.owned emptyFile_empty emptyFile_ready

/-- No entry maps two blocks, since one of them would be odd. -/
theorem single (e : Extent) (member : e ∈ leafEntries s.info.extentLeaves) : e.length = 1 := by
  have positive := (comb.owned.shape.tree.ordered.bounds e member).2.1
  by_contra longer
  have first := (comb.map e.logicalStart).mp
    (lookup_of_covers member ⟨Nat.le_refl _, by simp only [Extent.stop]; omega⟩)
  have second := (comb.map (e.logicalStart + 1)).mp
    (lookup_of_covers member ⟨Nat.le_succ _, by simp only [Extent.stop]; omega⟩)
  omega

theorem entries : (leafEntries s.info.extentLeaves).length = count := by
  rw [← stored_length_single comb.single, comb.blocks]

/-- The entry of an even block starts there. -/
theorem entry (logical : Nat) (even : logical % 2 = 0) (below : logical < 2 * count) :
    ∃ e, e ∈ leafEntries s.info.extentLeaves ∧ e.logicalStart = logical := by
  obtain ⟨block, found⟩ := Option.ne_none_iff_exists'.mp ((comb.map logical).mpr ⟨even, below⟩)
  obtain ⟨e, member, covers⟩ := Extent.lookup_covers _ _ _ found
  have single := comb.single e member
  have low := covers.1
  have high := covers.2
  rw [Extent.stop] at high
  exact ⟨e, member, by omega⟩

theorem leafExtents_le (leafIndex : Nat) : (leafExtents s.info leafIndex).length ≤ count := by
  rw [← comb.entries]
  have few := comb.leaves
  cases leaves : s.info.extentLeaves with
  | nil => simp [leafExtents, leaves]
  | cons leaf rest =>
      rw [leaves, List.length_cons] at few
      have alone : rest = [] := List.length_eq_zero_iff.mp (by omega)
      cases leafIndex with
      | zero => simp [leafExtents, leaves, leafEntries, alone]
      | succ later => simp [leafExtents, leaves, alone]

theorem not_full (below : count < 200) : ¬ Full s.allocator := by
  obtain ⟨free, many, spare⟩ := comb.spare
  have some : free.Nonempty := Finset.card_pos.mp (by omega)
  obtain ⟨block, member⟩ := some
  exact Balloc.not_full (spare block member).1 (spare block member).2

theorem not_oneFree (below : count < 199) : ¬ OneFree s.allocator := by
  rintro ⟨last, _, _, used⟩
  obtain ⟨free, many, spare⟩ := comb.spare
  obtain ⟨block, member, apart⟩ := Finset.exists_mem_ne (show 1 < free.card by omega) last
  have busy := used block (spare block member).1 apart
  rw [(spare block member).2] at busy
  cases busy

theorem not_needsLeaf (some : s.info.extentLeaves ≠ []) (below : count < EXTENTS_PER_BLOCK)
    (logical : Nat) : ¬ NeedsLeaf s.info logical := by
  rintro ⟨_, none | full⟩
  · exact some none
  · have short := comb.leafExtents_le (s.info.extentLeaves.length - 1)
    rw [lastExtents] at full
    omega

/-- While the leaf has room, there is space for the next block but one. -/
theorem space (below : count < EXTENTS_PER_BLOCK) (logical : Nat) : ¬ NoSpace s logical := by
  have bound : EXTENTS_PER_BLOCK = 170 := rfl
  rintro (full | ⟨_, _, (⟨leafIndex, entryIndex, _, full⟩ | ⟨_, four⟩) | ⟨_, one⟩⟩)
  · exact comb.not_full (by omega) full
  · have short := comb.leafExtents_le leafIndex
    omega
  · have few := comb.leaves
    simp only [EXTENT_TREE_ROOT_REFS] at four
    omega
  · exact comb.not_oneFree (by omega) one

/-- One more block is written. -/
theorem step (below : count < EXTENTS_PER_BLOCK) : ∃ after, Comb (count + 1) after := by
  have owned := comb.owned
  have bound : EXTENTS_PER_BLOCK = 170 := rfl
  have unmapped : lookup (extentEntries s.info) (2 * count) = none := by
    rw [owned.shape.entries]
    by_contra mapped
    have inside := (comb.map (2 * count)).mp mapped
    omega
  have low : 2 * count < extentFileBlocksMax s.info := by
    rw [extentFileBlocksMax, if_pos owned.shape.flagged]
    have limit : EXTENT_TREE_V2_FILE_BLOCKS_MAX = 4 * 170 * 65535 := rfl
    omega
  rcases resolveBlock_create owned.shape (2 * count) owned.ready low unmapped with
    ⟨late, block, more, ran, created, needs, _⟩ | ⟨late, reason, ran, _, blamed, cause⟩
  · have after := created.owned owned
    have reached : MapRun emptyFile late := by
      have next := comb.run.request (.resolve (2 * count) true)
      rw [MapRequest.run, ran] at next
      exact next
    refine ⟨{ late with faults := [] }, ?_, ?_, ?_, ?_, ?_, rfl⟩
    · exact reached.elsewhere ⟨after.ready, after.used, rfl⟩
    · intro logical
      show lookup (leafEntries late.info.extentLeaves) logical ≠ none ↔ _
      rw [created.inserted.map]
      by_cases here : logical = 2 * count
      · simp [here]
      · simp only [here, ↓reduceIte]
        rw [comb.map]
        omega
    · show (stored (leafEntries late.info.extentLeaves)).length = _
      rw [created.inserted.stored.length_eq, List.length_cons, comb.blocks]
    · show late.info.extentLeaves.length ≤ 1
      have blocks := congrArg List.length created.inserted.blocks
      simp only [List.length_map, List.length_append] at blocks
      by_cases same : more = []
      · rw [same, List.length_nil] at blocks
        have few := comb.leaves
        omega
      · have none : s.info.extentLeaves = [] := by
          by_contra some
          exact comb.not_needsLeaf some below _ (needs same)
        rw [none, List.length_nil] at blocks
        have leaf := created.leaf
        omega
    · obtain ⟨free, many, spare⟩ := comb.spare
      refine ⟨free \ (block :: more).toFinset, ?_, ?_⟩
      · have less := Finset.le_card_sdiff (block :: more).toFinset free
        have taken := (block :: more).toFinset_card_le
        have leaf := created.leaf
        rw [List.length_cons] at taken
        omega
      · intro other member
        obtain ⟨old, apart⟩ := Finset.mem_sdiff.mp member
        rw [List.mem_toFinset] at apart
        show Balloc.dataBlockValid late.allocator other = true ∧
          blockBitmapUsed late.allocator other = false
        rw [created.granted.shape.dataBlockValid_eq, created.granted.used, (spare other old).2]
        exact ⟨(spare other old).1, by simp [apart]⟩
  · exfalso
    have full : reason = .enospc := by
      by_contra other
      have faulty := blamed other
      rw [comb.calm] at faulty
      cases faulty
    exact comb.space below _ (cause.mp full)

end Comb

theorem comb_zero : Comb 0 emptyFile where
  run := .start
  map logical := by simp [emptyFile, leafEntries]
  blocks := rfl
  leaves := Nat.zero_le 1
  spare := by
    refine ⟨Finset.Ico 17 417, by simp, ?_⟩
    intro block member
    have range := Finset.mem_Ico.mp member
    exact emptyAllocator_spare block range.1 range.2
  calm := rfl

theorem comb_exists (count : Nat) (room : count ≤ EXTENTS_PER_BLOCK) : ∃ s, Comb count s := by
  induction count with
  | zero => exact ⟨emptyFile, comb_zero⟩
  | succ count ih =>
      obtain ⟨s, comb⟩ := ih (Nat.le_of_succ_le room)
      exact comb.step room

/-- The one leaf is full, and block 1 would come between two of its entries. -/
theorem Comb.noSpace {s : MapState} (comb : Comb EXTENTS_PER_BLOCK s) : NoSpace s 1 := by
  have bound : EXTENTS_PER_BLOCK = 170 := rfl
  have owned := comb.owned
  obtain ⟨e, member, start⟩ := comb.entry 2 rfl (by omega)
  right
  refine ⟨?_, by simp [comb.calm], Or.inl (Or.inl ?_)⟩
  · -- The last entry ends behind block 2, and so not at block 1.
    rintro ⟨last, found, stop, _⟩
    rw [owned.shape.entries] at found
    have split := List.dropLast_append_getLast? last found
    have inside : last ∈ leafEntries s.info.extentLeaves := List.mem_of_getLast? found
    have size := comb.single last inside
    have sorted := owned.shape.tree.ordered.pairwise
    rw [Extent.stop] at stop
    rw [← split] at member sorted
    rcases List.mem_append.mp member with early | here
    · have before := (List.pairwise_append.mp sorted).2.2 e early last (List.mem_singleton_self last)
      rw [Extent.stop] at before
      omega
    · rw [List.mem_singleton.mp here] at start
      omega
  · cases slot : insertSlot 1 s.info.extentLeaves 0 with
    | none =>
        have early := insertSlot_none _ _ _ slot e member
        omega
    | some place =>
        obtain ⟨leafIndex, entryIndex⟩ := place
        obtain ⟨before, leaf, after, _, _, _, split, index, _⟩ := insertSlot_some _ _ _ _ _ slot
        refine ⟨leafIndex, entryIndex, rfl, ?_⟩
        have few := comb.leaves
        rw [split, List.length_append, List.length_cons] at few
        have first : before = [] := List.length_eq_zero_iff.mp (by omega)
        have last : after = [] := List.length_eq_zero_iff.mp (by omega)
        have all := comb.entries
        rw [split, first, last] at all
        rw [index, Nat.zero_add, leafExtents_at split]
        simp [leafEntries] at all
        omega

theorem Comb.unmapped {count : Nat} {s : MapState} (comb : Comb count s) :
    lookup (extentEntries s.info) 1 = none := by
  rw [comb.owned.shape.entries]
  by_contra mapped
  have even := ((comb.map 1).mp mapped).1
  omega

theorem Comb.below {count : Nat} {s : MapState} (comb : Comb count s) :
    1 < extentFileBlocksMax s.info := by
  rw [extentFileBlocksMax, if_pos comb.owned.shape.flagged]
  decide

/-! ### When a creating call runs out of space -/

/-- From an empty file on, a creating call for a block without a place runs out of space when
there is no free block for it, when its entry belongs into a full leaf or would need a fifth one,
or when a new leaf is needed and the data block was the last free one. No leaf is ever split. -/
theorem resolveBlock_enospc_iff (start s : MapState) (empty : EmptyTree start.info)
    (ready : Ready start.allocator) (run : MapRun start s) (logical : Nat)
    (below : logical < extentFileBlocksMax s.info)
    (unmapped : lookup (extentEntries s.info) logical = none) :
    (resolveBlock logical true s).1 = .error .enospc ↔ NoSpace s logical := by
  have owned := run.owned empty ready
  rcases resolveBlock_create owned.shape logical owned.ready below unmapped with
    ⟨late, block, more, ran, _, _, room⟩ | ⟨late, reason, ran, _, _, cause⟩
  · simp [ran, room]
  · rw [ran, ← cause]
    exact ⟨Except.error.inj, congrArg Except.error⟩

theorem resolveBlock_enospc_comb : ∃ s, Comb EXTENTS_PER_BLOCK s ∧ NoSpace s 1 ∧
    (resolveBlock 1 true s).1 = .error .enospc := by
  obtain ⟨s, comb⟩ := comb_exists EXTENTS_PER_BLOCK (Nat.le_refl _)
  exact ⟨s, comb, comb.noSpace, (resolveBlock_enospc_iff emptyFile s emptyFile_empty emptyFile_ready
    comb.run 1 comb.below comb.unmapped).mpr comb.noSpace⟩

/-- Every second block of a file is written until its leaf is full: then block 1 finds no space,
though blocks are free and the root could refer to three more leaves. -/
theorem resolveBlock_premature : ∃ s, MapRun emptyFile s ∧ 1 < extentFileBlocksMax s.info ∧
    lookup (extentEntries s.info) 1 = none ∧ (resolveBlock 1 true s).1 = .error .enospc ∧
    ¬ (Full s.allocator ∨ LeavesFull s.info) := by
  obtain ⟨s, comb⟩ := comb_exists EXTENTS_PER_BLOCK (Nat.le_refl _)
  refine ⟨s, comb.run, comb.below, comb.unmapped, ?_, ?_⟩
  · rcases resolveBlock_create comb.owned.shape 1 comb.owned.ready comb.below comb.unmapped with
      ⟨_, _, _, _, _, _, room⟩ | ⟨late, reason, ran, _, _, cause⟩
    · exact absurd comb.noSpace room
    · rw [ran, cause.mpr comb.noSpace]
  · rintro (full | ⟨four, _⟩)
    · exact comb.not_full (by decide) full
    · have few := comb.leaves
      simp only [EXTENT_TREE_ROOT_REFS] at four
      omega

end Inode

end Cryexts
