import Cryexts.Inode.Slot
import Cryexts.Inode.TreeRelease

set_option autoImplicit false

namespace Cryexts

namespace Inode

open Extent (stored Ordered reach)
open Routine (of_bind_ok of_require_ok of_require_bind_ok)

/-- Whatever a `u64` sum walks over, a block of the volume is reached without a wrap. -/
theorem inUse_range {v : InodeVolume} {start count : Nat} (small : start < 2 ^ 64)
    (used : ∀ index, index < count → InUse v (u64 (start + index))) :
    ∀ block, block ∈ List.range' start count → InUse v block := by
  intro block member
  have bounds := List.mem_range'_1.mp member
  have here := used (block - start) (by omega)
  rw [show start + (block - start) = block by omega] at here
  by_cases low : block < 2 ^ 64
  · rwa [u64_of_lt block low] at here
  · -- The block at the wrap is block zero, which is not in use.
    have wrapped := used (2 ^ 64 - start) (by omega)
    rw [show start + (2 ^ 64 - start) = 2 ^ 64 by omega] at wrapped
    exact absurd (Balloc.valid_positive wrapped.1) (by simp [u64])

section Layout

variable {size : Nat} (buf : ByteBuf size) (offset count : Nat)

theorem extentsAt_length : (extentsAt buf offset count).length = count := by
  simp [extentsAt]

/-- The members of an extent have the widths of `struct cryexts_extent`. -/
theorem extentsAt_bounds (e : Extent) (member : e ∈ extentsAt buf offset count) :
    e.logicalStart < 2 ^ 64 ∧ e.physicalStart < 2 ^ 64 := by
  obtain ⟨index, _, rfl⟩ := List.mem_map.mp member
  have logical := ByteBuf.get_lt buf ⟨offset + 8 + 24 * index, 8⟩
  have physical := ByteBuf.get_lt buf ⟨offset + 8 + 24 * index + 8, 8⟩
  have width : (256 : Nat) ^ 8 = 2 ^ 64 := by decide
  rw [width] at logical physical
  exact ⟨logical, physical⟩

end Layout

section Volume

variable {v : InodeVolume} {buffers : Nat → Block}

theorem readExtents_ok {block entries checksum : Nat} {faults rest : List Bool}
    {extents : List Extent}
    (read : readExtents v buffers block entries checksum faults = (.ok extents, rest)) :
    extents = extentsAt (buffers block) 0 entries ∧
      ExtentBlockValid v block entries checksum (buffers block) := by
  obtain ⟨buf, _, got, read⟩ := of_bind_ok _ _ _ _ _ read
  obtain ⟨_, _, _, got⟩ := of_bind_ok _ _ _ _ _ got
  obtain rfl : buf = buffers block := (Except.ok.inj (Prod.mk.inj got).1).symm
  obtain ⟨valid, read⟩ := of_require_bind_ok _ _ _ _ _ _ read
  exact ⟨(Except.ok.inj (Prod.mk.inj read).1).symm, valid⟩

/-- Extents in order from a place on, none longer than an extent may be, all their blocks in
use. -/
structure Accepted (v : InodeVolume) (low : Nat) (extents : List Extent) : Prop where
  ordered : Ordered low extents
  short : ∀ e, e ∈ extents → e.length ≤ MAX_EXTENT_BLOCKS
  inUse : ∀ block, block ∈ stored extents → InUse v block

theorem Accepted.nil (low : Nat) : Accepted v low [] := ⟨trivial, by simp, by simp⟩

theorem Accepted.append {low : Nat} {first second : List Extent} (early : Accepted v low first)
    (late : Accepted v (reach low first) second) : Accepted v low (first ++ second) where
  ordered := (Extent.ordered_append low first second).mpr ⟨early.ordered, late.ordered⟩
  short e member := (List.mem_append.mp member).elim (early.short e) (late.short e)
  inUse block member := by
    rw [Extent.stored_append, List.mem_append] at member
    exact member.elim (early.inUse block) (late.inUse block)

theorem validateExtents_ok {extents : List Extent} {totals final : ExtentTotals}
    {faults rest : List Bool}
    (bounds : ∀ e, e ∈ extents → e.logicalStart < 2 ^ 64 ∧ e.physicalStart < 2 ^ 64)
    (checked : validateExtents v extents totals faults = (.ok final, rest)) :
    Accepted v totals.next extents ∧ final.next = reach totals.next extents := by
  induction extents generalizing totals faults with
  | nil =>
      obtain rfl : totals = final := Except.ok.inj (Prod.mk.inj checked).1
      exact ⟨Accepted.nil _, rfl⟩
  | cons e later ih =>
      obtain ⟨_, _, one, checked⟩ := of_bind_ok _ _ _ _ _ checked
      obtain ⟨length, one⟩ := of_require_bind_ok _ _ _ _ _ _ one
      obtain ⟨start, one⟩ := of_require_bind_ok _ _ _ _ _ _ one
      obtain ⟨_, one⟩ := of_require_bind_ok _ _ _ _ _ _ one
      obtain ⟨used, _⟩ := of_require_ok _ _ _ _ one
      obtain ⟨logical, physical⟩ := bounds e List.mem_cons_self
      have stop : u64 (e.logicalStart + e.length) = e.stop := by
        apply u64_of_lt
        by_contra wraps
        have short : e.length ≤ 65535 := length.2
        have sum := start.2
        unfold u64 at sum
        omega
      have following := ih (fun other member => bounds other (List.mem_cons_of_mem e member)) checked
      simp only [stop] at following
      refine ⟨⟨⟨start.1, Nat.pos_of_ne_zero length.1, following.1.ordered⟩, ?_, ?_⟩, following.2⟩
      · intro other member
        rcases List.mem_cons.mp member with rfl | member
        · exact length.2
        · exact following.1.short other member
      · intro block member
        rw [Extent.stored_cons, List.mem_append] at member
        exact member.elim (inUse_range physical used block) (following.1.inUse block)

/-! ### Leaves -/

/-- The leaf that a root reference names. -/
def leafOf (buffers : Nat → Block) (ref : ExtentRootRef) : ExtentLeaf where
  block := ref.leafBlock
  checksum := ref.checksum
  extents := extentsAt (buffers ref.leafBlock) 0 ref.entries

theorem loadExtentLeaves_ok {refs : List ExtentRootRef} {leaves : List ExtentLeaf}
    {faults rest : List Bool}
    (loaded : loadExtentLeaves v buffers refs faults = (.ok leaves, rest)) :
    leaves = refs.map (leafOf buffers) := by
  induction refs generalizing leaves faults rest with
  | nil => exact (Except.ok.inj (Prod.mk.inj loaded).1).symm
  | cons ref later ih =>
      obtain ⟨leaf, _, one, loaded⟩ := of_bind_ok _ _ _ _ _ loaded
      obtain ⟨others, _, more, loaded⟩ := of_bind_ok _ _ _ _ _ loaded
      obtain rfl : leaf :: others = leaves := Except.ok.inj (Prod.mk.inj loaded).1
      obtain ⟨_, one⟩ := of_require_bind_ok _ _ _ _ _ _ one
      obtain ⟨extents, _, read, one⟩ := of_bind_ok _ _ _ _ _ one
      obtain ⟨_, _, _, one⟩ := of_bind_ok _ _ _ _ _ one
      obtain rfl := Except.ok.inj (Prod.mk.inj one).1
      rw [ih more, (readExtents_ok read).1]
      rfl

/-- A leaf as its check has found it. -/
structure LeafAccepted (v : InodeVolume) (buffers : Nat → Block) (ref : ExtentRootRef) : Prop where
  inUse : InUse v ref.leafBlock
  filled : ref.entries ≠ 0
  roomy : ref.entries ≤ EXTENTS_PER_BLOCK
  start : (leafOf buffers ref).extents.head?.map Extent.logicalStart = some ref.logicalStart

theorem LeafAccepted.ref {ref : ExtentRootRef} (accepted : LeafAccepted v buffers ref) :
    (leafOf buffers ref).ref = ref := by
  have start := accepted.start
  unfold ExtentLeaf.ref
  rw [start]
  simp only [leafOf, extentsAt_length, Option.getD_some]

theorem validateLeaves_ok {refs : List ExtentRootRef} {totals final : ExtentTotals}
    {faults rest : List Bool}
    (checked : validateLeaves v buffers refs totals faults = (.ok final, rest)) :
    (∀ ref, ref ∈ refs → LeafAccepted v buffers ref) ∧
      Accepted v totals.next (leafEntries (refs.map (leafOf buffers))) ∧
      final.next = reach totals.next (leafEntries (refs.map (leafOf buffers))) := by
  induction refs generalizing totals faults with
  | nil =>
      obtain rfl : totals = final := Except.ok.inj (Prod.mk.inj checked).1
      exact ⟨by simp, Accepted.nil _, rfl⟩
  | cons ref later ih =>
      obtain ⟨middle, _, one, checked⟩ := of_bind_ok _ _ _ _ _ checked
      obtain ⟨shape, one⟩ := of_require_bind_ok _ _ _ _ _ _ one
      obtain ⟨_, one⟩ := of_require_bind_ok _ _ _ _ _ _ one
      obtain ⟨inUse, one⟩ := of_require_bind_ok _ _ _ _ _ _ one
      obtain ⟨extents, _, read, one⟩ := of_bind_ok _ _ _ _ _ one
      obtain ⟨start, one⟩ := of_require_bind_ok _ _ _ _ _ _ one
      obtain rfl := (readExtents_ok read).1
      obtain ⟨here, next⟩ := validateExtents_ok (extentsAt_bounds _ _ _) one
      obtain ⟨others, accepted, last⟩ := ih checked
      rw [next] at accepted last
      refine ⟨?_, here.append accepted, ?_⟩
      · intro other member
        rcases List.mem_cons.mp member with rfl | member
        · exact ⟨inUse, shape.2.1, shape.2.2, start⟩
        · exact others other member
      · rw [last, List.map_cons, leafEntries_cons, Extent.reach_append]
        rfl

/-! ### Inodes that were accepted and loaded -/

/-- A directory with an index. -/
def Indexed (mode : Nat) (info : InodeInfo) : Prop :=
  sIsDir mode = true ∧ info.inodeFlags &&& INODE_FLAG_DIR_INDEX ≠ 0

instance (mode : Nat) (info : InodeInfo) : Decidable (Indexed mode info) :=
  inferInstanceAs (Decidable (_ ∧ _))

/-- An inode mapped by an extent tree. -/
structure TreeAccepted (v : InodeVolume) (info : InodeInfo) : Prop where
  shape : TreeShape info
  inUse : ∀ block, block ∈ occupied info → InUse v block

/-- An inode with extents in its slot and perhaps in an overflow block. -/
structure ListAccepted (v : InodeVolume) (info : InodeInfo) : Prop where
  extents : info.useExtents = true
  plain : extentTreeV2Inode info = false
  accepted : Accepted v 0 (info.extents ++ info.overflowExtents)
  inside : ∀ e, e ∈ info.extents ++ info.overflowExtents → e.stop ≤ EXTENT_TREE_V2_FILE_BLOCKS_MAX
  overflow : info.extentOverflowBlock = 0 ↔ info.overflowExtents = []
  inUse : info.extentOverflowBlock ≠ 0 → InUse v info.extentOverflowBlock

/-- An inode with direct blocks and perhaps an indirect one. An indexed directory is loaded with
its index as both its index and its indirect block. -/
structure DirectAccepted (v : InodeVolume) (buffers : Nat → Block) (mode : Nat)
    (info : InodeInfo) : Prop where
  direct : info.useExtents = false
  inUse : ∀ index, info.direct index ≠ 0 → index < DIRECT_BLOCKS ∧ InUse v (info.direct index)
  indirect : info.indirectBlock ≠ 0 → InUse v info.indirectBlock
  entries : ¬ Indexed mode info → info.indirectBlock ≠ 0 →
    ∀ block, block ∈ indirectBlocks (buffers info.indirectBlock) → InUse v block
  index : Indexed mode info → info.indirectBlock ≠ 0 ∧ info.dirIndexBlock = info.indirectBlock
  noIndex : ¬ Indexed mode info → info.dirIndexBlock = 0

theorem TreeAccepted.sameButHints {info after : InodeInfo} (accepted : TreeAccepted v info)
    (same : SameButHints info after) : TreeAccepted v after := by
  have kept := same.leaves
  refine ⟨accepted.shape.sameButHints same, ?_⟩
  intro block member
  rw [occupied, kept] at member
  exact accepted.inUse block member

theorem ListAccepted.sameButHints {info after : InodeInfo} (accepted : ListAccepted v info)
    (same : SameButHints info after) : ListAccepted v after := by
  obtain ⟨hints, rfl⟩ := same
  exact ⟨accepted.extents, accepted.plain, accepted.accepted, accepted.inside, accepted.overflow,
    accepted.inUse⟩

theorem DirectAccepted.sameButHints {mode : Nat} {info after : InodeInfo}
    (accepted : DirectAccepted v buffers mode info) (same : SameButHints info after) :
    DirectAccepted v buffers mode after := by
  obtain ⟨hints, rfl⟩ := same
  exact ⟨accepted.direct, accepted.inUse, accepted.indirect, accepted.entries, accepted.index,
    accepted.noIndex⟩

theorem initInodeAllocHint_ok {size : Nat} {info after : InodeInfo} {faults rest : List Bool}
    (ran : initInodeAllocHint v buffers size info faults = (.ok after, rest)) :
    SameButHints info after := by
  obtain ⟨_, _, _, ran⟩ := of_bind_ok _ _ _ _ _ ran
  exact ⟨_, (Except.ok.inj (Prod.mk.inj ran).1).symm⟩

section Slot

variable {slot : Slot}

/-- What the common checks say about where the extents end. -/
theorem validateExtentCommon_inside {totals : ExtentTotals} {overflow : Nat}
    {faults rest : List Bool}
    (checked : validateExtentCommon slot totals overflow faults = (.ok (), rest)) :
    totals.next ≤ EXTENT_TREE_V2_FILE_BLOCKS_MAX := by
  obtain ⟨_, checked⟩ := of_require_bind_ok _ _ _ _ _ _ checked
  obtain ⟨_, checked⟩ := of_require_bind_ok _ _ _ _ _ _ checked
  obtain ⟨covered, checked⟩ := of_require_bind_ok _ _ _ _ _ _ checked
  obtain ⟨_, checked⟩ := of_require_bind_ok _ _ _ _ _ _ checked
  obtain ⟨limited, _⟩ := of_require_bind_ok _ _ _ _ _ _ checked
  have most : slotFileBlocksMax slot ≤ EXTENT_TREE_V2_FILE_BLOCKS_MAX := by
    unfold slotFileBlocksMax
    split
    · exact Nat.le_refl _
    · split
      · decide
      · decide
  have bound : EXTENT_TREE_V2_FILE_BLOCKS_MAX = 44563800 := by decide
  have block : BLOCK_SIZE = 4096 := rfl
  rw [block] at covered limited
  rw [u64_of_lt _ (by omega)] at covered
  omega

theorem Accepted.stops {extents : List Extent} (accepted : Accepted v 0 extents) {limit : Nat}
    (inside : reach 0 extents ≤ limit) (e : Extent) (member : e ∈ extents) : e.stop ≤ limit :=
  Nat.le_trans (accepted.ordered.bounds e member).2.2 inside

/-- The leaves of an inode whose checks have succeeded. -/
theorem treeAccepted {refs : List ExtentRootRef} {info : InodeInfo} {totals : ExtentTotals}
    {faults rest : List Bool} (few : refs.length ≤ EXTENT_TREE_ROOT_REFS)
    (checked : validateLeaves v buffers refs ⟨0, 0⟩ faults = (.ok totals, rest))
    (inside : totals.next ≤ EXTENT_TREE_V2_FILE_BLOCKS_MAX)
    (extents : info.useExtents = true) (flagged : extentTreeV2Inode info = true)
    (leaves : info.extentLeaves = refs.map (leafOf buffers))
    (rootRefsAre : info.extentRootRefs =
      refs ++ List.replicate (EXTENT_TREE_ROOT_REFS - refs.length) ExtentRootRef.zero) :
    TreeAccepted v info := by
  obtain ⟨each, accepted, next⟩ := validateLeaves_ok checked
  rw [next] at inside
  have tree : Tree info.extentLeaves := by
    rw [leaves]
    constructor
    · rwa [List.length_map]
    · intro leaf member
      obtain ⟨ref, there, rfl⟩ := List.mem_map.mp member
      rw [← List.length_pos_iff, leafOf, extentsAt_length]
      exact Nat.pos_of_ne_zero (each ref there).filled
    · intro leaf member
      obtain ⟨ref, there, rfl⟩ := List.mem_map.mp member
      rw [leafOf, extentsAt_length]
      exact (each ref there).roomy
    · exact accepted.ordered
    · exact accepted.short
    · exact accepted.stops inside
  refine ⟨⟨extents, flagged, tree, ?_⟩, ?_⟩
  · have same : (refs.map (leafOf buffers)).map ExtentLeaf.ref = refs := by
      have each (ref : ExtentRootRef) (there : ref ∈ refs) :
          (ExtentLeaf.ref ∘ leafOf buffers) ref = id ref := (each ref there).ref
      rw [List.map_map, List.map_congr_left each, List.map_id]
    rw [rootRefsAre, leaves, rootRefs, same, List.length_map]
  · intro block member
    rw [occupied, leaves, List.mem_append] at member
    rcases member with data | leaf
    · exact accepted.inUse block data
    · rw [List.map_map] at leaf
      obtain ⟨ref, there, rfl⟩ := List.mem_map.mp leaf
      exact (each ref there).inUse

/-- The extents of a slot whose checks have succeeded, those of its overflow block behind them. -/
structure ListChecked (v : InodeVolume) (buffers : Nat → Block) (slot : Slot)
    (totals : ExtentTotals) (overflow : List Extent) : Prop where
  accepted : Accepted v 0 (slotExtents slot (slotHeader slot).entries ++ overflow)
  next : totals.next = reach 0 (slotExtents slot (slotHeader slot).entries ++ overflow)

theorem listChecked_inline {totals : ExtentTotals} {faults rest : List Bool}
    (checked : validateExtents v (slotExtents slot (slotHeader slot).entries) ⟨0, 0⟩ faults =
      (.ok totals, rest)) : ListChecked v buffers slot totals [] := by
  obtain ⟨accepted, next⟩ := validateExtents_ok (extentsAt_bounds _ _ _) checked
  constructor
  · rw [List.append_nil]
    exact accepted
  · rw [List.append_nil]
    exact next

theorem validateOverflow_ok {totals : ExtentTotals} {block : Nat} {faults rest : List Bool}
    (checked : validateOverflow v buffers slot faults = (.ok (totals, block), rest)) :
    (overflowBlock slot = 0 ∧ ListChecked v buffers slot totals []) ∨
    (overflowBlock slot ≠ 0 ∧ InUse v (overflowBlock slot) ∧ overflowEntries slot ≠ 0 ∧
      ListChecked v buffers slot totals
        (extentsAt (buffers (overflowBlock slot)) 0 (overflowEntries slot))) := by
  obtain ⟨_, checked⟩ := of_require_bind_ok _ _ _ _ _ _ checked
  obtain ⟨paired, checked⟩ := of_require_bind_ok _ _ _ _ _ _ checked
  obtain ⟨_, checked⟩ := of_require_bind_ok _ _ _ _ _ _ checked
  obtain ⟨_, checked⟩ := of_require_bind_ok _ _ _ _ _ _ checked
  by_cases none : overflowBlock slot = 0
  · left
    simp only [none, ↓reduceIte] at checked
    obtain ⟨_, _, inline, checked⟩ := of_bind_ok _ _ _ _ _ checked
    obtain ⟨rfl, _⟩ := Prod.mk.inj (Except.ok.inj (Prod.mk.inj checked).1)
    exact ⟨none, listChecked_inline inline⟩
  · right
    simp only [none, ↓reduceIte] at checked
    obtain ⟨inUse, checked⟩ := of_require_bind_ok _ _ _ _ _ _ checked
    obtain ⟨_, _, read, checked⟩ := of_bind_ok _ _ _ _ _ checked
    obtain ⟨_, _, inline, checked⟩ := of_bind_ok _ _ _ _ _ checked
    obtain ⟨_, _, behind, checked⟩ := of_bind_ok _ _ _ _ _ checked
    obtain ⟨rfl, _⟩ := Prod.mk.inj (Except.ok.inj (Prod.mk.inj checked).1)
    obtain rfl := (readExtents_ok read).1
    obtain ⟨early, middle⟩ := validateExtents_ok (extentsAt_bounds _ _ _) inline
    obtain ⟨late, last⟩ := validateExtents_ok (extentsAt_bounds _ _ _) behind
    rw [middle] at late last
    refine ⟨none, inUse, paired.mp none, early.append late, ?_⟩
    rw [last, Extent.reach_append]
    rfl

theorem loadExtentOverflow_ok {block entries checksum : Nat} {extents : List Extent}
    {faults rest : List Bool}
    (loaded : loadExtentOverflow v buffers block entries checksum faults = (.ok extents, rest)) :
    extents = if block = 0 then [] else extentsAt (buffers block) 0 entries := by
  unfold loadExtentOverflow at loaded
  by_cases none : block = 0
  · simp only [none, ↓reduceIte] at loaded ⊢
    obtain ⟨_, loaded⟩ := of_require_bind_ok _ _ _ _ _ _ loaded
    exact (Except.ok.inj (Prod.mk.inj loaded).1).symm
  · simp only [none, ↓reduceIte] at loaded ⊢
    obtain ⟨_, loaded⟩ := of_require_bind_ok _ _ _ _ _ _ loaded
    obtain ⟨_, _, read, loaded⟩ := of_bind_ok _ _ _ _ _ loaded
    obtain ⟨_, _, _, loaded⟩ := of_bind_ok _ _ _ _ _ loaded
    rw [← (readExtents_ok read).1]
    exact (Except.ok.inj (Prod.mk.inj loaded).1).symm

/-- A slot with the flag of a tree on a volume too old for trees is loaded as a tree without
leaves. -/
theorem listLoaded {totals : ExtentTotals} {overflow : List Extent}
    (flagged : slotFlag slot INODE_FLAG_EXTENTS = true)
    (listed : ListChecked v buffers slot totals overflow)
    (inside : totals.next ≤ EXTENT_TREE_V2_FILE_BLOCKS_MAX) (inlineMax block checksum : Nat)
    (paired : block = 0 ↔ overflow = []) (inUse : block ≠ 0 → InUse v block) :
    let info := { slotInfo slot with
      extentInlineMax := inlineMax
      extents := slotExtents slot (slotHeader slot).entries
      overflowExtents := overflow
      extentOverflowBlock := block
      extentOverflowChecksum := checksum }
    TreeAccepted v info ∨ ListAccepted v info := by
  intro info
  rw [listed.next] at inside
  by_cases old : extentTreeV2Inode info = true
  · left
    refine ⟨⟨flagged, old, ?_, rfl⟩, ?_⟩
    · exact ⟨Nat.zero_le _, by simp [info, slotInfo], by simp [info, slotInfo], trivial,
        by simp [info, slotInfo], by simp [info, slotInfo]⟩
    · intro block member
      cases member
  · right
    exact ⟨flagged, by simpa using old, listed.accepted, listed.accepted.stops inside, paired, inUse⟩

/-- An extent file that passes the checks of its slot is loaded as a tree or as a list. -/
theorem extentMap_accepted {totals : ExtentTotals} {block : Nat} {info : InodeInfo}
    {faults rest more last : List Bool} (flagged : slotFlag slot INODE_FLAG_EXTENTS = true)
    (checked : validateExtentMap v buffers slot faults = (.ok (totals, block), rest))
    (inside : totals.next ≤ EXTENT_TREE_V2_FILE_BLOCKS_MAX)
    (loaded : loadExtentMap v buffers slot more = (.ok info, last)) :
    TreeAccepted v info ∨ ListAccepted v info := by
  obtain ⟨_, checked⟩ := of_require_bind_ok _ _ _ _ _ _ checked
  obtain ⟨_, checked⟩ := of_require_bind_ok _ _ _ _ _ _ checked
  obtain ⟨_, loaded⟩ := of_require_bind_ok _ _ _ _ _ _ loaded
  by_cases tree : (slotFlag slot INODE_FLAG_EXTENT_TREE_V2 && extentTreeV2Enabled v) = true
  · left
    simp only [tree, ↓reduceIte] at checked loaded
    obtain ⟨few, checked⟩ := of_require_bind_ok _ _ _ _ _ _ checked
    obtain ⟨_, _, leaves, checked⟩ := of_bind_ok _ _ _ _ _ checked
    obtain ⟨rfl, _⟩ := Prod.mk.inj (Except.ok.inj (Prod.mk.inj checked).1)
    obtain ⟨_, loaded⟩ := of_require_bind_ok _ _ _ _ _ _ loaded
    obtain ⟨_, _, got, loaded⟩ := of_bind_ok _ _ _ _ _ loaded
    obtain rfl := Except.ok.inj (Prod.mk.inj loaded).1
    exact treeAccepted (by simpa using few.2.1) leaves inside flagged
      (Bool.and_eq_true_iff.mp tree).1 (loadExtentLeaves_ok got) rfl
  · have plain : (slotFlag slot INODE_FLAG_EXTENT_TREE_V2 && extentTreeV2Enabled v) = false := by
      simpa using tree
    simp only [plain, Bool.false_eq_true, ↓reduceIte] at checked loaded
    by_cases four : (slotHeader slot).max = MAX_INLINE_EXTENTS
    · simp only [four, ↓reduceIte] at checked loaded
      obtain ⟨_, checked⟩ := of_require_bind_ok _ _ _ _ _ _ checked
      obtain ⟨_, _, inline, checked⟩ := of_bind_ok _ _ _ _ _ checked
      obtain ⟨rfl, _⟩ := Prod.mk.inj (Except.ok.inj (Prod.mk.inj checked).1)
      obtain ⟨_, loaded⟩ := of_require_bind_ok _ _ _ _ _ _ loaded
      obtain rfl := Except.ok.inj (Prod.mk.inj loaded).1
      have listed : ListChecked v buffers slot _ [] := listChecked_inline inline
      exact listLoaded flagged listed inside MAX_INLINE_EXTENTS 0 0 (by simp) (absurd rfl)
    · by_cases three : (slotHeader slot).max = EXTENT_ROOT_INLINE_EXTENTS ∧
          extentTreeEnabled v = true
      · simp only [three, and_self, ↓reduceIte] at checked loaded
        obtain ⟨_, loaded⟩ := of_require_bind_ok _ _ _ _ _ _ loaded
        obtain ⟨overflow, _, got, loaded⟩ := of_bind_ok _ _ _ _ _ loaded
        obtain rfl := Except.ok.inj (Prod.mk.inj loaded).1
        have shown := loadExtentOverflow_ok got
        rcases validateOverflow_ok checked with ⟨none, listed⟩ | ⟨some, inUse, filled, listed⟩
        · rw [if_pos none] at shown
          rw [shown]
          exact listLoaded flagged listed inside _ _ _ (by simp [none]) (absurd none)
        · rw [if_neg some] at shown
          have length := extentsAt_length (buffers (overflowBlock slot)) 0 (overflowEntries slot)
          rw [shown]
          refine listLoaded flagged listed inside _ _ _ ?_ fun _ => inUse
          constructor
          · intro none
            exact absurd none some
          · intro none
            rw [none] at length
            exact absurd length.symm filled
      · simp only [four, three, ↓reduceIte] at checked
        cases checked

theorem slotIndexed_iff : slotIndexed slot = true ↔ Indexed (slot.get DiskInode.mode) (slotInfo slot) := by
  simp [slotIndexed, Indexed, slotFlag, slotInfo]

/-- The inode that a slot without extents is loaded as, but for its hints. -/
def directInfo (slot : Slot) : InodeInfo :=
  { slotInfo slot with
    direct := fun index =>
      if index < DIRECT_BLOCKS then slot.get (DiskInode.block index) else 0
    indirectBlock := slot.get DiskInode.indirectBlock }

theorem validateDirBlocks_ok {faults rest : List Bool}
    (checked : validateDirBlocks v slot faults = (.ok (), rest)) :
    if slotFlag slot INODE_FLAG_DIR_INDEX then
      slot.get DiskInode.indirectBlock ≠ 0 ∧ InUse v (slot.get DiskInode.indirectBlock)
    else slot.get DiskInode.indirectBlock = 0 := by
  obtain ⟨_, checked⟩ := of_require_bind_ok _ _ _ _ _ _ checked
  obtain ⟨_, checked⟩ := of_require_bind_ok _ _ _ _ _ _ checked
  cases flag : slotFlag slot INODE_FLAG_DIR_INDEX with
  | true =>
      simp only [flag, ↓reduceIte] at checked ⊢
      exact (of_require_bind_ok _ _ _ _ _ _ checked).1
  | false =>
      simp only [flag, Bool.false_eq_true, ↓reduceIte] at checked ⊢
      exact (of_require_bind_ok _ _ _ _ _ _ checked).1

theorem directAccepted {faults rest : List Bool}
    (plain : slotFlag slot INODE_FLAG_EXTENTS = false)
    (checked : validateDirect v buffers slot faults = (.ok (), rest)) :
    DirectAccepted v buffers (slot.get DiskInode.mode) (directInfo slot) := by
  obtain ⟨direct, checked⟩ := of_require_bind_ok _ _ _ _ _ _ checked
  obtain ⟨entries, _, first, checked⟩ := of_bind_ok _ _ _ _ _ checked
  obtain ⟨_, _, dirs, _⟩ := of_bind_ok _ _ _ _ _ checked
  have indexed : slotIndexed slot = true ↔ Indexed (slot.get DiskInode.mode) (directInfo slot) :=
    slotIndexed_iff
  have served : slotIndexed slot = false → slot.get DiskInode.indirectBlock ≠ 0 →
      InUse v (slot.get DiskInode.indirectBlock) ∧
        ∀ block, block ∈ indirectBlocks (buffers (slot.get DiskInode.indirectBlock)) →
          InUse v block := by
    intro other some
    rw [if_pos ⟨some, other⟩] at first
    obtain ⟨inUse, first⟩ := of_require_bind_ok _ _ _ _ _ _ first
    obtain ⟨buf, _, read, first⟩ := of_bind_ok _ _ _ _ _ first
    obtain ⟨_, _, _, read⟩ := of_bind_ok _ _ _ _ _ read
    obtain rfl : buf = _ := (Except.ok.inj (Prod.mk.inj read).1).symm
    exact ⟨inUse, (of_require_bind_ok _ _ _ _ _ _ first).1⟩
  have index : slotIndexed slot = true → slot.get DiskInode.indirectBlock ≠ 0 ∧
      InUse v (slot.get DiskInode.indirectBlock) := by
    intro here
    obtain ⟨dir, flag⟩ := Bool.and_eq_true_iff.mp here
    rw [if_pos dir] at dirs
    have named := validateDirBlocks_ok dirs
    rwa [if_pos flag] at named
  constructor
  · exact plain
  · intro place some
    have low : place < DIRECT_BLOCKS := by
      by_contra high
      exact some (if_neg high)
    have here : (directInfo slot).direct place = slot.get (DiskInode.block place) := if_pos low
    rw [here] at some ⊢
    refine ⟨low, direct _ ?_⟩
    rw [slotDirect, List.mem_filter]
    exact ⟨List.mem_map.mpr ⟨place, List.mem_range.mpr low, rfl⟩, by simpa using some⟩
  · intro some
    by_cases here : slotIndexed slot = true
    · exact (index here).2
    · exact (served (by simpa using here) some).1
  · intro other some
    rw [← indexed] at other
    exact (served (by simpa using other) some).2
  · intro here
    rw [← indexed] at here
    exact ⟨(index here).1, if_pos here⟩
  · intro other
    rw [← indexed] at other
    exact if_neg other

/-- Every inode that is accepted and loaded has one of three shapes. -/
theorem accepted_cases {ino : Nat} {info : InodeInfo} {faults rest more last : List Bool}
    (accepted : validateInode v buffers ino slot faults = (.ok (), rest))
    (loads : initInodeBlocks v buffers slot more = (.ok info, last)) :
    TreeAccepted v info ∨ ListAccepted v info ∨
      DirectAccepted v buffers (slot.get DiskInode.mode) info := by
  obtain ⟨_, _, _, accepted⟩ := of_bind_ok _ _ _ _ _ accepted
  obtain ⟨_, _, _, loads⟩ := of_bind_ok _ _ _ _ _ loads
  obtain ⟨base, _, mapped, loads⟩ := of_bind_ok _ _ _ _ _ loads
  have same := initInodeAllocHint_ok loads
  cases flag : slotFlag slot INODE_FLAG_EXTENTS with
  | true =>
      simp only [flag, ↓reduceIte] at accepted mapped
      obtain ⟨⟨totals, overflow⟩, _, checked, common⟩ := of_bind_ok _ _ _ _ _ accepted
      have inside := validateExtentCommon_inside common
      rcases extentMap_accepted flag checked inside mapped with tree | list
      · exact Or.inl (tree.sameButHints same)
      · exact Or.inr (Or.inl (list.sameButHints same))
  | false =>
      simp only [flag, Bool.false_eq_true, ↓reduceIte] at accepted mapped
      obtain rfl : directInfo slot = base := Except.ok.inj (Prod.mk.inj mapped).1
      exact Or.inr (Or.inr ((directAccepted flag accepted).sameButHints same))

end Slot

end Volume

end Inode

end Cryexts
