import Cryexts.Balloc.Geometry
import Mathlib.Algebra.Order.BigOperators.Group.Finset

set_option autoImplicit false

namespace Cryexts

namespace Balloc

open WriteLog (store store_same store_other)

/-- Everything an allocation or a free leaves alone. -/
structure SameShape (a b : Allocator) : Prop where
  groupCount : b.groupCount = a.groupCount
  blocksPerGroup : b.blocksPerGroup = a.blocksPerGroup
  inodesPerGroup : b.inodesPerGroup = a.inodesPerGroup
  blocksCount : b.diskSb.blocksCount = a.diskSb.blocksCount
  inodesCount : b.diskSb.inodesCount = a.diskSb.inodesCount
  rootDirBlock : b.diskSb.rootDirBlock = a.diskSb.rootDirBlock
  firstDataBlock : b.diskSb.firstDataBlock = a.diskSb.firstDataBlock
  featuresCompat : b.diskSb.featuresCompat = a.diskSb.featuresCompat
  featuresIncompat : b.diskSb.featuresIncompat = a.diskSb.featuresIncompat
  groupStart : ∀ group, (b.groups group).groupStart = (a.groups group).groupStart
  groupBlocks : ∀ group, (b.groups group).blocksCount = (a.groups group).blocksCount
  tableStart : ∀ group, (b.groups group).inodeTableStart = (a.groups group).inodeTableStart
  tableBlocks : ∀ group, (b.groups group).inodeTableBlocks = (a.groups group).inodeTableBlocks

section Shape

variable {a b : Allocator} (same : SameShape a b)

include same

theorem SameShape.hasBlockGroups_eq : hasBlockGroups b = hasBlockGroups a := by
  rw [hasBlockGroups, same.featuresIncompat, hasBlockGroups]

theorem SameShape.groupDataStart_eq (group : Nat) :
    groupDataStart b group = groupDataStart a group := by
  rw [groupDataStart, same.firstDataBlock, same.tableStart, same.tableBlocks, groupDataStart]

theorem SameShape.dataArea_eq (group : Nat) : dataArea b group = dataArea a group := by
  unfold dataArea
  simp only [same.groupBlocks, same.groupDataStart_eq, same.blocksPerGroup]

theorem SameShape.inodeArea_eq (group : Nat) : inodeArea b group = inodeArea a group := by
  rw [inodeArea, inodeLimit, same.inodesPerGroup, same.inodesCount, inodeArea, inodeLimit]

theorem SameShape.dataBlockValid_eq (block : Nat) :
    dataBlockValid b block = dataBlockValid a block := by
  unfold dataBlockValid
  simp only [same.blocksCount, same.hasBlockGroups_eq, same.firstDataBlock, same.blocksPerGroup,
    same.groupCount, same.groupStart, same.groupBlocks, same.groupDataStart_eq]

theorem SameShape.geometry (geometry : Geometry a) : Geometry b where
  grouped := by rw [same.hasBlockGroups_eq]; exact geometry.grouped
  blocksPositive := by rw [same.blocksPerGroup]; exact geometry.blocksPositive
  blocksFit := by rw [same.blocksPerGroup]; exact geometry.blocksFit
  inodesPositive := by rw [same.inodesPerGroup]; exact geometry.inodesPositive
  inodesFit := by rw [same.inodesPerGroup]; exact geometry.inodesFit
  groupStart := by
    rw [same.groupCount, same.blocksPerGroup]
    intro group inside
    rw [same.groupStart, geometry.groupStart group inside]
  groupBlocks := by
    rw [same.groupCount, same.blocksPerGroup, same.blocksCount]
    intro group inside
    rw [same.groupBlocks, geometry.groupBlocks group inside]
  blocksCover := by
    rw [same.blocksCount, same.groupCount, same.blocksPerGroup]
    exact geometry.blocksCover
  blocksReach := by
    rw [same.blocksCount, same.groupCount, same.blocksPerGroup]
    exact geometry.blocksReach
  inodesCover := by
    rw [same.inodesCount, same.groupCount, same.inodesPerGroup]
    exact geometry.inodesCover
  inodesReach := by
    rw [same.inodesCount, same.groupCount, same.inodesPerGroup]
    exact geometry.inodesReach
  firstPositive := by rw [same.firstDataBlock]; exact geometry.firstPositive
  firstInside := by rw [same.firstDataBlock, same.blocksPerGroup]; exact geometry.firstInside
  rootDir := by rw [same.rootDirBlock, same.firstDataBlock]; exact geometry.rootDir
  blocksBound := by rw [same.blocksCount]; exact geometry.blocksBound
  inodesBound := by rw [same.inodesCount]; exact geometry.inodesBound
  tableBound := by rw [same.groupCount]; exact geometry.tableBound

end Shape

theorem SameShape.trans {a b c : Allocator} (first : SameShape a b) (second : SameShape b c) :
    SameShape a c where
  groupCount := second.groupCount.trans first.groupCount
  blocksPerGroup := second.blocksPerGroup.trans first.blocksPerGroup
  inodesPerGroup := second.inodesPerGroup.trans first.inodesPerGroup
  blocksCount := second.blocksCount.trans first.blocksCount
  inodesCount := second.inodesCount.trans first.inodesCount
  rootDirBlock := second.rootDirBlock.trans first.rootDirBlock
  firstDataBlock := second.firstDataBlock.trans first.firstDataBlock
  featuresCompat := second.featuresCompat.trans first.featuresCompat
  featuresIncompat := second.featuresIncompat.trans first.featuresIncompat
  groupStart group := (second.groupStart group).trans (first.groupStart group)
  groupBlocks group := (second.groupBlocks group).trans (first.groupBlocks group)
  tableStart group := (second.tableStart group).trans (first.tableStart group)
  tableBlocks group := (second.tableBlocks group).trans (first.tableBlocks group)

/-- New bitmaps and one descriptor with other counters. -/
theorem sameShape_bits (a : Allocator) (group : Nat) (blockBitmaps inodeBitmaps : Nat → Nat → UInt8)
    (freeBlocks freeInodes : Nat) :
    SameShape a { a with
      groups := store a.groups group { a.groups group with
        freeBlocksCount := freeBlocks
        freeInodesCount := freeInodes }
      groupBlockBitmaps := blockBitmaps
      groupInodeBitmaps := inodeBitmaps } := by
  have member : ∀ field : GroupRecord → Nat, field { a.groups group with
      freeBlocksCount := freeBlocks, freeInodesCount := freeInodes } = field (a.groups group) →
      ∀ other, field (store a.groups group { a.groups group with
        freeBlocksCount := freeBlocks, freeInodesCount := freeInodes } other) =
          field (a.groups other) := by
    intro field agrees other
    by_cases here : other = group
    · rw [here, store_same, agrees]
    · rw [store_other _ _ _ _ here]
  exact ⟨rfl, rfl, rfl, rfl, rfl, rfl, rfl, rfl, rfl, member GroupRecord.groupStart rfl,
    member GroupRecord.blocksCount rfl, member GroupRecord.inodeTableStart rfl,
    member GroupRecord.inodeTableBlocks rfl⟩

/-- New cursors and superblock counters. -/
theorem sameShape_counts (a : Allocator) (nextIno nextDataBlock freeBlocks freeInodes diskIno
    diskBlock : Nat) :
    SameShape a { a with
      nextIno := nextIno
      nextDataBlock := nextDataBlock
      diskSb := { a.diskSb with
        freeBlocksCount := freeBlocks
        freeInodesCount := freeInodes
        nextIno := diskIno
        nextDataBlock := diskBlock } } :=
  ⟨rfl, rfl, rfl, rfl, rfl, rfl, rfl, rfl, rfl, fun _ => rfl, fun _ => rfl, fun _ => rfl,
    fun _ => rfl⟩

/-- The three copies of each free count agree. -/
structure Balanced (a : Allocator) : Prop where
  groupBlocks : ∀ group, group < a.groupCount → (a.groups group).freeBlocksCount =
    (Bitmap.zeros (a.groupBlockBitmaps group) (dataArea a group)).card
  groupInodes : ∀ group, group < a.groupCount → (a.groups group).freeInodesCount =
    (Bitmap.zeros (a.groupInodeBitmaps group) (inodeArea a group)).card
  superBlocks : a.diskSb.freeBlocksCount =
    ∑ group ∈ Finset.range a.groupCount, (a.groups group).freeBlocksCount
  superInodes : a.diskSb.freeInodesCount =
    ∑ group ∈ Finset.range a.groupCount, (a.groups group).freeInodesCount

/-- The blocks below a group's data area, its descriptors, bitmaps and inode table, are used.
The allocator itself skips them in group 0 only. -/
def MetadataUsed (a : Allocator) : Prop :=
  ∀ group bit, group < a.groupCount → 0 < group → bit < (a.groups group).blocksCount →
    group * a.blocksPerGroup + bit < groupDataStart a group →
    Bitmap.test (a.groupBlockBitmaps group) bit = true

/-- What holds between any two calls of the allocator. -/
structure Sound (a : Allocator) : Prop where
  geometry : Geometry a
  balanced : Balanced a
  metadata : MetadataUsed a
  cursors : CursorsValid a
  mirrored : a.diskSb.nextIno = a.nextIno ∧ a.diskSb.nextDataBlock = a.nextDataBlock

section Counts

variable {a : Allocator} (sound : Sound a)

include sound

theorem Sound.superBlocks_card : a.diskSb.freeBlocksCount = (freeBlocks a).card := by
  rw [sound.balanced.superBlocks, sound.geometry.freeBlocks_card]
  apply Finset.sum_congr rfl
  intro group member
  exact sound.balanced.groupBlocks group (Finset.mem_range.mp member)

theorem Sound.superInodes_card : a.diskSb.freeInodesCount = (freeInodes a).card := by
  rw [sound.balanced.superInodes, sound.geometry.freeInodes_card]
  apply Finset.sum_congr rfl
  intro group member
  exact sound.balanced.groupInodes group (Finset.mem_range.mp member)

end Counts

theorem freeInodes_le (a : Allocator) : (freeInodes a).card ≤ a.diskSb.inodesCount := by
  have subset := Finset.card_filter_le (Finset.Icc ROOT_INO a.diskSb.inodesCount)
    fun ino => inodeBitmapUsed a ino = false
  rw [Nat.card_Icc, show a.diskSb.inodesCount + 1 - ROOT_INO = a.diskSb.inodesCount from
    Nat.add_sub_cancel _ _] at subset
  exact subset

theorem dataArea_card (a : Allocator) (geometry : Geometry a) (group : Nat)
    (inside : group < a.groupCount) (bitmap : Nat → UInt8) :
    (Bitmap.zeros bitmap (dataArea a group)).card ≤ a.blocksPerGroup := by
  have first : (Bitmap.zeros bitmap (dataArea a group)).card ≤ (dataArea a group).card :=
    Finset.card_filter_le _ _
  have second : (dataArea a group).card ≤ (a.groups group).blocksCount := by
    have filtered := Finset.card_filter_le (Finset.range (a.groups group).blocksCount)
      fun bit => groupDataStart a group ≤ group * a.blocksPerGroup + bit
    rw [Finset.card_range] at filtered
    exact filtered
  rw [geometry.groupBlocks group inside] at second
  omega

theorem inodeArea_card (a : Allocator) (group : Nat) (bitmap : Nat → UInt8) :
    (Bitmap.zeros bitmap (inodeArea a group)).card ≤ a.inodesPerGroup := by
  have first : (Bitmap.zeros bitmap (inodeArea a group)).card ≤ (inodeArea a group).card :=
    Finset.card_filter_le _ _
  have second : (inodeArea a group).card = inodeLimit a group := Finset.card_range _
  have third : inodeLimit a group ≤ a.inodesPerGroup := Nat.min_le_left _ _
  omega

section Steps

variable (a : Allocator) (group bit : Nat)

theorem takeBlockBit_shape : SameShape a (takeBlockBit group bit a) :=
  sameShape_bits a group _ _ (u32Sub (a.groups group).freeBlocksCount 1) _

theorem releaseBlockBit_shape : SameShape a (releaseBlockBit group bit a) :=
  sameShape_bits a group _ _ (u32 ((a.groups group).freeBlocksCount + 1)) _

theorem takeInodeBit_shape : SameShape a (takeInodeBit group bit a) :=
  sameShape_bits a group _ _ _ (u32Sub (a.groups group).freeInodesCount 1)

theorem releaseInodeBit_shape : SameShape a (releaseInodeBit group bit a) :=
  sameShape_bits a group _ _ _ (u32 ((a.groups group).freeInodesCount + 1))

theorem blockTaken_shape (block : Nat) : SameShape a (blockTaken block a) :=
  sameShape_counts a _ (u64 (block + 1)) (u64Sub a.diskSb.freeBlocksCount 1) _ _ (u64 (block + 1))

theorem blockReleased_shape : SameShape a (blockReleased a) :=
  sameShape_counts a _ _ (u64 (a.diskSb.freeBlocksCount + 1)) _ _ _

theorem inodeTaken_shape (ino : Nat) : SameShape a (inodeTaken ino a) :=
  sameShape_counts a (if a.nextIno < u64 (ino + 1) then u64 (ino + 1) else a.nextIno) _ _
    (u64Sub a.diskSb.freeInodesCount 1)
    (if a.nextIno < u64 (ino + 1) then u64 (ino + 1) else a.nextIno) _

theorem inodeReleased_shape : SameShape a (inodeReleased a) :=
  sameShape_counts a _ _ _ (u64 (a.diskSb.freeInodesCount + 1)) _ _

end Steps

/-- A step that changes one group's block bitmap, its counter and the superblock's. -/
theorem Balanced.blocksMoved {a b : Allocator} (balanced : Balanced a) (shape : SameShape a b)
    (group : Nat) (inside : group < a.groupCount) (count : Nat) (bits : Nat → UInt8)
    (groups : b.groups = store a.groups group { a.groups group with freeBlocksCount := count })
    (bitmaps : b.groupBlockBitmaps = store a.groupBlockBitmaps group bits)
    (inodeBitmaps : b.groupInodeBitmaps = a.groupInodeBitmaps)
    (superInodes : b.diskSb.freeInodesCount = a.diskSb.freeInodesCount)
    (counted : count = (Bitmap.zeros bits (dataArea a group)).card)
    (total : b.diskSb.freeBlocksCount + (a.groups group).freeBlocksCount =
      a.diskSb.freeBlocksCount + count) : Balanced b := by
  have here : b.groups group = { a.groups group with freeBlocksCount := count } := by
    rw [groups, store_same]
  have others : ∀ other, other ≠ group → b.groups other = a.groups other := by
    intro other away
    rw [groups, store_other _ _ _ _ away]
  have inodesKept : ∀ other, (b.groups other).freeInodesCount =
      (a.groups other).freeInodesCount := by
    intro other
    by_cases same : other = group
    · rw [same, here]
    · rw [others other same]
  constructor
  · intro other low
    rw [shape.groupCount] at low
    rw [shape.dataArea_eq, bitmaps]
    by_cases same : other = group
    · rw [same, here, store_same]
      exact counted
    · rw [others other same, store_other _ _ _ _ same, balanced.groupBlocks other low]
  · intro other low
    rw [shape.groupCount] at low
    rw [shape.inodeArea_eq, inodeBitmaps, inodesKept, balanced.groupInodes other low]
  · have sum := Bitmap.sum_of_one a.groupCount (fun other => (a.groups other).freeBlocksCount)
      (fun other => (b.groups other).freeBlocksCount) group inside
      fun other away => by rw [others other away]
    have before := balanced.superBlocks
    simp only [here] at sum
    rw [shape.groupCount]
    omega
  · rw [shape.groupCount, superInodes, balanced.superInodes]
    exact Finset.sum_congr rfl fun other _ => (inodesKept other).symm

/-- A step that changes one group's inode bitmap, its counter and the superblock's. -/
theorem Balanced.inodesMoved {a b : Allocator} (balanced : Balanced a) (shape : SameShape a b)
    (group : Nat) (inside : group < a.groupCount) (count : Nat) (bits : Nat → UInt8)
    (groups : b.groups = store a.groups group { a.groups group with freeInodesCount := count })
    (bitmaps : b.groupInodeBitmaps = store a.groupInodeBitmaps group bits)
    (blockBitmaps : b.groupBlockBitmaps = a.groupBlockBitmaps)
    (superBlocks : b.diskSb.freeBlocksCount = a.diskSb.freeBlocksCount)
    (counted : count = (Bitmap.zeros bits (inodeArea a group)).card)
    (total : b.diskSb.freeInodesCount + (a.groups group).freeInodesCount =
      a.diskSb.freeInodesCount + count) : Balanced b := by
  have here : b.groups group = { a.groups group with freeInodesCount := count } := by
    rw [groups, store_same]
  have others : ∀ other, other ≠ group → b.groups other = a.groups other := by
    intro other away
    rw [groups, store_other _ _ _ _ away]
  have blocksKept : ∀ other, (b.groups other).freeBlocksCount =
      (a.groups other).freeBlocksCount := by
    intro other
    by_cases same : other = group
    · rw [same, here]
    · rw [others other same]
  constructor
  · intro other low
    rw [shape.groupCount] at low
    rw [shape.dataArea_eq, blockBitmaps, blocksKept, balanced.groupBlocks other low]
  · intro other low
    rw [shape.groupCount] at low
    rw [shape.inodeArea_eq, bitmaps]
    by_cases same : other = group
    · rw [same, here, store_same]
      exact counted
    · rw [others other same, store_other _ _ _ _ same, balanced.groupInodes other low]
  · rw [shape.groupCount, superBlocks, balanced.superBlocks]
    exact Finset.sum_congr rfl fun other _ => (blocksKept other).symm
  · have sum := Bitmap.sum_of_one a.groupCount (fun other => (a.groups other).freeInodesCount)
      (fun other => (b.groups other).freeInodesCount) group inside
      fun other away => by rw [others other away]
    have before := balanced.superInodes
    simp only [here] at sum
    rw [shape.groupCount]
    omega

section Kept

variable {a : Allocator} (sound : Sound a) (group bit : Nat) (inside : group < a.groupCount)

include sound inside

theorem Sound.groupBlocks_le : (a.groups group).freeBlocksCount ≤ a.diskSb.freeBlocksCount := by
  rw [sound.balanced.superBlocks]
  exact Finset.single_le_sum (f := fun other => (a.groups other).freeBlocksCount)
    (fun _ _ => Nat.zero_le _) (Finset.mem_range.mpr inside)

theorem Sound.groupInodes_le : (a.groups group).freeInodesCount ≤ a.diskSb.freeInodesCount := by
  rw [sound.balanced.superInodes]
  exact Finset.single_le_sum (f := fun other => (a.groups other).freeInodesCount)
    (fun _ _ => Nat.zero_le _) (Finset.mem_range.mpr inside)

/-- A data block lies above `root_dir_block` and inside the device. -/
theorem Sound.area_bounds (member : bit ∈ dataArea a group) :
    a.diskSb.firstDataBlock ≤ group * a.blocksPerGroup + bit ∧
      group * a.blocksPerGroup + bit < a.diskSb.blocksCount := by
  obtain ⟨low, start⟩ := (mem_dataArea a group bit).mp member
  have placed := sound.geometry.block_lt group bit inside low
  have first := sound.geometry.firstInside
  refine ⟨?_, placed.2⟩
  by_cases zero : group = 0
  · rw [groupDataStart, if_pos zero] at start
    exact start
  · have reach : a.blocksPerGroup ≤ group * a.blocksPerGroup :=
      Nat.le_mul_of_pos_left _ (by omega)
    omega

theorem Sound.takeBlock (member : bit ∈ dataArea a group)
    (free : Bitmap.test (a.groupBlockBitmaps group) bit = false) :
    Sound (blockTaken (group * a.blocksPerGroup + bit) (takeBlockBit group bit a)) := by
  have shape := (takeBlockBit_shape a group bit).trans
    (blockTaken_shape (takeBlockBit group bit a) (group * a.blocksPerGroup + bit))
  have fewer := Bitmap.zeros_set (a.groupBlockBitmaps group) (dataArea a group) bit member free
  have counted := sound.balanced.groupBlocks group inside
  have total := sound.groupBlocks_le group inside
  have bounds := sound.area_bounds group bit inside member
  have device := sound.geometry.blocksBound
  have next : u64 (group * a.blocksPerGroup + bit + 1) = group * a.blocksPerGroup + bit + 1 :=
    u64_of_lt _ (by omega)
  constructor
  · exact shape.geometry sound.geometry
  · apply sound.balanced.blocksMoved shape group inside _ _ rfl rfl rfl rfl
    · rw [u32Sub_of_le _ _ (by omega)]
      omega
    · show u64Sub a.diskSb.freeBlocksCount 1 + _ = _
      rw [u32Sub_of_le _ _ (by omega), u64Sub_of_le _ _ (by omega)]
      omega
  · intro other place low later below metadata
    rw [shape.groupDataStart_eq, shape.blocksPerGroup] at metadata
    rw [shape.groupBlocks] at below
    have used := sound.metadata other place low later below metadata
    show Bitmap.test (store a.groupBlockBitmaps group
      (Bitmap.set (a.groupBlockBitmaps group) bit) other) place = true
    by_cases same : other = group
    · subst same
      rw [store_same]
      by_cases again : place = bit
      · rw [again, Bitmap.test_set_same]
      · rw [Bitmap.test_set_other _ _ _ again, used]
    · rw [store_other _ _ _ _ same, used]
  · have cursors := sound.cursors
    have root := sound.geometry.rootDir
    unfold CursorsValid at cursors ⊢
    show ROOT_INO + 1 ≤ a.nextIno ∧ a.nextIno ≤ u64 (a.diskSb.inodesCount + 1) ∧
      a.diskSb.rootDirBlock + 1 ≤ u64 (group * a.blocksPerGroup + bit + 1) ∧
        u64 (group * a.blocksPerGroup + bit + 1) ≤ a.diskSb.blocksCount
    rw [next]
    omega
  · exact ⟨rfl, rfl⟩

theorem Sound.releaseBlock (member : bit ∈ dataArea a group)
    (used : Bitmap.test (a.groupBlockBitmaps group) bit = true) :
    Sound (blockReleased (releaseBlockBit group bit a)) := by
  have shape := (releaseBlockBit_shape a group bit).trans
    (blockReleased_shape (releaseBlockBit group bit a))
  have more := Bitmap.zeros_clear (a.groupBlockBitmaps group) (dataArea a group) bit member used
  have counted := sound.balanced.groupBlocks group inside
  have fit := sound.geometry.blocksFit
  have size : BLOCK_SIZE = 4096 := rfl
  have small := dataArea_card a sound.geometry group inside
    (Bitmap.clear (a.groupBlockBitmaps group) bit)
  have block := sound.geometry.area_block group bit inside member
  have bounds := sound.area_bounds group bit inside member
  have room : (freeBlocks a).card < a.diskSb.blocksCount := by
    have strict := Finset.card_lt_card (Finset.filter_ssubset.mpr
      ⟨group * a.blocksPerGroup + bit, Finset.mem_range.mpr bounds.2, fun both => by
        rw [block.2, used] at both
        exact absurd both.2 (by decide)⟩ :
      freeBlocks a ⊂ Finset.range a.diskSb.blocksCount)
    rw [Finset.card_range] at strict
    exact strict
  have total := sound.superBlocks_card
  have device := sound.geometry.blocksBound
  constructor
  · exact shape.geometry sound.geometry
  · apply sound.balanced.blocksMoved shape group inside _ _ rfl rfl rfl rfl
    · rw [u32_of_lt _ (by omega)]
      omega
    · show u64 (a.diskSb.freeBlocksCount + 1) + _ = _
      rw [u32_of_lt _ (by omega), u64_of_lt _ (by omega)]
      omega
  · intro other place low later below metadata
    rw [shape.groupDataStart_eq, shape.blocksPerGroup] at metadata
    rw [shape.groupBlocks] at below
    have kept := sound.metadata other place low later below metadata
    show Bitmap.test (store a.groupBlockBitmaps group
      (Bitmap.clear (a.groupBlockBitmaps group) bit) other) place = true
    by_cases same : other = group
    · subst same
      have start := ((mem_dataArea a other bit).mp member).2
      have again : place ≠ bit := by
        intro equal
        rw [equal] at metadata
        omega
      rw [store_same, Bitmap.test_clear_other _ _ _ again, kept]
    · rw [store_other _ _ _ _ same, kept]
  · exact sound.cursors
  · exact ⟨rfl, rfl⟩

theorem Sound.takeInode (member : bit ∈ inodeArea a group)
    (free : Bitmap.test (a.groupInodeBitmaps group) bit = false) :
    Sound (inodeTaken (group * a.inodesPerGroup + bit + 1) (takeInodeBit group bit a)) := by
  have shape := (takeInodeBit_shape a group bit).trans
    (inodeTaken_shape (takeInodeBit group bit a) (group * a.inodesPerGroup + bit + 1))
  have fewer := Bitmap.zeros_set (a.groupInodeBitmaps group) (inodeArea a group) bit member free
  have counted := sound.balanced.groupInodes group inside
  have total := sound.groupInodes_le group inside
  have placed := sound.geometry.area_inode group bit inside member
  have device := sound.geometry.inodesBound
  constructor
  · exact shape.geometry sound.geometry
  · apply sound.balanced.inodesMoved shape group inside _ _ rfl rfl rfl rfl
    · rw [u32Sub_of_le _ _ (by omega)]
      omega
    · show u64Sub a.diskSb.freeInodesCount 1 + _ = _
      rw [u32Sub_of_le _ _ (by omega), u64Sub_of_le _ _ (by omega)]
      omega
  · intro other place low later below metadata
    rw [shape.groupDataStart_eq, shape.blocksPerGroup] at metadata
    rw [shape.groupBlocks] at below
    exact sound.metadata other place low later below metadata
  · have cursors := sound.cursors
    unfold CursorsValid at cursors ⊢
    show ROOT_INO + 1 ≤ (if a.nextIno < u64 (group * a.inodesPerGroup + bit + 1 + 1) then
        u64 (group * a.inodesPerGroup + bit + 1 + 1) else a.nextIno) ∧
      (if a.nextIno < u64 (group * a.inodesPerGroup + bit + 1 + 1) then
        u64 (group * a.inodesPerGroup + bit + 1 + 1) else a.nextIno) ≤
          u64 (a.diskSb.inodesCount + 1) ∧
      a.diskSb.rootDirBlock + 1 ≤ a.nextDataBlock ∧ a.nextDataBlock ≤ a.diskSb.blocksCount
    rw [u64_of_lt (group * a.inodesPerGroup + bit + 1 + 1) (by omega)]
    rw [u64_of_lt (a.diskSb.inodesCount + 1) (by omega)] at cursors ⊢
    split
    · omega
    · exact cursors
  · exact ⟨rfl, rfl⟩

theorem Sound.releaseInode (member : bit ∈ inodeArea a group)
    (used : Bitmap.test (a.groupInodeBitmaps group) bit = true) :
    Sound (inodeReleased (releaseInodeBit group bit a)) := by
  have root : ROOT_INO = 1 := rfl
  have shape := (releaseInodeBit_shape a group bit).trans
    (inodeReleased_shape (releaseInodeBit group bit a))
  have more := Bitmap.zeros_clear (a.groupInodeBitmaps group) (inodeArea a group) bit member used
  have counted := sound.balanced.groupInodes group inside
  have fit := sound.geometry.inodesFit
  have size : BLOCK_SIZE = 4096 := rfl
  have small := inodeArea_card a group (Bitmap.clear (a.groupInodeBitmaps group) bit)
  have total := sound.superInodes_card
  have all := freeInodes_le a
  have device := sound.geometry.inodesBound
  constructor
  · exact shape.geometry sound.geometry
  · apply sound.balanced.inodesMoved shape group inside _ _ rfl rfl rfl rfl
    · rw [u32_of_lt _ (by omega)]
      omega
    · show u64 (a.diskSb.freeInodesCount + 1) + _ = _
      rw [u32_of_lt _ (by omega), u64_of_lt _ (by omega)]
      omega
  · intro other place low later below metadata
    rw [shape.groupDataStart_eq, shape.blocksPerGroup] at metadata
    rw [shape.groupBlocks] at below
    exact sound.metadata other place low later below metadata
  · exact sound.cursors
  · exact ⟨rfl, rfl⟩

end Kept

end Balloc

end Cryexts
