import Cryexts.Balloc
import Mathlib.Order.Interval.Finset.Nat

set_option autoImplicit false

namespace Cryexts

namespace Balloc

open WriteLog (store store_same store_other)

/-- Block groups as the formatter lays them out: equal groups, the last one possibly short, each
with its bits inside one bitmap block. -/
structure Geometry (a : Allocator) : Prop where
  grouped : hasBlockGroups a = true
  blocksPositive : 0 < a.blocksPerGroup
  blocksFit : a.blocksPerGroup ≤ BLOCK_SIZE * 8
  inodesPositive : 0 < a.inodesPerGroup
  inodesFit : a.inodesPerGroup ≤ BLOCK_SIZE * 8
  groupStart : ∀ group, group < a.groupCount →
    (a.groups group).groupStart = group * a.blocksPerGroup
  groupBlocks : ∀ group, group < a.groupCount → (a.groups group).blocksCount =
    min a.blocksPerGroup (a.diskSb.blocksCount - group * a.blocksPerGroup)
  blocksCover : a.diskSb.blocksCount ≤ a.groupCount * a.blocksPerGroup
  blocksReach : ∀ group, group < a.groupCount →
    group * a.blocksPerGroup < a.diskSb.blocksCount
  inodesCover : a.diskSb.inodesCount ≤ a.groupCount * a.inodesPerGroup
  inodesReach : ∀ group, group < a.groupCount →
    group * a.inodesPerGroup ≤ a.diskSb.inodesCount
  firstPositive : 0 < a.diskSb.firstDataBlock
  firstInside : a.diskSb.firstDataBlock ≤ a.blocksPerGroup
  rootDir : a.diskSb.rootDirBlock = a.diskSb.firstDataBlock
  blocksBound : a.diskSb.blocksCount < 2 ^ 64
  inodesBound : a.diskSb.inodesCount + 1 < 2 ^ 64
  tableBound : a.groupCount * GROUP_DESC_SIZE < 2 ^ 64

theorem u32Sub_of_le (first second : Nat) (ordered : second ≤ first) :
    u32Sub first second = first - second := by
  rw [u32Sub, if_pos ordered]

theorem u64Sub_of_le (first second : Nat) (ordered : second ≤ first) :
    u64Sub first second = first - second := by
  rw [u64Sub, if_pos ordered]

theorem divU64_of_fit (dividend divisor : Nat) (fit : divisor ≤ BLOCK_SIZE * 8) :
    divU64 dividend divisor = dividend / divisor := by
  have small : divisor < 2 ^ 32 := by
    have size : BLOCK_SIZE = 4096 := rfl
    omega
  rw [divU64, u32_of_lt _ small]

/-- The bits of a group's data area. -/
def dataArea (a : Allocator) (group : Nat) : Finset Nat :=
  (Finset.range (a.groups group).blocksCount).filter fun bit =>
    groupDataStart a group ≤ group * a.blocksPerGroup + bit

/-- The bits of a group's inode range. -/
def inodeArea (a : Allocator) (group : Nat) : Finset Nat := Finset.range (inodeLimit a group)

theorem mem_dataArea (a : Allocator) (group bit : Nat) : bit ∈ dataArea a group ↔
    bit < (a.groups group).blocksCount ∧
      groupDataStart a group ≤ group * a.blocksPerGroup + bit := by
  simp [dataArea]

theorem mem_inodeArea (a : Allocator) (group bit : Nat) :
    bit ∈ inodeArea a group ↔ bit < inodeLimit a group := by
  simp [inodeArea]

/-- A number split into its group and its bit. -/
theorem group_of (per group bit : Nat) (inside : bit < per) :
    (group * per + bit) / per = group ∧ (group * per + bit) % per = bit := by
  have positive : 0 < per := by omega
  constructor
  · rw [Nat.mul_comm, Nat.mul_add_div positive, Nat.div_eq_of_lt inside, Nat.add_zero]
  · rw [Nat.mul_comm, Nat.mul_add_mod, Nat.mod_eq_of_lt inside]

section Queries

variable {a : Allocator} (geometry : Geometry a)

include geometry

theorem Geometry.group_lt (block : Nat) (inside : block < a.diskSb.blocksCount) :
    block / a.blocksPerGroup < a.groupCount := by
  have covers := geometry.blocksCover
  exact (Nat.div_lt_iff_lt_mul geometry.blocksPositive).mpr (by omega)

theorem Geometry.inode_group_lt (index : Nat) (inside : index < a.diskSb.inodesCount) :
    index / a.inodesPerGroup < a.groupCount := by
  have covers := geometry.inodesCover
  exact (Nat.div_lt_iff_lt_mul geometry.inodesPositive).mpr (by omega)

theorem Geometry.inodeLimit_eq (group : Nat) (inside : group < a.groupCount) :
    inodeLimit a group =
      min a.inodesPerGroup (a.diskSb.inodesCount - group * a.inodesPerGroup) := by
  have reach := geometry.inodesReach group inside
  have bound := geometry.inodesBound
  rw [inodeLimit, u64_of_lt _ (by omega), u64Sub_of_le _ _ reach]

theorem Geometry.block_lt (group bit : Nat) (inside : group < a.groupCount)
    (low : bit < (a.groups group).blocksCount) :
    bit < a.blocksPerGroup ∧ group * a.blocksPerGroup + bit < a.diskSb.blocksCount := by
  have reach := geometry.blocksReach group inside
  rw [geometry.groupBlocks group inside] at low
  omega

theorem Geometry.ino_le (group bit : Nat) (inside : group < a.groupCount)
    (low : bit < inodeLimit a group) :
    bit < a.inodesPerGroup ∧ group * a.inodesPerGroup + bit < a.diskSb.inodesCount := by
  have reach := geometry.inodesReach group inside
  rw [geometry.inodeLimit_eq group inside] at low
  omega

theorem Geometry.dataBlockValid_iff (block : Nat) : dataBlockValid a block = true ↔
    block < a.diskSb.blocksCount ∧
      groupDataStart a (block / a.blocksPerGroup) ≤ block := by
  have first := geometry.firstPositive
  have bound := geometry.blocksBound
  unfold dataBlockValid
  simp only [geometry.grouped, Bool.true_eq_false, ↓reduceIte]
  rw [divU64_of_fit _ _ geometry.blocksFit]
  by_cases outside : block = 0 ∨ a.diskSb.blocksCount ≤ block
  · rw [if_pos outside]
    constructor
    · intro absurd
      cases absurd
    · rintro ⟨below, start⟩
      have zero : block = 0 := by omega
      rw [zero, Nat.zero_div, groupDataStart, if_pos rfl] at start
      omega
  · have below : block < a.diskSb.blocksCount := by omega
    have inside := geometry.group_lt block below
    have start := geometry.groupStart _ inside
    have length := geometry.groupBlocks _ inside
    have split : block / a.blocksPerGroup * a.blocksPerGroup + block % a.blocksPerGroup = block :=
      Nat.div_add_mod' block a.blocksPerGroup
    have place := Nat.mod_lt block geometry.blocksPositive
    have stop : u64 ((a.groups (block / a.blocksPerGroup)).groupStart +
        (a.groups (block / a.blocksPerGroup)).blocksCount) =
        (a.groups (block / a.blocksPerGroup)).groupStart +
          (a.groups (block / a.blocksPerGroup)).blocksCount := by
      apply u64_of_lt
      omega
    rw [if_neg outside, if_neg (by omega), stop, if_neg (by omega), decide_eq_true_eq]
    exact ⟨fun low => ⟨below, low⟩, fun both => both.2⟩

theorem Geometry.blockBitmapUsed_eq (block : Nat) (valid : dataBlockValid a block = true) :
    blockBitmapUsed a block =
      Bitmap.test (a.groupBlockBitmaps (block / a.blocksPerGroup)) (block % a.blocksPerGroup) := by
  have below := ((geometry.dataBlockValid_iff block).mp valid).1
  have inside := geometry.group_lt block below
  have bound := geometry.blocksBound
  have split : block / a.blocksPerGroup * a.blocksPerGroup + block % a.blocksPerGroup = block :=
    Nat.div_add_mod' block a.blocksPerGroup
  unfold blockBitmapUsed
  simp only [valid, geometry.grouped, Bool.true_eq_false, ↓reduceIte]
  rw [divU64_of_fit _ _ geometry.blocksFit, if_neg (by omega), groupFirstBlock, if_neg (by omega),
    geometry.groupStart _ inside, u64Sub_of_le _ _ (by omega)]
  congr 1
  omega

theorem Geometry.inodeBitmapUsed_eq (ino : Nat) (low : ROOT_INO ≤ ino)
    (high : ino ≤ a.diskSb.inodesCount) : inodeBitmapUsed a ino =
      Bitmap.test (a.groupInodeBitmaps ((ino - 1) / a.inodesPerGroup))
        ((ino - 1) % a.inodesPerGroup) := by
  have root : ROOT_INO = 1 := rfl
  have inside := geometry.inode_group_lt (ino - 1) (by omega)
  unfold inodeBitmapUsed
  rw [if_neg (by omega)]
  simp only [geometry.grouped, Bool.true_eq_false, ↓reduceIte]
  rw [divU64_of_fit _ _ geometry.inodesFit, if_neg (by omega)]

/-- A bit of a data area is a block `cryexts_data_block_valid` accepts, with that bit. -/
theorem Geometry.area_block (group bit : Nat) (inside : group < a.groupCount)
    (member : bit ∈ dataArea a group) :
    dataBlockValid a (group * a.blocksPerGroup + bit) = true ∧
      blockBitmapUsed a (group * a.blocksPerGroup + bit) =
        Bitmap.test (a.groupBlockBitmaps group) bit := by
  obtain ⟨low, start⟩ := (mem_dataArea a group bit).mp member
  have placed := geometry.block_lt group bit inside low
  have split := group_of a.blocksPerGroup group bit placed.1
  have valid : dataBlockValid a (group * a.blocksPerGroup + bit) = true := by
    rw [geometry.dataBlockValid_iff, split.1]
    exact ⟨placed.2, start⟩
  refine ⟨valid, ?_⟩
  rw [geometry.blockBitmapUsed_eq _ valid, split.1, split.2]

theorem Geometry.block_area (block : Nat) (valid : dataBlockValid a block = true) :
    block / a.blocksPerGroup < a.groupCount ∧
      block % a.blocksPerGroup ∈ dataArea a (block / a.blocksPerGroup) := by
  obtain ⟨below, start⟩ := (geometry.dataBlockValid_iff block).mp valid
  have inside := geometry.group_lt block below
  have split : block / a.blocksPerGroup * a.blocksPerGroup + block % a.blocksPerGroup = block :=
    Nat.div_add_mod' block a.blocksPerGroup
  have place := Nat.mod_lt block geometry.blocksPositive
  refine ⟨inside, ?_⟩
  rw [mem_dataArea, split, geometry.groupBlocks _ inside]
  exact ⟨by omega, start⟩

theorem Geometry.area_inode (group bit : Nat) (inside : group < a.groupCount)
    (member : bit ∈ inodeArea a group) :
    group * a.inodesPerGroup + bit + 1 ≤ a.diskSb.inodesCount ∧
      inodeBitmapUsed a (group * a.inodesPerGroup + bit + 1) =
        Bitmap.test (a.groupInodeBitmaps group) bit := by
  have root : ROOT_INO = 1 := rfl
  have placed := geometry.ino_le group bit inside ((mem_inodeArea a group bit).mp member)
  have split := group_of a.inodesPerGroup group bit placed.1
  refine ⟨by omega, ?_⟩
  rw [geometry.inodeBitmapUsed_eq _ (by omega) (by omega), Nat.add_sub_cancel, split.1, split.2]

theorem Geometry.inode_area (ino : Nat) (low : ROOT_INO ≤ ino)
    (high : ino ≤ a.diskSb.inodesCount) : (ino - 1) / a.inodesPerGroup < a.groupCount ∧
      (ino - 1) % a.inodesPerGroup ∈ inodeArea a ((ino - 1) / a.inodesPerGroup) := by
  have root : ROOT_INO = 1 := rfl
  have inside := geometry.inode_group_lt (ino - 1) (by omega)
  have split : (ino - 1) / a.inodesPerGroup * a.inodesPerGroup + (ino - 1) % a.inodesPerGroup =
      ino - 1 := Nat.div_add_mod' (ino - 1) a.inodesPerGroup
  have place := Nat.mod_lt (ino - 1) geometry.inodesPositive
  refine ⟨inside, ?_⟩
  rw [mem_inodeArea, geometry.inodeLimit_eq _ inside]
  omega

end Queries

/-- The blocks whose bit is zero in some data area. -/
def freeBlocks (a : Allocator) : Finset Nat :=
  (Finset.range a.diskSb.blocksCount).filter fun block =>
    dataBlockValid a block = true ∧ blockBitmapUsed a block = false

/-- The inodes whose bit is zero in some inode range. -/
def freeInodes (a : Allocator) : Finset Nat :=
  (Finset.Icc ROOT_INO a.diskSb.inodesCount).filter fun ino => inodeBitmapUsed a ino = false

section Totals

variable {a : Allocator} (geometry : Geometry a)

include geometry

theorem Geometry.freeBlocks_card : (freeBlocks a).card = ∑ group ∈ Finset.range a.groupCount,
    (Bitmap.zeros (a.groupBlockBitmaps group) (dataArea a group)).card := by
  rw [freeBlocks, Bitmap.card_by_group a.blocksPerGroup a.groupCount _ _ geometry.blocksPositive
    geometry.blocksCover]
  apply Finset.sum_congr rfl
  intro group member
  have inside : group < a.groupCount := Finset.mem_range.mp member
  congr 1
  ext bit
  rw [Bitmap.mem_zeros, Finset.mem_filter, Finset.mem_range, ← geometry.groupBlocks group inside]
  constructor
  · rintro ⟨low, valid, free⟩
    have placed := geometry.block_lt group bit inside low
    have area := geometry.block_area _ valid
    have split := group_of a.blocksPerGroup group bit placed.1
    rw [split.1, split.2] at area
    rw [(geometry.area_block group bit inside area.2).2] at free
    exact ⟨area.2, free⟩
  · rintro ⟨area, free⟩
    have block := geometry.area_block group bit inside area
    rw [block.2]
    exact ⟨((mem_dataArea a group bit).mp area).1, block.1, free⟩

theorem Geometry.freeInodes_card : (freeInodes a).card = ∑ group ∈ Finset.range a.groupCount,
    (Bitmap.zeros (a.groupInodeBitmaps group) (inodeArea a group)).card := by
  have root : ROOT_INO = 1 := rfl
  have shifted : ((Finset.range a.diskSb.inodesCount).filter fun index =>
      inodeBitmapUsed a (index + 1) = false).card = (freeInodes a).card := by
    apply Finset.card_bij fun index _ => index + 1
    · intro index member
      simp only [freeInodes, Finset.mem_filter, Finset.mem_range, Finset.mem_Icc] at member ⊢
      exact ⟨by omega, member.2⟩
    · intro first _ second _ same
      omega
    · intro ino member
      simp only [freeInodes, Finset.mem_filter, Finset.mem_Icc] at member
      have back : ino - 1 + 1 = ino := by omega
      refine ⟨ino - 1, ?_, back⟩
      simp only [Finset.mem_filter, Finset.mem_range, back]
      exact ⟨by omega, member.2⟩
  rw [← shifted, Bitmap.card_by_group a.inodesPerGroup a.groupCount _ _ geometry.inodesPositive
    geometry.inodesCover]
  apply Finset.sum_congr rfl
  intro group member
  have inside : group < a.groupCount := Finset.mem_range.mp member
  congr 1
  ext bit
  rw [Bitmap.mem_zeros, Finset.mem_filter, Finset.mem_range, mem_inodeArea,
    geometry.inodeLimit_eq group inside]
  constructor
  · rintro ⟨low, free⟩
    have area : bit ∈ inodeArea a group := by
      rw [mem_inodeArea, geometry.inodeLimit_eq group inside]
      exact low
    rw [(geometry.area_inode group bit inside area).2] at free
    exact ⟨low, free⟩
  · rintro ⟨low, free⟩
    have area : bit ∈ inodeArea a group := by
      rw [mem_inodeArea, geometry.inodeLimit_eq group inside]
      exact low
    rw [(geometry.area_inode group bit inside area).2]
    exact ⟨low, free⟩

end Totals

end Balloc

end Cryexts
