import Cryexts.Balloc.Run

set_option autoImplicit false

namespace Cryexts

namespace Balloc

open WriteLog (store store_same store_other)

/-- A file system without block groups. -/
structure Flat (a : Allocator) : Prop where
  flat : hasBlockGroups a = false
  firstPositive : 0 < a.diskSb.firstDataBlock
  blocksBound : a.diskSb.blocksCount < 2 ^ 64

/-- The allocator between two calls, with block groups or without. -/
def Ready (a : Allocator) : Prop := Sound a ∨ Flat a

/-- No block of the file system is free. -/
def Full (a : Allocator) : Prop :=
  ∀ block, dataBlockValid a block = true → blockBitmapUsed a block = true

/-- `block` is the one block whose state has changed, to `used`. -/
structure Switched (a after : Allocator) (block : Nat) (used : Bool) : Prop where
  shape : SameShape a after
  here : blockBitmapUsed after block = used
  others : ∀ other, other ≠ block → blockBitmapUsed after other = blockBitmapUsed a other

/-- Blocks given back, whether they were used or not; the others are as before. -/
structure Freed (a after : Allocator) (blocks : List Nat) : Prop where
  shape : SameShape a after
  used : ∀ block, blockBitmapUsed after block =
    (blockBitmapUsed a block && decide (block ∉ blocks))

theorem SameShape.refl (a : Allocator) : SameShape a a :=
  ⟨rfl, rfl, rfl, rfl, rfl, rfl, rfl, rfl, rfl, fun _ => rfl, fun _ => rfl, fun _ => rfl,
    fun _ => rfl⟩

theorem Freed.refl (a : Allocator) : Freed a a [] := ⟨SameShape.refl a, by simp⟩

theorem Freed.trans {a b c : Allocator} {first second : List Nat} (start : Freed a b first)
    (rest : Freed b c second) : Freed a c (first ++ second) := by
  refine ⟨start.shape.trans rest.shape, ?_⟩
  intro block
  rw [rest.used, start.used, Bool.and_assoc]
  congr 1
  simp

theorem Switched.freed {a after : Allocator} {block : Nat} (switched : Switched a after block false) :
    Freed a after [block] := by
  refine ⟨switched.shape, ?_⟩
  intro other
  by_cases here : other = block
  · rw [here, switched.here]
    simp
  · rw [switched.others other here]
    simp [here]

/-- A block taken and given back. -/
theorem Switched.undone {a taken after : Allocator} {block : Nat}
    (free : blockBitmapUsed a block = false) (switched : Switched a taken block true)
    (freed : Freed taken after [block]) : Freed a after [] := by
  refine ⟨switched.shape.trans freed.shape, ?_⟩
  intro other
  rw [freed.used]
  by_cases here : other = block
  · rw [here, free]
    simp
  · rw [switched.others other here]
    simp [here]

section Flat

variable {a : Allocator} (flat : Flat a)

include flat

theorem Flat.dataBlockValid_iff (block : Nat) : dataBlockValid a block = true ↔
    a.diskSb.firstDataBlock ≤ block ∧ block < a.diskSb.blocksCount := by
  have first := flat.firstPositive
  unfold dataBlockValid
  by_cases outside : block = 0 ∨ a.diskSb.blocksCount ≤ block
  · rw [if_pos outside]
    constructor
    · intro absurd
      cases absurd
    · omega
  · rw [if_neg outside, if_pos flat.flat, decide_eq_true_iff]
    omega

theorem Flat.blockBitmapUsed_eq (block : Nat) (valid : dataBlockValid a block = true) :
    blockBitmapUsed a block = Bitmap.test a.blockBitmap block := by
  rw [blockBitmapUsed, valid, if_neg (by decide), if_pos flat.flat]

/-- A new bitmap that differs in one bit, with other counters. -/
theorem Flat.switched (after : Allocator) (shape : SameShape a after) (block : Nat) (used : Bool)
    (valid : dataBlockValid a block = true)
    (here : Bitmap.test after.blockBitmap block = used)
    (others : ∀ other, other ≠ block →
      Bitmap.test after.blockBitmap other = Bitmap.test a.blockBitmap other) :
    Flat after ∧ Switched a after block used := by
  have moved : Flat after := by
    constructor
    · rw [shape.hasBlockGroups_eq]
      exact flat.flat
    · rw [shape.firstDataBlock]
      exact flat.firstPositive
    · rw [shape.blocksCount]
      exact flat.blocksBound
  refine ⟨moved, shape, ?_, ?_⟩
  · rw [moved.blockBitmapUsed_eq block (by rw [shape.dataBlockValid_eq, valid]), here]
  · intro other apart
    by_cases inside : dataBlockValid a other = true
    · rw [moved.blockBitmapUsed_eq other (by rw [shape.dataBlockValid_eq, inside]),
        flat.blockBitmapUsed_eq other inside, others other apart]
    · have outside : dataBlockValid a other = false := by simpa using inside
      rw [blockBitmapUsed, shape.dataBlockValid_eq, if_pos outside, blockBitmapUsed, if_pos outside]

end Flat

/-- A file system of 4096 blocks without block groups, empty but for its root directory. -/
def emptyAllocator : Allocator where
  diskSb := ⟨4096, 512, 4079, 511, 16, 16, 2, 17, 0, 0⟩
  groupCount := 1
  blocksPerGroup := 4096
  inodesPerGroup := 512
  nextIno := 2
  nextDataBlock := 17
  groups := fun _ => ⟨0, 4096, 4, 12, 4079, 511⟩
  groupBlockBitmaps := fun _ _ => 0
  groupInodeBitmaps := fun _ _ => 0
  blockBitmap := fun byte => if byte < 2 then 0xff else if byte = 2 then 1 else 0
  inodeBitmap := fun byte => if byte = 0 then 1 else 0
  inodeTable := fun _ => ByteBuf.zero INODE_SIZE

theorem emptyAllocator_flat : Flat emptyAllocator := ⟨by decide, by decide, by decide⟩

theorem legacy_shape (a : Allocator) (bitmap : Nat → UInt8) :
    SameShape a { a with blockBitmap := bitmap } :=
  ⟨rfl, rfl, rfl, rfl, rfl, rfl, rfl, rfl, rfl, fun _ => rfl, fun _ => rfl, fun _ => rfl,
    fun _ => rfl⟩

/-- A used block is one the file system has. -/
theorem valid_of_used {a : Allocator} {block : Nat} (used : blockBitmapUsed a block = true) :
    dataBlockValid a block = true := by
  by_contra invalid
  rw [blockBitmapUsed, if_pos (by simpa using invalid)] at used
  cases used

theorem valid_positive {a : Allocator} {block : Nat} (valid : dataBlockValid a block = true) :
    0 < block := by
  by_contra zero
  rw [dataBlockValid, if_pos (Or.inl (by omega))] at valid
  cases valid

theorem not_full {a : Allocator} {block : Nat} (valid : dataBlockValid a block = true)
    (free : blockBitmapUsed a block = false) : ¬ Full a := by
  intro full
  rw [full block valid] at free
  cases free

section Ready

variable {a : Allocator} (ready : Ready a)

include ready

/-- An allocation takes one free block, or there is none. -/
theorem Ready.allocBlockGoal (goalBlock goalGroup : Nat) :
    (∃ block after, Balloc.allocBlockGoal goalBlock goalGroup a = (.ok block, after) ∧
      Ready after ∧ dataBlockValid a block = true ∧ blockBitmapUsed a block = false ∧
      Switched a after block true) ∨
    (Balloc.allocBlockGoal goalBlock goalGroup a = (.error .enospc, a) ∧ Full a) := by
  rcases ready with sound | flat
  · have geometry := sound.geometry
    rcases sound.allocBlockGoal_cases goalBlock goalGroup with
      ⟨group, bit, inside, area, free, taken⟩ | ⟨refused, full⟩
    · left
      have block := geometry.area_block group bit inside area
      have shape := (takeBlockBit_shape a group bit).trans (blockTaken_shape
        (takeBlockBit group bit a) (group * a.blocksPerGroup + bit))
      have there := (shape.geometry geometry).area_block group bit inside
        (by rw [shape.dataArea_eq]; exact area)
      refine ⟨_, _, taken, Or.inl (sound.takeBlock group bit inside area free), block.1,
        block.2.trans free, shape, ?_, ?_⟩
      · rw [shape.blocksPerGroup] at there
        rw [there.2]
        show Bitmap.test (store a.groupBlockBitmaps group
          (Bitmap.set (a.groupBlockBitmaps group) bit) group) bit = true
        rw [store_same, Bitmap.test_set_same]
      · intro other away
        exact blockBitmapUsed_other geometry shape group bit _ rfl
          (fun place apart => Bitmap.test_set_other _ _ _ apart) other away
    · right
      refine ⟨refused, ?_⟩
      intro block valid
      by_contra free
      have absent := Finset.filter_eq_empty_iff.mp full
      apply absent (x := block)
      · rw [Finset.mem_range]
        have bounds := (geometry.dataBlockValid_iff block).mp valid
        omega
      · exact ⟨valid, by simpa using free⟩
  · unfold Balloc.allocBlockGoal
    rw [if_pos flat.flat, allocBlockLegacy]
    cases found : (List.range' a.diskSb.firstDataBlock
        (a.diskSb.blocksCount - a.diskSb.firstDataBlock)).find?
        fun index => !Bitmap.test a.blockBitmap index with
    | none =>
        right
        refine ⟨rfl, ?_⟩
        intro block valid
        have bounds := (flat.dataBlockValid_iff block).mp valid
        have taken := List.find?_eq_none.mp found block
          (List.mem_range'_1.mpr ⟨bounds.1, by omega⟩)
        rw [flat.blockBitmapUsed_eq block valid]
        simpa using taken
    | some block =>
        left
        have inside := List.mem_range'_1.mp (List.mem_of_find?_eq_some found)
        have free : Bitmap.test a.blockBitmap block = false := by
          simpa using List.find?_some found
        have valid := (flat.dataBlockValid_iff block).mpr ⟨inside.1, by omega⟩
        have shape := (legacy_shape a (Bitmap.set a.blockBitmap block)).trans
          (blockTaken_shape { a with blockBitmap := Bitmap.set a.blockBitmap block } block)
        have moved := flat.switched _ shape block true valid (Bitmap.test_set_same _ _)
          fun other apart => Bitmap.test_set_other _ _ _ apart
        exact ⟨block, _, rfl, Or.inr moved.1, valid,
          (flat.blockBitmapUsed_eq block valid).trans free, moved.2⟩

/-- Freeing a block of the file system, used or not. -/
theorem Ready.freeBlock (block : Nat) (valid : dataBlockValid a block = true) :
    ∃ after, Balloc.freeBlock block a = (.ok (), after) ∧ Ready after ∧
      Switched a after block false := by
  have same := SameShape.refl a
  rcases ready with sound | flat
  · have geometry := sound.geometry
    rcases sound.freeBlock_cases block with
      ⟨free, kept⟩ | ⟨group, bit, inside, area, set, rfl, used, freed⟩
    · refine ⟨a, ?_, Or.inl sound, same, free, fun _ _ => rfl⟩
      have served : (Balloc.freeBlock block a).1 = .ok () := by
        have place := geometry.block_area block valid
        unfold Balloc.freeBlock
        rw [if_neg (by rw [valid]; decide), if_neg (by rw [geometry.grouped]; decide)]
        simp only [divU64_of_fit _ _ geometry.blocksFit]
        rw [if_neg (by omega)]
        split_ifs
        · rfl
        · rfl
      exact Prod.ext served kept
    · have block := geometry.area_block group bit inside area
      have shape := (releaseBlockBit_shape a group bit).trans
        (blockReleased_shape (releaseBlockBit group bit a))
      have there := (shape.geometry geometry).area_block group bit inside
        (by rw [shape.dataArea_eq]; exact area)
      refine ⟨_, freed, Or.inl (sound.releaseBlock group bit inside area set), shape, ?_, ?_⟩
      · rw [shape.blocksPerGroup] at there
        rw [there.2]
        show Bitmap.test (store a.groupBlockBitmaps group
          (Bitmap.clear (a.groupBlockBitmaps group) bit) group) bit = false
        rw [store_same, Bitmap.test_clear_same]
      · intro other away
        exact blockBitmapUsed_other geometry shape group bit _ rfl
          (fun place apart => Bitmap.test_clear_other _ _ _ apart) other away
  · unfold Balloc.freeBlock
    rw [if_neg (by rw [valid]; decide), if_pos flat.flat]
    by_cases free : Bitmap.test a.blockBitmap block = false
    · rw [if_pos free]
      exact ⟨a, rfl, Or.inr flat, same, (flat.blockBitmapUsed_eq block valid).trans free,
        fun _ _ => rfl⟩
    · rw [if_neg free]
      have shape := (legacy_shape a (Bitmap.clear a.blockBitmap block)).trans
        (blockReleased_shape { a with blockBitmap := Bitmap.clear a.blockBitmap block })
      have moved := flat.switched _ shape block false valid (Bitmap.test_clear_same _ _)
        fun other apart => Bitmap.test_clear_other _ _ _ apart
      exact ⟨_, rfl, Or.inr moved.1, moved.2⟩

end Ready

end Balloc

end Cryexts
