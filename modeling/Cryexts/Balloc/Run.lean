import Cryexts.Balloc.Search

set_option autoImplicit false

namespace Cryexts

namespace Balloc

open WriteLog (store store_same store_other)

inductive Request
  | allocBlock (goalBlock goalGroup : Nat)
  | freeBlock (block : Nat)
  | allocInode (goalGroup : Nat)
  | freeInode (ino : Nat) (found : Bool)
  deriving DecidableEq, Repr

/-- An allocator with the blocks and inodes it has handed out and not taken back. -/
structure Session where
  allocator : Allocator
  blocks : List Nat
  inodes : List Nat

def Session.serve (s : Session) : Request → Session
  | .allocBlock goalBlock goalGroup =>
      match allocBlockGoal goalBlock goalGroup s.allocator with
      | (.ok block, after) => { s with allocator := after, blocks := block :: s.blocks }
      | (.error _, after) => { s with allocator := after }
  | .freeBlock block =>
      match Balloc.freeBlock block s.allocator with
      | (.ok _, after) => { s with allocator := after, blocks := s.blocks.filter (· ≠ block) }
      | (.error _, after) => { s with allocator := after }
  | .allocInode goalGroup =>
      match allocInodeGoal goalGroup s.allocator with
      | (.ok ino, after) => { s with allocator := after, inodes := ino :: s.inodes }
      | (.error _, after) => { s with allocator := after }
  | .freeInode ino found =>
      match Balloc.freeInode ino found s.allocator with
      | (.ok _, after) => { s with allocator := after, inodes := s.inodes.filter (· ≠ ino) }
      | (.error _, after) => { s with allocator := after }

/-- A mount's allocator after a sequence of requests. -/
def run (a : Allocator) (requests : List Request) : Session :=
  requests.foldl Session.serve ⟨a, [], []⟩

/-- What the counters and cursors say between requests. -/
structure Consistent (a : Allocator) : Prop where
  blocksSum : a.diskSb.freeBlocksCount =
    ∑ group ∈ Finset.range a.groupCount, (a.groups group).freeBlocksCount
  inodesSum : a.diskSb.freeInodesCount =
    ∑ group ∈ Finset.range a.groupCount, (a.groups group).freeInodesCount
  blocksZero : a.diskSb.freeBlocksCount = (freeBlocks a).card
  inodesZero : a.diskSb.freeInodesCount = (freeInodes a).card
  cursors : CursorsValid a
  mirrored : a.diskSb.nextIno = a.nextIno ∧ a.diskSb.nextDataBlock = a.nextDataBlock

/-- What a request is answered with. An inode search leaves only the root's own bit untried. -/
def Served (s : Session) : Request → Prop
  | .allocBlock goalBlock goalGroup =>
      match allocBlockGoal goalBlock goalGroup s.allocator with
      | (.ok block, after) =>
          blockBitmapUsed s.allocator block = false ∧ blockBitmapUsed after block = true ∧
            dataBlockValid s.allocator block = true ∧ block ∉ s.blocks ∧
            ∃ group, group < s.allocator.groupCount ∧
              (s.allocator.groups group).groupStart ≤ block ∧
              block < (s.allocator.groups group).groupStart + (s.allocator.groups group).blocksCount
      | (.error reason, after) =>
          reason = .enospc ∧ after = s.allocator ∧ freeBlocks s.allocator = ∅
  | .freeBlock block =>
      blockBitmapUsed s.allocator block = false →
        (Balloc.freeBlock block s.allocator).2 = s.allocator
  | .allocInode goalGroup =>
      match allocInodeGoal goalGroup s.allocator with
      | (.ok ino, after) =>
          inodeBitmapUsed s.allocator ino = false ∧ inodeBitmapUsed after ino = true ∧
            ROOT_INO < ino ∧ ino ≤ s.allocator.diskSb.inodesCount ∧ ino ∉ s.inodes
      | (.error reason, after) =>
          reason = .enospc ∧ after = s.allocator ∧ freeInodes s.allocator ⊆ {ROOT_INO}
  | .freeInode ino found =>
      inodeBitmapUsed s.allocator ino = false →
        (Balloc.freeInode ino found s.allocator).2 = { s.allocator with
          inodeTable := (Balloc.freeInode ino found s.allocator).2.inodeTable }

theorem Sound.consistent {a : Allocator} (sound : Sound a) : Consistent a :=
  ⟨sound.balanced.superBlocks, sound.balanced.superInodes, sound.superBlocks_card,
    sound.superInodes_card, sound.cursors, sound.mirrored⟩

section Bits

variable {a b : Allocator} (geometry : Geometry a) (shape : SameShape a b)

include geometry shape

theorem blockBitmapUsed_kept (bitmaps : b.groupBlockBitmaps = a.groupBlockBitmaps) (block : Nat) :
    blockBitmapUsed b block = blockBitmapUsed a block := by
  by_cases valid : dataBlockValid a block = true
  · rw [(shape.geometry geometry).blockBitmapUsed_eq block (by rw [shape.dataBlockValid_eq, valid]),
      geometry.blockBitmapUsed_eq block valid, bitmaps, shape.blocksPerGroup]
  · have refused : dataBlockValid a block = false := by simpa using valid
    rw [blockBitmapUsed, shape.dataBlockValid_eq, if_pos refused, blockBitmapUsed, if_pos refused]

/-- Setting or clearing the bit of one block changes no other block. -/
theorem blockBitmapUsed_other (group bit : Nat) (bits : Nat → UInt8)
    (bitmaps : b.groupBlockBitmaps = store a.groupBlockBitmaps group bits)
    (others : ∀ other, other ≠ bit →
      Bitmap.test bits other = Bitmap.test (a.groupBlockBitmaps group) other)
    (block : Nat) (away : block ≠ group * a.blocksPerGroup + bit) :
    blockBitmapUsed b block = blockBitmapUsed a block := by
  by_cases valid : dataBlockValid a block = true
  · rw [(shape.geometry geometry).blockBitmapUsed_eq block (by rw [shape.dataBlockValid_eq, valid]),
      geometry.blockBitmapUsed_eq block valid, bitmaps, shape.blocksPerGroup]
    by_cases same : block / a.blocksPerGroup = group
    · rw [same, store_same]
      apply others
      intro equal
      have split := Nat.div_add_mod' block a.blocksPerGroup
      rw [same, equal] at split
      omega
    · rw [store_other _ _ _ _ same]
  · have refused : dataBlockValid a block = false := by simpa using valid
    rw [blockBitmapUsed, shape.dataBlockValid_eq, if_pos refused, blockBitmapUsed, if_pos refused]

theorem inodeBitmapUsed_kept (bitmaps : b.groupInodeBitmaps = a.groupInodeBitmaps) (ino : Nat) :
    inodeBitmapUsed b ino = inodeBitmapUsed a ino := by
  by_cases outside : ino < ROOT_INO ∨ a.diskSb.inodesCount < ino
  · rw [inodeBitmapUsed, shape.inodesCount, if_pos outside, inodeBitmapUsed, if_pos outside]
  · rw [(shape.geometry geometry).inodeBitmapUsed_eq ino (by omega)
        (by rw [shape.inodesCount]; omega),
      geometry.inodeBitmapUsed_eq ino (by omega) (by omega), bitmaps, shape.inodesPerGroup]

/-- Setting or clearing the bit of one inode changes no other inode. -/
theorem inodeBitmapUsed_other (group bit : Nat) (bits : Nat → UInt8)
    (bitmaps : b.groupInodeBitmaps = store a.groupInodeBitmaps group bits)
    (others : ∀ other, other ≠ bit →
      Bitmap.test bits other = Bitmap.test (a.groupInodeBitmaps group) other)
    (ino : Nat) (away : ino ≠ group * a.inodesPerGroup + bit + 1) :
    inodeBitmapUsed b ino = inodeBitmapUsed a ino := by
  have root : ROOT_INO = 1 := rfl
  by_cases outside : ino < ROOT_INO ∨ a.diskSb.inodesCount < ino
  · rw [inodeBitmapUsed, shape.inodesCount, if_pos outside, inodeBitmapUsed, if_pos outside]
  · rw [(shape.geometry geometry).inodeBitmapUsed_eq ino (by omega)
        (by rw [shape.inodesCount]; omega),
      geometry.inodeBitmapUsed_eq ino (by omega) (by omega), bitmaps, shape.inodesPerGroup]
    by_cases same : (ino - 1) / a.inodesPerGroup = group
    · rw [same, store_same]
      apply others
      intro equal
      have split := Nat.div_add_mod' (ino - 1) a.inodesPerGroup
      rw [same, equal] at split
      omega
    · rw [store_other _ _ _ _ same]

end Bits

section Calls

variable {a : Allocator} (sound : Sound a)

include sound

theorem Sound.allocBlockGoal_cases (goalBlock goalGroup : Nat) :
    (∃ group bit, group < a.groupCount ∧ bit ∈ dataArea a group ∧
      Bitmap.test (a.groupBlockBitmaps group) bit = false ∧
      allocBlockGoal goalBlock goalGroup a = (.ok (group * a.blocksPerGroup + bit),
        blockTaken (group * a.blocksPerGroup + bit) (takeBlockBit group bit a))) ∨
    (allocBlockGoal goalBlock goalGroup a = (.error .enospc, a) ∧ freeBlocks a = ∅) := by
  have grouped := sound.geometry.grouped
  unfold allocBlockGoal
  simp only [grouped, Bool.true_eq_false, ↓reduceIte]
  rcases sound.searchBlockGroups_cases goalBlock goalGroup with
    ⟨group, bit, inside, area, free, taken⟩ | ⟨refused, full⟩
  · left
    refine ⟨group, bit, inside, area, free, ?_⟩
    rw [taken]
  · right
    rw [refused]
    refine ⟨rfl, ?_⟩
    apply Finset.filter_eq_empty_iff.mpr
    rintro block _ ⟨valid, free⟩
    have area := sound.geometry.block_area block valid
    rw [sound.geometry.blockBitmapUsed_eq block valid, full _ _ area.1 area.2] at free
    cases free

theorem Sound.allocInodeGoal_cases (goalGroup : Nat) :
    (∃ group bit, group < a.groupCount ∧ bit ∈ inodeArea a group ∧
      ROOT_INO < group * a.inodesPerGroup + bit + 1 ∧
      Bitmap.test (a.groupInodeBitmaps group) bit = false ∧
      allocInodeGoal goalGroup a = (.ok (group * a.inodesPerGroup + bit + 1),
        inodeTaken (group * a.inodesPerGroup + bit + 1) (takeInodeBit group bit a))) ∨
    (allocInodeGoal goalGroup a = (.error .enospc, a) ∧ freeInodes a ⊆ {ROOT_INO}) := by
  have grouped := sound.geometry.grouped
  unfold allocInodeGoal
  simp only [grouped, Bool.true_eq_false, ↓reduceIte]
  rcases sound.searchInodeGroups_cases goalGroup with
    ⟨group, bit, inside, area, above, free, taken⟩ | ⟨refused, full⟩
  · left
    refine ⟨group, bit, inside, area, above, free, ?_⟩
    rw [taken]
  · right
    rw [refused]
    refine ⟨rfl, ?_⟩
    intro ino member
    rw [freeInodes, Finset.mem_filter, Finset.mem_Icc] at member
    obtain ⟨⟨low, high⟩, free⟩ := member
    rw [Finset.mem_singleton]
    by_cases above : ROOT_INO < ino
    · have area := sound.geometry.inode_area ino low high
      have split := Nat.div_add_mod' (ino - 1) a.inodesPerGroup
      rw [sound.geometry.inodeBitmapUsed_eq ino low high,
        full _ _ area.1 area.2 (by omega)] at free
      cases free
    · omega

theorem Sound.freeBlock_cases (block : Nat) :
    (blockBitmapUsed a block = false ∧ (freeBlock block a).2 = a) ∨
    (∃ group bit, group < a.groupCount ∧ bit ∈ dataArea a group ∧
      Bitmap.test (a.groupBlockBitmaps group) bit = true ∧
      block = group * a.blocksPerGroup + bit ∧ blockBitmapUsed a block = true ∧
      freeBlock block a = (.ok (), blockReleased (releaseBlockBit group bit a))) := by
  have geometry := sound.geometry
  unfold freeBlock
  by_cases valid : dataBlockValid a block = true
  · have area := geometry.block_area block valid
    have used := geometry.blockBitmapUsed_eq block valid
    have split := Nat.div_add_mod' block a.blocksPerGroup
    have place : u64Sub block (groupFirstBlock a (block / a.blocksPerGroup)) =
        block % a.blocksPerGroup := by
      rw [groupFirstBlock, if_neg (by omega), geometry.groupStart _ area.1,
        u64Sub_of_le _ _ (by omega)]
      omega
    simp only [valid, geometry.grouped, Bool.true_eq_false, ↓reduceIte]
    rw [divU64_of_fit _ _ geometry.blocksFit, place, if_neg (by omega)]
    by_cases bit : Bitmap.test (a.groupBlockBitmaps (block / a.blocksPerGroup))
        (block % a.blocksPerGroup) = true
    · right
      refine ⟨_, _, area.1, area.2, bit, split.symm, used.trans bit, ?_⟩
      rw [bit, if_neg (by decide)]
    · left
      have free : Bitmap.test (a.groupBlockBitmaps (block / a.blocksPerGroup))
          (block % a.blocksPerGroup) = false := by simpa using bit
      rw [if_pos free]
      exact ⟨used.trans free, rfl⟩
  · left
    have refused : dataBlockValid a block = false := by simpa using valid
    rw [if_pos refused, blockBitmapUsed, if_pos refused]
    exact ⟨rfl, rfl⟩

/-- Zeroing a disk inode concerns neither bitmaps nor counters. -/
theorem Sound.clearInode (inodeTable : Nat → ByteBuf INODE_SIZE) :
    Sound { a with inodeTable := inodeTable } :=
  have shape : SameShape a { a with inodeTable := inodeTable } :=
    ⟨rfl, rfl, rfl, rfl, rfl, rfl, rfl, rfl, rfl, fun _ => rfl, fun _ => rfl, fun _ => rfl,
      fun _ => rfl⟩
  ⟨shape.geometry sound.geometry, ⟨sound.balanced.groupBlocks, sound.balanced.groupInodes,
    sound.balanced.superBlocks, sound.balanced.superInodes⟩, sound.metadata, sound.cursors,
    sound.mirrored⟩

theorem Sound.freeInode_cases (ino : Nat) (found : Bool) :
    (∃ inodeTable, (freeInode ino found a).2 = { a with inodeTable := inodeTable }) ∨
    (∃ group bit inodeTable, group < a.groupCount ∧ bit ∈ inodeArea a group ∧
      Bitmap.test (a.groupInodeBitmaps group) bit = true ∧
      ino = group * a.inodesPerGroup + bit + 1 ∧ inodeBitmapUsed a ino = true ∧
      freeInode ino found a = (.ok (), inodeReleased
        (releaseInodeBit group bit { a with inodeTable := inodeTable }))) := by
  have geometry := sound.geometry
  unfold freeInode
  by_cases outside : ino < ROOT_INO ∨ a.diskSb.inodesCount < ino
  · left
    rw [if_pos outside]
    exact ⟨a.inodeTable, rfl⟩
  · rw [if_neg outside]
    cases found with
    | false =>
        left
        exact ⟨a.inodeTable, rfl⟩
    | true =>
        have area := geometry.inode_area ino (by omega) (by omega)
        have used := geometry.inodeBitmapUsed_eq ino (by omega) (by omega)
        have split := Nat.div_add_mod' (ino - 1) a.inodesPerGroup
        have root : ROOT_INO = 1 := rfl
        have grouped : hasBlockGroups { a with
            inodeTable := store a.inodeTable ino (ByteBuf.zero INODE_SIZE) } = true :=
          geometry.grouped
        simp only [grouped, Bool.true_eq_false, ↓reduceIte]
        by_cases bit : Bitmap.test (a.groupInodeBitmaps ((ino - 1) / a.inodesPerGroup))
            ((ino - 1) % a.inodesPerGroup) = true
        · right
          refine ⟨_, _, store a.inodeTable ino (ByteBuf.zero INODE_SIZE), area.1, area.2, bit,
            by omega, used.trans bit, ?_⟩
          rw [bit, if_neg (by
            simp
            omega)]
        · left
          have free : Bitmap.test (a.groupInodeBitmaps ((ino - 1) / a.inodesPerGroup))
              ((ino - 1) % a.inodesPerGroup) = false := by simpa using bit
          rw [if_pos (Or.inr free)]
          exact ⟨_, rfl⟩

end Calls

/-- What holds of a session after any requests: everything handed out is still marked used. -/
structure SessionInv (s : Session) : Prop where
  sound : Sound s.allocator
  blocks : ∀ block, block ∈ s.blocks → blockBitmapUsed s.allocator block = true
  inodes : ∀ ino, ino ∈ s.inodes → inodeBitmapUsed s.allocator ino = true

section Requests

variable {s : Session} (inv : SessionInv s)

include inv

theorem SessionInv.allocBlock (goalBlock goalGroup : Nat) :
    SessionInv (s.serve (.allocBlock goalBlock goalGroup)) ∧
      Served s (.allocBlock goalBlock goalGroup) := by
  have sound := inv.sound
  have geometry := sound.geometry
  rcases sound.allocBlockGoal_cases goalBlock goalGroup with
    ⟨group, bit, inside, area, free, taken⟩ | ⟨refused, full⟩
  · simp only [Session.serve, Served, taken]
    have block := geometry.area_block group bit inside area
    have bounds := (mem_dataArea _ group bit).mp area
    have shape := (takeBlockBit_shape s.allocator group bit).trans (blockTaken_shape
      (takeBlockBit group bit s.allocator) (group * s.allocator.blocksPerGroup + bit))
    have kept : ∀ other, blockBitmapUsed s.allocator other = true → blockBitmapUsed
        (blockTaken (group * s.allocator.blocksPerGroup + bit)
          (takeBlockBit group bit s.allocator)) other = true := by
      intro other used
      have away : other ≠ group * s.allocator.blocksPerGroup + bit := by
        intro equal
        rw [equal, block.2, free] at used
        cases used
      rw [blockBitmapUsed_other geometry shape group bit _ rfl
        (fun place apart => Bitmap.test_set_other _ _ _ apart) other away, used]
    have now : blockBitmapUsed (blockTaken (group * s.allocator.blocksPerGroup + bit)
        (takeBlockBit group bit s.allocator)) (group * s.allocator.blocksPerGroup + bit) = true := by
      have there := (shape.geometry geometry).area_block group bit inside
        (by rw [shape.dataArea_eq]; exact area)
      rw [shape.blocksPerGroup] at there
      rw [there.2]
      show Bitmap.test (store s.allocator.groupBlockBitmaps group
        (Bitmap.set (s.allocator.groupBlockBitmaps group) bit) group) bit = true
      rw [store_same, Bitmap.test_set_same]
    constructor
    · constructor
      · exact sound.takeBlock group bit inside area free
      · intro other member
        rcases List.mem_cons.mp member with rfl | member
        · exact now
        · exact kept other (inv.blocks other member)
      · intro ino member
        rw [inodeBitmapUsed_kept geometry shape rfl]
        exact inv.inodes ino member
    · refine ⟨block.2.trans free, now, block.1, ?_, group, inside, ?_, ?_⟩
      · intro member
        have used := inv.blocks _ member
        rw [block.2, free] at used
        cases used
      · rw [geometry.groupStart group inside]
        omega
      · rw [geometry.groupStart group inside]
        omega
  · simp only [Session.serve, Served, refused]
    exact ⟨⟨sound, inv.blocks, inv.inodes⟩, trivial, trivial, full⟩

theorem SessionInv.allocInode (goalGroup : Nat) :
    SessionInv (s.serve (.allocInode goalGroup)) ∧ Served s (.allocInode goalGroup) := by
  have sound := inv.sound
  have geometry := sound.geometry
  rcases sound.allocInodeGoal_cases goalGroup with
    ⟨group, bit, inside, area, above, free, taken⟩ | ⟨refused, full⟩
  · simp only [Session.serve, Served, taken]
    have inode := geometry.area_inode group bit inside area
    have shape := (takeInodeBit_shape s.allocator group bit).trans (inodeTaken_shape
      (takeInodeBit group bit s.allocator) (group * s.allocator.inodesPerGroup + bit + 1))
    have kept : ∀ other, inodeBitmapUsed s.allocator other = true → inodeBitmapUsed
        (inodeTaken (group * s.allocator.inodesPerGroup + bit + 1)
          (takeInodeBit group bit s.allocator)) other = true := by
      intro other used
      have away : other ≠ group * s.allocator.inodesPerGroup + bit + 1 := by
        intro equal
        rw [equal, inode.2, free] at used
        cases used
      rw [inodeBitmapUsed_other geometry shape group bit _ rfl
        (fun place apart => Bitmap.test_set_other _ _ _ apart) other away, used]
    have now : inodeBitmapUsed (inodeTaken (group * s.allocator.inodesPerGroup + bit + 1)
        (takeInodeBit group bit s.allocator))
        (group * s.allocator.inodesPerGroup + bit + 1) = true := by
      have there := (shape.geometry geometry).area_inode group bit inside
        (by rw [shape.inodeArea_eq]; exact area)
      rw [shape.inodesPerGroup] at there
      rw [there.2]
      show Bitmap.test (store s.allocator.groupInodeBitmaps group
        (Bitmap.set (s.allocator.groupInodeBitmaps group) bit) group) bit = true
      rw [store_same, Bitmap.test_set_same]
    constructor
    · constructor
      · exact sound.takeInode group bit inside area free
      · intro block member
        rw [blockBitmapUsed_kept geometry shape rfl]
        exact inv.blocks block member
      · intro other member
        rcases List.mem_cons.mp member with rfl | member
        · exact now
        · exact kept other (inv.inodes other member)
    · refine ⟨inode.2.trans free, now, above, inode.1, ?_⟩
      intro member
      have used := inv.inodes _ member
      rw [inode.2, free] at used
      cases used
  · simp only [Session.serve, Served, refused]
    exact ⟨⟨sound, inv.blocks, inv.inodes⟩, trivial, trivial, full⟩

theorem SessionInv.freeBlock (block : Nat) :
    SessionInv (s.serve (.freeBlock block)) ∧ Served s (.freeBlock block) := by
  have sound := inv.sound
  have geometry := sound.geometry
  rcases sound.freeBlock_cases block with
    ⟨_, same⟩ | ⟨group, bit, inside, area, set, rfl, used, freed⟩
  · refine ⟨?_, fun _ => same⟩
    simp only [Session.serve]
    cases ran : Balloc.freeBlock block s.allocator with
    | mk outcome after =>
        rw [ran] at same
        simp only at same
        subst same
        cases outcome with
        | ok _ =>
            exact ⟨sound, fun other member => inv.blocks other (List.mem_filter.mp member).1,
              inv.inodes⟩
        | error _ => exact ⟨sound, inv.blocks, inv.inodes⟩
  · simp only [Session.serve, Served, freed]
    have shape := (releaseBlockBit_shape s.allocator group bit).trans
      (blockReleased_shape (releaseBlockBit group bit s.allocator))
    constructor
    · constructor
      · exact sound.releaseBlock group bit inside area set
      · intro other member
        obtain ⟨old, away⟩ := List.mem_filter.mp member
        rw [decide_eq_true_eq] at away
        rw [blockBitmapUsed_other geometry shape group bit _ rfl
          (fun place apart => Bitmap.test_clear_other _ _ _ apart) other away]
        exact inv.blocks other old
      · intro ino member
        rw [inodeBitmapUsed_kept geometry shape rfl]
        exact inv.inodes ino member
    · intro free
      rw [used] at free
      cases free

theorem SessionInv.freeInode (ino : Nat) (found : Bool) :
    SessionInv (s.serve (.freeInode ino found)) ∧ Served s (.freeInode ino found) := by
  have sound := inv.sound
  rcases sound.freeInode_cases ino found with
    ⟨inodeTable, same⟩ | ⟨group, bit, inodeTable, inside, area, set, rfl, used, freed⟩
  · have cleared := sound.clearInode inodeTable
    refine ⟨?_, fun _ => by rw [same]⟩
    simp only [Session.serve]
    cases ran : Balloc.freeInode ino found s.allocator with
    | mk outcome after =>
        rw [ran] at same
        simp only at same
        subst same
        cases outcome with
        | ok _ =>
            exact ⟨cleared, inv.blocks,
              fun other member => inv.inodes other (List.mem_filter.mp member).1⟩
        | error _ => exact ⟨cleared, inv.blocks, inv.inodes⟩
  · simp only [Session.serve, Served, freed]
    have cleared := sound.clearInode inodeTable
    have shape := (releaseInodeBit_shape { s.allocator with inodeTable := inodeTable } group bit).trans
      (inodeReleased_shape (releaseInodeBit group bit { s.allocator with inodeTable := inodeTable }))
    constructor
    · constructor
      · exact cleared.releaseInode group bit inside area set
      · intro block member
        rw [blockBitmapUsed_kept cleared.geometry shape rfl]
        exact inv.blocks block member
      · intro other member
        obtain ⟨old, away⟩ := List.mem_filter.mp member
        rw [decide_eq_true_eq] at away
        rw [inodeBitmapUsed_other cleared.geometry shape group bit _ rfl
          (fun place apart => Bitmap.test_clear_other _ _ _ apart) other away]
        exact inv.inodes other old
    · intro free
      rw [used] at free
      cases free

theorem SessionInv.serve (request : Request) :
    SessionInv (s.serve request) ∧ Served s request := by
  cases request with
  | allocBlock goalBlock goalGroup => exact inv.allocBlock goalBlock goalGroup
  | freeBlock block => exact inv.freeBlock block
  | allocInode goalGroup => exact inv.allocInode goalGroup
  | freeInode ino found => exact inv.freeInode ino found

theorem SessionInv.fold (requests : List Request) :
    SessionInv (requests.foldl Session.serve s) := by
  induction requests generalizing s with
  | nil => exact inv
  | cons request rest ih => exact ih (inv.serve request).1

end Requests

theorem run_inv (a : Allocator) (sound : Sound a) (requests : List Request) :
    SessionInv (run a requests) := by
  have start : SessionInv ⟨a, [], []⟩ := by
    refine ⟨sound, ?_, ?_⟩
    · intro block member
      cases member
    · intro ino member
      cases member
  exact start.fold requests

/-- From a sound file system with block groups, whatever is requested with whatever goals, the
counters, the bitmaps and the cursors agree, and the next request is answered truthfully. -/
theorem allocator_consistent (a : Allocator) (sound : Sound a) (requests : List Request) :
    Consistent (run a requests).allocator ∧ ∀ request, Served (run a requests) request := by
  have inv := run_inv a sound requests
  exact ⟨inv.sound.consistent, fun request => (inv.serve request).2⟩

/-- Two groups of sixteen blocks, the second with a free data block, and every inode used. -/
def smallAllocator : Allocator where
  diskSb := ⟨32, 4, 1, 0, 5, 5, 5, 28, FEATURE_COMPAT_PREALLOC, FEATURE_INCOMPAT_BLOCK_GROUPS⟩
  groupCount := 2
  blocksPerGroup := 16
  inodesPerGroup := 2
  nextIno := 5
  nextDataBlock := 28
  groups := fun group => if group = 0 then ⟨0, 16, 4, 1, 0, 0⟩ else ⟨16, 16, 18, 1, 1, 0⟩
  groupBlockBitmaps := fun group byte => if group = 1 ∧ byte = 1 then 0xef else 0xff
  groupInodeBitmaps := fun _ _ => 0xff
  blockBitmap := fun _ => 0
  inodeBitmap := fun _ => 0
  inodeTable := fun _ => ByteBuf.zero INODE_SIZE

theorem smallAllocator_geometry : Geometry smallAllocator where
  grouped := by decide
  blocksPositive := by decide
  blocksFit := by decide
  inodesPositive := by decide
  inodesFit := by decide
  groupStart := by decide
  groupBlocks := by decide
  blocksCover := by decide
  blocksReach := by decide
  inodesCover := by decide
  inodesReach := by decide
  firstPositive := by decide
  firstInside := by decide
  rootDir := by decide
  blocksBound := by decide
  inodesBound := by decide
  tableBound := by decide

theorem smallAllocator_balanced : Balanced smallAllocator where
  groupBlocks := by decide
  groupInodes := by decide
  superBlocks := by decide
  superInodes := by decide

theorem smallAllocator_sound : Sound smallAllocator where
  geometry := smallAllocator_geometry
  balanced := smallAllocator_balanced
  metadata := by
    intro group bit inside later low metadata
    have here : group = 1 := by
      have count : smallAllocator.groupCount = 2 := rfl
      omega
    subst here
    have few : bit < 3 := by
      have start : groupDataStart smallAllocator 1 = 19 := by decide
      have first : 1 * smallAllocator.blocksPerGroup + bit = 16 + bit := rfl
      omega
    clear low metadata
    revert bit
    decide
  cursors := by decide
  mirrored := by decide

theorem allocator_consistent_small :
    Consistent (run smallAllocator [.allocBlock 0 U64_MAX, .allocBlock 7 1]).allocator ∧
      ∀ request, Served (run smallAllocator [.allocBlock 0 U64_MAX, .allocBlock 7 1]) request :=
  allocator_consistent smallAllocator smallAllocator_sound [.allocBlock 0 U64_MAX, .allocBlock 7 1]

/-- Once the root inode itself is freed, an inode search reports a full file system although the
root's bit is zero. -/
theorem root_inode_never_reused : ¬ ∀ (a : Allocator) (requests : List Request) (goalGroup : Nat),
    Sound a → (allocInodeGoal goalGroup (run a requests).allocator).1 = .error .enospc →
      freeInodes (run a requests).allocator = ∅ := by
  intro claimed
  have empty := claimed smallAllocator [.freeInode ROOT_INO true] 0 smallAllocator_sound
    (by decide)
  have root : ROOT_INO ∈ freeInodes (run smallAllocator [.freeInode ROOT_INO true]).allocator := by
    decide
  rw [empty] at root
  exact absurd root (Finset.notMem_empty ROOT_INO)

end Balloc

end Cryexts
