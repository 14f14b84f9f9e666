import Cryexts.Lib.Bitmap
import Cryexts.Super

set_option autoImplicit false

namespace Cryexts

namespace Balloc

open WriteLog (store)

/-- The members of `struct cryexts_group_desc` that the allocator uses. -/
structure GroupRecord where
  groupStart : Nat
  blocksCount : Nat
  inodeTableStart : Nat
  inodeTableBlocks : Nat
  freeBlocksCount : Nat
  freeInodesCount : Nat
  deriving DecidableEq, Repr

/-- The members of `disk_sb` that the allocator uses. -/
structure DiskSuper where
  blocksCount : Nat
  inodesCount : Nat
  freeBlocksCount : Nat
  freeInodesCount : Nat
  rootDirBlock : Nat
  firstDataBlock : Nat
  nextIno : Nat
  nextDataBlock : Nat
  featuresCompat : Nat
  featuresIncompat : Nat
  deriving DecidableEq, Repr

/-- The allocator's part of a mount: `disk_sb`, the cursors and geometry of
`struct cryexts_sb_info`, its descriptors and its bitmaps, and the inode table as
`cryexts_get_disk_inode` addresses it. `blockBitmap` and `inodeBitmap` serve a file
system without block groups. -/
structure Allocator where
  diskSb : DiskSuper
  groupCount : Nat
  blocksPerGroup : Nat
  inodesPerGroup : Nat
  nextIno : Nat
  nextDataBlock : Nat
  groups : Nat → GroupRecord
  groupBlockBitmaps : Nat → Nat → UInt8
  groupInodeBitmaps : Nat → Nat → UInt8
  blockBitmap : Nat → UInt8
  inodeBitmap : Nat → UInt8
  inodeTable : Nat → ByteBuf INODE_SIZE

abbrev Alloc (α : Type) : Type := Routine Allocator Errno α

/-- A `u64` difference, which wraps. -/
def u64Sub (first second : Nat) : Nat :=
  if second ≤ first then first - second else first + 2 ^ 64 - second

/-- A `u32` difference, which wraps. -/
def u32Sub (first second : Nat) : Nat :=
  if second ≤ first then first - second else first + 2 ^ 32 - second

/-- `div_u64`, whose divisor is a `u32`. -/
def divU64 (dividend divisor : Nat) : Nat := dividend / u32 divisor

def U64_MAX : Nat := 2 ^ 64 - 1

section Queries

variable (a : Allocator)

def hasBlockGroups : Bool := a.diskSb.featuresIncompat &&& FEATURE_INCOMPAT_BLOCK_GROUPS != 0

def preallocFeatureEnabled : Bool := a.diskSb.featuresCompat &&& FEATURE_COMPAT_PREALLOC != 0

def groupFirstBlock (group : Nat) : Nat :=
  if a.groupCount ≤ group then 0 else (a.groups group).groupStart

def groupBlocks (group : Nat) : Nat :=
  if a.groupCount ≤ group then 0 else (a.groups group).blocksCount

def groupFreeBlocks (group : Nat) : Nat :=
  if a.groupCount ≤ group then 0 else (a.groups group).freeBlocksCount

def groupFreeInodes (group : Nat) : Nat :=
  if a.groupCount ≤ group then 0 else (a.groups group).freeInodesCount

/-- `group_data_start` of `cryexts_data_block_valid`. -/
def groupDataStart (group : Nat) : Nat :=
  if group = 0 then a.diskSb.firstDataBlock
  else u64 ((a.groups group).inodeTableStart + (a.groups group).inodeTableBlocks)

def dataBlockValid (block : Nat) : Bool :=
  if block = 0 ∨ a.diskSb.blocksCount ≤ block then false
  else if hasBlockGroups a = false then decide (a.diskSb.firstDataBlock ≤ block)
  else
    let group := divU64 block a.blocksPerGroup
    let groupStart := (a.groups group).groupStart
    if a.groupCount ≤ group then false
    else if block < groupStart ∨ u64 (groupStart + (a.groups group).blocksCount) ≤ block then false
    else decide (groupDataStart a group ≤ block)

def inodeBitmapUsed (ino : Nat) : Bool :=
  if ino < ROOT_INO ∨ a.diskSb.inodesCount < ino then false
  else if hasBlockGroups a = false then Bitmap.test a.inodeBitmap (ino - 1)
  else
    let group := divU64 (ino - 1) a.inodesPerGroup
    if a.groupCount ≤ group then false
    else Bitmap.test (a.groupInodeBitmaps group) ((ino - 1) % a.inodesPerGroup)

def blockBitmapUsed (block : Nat) : Bool :=
  if dataBlockValid a block = false then false
  else if hasBlockGroups a = false then Bitmap.test a.blockBitmap block
  else
    let group := divU64 block a.blocksPerGroup
    if a.groupCount ≤ group then false
    else Bitmap.test (a.groupBlockBitmaps group) (u64Sub block (groupFirstBlock a group))

def firstDataGroup : Nat :=
  if hasBlockGroups a = false ∨ a.blocksPerGroup = 0 then 0
  else divU64 a.diskSb.firstDataBlock a.blocksPerGroup

/-- The checks of `cryexts_validate_super` on the two cursors. -/
def CursorsValid : Prop :=
  ROOT_INO + 1 ≤ a.nextIno ∧ a.nextIno ≤ u64 (a.diskSb.inodesCount + 1) ∧
    a.diskSb.rootDirBlock + 1 ≤ a.nextDataBlock ∧ a.nextDataBlock ≤ a.diskSb.blocksCount

instance : Decidable (CursorsValid a) := inferInstanceAs (Decidable (_ ∧ _))

end Queries

/-- One inode bit of a group taken, with the group's counter. -/
def takeInodeBit (group bit : Nat) (a : Allocator) : Allocator :=
  { a with
    groupInodeBitmaps := store a.groupInodeBitmaps group
      (Bitmap.set (a.groupInodeBitmaps group) bit)
    groups := store a.groups group { a.groups group with
      freeInodesCount := u32Sub (a.groups group).freeInodesCount 1 } }

/-- One block bit of a group taken, with the group's counter. -/
def takeBlockBit (group bit : Nat) (a : Allocator) : Allocator :=
  { a with
    groupBlockBitmaps := store a.groupBlockBitmaps group
      (Bitmap.set (a.groupBlockBitmaps group) bit)
    groups := store a.groups group { a.groups group with
      freeBlocksCount := u32Sub (a.groups group).freeBlocksCount 1 } }

/-- One inode bit of a group released, with the group's counter. -/
def releaseInodeBit (group bit : Nat) (a : Allocator) : Allocator :=
  { a with
    groupInodeBitmaps := store a.groupInodeBitmaps group
      (Bitmap.clear (a.groupInodeBitmaps group) bit)
    groups := store a.groups group { a.groups group with
      freeInodesCount := u32 ((a.groups group).freeInodesCount + 1) } }

/-- One block bit of a group released, with the group's counter. -/
def releaseBlockBit (group bit : Nat) (a : Allocator) : Allocator :=
  { a with
    groupBlockBitmaps := store a.groupBlockBitmaps group
      (Bitmap.clear (a.groupBlockBitmaps group) bit)
    groups := store a.groups group { a.groups group with
      freeBlocksCount := u32 ((a.groups group).freeBlocksCount + 1) } }

/-- `limit` of `cryexts_alloc_inode_in_group`. -/
def inodeLimit (a : Allocator) (group : Nat) : Nat :=
  min a.inodesPerGroup (u64Sub a.diskSb.inodesCount (u64 (group * a.inodesPerGroup)))

def allocInodeInGroup (group : Nat) : Alloc Nat := fun a =>
  if a.groupCount ≤ group then (.error .einval, a)
  else
    let baseIno := u64 (group * a.inodesPerGroup + 1)
    let eligible := fun bit =>
      decide (ROOT_INO + 1 ≤ u64 (baseIno + bit)) && !Bitmap.test (a.groupInodeBitmaps group) bit
    match (List.range (inodeLimit a group)).find? eligible with
    | some bit => (.ok (u64 (baseIno + bit)), takeInodeBit group bit a)
    | none => (.error .enospc, a)

/-- `start_bit` of `cryexts_alloc_block_in_group`. -/
def startBit (a : Allocator) (group startBlockHint : Nat) : Nat :=
  let firstBlock := groupFirstBlock a group
  if firstBlock ≤ startBlockHint ∧ startBlockHint < u64 (firstBlock + groupBlocks a group) then
    startBlockHint - firstBlock
  else 0

def allocBlockInGroup (group startBlockHint : Nat) : Alloc Nat := fun a =>
  if a.groupCount ≤ group then (.error .einval, a)
  else
    let firstBlock := groupFirstBlock a group
    let start := startBit a group startBlockHint
    let eligible := fun bit =>
      decide (a.diskSb.firstDataBlock ≤ u64 (firstBlock + bit)) &&
        !Bitmap.test (a.groupBlockBitmaps group) bit
    -- From the hint to the end of the group, then round to the hint.
    match (List.range' start (groupBlocks a group - start) ++ List.range start).find? eligible with
    | some bit => (.ok (u64 (firstBlock + bit)), takeBlockBit group bit a)
    | none => (.error .enospc, a)

def allocInodeLegacy : Alloc Nat := fun a =>
  match (List.range' ROOT_INO (a.diskSb.inodesCount - ROOT_INO)).find?
      fun index => !Bitmap.test a.inodeBitmap index with
  | some index =>
      (.ok (u64 (index + 1)), { a with inodeBitmap := Bitmap.set a.inodeBitmap index })
  | none => (.error .enospc, a)

def allocBlockLegacy : Alloc Nat := fun a =>
  let start := a.diskSb.firstDataBlock
  match (List.range' start (a.diskSb.blocksCount - start)).find?
      fun index => !Bitmap.test a.blockBitmap index with
  | some index => (.ok index, { a with blockBitmap := Bitmap.set a.blockBitmap index })
  | none => (.error .enospc, a)

/-- `cryexts_mark_super_dirty`, as far as the allocator sees it. -/
def markSuperDirty (a : Allocator) : Allocator :=
  { a with diskSb := { a.diskSb with nextIno := a.nextIno, nextDataBlock := a.nextDataBlock } }

/-- What `cryexts_alloc_inode_goal` does once a bit is taken. -/
def inodeTaken (ino : Nat) (a : Allocator) : Allocator :=
  markSuperDirty { a with
    nextIno := if a.nextIno < u64 (ino + 1) then u64 (ino + 1) else a.nextIno
    diskSb := { a.diskSb with
      freeInodesCount := u64Sub a.diskSb.freeInodesCount 1 } }

/-- What `cryexts_alloc_block_goal` does once a bit is taken. -/
def blockTaken (block : Nat) (a : Allocator) : Allocator :=
  markSuperDirty { a with
    nextDataBlock := u64 (block + 1)
    diskSb := { a.diskSb with
      freeBlocksCount := u64Sub a.diskSb.freeBlocksCount 1 } }

/-- What `cryexts_free_inode` does once a bit is released. -/
def inodeReleased (a : Allocator) : Allocator :=
  markSuperDirty { a with diskSb := { a.diskSb with
    freeInodesCount := u64 (a.diskSb.freeInodesCount + 1) } }

/-- What `cryexts_free_block` does once a bit is released. -/
def blockReleased (a : Allocator) : Allocator :=
  markSuperDirty { a with diskSb := { a.diskSb with
    freeBlocksCount := u64 (a.diskSb.freeBlocksCount + 1) } }

/-- The group loop of `cryexts_alloc_inode_goal`. -/
def searchInodeGroups (goalGroup : Nat) : Alloc Nat := fun a =>
  let startGroup :=
    if preallocFeatureEnabled a = true ∧ goalGroup < a.groupCount then goalGroup else 0
  let groupAt := fun scanned => u64 (startGroup + scanned) % a.groupCount
  Routine.search (fun a scanned => groupFreeInodes a (groupAt scanned) == 0)
    (fun scanned => allocInodeInGroup (groupAt scanned)) (List.range a.groupCount) .enospc a

def allocInodeGoal (goalGroup : Nat) : Alloc Nat := fun a =>
  match (if hasBlockGroups a = false then allocInodeLegacy else searchInodeGroups goalGroup) a with
  | (.ok ino, after) => (.ok ino, inodeTaken ino after)
  | (.error reason, after) => (.error reason, after)

/-- `found` says whether `cryexts_get_disk_inode` could read the inode's block. -/
def freeInode (ino : Nat) (found : Bool) : Alloc Unit := fun a =>
  if ino < ROOT_INO ∨ a.diskSb.inodesCount < ino then (.error .einval, a)
  else if found = false then (.error .eio, a)
  else
    let a := { a with inodeTable := store a.inodeTable ino (ByteBuf.zero INODE_SIZE) }
    if hasBlockGroups a = false then
      if Bitmap.test a.inodeBitmap (ino - 1) = false then (.ok (), a)
      else (.ok (), inodeReleased { a with inodeBitmap := Bitmap.clear a.inodeBitmap (ino - 1) })
    else
      let group := (ino - 1) / a.inodesPerGroup
      let bit := (ino - 1) % a.inodesPerGroup
      if a.groupCount ≤ group ∨ Bitmap.test (a.groupInodeBitmaps group) bit = false then (.ok (), a)
      else (.ok (), inodeReleased (releaseInodeBit group bit a))

/-- `start_hint` of the first loop of `cryexts_alloc_block_goal`. -/
def startHint (a : Allocator) (goalBlock goalGroup group scanned : Nat) : Nat :=
  let haveGoalBlock := decide (goalBlock ≠ 0) && dataBlockValid a goalBlock
  if preallocFeatureEnabled a = true then
    if haveGoalBlock = true ∧ divU64 goalBlock a.blocksPerGroup = group then goalBlock
    else if group = goalGroup ∧ groupFirstBlock a group ≤ a.nextDataBlock ∧
        a.nextDataBlock < u64 (groupFirstBlock a group + groupBlocks a group) then
      a.nextDataBlock
    else 0
  else if scanned = 0 then a.nextDataBlock
  else 0

/-- The two loops of `cryexts_alloc_block_goal`. -/
def searchBlockGroups (goalBlock goalGroup : Nat) : Alloc Nat := fun a =>
  let haveGoalBlock := decide (goalBlock ≠ 0) && dataBlockValid a goalBlock
  let startGroup :=
    if preallocFeatureEnabled a = true ∧ goalGroup < a.groupCount then goalGroup
    else if preallocFeatureEnabled a = true ∧ haveGoalBlock = true then
      divU64 goalBlock a.blocksPerGroup
    else firstDataGroup a
  let groupAt := fun scanned => u64 (startGroup + scanned) % a.groupCount
  let first := Routine.search
    (fun b scanned => decide (groupAt scanned < firstDataGroup b) ||
      groupFreeBlocks b (groupAt scanned) == 0)
    (fun scanned => allocBlockInGroup (groupAt scanned)
      (startHint a goalBlock goalGroup (groupAt scanned) scanned))
    (List.range a.groupCount) .enospc a
  match first with
  | (.ok block, after) => (.ok block, after)
  | (.error reason, after) =>
      Routine.search (fun b group => groupFreeBlocks b group == 0)
        (fun group => allocBlockInGroup group 0)
        (List.range' (firstDataGroup after) (after.groupCount - firstDataGroup after)) reason after

def allocBlockGoal (goalBlock goalGroup : Nat) : Alloc Nat := fun a =>
  match (if hasBlockGroups a = false then allocBlockLegacy
      else searchBlockGroups goalBlock goalGroup) a with
  | (.ok block, after) => (.ok block, blockTaken block after)
  | (.error reason, after) => (.error reason, after)

def allocBlock : Alloc Nat := allocBlockGoal 0 U64_MAX

def freeBlock (block : Nat) : Alloc Unit := fun a =>
  if dataBlockValid a block = false then (.error .einval, a)
  else if hasBlockGroups a = false then
    if Bitmap.test a.blockBitmap block = false then (.ok (), a)
    else (.ok (), blockReleased { a with blockBitmap := Bitmap.clear a.blockBitmap block })
  else
    let group := divU64 block a.blocksPerGroup
    let bit := u64Sub block (groupFirstBlock a group)
    if a.groupCount ≤ group then (.error .einval, a)
    else if Bitmap.test (a.groupBlockBitmaps group) bit = false then (.ok (), a)
    else (.ok (), blockReleased (releaseBlockBit group bit a))

end Balloc

end Cryexts
