import Cryexts.Inode.Release
import Cryexts.Super

set_option autoImplicit false

namespace Cryexts

namespace Inode

open Balloc (Allocator)

def INODE_FLAG_IMMUTABLE : Nat := 0x2
def INODE_FLAG_APPEND_ONLY : Nat := 0x4
def EXTENT_MAGIC : Nat := 0x4558
def EXTENT_TREE_V2_DEPTH : Nat := 1
def META_TAG_EXTOVF : Nat := 0x45584f46

/-- The slot of an inode in the inode table. -/
abbrev Slot : Type := ByteBuf INODE_SIZE

/-- What the checks of a slot look at beside the slot and the blocks it names. -/
structure InodeVolume where
  allocator : Allocator
  version : Nat
  metadataCsum : Bool
  fsGeneration : Nat
  policyTable : Option (Nat → Bool)

/-- Code that reads blocks and takes memory. The list has the coming answers, none of which is a
failure once it is empty. -/
abbrev Load (α : Type) : Type := Routine (List Bool) Errno α

/-- A call of the block layer or the memory allocator. -/
def answered (reason : Errno) : Load Unit := fun faults =>
  match faults with
  | [] => (.ok (), [])
  | true :: rest => (.error reason, rest)
  | false :: rest => (.ok (), rest)

def sbBread (buffers : Nat → Block) (block : Nat) : Load Block := do
  answered .eio
  return buffers block

section Layout

variable {size : Nat} (buf : ByteBuf size)

/-- `struct cryexts_extent_header`. -/
structure ExtentHeader where
  magic : Nat
  entries : Nat
  max : Nat
  reserved : Nat

def extentHeaderAt (offset : Nat) : ExtentHeader where
  magic := buf.get ⟨offset, 2⟩
  entries := buf.get ⟨offset + 2, 2⟩
  max := buf.get ⟨offset + 4, 2⟩
  reserved := buf.get ⟨offset + 6, 2⟩

def extentAt (offset : Nat) : Extent where
  logicalStart := buf.get ⟨offset, 8⟩
  physicalStart := buf.get ⟨offset + 8, 8⟩
  length := buf.get ⟨offset + 16, 4⟩
  flags := buf.get ⟨offset + 20, 4⟩

/-- The extents behind a header. -/
def extentsAt (offset count : Nat) : List Extent :=
  (List.range count).map fun index => extentAt buf (offset + 8 + 24 * index)

end Layout

section Members

variable (slot : Slot)

def rootRefAt (index : Nat) : ExtentRootRef where
  logicalStart := slot.get ⟨DiskInode.RESERVED + 8 + 22 * index, 8⟩
  leafBlock := slot.get ⟨DiskInode.RESERVED + 8 + 22 * index + 8, 8⟩
  entries := slot.get ⟨DiskInode.RESERVED + 8 + 22 * index + 16, 2⟩
  checksum := slot.get ⟨DiskInode.RESERVED + 8 + 22 * index + 18, 4⟩

def slotHeader : ExtentHeader := extentHeaderAt slot DiskInode.RESERVED

/-- The extents of the inline area. -/
def slotExtents (count : Nat) : List Extent := extentsAt slot DiskInode.RESERVED count

def overflowBlock : Nat := slot.get ⟨DiskInode.RESERVED + 80, 8⟩
def overflowEntries : Nat := slot.get ⟨DiskInode.RESERVED + 88, 2⟩
def overflowChecksum : Nat := slot.get ⟨DiskInode.RESERVED + 90, 4⟩

def slotFlag (flag : Nat) : Bool := slot.get DiskInode.inodeFlags &&& flag != 0

/-- An indexed directory keeps its index where other inodes keep their indirect block. -/
def slotIndexed : Bool :=
  sIsDir (slot.get DiskInode.mode) && slotFlag slot INODE_FLAG_DIR_INDEX

end Members

section Volume

variable (v : InodeVolume)

def extentTreeEnabled : Bool :=
  v.allocator.diskSb.featuresIncompat &&& FEATURE_INCOMPAT_EXTENT_TREE != 0

def extentTreeV2Enabled : Bool := decide (VERSION_V6 ≤ v.version)

def orphanFeatureEnabled : Bool :=
  v.allocator.diskSb.featuresIncompat &&& FEATURE_INCOMPAT_ORPHAN_LIST != 0

def policyExists (policy : Nat) : Bool :=
  match v.policyTable with
  | none => true
  | some present => present policy

/-- `cryexts_extent_overflow_checksum` and `cryexts_extent_leaf_checksum`. -/
def extentBlockChecksum (block : Nat) (buf : Block) : Nat :=
  fnv1aUpdate (metadataSeed v.fsGeneration block META_TAG_EXTOVF) buf

/-- A block that the volume has for data, in use. -/
def InUse (block : Nat) : Prop :=
  Balloc.dataBlockValid v.allocator block = true ∧ Balloc.blockBitmapUsed v.allocator block = true

instance (block : Nat) : Decidable (InUse v block) := inferInstanceAs (Decidable (_ ∧ _))

/-- The checks of a leaf or overflow block that the loads and `cryexts_validate_inode` share. -/
def ExtentBlockValid (block entries checksum : Nat) (buf : Block) : Prop :=
  ((extentHeaderAt buf 0).magic = EXTENT_MAGIC ∧ (extentHeaderAt buf 0).max = EXTENTS_PER_BLOCK ∧
    (extentHeaderAt buf 0).entries = entries) ∧
  (v.metadataCsum = true → checksum = extentBlockChecksum v block buf)

instance (block entries checksum : Nat) (buf : Block) :
    Decidable (ExtentBlockValid v block entries checksum buf) :=
  inferInstanceAs (Decidable (_ ∧ _))

variable (buffers : Nat → Block)

def readExtents (block entries checksum : Nat) : Load (List Extent) := do
  let buf ← sbBread buffers block
  Routine.require (ExtentBlockValid v block entries checksum buf) .euclean
  return extentsAt buf 0 entries

/-! ### `cryexts_validate_inode` -/

/-- The members that do not depend on how the inode maps its blocks. -/
def validateMembers (ino : Nat) (slot : Slot) : Load Unit := do
  let known := INODE_FLAG_EXTENTS ||| INODE_FLAG_EXTENT_TREE_V2 ||| INODE_FLAG_DIR_INDEX |||
    INODE_FLAG_IMMUTABLE ||| INODE_FLAG_APPEND_ONLY
  let mode := slot.get DiskInode.mode
  let xattrBlock := slot.get DiskInode.xattrBlock
  let nextOrphan := slot.get DiskInode.nextOrphan
  let inodesCount := v.allocator.diskSb.inodesCount
  Routine.require (slotFlag slot (0xffffffff - known) = false) .euclean
  Routine.require (xattrBlock ≠ 0 → InUse v xattrBlock) .euclean
  Routine.require (nextOrphan ≠ 0 → orphanFeatureEnabled v = true ∧ ROOT_INO ≤ nextOrphan ∧
    nextOrphan ≤ inodesCount ∧ nextOrphan ≠ ino) .euclean
  Routine.require (policyExists v (slot.get DiskInode.encryptionPolicyId) = true) .euclean
  Routine.require (ino ≤ inodesCount) .euclean
  Routine.require (mode ≠ 0 → Balloc.inodeBitmapUsed v.allocator ino = true) .euclean
  if mode = 0 then do
    Routine.require (ino ≠ ROOT_INO) .euclean
    Routine.require (Balloc.inodeBitmapUsed v.allocator ino = false) .euclean
    Routine.fail .enoent
  else Routine.require (sIsDir mode = true ∨ sIsReg mode = true ∨ sIsLnk mode = true) .euclean

/-- `used_data_blocks` and `next_logical`. -/
structure ExtentTotals where
  used : Nat
  next : Nat

def validateExtent (nextLogical : Nat) (e : Extent) : Load Unit := do
  Routine.require (e.length ≠ 0 ∧ e.length ≤ MAX_EXTENT_BLOCKS) .euclean
  Routine.require (nextLogical ≤ e.logicalStart ∧
    e.logicalStart ≤ u64 (e.logicalStart + e.length)) .euclean
  Routine.require (InUse v e.physicalStart) .euclean
  Routine.require (∀ index, index < e.length → InUse v (u64 (e.physicalStart + index))) .euclean

def validateExtents : List Extent → ExtentTotals → Load ExtentTotals
  | [], totals => return totals
  | e :: rest, totals => do
      validateExtent v totals.next e
      validateExtents rest
        { used := u32 (totals.used + e.length), next := u64 (e.logicalStart + e.length) }

def validateLeaf (ref : ExtentRootRef) (totals : ExtentTotals) : Load ExtentTotals := do
  Routine.require (ref.leafBlock ≠ 0 ∧ ref.entries ≠ 0 ∧ ref.entries ≤ EXTENTS_PER_BLOCK) .euclean
  Routine.require (totals.next ≤ ref.logicalStart) .euclean
  Routine.require (InUse v ref.leafBlock) .euclean
  let extents ← readExtents v buffers ref.leafBlock ref.entries ref.checksum
  Routine.require (extents.head?.map Extent.logicalStart = some ref.logicalStart) .euclean
  validateExtents v extents totals

def validateLeaves : List ExtentRootRef → ExtentTotals → Load ExtentTotals
  | [], totals => return totals
  | ref :: rest, totals => do
      let totals ← validateLeaf v buffers ref totals
      validateLeaves rest totals

/-- The inline extents and those of the overflow block, whose number is part of the result. -/
def validateOverflow (slot : Slot) : Load (ExtentTotals × Nat) := do
  let inline := slotExtents slot (slotHeader slot).entries
  let block := overflowBlock slot
  Routine.require ((slotHeader slot).entries ≤ EXTENT_ROOT_INLINE_EXTENTS) .euclean
  Routine.require (block ≠ 0 ↔ overflowEntries slot ≠ 0) .euclean
  Routine.require (overflowEntries slot ≤ EXTENTS_PER_BLOCK) .euclean
  Routine.require (¬ (block = 0 ∧ overflowChecksum slot ≠ 0 ∧ v.metadataCsum = true)) .euclean
  if block = 0 then do
    let totals ← validateExtents v inline ⟨0, 0⟩
    return (totals, 0)
  else do
    Routine.require (InUse v block) .euclean
    let overflow ← readExtents v buffers block (overflowEntries slot) (overflowChecksum slot)
    let totals ← validateExtents v inline ⟨0, 0⟩
    let totals ← validateExtents v overflow totals
    return (totals, block)

def validateExtentMap (slot : Slot) : Load (ExtentTotals × Nat) := do
  let eh := slotHeader slot
  Routine.require (sIsReg (slot.get DiskInode.mode) = true) .euclean
  Routine.require (eh.magic = EXTENT_MAGIC) .euclean
  if slotFlag slot INODE_FLAG_EXTENT_TREE_V2 && extentTreeV2Enabled v then do
    Routine.require (eh.max = EXTENT_TREE_ROOT_REFS ∧ eh.entries ≤ EXTENT_TREE_ROOT_REFS ∧
      eh.reserved = EXTENT_TREE_V2_DEPTH) .euclean
    let totals ← validateLeaves v buffers ((List.range eh.entries).map (rootRefAt slot)) ⟨0, 0⟩
    return (totals, 0)
  else if eh.max = MAX_INLINE_EXTENTS then do
    Routine.require (eh.entries ≤ MAX_INLINE_EXTENTS) .euclean
    let totals ← validateExtents v (slotExtents slot eh.entries) ⟨0, 0⟩
    return (totals, 0)
  else if eh.max = EXTENT_ROOT_INLINE_EXTENTS ∧ extentTreeEnabled v = true then
    validateOverflow v buffers slot
  else Routine.fail .euclean

/-- `cryexts_extent_file_blocks_max_from_inode_flags`. -/
def slotFileBlocksMax (slot : Slot) : Nat :=
  if slotFlag slot INODE_FLAG_EXTENT_TREE_V2 then EXTENT_TREE_V2_FILE_BLOCKS_MAX
  else if (slotHeader slot).max = EXTENT_ROOT_INLINE_EXTENTS then
    (EXTENT_ROOT_INLINE_EXTENTS + EXTENTS_PER_BLOCK) * MAX_EXTENT_BLOCKS
  else MAX_INLINE_EXTENTS * MAX_EXTENT_BLOCKS

/-- The checks at `extent_common_checks`. -/
def validateExtentCommon (slot : Slot) (totals : ExtentTotals) (overflow : Nat) : Load Unit := do
  let size := slot.get DiskInode.size
  let leaves := if slotFlag slot INODE_FLAG_EXTENT_TREE_V2 then (slotHeader slot).entries else 0
  Routine.require (slot.get DiskInode.indirectBlock = 0) .euclean
  Routine.require (∀ index, index < DIRECT_BLOCKS → slot.get (DiskInode.block index) = 0) .euclean
  Routine.require (totals.next ≤ u64 (size + (BLOCK_SIZE - 1)) / BLOCK_SIZE) .euclean
  Routine.require (size = 0 → totals.used = 0 ∧ overflow = 0 ∧ leaves = 0) .euclean
  Routine.require (size ≤ slotFileBlocksMax slot * BLOCK_SIZE) .euclean
  Routine.require (slot.get DiskInode.blocks =
    u32 (totals.used + (if overflow = 0 then 0 else 1) + leaves) * (BLOCK_SIZE / 512)) .euclean

/-- The block numbers of the slot that are not zero. -/
def slotDirect (slot : Slot) : List Nat :=
  ((List.range DIRECT_BLOCKS).map fun index => slot.get (DiskInode.block index)).filter (· ≠ 0)

/-- The entries of an indirect block that are not zero. -/
def indirectBlocks (buf : Block) : List Nat :=
  ((List.range INDIRECT_BLOCKS).map fun index => buf.get (indirectEntry index)).filter (· ≠ 0)

/-- `cryexts_disk_inode_block_count` of a slot without extents, which are all that it is called
for here. -/
def diskInodeBlockCount (slot : Slot) : Load Nat := fun faults =>
  let direct := (slotDirect slot).length
  let indirect := slot.get DiskInode.indirectBlock
  if slotIndexed slot = true ∧ indirect ≠ 0 then (.ok (direct + 1), faults)
  else if indirect = 0 then (.ok direct, faults)
  else
    match sbBread buffers indirect faults with
    | (.ok buf, rest) => (.ok (direct + 1 + (indirectBlocks buf).length), rest)
    | (.error _, rest) => (.ok (direct + 1), rest)

/-- The blocks of a directory: one to twelve, all direct, and the index. -/
def validateDirBlocks (slot : Slot) : Load Unit := do
  let size := slot.get DiskInode.size
  let indirect := slot.get DiskInode.indirectBlock
  let dirBlocks := u32 (size / BLOCK_SIZE)
  Routine.require (size ≠ 0 ∧ size % BLOCK_SIZE = 0) .euclean
  Routine.require (dirBlocks ≠ 0 ∧ dirBlocks ≤ DIRECT_BLOCKS) .euclean
  if slotFlag slot INODE_FLAG_DIR_INDEX then
    Routine.require (indirect ≠ 0 ∧ InUse v indirect) .euclean
  else Routine.require (indirect = 0) .euclean
  Routine.require ((slotDirect slot).length = dirBlocks ∧
    slot.get DiskInode.blocks = (dirBlocks +
      if slotFlag slot INODE_FLAG_DIR_INDEX then 1 else 0) * (BLOCK_SIZE / 512) ∧
    slot.get (DiskInode.block 0) ≠ 0) .euclean
  Routine.require (∀ index, index < DIRECT_BLOCKS → dirBlocks ≤ index →
    slot.get (DiskInode.block index) = 0) .euclean

/-- The size of a file or a symbolic link without extents, and the number of its blocks. -/
def validateFileBlocks (slot : Slot) (fits : Prop) [Decidable fits] : Load Unit := do
  Routine.require fits .euclean
  let count ← diskInodeBlockCount buffers slot
  Routine.require (slot.get DiskInode.blocks = count * (BLOCK_SIZE / 512)) .euclean

/-- The block numbers in the indirect block, all of them in use. -/
def validateIndirect (indirect : Nat) : Load (List Nat) := do
  Routine.require (InUse v indirect) .euclean
  let buf ← sbBread buffers indirect
  Routine.require (∀ block, block ∈ indirectBlocks buf → InUse v block) .euclean
  return indirectBlocks buf

/-- The blocks of an inode without extents. -/
def validateDirect (slot : Slot) : Load Unit := do
  let mode := slot.get DiskInode.mode
  let size := slot.get DiskInode.size
  let indirect := slot.get DiskInode.indirectBlock
  let maxSize := FILE_BLOCKS_MAX * BLOCK_SIZE
  Routine.require (∀ block, block ∈ slotDirect slot → InUse v block) .euclean
  let entries ← (if indirect ≠ 0 ∧ slotIndexed slot = false then
    validateIndirect v buffers indirect else return [])
  let used := (slotDirect slot).length + entries.length
  (if sIsDir mode then validateDirBlocks v slot else return ())
  (if sIsReg mode then
    validateFileBlocks buffers slot
      (size ≤ maxSize ∧ (size = 0 → used = 0 ∧ indirect = 0)) else return ())
  (if sIsLnk mode then
    validateFileBlocks buffers slot (size ≠ 0 ∧ size ≤ maxSize - 1) else return ())
  Routine.require (slot.get DiskInode.blocks ≤
    (max FILE_BLOCKS_MAX EXTENT_TREE_V2_FILE_BLOCKS_MAX + 1) * (BLOCK_SIZE / 512)) .euclean

def validateInode (ino : Nat) (slot : Slot) : Load Unit := do
  validateMembers v ino slot
  if slotFlag slot INODE_FLAG_EXTENTS then do
    let (totals, overflow) ← validateExtentMap v buffers slot
    validateExtentCommon slot totals overflow
  else validateDirect v buffers slot

/-! ### `cryexts_init_inode_blocks` -/

def loadExtentOverflow (block entries checksum : Nat) : Load (List Extent) := do
  if block = 0 then do
    Routine.require (entries = 0) .euclean
    return []
  else do
    Routine.require (entries ≠ 0 ∧ entries ≤ EXTENTS_PER_BLOCK) .euclean
    let extents ← readExtents v buffers block entries checksum
    answered .enomem
    return extents

def loadExtentLeaf (ref : ExtentRootRef) : Load ExtentLeaf := do
  Routine.require (ref.leafBlock ≠ 0 ∧ ref.entries ≠ 0 ∧ ref.entries ≤ EXTENTS_PER_BLOCK) .euclean
  let extents ← readExtents v buffers ref.leafBlock ref.entries ref.checksum
  answered .enomem
  return { block := ref.leafBlock, checksum := ref.checksum, extents := extents }

def loadExtentLeaves : List ExtentRootRef → Load (List ExtentLeaf)
  | [] => return []
  | ref :: rest => do
      let leaf ← loadExtentLeaf v buffers ref
      let leaves ← loadExtentLeaves rest
      return leaf :: leaves

/-- What every inode takes from its slot, the mapping still empty. -/
def slotInfo (slot : Slot) : InodeInfo where
  useExtents := slotFlag slot INODE_FLAG_EXTENTS
  inodeFlags := slot.get DiskInode.inodeFlags
  direct := fun _ => 0
  indirectBlock := 0
  extentInlineMax := 0
  extents := []
  overflowExtents := []
  extentOverflowBlock := 0
  extentOverflowChecksum := 0
  extentRootRefs := List.replicate EXTENT_TREE_ROOT_REFS ExtentRootRef.zero
  extentLeaves := []
  xattrBlock := slot.get DiskInode.xattrBlock
  encryptionPolicyId := slot.get DiskInode.encryptionPolicyId
  nextOrphan := slot.get DiskInode.nextOrphan
  dirIndexBlock := if slotIndexed slot then slot.get DiskInode.indirectBlock else 0
  hints := ⟨0, 0, 0, 0, 0⟩

def loadExtentMap (slot : Slot) : Load InodeInfo := do
  let eh := slotHeader slot
  let info := slotInfo slot
  Routine.require (eh.magic = EXTENT_MAGIC) .euclean
  if slotFlag slot INODE_FLAG_EXTENT_TREE_V2 && extentTreeV2Enabled v then do
    Routine.require (eh.max = EXTENT_TREE_ROOT_REFS ∧ eh.entries ≤ EXTENT_TREE_ROOT_REFS ∧
      eh.reserved = EXTENT_TREE_V2_DEPTH) .euclean
    let refs := (List.range eh.entries).map (rootRefAt slot)
    let leaves ← loadExtentLeaves v buffers refs
    return { info with
      extentInlineMax := EXTENT_TREE_ROOT_REFS
      extentRootRefs :=
        refs ++ List.replicate (EXTENT_TREE_ROOT_REFS - refs.length) ExtentRootRef.zero
      extentLeaves := leaves }
  else if eh.max = MAX_INLINE_EXTENTS then do
    Routine.require (eh.entries ≤ MAX_INLINE_EXTENTS) .euclean
    return { info with
      extentInlineMax := MAX_INLINE_EXTENTS
      extents := slotExtents slot eh.entries }
  else if eh.max = EXTENT_ROOT_INLINE_EXTENTS ∧ extentTreeEnabled v = true then do
    Routine.require (eh.entries ≤ EXTENT_ROOT_INLINE_EXTENTS) .euclean
    let overflow ← loadExtentOverflow v buffers (overflowBlock slot) (overflowEntries slot)
      (overflowChecksum slot)
    return { info with
      extentInlineMax := EXTENT_ROOT_INLINE_EXTENTS
      extents := slotExtents slot eh.entries
      overflowExtents := overflow
      extentOverflowBlock := overflowBlock slot
      extentOverflowChecksum := overflowChecksum slot }
  else Routine.fail .euclean

def inodeFirstBlock (info : InodeInfo) : Nat :=
  let leaf := if extentTreeV2Inode info then leafExtents info 0 else []
  if info.useExtents then
    match leaf, info.extents with
    | e :: _, _ => e.physicalStart
    | [], e :: _ => e.physicalStart
    | [], [] => info.direct 0
  else info.direct 0

/-- `cryexts_inode_block_at` of an inode without extents, zero when its indirect block cannot be
read. -/
def inodeBlockAt (info : InodeInfo) (index : Nat) : Load Nat := fun faults =>
  if index < DIRECT_BLOCKS then (.ok (info.direct index), faults)
  else if info.indirectBlock = 0 ∨ FILE_BLOCKS_MAX ≤ index then (.ok 0, faults)
  else
    match sbBread buffers info.indirectBlock faults with
    | (.ok buf, rest) => (.ok (buf.get (indirectEntry (index - DIRECT_BLOCKS))), rest)
    | (.error _, rest) => (.ok 0, rest)

/-- The last block that an inode without extents has among the indices. -/
def lastBlockAt (info : InodeInfo) : List Nat → Nat → Load Nat
  | [], last => return last
  | index :: rest, last => do
      let block ← inodeBlockAt buffers info index
      lastBlockAt info rest (if block = 0 then last else block)

/-- The last block of the last extent that has one. -/
def lastExtentBlock (entries : List Extent) : Nat :=
  entries.foldl (fun last e =>
    if e.physicalStart = 0 ∨ e.length = 0 then last
    else u64 (e.physicalStart + e.length - 1)) 0

/-- `cryexts_init_inode_alloc_hint`. Behind the largest file there is no block to look at. -/
def initInodeAllocHint (size : Nat) (info : InodeInfo) : Load InodeInfo := do
  let first := inodeFirstBlock info
  let hints : AllocHints := {
    allocHintBlock := 0
    allocGoalGroup := if first = 0 then Balloc.U64_MAX else blockGroupOf v.allocator first
    reservationStart := 0
    reservationNext := 0
    reservationEnd := 0 }
  let count := min (u32 (u64 (size + (BLOCK_SIZE - 1)) / BLOCK_SIZE)) FILE_BLOCKS_MAX
  let last ← (if info.useExtents then return lastExtentBlock (extentEntries info)
    else lastBlockAt buffers info (List.range count) 0)
  return { info with hints := hinted v.allocator last hints }

def initInodeBlocks (slot : Slot) : Load InodeInfo := do
  answered .enomem
  let info ← (if slotFlag slot INODE_FLAG_EXTENTS then loadExtentMap v buffers slot
    else return { slotInfo slot with
      direct := fun index =>
        if index < DIRECT_BLOCKS then slot.get (DiskInode.block index) else 0
      indirectBlock := slot.get DiskInode.indirectBlock })
  initInodeAllocHint v buffers (slot.get DiskInode.size) info

end Volume

end Inode

end Cryexts
