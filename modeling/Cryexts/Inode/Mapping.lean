import Cryexts.Balloc
import Cryexts.Lib.ExtentMap

set_option autoImplicit false

namespace Cryexts

namespace Inode

open WriteLog (store)
open ByteBuf (Field)
open Balloc (Allocator Alloc)

def DIRECT_BLOCKS : Nat := 12
def INDIRECT_BLOCKS : Nat := BLOCK_SIZE / 8
def FILE_BLOCKS_MAX : Nat := DIRECT_BLOCKS + INDIRECT_BLOCKS
def INODE_FLAG_EXTENTS : Nat := 0x1

def INODE_FLAG_DIR_INDEX : Nat := 0x8
def INODE_FLAG_EXTENT_TREE_V2 : Nat := 0x10
def MAX_INLINE_EXTENTS : Nat := 4
def EXTENT_ROOT_INLINE_EXTENTS : Nat := 3
def EXTENT_TREE_ROOT_REFS : Nat := 4
def MAX_EXTENT_BLOCKS : Nat := 65535
/-- The extents a block has room for behind its header. -/
def EXTENTS_PER_BLOCK : Nat := (BLOCK_SIZE - 8) / 24
def EXTENT_TREE_V2_FILE_BLOCKS_MAX : Nat :=
  EXTENT_TREE_ROOT_REFS * EXTENTS_PER_BLOCK * MAX_EXTENT_BLOCKS
def RESERVATION_WINDOW_BLOCKS : Nat := 64

def sIsDir (mode : Nat) : Bool := mode &&& 0xF000 == 0x4000
def sIsReg (mode : Nat) : Bool := mode &&& 0xF000 == 0x8000
def sIsLnk (mode : Nat) : Bool := mode &&& 0xF000 == 0xA000

/-- `struct cryexts_extent_leaf_cache`; `entries` is the length of `extents`. -/
structure ExtentLeaf where
  block : Nat
  checksum : Nat
  extents : List Extent
  deriving DecidableEq, Repr

structure ExtentRootRef where
  logicalStart : Nat
  leafBlock : Nat
  entries : Nat
  checksum : Nat
  deriving DecidableEq, Repr

def ExtentRootRef.zero : ExtentRootRef := ⟨0, 0, 0, 0⟩

/-- The members of `struct cryexts_inode_info` that steer allocation. -/
structure AllocHints where
  allocHintBlock : Nat
  allocGoalGroup : Nat
  reservationStart : Nat
  reservationNext : Nat
  reservationEnd : Nat
  deriving DecidableEq, Repr

/-- `struct cryexts_inode_info` with its counted arrays as lists: `extent_entries`,
`extent_overflow_entries` and `extent_leaf_count` are their lengths. -/
structure InodeInfo where
  useExtents : Bool
  inodeFlags : Nat
  direct : Nat → Nat
  indirectBlock : Nat
  extentInlineMax : Nat
  extents : List Extent
  overflowExtents : List Extent
  extentOverflowBlock : Nat
  extentOverflowChecksum : Nat
  extentRootRefs : List ExtentRootRef
  extentLeaves : List ExtentLeaf
  xattrBlock : Nat
  encryptionPolicyId : Nat
  nextOrphan : Nat
  dirIndexBlock : Nat
  hints : AllocHints

/-- One inode in memory with what its block mapping works on: the allocator, the buffers, and the
coming answers of `sb_getblk`, `sb_bread` and `krealloc`, none of which fails once the list is
empty. `released` lists the blocks `cryexts_free_block` was called with, in order. -/
structure MapState where
  allocator : Allocator
  buffers : Nat → Block
  faults : List Bool
  released : List Nat
  mode : Nat
  info : InodeInfo

abbrev MapOp (α : Type) : Type := Routine MapState Errno α

/-- A call that may fail. -/
def attempt (reason : Errno) : MapOp Unit := fun s =>
  match s.faults with
  | [] => (.ok (), s)
  | true :: rest => (.error reason, { s with faults := rest })
  | false :: rest => (.ok (), { s with faults := rest })

/-- A change of the inode in memory. -/
def updateInfo (change : InodeInfo → InodeInfo) : MapOp Unit :=
  Routine.modify fun s => { s with info := change s.info }

def allocBlockGoal (goalBlock goalGroup : Nat) : MapOp Nat := fun s =>
  let (outcome, allocator) := Balloc.allocBlockGoal goalBlock goalGroup s.allocator
  (outcome, { s with allocator := allocator })

def freeBlock (block : Nat) : MapOp Unit := fun s =>
  let (outcome, allocator) := Balloc.freeBlock block s.allocator
  (outcome, { s with allocator := allocator, released := s.released ++ [block] })

def zeroNewBlock (block : Nat) : MapOp Unit := do
  attempt .eio
  Routine.modify fun s => { s with buffers := store s.buffers block (ByteBuf.zero BLOCK_SIZE) }

/-- A fresh block is zeroed, and freed again when that fails. -/
def zeroOrFree (block : Nat) : MapOp Unit :=
  (zeroNewBlock block).onFailure fun _ => freeBlock block

def blockGroupOf (a : Allocator) (block : Nat) : Nat :=
  if Balloc.hasBlockGroups a = false ∨ a.blocksPerGroup = 0 then 0
  else Balloc.divU64 block a.blocksPerGroup

def resetReservation (hints : AllocHints) : AllocHints :=
  { hints with reservationStart := 0, reservationNext := 0, reservationEnd := 0 }

/-- The hints after `cryexts_update_alloc_hint`. -/
def hinted (a : Allocator) (block : Nat) (hints : AllocHints) : AllocHints :=
  if block = 0 then hints
  else
    let moved := { hints with
      allocHintBlock := u64 (block + 1), allocGoalGroup := blockGroupOf a block }
    let kept :=
      if moved.reservationStart ≠ 0 ∧
          (block < moved.reservationStart ∨ moved.reservationEnd ≤ block) then
        resetReservation moved
      else moved
    if kept.reservationStart ≠ 0 ∧ kept.reservationNext < u64 (block + 1) then
      { kept with reservationNext := u64 (block + 1) }
    else kept

def updateAllocHint (block : Nat) : MapOp Unit :=
  Routine.modify fun s => { s with info := { s.info with
    hints := hinted s.allocator block s.info.hints } }

/-- The reservation window after a block was taken for the inode. -/
def reserved (a : Allocator) (physical : Nat) (hints : AllocHints) : AllocHints :=
  let group := blockGroupOf a physical
  if hints.reservationStart = 0 ∨ physical < hints.reservationStart ∨
      hints.reservationEnd ≤ physical ∨ group ≠ hints.allocGoalGroup then
    { hints with
      reservationStart := physical
      reservationNext := u64 (physical + 1)
      reservationEnd := min (u64 (physical + RESERVATION_WINDOW_BLOCKS))
        (u64 (Balloc.groupFirstBlock a group + Balloc.groupBlocks a group)) }
  else { hints with reservationNext := u64 (physical + 1) }

def allocDataBlockForInode : MapOp Nat := do
  let s ← Routine.read
  let hints := s.info.hints
  if Balloc.preallocFeatureEnabled s.allocator && Balloc.hasBlockGroups s.allocator then do
    let goal :=
      if hints.reservationNext ≠ 0 ∧ hints.reservationNext < hints.reservationEnd then
        hints.reservationNext
      else hints.allocHintBlock
    let physical ← allocBlockGoal goal hints.allocGoalGroup
    Routine.modify fun s => { s with info := { s.info with
      hints := reserved s.allocator physical s.info.hints } }
    return physical
  else allocBlockGoal hints.allocHintBlock hints.allocGoalGroup

section Entries

variable (info : InodeInfo)

def extentTreeV2Inode : Bool := info.inodeFlags &&& INODE_FLAG_EXTENT_TREE_V2 != 0

/-- `cryexts_extent_entry` for every index below `cryexts_extent_total_entries`. -/
def extentEntries : List Extent :=
  if extentTreeV2Inode info then info.extentLeaves.flatMap ExtentLeaf.extents
  else info.extents ++ info.overflowExtents

/-- `cryexts_extent_file_blocks_max_for_blocks`. -/
def extentFileBlocksMax : Nat :=
  if extentTreeV2Inode info then EXTENT_TREE_V2_FILE_BLOCKS_MAX
  else if info.extentInlineMax = EXTENT_ROOT_INLINE_EXTENTS then
    (EXTENT_ROOT_INLINE_EXTENTS + EXTENTS_PER_BLOCK) * MAX_EXTENT_BLOCKS
  else MAX_INLINE_EXTENTS * MAX_EXTENT_BLOCKS

/-- One entry of the leaves changed, as `cryexts_extent_entry` counts them. -/
def modifyLeafEntry (change : Extent → Extent) : List ExtentLeaf → Nat → List ExtentLeaf
  | [], _ => []
  | leaf :: rest, index =>
      if index < leaf.extents.length then
        { leaf with extents := leaf.extents.modify index change } :: rest
      else leaf :: modifyLeafEntry change rest (index - leaf.extents.length)

/-- One entry changed through `cryexts_extent_entry`. -/
def modifyEntry (index : Nat) (change : Extent → Extent) : InodeInfo :=
  if extentTreeV2Inode info then
    { info with extentLeaves := modifyLeafEntry change info.extentLeaves index }
  else if index < info.extents.length then
    { info with extents := info.extents.modify index change }
  else { info with
    overflowExtents := info.overflowExtents.modify (index - info.extents.length) change }

/-- The root reference of one leaf. -/
def ExtentLeaf.ref (leaf : ExtentLeaf) : ExtentRootRef where
  logicalStart := (leaf.extents.head?.map Extent.logicalStart).getD 0
  leafBlock := leaf.block
  entries := leaf.extents.length
  checksum := leaf.checksum

/-- The root references of some leaves, the unused ones zero. -/
def rootRefs (leaves : List ExtentLeaf) : List ExtentRootRef :=
  leaves.map ExtentLeaf.ref ++
    List.replicate (EXTENT_TREE_ROOT_REFS - leaves.length) ExtentRootRef.zero

def refreshExtentTreeV2Refs : InodeInfo :=
  { info with extentRootRefs := rootRefs info.extentLeaves }

/-- One leaf's extents replaced. -/
def withLeafExtents (leafIndex : Nat) (extents : List Extent) : InodeInfo :=
  { info with extentLeaves := info.extentLeaves.modify leafIndex fun leaf =>
    { leaf with extents := extents } }

/-- The extents of one leaf. -/
def leafExtents (leafIndex : Nat) : List Extent :=
  ((info.extentLeaves[leafIndex]?).map ExtentLeaf.extents).getD []

def dropExtentLeaf (leafIndex : Nat) : InodeInfo :=
  if info.extentLeaves.length ≤ leafIndex then info
  else refreshExtentTreeV2Refs { info with extentLeaves := info.extentLeaves.eraseIdx leafIndex }

end Entries

/-- A new entry of one block. -/
def singleExtent (logical physical : Nat) : Extent := ⟨logical, physical, 1, 0⟩

/-- A new leaf with one entry. -/
def singleLeaf (leafBlock logical physical : Nat) : ExtentLeaf where
  block := leafBlock
  checksum := 0
  extents := [singleExtent logical physical]

/-- The leaf and the place in it of the first entry behind a block, the leaves counted from
`index` on. -/
def insertSlot (logical : Nat) : List ExtentLeaf → Nat → Option (Nat × Nat)
  | [], _ => none
  | leaf :: rest, index =>
      match leaf.extents.findIdx? fun e => decide (logical < e.logicalStart) with
      | some entryIndex => some (index, entryIndex)
      | none => insertSlot logical rest (index + 1)

def allocExtentLeafBlock : MapOp Nat := do
  let s ← Routine.read
  let block ← allocBlockGoal s.info.hints.allocHintBlock s.info.hints.allocGoalGroup
  zeroOrFree block
  return block

/-- What `cryexts_append_extent_entry_v2` does at `found_slot` for a leaf in use. -/
def insertLeafEntry (leafIndex entryIndex logical physical : Nat) : MapOp Unit := do
  let s ← Routine.read
  let extents := leafExtents s.info leafIndex
  if EXTENTS_PER_BLOCK ≤ extents.length then Routine.fail .enospc
  else do
    attempt .enomem
    updateInfo fun info => refreshExtentTreeV2Refs (withLeafExtents info leafIndex
      (extents.insertIdx entryIndex (singleExtent logical physical)))

/-- The case of a new leaf, whose slot and root reference stay zero when it fails. -/
def insertNewLeaf (logical physical : Nat) : MapOp Unit := do
  let block ← allocExtentLeafBlock
  (attempt .enomem).onFailure fun _ => freeBlock block
  updateInfo fun info => refreshExtentTreeV2Refs { info with
    extentLeaves := info.extentLeaves ++ [singleLeaf block logical physical] }

def appendExtentEntryV2 (logical physical : Nat) : MapOp Unit := do
  let s ← Routine.read
  let leaves := s.info.extentLeaves
  match insertSlot logical leaves 0 with
  | some (leafIndex, entryIndex) => insertLeafEntry leafIndex entryIndex logical physical
  | none =>
      let last := leafExtents s.info (leaves.length - 1)
      if leaves = [] ∨ EXTENTS_PER_BLOCK ≤ last.length then
        if EXTENT_TREE_ROOT_REFS ≤ leaves.length then Routine.fail .enospc
        else insertNewLeaf logical physical
      else insertLeafEntry (leaves.length - 1) last.length logical physical

def insertExtentAfterV2 (leafIndex entryIndex : Nat) (e : Extent) : MapOp Unit := do
  let s ← Routine.read
  let extents := leafExtents s.info leafIndex
  if s.info.extentLeaves.length ≤ leafIndex then Routine.fail .euclean
  else if extents.length ≤ entryIndex ∨ EXTENTS_PER_BLOCK ≤ extents.length then
    Routine.fail .enospc
  else do
    attempt .enomem
    updateInfo fun info => refreshExtentTreeV2Refs (withLeafExtents info leafIndex
      (extents.insertIdx (entryIndex + 1) e))

def allocExtentOverflowBlock : MapOp Unit := do
  let s ← Routine.read
  if s.info.extentOverflowBlock ≠ 0 then pure ()
  else do
    let block ← allocBlockGoal s.info.hints.allocHintBlock s.info.hints.allocGoalGroup
    zeroOrFree block
    updateInfo fun info => { info with extentOverflowBlock := block }

def appendExtentEntry (logical physical : Nat) : MapOp Unit := do
  let s ← Routine.read
  if extentTreeV2Inode s.info then appendExtentEntryV2 logical physical
  else if s.info.extents.length < s.info.extentInlineMax then
    updateInfo fun info => { info with
      extents := info.extents ++ [singleExtent logical physical] }
  else if EXTENTS_PER_BLOCK ≤ s.info.overflowExtents.length then Routine.fail .enospc
  else do
    allocExtentOverflowBlock
    attempt .enomem
    updateInfo fun info => { info with
      overflowExtents := info.overflowExtents ++ [singleExtent logical physical] }

/-- The block when the last extent could be extended by it. -/
def tryMergeLastExtent (logical : Nat) : MapOp (Option Nat) := do
  let s ← Routine.read
  let entries := extentEntries s.info
  match entries.getLast? with
  | none => return none
  | some last =>
      if logical ≠ last.stop ∨ MAX_EXTENT_BLOCKS ≤ last.length then return none
      else do
        let goal := last.physicalStart + last.length
        let physical ← allocBlockGoal goal s.info.hints.allocGoalGroup
        if physical ≠ goal then do
          freeBlock physical
          return none
        else do
          zeroOrFree physical
          updateInfo fun info => modifyEntry info (entries.length - 1) Extent.grown
          updateAllocHint physical
          return some physical

/-- A data block for a block that has none, zeroed. -/
def newDataBlock : MapOp Nat := do
  let physical ← allocDataBlockForInode
  zeroOrFree physical
  return physical

def resolveExtent (logical : Nat) (create : Bool) : MapOp Nat := do
  let s ← Routine.read
  if extentFileBlocksMax s.info ≤ logical then Routine.fail .efbig
  else
    match Extent.lookup (extentEntries s.info) logical with
    | some block => return block
    | none =>
        if create = false then return 0
        else do
          match ← tryMergeLastExtent logical with
          | some physical => return physical
          | none => do
              let physical ← newDataBlock
              (appendExtentEntry logical physical).onFailure fun _ => freeBlock physical
              updateAllocHint physical
              return physical

def indirectEntry (index : Nat) : Field := ⟨8 * index, 8⟩

def resolveDirect (logical : Nat) (create : Bool) : MapOp Nat := do
  let s ← Routine.read
  if s.info.direct logical = 0 ∧ create then do
    let physical ← newDataBlock
    updateInfo fun info => { info with direct := store info.direct logical physical }
    updateAllocHint physical
    return physical
  else return s.info.direct logical

/-- The indirect block allocated on demand. Its buffer is cleared without a look at whether the
block could be read. -/
def newIndirectBlock : MapOp Unit := do
  let s ← Routine.read
  let physical ← allocBlockGoal s.info.hints.allocHintBlock s.info.hints.allocGoalGroup
  zeroOrFree physical
  updateInfo fun info => { info with indirectBlock := physical }

/-- `entries[index] = block` in the buffer of the indirect block. -/
def setIndirectEntry (index block : Nat) : MapOp Unit :=
  Routine.modify fun s =>
    { s with
      buffers := store s.buffers s.info.indirectBlock
        ((s.buffers s.info.indirectBlock).set (indirectEntry index) block) }

def resolveIndirectEntry (index : Nat) (create : Bool) : MapOp Nat := do
  attempt .eio
  let s ← Routine.read
  let physical := (s.buffers s.info.indirectBlock).get (indirectEntry index)
  if physical = 0 ∧ create then do
    let physical ← newDataBlock
    setIndirectEntry index physical
    updateAllocHint physical
    return physical
  else return physical

/-- `cryexts_resolve_block`; block 0 is a hole. -/
def resolveBlock (logical : Nat) (create : Bool) : MapOp Nat := do
  let s ← Routine.read
  if s.info.useExtents then resolveExtent logical create
  else if FILE_BLOCKS_MAX ≤ logical then Routine.fail .efbig
  else if logical < DIRECT_BLOCKS then resolveDirect logical create
  else if s.info.indirectBlock = 0 then
    if create = false then return 0
    else do
      newIndirectBlock
      resolveIndirectEntry (logical - DIRECT_BLOCKS) create
  else resolveIndirectEntry (logical - DIRECT_BLOCKS) create

end Inode

end Cryexts
