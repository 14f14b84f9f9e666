import Cryexts.Dir.Index
import Cryexts.Lib.Routine

set_option autoImplicit false

namespace Cryexts

namespace Dir

/-- One directory in memory: its data blocks, `dir_index_block` with what that block holds, and
the coming answers of the allocator and of the block layer. The flag `DIR_INDEX` is set exactly
when there is an index block. An allocator answer is a block with the content it had before;
with no answer left the allocator is out of space, and with no fault left nothing fails. -/
structure DirState where
  blocks : List (List DirEntry)
  index : Option (Nat × Block)
  grants : List (Option (Nat × Block))
  faults : List Bool

abbrev DirOp (α : Type) : Type := Routine DirState Errno α

/-- A buffer that may not be readable: `sb_bread`, `sb_getblk`, or the inode's own block in
`cryexts_write_inode_to_disk`. -/
def buffer : DirOp Unit := fun s =>
  match s.faults with
  | [] => (.ok (), s)
  | true :: rest => (.error .eio, { s with faults := rest })
  | false :: rest => (.ok (), { s with faults := rest })

/-- `cryexts_alloc_block_goal`. -/
def grant : DirOp (Nat × Block) := fun s =>
  match s.grants with
  | [] => (.error .enospc, s)
  | none :: rest => (.error .enospc, { s with grants := rest })
  | some given :: rest => (.ok given, { s with grants := rest })

section Ops

variable (sb : DirSuper)

def dirIndexLoad : DirOp IndexBuf := do
  let s ← Routine.read
  match s.index with
  | none => Routine.fail .enoent
  | some (block, content) => do
      buffer
      match decodeIndex sb block content with
      | .ok index => pure index
      | .error reason => Routine.fail reason

def dirIndexStore (index : IndexBuf) : DirOp Unit := do
  let s ← Routine.read
  match s.index with
  | none => Routine.fail .enoent
  | some (block, _) => do
      buffer
      Routine.modify fun s => { s with index := some (block, encodeIndex sb block index) }

/-- The new index block keeps what it held before. -/
def dirIndexEnsure : DirOp Unit := do
  let s ← Routine.read
  if sb.dirIndex = false ∨ s.index.isSome then pure ()
  else do
    let given ← grant
    Routine.modify fun s => { s with index := some given }

/-- The loop of `cryexts_dir_index_rebuild` over the records of every block. -/
def checkBlocks : List (List DirEntry) → DirOp Unit
  | [] => pure ()
  | records :: rest => do
      buffer
      match walk sb.maxInodes (fun _ => false) 0 records with
      | .error reason => Routine.fail reason
      | .ok _ => checkBlocks rest

def dirIndexRebuild : DirOp Unit :=
  if sb.dirIndex = false then pure ()
  else do
    dirIndexEnsure sb
    let s ← Routine.read
    checkBlocks sb s.blocks
    dirIndexStore sb (rebuiltIndex sb s.blocks)
    buffer

/-- The loaded index with one more name in a block. -/
def indexWithName (blocks logical : Nat) (name : List UInt8) (index : IndexBuf) : IndexBuf :=
  ((addMask index (bucketOf sb name) logical).set Index.dirBlocks blocks).set Index.entries
    (index.get Index.entries + 1)

def dirIndexAddName (name : List UInt8) (logical : Nat) : DirOp Unit :=
  if sb.dirIndex = false then pure ()
  else if DIRECT_BLOCKS ≤ logical then dirIndexRebuild sb
  else do
    dirIndexEnsure sb
    Routine.orElse (do
      let index ← dirIndexLoad sb
      let s ← Routine.read
      dirIndexStore sb (indexWithName sb s.blocks.length logical name index))
      (dirIndexRebuild sb)

/-- The loaded index with one name less in a block, which may still hold others of its bucket. -/
def indexWithoutName (blocks logical : Nat) (name : List UInt8) (stillInBlock : Bool)
    (index : IndexBuf) : IndexBuf :=
  ((if stillInBlock then index else dropMask index (bucketOf sb name) logical).set
    Index.dirBlocks blocks).set Index.entries (index.get Index.entries - 1)

def dirIndexRemoveName (name : List UInt8) (logical : Nat) : DirOp Unit :=
  if sb.dirIndex = false then pure ()
  else if DIRECT_BLOCKS ≤ logical then dirIndexRebuild sb
  else Routine.orElse (do
    let index ← dirIndexLoad sb
    let s ← Routine.read
    match walk sb.maxInodes (fun de => de.live && bucketOf sb de.name == bucketOf sb name) 0
        (s.blocks.getD logical []) with
    | .error reason => Routine.fail reason
    | .ok found =>
        dirIndexStore sb (indexWithoutName sb s.blocks.length logical name found.isSome index))
    (dirIndexRebuild sb)

/-- `candidate_mask` of `cryexts_find_entry`. -/
def candidateMask (name : List UInt8) : DirOp Nat :=
  Routine.orElse (do
    let index ← dirIndexLoad sb
    pure (index.get (Index.blockMask (bucketOf sb name))))
    (pure 0)

def DirEntry.named (name : List UInt8) (de : DirEntry) : Bool := de.inode != 0 && de.name == name

/-- The first record of the blocks from `logical` on that a walk chooses; a nonzero mask skips the
blocks without a bit. -/
def searchBlocks (mask : Nat) (chosen : DirEntry → Bool) :
    Nat → List (List DirEntry) → DirOp (Option (Nat × Nat))
  | _, [] => pure none
  | logical, records :: rest =>
      if mask ≠ 0 ∧ mask.testBit logical = false then
        searchBlocks mask chosen (logical + 1) rest
      else do
        buffer
        match walk sb.maxInodes chosen 0 records with
        | .error reason => Routine.fail reason
        | .ok (some position) => pure (some (logical, position))
        | .ok none => searchBlocks mask chosen (logical + 1) rest

/-- The block and the record of an entry. -/
def findEntry (name : List UInt8) : DirOp (Nat × Nat) := do
  let s ← Routine.read
  if s.blocks = [] then Routine.fail .enoent
  else do
    let mask ← candidateMask sb name
    match ← searchBlocks sb mask (DirEntry.named name) 0 s.blocks with
    | some found => pure found
    | none => Routine.fail .enoent

/-- `write_entry` of `cryexts_add_entry`. -/
def writeEntry (name : List UInt8) (ino fileType logical position : Nat) : DirOp Unit := do
  Routine.modify fun s => { s with
    blocks := s.blocks.modify logical fun records => place ino fileType name records position }
  buffer
  dirIndexAddName sb name logical

/-- The lookup that opens `cryexts_add_entry`. -/
def requireAbsent (name : List UInt8) : DirOp Unit := fun s =>
  match findEntry sb name s with
  | (.ok _, after) => (.error .eexist, after)
  | (.error reason, after) => if reason = .enoent then (.ok (), after) else (.error reason, after)

def addEntry (name : List UInt8) (ino fileType : Nat) : DirOp Unit := do
  Routine.require (name.length ≤ NAME_LEN) .enametoolong
  requireAbsent sb name
  let s ← Routine.read
  match ← searchBlocks sb 0 (fits (dirRecLen name.length)) 0 s.blocks with
  | some (logical, position) => writeEntry sb name ino fileType logical position
  | none => do
      Routine.require (s.blocks.length < DIRECT_BLOCKS) .enospc
      let _ ← grant
      buffer
      Routine.modify fun s => { s with blocks := s.blocks ++ [freshBlock] }
      writeEntry sb name ino fileType s.blocks.length 0

/-- The blocks of a directory are distinct, so the block found is the one at `logical`. -/
def deleteEntry (name : List UInt8) : DirOp Unit := do
  let (logical, position) ← findEntry sb name
  Routine.modify fun s => { s with
    blocks := s.blocks.modify logical fun records => records.modify position DirEntry.cleared }
  buffer
  dirIndexRemoveName sb name logical

end Ops

end Dir

end Cryexts
