import Cryexts.Balloc.Run
import Cryexts.Dir.FiniteMap
import Cryexts.Inode.Release
import Cryexts.Xattr.Handlers

set_option autoImplicit false

namespace Cryexts

namespace Namei

open Balloc (Allocator)
open Dir (DirEntry DirOp DirState DirSuper)
open WriteLog (store)

def S_IFREG : Nat := 0x8000
def S_IFDIR : Nat := 0x4000
def S_IFLNK : Nat := 0xA000

/-- The inodes in memory with their slots in the inode table, which are the allocator's, and the
directories. An inode that is not in memory is kept as its slot would load it. -/
structure NameState where
  allocator : Allocator
  mode : Nat → Nat
  nlink : Nat → Nat
  dirs : Nat → DirState

/-- Where a call asks the rest of the kernel or the block layer. `newInode` and `insert` are the
two allocations of `cryexts_new_inode`, `target` is the inode that a name stands for. A rename
writes the inode that it moves and both directories, the inode that it replaces, and the
directories again with other link counts. -/
inductive Site
  | flush
  | begins
  | newInode
  | insert
  | writeNew
  | symlinkData
  | writeDir
  | writeTarget
  | orphanSet
  | release
  | orphanClear
  | parent (turns : Nat)
  | regain
  | writeOld
  | writeOldDir
  | writeNewDir
  | writeVictim
  | countOldDir
  | countNewDir
  | commits
  deriving DecidableEq

/-- Where a call reads or changes a directory. -/
inductive DirSite
  | climb (turns : Nat)
  | find
  | empty
  | findTarget
  | deleteTarget
  | init
  | add
  | move
  | delete
  | moveBack
  | undo
  | restore
  deriving DecidableEq

/-- The storage of the inode that a call gives back: the mapping that `cryexts_free_blocks_from`
walks, with the buffers and the faults that it meets, and what `cryexts_free_xattr_storage` finds
in the block of the attributes. -/
structure Storage where
  info : Inode.InodeInfo
  buffers : Nat → Block
  faults : List Bool
  attributeBlock : Block
  attributes : Xattr.Outcomes

/-- The answers a call gets: the error of a site, the blocks and faults a directory meets, where
`cryexts_mkdir` looks for a block, whether `cryexts_free_inode` can read the inode, and the storage
of the one inode that it may release. -/
structure Answers where
  outcome : Site → Option Errno
  grants : DirSite → List (Option (Nat × Block))
  faults : DirSite → List Bool
  goalBlock : Nat
  goalGroup : Nat
  found : Bool
  storage : Storage

abbrev NameOp (α : Type) : Type := Routine NameState Errno α

section Inodes

/-- `cryexts_file_type`. -/
def fileType (mode : Nat) : Nat :=
  if Inode.sIsDir mode then Dir.FT_DIR
  else if Inode.sIsReg mode then Dir.FT_REG_FILE
  else if Inode.sIsLnk mode then Dir.FT_SYMLINK
  else Dir.FT_UNKNOWN

/-- The inode with another link count. -/
def NameState.counted (s : NameState) (ino count : Nat) : NameState :=
  { s with nlink := store s.nlink ino count }

/-- `inc_nlink`. -/
def incNlink (ino : Nat) : NameOp Unit :=
  Routine.modify fun s => s.counted ino (u32 (s.nlink ino + 1))

/-- `drop_nlink`. -/
def dropNlink (ino : Nat) : NameOp Unit :=
  Routine.modify fun s => s.counted ino (Balloc.u32Sub (s.nlink ino) 1)

/-- `clear_nlink`. -/
def clearNlink (ino : Nat) : NameOp Unit := Routine.modify fun s => s.counted ino 0

/-- The inode's slot after `cryexts_write_inode_to_disk`. -/
def NameState.written (s : NameState) (ino : Nat) : NameState :=
  { s with allocator := { s.allocator with
      inodeTable := store s.allocator.inodeTable ino
        (((s.allocator.inodeTable ino).set DiskInode.mode (s.mode ino)).set DiskInode.linksCount
          (s.nlink ino)) } }

/-- The inode as `cryexts_iget` reads it from its slot. -/
def NameState.loaded (s : NameState) (ino : Nat) : NameState :=
  { s with
    mode := store s.mode ino ((s.allocator.inodeTable ino).get DiskInode.mode)
    nlink := store s.nlink ino ((s.allocator.inodeTable ino).get DiskInode.linksCount) }

/-- A call of the allocator. -/
def withAllocator {α : Type} (call : Routine Allocator Errno α) : NameOp α :=
  Routine.onPart NameState.allocator (fun s a => { s with allocator := a }) call

variable (o : Answers)

def writeInodeToDisk (site : Site) (ino : Nat) : NameOp Unit := do
  Routine.answer (o.outcome site)
  Routine.modify fun s => s.written ino

/-- `clear_nlink` and `discard_new_inode`: the inode leaves memory. -/
def discardNewInode (ino : Nat) : NameOp Unit := Routine.modify fun s => s.loaded ino

def freeInode (ino : Nat) : NameOp Unit := withAllocator (Balloc.freeInode ino o.found)

/-- `cryexts_inode_group_of`. -/
def inodeGroupOf (a : Allocator) (ino : Nat) : Nat :=
  if Balloc.hasBlockGroups a = false ∨ a.inodesPerGroup = 0 ∨ ino < ROOT_INO then Balloc.U64_MAX
  else Balloc.divU64 (ino - 1) a.inodesPerGroup

/-- A new inode in memory; a directory gets its first block with `cryexts_init_dir_block`. -/
def NameState.started (s : NameState) (ino mode : Nat) : NameState :=
  { s with
    mode := store s.mode ino mode
    nlink := store s.nlink ino (if Inode.sIsDir mode then 2 else 1)
    dirs := store s.dirs ino ⟨[], none, [], []⟩ }

def newInode (dir mode : Nat) : NameOp Nat := do
  let s ← Routine.read
  let ino ← withAllocator (Balloc.allocInodeGoal (inodeGroupOf s.allocator dir))
  Routine.onFailure (do
    Routine.answer (o.outcome .newInode)
    Routine.answer (o.outcome .insert)
    Routine.modify fun s => s.started ino mode
    Routine.onFailure (writeInodeToDisk o .writeNew ino) fun _ => discardNewInode ino
    pure ino)
    fun _ => freeInode o ino

/-- The inode in memory with its mapping. -/
def NameState.mapped (s : NameState) (storage : Storage) (ino : Nat) : Inode.MapState :=
  ⟨s.allocator, storage.buffers, storage.faults, [], s.mode ino, storage.info⟩

/-- The inode in memory with its extended attributes. -/
def NameState.attributed (s : NameState) (storage : Storage) : Xattr.XattrState where
  xattrBlock := storage.info.xattrBlock
  policyId := storage.info.encryptionPolicyId
  slotXattrBlock := storage.info.xattrBlock
  slotPolicyId := storage.info.encryptionPolicyId
  allocator := s.allocator
  buffers := fun _ => storage.attributeBlock

/-- The error of a step that makes no access outside its buffers. -/
def errno : Stop Errno → Errno
  | .fault => .eio
  | .error reason => reason

def freeBlocksFrom (ino : Nat) : NameOp Unit :=
  Routine.onPart (fun s => s.mapped o.storage ino) (fun s after => { s with
    allocator := after.allocator }) (Inode.freeBlocksFrom 0)

def freeXattrStorage : NameOp Unit :=
  Routine.onPart (fun s => s.attributed o.storage) (fun s after => { s with
    allocator := after.allocator }) ((Xattr.freeXattrStorage o.storage.attributes).mapError errno)

def releaseInodeStorage (ino : Nat) : NameOp Unit := do
  freeBlocksFrom o ino
  freeXattrStorage o
  writeInodeToDisk o .release ino

end Inodes

section Directories

variable (sb : DirSuper) (o : Answers)

def NameState.withDir (s : NameState) (dir : Nat) (state : DirState) : NameState :=
  { s with dirs := store s.dirs dir state }

/-- An operation on one directory with the answers of its site. -/
def onDir {α : Type} (site : DirSite) (dir : Nat) (op : DirOp α) : NameOp α :=
  Routine.onPart (fun s => { s.dirs dir with grants := o.grants site, faults := o.faults site })
    (fun s state => s.withDir dir state) op

/-- `cryexts_add_entry`, whose success has written the directory's inode. -/
def addEntry (site : DirSite) (dir : Nat) (name : List UInt8) (ino mode : Nat) : NameOp Unit := do
  onDir o site dir (Dir.addEntry sb name ino (fileType mode))
  Routine.modify fun s => s.written dir

/-- `cryexts_delete_entry`, whose success has written the directory's inode. -/
def deleteEntry (site : DirSite) (dir : Nat) (name : List UInt8) : NameOp Unit := do
  onDir o site dir (Dir.deleteEntry sb name)
  Routine.modify fun s => s.written dir

def DOT : List UInt8 := [46]
def DOTDOT : List UInt8 := [46, 46]

/-- A record that keeps a directory from being empty. -/
def DirEntry.keeps (de : DirEntry) : Bool := de.inode != 0 && de.name != DOT && de.name != DOTDOT

/-- `cryexts_dir_empty`, which takes a block that it cannot read for a full one. -/
def dirEmpty : DirOp Bool := fun s =>
  match Dir.searchBlocks sb 0 DirEntry.keeps 0 s.blocks s with
  | (.ok none, after) => (.ok true, after)
  | (_, after) => (.ok false, after)

/-- `cryexts_init_dir_block`. -/
def initDirBlock (ino parent : Nat) : DirOp Unit := do
  Dir.buffer
  Routine.modify fun s => { s with blocks := [Dir.dotBlock ino parent] }
  Dir.dirIndexRebuild sb

/-- The record found for a name. -/
def record (s : DirState) (place : Nat × Nat) : Option DirEntry :=
  (s.blocks.getD place.1 [])[place.2]?

/-- `cryexts_dir_parent_ino`. -/
def dirParentIno : DirOp Nat := do
  let place ← Dir.findEntry sb DOTDOT
  let s ← Routine.read
  pure (((record s place).map DirEntry.inode).getD 0)

def retarget (ino : Nat) (de : DirEntry) : DirEntry := { de with inode := ino }

/-- What `cryexts_update_dir_parent` does to the block of the entry. -/
def retargetEntry (parent : Nat) : DirOp Unit := do
  let place ← Dir.findEntry sb DOTDOT
  Routine.modify fun s => { s with
    blocks := s.blocks.modify place.1 fun records => records.modify place.2 (retarget parent) }
  Dir.buffer

def updateDirParent (site : DirSite) (dir parent : Nat) : NameOp Unit := do
  onDir o site dir (retargetEntry sb parent)
  Routine.modify fun s => s.written dir

/-- The loop of `cryexts_dir_has_ancestor` with the turns that are left. -/
def climb (ancestor : Nat) : Nat → Nat → NameOp Bool
  | 0, _ => Routine.fail .euclean
  | turns + 1, cursor =>
      if cursor = ancestor then pure true
      else if cursor = ROOT_INO then pure false
      else do
        let parent ← onDir o (.climb turns) cursor (dirParentIno sb)
        if parent = cursor then
          if parent = ancestor then Routine.fail .einval else pure false
        else do
          Routine.answer (o.outcome (.parent turns))
          climb ancestor turns parent

def dirHasAncestor (dir ancestor : Nat) : NameOp Bool :=
  climb sb o ancestor (u64 (sb.maxInodes + 1)) dir

end Directories

section Calls

variable (sb : DirSuper) (o : Answers)

def create (dir : Nat) (name : List UInt8) (mode : Nat) : NameOp Unit := do
  Routine.answer (o.outcome .begins)
  let ino ← newInode o dir (S_IFREG ||| mode)
  Routine.onFailure (addEntry sb o .add dir name ino (S_IFREG ||| mode))
    fun _ => discardNewInode ino
  Routine.answer (o.outcome .commits)

/-- The steps of `cryexts_mkdir` between the new inode and the commit. -/
def linkDir (dir : Nat) (name : List UInt8) (mode ino : Nat) : NameOp Unit := do
  onDir o .init ino (initDirBlock sb ino dir)
  addEntry sb o .add dir name ino mode
  incNlink dir
  writeInodeToDisk o .writeDir dir

def mkdir (dir : Nat) (name : List UInt8) (mode : Nat) : NameOp Unit := do
  Routine.answer (o.outcome .begins)
  let block ← withAllocator (Balloc.allocBlockGoal o.goalBlock o.goalGroup)
  match ← (newInode o dir (S_IFDIR ||| mode)).attempt with
  -- The label `fail_free_block` is reached with `err` still zero.
  | .error _ => (withAllocator (Balloc.freeBlock block)).ignored
  | .ok ino => do
      Routine.onFailure (linkDir sb o dir name (S_IFDIR ||| mode) ino) fun _ => do
        discardNewInode ino
        withAllocator (Balloc.freeBlock block)
      Routine.answer (o.outcome .commits)

def link (ino dir : Nat) (name : List UInt8) : NameOp Unit := do
  Routine.answer (o.outcome .begins)
  let s ← Routine.read
  Routine.require (Inode.sIsDir (s.mode ino) = false) .eperm
  addEntry sb o .add dir name ino (s.mode ino)
  incNlink ino
  Routine.onFailure (writeInodeToDisk o .writeTarget ino) fun _ => do
    (deleteEntry sb o .undo dir name).ignored
    dropNlink ino
  Routine.answer (o.outcome .commits)

/-- `cryexts_symlink_size_limit`. -/
def symlinkSizeLimit : Nat := Inode.FILE_BLOCKS_MAX * BLOCK_SIZE - 1

def symlink (dir : Nat) (name symname : List UInt8) : NameOp Unit := do
  Routine.answer (o.outcome .begins)
  Routine.require (symname ≠ []) .einval
  Routine.require (symname.length ≤ symlinkSizeLimit) .enametoolong
  let ino ← newInode o dir (S_IFLNK ||| 0o777)
  Routine.onFailure (do
    writeInodeToDisk o .symlinkData ino
    addEntry sb o .add dir name ino (S_IFLNK ||| 0o777))
    fun _ => do
      (releaseInodeStorage o ino).ignored
      (freeInode o ino).ignored
      discardNewInode ino
  Routine.answer (o.outcome .commits)

/-- `filemap_write_and_wait` of a file that may lose its last name. -/
def flushLast (ino : Nat) : NameOp Unit := do
  let s ← Routine.read
  if Inode.sIsReg (s.mode ino) = true ∧ s.nlink ino = 1 then Routine.answer (o.outcome .flush)
  else pure ()

/-- The storage of an inode without names, which is an orphan meanwhile. -/
def releaseOrphan (ino : Nat) : NameOp Unit := do
  Routine.answer (o.outcome .orphanSet)
  releaseInodeStorage o ino
  Routine.answer (o.outcome .orphanClear)

/-- The storage and the number of an inode without names are given back. -/
def dispose (ino : Nat) : NameOp Unit := do
  releaseOrphan o ino
  (freeInode o ino).ignored

/-- `cryexts_unlink` disposes of an inode that has no name left. -/
def disposeUnnamed (ino : Nat) : NameOp Unit := do
  let s ← Routine.read
  if s.nlink ino = 0 then dispose o ino else pure ()

def unlink (dir : Nat) (name : List UInt8) (ino : Nat) : NameOp Unit := do
  flushLast o ino
  Routine.answer (o.outcome .begins)
  deleteEntry sb o .delete dir name
  dropNlink ino
  writeInodeToDisk o .writeTarget ino
  disposeUnnamed o ino
  Routine.answer (o.outcome .commits)

def rmdir (dir : Nat) (name : List UInt8) (ino : Nat) : NameOp Unit := do
  Routine.answer (o.outcome .begins)
  let vacant ← onDir o .empty ino (dirEmpty sb)
  Routine.require (vacant = true) .enotempty
  deleteEntry sb o .delete dir name
  clearNlink ino
  dropNlink dir
  (writeInodeToDisk o .writeTarget ino).ignored
  (writeInodeToDisk o .writeDir dir).ignored
  dispose o ino
  Routine.answer (o.outcome .commits)

end Calls

section Rename

variable (sb : DirSuper) (o : Answers)

/-- The two places of a rename, the inode that moves and the one whose name it takes. -/
structure RenameCall where
  oldDir : Nat
  oldName : List UInt8
  oldInode : Option Nat
  newDir : Nat
  newName : List UInt8
  newInode : Option Nat
  flags : Nat

variable (call : RenameCall)

/-- The flush of a target that may lose its last name. -/
def flushVictim : NameOp Unit :=
  match call.newInode with
  | none => pure ()
  | some victim => flushLast o victim

/-- A directory is not moved below itself. -/
def refuseBelow (old : Nat) : NameOp Unit := do
  let s ← Routine.read
  if Inode.sIsDir (s.mode old) then do
    let above ← dirHasAncestor sb o call.newDir old
    Routine.require (above = false) .einval
  else pure ()

/-- A directory is only replaced when it is empty. -/
def requireVacant (victim : Nat) : NameOp Unit := do
  let s ← Routine.read
  if Inode.sIsDir (s.mode victim) then do
    let vacant ← onDir o .empty victim (dirEmpty sb)
    Routine.require (vacant = true) .enotempty
  else pure ()

/-- The checks of a target, with the second lookup. -/
def checkVictim (old victim : Nat) : NameOp Unit := do
  let s ← Routine.read
  Routine.require (¬ (Inode.sIsDir (s.mode old) = true ∧ Inode.sIsDir (s.mode victim) = false))
    .enotdir
  Routine.require (¬ (Inode.sIsDir (s.mode old) = false ∧ Inode.sIsDir (s.mode victim) = true))
    .eisdir
  requireVacant sb o victim
  match ← (onDir o .findTarget call.newDir (Dir.findEntry sb call.newName)).attempt with
  | .ok _ => pure ()
  | .error reason => Routine.require (reason = .enoent) reason

/-- The name of the target goes, with its share in the parent's link count. -/
def removeVictim (victim : Nat) : NameOp Unit := do
  deleteEntry sb o .deleteTarget call.newDir call.newName
  let s ← Routine.read
  if Inode.sIsDir (s.mode victim) then dropNlink call.newDir else pure ()

def clearTarget (old : Nat) : NameOp Unit :=
  match call.newInode with
  | none => pure ()
  | some victim => do
      checkVictim sb o call old victim
      removeVictim sb o call victim

/-- The parent of a directory target gets its share back. -/
def regainCount (victim : Nat) : NameOp Unit := do
  let s ← Routine.read
  if Inode.sIsDir (s.mode victim) then do
    incNlink call.newDir
    (writeInodeToDisk o .regain call.newDir).ignored
  else pure ()

/-- The label `restore_target`. -/
def restoreTarget : NameOp Unit :=
  match call.newInode with
  | none => pure ()
  | some victim => do
      regainCount o call victim
      let s ← Routine.read
      (addEntry sb o .restore call.newDir call.newName victim (s.mode victim)).ignored

/-- A directory that goes to another parent. -/
def moves (s : NameState) (old : Nat) : Prop :=
  Inode.sIsDir (s.mode old) = true ∧ call.oldDir ≠ call.newDir

instance (s : NameState) (old : Nat) : Decidable (moves call s old) :=
  inferInstanceAs (Decidable (_ ∧ _))

/-- The parent of a directory that goes to another one. -/
def moveParent (old : Nat) : NameOp Unit := do
  let s ← Routine.read
  if moves call s old then
    Routine.onFailure (updateDirParent sb o .move old call.newDir) fun _ =>
      (deleteEntry sb o .undo call.newDir call.newName).ignored
  else pure ()

/-- The old parent comes back before the new entry goes. -/
def moveBack (old : Nat) : NameOp Unit := do
  let s ← Routine.read
  if moves call s old then updateDirParent sb o .moveBack old call.oldDir else pure ()

/-- The entry goes from its old place to its new one. -/
def moveEntry (old : Nat) : NameOp Unit := do
  let s ← Routine.read
  addEntry sb o .add call.newDir call.newName old (s.mode old)
  moveParent sb o call old
  Routine.onFailure (deleteEntry sb o .delete call.oldDir call.oldName) fun _ => do
    (moveBack sb o call old).ignored
    (deleteEntry sb o .undo call.newDir call.newName).ignored

/-- The target without the name that it has lost. A release that fails is only warned of. -/
def dropVictim (victim : Nat) : NameOp Unit := do
  dropNlink victim
  (writeInodeToDisk o .writeVictim victim).ignored
  let s ← Routine.read
  if s.nlink victim = 0 then do
    (releaseOrphan o victim).ignored
    (freeInode o victim).ignored
  else pure ()

def releaseVictim : NameOp Unit :=
  match call.newInode with
  | none => pure ()
  | some victim => dropVictim o victim

/-- The inodes of the rename are written; `new_dir` again if it is another one. -/
def writeRenamed (old : Nat) : NameOp Unit := do
  (writeInodeToDisk o .writeOld old).ignored
  (writeInodeToDisk o .writeOldDir call.oldDir).ignored
  if call.oldDir ≠ call.newDir then (writeInodeToDisk o .writeNewDir call.newDir).ignored
  else pure ()

/-- A directory takes its share of the link count with it. -/
def moveCount (old : Nat) : NameOp Unit := do
  let s ← Routine.read
  if moves call s old then do
    dropNlink call.oldDir
    incNlink call.newDir
    (writeInodeToDisk o .countOldDir call.oldDir).ignored
    (writeInodeToDisk o .countNewDir call.newDir).ignored
  else pure ()

/-- The steps of `cryexts_rename` behind its first checks. -/
def replace (old : Nat) : NameOp Unit := do
  Routine.require (call.oldName.length ≤ Dir.NAME_LEN ∧ call.newName.length ≤ Dir.NAME_LEN)
    .enametoolong
  refuseBelow sb o call old
  let _ ← onDir o .find call.oldDir (Dir.findEntry sb call.oldName)
  clearTarget sb o call old
  Routine.onFailure (moveEntry sb o call old) fun _ => restoreTarget sb o call
  writeRenamed o call old
  releaseVictim o call
  moveCount o call old
  Routine.answer (o.outcome .commits)

def rename : NameOp Unit := do
  flushVictim o call
  Routine.answer (o.outcome .begins)
  Routine.require (call.flags = 0) .einval
  match call.oldInode with
  | none => Routine.fail .enoent
  | some old =>
      if call.oldDir = call.newDir ∧ call.oldName = call.newName then pure ()
      else replace sb o call old

end Rename

end Namei

end Cryexts
