import Cryexts.Checksum
import Cryexts.Lib.Routine
import Cryexts.Lib.WriteLog

set_option autoImplicit false

namespace Cryexts

open WriteLog (store applyWrites)

inductive Errno
  | eio | enomem | einval | enospc | euclean | eopnotsupp
  | enoent | eexist | enametoolong | enotempty | enotdir | eisdir | efbig
  | eacces | eperm | ebusy | erange | enodata
  deriving DecidableEq, Repr

/-- The members of `struct cryexts_sb_info` that the journal and the metadata
writers use. `journal_home_blocks` and `journal_entry_count` are one list. -/
structure SbInfo where
  groupDescTableStart : Nat
  groupDescTableBlocks : Nat
  groupCount : Nat
  blocksPerGroup : Nat
  inodesPerGroup : Nat
  journalBlock : Nat
  journalBlocks : Nat
  nextIno : Nat
  nextDataBlock : Nat
  journalSequence : Nat
  journalLastSequence : Nat
  journalActiveSequence : Nat
  journalTailSequence : Nat
  journalCheckpointSequence : Nat
  journalRingHead : Nat
  journalRingTail : Nat
  journalEnabled : Bool
  journalV2 : Bool
  journalV3 : Bool
  journalRing : Bool
  journalReplaying : Bool
  journalError : Option Errno
  journalHomeBlocks : List Nat
  gdtStorage : Nat → UInt8

/-- One mounted device. `cache` holds the buffers (`disk_sb` points into buffer 0),
`log` every block write that has reached the device, in order, over the content
`base` had at mount. `faults` decides the coming fallible calls; once it is
empty nothing fails. -/
structure World where
  sbi : SbInfo
  cache : Nat → Block
  dirty : Nat → Bool
  uptodate : Nat → Bool
  base : Nat → Block
  log : List (Nat × Block)
  size : Nat
  faults : List Bool

abbrev Kernel (α : Type) : Type := Routine World Errno α

namespace World

/-- The device as it stands. -/
def disk (w : World) : Nat → Block := applyWrites w.base w.log

/-- The device after the first `count` writes and a crash. -/
def crashAt (w : World) (count : Nat) : Nat → Block := applyWrites w.base (w.log.take count)

/-- A member of `disk_sb`. -/
def super (w : World) (field : ByteBuf.Field) : Nat := (w.cache 0).get field

/-- A buffer changed in memory and marked dirty. -/
def dirtyBuffer (w : World) (block : Nat) (content : Block) : World :=
  { w with cache := store w.cache block content, dirty := store w.dirty block true }

/-- No call fails any more and every buffer agrees with what was last put in it. -/
structure Healthy (w : World) : Prop where
  noFaults : w.faults = []
  current : w.uptodate = fun _ => true

end World

/-- Whether the next fallible call fails. -/
def faulty : Kernel Bool := fun w =>
  match w.faults with
  | [] => (.ok false, w)
  | fault :: rest => (.ok fault, { w with faults := rest })

def kmalloc : Kernel Unit := do
  if ← faulty then Routine.fail .enomem

/-- `cryexts_read_file_block`: `sb_bread` reads the device again when an earlier
write of the buffer failed. -/
def readFileBlock (block : Nat) : Kernel Block := do
  if ← faulty then Routine.fail .eio
  else do
    let w ← Routine.read
    if w.size ≤ block then Routine.fail .eio
    else if w.uptodate block then return w.cache block
    else do
      Routine.modify fun w =>
        { w with cache := store w.cache block (w.disk block)
                 uptodate := store w.uptodate block true }
      return w.disk block

/-- `cryexts_write_file_block`. -/
def writeFileBlock (block : Nat) (content : Block) : Kernel Unit := do
  if ← faulty then Routine.fail .eio
  else do
    let w ← Routine.read
    if w.size ≤ block then Routine.fail .eio
    else Routine.modify fun w =>
      { w.dirtyBuffer block content with uptodate := store w.uptodate block true }

/-- `sync_dirty_buffer`: a clean buffer is not written; a failed write leaves it
clean and out of date. -/
def syncDirtyBuffer (block : Nat) : Kernel Unit := do
  let w ← Routine.read
  if w.dirty block then do
    if ← faulty then do
      Routine.modify fun w =>
        { w with dirty := store w.dirty block false
                 uptodate := store w.uptodate block false }
      Routine.fail .eio
    else Routine.modify fun w =>
      { w with dirty := store w.dirty block false
               uptodate := store w.uptodate block true
               log := w.log ++ [(block, w.cache block)] }

/-- `cryexts_sync_single_block`. -/
def syncSingleBlock (block : Nat) : Kernel Unit := do
  let w ← Routine.read
  if w.size ≤ block then Routine.fail .eio
  else syncDirtyBuffer block

/-- `sync_blockdev`: every dirty buffer of the device, in block order. -/
def syncBlockdev : Kernel Unit := do
  let w ← Routine.read
  (List.range w.size).forM syncDirtyBuffer

/-- `cryexts_journal_v3_write_sync`. -/
def journalV3WriteSync (block : Nat) (content : Block) : Kernel Unit := do
  writeFileBlock block content
  syncSingleBlock block

namespace World

section DirtyBuffer

variable (w : World) (block : Nat) (content : Block)

@[simp] theorem dirtyBuffer_cache :
    (w.dirtyBuffer block content).cache = store w.cache block content := rfl

@[simp] theorem dirtyBuffer_sbi : (w.dirtyBuffer block content).sbi = w.sbi := rfl

end DirtyBuffer

/-- A block written through to the device. -/
def written (w : World) (block : Nat) (content : Block) : World :=
  { w with cache := store w.cache block content
           dirty := store w.dirty block false
           log := w.log ++ [(block, content)] }

def writtenAll (w : World) (writes : List (Nat × Block)) : World :=
  writes.foldl (fun current write => current.written write.1 write.2) w

@[simp] theorem writtenAll_nil (w : World) : w.writtenAll [] = w := rfl

@[simp] theorem writtenAll_cons (w : World) (write : Nat × Block) (rest : List (Nat × Block)) :
    w.writtenAll (write :: rest) = (w.written write.1 write.2).writtenAll rest := rfl

theorem writtenAll_append (w : World) (first second : List (Nat × Block)) :
    w.writtenAll (first ++ second) = (w.writtenAll first).writtenAll second := by
  simp only [writtenAll, List.foldl_append]

@[simp] theorem writtenAll_cache (w : World) (writes : List (Nat × Block)) :
    (w.writtenAll writes).cache = applyWrites w.cache writes := by
  induction writes generalizing w with
  | nil => rfl
  | cons write rest ih => exact ih (w.written write.1 write.2)

@[simp] theorem writtenAll_log (w : World) (writes : List (Nat × Block)) :
    (w.writtenAll writes).log = w.log ++ writes := by
  induction writes generalizing w with
  | nil => simp
  | cons write rest ih =>
      rw [writtenAll_cons, ih]
      simp only [written, List.append_assoc, List.singleton_append]

@[simp] theorem writtenAll_sbi (w : World) (writes : List (Nat × Block)) :
    (w.writtenAll writes).sbi = w.sbi := by
  induction writes generalizing w with
  | nil => rfl
  | cons write rest ih => exact ih (w.written write.1 write.2)

@[simp] theorem writtenAll_base (w : World) (writes : List (Nat × Block)) :
    (w.writtenAll writes).base = w.base := by
  induction writes generalizing w with
  | nil => rfl
  | cons write rest ih => exact ih (w.written write.1 write.2)

@[simp] theorem writtenAll_size (w : World) (writes : List (Nat × Block)) :
    (w.writtenAll writes).size = w.size := by
  induction writes generalizing w with
  | nil => rfl
  | cons write rest ih => exact ih (w.written write.1 write.2)

theorem writtenAll_with_sbi (w : World) (writes : List (Nat × Block)) (sbi : SbInfo) :
    ({ w with sbi := sbi } : World).writtenAll writes =
      { w.writtenAll writes with sbi := sbi } := by
  induction writes generalizing w with
  | nil => rfl
  | cons write rest ih => exact ih (w.written write.1 write.2)

theorem written_healthy (w : World) (block : Nat) (content : Block) (healthy : w.Healthy) :
    (w.written block content).Healthy := ⟨healthy.noFaults, healthy.current⟩

theorem writtenAll_healthy (w : World) (writes : List (Nat × Block)) (healthy : w.Healthy) :
    (w.writtenAll writes).Healthy := by
  induction writes generalizing w with
  | nil => exact healthy
  | cons write rest ih => exact ih _ ⟨healthy.noFaults, healthy.current⟩

theorem writtenAll_disk (w : World) (writes : List (Nat × Block)) :
    (w.writtenAll writes).disk = applyWrites w.disk writes := by
  simp only [disk, writtenAll_base, writtenAll_log, WriteLog.applyWrites_append]

/-- A block a list of writes covers is clean after it, the others stay as they were. -/
theorem writtenAll_dirty (w : World) (writes : List (Nat × Block)) (block : Nat) :
    (w.writtenAll writes).dirty block =
      if block ∈ writes.map Prod.fst then false else w.dirty block := by
  induction writes generalizing w with
  | nil => simp
  | cons write rest ih =>
      rw [writtenAll_cons, ih]
      by_cases later : block ∈ rest.map Prod.fst
      · simp [later]
      · by_cases here : block = write.1
        · simp [here, written]
        · simp [later, here, written, WriteLog.store_other]

end World

section Healthy

variable (w : World) (healthy : w.Healthy)
include healthy

theorem kmalloc_run : kmalloc w = (.ok (), w) := by
  have quiet : faulty w = (.ok false, w) := by simp [faulty, healthy.noFaults]
  rw [kmalloc, Routine.bind_ok _ _ _ _ _ quiet]
  rfl

theorem readFileBlock_run (block : Nat) (inside : block < w.size) :
    readFileBlock block w = (.ok (w.cache block), w) := by
  have quiet : faulty w = (.ok false, w) := by simp [faulty, healthy.noFaults]
  have current : w.uptodate block = true := by rw [healthy.current]
  rw [readFileBlock, Routine.bind_ok _ _ _ _ _ quiet]
  simp [Nat.not_le.mpr inside, current]

theorem syncSingleBlock_run (block : Nat) (inside : block < w.size)
    (pending : w.dirty block = true) :
    syncSingleBlock block w = (.ok (),
      { w with dirty := store w.dirty block false
               log := w.log ++ [(block, w.cache block)] }) := by
  have quiet : faulty w = (.ok false, w) := by simp [faulty, healthy.noFaults]
  have current : store w.uptodate block true = w.uptodate :=
    WriteLog.store_eq_self _ _ _ (by rw [healthy.current])
  simp only [syncSingleBlock, Routine.read_bind, Nat.not_le.mpr inside, ↓reduceIte,
    syncDirtyBuffer, pending]
  rw [Routine.bind_ok _ _ _ _ _ quiet]
  simp [current]

theorem journalV3WriteSync_run (block : Nat) (content : Block) (inside : block < w.size) :
    journalV3WriteSync block content w = (.ok (), w.written block content) := by
  have quiet : faulty w = (.ok false, w) := by simp [faulty, healthy.noFaults]
  have current : store w.uptodate block true = w.uptodate :=
    WriteLog.store_eq_self _ _ _ (by rw [healthy.current])
  have put : writeFileBlock block content w = (.ok (), w.dirtyBuffer block content) := by
    rw [writeFileBlock, Routine.bind_ok _ _ _ _ _ quiet]
    simp [Nat.not_le.mpr inside, current, World.dirtyBuffer]
  have after : (w.dirtyBuffer block content).Healthy := ⟨healthy.noFaults, healthy.current⟩
  rw [journalV3WriteSync, Routine.bind_ok _ _ _ _ _ put,
    syncSingleBlock_run _ after block inside (by simp [World.dirtyBuffer])]
  have clean : store (store w.dirty block true) block false = store w.dirty block false := by
    funext index
    by_cases here : index = block
    · simp [here]
    · simp [here, WriteLog.store_other]
  simp [World.dirtyBuffer, World.written, clean]

variable {β : Type}

theorem kmalloc_bind (next : Unit → Kernel β) : (kmalloc >>= next) w = next () w :=
  Routine.bind_ok _ _ _ _ _ (kmalloc_run w healthy)

theorem readFileBlock_bind (next : Block → Kernel β) (block : Nat) (inside : block < w.size) :
    (readFileBlock block >>= next) w = next (w.cache block) w :=
  Routine.bind_ok _ _ _ _ _ (readFileBlock_run w healthy block inside)

theorem writeSync_bind (next : Unit → Kernel β) (block : Nat) (content : Block)
    (inside : block < w.size) :
    (journalV3WriteSync block content >>= next) w = next () (w.written block content) :=
  Routine.bind_ok _ _ _ _ _ (journalV3WriteSync_run w healthy block content inside)

end Healthy

end Cryexts
