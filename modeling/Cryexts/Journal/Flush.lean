import Cryexts.Journal.RingRun
import Cryexts.Journal.Barrier

set_option autoImplicit false

namespace Cryexts

open WriteLog (store applyWrites)

/-- The blocks of the bitmaps a mount holds, `block_bitmap_bh` and `inode_bitmap_bh` or those
of all groups. -/
def bitmapBlocks (w : World) : List Nat :=
  let member (offset group : Nat) : Nat :=
    ByteBuf.readLE w.sbi.gdtStorage (GROUP_DESC_SIZE * group + offset) 8
  if w.super Super.featuresIncompat &&& FEATURE_INCOMPAT_BLOCK_GROUPS = 0 ∨ w.sbi.groupCount ≤ 1
  then [w.super Super.blockBitmapBlock, w.super Super.inodeBitmapBlock]
  else (List.range w.sbi.groupCount).map (member GroupDesc.blockBitmapBlock) ++
    (List.range w.sbi.groupCount).map (member GroupDesc.inodeBitmapBlock)

/-- The buffers of the group descriptor table marked dirty and written, one by one. -/
def syncGroupTable (blocks : List Nat) : Kernel Unit :=
  blocks.forM fun block => do
    Routine.modify fun w => { w with dirty := store w.dirty block true }
    syncDirtyBuffer block

/-- The superblock checksum, brought up to date and marked dirty. -/
def refreshSuperChecksum (w : World) : World :=
  if metadataCsumEnabled (w.cache 0) then w.dirtyBuffer 0 (updateSuperChecksum (w.cache 0)) else w

/-- The blocks of the group descriptor table. -/
def SbInfo.tableBlocks (sbi : SbInfo) : List Nat :=
  (List.range sbi.groupDescTableBlocks).map (sbi.groupDescTableStart + ·)

/-- `cryexts_sync_metadata`. -/
def syncMetadata : Kernel Unit := do
  Routine.modify gdtPrepareWrite
  Routine.modify refreshSuperChecksum
  let w ← Routine.read
  syncGroupTable w.sbi.tableBlocks
  (bitmapBlocks w).forM syncDirtyBuffer
  syncDirtyBuffer 0
  syncBlockdev

/-- The buffers `cryexts_sync_metadata` flushes. -/
def metadataPrepared (w : World) : World := refreshSuperChecksum (gdtPrepareWrite w)

theorem syncDirtyBuffer_run {w : World} (healthy : w.Healthy) (block : Nat) :
    syncDirtyBuffer block w =
      (.ok (), if w.dirty block = true then w.written block (w.cache block) else w) := by
  have quiet : faulty w = (.ok false, w) := by simp [faulty, healthy.noFaults]
  unfold syncDirtyBuffer
  rw [Routine.read_bind]
  by_cases pending : w.dirty block = true
  · have current : store w.uptodate block true = w.uptodate :=
      WriteLog.store_eq_self _ _ _ (by rw [healthy.current])
    have own : store w.cache block (w.cache block) = w.cache := WriteLog.store_eq_self _ _ _ rfl
    rw [if_pos pending, if_pos pending, Routine.bind_ok _ _ _ _ _ quiet,
      if_neg Bool.false_ne_true, Routine.modify_run, World.written, current, own]
  · rw [if_neg pending, if_neg pending]
    rfl

/-- A flush has written buffers as they are, among `blocks` every dirty one. -/
def FlushedBy (blocks : List Nat) (w after : World) : Prop :=
  ∃ writes, after = w.writtenAll writes ∧
    (∀ write, write ∈ writes → write.2 = w.cache write.1) ∧
    ∀ block, block ∈ blocks → w.dirty block = true → block ∈ writes.map Prod.fst

theorem FlushedBy.healthy {blocks : List Nat} {w after : World} (flushed : FlushedBy blocks w after)
    (healthy : w.Healthy) : after.Healthy := by
  obtain ⟨writes, rfl, _⟩ := flushed
  exact World.writtenAll_healthy _ _ healthy

theorem FlushedBy.append {first second : List Nat} {w middle after : World}
    (early : FlushedBy first w middle) (late : FlushedBy second middle after) :
    FlushedBy (first ++ second) w after := by
  obtain ⟨writes, rfl, own, covers⟩ := early
  obtain ⟨more, rfl, own', covers'⟩ := late
  have same : (w.writtenAll writes).cache = w.cache := by
    rw [World.writtenAll_cache]
    exact WriteLog.applyWrites_own _ _ own
  refine ⟨writes ++ more, (World.writtenAll_append _ _ _).symm, ?_, ?_⟩
  · intro write member
    rcases List.mem_append.mp member with here | there
    · exact own write here
    · rw [own' write there, same]
  · intro block member pending
    rw [List.map_append, List.mem_append]
    by_cases already : block ∈ writes.map Prod.fst
    · exact Or.inl already
    · right
      rcases List.mem_append.mp member with here | there
      · exact absurd (covers block here pending) already
      · apply covers' block there
        rw [World.writtenAll_dirty, if_neg already]
        exact pending

theorem syncDirtyBuffer_flushedBy {w : World} (healthy : w.Healthy) (block : Nat) :
    ∃ after, syncDirtyBuffer block w = (.ok (), after) ∧ FlushedBy [block] w after := by
  refine ⟨_, syncDirtyBuffer_run healthy block, ?_⟩
  by_cases pending : w.dirty block = true
  · rw [if_pos pending]
    exact ⟨[(block, w.cache block)], rfl, by simp, by simp⟩
  · rw [if_neg pending]
    refine ⟨[], rfl, by simp, ?_⟩
    intro other member dirty
    rw [List.mem_singleton.mp member] at dirty
    exact absurd dirty pending

theorem syncBlocks_run {w : World} (healthy : w.Healthy) (blocks : List Nat) :
    ∃ after, (blocks.forM syncDirtyBuffer : Kernel Unit) w = (.ok (), after) ∧
      FlushedBy blocks w after := by
  induction blocks generalizing w with
  | nil => exact ⟨w, rfl, [], rfl, by simp, by simp⟩
  | cons block rest ih =>
      obtain ⟨middle, first, flushed⟩ := syncDirtyBuffer_flushedBy healthy block
      obtain ⟨after, run, later⟩ := ih (flushed.healthy healthy)
      refine ⟨after, ?_, flushed.append later⟩
      change (syncDirtyBuffer block >>= fun _ => rest.forM syncDirtyBuffer : Kernel Unit) w = _
      rw [Routine.bind_ok _ _ _ _ _ first, run]

theorem syncBlockdev_run {w : World} (healthy : w.Healthy) :
    ∃ after, syncBlockdev w = (.ok (), after) ∧ FlushedBy (List.range w.size) w after :=
  syncBlocks_run healthy (List.range w.size)

theorem syncGroupTable_run {w : World} (healthy : w.Healthy) (blocks : List Nat) :
    syncGroupTable blocks w =
      (.ok (), w.writtenAll (blocks.map fun block => (block, w.cache block))) := by
  induction blocks generalizing w with
  | nil => rfl
  | cons block rest ih =>
      have marked : ({ w with dirty := store w.dirty block true } : World).Healthy :=
        ⟨healthy.noFaults, healthy.current⟩
      have first := syncDirtyBuffer_run marked block
      have own : store w.cache block (w.cache block) = w.cache := WriteLog.store_eq_self _ _ _ rfl
      have written : ({ w with dirty := store w.dirty block true } : World).written block
          (w.cache block) = w.written block (w.cache block) := by
        simp only [World.written, WriteLog.store_store]
      rw [if_pos (WriteLog.store_same _ _ _)] at first
      have later := ih (World.written_healthy w block (w.cache block) healthy)
      have cache : (w.written block (w.cache block)).cache = w.cache := own
      rw [cache] at later
      have body : (Routine.modify (fun w : World => { w with dirty := store w.dirty block true })
          >>= fun _ => syncDirtyBuffer block : Kernel Unit) w =
            (.ok (), w.written block (w.cache block)) := by
        rw [Routine.modify_bind, first, written]
      change ((Routine.modify (fun w : World => { w with dirty := store w.dirty block true })
        >>= fun _ => syncDirtyBuffer block) >>= fun _ => syncGroupTable rest : Kernel Unit) w = _
      rw [Routine.bind_ok _ _ _ _ _ body, later]
      rfl

theorem refreshSuperChecksum_cases (w : World) : refreshSuperChecksum w = w ∨
    refreshSuperChecksum w = w.dirtyBuffer 0 (updateSuperChecksum (w.cache 0)) := by
  unfold refreshSuperChecksum
  split
  · exact Or.inr rfl
  · exact Or.inl rfl

theorem updateSuperChecksum_sameSuper (super : Block) :
    SameSuper (updateSuperChecksum super) super where
  rest := updateSuperChecksum_same super _ (by decide)
  state := by rw [get_updateSuperChecksum _ _ (by decide)]
  incompat := by rw [get_updateSuperChecksum _ _ (by decide)]

theorem metadataPrepared_worked {w : World} (mode : JournalMode w) :
    Worked w (metadataPrepared w) := by
  have copied := gdtPrepareWrite_worked mode.table
  unfold metadataPrepared
  rcases refreshSuperChecksum_cases (gdtPrepareWrite w) with same | same
  · rw [same]
    exact copied
  · rw [same]
    apply copied.trans
    apply dirtyBuffer_super_worked
    rw [copied.area]
    exact mode.first

theorem metadataPrepared_super {w : World} (mode : JournalMode w) :
    SameSuper ((metadataPrepared w).cache 0) (w.cache 0) := by
  have copied := gdtPrepareWrite_super mode.table
  unfold metadataPrepared
  rcases refreshSuperChecksum_cases (gdtPrepareWrite w) with same | same
  · rw [same, copied]
    exact SameSuper.refl _
  · rw [same, World.dirtyBuffer_cache, WriteLog.store_same, copied]
    exact updateSuperChecksum_sameSuper _

/-- The other buffers are those of the refreshed group descriptor table; a clean superblock
buffer is unchanged. -/
theorem metadataPrepared_cells (w : World) :
    (metadataPrepared w).sbi.journalHomeBlocks = w.sbi.journalHomeBlocks ∧
      (∀ block, block ≠ 0 → (metadataPrepared w).cache block = (gdtPrepareWrite w).cache block ∧
        (metadataPrepared w).dirty block = w.dirty block) ∧
      ((metadataPrepared w).dirty 0 = false →
        (metadataPrepared w).cache 0 = (gdtPrepareWrite w).cache 0 ∧ w.dirty 0 = false) := by
  unfold metadataPrepared
  rcases refreshSuperChecksum_cases (gdtPrepareWrite w) with same | same
  · rw [same]
    exact ⟨rfl, fun _ _ => ⟨rfl, rfl⟩, fun clean => ⟨rfl, clean⟩⟩
  · rw [same]
    refine ⟨rfl, fun block apart => ⟨WriteLog.store_other _ _ _ _ apart,
      WriteLog.store_other _ _ _ _ apart⟩, fun clean => ?_⟩
    change store (gdtPrepareWrite w).dirty 0 true 0 = false at clean
    rw [WriteLog.store_same] at clean
    cases clean

/-- Where nothing fails, `cryexts_sync_metadata` writes the group descriptor table and every
dirty buffer. -/
theorem syncMetadata_run {w : World} (healthy : w.Healthy) :
    ∃ writes, syncMetadata w = (.ok (), (metadataPrepared w).writtenAll writes) ∧
      (∀ write, write ∈ writes → write.2 = (metadataPrepared w).cache write.1) ∧
      (∀ block, block ∈ w.sbi.tableBlocks → block ∈ writes.map Prod.fst) ∧
      ∀ block, block < w.size → (metadataPrepared w).dirty block = true →
        block ∈ writes.map Prod.fst := by
  have prepared : (metadataPrepared w).Healthy ∧ (metadataPrepared w).size = w.size ∧
      (metadataPrepared w).sbi.tableBlocks = w.sbi.tableBlocks := by
    unfold metadataPrepared
    rcases refreshSuperChecksum_cases (gdtPrepareWrite w) with same | same <;> rw [same]
    all_goals exact ⟨⟨healthy.noFaults, healthy.current⟩, rfl, rfl⟩
  have start : syncMetadata w = (syncGroupTable (metadataPrepared w).sbi.tableBlocks >>= fun _ =>
      (bitmapBlocks (metadataPrepared w)).forM syncDirtyBuffer >>= fun _ =>
        syncDirtyBuffer 0 >>= fun _ => syncBlockdev : Kernel Unit) (metadataPrepared w) := by
    unfold syncMetadata
    rw [Routine.modify_bind, Routine.modify_bind, Routine.read_bind]
    rfl
  obtain ⟨sound, size, blocks⟩ := prepared
  generalize metadataPrepared w = v at *
  have table := syncGroupTable_run sound v.sbi.tableBlocks
  rw [Routine.bind_ok _ _ _ _ _ table] at start
  have first := World.writtenAll_healthy v
    (v.sbi.tableBlocks.map fun block => (block, v.cache block)) sound
  obtain ⟨second, bitmaps, flushed⟩ := syncBlocks_run first (bitmapBlocks v)
  rw [Routine.bind_ok _ _ _ _ _ bitmaps] at start
  have later := flushed.healthy first
  obtain ⟨third, super, superFlushed⟩ := syncDirtyBuffer_flushedBy later 0
  rw [Routine.bind_ok _ _ _ _ _ super] at start
  obtain ⟨after, device, deviceFlushed⟩ := syncBlockdev_run (superFlushed.healthy later)
  rw [device] at start
  have whole := (flushed.append superFlushed).append deviceFlushed
  have sized : third.size = w.size := by
    obtain ⟨writes, same, _⟩ := flushed.append superFlushed
    rw [same, World.writtenAll_size, World.writtenAll_size, size]
  obtain ⟨writes, same, own, covers⟩ := whole
  have kept : (v.writtenAll (v.sbi.tableBlocks.map fun block => (block, v.cache block))).cache =
      v.cache := by
    rw [World.writtenAll_cache]
    apply WriteLog.applyWrites_own
    intro write member
    obtain ⟨block, _, rfl⟩ := List.mem_map.mp member
    rfl
  have homes : (v.sbi.tableBlocks.map fun block => (block, v.cache block)).map Prod.fst =
      v.sbi.tableBlocks := by
    simp [Function.comp_def]
  refine ⟨(v.sbi.tableBlocks.map fun block => (block, v.cache block)) ++ writes, ?_, ?_, ?_, ?_⟩
  · rw [start, same, World.writtenAll_append]
  · intro write member
    rcases List.mem_append.mp member with here | there
    · obtain ⟨block, _, rfl⟩ := List.mem_map.mp here
      rfl
    · rw [own write there, kept]
  · intro block member
    rw [List.map_append, homes, blocks]
    exact List.mem_append_left _ member
  · intro block inside pending
    rw [List.map_append, homes]
    by_cases table : block ∈ v.sbi.tableBlocks
    · exact List.mem_append_left _ table
    · apply List.mem_append_right
      apply covers block
      · apply List.mem_append_right
        rw [sized]
        exact List.mem_range.mpr inside
      · rw [World.writtenAll_dirty, homes, if_neg table]
        exact pending

/-- The barrier of a commit flushes every buffer. -/
theorem journalOrderedBarrier_run {w : World} (healthy : w.Healthy) :
    ∃ writes, journalOrderedBarrier w = (.ok (), w.writtenAll writes) ∧
      ∀ write, write ∈ writes → write.2 = w.cache write.1 := by
  obtain ⟨after, run, writes, rfl, own, _⟩ := syncBlockdev_run healthy
  have sound := World.writtenAll_healthy w writes healthy
  have quiet : faulty (w.writtenAll writes) = (.ok false, w.writtenAll writes) := by
    simp [faulty, sound.noFaults]
  refine ⟨writes, ?_, own⟩
  rw [journalOrderedBarrier, Routine.bind_ok _ _ _ _ _ run, Routine.bind_ok _ _ _ _ _ quiet,
    if_neg Bool.false_ne_true]
  rfl

section Written

variable {w : World} {area : JournalArea} {count : Nat} {pending : List Transaction}
variable {home : Nat → Block} (inv : RingInv w area count pending home)
variable {writes : List (Nat × Block)}
variable (journal : ∀ write, write ∈ writes → area.Inside write.1 → write.2 = w.disk write.1)
variable (super : ∀ write, write ∈ writes → write.1 = 0 → Describes write.2 w.sbi count)
include inv journal super

private theorem RingInv.writtenHeld : (∀ block, area.Inside block →
      applyWrites w.disk writes block = w.disk block) ∧
    Describes (applyWrites w.disk writes 0) w.sbi count ∧
    Pending area count (applyWrites w.disk writes) w.sbi.journalCheckpointSequence
      w.sbi.journalRingTail pending := by
  have settled : ∀ block, area.Inside block →
      applyWrites w.disk writes block = w.disk block := by
    intro block inside
    apply WriteLog.applyWrites_settled _ _ _ _ rfl
    intro write member here
    rw [journal write member (here ▸ inside), here]
  refine ⟨settled, ?_, ?_⟩
  · rcases WriteLog.applyWrites_mem_or_other w.disk writes 0 with same | member
    · rw [same]
      exact inv.device
    · exact super _ member rfl
  · have held := inv.held
    refine ⟨held.valid, held.keeps, ?_, held.ascending⟩
    apply held.on.congr inv.chain inv.headLow inv.headHigh
    intro block live
    apply settled
    have low := inv.headLow
    have high := inv.headHigh
    have tailLow := inv.tailLow
    simp only [SegmentRing.Live, JournalArea.ringStart, JournalArea.ringEnd] at *
    unfold JournalArea.Inside
    split at live <;> omega

/-- Writes beside the ring, or over it with what it holds, leave the transactions it holds. -/
theorem RingInv.writtenAll : RingInv (w.writtenAll writes) area count pending
    (applyWrites (applyWrites w.disk writes) (imagesOf pending)) := by
  obtain ⟨settled, device, held⟩ := inv.writtenHeld journal super
  have sbi : (w.writtenAll writes).sbi = w.sbi := World.writtenAll_sbi w writes
  have disk : (w.writtenAll writes).disk = applyWrites w.disk writes := World.writtenAll_disk w writes
  have cache : (w.writtenAll writes).cache = applyWrites w.cache writes :=
    World.writtenAll_cache w writes
  have same : SameMount (w.writtenAll writes).sbi w.sbi := by
    rw [sbi]
    exact ⟨rfl, rfl, rfl, rfl, rfl, rfl, rfl, rfl⟩
  have long := inv.long
  have first : area.Inside area.first := by
    unfold JournalArea.Inside
    omega
  have describes : Describes (applyWrites w.cache writes 0) w.sbi count := by
    rcases WriteLog.applyWrites_mem_or_other w.cache writes 0 with same | member
    · rw [same]
      exact inv.describes
    · exact super _ member rfl
  constructor
  case mode =>
    exact inv.mode.of_same (World.writtenAll_healthy _ _ inv.mode.healthy) same
      (World.writtenAll_size _ _)
  case ready =>
    apply inv.ready.written
    intro write member zero
    exact (super write member zero).blocksCount
  case long => exact long
  case limit => exact inv.limit
  case describes =>
    rw [cache, sbi]
    exact describes
  case device =>
    rw [disk, sbi]
    exact device
  case journal =>
    intro block inside
    rw [disk, settled block inside, cache]
    apply WriteLog.applyWrites_settled _ _ _ _ (inv.journal block inside)
    intro write member here
    rw [journal write member (here ▸ inside), here]
  case held =>
    rw [disk, sbi]
    exact held
  case control =>
    rw [disk, settled _ first, sbi]
    exact inv.control
  case same =>
    rw [disk]
    exact SameHome.refl _
  case supers => exact inv.supers
  all_goals rw [sbi]
  case ring => exact inv.ring
  case images => exact inv.images
  case records => exact inv.records
  case chain => exact inv.chain
  case headLow => exact inv.headLow
  case headHigh => exact inv.headHigh
  case tailLow => exact inv.tailLow
  case tailHigh => exact inv.tailHigh
  case last => exact inv.last
  case sequence => exact inv.sequence
  case opened => exact inv.opened
  case small => exact inv.small

/-- Every prefix of them is a device recovery knows, which owes what that prefix and the ring
make of the device. -/
theorem RingInv.writtenImage : RingWrites w (w.writtenAll writes) area count writes
    (fun written => applyWrites (applyWrites w.disk (writes.take written)) (imagesOf pending)) := by
  refine ⟨World.writtenAll_base w writes, World.writtenAll_log w writes, ?_, ?_⟩
  · intro written
    obtain ⟨settled, _, held⟩ := inv.writtenHeld
      (fun write member => journal write (List.mem_of_mem_take member))
      (fun write member => super write (List.mem_of_mem_take (i := written) member))
    have long := inv.long
    have first : area.Inside area.first := by
      unfold JournalArea.Inside
      omega
    exact inv.image _ (settled _ first) held (SameHome.refl _)
  · intro written
    exact (inv.writtenHeld (fun write member => journal write (List.mem_of_mem_take member))
      (fun write member => super write (List.mem_of_mem_take (i := written) member))).2.1

end Written

end Cryexts
