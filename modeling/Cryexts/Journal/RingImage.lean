import Cryexts.Journal.RingReplay
import Cryexts.Journal.SuperState

set_option autoImplicit false

namespace Cryexts

open WriteLog (store applyWrites)

/-- Two devices with the same home blocks. The superblock block may differ in what
recovery rewrites. -/
structure SameHome (area : JournalArea) (first second : Nat → Block) : Prop where
  super : SameSuper (first 0) (second 0)
  blocks : ∀ block, block ≠ 0 → ¬ area.Inside block → first block = second block

namespace SameHome

variable {area : JournalArea} {first second third : Nat → Block}

theorem refl (cells : Nat → Block) : SameHome area cells cells :=
  ⟨SameSuper.refl _, fun _ _ _ => rfl⟩

theorem symm (same : SameHome area first second) : SameHome area second first :=
  ⟨same.super.symm, fun block apart outside => (same.blocks block apart outside).symm⟩

theorem trans (left : SameHome area first second) (right : SameHome area second third) :
    SameHome area first third :=
  ⟨left.super.trans right.super, fun block apart outside =>
    (left.blocks block apart outside).trans (right.blocks block apart outside)⟩

theorem applyWrites (same : SameHome area first second) (writes : List (Nat × Block)) :
    SameHome area (WriteLog.applyWrites first writes) (WriteLog.applyWrites second writes) where
  super := by
    rcases WriteLog.applyWrites_cell writes 0 with unchanged | ⟨value, _, fixed⟩
    · rw [unchanged, unchanged]
      exact same.super
    · rw [fixed, fixed]
      exact SameSuper.refl _
  blocks block apart outside :=
    WriteLog.applyWrites_congr_at _ _ _ _ (same.blocks block apart outside)

/-- Writes into the journal do not change the home blocks. -/
theorem journalWrites (cells : Nat → Block) (writes : List (Nat × Block)) (first : 0 < area.first)
    (journal : ∀ write, write ∈ writes → area.Inside write.1) :
    SameHome area (WriteLog.applyWrites cells writes) cells where
  super := by
    rw [WriteLog.applyWrites_other]
    · exact SameSuper.refl _
    · intro write member zero
      have inside := journal write member
      unfold JournalArea.Inside at inside
      omega
  blocks block _ outside := by
    apply WriteLog.applyWrites_other
    intro write member here
    exact outside (here ▸ journal write member)

theorem storeSuper (cells : Nat → Block) (super : Block) (same : SameSuper super (cells 0)) :
    SameHome area (store cells 0 super) cells where
  super := by rw [WriteLog.store_same]; exact same
  blocks block apart _ := WriteLog.store_other _ _ _ _ apart

end SameHome

/-- What a ring control block says, all its checks passed. -/
structure RingControl (area : JournalArea) (buf : Block)
    (state last active checkpoint head tail : Nat) : Prop where
  magic : (JournalV3Control.ofBlock buf).magic = JOURNAL_V3_MAGIC
  layoutVersion : (JournalV3Control.ofBlock buf).layoutVersion = JOURNAL_V3_LAYOUT_VERSION
  blockType : (JournalV3Control.ofBlock buf).blockType = JOURNAL_V3_BLOCK_CONTROL
  features : (JournalV3Control.ofBlock buf).features =
    JOURNAL_V3_FEATURE_REDO ||| JOURNAL_V3_FEATURE_RING
  stateIs : (JournalV3Control.ofBlock buf).state = state
  lastIs : (JournalV3Control.ofBlock buf).lastSequence = last
  activeIs : (JournalV3Control.ofBlock buf).activeSequence = active
  checkpointIs : (JournalV3Control.ofBlock buf).checkpointSequence = checkpoint
  headIs : (JournalV3Control.ofBlock buf).ringHead = head
  tailIs : (JournalV3Control.ofBlock buf).ringTail = tail
  ringStart : (JournalV3Control.ofBlock buf).ringStart = area.ringStart
  ringEnd : (JournalV3Control.ofBlock buf).ringEnd = area.ringEnd
  headLow : area.ringStart ≤ head
  headHigh : head < area.ringEnd
  tailLow : area.ringStart ≤ tail
  tailHigh : tail < area.ringEnd
  idle : state = JOURNAL_V3_STATE_IDLE → head = tail
  valid : ChecksumValid buf

namespace RingControl

theorem accepted {area : JournalArea} {buf : Block} {state last active checkpoint head tail : Nat}
    (control : RingControl area buf state last active checkpoint head tail) (sbi : SbInfo)
    (ring : sbi.journalRing = true) (same : sbi.area = area) :
    ControlHeaderValid sbi (JournalV3Control.ofBlock buf) ∧
      sbi.RingValid (JournalV3Control.ofBlock buf) ∧ ChecksumValid buf := by
  subst same
  refine ⟨⟨control.magic, control.layoutVersion, control.blockType, ?_⟩, ?_, control.valid⟩
  · rw [control.features, SbInfo.journalV3Features, ring]
    rfl
  · unfold SbInfo.RingValid
    rw [if_pos ring, control.stateIs, control.headIs, control.tailIs]
    refine ⟨control.ringStart, control.ringEnd, control.headLow, control.headHigh,
      control.tailLow, control.tailHigh, ?_⟩
    by_cases idle : state = JOURNAL_V3_STATE_IDLE
    · exact Or.inr (control.idle idle)
    · exact Or.inl idle

/-- The control block the ring writes itself. -/
theorem prepared (sbi : SbInfo) (ring : sbi.journalRing = true)
    {state last active checkpoint : Nat} {segment : JournalV3Segment}
    (fits : ControlFits sbi state last active checkpoint segment)
    (low : sbi.ringStart ≤ sbi.journalRingHead ∧ sbi.ringStart ≤ sbi.journalRingTail)
    (idle : state = JOURNAL_V3_STATE_IDLE → sbi.journalRingHead = sbi.journalRingTail) :
    RingControl sbi.area (journalV3PrepareControl sbi state last active checkpoint segment)
      state last active checkpoint sbi.journalRingHead sbi.journalRingTail := by
  have range := fits.ring ring
  have read := ofBlock_prepareControl fits
  constructor
  case valid => exact sealMembers_valid _
  case headLow => exact low.1
  case headHigh => exact range.1
  case tailLow => exact low.2
  case tailHigh => exact range.2.1
  case idle => exact idle
  all_goals
    rw [read]
    simp only [journalV3ControlFields, SbInfo.journalV3Features, ring, ↓reduceIte]
  all_goals rfl

end RingControl

/-- The blocks `cryexts_journal_v3_reset_disk` writes, in order. -/
def resetWrites (sbi : SbInfo) (sequence : Nat) (places : JournalV3Segment) :
    List (Nat × Block) :=
  let places := sbi.resetPlaces places
  [(places.descriptorBlock, journalV3EmptyDescriptor sequence places),
    (places.commitBlock, journalV3EmptyCommit sequence places),
    (sbi.journalBlock,
      journalV3PrepareControl sbi JOURNAL_V3_STATE_IDLE sequence 0 sequence places)]

theorem journalV3ResetDisk_run (w : World) (healthy : w.Healthy) (sequence : Nat)
    (places : JournalV3Segment) (control : w.sbi.journalBlock < w.size)
    (descriptor : (w.sbi.resetPlaces places).descriptorBlock < w.size)
    (commit : (w.sbi.resetPlaces places).commitBlock < w.size) :
    journalV3ResetDisk sequence places w =
      (.ok (), w.writtenAll (resetWrites w.sbi sequence places)) := by
  rw [journalV3ResetDisk, Routine.read_bind, writeSync_bind w healthy _ _ _ descriptor,
    writeSync_bind _ (World.written_healthy _ _ _ healthy) _ _ _ commit, Routine.read_bind]
  exact journalV3WriteSync_run _ (World.written_healthy _ _ _ (World.written_healthy _ _ _ healthy))
    _ _ control

/-- The superblock update, written through, that ends a checkpoint or a recovery. -/
theorem superSync_run (w : World) (healthy : w.Healthy) (idle : w.sbi.journalReplaying = false)
    (room : 0 < w.size) :
    syncSingleBlock 0 (superSetRecoveryUnlogged false w) =
      (.ok (), w.written 0
        (recoveredSuper false (w.cache 0) w.sbi.nextIno w.sbi.nextDataBlock)) := by
  rw [superSetRecoveryUnlogged_eq _ _ idle]
  have dirty := World.dirtyBuffer w 0
    (recoveredSuper false (w.cache 0) w.sbi.nextIno w.sbi.nextDataBlock)
  have sync := syncSingleBlock_run (w.dirtyBuffer 0
    (recoveredSuper false (w.cache 0) w.sbi.nextIno w.sbi.nextDataBlock))
    ⟨healthy.noFaults, healthy.current⟩ 0 room (by simp [World.dirtyBuffer])
  rw [sync]
  simp only [World.dirtyBuffer, World.written, WriteLog.store_same, WriteLog.store_store]

theorem written_setDiskJournalSequence (w : World) (sequence : Nat) (content : Block) :
    (setDiskJournalSequence sequence w).written 0 content = w.written 0 content := by
  simp only [setDiskJournalSequence, World.written, WriteLog.store_store]

/-- Every block a replay writes from `discard` on, in order. -/
def finishWrites (sbi : SbInfo) (super : Block) (lastSequence : Nat)
    (places : JournalV3Segment) : List (Nat × Block) :=
  (0, recoveredSuper false (super.set Super.journalSequence lastSequence) sbi.nextIno
      sbi.nextDataBlock) :: resetWrites sbi lastSequence places

theorem finishReplay_run (w : World) (healthy : w.Healthy)
    (idle : w.sbi.journalReplaying = false) (lastSequence : Nat) (places : JournalV3Segment)
    (control : w.sbi.journalBlock < w.size)
    (descriptor : (w.sbi.resetPlaces places).descriptorBlock < w.size)
    (commit : (w.sbi.resetPlaces places).commitBlock < w.size) :
    finishReplay lastSequence places w = (.ok (),
      { w.writtenAll (finishWrites w.sbi (w.cache 0) lastSequence places) with
        sbi := w.sbi.journalV3ClearRuntime }) := by
  have synced := superSync_run (setDiskJournalSequence lastSequence w)
    ⟨healthy.noFaults, healthy.current⟩ idle (lt_of_le_of_lt (Nat.zero_le _) control)
  rw [written_setDiskJournalSequence] at synced
  have reset := journalV3ResetDisk_run
    (w.written 0 (recoveredSuper false ((setDiskJournalSequence lastSequence w).cache 0)
      (setDiskJournalSequence lastSequence w).sbi.nextIno
      (setDiskJournalSequence lastSequence w).sbi.nextDataBlock))
    (World.written_healthy _ _ _ healthy) lastSequence places control descriptor commit
  rw [finishReplay, Routine.modify_bind, Routine.modify_bind,
    Routine.bind_ok _ _ _ _ _ synced, Routine.bind_ok _ _ _ _ _ reset, Routine.modify_run]
  simp only [setDiskJournalSequence, WriteLog.store_same, World.writtenAll_sbi, finishWrites,
    World.writtenAll_cons]
  rfl

@[simp] theorem discardedSbi_nextIno (sbi : SbInfo) (head last : Nat) :
    (discardedSbi sbi head last).nextIno = sbi.nextIno := rfl

@[simp] theorem discardedSbi_nextDataBlock (sbi : SbInfo) (head last : Nat) :
    (discardedSbi sbi head last).nextDataBlock = sbi.nextDataBlock := rfl

theorem replayRingDiscard_run (w : World) (healthy : w.Healthy)
    (idle : w.sbi.journalReplaying = false) (ring : w.sbi.journalRing = true)
    (long : 4 ≤ w.sbi.journalBlocks) (room : w.sbi.journalBlock + w.sbi.journalBlocks ≤ w.size)
    (head lastSequence : Nat) :
    replayRingDiscard head lastSequence w = (.ok (),
      { w.writtenAll (finishWrites (discardedSbi w.sbi head lastSequence) (w.cache 0)
          lastSequence (ringResetPlaces w.sbi)) with
        sbi := (discardedSbi w.sbi head lastSequence).journalV3ClearRuntime }) := by
  have kept : (discardedSbi w.sbi head lastSequence).journalRing = true := ring
  have places : (discardedSbi w.sbi head lastSequence).resetPlaces (ringResetPlaces w.sbi) =
      ringResetPlaces w.sbi := by
    rw [SbInfo.resetPlaces, kept, if_pos rfl]
  have finish := finishReplay_run { w with sbi := discardedSbi w.sbi head lastSequence }
    ⟨healthy.noFaults, healthy.current⟩ idle lastSequence (ringResetPlaces w.sbi)
    (show w.sbi.journalBlock < w.size by omega)
    (by
      rw [places]
      simp only [ringResetPlaces]
      omega)
    (by
      rw [places]
      simp only [ringResetPlaces]
      omega)
  simp only [World.writtenAll_with_sbi] at finish
  rw [replayRingDiscard, Routine.read_bind, Routine.modify_bind]
  exact finish

end Cryexts
