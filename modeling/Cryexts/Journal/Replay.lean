import Cryexts.Journal.V3
import Cryexts.Lib.SegmentRing

set_option autoImplicit false

namespace Cryexts

open WriteLog (store)

/-- The checks every reader of the control block makes first. -/
def ControlHeaderValid (sbi : SbInfo) (control : JournalV3Control) : Prop :=
  control.magic = JOURNAL_V3_MAGIC ∧ control.layoutVersion = JOURNAL_V3_LAYOUT_VERSION ∧
    control.blockType = JOURNAL_V3_BLOCK_CONTROL ∧ control.features = sbi.journalV3Features

instance (sbi : SbInfo) (control : JournalV3Control) :
    Decidable (ControlHeaderValid sbi control) := by
  unfold ControlHeaderValid
  infer_instance

/-- The places the fixed layout's control block must name. -/
def ControlPlacesFixed (sbi : SbInfo) (control : JournalV3Control) (payloadBlocks : Nat) : Prop :=
  control.descriptorBlock = sbi.journalBlock + 1 ∧ control.payloadStart = sbi.journalBlock + 2 ∧
    control.payloadBlocks = payloadBlocks ∧
    control.commitBlock = sbi.journalBlock + sbi.journalBlocks - 1

instance (sbi : SbInfo) (control : JournalV3Control) (payloadBlocks : Nat) :
    Decidable (ControlPlacesFixed sbi control payloadBlocks) := by
  unfold ControlPlacesFixed
  infer_instance

/-- Entries from `count` on are all zero. -/
def EntriesBlankFrom (descriptor : Block) (count : Nat) : Prop :=
  ∀ index, index < JOURNAL_V3_MAX_ENTRIES → count ≤ index →
    JournalV3Entry.ofBlock descriptor index = ⟨0, 0, 0⟩

instance (descriptor : Block) (count : Nat) : Decidable (EntriesBlankFrom descriptor count) :=
  inferInstanceAs (Decidable (∀ _, _))

def setSequences (sequence : Nat) (sbi : SbInfo) : SbInfo :=
  { sbi with
    journalSequence := sequence
    journalLastSequence := sequence
    journalTailSequence := sequence
    journalCheckpointSequence := sequence }

/-- The descriptor of an empty fixed journal. -/
def CleanDescriptor (sbi : SbInfo) (buf : Block) : Prop :=
  let descriptor := JournalV3Descriptor.ofBlock buf
  descriptor.magic = JOURNAL_V3_MAGIC ∧
    descriptor.layoutVersion = JOURNAL_V3_LAYOUT_VERSION ∧
    descriptor.blockType = JOURNAL_V3_BLOCK_DESCRIPTOR ∧ descriptor.flags = 0 ∧
    descriptor.entryCount = 0 ∧ descriptor.payloadStart = sbi.journalBlock + 2 ∧
    descriptor.commitBlock = sbi.journalBlock + sbi.journalBlocks - 1 ∧ ChecksumValid buf ∧
    EntriesBlankFrom buf 0

instance (sbi : SbInfo) (buf : Block) : Decidable (CleanDescriptor sbi buf) := by
  unfold CleanDescriptor
  infer_instance

/-- The commit block of an empty fixed journal. -/
def CleanCommit (sbi : SbInfo) (descriptorBuf buf : Block) : Prop :=
  let commit := JournalV3Commit.ofBlock buf
  commit.magic = JOURNAL_V3_MAGIC ∧ commit.layoutVersion = JOURNAL_V3_LAYOUT_VERSION ∧
    commit.blockType = JOURNAL_V3_BLOCK_COMMIT ∧ commit.flags = 0 ∧ commit.entryCount = 0 ∧
    commit.descriptorBlock = sbi.journalBlock + 1 ∧
    commit.descriptorChecksum = (JournalV3Descriptor.ofBlock descriptorBuf).checksum ∧
    commit.payloadChecksum = 0 ∧ ChecksumValid buf

instance (sbi : SbInfo) (descriptorBuf buf : Block) :
    Decidable (CleanCommit sbi descriptorBuf buf) := by
  unfold CleanCommit
  infer_instance

/-- `cryexts_journal_v3_validate_clean`. -/
def journalV3ValidateClean : Kernel Unit := do
  kmalloc
  let w ← Routine.read
  let sbi := w.sbi
  let controlBuf ← readFileBlock sbi.journalBlock
  let control := JournalV3Control.ofBlock controlBuf
  if sbi.journalRing then do
    Routine.require (ControlHeaderValid sbi control) .euclean
    Routine.require (sbi.RingValid control) .euclean
    Routine.require (ChecksumValid controlBuf) .euclean
    Routine.require (control.state = JOURNAL_V3_STATE_IDLE ∧ control.activeSequence = 0 ∧
      control.checkpointSequence = control.lastSequence) .euclean
  else do
    Routine.require (ControlHeaderValid sbi control ∧
      ControlPlacesFixed sbi control (sbi.journalBlocks - 3)) .euclean
    Routine.require (sbi.RingValid control) .euclean
    let descriptorBuf ← readFileBlock (sbi.journalBlock + 1)
    let commitBuf ← readFileBlock (sbi.journalBlock + sbi.journalBlocks - 1)
    Routine.require (ChecksumValid controlBuf) .euclean
    Routine.require (control.state ≤ JOURNAL_V3_STATE_CHECKPOINTING) .euclean
    Routine.require (control.state = JOURNAL_V3_STATE_IDLE) .eopnotsupp
    Routine.require (CleanDescriptor sbi descriptorBuf) .euclean
    Routine.require (CleanCommit sbi descriptorBuf commitBuf) .euclean
    Routine.require (control.activeSequence = 0 ∧
      control.checkpointSequence = control.lastSequence ∧
      (JournalV3Descriptor.ofBlock descriptorBuf).sequence = control.lastSequence ∧
      (JournalV3Commit.ofBlock commitBuf).sequence = control.lastSequence) .euclean
  Routine.modify fun w =>
    { w with sbi := { setSequences control.lastSequence w.sbi with
        journalActiveSequence := 0
        journalRingHead := control.ringHead
        journalRingTail := control.ringTail } }

/-- The fixed layout ignores the places `cryexts_journal_v3_reset_disk` is given. -/
def SbInfo.resetPlaces (sbi : SbInfo) (places : JournalV3Segment) : JournalV3Segment :=
  if sbi.journalRing then places
  else ⟨sbi.journalV2DescriptorBlock, sbi.journalV2PayloadStart,
    sbi.journalV2PayloadAreaBlocks, sbi.journalV2CommitBlock⟩

/-- `cryexts_journal_v3_reset_disk`. -/
def journalV3ResetDisk (sequence : Nat) (places : JournalV3Segment) : Kernel Unit := do
  let w ← Routine.read
  let places := w.sbi.resetPlaces places
  journalV3WriteSync places.descriptorBlock (journalV3EmptyDescriptor sequence places)
  journalV3WriteSync places.commitBlock (journalV3EmptyCommit sequence places)
  let w ← Routine.read
  journalV3WriteSync w.sbi.journalBlock
    (journalV3PrepareControl w.sbi JOURNAL_V3_STATE_IDLE sequence 0 sequence places)

def setReplaying (replaying : Bool) (w : World) : World :=
  { w with sbi := { w.sbi with journalReplaying := replaying } }

/-- The home writes of a replay, under `journal_replaying`. -/
def replayHome (descriptor : Block) (payloadStart entries : Nat) : Kernel Unit := do
  Routine.modify (setReplaying true)
  (writeHome descriptor payloadStart (List.range entries)).onFailure fun _ =>
    Routine.modify (setReplaying false)
  Routine.modify (setReplaying false)

/-- A ring segment that was applied. Its sequence is later than the one before it,
which is what ends the walk on any content. -/
structure Applied (previousSequence : Nat) where
  sequence : Nat
  segmentEnd : Nat
  later : previousSequence < sequence
  bounded : sequence < 2 ^ 64

/-- One round of the walk of `cryexts_journal_v3_replay_ring`: `none` for a durable
but uncommitted last segment. -/
def replayRingSegment (head position previousSequence : Nat) :
    Kernel (Option (Applied previousSequence)) := do
  let w ← Routine.read
  let descriptorBuf ← readFileBlock position
  let descriptor := JournalV3Descriptor.ofBlock descriptorBuf
  if valid : SegmentHeaderValid w.sbi position previousSequence descriptorBuf then do
    let segmentEnd := w.sbi.ringWrap (descriptor.commitBlock + 1)
    let commitBuf ← readFileBlock descriptor.commitBlock
    let commit := JournalV3Commit.ofBlock commitBuf
    if CommitMatches position descriptorBuf commitBuf ∧
        commit.flags = JOURNAL_V3_FLAG_COMMITTED then do
      Routine.require (commit.descriptorChecksum = descriptor.checksum) .euclean
      let aggregate ← verifyPayloads true descriptorBuf descriptor.payloadStart
        (List.range descriptor.entryCount) FNV_OFFSET
      let aggregate := if descriptor.entryCount = 0 then 0 else aggregate
      Routine.require (aggregate = commit.payloadChecksum) .euclean
      replayHome descriptorBuf descriptor.payloadStart descriptor.entryCount
      return some ⟨descriptor.sequence, segmentEnd, valid.2.2.2.2.2.2.2,
        ByteBuf.get_lt descriptorBuf ⟨24, 8⟩⟩
    else if segmentEnd = head then return none
    else Routine.fail .euclean
  else Routine.fail .euclean

/-- The walk from `position` to the recorded head; its result is the last sequence. -/
def replayRingWalk (head position previousSequence lastSequence : Nat) (w : World) :
    Except Errno Nat × World :=
  if position = head then (.ok lastSequence, w)
  else
    match replayRingSegment head position previousSequence w with
    | (.error err, after) => (.error err, after)
    | (.ok none, after) => (.ok lastSequence, after)
    | (.ok (some applied), after) =>
      replayRingWalk head applied.segmentEnd applied.sequence applied.sequence after
termination_by 2 ^ 64 - previousSequence
decreasing_by
  have later := applied.later
  have bounded := applied.bounded
  omega

/-- The mount's journal state after the ring's `discard`. -/
def discardedSbi (sbi : SbInfo) (head lastSequence : Nat) : SbInfo :=
  { setSequences lastSequence sbi with journalRingTail := head, journalRingHead := head }

/-- The places the ring's `discard` resets. -/
def ringResetPlaces (sbi : SbInfo) : JournalV3Segment :=
  ⟨sbi.journalBlock + 1, sbi.journalBlock + 2, sbi.journalBlocks - 3,
    sbi.journalBlock + sbi.journalBlocks - 1⟩

/-- What both replays end with at `discard`: a clean superblock, then an empty journal. -/
def finishReplay (lastSequence : Nat) (places : JournalV3Segment) : Kernel Unit := do
  Routine.modify (setDiskJournalSequence lastSequence)
  Routine.modify (superSetRecoveryUnlogged false)
  syncSingleBlock 0
  journalV3ResetDisk lastSequence places
  Routine.modify fun w => { w with sbi := w.sbi.journalV3ClearRuntime }

/-- `discard` of `cryexts_journal_v3_replay_ring`. -/
def replayRingDiscard (head lastSequence : Nat) : Kernel Unit := do
  let w ← Routine.read
  Routine.modify fun w => { w with sbi := discardedSbi w.sbi head lastSequence }
  finishReplay lastSequence (ringResetPlaces w.sbi)

/-- `cryexts_journal_v3_replay_ring`. -/
def journalV3ReplayRing : Kernel Unit := do
  kmalloc
  let w ← Routine.read
  let controlBuf ← readFileBlock w.sbi.journalBlock
  let control := JournalV3Control.ofBlock controlBuf
  Routine.require (ControlHeaderValid w.sbi control ∧ w.sbi.RingValid control ∧
    ChecksumValid controlBuf) .euclean
  if control.state = JOURNAL_V3_STATE_IDLE then
    if journalNeedsRecovery w = false then journalV3ValidateClean
    else do
      Routine.require (control.activeSequence = 0 ∧
        control.checkpointSequence = control.lastSequence) .euclean
      replayRingDiscard control.ringHead control.lastSequence
  else do
    Routine.require (control.state ≤ JOURNAL_V3_STATE_CHECKPOINTING) .euclean
    let lastSequence ← replayRingWalk control.ringHead control.ringTail
      control.checkpointSequence control.lastSequence
    replayRingDiscard control.ringHead lastSequence

/-- `discard` of `cryexts_journal_v3_replay`, fixed layout. -/
def replayDiscard (lastSequence : Nat) (places : JournalV3Segment) : Kernel Unit := do
  Routine.modify fun w => { w with sbi := setSequences lastSequence w.sbi }
  finishReplay lastSequence places

/-- The sequence relation a non-idle fixed control block must show. -/
def ControlSequencesValid (control : JournalV3Control) : Prop :=
  control.activeSequence ≠ 0 ∧ control.checkpointSequence ≤ control.lastSequence ∧
    (if control.state = JOURNAL_V3_STATE_CHECKPOINTING then
      control.activeSequence = control.lastSequence
    else control.activeSequence = u64 (control.lastSequence + 1))

instance (control : JournalV3Control) : Decidable (ControlSequencesValid control) := by
  unfold ControlSequencesValid
  infer_instance

/-- The descriptor checks of the fixed replay. -/
def ReplayDescriptorValid (sbi : SbInfo) (activeSequence : Nat) (buf : Block) : Prop :=
  let descriptor := JournalV3Descriptor.ofBlock buf
  descriptor.magic = JOURNAL_V3_MAGIC ∧
    descriptor.layoutVersion = JOURNAL_V3_LAYOUT_VERSION ∧
    descriptor.blockType = JOURNAL_V3_BLOCK_DESCRIPTOR ∧ descriptor.flags = 0 ∧
    descriptor.sequence = activeSequence ∧
    descriptor.payloadStart = sbi.journalV2PayloadStart ∧
    descriptor.commitBlock = sbi.journalV2CommitBlock ∧
    descriptor.entryCount ≤ sbi.journalV3PayloadCapacity ∧ ChecksumValid buf ∧
    EntriesBlankFrom buf descriptor.entryCount

instance (sbi : SbInfo) (activeSequence : Nat) (buf : Block) :
    Decidable (ReplayDescriptorValid sbi activeSequence buf) := by
  unfold ReplayDescriptorValid
  infer_instance

/-- `commit_valid` of the fixed replay. -/
def ReplayCommitReadable (sbi : SbInfo) (buf : Block) : Prop :=
  let commit := JournalV3Commit.ofBlock buf
  commit.magic = JOURNAL_V3_MAGIC ∧ commit.layoutVersion = JOURNAL_V3_LAYOUT_VERSION ∧
    commit.blockType = JOURNAL_V3_BLOCK_COMMIT ∧
    commit.descriptorBlock = sbi.journalV2DescriptorBlock ∧ ChecksumValid buf

instance (sbi : SbInfo) (buf : Block) : Decidable (ReplayCommitReadable sbi buf) := by
  unfold ReplayCommitReadable
  infer_instance

/-- The fixed replay from the validated commit record on. -/
def replayTransaction (control : JournalV3Control) (descriptorBuf commitBuf : Block)
    (places : JournalV3Segment) : Kernel Unit := do
  let descriptor := JournalV3Descriptor.ofBlock descriptorBuf
  let commit := JournalV3Commit.ofBlock commitBuf
  Routine.require (commit.flags = JOURNAL_V3_FLAG_COMMITTED ∧
    commit.entryCount = descriptor.entryCount ∧ commit.sequence = control.activeSequence ∧
    commit.descriptorChecksum = descriptor.checksum) .euclean
  -- Validate every payload before modifying any home block.
  let aggregate ← verifyPayloads true descriptorBuf places.payloadStart
    (List.range descriptor.entryCount) FNV_OFFSET
  let aggregate := if descriptor.entryCount = 0 then 0 else aggregate
  Routine.require (commit.payloadChecksum = aggregate) .euclean
  let w ← Routine.read
  journalV3WriteSync w.sbi.journalBlock
    (journalV3PrepareControl w.sbi JOURNAL_V3_STATE_CHECKPOINTING control.activeSequence
      control.activeSequence control.checkpointSequence
      { places with payloadBlocks := descriptor.entryCount })
  replayHome descriptorBuf places.payloadStart descriptor.entryCount
  replayDiscard control.activeSequence places

/-- `cryexts_journal_v3_replay` for the fixed layout. -/
def journalV3ReplayFixed : Kernel Unit := do
  kmalloc
  let w ← Routine.read
  let sbi := w.sbi
  let places : JournalV3Segment := ⟨sbi.journalV2DescriptorBlock, sbi.journalV2PayloadStart,
    sbi.journalV2PayloadAreaBlocks, sbi.journalV2CommitBlock⟩
  let controlBuf ← readFileBlock sbi.journalBlock
  let control := JournalV3Control.ofBlock controlBuf
  Routine.require (ControlHeaderValid sbi control ∧
    ControlPlacesFixed sbi control sbi.journalV2PayloadAreaBlocks ∧ sbi.RingValid control ∧
    ChecksumValid controlBuf) .euclean
  if control.state = JOURNAL_V3_STATE_IDLE then
    if journalNeedsRecovery w = false then journalV3ValidateClean
    else do
      Routine.require (control.activeSequence = 0 ∧
        control.checkpointSequence = control.lastSequence) .euclean
      replayDiscard control.lastSequence places
  else do
    Routine.require (control.state ≤ JOURNAL_V3_STATE_CHECKPOINTING) .euclean
    Routine.require (ControlSequencesValid control) .euclean
    if control.state = JOURNAL_V3_STATE_CHECKPOINTING ∧ journalNeedsRecovery w = false then
      replayDiscard control.lastSequence places
    else if control.state = JOURNAL_V3_STATE_ACTIVE then
      replayDiscard control.lastSequence places
    else do
      let descriptorBuf ← readFileBlock places.descriptorBlock
      let commitBuf ← readFileBlock places.commitBlock
      Routine.require (ReplayDescriptorValid sbi control.activeSequence descriptorBuf) .euclean
      if ReplayCommitReadable sbi commitBuf ∧ (JournalV3Commit.ofBlock commitBuf).flags ≠ 0 then
        replayTransaction control descriptorBuf commitBuf places
      else if control.state = JOURNAL_V3_STATE_PREPARED then
        replayDiscard control.lastSequence places
      else Routine.fail .euclean

/-- `cryexts_journal_v3_replay`. -/
def journalV3Replay : Kernel Unit := do
  let w ← Routine.read
  if w.sbi.journalRing then journalV3ReplayRing else journalV3ReplayFixed

end Cryexts
