import Cryexts.Journal.Record

set_option autoImplicit false

namespace Cryexts

open WriteLog (store)

namespace SbInfo

/-- `cryexts_journal_v3_features`. -/
def journalV3Features (sbi : SbInfo) : Nat :=
  JOURNAL_V3_FEATURE_REDO ||| (if sbi.journalRing then JOURNAL_V3_FEATURE_RING else 0)

def ringStart (sbi : SbInfo) : Nat := sbi.journalBlock + 1

def ringEnd (sbi : SbInfo) : Nat := sbi.journalBlock + sbi.journalBlocks

/-- A position past the last ring block is the first one. -/
def ringWrap (sbi : SbInfo) (position : Nat) : Nat :=
  if position = sbi.ringEnd then sbi.ringStart else position

/-- `cryexts_journal_v3_ring_valid`. -/
def RingValid (sbi : SbInfo) (control : JournalV3Control) : Prop :=
  if sbi.journalRing then
    control.ringStart = sbi.ringStart ∧ control.ringEnd = sbi.ringEnd ∧
      sbi.ringStart ≤ control.ringHead ∧ control.ringHead < sbi.ringEnd ∧
      sbi.ringStart ≤ control.ringTail ∧ control.ringTail < sbi.ringEnd ∧
      (control.state ≠ JOURNAL_V3_STATE_IDLE ∨ control.ringHead = control.ringTail)
  else
    control.ringHead = 0 ∧ control.ringTail = 0 ∧ control.ringStart = 0 ∧ control.ringEnd = 0

instance (sbi : SbInfo) (control : JournalV3Control) : Decidable (sbi.RingValid control) := by
  unfold RingValid
  infer_instance

/-- `cryexts_journal_v3_clear_runtime`. -/
def journalV3ClearRuntime (sbi : SbInfo) : SbInfo :=
  { sbi with journalError := none, journalActiveSequence := 0, journalHomeBlocks := [] }

end SbInfo

/-- The four places of one transaction. -/
structure JournalV3Segment where
  descriptorBlock : Nat
  payloadStart : Nat
  payloadBlocks : Nat
  commitBlock : Nat
  deriving DecidableEq, Repr

/-- The members `cryexts_journal_v3_prepare_control` assigns. -/
def journalV3ControlFields (sbi : SbInfo) (state lastSequence activeSequence
    checkpointSequence : Nat) (segment : JournalV3Segment) : JournalV3Control where
  magic := JOURNAL_V3_MAGIC
  layoutVersion := JOURNAL_V3_LAYOUT_VERSION
  blockType := JOURNAL_V3_BLOCK_CONTROL
  state := state
  features := sbi.journalV3Features
  checksum := 0
  lastSequence := lastSequence
  activeSequence := activeSequence
  checkpointSequence := checkpointSequence
  descriptorBlock := segment.descriptorBlock
  payloadStart := segment.payloadStart
  payloadBlocks := segment.payloadBlocks
  commitBlock := segment.commitBlock
  ringHead := if sbi.journalRing then sbi.journalRingHead else 0
  ringTail := if sbi.journalRing then sbi.journalRingTail else 0
  ringStart := if sbi.journalRing then sbi.ringStart else 0
  ringEnd := if sbi.journalRing then sbi.ringEnd else 0

/-- `cryexts_journal_v3_prepare_control`. -/
def journalV3PrepareControl (sbi : SbInfo) (state lastSequence activeSequence
    checkpointSequence : Nat) (segment : JournalV3Segment) : Block :=
  sealMembers (journalV3ControlFields sbi state lastSequence activeSequence checkpointSequence
    segment).members

/-- The header `cryexts_journal_v3_prepare_descriptor` fills in. -/
def journalV3DescriptorHeader (entries sequence payloadStart commitBlock : Nat) :
    JournalV3Descriptor where
  magic := JOURNAL_V3_MAGIC
  layoutVersion := JOURNAL_V3_LAYOUT_VERSION
  blockType := JOURNAL_V3_BLOCK_DESCRIPTOR
  flags := 0
  entryCount := entries
  checksum := 0
  sequence := sequence
  payloadStart := payloadStart
  commitBlock := commitBlock

/-- `cryexts_journal_v3_prepare_descriptor`. -/
def journalV3PrepareDescriptor (entries sequence payloadStart commitBlock : Nat) : Block :=
  (ByteBuf.zero BLOCK_SIZE).setAll
    (journalV3DescriptorHeader entries sequence payloadStart commitBlock).members

/-- `cryexts_journal_v3_finish_descriptor`. -/
def journalV3FinishDescriptor (buf : Block) : Block := sealBlock buf

/-- `cryexts_journal_v3_prepare_commit`. -/
def journalV3PrepareCommit (entries sequence descriptorChecksum payloadChecksum : Nat)
    (committed : Bool) (descriptorBlock : Nat) : Block :=
  sealMembers (JournalV3Commit.members {
    magic := JOURNAL_V3_MAGIC
    layoutVersion := JOURNAL_V3_LAYOUT_VERSION
    blockType := JOURNAL_V3_BLOCK_COMMIT
    flags := if committed then JOURNAL_V3_FLAG_COMMITTED else 0
    entryCount := entries
    checksum := 0
    descriptorChecksum := descriptorChecksum
    payloadChecksum := payloadChecksum
    sequence := sequence
    descriptorBlock := descriptorBlock })

/-- The descriptor and commit blocks of a journal without a transaction. -/
def journalV3EmptyDescriptor (sequence : Nat) (places : JournalV3Segment) : Block :=
  journalV3FinishDescriptor
    (journalV3PrepareDescriptor 0 sequence places.payloadStart places.commitBlock)

def journalV3EmptyCommit (sequence : Nat) (places : JournalV3Segment) : Block :=
  journalV3PrepareCommit 0 sequence
    ((journalV3EmptyDescriptor sequence places).get journalChecksum) 0 false
    places.descriptorBlock

/-- Where the next transaction goes and the ring head after it. -/
structure JournalV3Allocation where
  segment : JournalV3Segment
  nextHead : Nat
  deriving DecidableEq, Repr

/-- `cryexts_journal_v3_ring_allocate`. Positions lie below `journal_block +
journal_blocks`, which the mount keeps below the block count, so no sum wraps. -/
def journalV3RingAllocate (sbi : SbInfo) (entries : Nat) : Except Errno JournalV3Allocation :=
  let start := sbi.journalRingHead
  let tail := sbi.journalRingTail
  let needed := entries + 2
  let place (start : Nat) : JournalV3Allocation :=
    { segment := ⟨start, start + 1, entries, start + 1 + entries⟩
      nextHead := sbi.ringWrap (start + 1 + entries + 1) }
  if sbi.journalRing = false then
    .ok { segment := ⟨sbi.journalV2DescriptorBlock, sbi.journalV2PayloadStart, entries,
            sbi.journalV2CommitBlock⟩
          nextHead := start }
  else if sbi.ringEnd - sbi.ringStart ≤ needed then .error .enospc
  else if start = tail then
    -- Empty ring: the head is normalized after every complete segment.
    if sbi.ringEnd < start + needed then .ok (place sbi.ringStart) else .ok (place start)
  else if start < tail then
    if tail < start + needed then .error .enospc else .ok (place start)
  else if sbi.ringEnd < start + needed then
    -- Use the free prefix; no transaction crosses the ring end.
    if tail - sbi.ringStart < needed then .error .enospc else .ok (place sbi.ringStart)
  else .ok (place start)

/-- `cryexts_journal_v3_begin`. -/
def journalV3Begin : Kernel Unit := do
  let w ← Routine.read
  if w.sbi.journalActiveSequence ≠ 0 then Routine.fail (w.sbi.journalError.getD .euclean)
  else if w.sbi.journalV3PayloadCapacity = 0 then Routine.fail .eopnotsupp
  else Routine.modify fun w =>
    { w with sbi := { w.sbi.journalV3ClearRuntime with
        journalActiveSequence := u64 (w.sbi.journalSequence + 1) } }

/-- The image loop of the commit: every home block is read from its buffer,
described and logged. -/
def logImages (payloadStart : Nat) :
    List Nat → Nat → Block → Nat → Kernel (Block × Nat)
  | [], _, descriptor, payloadChecksum => return (descriptor, payloadChecksum)
  | homeBlock :: rest, index, descriptor, payloadChecksum => do
    let payload ← readFileBlock homeBlock
    journalV3WriteSync (payloadStart + index) payload
    logImages payloadStart rest (index + 1)
      (descriptor.setAll
        (JournalV3Entry.members index homeBlock (fnv1aUpdate FNV_OFFSET payload)))
      (fnv1aUpdate payloadChecksum payload)

/-- The home loop of the fixed layout's commit. -/
def checkpointImages (descriptor : Block) (payloadStart : Nat) : List Nat → Nat → Kernel Unit
  | [], _ => return ()
  | homeBlock :: rest, index => do
    let payload ← readFileBlock (payloadStart + index)
    Routine.require (fnv1aUpdate FNV_OFFSET payload =
      (JournalV3Entry.ofBlock descriptor index).payloadChecksum) .euclean
    journalV3WriteSync homeBlock payload
    checkpointImages descriptor payloadStart rest (index + 1)

/-- `cryexts_super_set_recovery` outside the transaction's own record set. -/
def superSetRecoveryUnlogged (needed : Bool) (w : World) : World :=
  let after := superSetRecovery needed { w with sbi := { w.sbi with journalReplaying := true } }
  { after with sbi := { after.sbi with journalReplaying := false } }

def setDiskJournalSequence (sequence : Nat) (w : World) : World :=
  { w with cache := store w.cache 0 ((w.cache 0).set Super.journalSequence sequence) }

/-- What the first half of a commit leaves for the second. -/
structure Prepared where
  segment : JournalV3Segment
  descriptor : Block
  payloadChecksum : Nat

/-- The segment taken from the ring: an empty ring's tail moves along with it. -/
def SbInfo.takeSegment (sbi : SbInfo) (previousHead : Nat) (allocation : JournalV3Allocation) :
    SbInfo :=
  if sbi.journalRing then
    { sbi with
      journalRingTail :=
        if sbi.journalRingTail = previousHead then allocation.segment.descriptorBlock
        else sbi.journalRingTail
      journalRingHead := allocation.nextHead }
  else sbi

/-- Payload images, descriptor and PREPARED control block of a commit that began
in `start`. -/
def journalV3LogTransaction (start : World) (homeBlocks : List Nat) (segment : JournalV3Segment) :
    Kernel Prepared := do
  let sequence := start.sbi.journalActiveSequence
  let entries := homeBlocks.length
  kmalloc
  let (descriptor, payloadChecksum) ← logImages segment.payloadStart homeBlocks 0
    (journalV3PrepareDescriptor entries sequence segment.payloadStart segment.commitBlock)
    FNV_OFFSET
  let payloadChecksum := if entries = 0 then 0 else payloadChecksum
  let descriptor := journalV3FinishDescriptor descriptor
  journalV3WriteSync segment.descriptorBlock descriptor
  let w ← Routine.read
  journalV3WriteSync w.sbi.journalBlock
    (journalV3PrepareControl w.sbi JOURNAL_V3_STATE_PREPARED start.sbi.journalSequence
      sequence start.sbi.journalCheckpointSequence segment)
  return { segment, descriptor, payloadChecksum }

/-- The first half of `cryexts_journal_v3_commit`: everything before the commit
block is attempted. -/
def journalV3Prepare : Kernel Prepared := do
  let start ← Routine.read
  Routine.modify (setDiskJournalSequence start.sbi.journalActiveSequence)
  Routine.modify gdtPrepareWrite
  Routine.modify (superSetRecovery true)
  let w ← Routine.read
  match w.sbi.journalError with
  | some err => Routine.fail err
  | none => do
    match journalV3RingAllocate w.sbi w.sbi.journalHomeBlocks.length with
    | .error err => Routine.fail err
    | .ok allocation => do
      Routine.modify fun w =>
        { w with sbi := w.sbi.takeSegment start.sbi.journalRingHead allocation }
      journalV3LogTransaction start w.sbi.journalHomeBlocks allocation.segment

/-- The second half for the ring: the transaction is complete once its commit
record is; home blocks are left to the checkpoint. -/
def journalV3FinishRing (sequence checkpointSequence : Nat) (segment : JournalV3Segment) :
    Kernel Unit := do
  let w ← Routine.read
  journalV3WriteSync w.sbi.journalBlock
    (journalV3PrepareControl w.sbi JOURNAL_V3_STATE_COMMITTED sequence 0 checkpointSequence
      segment)
  Routine.modify fun w =>
    { w with sbi := { w.sbi with
        journalSequence := sequence
        journalLastSequence := sequence }.journalV3ClearRuntime }

/-- The second half for the fixed layout: checkpoint at once, then reset the journal. -/
def journalV3FinishFixed (previousSequence sequence : Nat) (prepared : Prepared) :
    Kernel Unit := do
  let w ← Routine.read
  let segment := prepared.segment
  journalV3WriteSync w.sbi.journalBlock
    (journalV3PrepareControl w.sbi JOURNAL_V3_STATE_CHECKPOINTING sequence sequence
      previousSequence segment)
  checkpointImages prepared.descriptor segment.payloadStart w.sbi.journalHomeBlocks 0
  Routine.modify (superSetRecoveryUnlogged false)
  syncSingleBlock 0
  journalV3WriteSync segment.descriptorBlock (journalV3EmptyDescriptor sequence segment)
  journalV3WriteSync segment.commitBlock (journalV3EmptyCommit sequence segment)
  let w ← Routine.read
  journalV3WriteSync w.sbi.journalBlock
    (journalV3PrepareControl w.sbi JOURNAL_V3_STATE_IDLE sequence 0 sequence segment)
  Routine.modify fun w =>
    { w with sbi := { w.sbi with
        journalSequence := sequence
        journalLastSequence := sequence
        journalTailSequence := sequence
        journalCheckpointSequence := sequence }.journalV3ClearRuntime }

/-- `out_clear_recovery`: the commit block was not attempted, so the transaction
is dropped. -/
def journalV3ClearRecovery (start : World) (w : World) : World :=
  let restored :=
    if w.sbi.journalRing then
      { w with sbi := { w.sbi with
          journalRingHead := start.sbi.journalRingHead
          journalRingTail := start.sbi.journalRingTail } }
    else w
  let cleared :=
    superSetRecoveryUnlogged false
      (setDiskJournalSequence start.sbi.journalSequence restored)
  { cleared with sbi := cleared.sbi.journalV3ClearRuntime }

/-- `cryexts_journal_v3_commit`. -/
def journalV3Commit : Kernel Unit := do
  let start ← Routine.read
  let sequence := start.sbi.journalActiveSequence
  match start.sbi.journalError with
  | some err => do
    Routine.modify fun w => { w with sbi := w.sbi.journalV3ClearRuntime }
    Routine.fail err
  | none => do
    let prepared ← journalV3Prepare.onFailure fun _ =>
      Routine.modify (journalV3ClearRecovery start)
    let finish : Kernel Unit := do
      journalV3WriteSync prepared.segment.commitBlock
        (journalV3PrepareCommit prepared.segment.payloadBlocks sequence
          (prepared.descriptor.get journalChecksum) prepared.payloadChecksum true
          prepared.segment.descriptorBlock)
      if start.sbi.journalRing then
        journalV3FinishRing sequence start.sbi.journalCheckpointSequence prepared.segment
      else journalV3FinishFixed start.sbi.journalSequence sequence prepared
    finish.onFailure fun err =>
      Routine.modify fun w => { w with sbi := { w.sbi with journalError := some err } }

/-- `cryexts_journal_v3_abort`. -/
def journalV3Abort (w : World) : World := { w with sbi := w.sbi.journalV3ClearRuntime }

/-- The checks over the payloads, entry by entry. Only the replays ask that no two
entries name one home block. -/
def verifyPayloads (distinct : Bool) (descriptor : Block) (payloadStart : Nat) :
    List Nat → Nat → Kernel Nat
  | [], aggregate => return aggregate
  | index :: rest, aggregate => do
    let w ← Routine.read
    let entry := JournalV3Entry.ofBlock descriptor index
    Routine.require (entry.homeBlock < blocksCount w ∧
      ¬ w.sbi.JournalBlockIsInternal entry.homeBlock ∧ entry.flags = 0) .euclean
    Routine.require (distinct = false ∨ ∀ earlier, earlier < index →
      (JournalV3Entry.ofBlock descriptor earlier).homeBlock ≠ entry.homeBlock) .euclean
    let payload ← readFileBlock (payloadStart + index)
    Routine.require (fnv1aUpdate FNV_OFFSET payload = entry.payloadChecksum) .euclean
    verifyPayloads distinct descriptor payloadStart rest (fnv1aUpdate aggregate payload)

/-- Every payload written home, in entry order. -/
def writeHome (descriptor : Block) (payloadStart : Nat) : List Nat → Kernel Unit
  | [] => return ()
  | index :: rest => do
    let payload ← readFileBlock (payloadStart + index)
    journalV3WriteSync (JournalV3Entry.ofBlock descriptor index).homeBlock payload
    writeHome descriptor payloadStart rest

/-- The descriptor checks the checkpoint and the ring replay share. -/
def SegmentHeaderValid (sbi : SbInfo) (position previousSequence : Nat) (buf : Block) : Prop :=
  let descriptor := JournalV3Descriptor.ofBlock buf
  descriptor.magic = JOURNAL_V3_MAGIC ∧
    descriptor.layoutVersion = JOURNAL_V3_LAYOUT_VERSION ∧
    descriptor.blockType = JOURNAL_V3_BLOCK_DESCRIPTOR ∧ ChecksumValid buf ∧
    descriptor.entryCount ≤ sbi.journalV3PayloadCapacity ∧
    descriptor.payloadStart = position + 1 ∧
    descriptor.commitBlock = descriptor.payloadStart + descriptor.entryCount ∧
    previousSequence < descriptor.sequence

instance (sbi : SbInfo) (position previousSequence : Nat) (buf : Block) :
    Decidable (SegmentHeaderValid sbi position previousSequence buf) := by
  unfold SegmentHeaderValid
  infer_instance

/-- The commit block names the segment its descriptor opened. -/
def CommitMatches (position : Nat) (descriptorBuf commitBuf : Block) : Prop :=
  let descriptor := JournalV3Descriptor.ofBlock descriptorBuf
  let commit := JournalV3Commit.ofBlock commitBuf
  commit.magic = JOURNAL_V3_MAGIC ∧ commit.layoutVersion = JOURNAL_V3_LAYOUT_VERSION ∧
    commit.blockType = JOURNAL_V3_BLOCK_COMMIT ∧ commit.descriptorBlock = position ∧
    commit.entryCount = descriptor.entryCount ∧ commit.sequence = descriptor.sequence ∧
    ChecksumValid commitBuf

instance (position : Nat) (descriptorBuf commitBuf : Block) :
    Decidable (CommitMatches position descriptorBuf commitBuf) := by
  unfold CommitMatches
  infer_instance

/-- The control block behind a checkpointed segment. An emptied ring has its superblock
marked clean first. -/
def journalV3SettleTail (emptied : Bool) (lastSequence sequence : Nat)
    (segment : JournalV3Segment) : Kernel Unit := do
  if emptied then do
    Routine.modify (superSetRecoveryUnlogged false)
    syncSingleBlock 0
    let w ← Routine.read
    journalV3WriteSync w.sbi.journalBlock
      (journalV3PrepareControl w.sbi JOURNAL_V3_STATE_IDLE lastSequence 0 sequence segment)
  else do
    let w ← Routine.read
    journalV3WriteSync w.sbi.journalBlock
      (journalV3PrepareControl w.sbi JOURNAL_V3_STATE_COMMITTED lastSequence 0 sequence segment)

/-- `cryexts_journal_v3_checkpoint_one`. -/
def journalV3CheckpointOne : Kernel Unit := do
  let start ← Routine.read
  let lastSequence := start.sbi.journalLastSequence
  let descriptorBlock := start.sbi.journalRingTail
  let checkpointSequence := start.sbi.journalCheckpointSequence
  if start.sbi.journalRing = false ∨ descriptorBlock = start.sbi.journalRingHead then return ()
  else do
    kmalloc
    let descriptorBuf ← readFileBlock descriptorBlock
    let descriptor := JournalV3Descriptor.ofBlock descriptorBuf
    Routine.require
      (SegmentHeaderValid start.sbi descriptorBlock checkpointSequence descriptorBuf) .euclean
    let commitBuf ← readFileBlock descriptor.commitBlock
    let commit := JournalV3Commit.ofBlock commitBuf
    Routine.require (CommitMatches descriptorBlock descriptorBuf commitBuf ∧
      commit.flags = JOURNAL_V3_FLAG_COMMITTED ∧
      commit.descriptorChecksum = descriptor.checksum) .euclean
    let segment : JournalV3Segment := ⟨descriptorBlock, descriptor.payloadStart,
      descriptor.entryCount, descriptor.commitBlock⟩
    journalV3WriteSync start.sbi.journalBlock
      (journalV3PrepareControl start.sbi JOURNAL_V3_STATE_CHECKPOINTING lastSequence 0
        checkpointSequence segment)
    let indices := List.range descriptor.entryCount
    let aggregate ← verifyPayloads false descriptorBuf descriptor.payloadStart indices FNV_OFFSET
    let aggregate := if descriptor.entryCount = 0 then 0 else aggregate
    Routine.require (aggregate = commit.payloadChecksum) .euclean
    writeHome descriptorBuf descriptor.payloadStart indices
    let nextTail := start.sbi.ringWrap (descriptor.commitBlock + 1)
    Routine.modify fun w =>
      { w with sbi := { w.sbi with
          journalRingTail := nextTail
          journalTailSequence := descriptor.sequence
          journalCheckpointSequence := descriptor.sequence } }
    journalV3SettleTail (decide (nextTail = start.sbi.journalRingHead)) lastSequence
      descriptor.sequence segment

/-- The loop of `cryexts_journal_checkpoint_sync`. A successful step raises the
checkpoint sequence, which is what bounds it. -/
def checkpointLoop (w : World) : Except Errno Unit × World :=
  if w.sbi.journalRingTail = w.sbi.journalRingHead then (.ok (), w)
  else
    match journalV3CheckpointOne w with
    | (.error err, after) => (.error err, after)
    | (.ok (), after) =>
      if w.sbi.journalCheckpointSequence < after.sbi.journalCheckpointSequence ∧
          after.sbi.journalCheckpointSequence < 2 ^ 64 then
        checkpointLoop after
      else (.ok (), after)
termination_by 2 ^ 64 - w.sbi.journalCheckpointSequence
decreasing_by omega

/-- `cryexts_journal_checkpoint_sync`. -/
def journalCheckpointSync : Kernel Unit := fun w =>
  if w.sbi.journalEnabled = false ∨ w.sbi.journalV3 = false ∨ w.sbi.journalRing = false then
    (.ok (), w)
  else checkpointLoop w

end Cryexts
