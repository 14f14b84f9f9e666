import Cryexts.Journal.ReplayKept
import Cryexts.Journal.ReplayWalk

set_option autoImplicit false

namespace Cryexts

open WriteLog (store applyWrites)

/-- The control block names a ring whose segments are to be applied. -/
structure RingPending (w : World) : Prop where
  inside : w.sbi.journalBlock < w.size
  control : ControlHeaderValid w.sbi (JournalV3Control.ofBlock (w.disk w.sbi.journalBlock)) ∧
    w.sbi.RingValid (JournalV3Control.ofBlock (w.disk w.sbi.journalBlock)) ∧
    ChecksumValid (w.disk w.sbi.journalBlock)
  live : (JournalV3Control.ofBlock (w.disk w.sbi.journalBlock)).state ≠ JOURNAL_V3_STATE_IDLE
  known : (JournalV3Control.ofBlock (w.disk w.sbi.journalBlock)).state ≤
    JOURNAL_V3_STATE_CHECKPOINTING

/-- What the fixed layout's replay asks of the one transaction before it writes a home block. -/
structure FixedAccepted (sbi : SbInfo) (cells : Nat → Block) : Prop where
  control : ControlHeaderValid sbi (JournalV3Control.ofBlock (cells sbi.journalBlock)) ∧
    ControlPlacesFixed sbi (JournalV3Control.ofBlock (cells sbi.journalBlock))
      sbi.journalV2PayloadAreaBlocks ∧
    sbi.RingValid (JournalV3Control.ofBlock (cells sbi.journalBlock)) ∧
    ChecksumValid (cells sbi.journalBlock)
  sequences : ControlSequencesValid (JournalV3Control.ofBlock (cells sbi.journalBlock))
  descriptor : ReplayDescriptorValid sbi
    (JournalV3Control.ofBlock (cells sbi.journalBlock)).activeSequence
    (cells sbi.journalV2DescriptorBlock)
  commit : ReplayCommitReadable sbi (cells sbi.journalV2CommitBlock)
  matched : (JournalV3Commit.ofBlock (cells sbi.journalV2CommitBlock)).flags =
      JOURNAL_V3_FLAG_COMMITTED ∧
    (JournalV3Commit.ofBlock (cells sbi.journalV2CommitBlock)).entryCount =
      (JournalV3Descriptor.ofBlock (cells sbi.journalV2DescriptorBlock)).entryCount ∧
    (JournalV3Commit.ofBlock (cells sbi.journalV2CommitBlock)).sequence =
      (JournalV3Control.ofBlock (cells sbi.journalBlock)).activeSequence ∧
    (JournalV3Commit.ofBlock (cells sbi.journalV2CommitBlock)).descriptorChecksum =
      (JournalV3Descriptor.ofBlock (cells sbi.journalV2DescriptorBlock)).checksum
  entries : ∀ index, index ∈ List.range
      (JournalV3Descriptor.ofBlock (cells sbi.journalV2DescriptorBlock)).entryCount →
    EntryReplayable sbi ((cells 0).get Super.blocksCount) (cells sbi.journalV2DescriptorBlock)
      sbi.journalV2PayloadStart cells index
  payloads : (JournalV3Commit.ofBlock (cells sbi.journalV2CommitBlock)).payloadChecksum =
    if (JournalV3Descriptor.ofBlock (cells sbi.journalV2DescriptorBlock)).entryCount = 0 then 0
    else imagesChecksum (homeImages (cells sbi.journalV2DescriptorBlock)
      sbi.journalV2PayloadStart cells (List.range
        (JournalV3Descriptor.ofBlock (cells sbi.journalV2DescriptorBlock)).entryCount)) FNV_OFFSET

/-- The content of a home block is a payload of a transaction of which all the checks hold. -/
def ReplayCarries (w : World) (block : Nat) (content : Block) : Prop :=
  if w.sbi.journalRing then
    RingPending w ∧ ∃ position last found, SegmentCarries w.sbi w.size
      (JournalV3Control.ofBlock (w.disk w.sbi.journalBlock)).ringHead
      (JournalV3Control.ofBlock (w.disk w.sbi.journalBlock)).ringTail
      (JournalV3Control.ofBlock (w.disk w.sbi.journalBlock)).checkpointSequence w.disk block
      content position last found
  else
    FixedAccepted w.sbi w.disk ∧ ∃ index, index <
      (JournalV3Descriptor.ofBlock (w.disk w.sbi.journalV2DescriptorBlock)).entryCount ∧
      (JournalV3Entry.ofBlock (w.disk w.sbi.journalV2DescriptorBlock) index).homeBlock = block ∧
      w.disk (w.sbi.journalV2PayloadStart + index) = content

/-- A replay that rejects the journal has changed no home block, and one that succeeds has
changed home blocks to payloads it accepted only. -/
structure ReplayFaithful (w : World) (outcome : Except Errno Unit × World) : Prop where
  rejected : outcome.1 = .error .euclean → ∀ block, ¬ w.sbi.area.Inside block → block ≠ 0 →
    outcome.2.disk block = w.disk block
  carried : outcome.1 = .ok () → ∀ block, ¬ w.sbi.area.Inside block → block ≠ 0 →
    outcome.2.disk block ≠ w.disk block → ReplayCarries w block (outcome.2.disk block)

theorem ReplayFaithful.failed {w after : World} {err : Errno} (other : err ≠ .euclean) :
    ReplayFaithful w (.error err, after) := by
  constructor
  · intro rejected
    injection rejected with same
    exact absurd same other
  · intro success
    cases success

theorem ReplayFaithful.kept {w : World} {outcome : Except Errno Unit × World}
    (kept : DiskKept (ReplayPlaces w.sbi.area) w outcome.2) : ReplayFaithful w outcome := by
  have same : ∀ block, ¬ w.sbi.area.Inside block → block ≠ 0 →
      outcome.2.disk block = w.disk block := by
    intro block outside away
    apply kept.disk
    rintro (zero | inside)
    · exact away zero
    · exact outside inside
  constructor
  · exact fun _ => same
  · intro _ block outside away changed
    exact absurd (same block outside away) changed

/-- The segments before a refused one leave every home block as it is. -/
def RingHarmless (w : World) : Prop :=
  RingPending w → ∀ final last content, RingApplied w.sbi w.size
    (JournalV3Control.ofBlock (w.disk w.sbi.journalBlock)).ringHead
    (JournalV3Control.ofBlock (w.disk w.sbi.journalBlock)).ringTail
    (JournalV3Control.ofBlock (w.disk w.sbi.journalBlock)).checkpointSequence w.disk final last
    content → final ≠ (JournalV3Control.ofBlock (w.disk w.sbi.journalBlock)).ringHead →
    SegmentRefused w.sbi content final last w.size
      (JournalV3Control.ofBlock (w.disk w.sbi.journalBlock)).ringHead →
    ∀ block, ¬ w.sbi.area.Inside block → block ≠ 0 → content block = w.disk block

/-- `cryexts_journal_v3_replay_ring` behind the read of its control block. -/
def replayRingControl (w : World) (controlBuf : Block) : Kernel Unit := do
  let control := JournalV3Control.ofBlock controlBuf
  Routine.require (ControlHeaderValid w.sbi control ∧ w.sbi.RingValid control ∧
    ChecksumValid controlBuf) .euclean
  if control.state = JOURNAL_V3_STATE_IDLE then
    if journalNeedsRecovery w = false then journalV3ValidateClean
    else do
      Routine.require (control.activeSequence = 0 ∧
        control.checkpointSequence = control.lastSequence) .euclean
      replayRingDiscard control.ringHead control.lastSequence
  else do
    Routine.require (control.state ≤ JOURNAL_V3_STATE_CHECKPOINTING) .euclean
    let lastSequence ← replayRingWalk control.ringHead control.ringTail
      control.checkpointSequence control.lastSequence
    replayRingDiscard control.ringHead lastSequence

section Ring

variable {w : World} (long : 3 ≤ w.sbi.journalBlocks) (ring : w.sbi.journalRing = true)
include long ring

/-- The walk and what follows it. -/
theorem replayRingWalk_faithful (pending : RingPending w) (harmless : RingHarmless w)
    {start : World} (sbi : start.sbi = w.sbi) (size : start.size = w.size)
    (here : Holds start w.disk) :
    ReplayFaithful w ((replayRingWalk
        (JournalV3Control.ofBlock (w.disk w.sbi.journalBlock)).ringHead
        (JournalV3Control.ofBlock (w.disk w.sbi.journalBlock)).ringTail
        (JournalV3Control.ofBlock (w.disk w.sbi.journalBlock)).checkpointSequence
        (JournalV3Control.ofBlock (w.disk w.sbi.journalBlock)).lastSequence >>= fun lastSequence =>
      replayRingDiscard (JournalV3Control.ofBlock (w.disk w.sbi.journalBlock)).ringHead
        lastSequence) start) := by
  have valid := pending.control.2.1
  have known := harmless pending
  generalize controlIs : JournalV3Control.ofBlock (w.disk w.sbi.journalBlock) = control at *
  unfold SbInfo.RingValid at valid
  rw [if_pos ring] at valid
  obtain ⟨_, _, headLow, headHigh, tailLow, tailHigh, _⟩ := valid
  have step := replayRingWalk_step control.ringHead control.ringTail control.checkpointSequence
    control.lastSequence start w.disk here
  generalize ranIs : replayRingWalk control.ringHead control.ringTail control.checkpointSequence
    control.lastSequence start = ran at step
  cases step with
  | failed after =>
      rw [Routine.bind_error _ _ _ _ _ ranIs]
      exact ReplayFaithful.failed (by decide)
  | refused final last content after chain apart refused held =>
      rw [Routine.bind_error _ _ _ _ _ ranIs]
      rw [sbi, size] at chain refused
      constructor
      · intro _ block outside away
        show after.disk block = _
        rw [held.disk]
        exact known final last content chain apart refused block outside away
      · intro success
        cases success
  | arrived result final last content after chain ends held same quieter =>
      rw [Routine.bind_ok _ _ _ _ _ ranIs]
      rw [sbi, size] at chain
      rw [sbi] at ends same
      have high : final < w.sbi.ringEnd := by
        rcases ends with here | unfinished
        · rw [here]
          exact headHigh
        · have start : (segmentHeader content final).payloadStart = final + 1 :=
            unfinished.1.2.2.2.2.2.1
          have stop : (segmentHeader content final).commitBlock =
              (segmentHeader content final).payloadStart +
                (segmentHeader content final).entryCount := unfinished.1.2.2.2.2.2.2.1
          have inside := commitBlock_inside (unfinished.2.2 ▸ headHigh)
          omega
      have quiet := replayRingDiscard_kept held.idle (by rw [same]; omega) control.ringHead
        result
      rw [same] at quiet
      constructor
      · intro rejected
        exact absurd rejected (replayRingDiscard_unrejecting control.ringHead result after)
      · intro _ block outside away
        have kept := quiet.disk block (by
          rintro (zero | inside)
          · exact away zero
          · exact outside inside)
        rw [kept, held.disk]
        intro changed
        have carried := (chain.carries tailLow high block).resolve_left changed
        rw [ReplayCarries, if_pos ring, controlIs]
        exact ⟨pending, carried⟩

/-- The ring's replay behind the read of its control block. -/
theorem replayRingControl_faithful (holds : Holds w w.disk) (harmless : RingHarmless w)
    (inside : w.sbi.journalBlock < w.size) (faults : List Bool) :
    ReplayFaithful w
      (replayRingControl w (w.disk w.sbi.journalBlock) (w.failing faults)) := by
  have silent : DiskKept (ReplayPlaces w.sbi.area) w (w.failing faults) :=
    DiskKept.silent rfl rfl
  rw [replayRingControl]
  by_cases control : ControlHeaderValid w.sbi
      (JournalV3Control.ofBlock (w.disk w.sbi.journalBlock)) ∧
      w.sbi.RingValid (JournalV3Control.ofBlock (w.disk w.sbi.journalBlock)) ∧
      ChecksumValid (w.disk w.sbi.journalBlock)
  case neg =>
    rw [Routine.require, if_neg control]
    exact ReplayFaithful.kept silent
  rw [Routine.require_bind _ _ _ _ control]
  by_cases idle : (JournalV3Control.ofBlock (w.disk w.sbi.journalBlock)).state =
      JOURNAL_V3_STATE_IDLE
  · rw [if_pos idle]
    by_cases clean : journalNeedsRecovery w = false
    · rw [if_pos clean]
      exact ReplayFaithful.kept
        (IsTrans.trans _ _ _ silent (journalV3ValidateClean_kept (w.failing faults)))
    rw [if_neg clean]
    by_cases sequences :
        (JournalV3Control.ofBlock (w.disk w.sbi.journalBlock)).activeSequence = 0 ∧
        (JournalV3Control.ofBlock (w.disk w.sbi.journalBlock)).checkpointSequence =
          (JournalV3Control.ofBlock (w.disk w.sbi.journalBlock)).lastSequence
    · rw [Routine.require_bind _ _ _ _ sequences]
      have same := holds.failing faults
      exact ReplayFaithful.kept
        (IsTrans.trans _ _ _ silent (replayRingDiscard_kept same.idle (Nat.le_of_succ_le long) _ _))
    · rw [Routine.require, if_neg sequences]
      exact ReplayFaithful.kept silent
  rw [if_neg idle]
  by_cases known : (JournalV3Control.ofBlock (w.disk w.sbi.journalBlock)).state ≤
      JOURNAL_V3_STATE_CHECKPOINTING
  · rw [Routine.require_bind _ _ _ _ known]
    exact replayRingWalk_faithful long ring ⟨inside, control, idle, known⟩ harmless rfl rfl
      (holds.failing faults)
  · rw [Routine.require, if_neg known]
    exact ReplayFaithful.kept silent

/-- The ring's replay is faithful on a content all whose prefixes are harmless. -/
theorem journalV3ReplayRing_faithful (holds : Holds w w.disk) (harmless : RingHarmless w) :
    ReplayFaithful w (journalV3ReplayRing w) := by
  rw [journalV3ReplayRing]
  rcases kmalloc_found w with ⟨alloc, _⟩ | alloc
  · rw [Routine.bind_error _ _ _ _ _ alloc]
    exact ReplayFaithful.failed (by decide)
  rw [Routine.bind_ok _ _ _ _ _ alloc, Routine.read_bind]
  show ReplayFaithful w ((readFileBlock w.sbi.journalBlock >>= replayRingControl w) _)
  have one := holds.failing w.faults.tail
  rcases readFileBlock_found one.current w.sbi.journalBlock with ⟨read, _⟩ | ⟨read, inside⟩
  · rw [Routine.bind_error _ _ _ _ _ read]
    exact ReplayFaithful.failed (by decide)
  · rw [Routine.bind_ok _ _ _ _ _ read, World.failing_cache, holds.cache]
    exact replayRingControl_faithful long ring holds harmless inside _

omit long ring in
/-- A refused segment behind a chain: the chain is applied and the journal rejected. -/
theorem RingPending.rejects (pending : RingPending w) (holds : Holds w w.disk)
    (quiet : w.faults = []) {final last : Nat} {content : Nat → Block}
    (chain : RingApplied w.sbi w.size
      (JournalV3Control.ofBlock (w.disk w.sbi.journalBlock)).ringHead
      (JournalV3Control.ofBlock (w.disk w.sbi.journalBlock)).ringTail
      (JournalV3Control.ofBlock (w.disk w.sbi.journalBlock)).checkpointSequence w.disk final last
      content)
    (apart : final ≠ (JournalV3Control.ofBlock (w.disk w.sbi.journalBlock)).ringHead)
    (refused : SegmentRefused w.sbi content final last w.size
      (JournalV3Control.ofBlock (w.disk w.sbi.journalBlock)).ringHead) :
    ∃ after, journalV3ReplayRing w = (.error .euclean, after) ∧ after.disk = content := by
  have quieter : w.faults.tail = [] := Quieter.tail _ quiet
  have alloc := (kmalloc_found w).resolve_left fun failed => failed.2 quiet
  have one := holds.failing w.faults.tail
  have read := (readFileBlock_found one.current w.sbi.journalBlock).resolve_left fun failed =>
    absurd pending.inside (Nat.not_lt.mpr (failed.2 quieter))
  obtain ⟨after, walks, disk⟩ := chain.walks apart refused (w.failing w.faults.tail.tail)
    (JournalV3Control.ofBlock (w.disk w.sbi.journalBlock)).lastSequence rfl rfl
    (holds.failing _) (Quieter.tail _ quieter)
  refine ⟨after, ?_, disk⟩
  rw [journalV3ReplayRing, Routine.bind_ok _ _ _ _ _ alloc, Routine.read_bind]
  show (readFileBlock w.sbi.journalBlock >>= replayRingControl w) _ = _
  rw [Routine.bind_ok _ _ _ _ _ read.1, World.failing_cache, holds.cache, replayRingControl,
    Routine.require_bind _ _ _ _ pending.control, if_neg pending.live,
    Routine.require_bind _ _ _ _ pending.known]
  exact Routine.bind_error _ _ _ _ _ walks

omit long ring in
/-- And it is not on any other. -/
theorem RingHarmless.of_faithful (holds : Holds w w.disk) (quiet : w.faults = [])
    (faithful : ReplayFaithful w (journalV3ReplayRing w)) : RingHarmless w := by
  intro pending final last content chain apart refused block outside away
  obtain ⟨after, result, disk⟩ := pending.rejects holds quiet chain apart refused
  rw [result] at faithful
  rw [← disk]
  exact faithful.rejected rfl block outside away

omit long ring in
/-- A replay that succeeds has met no segment it refuses. -/
theorem RingHarmless.of_success (holds : Holds w w.disk) (quiet : w.faults = []) {after : World}
    (success : journalV3ReplayRing w = (.ok (), after)) : RingHarmless w := by
  intro pending final last content chain apart refused
  obtain ⟨rejected, result, _⟩ := pending.rejects holds quiet chain apart refused
  rw [success] at result
  cases congrArg Prod.fst result

end Ring

end Cryexts
