import Cryexts.Journal.ReplayFaithful

set_option autoImplicit false

namespace Cryexts

open WriteLog (store applyWrites)

section Fixed

variable {w : World}

/-- The fixed layout's home writes are the payloads that were checked. -/
theorem FixedAccepted.copies (accepted : FixedAccepted w.sbi w.disk) (control : Block) :
    homeCopies (w.disk w.sbi.journalV2DescriptorBlock) w.sbi.journalV2PayloadStart
        (List.range (JournalV3Descriptor.ofBlock
          (w.disk w.sbi.journalV2DescriptorBlock)).entryCount)
        (store w.disk w.sbi.journalBlock control) =
      homeImages (w.disk w.sbi.journalV2DescriptorBlock) w.sbi.journalV2PayloadStart w.disk
        (List.range (JournalV3Descriptor.ofBlock
          (w.disk w.sbi.journalV2DescriptorBlock)).entryCount) := by
  have inside : ∀ index, index ∈ List.range (JournalV3Descriptor.ofBlock
      (w.disk w.sbi.journalV2DescriptorBlock)).entryCount →
      w.sbi.journalBlock < w.sbi.journalV2PayloadStart + index ∧
        w.sbi.JournalBlockIsInternal (w.sbi.journalV2PayloadStart + index) := by
    intro index member
    have small := List.mem_range.mp member
    have fits : (JournalV3Descriptor.ofBlock
        (w.disk w.sbi.journalV2DescriptorBlock)).entryCount ≤ w.sbi.journalV3PayloadCapacity :=
      accepted.descriptor.2.2.2.2.2.2.2.1
    unfold SbInfo.journalV3PayloadCapacity at fits
    unfold SbInfo.JournalBlockIsInternal SbInfo.journalV2PayloadStart
    split at fits <;> omega
  rw [homeCopies_apart]
  · apply homeImages_congr
    intro index member
    apply WriteLog.store_other
    have above := (inside index member).1
    omega
  · intro index member other among same
    have outside := (accepted.entries index member).entry.2.1
    rw [← same] at outside
    exact outside (inside other among).2

/-- The places the fixed layout's replay works with. -/
def fixedPlaces (sbi : SbInfo) : JournalV3Segment :=
  ⟨sbi.journalV2DescriptorBlock, sbi.journalV2PayloadStart, sbi.journalV2PayloadAreaBlocks,
    sbi.journalV2CommitBlock⟩

/-- The fixed layout's replay behind its checks. -/
def applyTransaction (control : JournalV3Control) (descriptorBuf : Block)
    (places : JournalV3Segment) : Kernel Unit := do
  let w ← Routine.read
  journalV3WriteSync w.sbi.journalBlock
    (journalV3PrepareControl w.sbi JOURNAL_V3_STATE_CHECKPOINTING control.activeSequence
      control.activeSequence control.checkpointSequence
      { places with payloadBlocks := (JournalV3Descriptor.ofBlock descriptorBuf).entryCount })
  replayHome descriptorBuf places.payloadStart (JournalV3Descriptor.ofBlock descriptorBuf).entryCount
  replayDiscard control.activeSequence places

/-- `cryexts_journal_v3_replay` of the fixed layout from its reads of the descriptor and the
commit block on. -/
def replayFixedRecord (sbi : SbInfo) (control : JournalV3Control) : Kernel Unit := do
  let descriptorBuf ← readFileBlock sbi.journalV2DescriptorBlock
  let commitBuf ← readFileBlock sbi.journalV2CommitBlock
  Routine.require (ReplayDescriptorValid sbi control.activeSequence descriptorBuf) .euclean
  if ReplayCommitReadable sbi commitBuf ∧ (JournalV3Commit.ofBlock commitBuf).flags ≠ 0 then
    replayTransaction control descriptorBuf commitBuf (fixedPlaces sbi)
  else if control.state = JOURNAL_V3_STATE_PREPARED then
    replayDiscard control.lastSequence (fixedPlaces sbi)
  else Routine.fail .euclean

/-- `cryexts_journal_v3_replay` of the fixed layout behind the read of its control block. -/
def replayFixedControl (w : World) (controlBuf : Block) : Kernel Unit := do
  let control := JournalV3Control.ofBlock controlBuf
  Routine.require (ControlHeaderValid w.sbi control ∧
    ControlPlacesFixed w.sbi control w.sbi.journalV2PayloadAreaBlocks ∧
    w.sbi.RingValid control ∧ ChecksumValid controlBuf) .euclean
  if control.state = JOURNAL_V3_STATE_IDLE then
    if journalNeedsRecovery w = false then journalV3ValidateClean
    else do
      Routine.require (control.activeSequence = 0 ∧
        control.checkpointSequence = control.lastSequence) .euclean
      replayDiscard control.lastSequence (fixedPlaces w.sbi)
  else do
    Routine.require (control.state ≤ JOURNAL_V3_STATE_CHECKPOINTING) .euclean
    Routine.require (ControlSequencesValid control) .euclean
    if control.state = JOURNAL_V3_STATE_CHECKPOINTING ∧ journalNeedsRecovery w = false then
      replayDiscard control.lastSequence (fixedPlaces w.sbi)
    else if control.state = JOURNAL_V3_STATE_ACTIVE then
      replayDiscard control.lastSequence (fixedPlaces w.sbi)
    else replayFixedRecord w.sbi control

theorem fixedPlaces_inside {sbi : SbInfo} (long : 3 ≤ sbi.journalBlocks) :
    sbi.area.Inside (fixedPlaces sbi).descriptorBlock ∧
      sbi.area.Inside (fixedPlaces sbi).commitBlock := by
  constructor
  · show sbi.journalBlock ≤ sbi.journalBlock + 1 ∧
      sbi.journalBlock + 1 < sbi.journalBlock + sbi.journalBlocks
    omega
  · show sbi.journalBlock ≤ sbi.journalBlock + sbi.journalBlocks - 1 ∧
      sbi.journalBlock + sbi.journalBlocks - 1 < sbi.journalBlock + sbi.journalBlocks
    omega

variable (long : 3 ≤ w.sbi.journalBlocks) (fixed : w.sbi.journalRing = false)
variable (holds : Holds w w.disk)
include long fixed holds

theorem applyTransaction_faithful (accepted : FixedAccepted w.sbi w.disk) (faults : List Bool) :
    ReplayFaithful w (applyTransaction (JournalV3Control.ofBlock (w.disk w.sbi.journalBlock))
      (w.disk w.sbi.journalV2DescriptorBlock) (fixedPlaces w.sbi) (w.failing faults)) := by
  rw [applyTransaction, Routine.read_bind]
  generalize journalV3PrepareControl _ _ _ _ _ _ = mark
  have start := holds.failing faults
  rcases writeSync_reached start.current w.sbi.journalBlock mark with ⟨after, put, _⟩ | ⟨put, _⟩
  · rw [World.failing_sbi, Routine.bind_error _ _ _ _ _ put]
    exact ReplayFaithful.failed (by decide)
  rw [World.failing_sbi, Routine.bind_ok _ _ _ _ _ put]
  have marked : Holds (((w.failing faults).written w.sbi.journalBlock mark).failing
      (w.failing faults).faults.tail.tail) (store w.disk w.sbi.journalBlock mark) :=
    (start.writtenAll [(w.sbi.journalBlock, mark)]).failing _
  generalize beginIs : ((w.failing faults).written w.sbi.journalBlock mark).failing
    (w.failing faults).faults.tail.tail = begun at marked
  have sbi : begun.sbi = w.sbi := by
    rw [← beginIs]
    rfl
  rcases replayHome_reached marked.current marked.idle (w.disk w.sbi.journalV2DescriptorBlock)
    (fixedPlaces w.sbi).payloadStart _ with ⟨after, run, _⟩ | ⟨later, run, _, _⟩
  · rw [Routine.bind_error _ _ _ _ _ run]
    exact ReplayFaithful.failed (by decide)
  rw [Routine.bind_ok _ _ _ _ _ run, marked.cache]
  rw [show (fixedPlaces w.sbi).payloadStart = w.sbi.journalV2PayloadStart from rfl,
    accepted.copies mark]
  have home := ((marked.writtenAll (homeImages (w.disk w.sbi.journalV2DescriptorBlock)
    w.sbi.journalV2PayloadStart w.disk (List.range (JournalV3Descriptor.ofBlock
      (w.disk w.sbi.journalV2DescriptorBlock)).entryCount))).failing later)
  generalize endIs : (begun.writtenAll _).failing later = final at home
  have same : final.sbi = w.sbi := by
    rw [← endIs]
    exact (World.writtenAll_sbi _ _).trans sbi
  have kept := replayDiscard_kept home.idle (by rw [same]; exact Nat.le_of_succ_le long)
    (JournalV3Control.ofBlock (w.disk w.sbi.journalBlock)).activeSequence (fixedPlaces w.sbi)
    (by rw [same]; exact (fixedPlaces_inside long).1)
    (by rw [same]; exact (fixedPlaces_inside long).2)
  constructor
  · intro rejected
    exact absurd rejected (replayDiscard_unrejecting _ _ final)
  · intro _ block outside away
    rw [same] at kept
    have last := kept.disk block (by
      rintro (zero | inside)
      · exact away zero
      · exact outside inside)
    rw [last, home.disk]
    intro changed
    rw [ReplayCarries, if_neg (by rw [fixed]; exact Bool.false_ne_true)]
    refine ⟨accepted, ?_⟩
    rcases WriteLog.applyWrites_mem_or_other (store w.disk w.sbi.journalBlock mark)
      (homeImages (w.disk w.sbi.journalV2DescriptorBlock) w.sbi.journalV2PayloadStart w.disk
        (List.range (JournalV3Descriptor.ofBlock
          (w.disk w.sbi.journalV2DescriptorBlock)).entryCount)) block with other | member
    · rw [other] at changed
      refine absurd (WriteLog.store_other _ _ _ _ ?_) changed
      intro here
      apply outside
      rw [here]
      show w.sbi.journalBlock ≤ w.sbi.journalBlock ∧ w.sbi.journalBlock < w.sbi.journalBlock + w.sbi.journalBlocks
      omega
    · generalize applyWrites _ _ block = value at member ⊢
      obtain ⟨index, among, image⟩ := List.mem_map.mp member
      obtain ⟨named, payload⟩ := Prod.mk.inj image
      exact ⟨index, List.mem_range.mp among, named, payload⟩

/-- From the validated commit record on. -/
theorem replayTransaction_faithful
    (control : ControlHeaderValid w.sbi (JournalV3Control.ofBlock (w.disk w.sbi.journalBlock)) ∧
      ControlPlacesFixed w.sbi (JournalV3Control.ofBlock (w.disk w.sbi.journalBlock))
        w.sbi.journalV2PayloadAreaBlocks ∧
      w.sbi.RingValid (JournalV3Control.ofBlock (w.disk w.sbi.journalBlock)) ∧
      ChecksumValid (w.disk w.sbi.journalBlock))
    (sequences : ControlSequencesValid (JournalV3Control.ofBlock (w.disk w.sbi.journalBlock)))
    (descriptor : ReplayDescriptorValid w.sbi
      (JournalV3Control.ofBlock (w.disk w.sbi.journalBlock)).activeSequence
      (w.disk w.sbi.journalV2DescriptorBlock))
    (commit : ReplayCommitReadable w.sbi (w.disk w.sbi.journalV2CommitBlock))
    (faults : List Bool) :
    ReplayFaithful w (replayTransaction (JournalV3Control.ofBlock (w.disk w.sbi.journalBlock))
      (w.disk w.sbi.journalV2DescriptorBlock) (w.disk w.sbi.journalV2CommitBlock)
      (fixedPlaces w.sbi) (w.failing faults)) := by
  have silent : ∀ later, DiskKept (ReplayPlaces w.sbi.area) w (w.failing later) :=
    fun later => DiskKept.silent rfl rfl
  rw [replayTransaction]
  by_cases matched : (JournalV3Commit.ofBlock (w.disk w.sbi.journalV2CommitBlock)).flags =
        JOURNAL_V3_FLAG_COMMITTED ∧
      (JournalV3Commit.ofBlock (w.disk w.sbi.journalV2CommitBlock)).entryCount =
        (JournalV3Descriptor.ofBlock (w.disk w.sbi.journalV2DescriptorBlock)).entryCount ∧
      (JournalV3Commit.ofBlock (w.disk w.sbi.journalV2CommitBlock)).sequence =
        (JournalV3Control.ofBlock (w.disk w.sbi.journalBlock)).activeSequence ∧
      (JournalV3Commit.ofBlock (w.disk w.sbi.journalV2CommitBlock)).descriptorChecksum =
        (JournalV3Descriptor.ofBlock (w.disk w.sbi.journalV2DescriptorBlock)).checksum
  case neg =>
    rw [Routine.require, if_neg matched]
    exact ReplayFaithful.kept (silent _)
  rw [Routine.require_bind _ _ _ _ matched]
  have start := holds.failing faults
  rcases verifyPayloads_replay start.current (w.disk w.sbi.journalV2DescriptorBlock)
    (fixedPlaces w.sbi).payloadStart (List.range (JournalV3Descriptor.ofBlock
      (w.disk w.sbi.journalV2DescriptorBlock)).entryCount) FNV_OFFSET with
    ⟨later, run, _⟩ | ⟨later, run, _⟩ | ⟨later, run, _, entries⟩
  · rw [Routine.bind_error _ _ _ _ _ run]
    exact ReplayFaithful.failed (by decide)
  · rw [Routine.bind_error _ _ _ _ _ run]
    exact ReplayFaithful.kept (silent later)
  rw [World.failing_cache, holds.cache] at run entries
  have count : blocksCount (w.failing faults) = (w.disk 0).get Super.blocksCount := by
    rw [← holds.cache]
    rfl
  rw [count] at entries
  rw [Routine.bind_ok _ _ _ _ _ run]
  by_cases payloads :
      (JournalV3Commit.ofBlock (w.disk w.sbi.journalV2CommitBlock)).payloadChecksum =
      if (JournalV3Descriptor.ofBlock (w.disk w.sbi.journalV2DescriptorBlock)).entryCount = 0 then 0
      else imagesChecksum (homeImages (w.disk w.sbi.journalV2DescriptorBlock)
        (fixedPlaces w.sbi).payloadStart w.disk (List.range
          (JournalV3Descriptor.ofBlock (w.disk w.sbi.journalV2DescriptorBlock)).entryCount))
            FNV_OFFSET
  · rw [Routine.require_bind _ _ _ _ payloads]
    exact applyTransaction_faithful long fixed holds
      ⟨control, sequences, descriptor, commit, matched, entries, payloads⟩ later
  · rw [Routine.require, if_neg payloads]
    exact ReplayFaithful.kept (silent later)

/-- The fixed layout's replay behind the reads of the descriptor and the commit block. -/
theorem replayFixedRecord_faithful
    (control : ControlHeaderValid w.sbi (JournalV3Control.ofBlock (w.disk w.sbi.journalBlock)) ∧
      ControlPlacesFixed w.sbi (JournalV3Control.ofBlock (w.disk w.sbi.journalBlock))
        w.sbi.journalV2PayloadAreaBlocks ∧
      w.sbi.RingValid (JournalV3Control.ofBlock (w.disk w.sbi.journalBlock)) ∧
      ChecksumValid (w.disk w.sbi.journalBlock))
    (sequences : ControlSequencesValid (JournalV3Control.ofBlock (w.disk w.sbi.journalBlock)))
    (faults : List Bool) :
    ReplayFaithful w (replayFixedRecord w.sbi
      (JournalV3Control.ofBlock (w.disk w.sbi.journalBlock)) (w.failing faults)) := by
  have start := holds.failing faults
  have silent : ∀ later, DiskKept (ReplayPlaces w.sbi.area) w (w.failing later) :=
    fun later => DiskKept.silent rfl rfl
  rw [replayFixedRecord]
  rcases readFileBlock_found start.current w.sbi.journalV2DescriptorBlock with
    ⟨read, _⟩ | ⟨read, _⟩
  · rw [Routine.bind_error _ _ _ _ _ read]
    exact ReplayFaithful.failed (by decide)
  rw [Routine.bind_ok _ _ _ _ _ read, World.failing_cache, holds.cache, World.failing_failing]
  generalize (w.failing faults).faults.tail = faults'
  have next := holds.failing faults'
  rcases readFileBlock_found next.current w.sbi.journalV2CommitBlock with ⟨read, _⟩ | ⟨read, _⟩
  · rw [Routine.bind_error _ _ _ _ _ read]
    exact ReplayFaithful.failed (by decide)
  rw [Routine.bind_ok _ _ _ _ _ read, World.failing_cache, holds.cache, World.failing_failing]
  generalize (w.failing faults').faults.tail = later
  have discarded : ReplayFaithful w (replayDiscard
      (JournalV3Control.ofBlock (w.disk w.sbi.journalBlock)).lastSequence (fixedPlaces w.sbi)
      (w.failing later)) := by
    apply ReplayFaithful.kept
    refine IsTrans.trans _ _ _ (silent later) ?_
    have same := holds.failing later
    exact replayDiscard_kept same.idle (Nat.le_of_succ_le long) _ _ (fixedPlaces_inside long).1
      (fixedPlaces_inside long).2
  by_cases descriptor : ReplayDescriptorValid w.sbi
      (JournalV3Control.ofBlock (w.disk w.sbi.journalBlock)).activeSequence
      (w.disk w.sbi.journalV2DescriptorBlock)
  case neg =>
    rw [Routine.require, if_neg descriptor]
    exact ReplayFaithful.kept (silent later)
  rw [Routine.require_bind _ _ _ _ descriptor]
  by_cases commit : ReplayCommitReadable w.sbi (w.disk w.sbi.journalV2CommitBlock) ∧
      (JournalV3Commit.ofBlock (w.disk w.sbi.journalV2CommitBlock)).flags ≠ 0
  · rw [if_pos commit]
    exact replayTransaction_faithful long fixed holds control sequences descriptor commit.1 later
  rw [if_neg commit]
  by_cases prepared : (JournalV3Control.ofBlock (w.disk w.sbi.journalBlock)).state =
      JOURNAL_V3_STATE_PREPARED
  · rw [if_pos prepared]
    exact discarded
  · rw [if_neg prepared]
    exact ReplayFaithful.kept (silent later)

/-- The fixed layout's replay behind the read of its control block. -/
theorem replayFixedControl_faithful (faults : List Bool) :
    ReplayFaithful w (replayFixedControl w (w.disk w.sbi.journalBlock) (w.failing faults)) := by
  have silent : DiskKept (ReplayPlaces w.sbi.area) w (w.failing faults) :=
    DiskKept.silent rfl rfl
  have discarded : ReplayFaithful w (replayDiscard
      (JournalV3Control.ofBlock (w.disk w.sbi.journalBlock)).lastSequence (fixedPlaces w.sbi)
      (w.failing faults)) := by
    apply ReplayFaithful.kept
    refine IsTrans.trans _ _ _ silent ?_
    have same := holds.failing faults
    exact replayDiscard_kept same.idle (Nat.le_of_succ_le long) _ _ (fixedPlaces_inside long).1
      (fixedPlaces_inside long).2
  rw [replayFixedControl]
  by_cases control : ControlHeaderValid w.sbi
      (JournalV3Control.ofBlock (w.disk w.sbi.journalBlock)) ∧
      ControlPlacesFixed w.sbi (JournalV3Control.ofBlock (w.disk w.sbi.journalBlock))
        w.sbi.journalV2PayloadAreaBlocks ∧
      w.sbi.RingValid (JournalV3Control.ofBlock (w.disk w.sbi.journalBlock)) ∧
      ChecksumValid (w.disk w.sbi.journalBlock)
  case neg =>
    rw [Routine.require, if_neg control]
    exact ReplayFaithful.kept silent
  rw [Routine.require_bind _ _ _ _ control]
  by_cases idle : (JournalV3Control.ofBlock (w.disk w.sbi.journalBlock)).state =
      JOURNAL_V3_STATE_IDLE
  · rw [if_pos idle]
    by_cases clean : journalNeedsRecovery w = false
    · rw [if_pos clean]
      exact ReplayFaithful.kept
        (IsTrans.trans _ _ _ silent (journalV3ValidateClean_kept (w.failing faults)))
    rw [if_neg clean]
    by_cases empty : (JournalV3Control.ofBlock (w.disk w.sbi.journalBlock)).activeSequence = 0 ∧
        (JournalV3Control.ofBlock (w.disk w.sbi.journalBlock)).checkpointSequence =
          (JournalV3Control.ofBlock (w.disk w.sbi.journalBlock)).lastSequence
    · rw [Routine.require_bind _ _ _ _ empty]
      exact discarded
    · rw [Routine.require, if_neg empty]
      exact ReplayFaithful.kept silent
  rw [if_neg idle]
  by_cases known : (JournalV3Control.ofBlock (w.disk w.sbi.journalBlock)).state ≤
      JOURNAL_V3_STATE_CHECKPOINTING
  case neg =>
    rw [Routine.require, if_neg known]
    exact ReplayFaithful.kept silent
  rw [Routine.require_bind _ _ _ _ known]
  by_cases sequences : ControlSequencesValid
      (JournalV3Control.ofBlock (w.disk w.sbi.journalBlock))
  case neg =>
    rw [Routine.require, if_neg sequences]
    exact ReplayFaithful.kept silent
  rw [Routine.require_bind _ _ _ _ sequences]
  by_cases finished : (JournalV3Control.ofBlock (w.disk w.sbi.journalBlock)).state =
      JOURNAL_V3_STATE_CHECKPOINTING ∧ journalNeedsRecovery w = false
  · rw [if_pos finished]
    exact discarded
  rw [if_neg finished]
  by_cases active : (JournalV3Control.ofBlock (w.disk w.sbi.journalBlock)).state =
      JOURNAL_V3_STATE_ACTIVE
  · rw [if_pos active]
    exact discarded
  · rw [if_neg active]
    exact replayFixedRecord_faithful long fixed holds control sequences faults

/-- The fixed layout's replay is faithful on every content. -/
theorem journalV3ReplayFixed_faithful : ReplayFaithful w (journalV3ReplayFixed w) := by
  rw [journalV3ReplayFixed]
  rcases kmalloc_found w with ⟨alloc, _⟩ | alloc
  · rw [Routine.bind_error _ _ _ _ _ alloc]
    exact ReplayFaithful.failed (by decide)
  rw [Routine.bind_ok _ _ _ _ _ alloc, Routine.read_bind]
  show ReplayFaithful w ((readFileBlock w.sbi.journalBlock >>= replayFixedControl w) _)
  have one := holds.failing w.faults.tail
  rcases readFileBlock_found one.current w.sbi.journalBlock with ⟨read, _⟩ | ⟨read, _⟩
  · rw [Routine.bind_error _ _ _ _ _ read]
    exact ReplayFaithful.failed (by decide)
  · rw [Routine.bind_ok _ _ _ _ _ read, World.failing_cache, holds.cache]
    exact replayFixedControl_faithful long fixed holds _

end Fixed

end Cryexts
