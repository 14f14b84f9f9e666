import Cryexts.Journal.Settled

set_option autoImplicit false

namespace Cryexts

open Routine (Moves)
open WriteLog (store applyWrites Along along_cons)

section Finish

variable {w : World} (idle : w.sbi.journalReplaying = false) (first : 0 < w.sbi.journalBlock)
variable (long : 2 ≤ w.sbi.journalBlocks)
include idle first long

/-- The end of a replay writes the superblock before anything else. -/
theorem finishReplay_settled (lastSequence : Nat) (places : JournalV3Segment)
    (descriptor : w.sbi.area.Inside places.descriptorBlock)
    (commit : w.sbi.area.Inside places.commitBlock) :
    KeepsAlong (Settled w.sbi.area) w (finishReplay lastSequence places w).2 := by
  rw [finishReplay, Routine.modify_bind, Routine.modify_bind,
    superSetRecoveryUnlogged_eq false (setDiskJournalSequence lastSequence w) idle]
  have clean := recoveredSuper_paired false ((setDiskJournalSequence lastSequence w).cache 0)
    (setDiskJournalSequence lastSequence w).sbi.nextIno
    (setDiskJournalSequence lastSequence w).sbi.nextDataBlock
  generalize recoveredSuper _ _ _ _ = super at clean
  generalize startIs : (setDiskJournalSequence lastSequence w).dirtyBuffer 0 super = start
  have begun : start.sbi = w.sbi ∧ start.base = w.base ∧ start.log = w.log ∧
      start.cache 0 = super ∧ start.dirty 0 = true := by
    rw [← startIs]
    refine ⟨rfl, rfl, rfl, ?_, ?_⟩
    · rw [World.dirtyBuffer_cache, WriteLog.store_same]
    · simp only [World.dirtyBuffer, WriteLog.store_same]
  obtain ⟨sbi, base, log, buffer, pending⟩ := begun
  have sync := syncSingleBlock_eq start 0 pending
  split at sync
  · rw [Routine.bind_error _ _ _ _ _ sync]
    exact KeepsAlong.silent base log
  split at sync
  · rw [Routine.bind_error _ _ _ _ _ sync]
    exact KeepsAlong.silent base log
  rw [Routine.bind_ok _ _ _ _ _ sync]
  generalize syncedIs : ({ World.stored _ _ _ with faults := _ } : World) = synced
  have stored : synced.sbi = w.sbi ∧ synced.base = w.base ∧
      synced.log = w.log ++ [(0, super)] := by
    rw [← syncedIs, ← sbi, ← base, ← log, ← buffer]
    exact ⟨rfl, rfl, rfl⟩
  obtain ⟨sbi, base, log⟩ := stored
  have reset := journalV3ResetDisk_kept synced lastSequence places (by rwa [sbi]) (by rwa [sbi])
    (by rwa [sbi])
  rw [sbi] at reset
  obtain ⟨writes, more, inside⟩ := reset.log
  have apart (write : Nat × Block) (member : write ∈ writes) : write.1 ≠ 0 := by
    have low := (inside write member).1
    simp only [SbInfo.area] at low
    omega
  have whole : ∀ after : World, after.base = synced.base → after.log = synced.log ++ writes →
      KeepsAlong (Settled w.sbi.area) w after := by
    intro after same grown
    apply KeepsAlong.written ((0, super) :: writes) (same.trans base)
    · rw [grown, log, List.append_assoc]
      rfl
    · exact fun settled => settled.closed clean apart
  rcases Routine.bind_cases (journalV3ResetDisk lastSequence places)
    (fun _ => Routine.modify fun w => { w with sbi := w.sbi.journalV3ClearRuntime }) synced with
    ⟨_, after, ran, stopped⟩ | ⟨_, after, ran, finished⟩
  · rw [ran] at reset more
    rw [stopped]
    exact whole after reset.base more
  · rw [ran] at reset more
    rw [finished]
    exact whole _ reset.base more

theorem replayDiscard_settled (lastSequence : Nat) (places : JournalV3Segment)
    (descriptor : w.sbi.area.Inside places.descriptorBlock)
    (commit : w.sbi.area.Inside places.commitBlock) :
    KeepsAlong (Settled w.sbi.area) w (replayDiscard lastSequence places w).2 := by
  rw [replayDiscard, Routine.modify_bind]
  have begun : KeepsAlong (Settled w.sbi.area) w
      { w with sbi := setSequences lastSequence w.sbi } := KeepsAlong.silent rfl rfl
  exact begun.trans (finishReplay_settled (w := { w with sbi := setSequences lastSequence w.sbi })
    idle first long lastSequence places descriptor commit)

theorem replayRingDiscard_settled (head lastSequence : Nat) :
    KeepsAlong (Settled w.sbi.area) w (replayRingDiscard head lastSequence w).2 := by
  rw [replayRingDiscard, Routine.read_bind, Routine.modify_bind]
  have begun : KeepsAlong (Settled w.sbi.area) w
      { w with sbi := discardedSbi w.sbi head lastSequence } := KeepsAlong.silent rfl rfl
  apply begun.trans
  apply finishReplay_settled (w := { w with sbi := discardedSbi w.sbi head lastSequence }) idle
    first long lastSequence (ringResetPlaces w.sbi)
  · show w.sbi.journalBlock ≤ w.sbi.journalBlock + 1 ∧
      w.sbi.journalBlock + 1 < w.sbi.journalBlock + w.sbi.journalBlocks
    omega
  · show w.sbi.journalBlock ≤ w.sbi.journalBlock + w.sbi.journalBlocks - 1 ∧
      w.sbi.journalBlock + w.sbi.journalBlocks - 1 < w.sbi.journalBlock + w.sbi.journalBlocks
    omega

end Finish

/-- What `discard` leaves of a fixed journal. -/
theorem replayDiscard_left {w : World} {area : JournalArea} (holds : Holds w w.disk)
    (calm : w.faults = []) (same : w.sbi.area = area) (fixed : w.sbi.journalRing = false)
    (first : 0 < area.first) (long : 4 ≤ area.blocks) (room : area.first + area.blocks ≤ w.size)
    (last : Nat) (places : JournalV3Segment) :
    ∃ written : World, replayDiscard last places w =
        (.ok (), { written with sbi := settledSbi w.sbi last }) ∧
      written.Healthy ∧ written.size = w.size ∧ written.cache = written.disk ∧
      Paired (written.disk 0) := by
  have healthy : w.Healthy := ⟨calm, holds.current⟩
  have disk := World.writtenAll_disk w
    (finishWrites (setSequences last w.sbi) (w.cache 0) last places)
  refine ⟨_, replayDiscard_run healthy holds.idle same fixed long room last places,
    World.writtenAll_healthy _ _ healthy, World.writtenAll_size _ _, ?_, ?_⟩
  · rw [World.writtenAll_cache, disk, holds.cache]
  · rw [disk, finishWrites_super (setSequences last w.sbi) first w.disk last places
      (resetWrites_fixed same fixed long last places)]
    exact recoveredSuper_paired _ _ _ _

/-- What a replay comes to: it stops on the way, takes the journal as it is, or discards it. -/
inductive ReplayEnds (w : World) (discards : Kernel Unit → Prop) : Except Errno Unit × World → Prop
  | stopped (err : Errno) (after : World) (keeps : KeepsAlong (Settled w.sbi.area) w after) :
      ReplayEnds w discards (.error err, after)
  | clean : ReplayEnds w discards (journalV3ValidateClean w)
  | discarded (body : Kernel Unit) (discard : discards body) (middle : World)
      (keeps : KeepsAlong (Settled w.sbi.area) w middle) (holds : Holds middle middle.disk)
      (calm : middle.faults = []) (sbi : middle.sbi = w.sbi) (size : middle.size = w.size) :
      ReplayEnds w discards (body middle)

/-- `discard` of a ring, at a head inside it. -/
def RingDiscards (sbi : SbInfo) (body : Kernel Unit) : Prop :=
  ∃ head last, body = replayRingDiscard head last ∧ sbi.ringStart ≤ head ∧ head < sbi.ringEnd ∧
    last < 2 ^ 64

/-- `discard` in the fixed layout. -/
def FixedDiscards (sbi : SbInfo) (body : Kernel Unit) : Prop :=
  ∃ last, body = replayDiscard last (fixedPlaces sbi) ∧ last < 2 ^ 64

/-- The walk ends with a sequence that fits into its field. -/
theorem replayRingWalk_small (head position previous lastSequence : Nat) (w : World)
    (small : lastSequence < 2 ^ 64) {last : Nat} {after : World}
    (ran : replayRingWalk head position previous lastSequence w = (.ok last, after)) :
    last < 2 ^ 64 := by
  induction position, previous, lastSequence, w using replayRingWalk.induct head with
  | case1 previous lastSequence w =>
      rw [replayRingWalk, if_pos rfl] at ran
      rw [← Except.ok.inj (Prod.mk.inj ran).1]
      exact small
  | case2 position previous lastSequence w apart err stopped step =>
      rw [replayRingWalk, if_neg apart, step] at ran
      cases ran
  | case3 position previous lastSequence w apart unfinished step =>
      rw [replayRingWalk, if_neg apart, step] at ran
      rw [← Except.ok.inj (Prod.mk.inj ran).1]
      exact small
  | case4 position previous lastSequence w apart segment applied step ih =>
      rw [replayRingWalk, if_neg apart, step] at ran
      exact ih segment.bounded ran

/-- Home writes leave the control block of a journal that is in use. -/
theorem WritesIn.busy {area : JournalArea} {w after : World} (long : 0 < area.blocks)
    (writes : WritesIn (fun block => ¬ area.Inside block) w after) :
    KeepsAlong (Busy area) w after := by
  obtain ⟨log, same, outside⟩ := writes.log
  apply KeepsAlong.written log writes.base same
  intro busy count
  apply busy.written
  intro write member here
  apply (outside write (List.mem_of_mem_take member)).1
  rw [here]
  unfold JournalArea.Inside
  omega

/-- As long as the control block shows a journal in use, the superblock may say anything. -/
theorem KeepsAlong.settled {area : JournalArea} {w after : World} (busy : Busy area w.disk)
    (keeps : KeepsAlong (Busy area) w after) : KeepsAlong (Settled area) w after := by
  obtain ⟨writes, log, along⟩ := keeps.log
  exact KeepsAlong.written writes keeps.base log fun _ => (along busy).mono fun _ => Or.inl

section Ends

variable {w : World} (healthy : w.Healthy) (holds : Holds w w.disk)
include healthy holds

/-- The replay of a ring. -/
theorem journalV3ReplayRing_ends (ring : w.sbi.journalRing = true)
    (inside : w.sbi.journalBlock < w.size) :
    ReplayEnds w (RingDiscards w.sbi) (journalV3ReplayRing w) := by
  have found : w.cache = w.disk := holds.cache
  have start : journalV3ReplayRing w = replayRingControl w (w.disk w.sbi.journalBlock) w := by
    rw [journalV3ReplayRing, kmalloc_bind w healthy, Routine.read_bind,
      readFileBlock_bind w healthy _ _ inside, found]
    rfl
  have silent : KeepsAlong (Settled w.sbi.area) w w := KeepsAlong.silent rfl rfl
  rw [start, replayRingControl]
  by_cases control : ControlHeaderValid w.sbi
      (JournalV3Control.ofBlock (w.disk w.sbi.journalBlock)) ∧
      w.sbi.RingValid (JournalV3Control.ofBlock (w.disk w.sbi.journalBlock)) ∧
      ChecksumValid (w.disk w.sbi.journalBlock)
  case neg =>
    rw [Routine.require, if_neg control]
    exact ReplayEnds.stopped _ _ silent
  rw [Routine.require_bind _ _ _ _ control]
  have bounds := (ringValid_bounds ring control.2.1).2
  obtain ⟨_, _, headLow, headHigh, _⟩ : _ ∧ _ ∧ _ ∧ _ ∧ _ := by
    have valid := control.2.1
    unfold SbInfo.RingValid at valid
    rwa [if_pos ring] at valid
  have small : (JournalV3Control.ofBlock (w.disk w.sbi.journalBlock)).lastSequence < 2 ^ 64 :=
    ByteBuf.get_lt _ ⟨24, 8⟩
  by_cases idle : (JournalV3Control.ofBlock (w.disk w.sbi.journalBlock)).state =
      JOURNAL_V3_STATE_IDLE
  · rw [if_pos idle]
    by_cases clean : journalNeedsRecovery w = false
    · rw [if_pos clean]
      exact ReplayEnds.clean
    rw [if_neg clean]
    by_cases sequences :
        (JournalV3Control.ofBlock (w.disk w.sbi.journalBlock)).activeSequence = 0 ∧
        (JournalV3Control.ofBlock (w.disk w.sbi.journalBlock)).checkpointSequence =
          (JournalV3Control.ofBlock (w.disk w.sbi.journalBlock)).lastSequence
    · rw [Routine.require_bind _ _ _ _ sequences]
      exact ReplayEnds.discarded _ ⟨_, _, rfl, headLow, headHigh, small⟩ w silent holds
        healthy.noFaults rfl rfl
    · rw [Routine.require, if_neg sequences]
      exact ReplayEnds.stopped _ _ silent
  rw [if_neg idle]
  have busy : Busy w.sbi.area w.disk := idle
  by_cases known : (JournalV3Control.ofBlock (w.disk w.sbi.journalBlock)).state ≤
      JOURNAL_V3_STATE_CHECKPOINTING
  case neg =>
    rw [Routine.require, if_neg known]
    exact ReplayEnds.stopped _ _ silent
  rw [Routine.require_bind _ _ _ _ known]
  generalize JournalV3Control.ofBlock (w.disk w.sbi.journalBlock) = control at headLow headHigh small
  have walked := replayRingWalk_writes control.ringHead control.ringTail control.checkpointSequence
    control.lastSequence w
  have keeps := (walked.busy (by simp only [SbInfo.area]; omega)).settled busy
  have step := replayRingWalk_step control.ringHead control.ringTail control.checkpointSequence
    control.lastSequence w w.disk holds
  cases ran : replayRingWalk control.ringHead control.ringTail control.checkpointSequence
    control.lastSequence w with
  | mk outcome after =>
      rw [ran] at walked keeps step
      cases outcome with
      | error err =>
          rw [Routine.bind_error _ _ _ _ _ ran]
          exact ReplayEnds.stopped _ _ keeps
      | ok last =>
          rw [Routine.bind_ok _ _ _ _ _ ran]
          cases step with
          | arrived result final sequence content ended chain ends held same quieter =>
              have bounded := replayRingWalk_small _ _ _ _ _ small ran
              have own : Holds after after.disk := by
                rw [held.disk]
                exact held
              exact ReplayEnds.discarded _ ⟨_, _, rfl, headLow, headHigh, bounded⟩ after keeps own
                (quieter healthy.noFaults) same walked.size

section Fixed

variable (inside : w.sbi.journalBlock < w.size) (long : 0 < w.sbi.journalBlocks)
include inside long

omit healthy holds inside in
/-- The home writes of the fixed layout's replay, over a control block that is marked. -/
theorem replayHome_ends {middle : World} (marked : KeepsAlong (Settled w.sbi.area) w middle)
    (held : Holds middle middle.disk) (busy : Busy w.sbi.area middle.disk)
    (sbi : middle.sbi = w.sbi) (size : middle.size = w.size) (calm : middle.faults = [])
    (sequence : Nat) (descriptorBuf : Block) (small : sequence < 2 ^ 64)
    (homes : ∀ index, index < (JournalV3Descriptor.ofBlock descriptorBuf).entryCount →
      ¬ w.sbi.area.Inside (JournalV3Entry.ofBlock descriptorBuf index).homeBlock) :
    ReplayEnds w (FixedDiscards w.sbi) ((do
      replayHome descriptorBuf (fixedPlaces w.sbi).payloadStart
        (JournalV3Descriptor.ofBlock descriptorBuf).entryCount
      replayDiscard sequence (fixedPlaces w.sbi) : Kernel Unit) middle) := by
  have moves : Moves (WritesIn fun block => ¬ w.sbi.area.Inside block)
      (replayHome descriptorBuf (fixedPlaces w.sbi).payloadStart
        (JournalV3Descriptor.ofBlock descriptorBuf).entryCount) := by
    apply replayHome_writes
    exact homes
  have keeps := marked.trans (((moves middle).busy long).settled busy)
  rcases replayHome_reached held.current held.idle descriptorBuf
    (fixedPlaces w.sbi).payloadStart (JournalV3Descriptor.ofBlock descriptorBuf).entryCount with
    ⟨after, run, _⟩ | ⟨later, run, quieter, _⟩
  · rw [run] at keeps
    rw [Routine.bind_error _ _ _ _ _ run]
    exact ReplayEnds.stopped _ _ keeps
  · rw [run] at keeps
    rw [Routine.bind_ok _ _ _ _ _ run]
    have final := (held.writtenAll (homeCopies descriptorBuf (fixedPlaces w.sbi).payloadStart
      (List.range (JournalV3Descriptor.ofBlock descriptorBuf).entryCount) middle.cache)).failing later
    have sbi' := (World.writtenAll_sbi middle (homeCopies descriptorBuf
      (fixedPlaces w.sbi).payloadStart (List.range
        (JournalV3Descriptor.ofBlock descriptorBuf).entryCount) middle.cache)).trans sbi
    have size' := (World.writtenAll_size middle (homeCopies descriptorBuf
      (fixedPlaces w.sbi).payloadStart (List.range
        (JournalV3Descriptor.ofBlock descriptorBuf).entryCount) middle.cache)).trans size
    generalize middle.writtenAll _ = written at keeps final sbi' size' ⊢
    have own : Holds (written.failing later) (written.failing later).disk := by
      rw [final.disk]
      exact final
    exact ReplayEnds.discarded _ ⟨_, rfl, small⟩ _ keeps own (quieter calm) sbi' size'

/-- The fixed layout's replay marks the control block before its home writes. -/
theorem applyTransaction_ends (control : JournalV3Control) (descriptorBuf : Block)
    (small : control.activeSequence < 2 ^ 64)
    (homes : ∀ index, index < (JournalV3Descriptor.ofBlock descriptorBuf).entryCount →
      ¬ w.sbi.area.Inside (JournalV3Entry.ofBlock descriptorBuf index).homeBlock) :
    ReplayEnds w (FixedDiscards w.sbi)
      (applyTransaction control descriptorBuf (fixedPlaces w.sbi) w) := by
  have marks := journalV3PrepareControl_marks w.sbi control.activeSequence control.activeSequence
    control.checkpointSequence { fixedPlaces w.sbi with
      payloadBlocks := (JournalV3Descriptor.ofBlock descriptorBuf).entryCount }
    (Nat.le_refl JOURNAL_V3_STATE_CHECKPOINTING) (by decide)
  rw [applyTransaction, Routine.read_bind, writeSync_bind w healthy _ _ _ inside]
  generalize journalV3PrepareControl _ _ _ _ _ _ = mark at marks ⊢
  have disk : (w.written w.sbi.journalBlock mark).disk =
      store w.disk w.sbi.journalBlock mark :=
    World.writtenAll_disk w [(w.sbi.journalBlock, mark)]
  have marked : KeepsAlong (Settled w.sbi.area) w (w.written w.sbi.journalBlock mark) :=
    KeepsAlong.written [(w.sbi.journalBlock, mark)] rfl rfl fun settled => settled.mark marks
  have held : Holds (w.written w.sbi.journalBlock mark) (w.written w.sbi.journalBlock mark).disk := by
    rw [disk]
    exact holds.writtenAll [(w.sbi.journalBlock, mark)]
  have busy : Busy w.sbi.area (w.written w.sbi.journalBlock mark).disk := by
    rw [disk]
    exact busy_mark _ marks
  exact replayHome_ends long marked held busy rfl rfl healthy.noFaults _ _ small homes

/-- From the validated commit record on. -/
theorem replayTransaction_ends (control : JournalV3Control) (descriptorBuf commitBuf : Block)
    (small : control.activeSequence < 2 ^ 64) :
    ReplayEnds w (FixedDiscards w.sbi)
      (replayTransaction control descriptorBuf commitBuf (fixedPlaces w.sbi) w) := by
  have silent : KeepsAlong (Settled w.sbi.area) w w := KeepsAlong.silent rfl rfl
  rw [replayTransaction]
  by_cases matched : (JournalV3Commit.ofBlock commitBuf).flags = JOURNAL_V3_FLAG_COMMITTED ∧
      (JournalV3Commit.ofBlock commitBuf).entryCount =
        (JournalV3Descriptor.ofBlock descriptorBuf).entryCount ∧
      (JournalV3Commit.ofBlock commitBuf).sequence = control.activeSequence ∧
      (JournalV3Commit.ofBlock commitBuf).descriptorChecksum =
        (JournalV3Descriptor.ofBlock descriptorBuf).checksum
  case neg =>
    rw [Routine.require, if_neg matched]
    exact ReplayEnds.stopped _ _ silent
  rw [Routine.require_bind _ _ _ _ matched]
  rcases verifyPayloads_replay holds.current descriptorBuf (fixedPlaces w.sbi).payloadStart
    (List.range (JournalV3Descriptor.ofBlock descriptorBuf).entryCount) FNV_OFFSET with
    ⟨later, run, _⟩ | ⟨later, run, _⟩ | ⟨later, run, quieter, entries⟩
  · rw [Routine.bind_error _ _ _ _ _ run]
    exact ReplayEnds.stopped _ _ (KeepsAlong.silent rfl rfl)
  · rw [Routine.bind_error _ _ _ _ _ run]
    exact ReplayEnds.stopped _ _ (KeepsAlong.silent rfl rfl)
  have same : w.failing later = w := by
    rw [World.failing, quieter healthy.noFaults, ← healthy.noFaults]
  rw [same] at run
  rw [Routine.bind_ok _ _ _ _ _ run]
  generalize imagesChecksum _ _ = sum
  by_cases payloads : (JournalV3Commit.ofBlock commitBuf).payloadChecksum =
      if (JournalV3Descriptor.ofBlock descriptorBuf).entryCount = 0 then 0 else sum
  · rw [Routine.require_bind _ _ _ _ payloads]
    apply applyTransaction_ends healthy holds inside long control descriptorBuf small
    intro index member
    exact (entries index (List.mem_range.mpr member)).entry.2.1
  · rw [Routine.require, if_neg payloads]
    exact ReplayEnds.stopped _ _ silent

/-- The fixed layout's replay behind the reads of its descriptor and its commit block. -/
theorem replayFixedRecord_ends (control : JournalV3Control)
    (small : control.activeSequence < 2 ^ 64) (small' : control.lastSequence < 2 ^ 64) :
    ReplayEnds w (FixedDiscards w.sbi) (replayFixedRecord w.sbi control w) := by
  have silent : KeepsAlong (Settled w.sbi.area) w w := KeepsAlong.silent rfl rfl
  have same : w.failing w.faults.tail = w := by
    rw [World.failing, healthy.noFaults, List.tail_nil, ← healthy.noFaults]
  rw [replayFixedRecord]
  rcases readFileBlock_found holds.current w.sbi.journalV2DescriptorBlock with
    ⟨read, _⟩ | ⟨read, _⟩
  · rw [Routine.bind_error _ _ _ _ _ read]
    exact ReplayEnds.stopped _ _ (KeepsAlong.silent rfl rfl)
  rw [Routine.bind_ok _ _ _ _ _ read, same]
  rcases readFileBlock_found holds.current w.sbi.journalV2CommitBlock with ⟨read, _⟩ | ⟨read, _⟩
  · rw [Routine.bind_error _ _ _ _ _ read]
    exact ReplayEnds.stopped _ _ (KeepsAlong.silent rfl rfl)
  rw [Routine.bind_ok _ _ _ _ _ read, same]
  generalize w.cache w.sbi.journalV2DescriptorBlock = descriptorBuf
  generalize w.cache w.sbi.journalV2CommitBlock = commitBuf
  by_cases descriptor : ReplayDescriptorValid w.sbi control.activeSequence descriptorBuf
  case neg =>
    rw [Routine.require, if_neg descriptor]
    exact ReplayEnds.stopped _ _ silent
  rw [Routine.require_bind _ _ _ _ descriptor]
  by_cases commit : ReplayCommitReadable w.sbi commitBuf ∧
      (JournalV3Commit.ofBlock commitBuf).flags ≠ 0
  · rw [if_pos commit]
    exact replayTransaction_ends healthy holds inside long control descriptorBuf commitBuf small
  rw [if_neg commit]
  by_cases prepared : control.state = JOURNAL_V3_STATE_PREPARED
  · rw [if_pos prepared]
    exact ReplayEnds.discarded _ ⟨_, rfl, small'⟩ w silent holds healthy.noFaults rfl rfl
  · rw [if_neg prepared]
    exact ReplayEnds.stopped _ _ silent

/-- The replay of a fixed journal. -/
theorem journalV3ReplayFixed_ends :
    ReplayEnds w (FixedDiscards w.sbi) (journalV3ReplayFixed w) := by
  have found : w.cache = w.disk := holds.cache
  have silent : KeepsAlong (Settled w.sbi.area) w w := KeepsAlong.silent rfl rfl
  have start : journalV3ReplayFixed w = replayFixedControl w (w.disk w.sbi.journalBlock) w := by
    rw [journalV3ReplayFixed, kmalloc_bind w healthy, Routine.read_bind,
      readFileBlock_bind w healthy _ _ inside, found]
    rfl
  rw [start, replayFixedControl]
  have small : (JournalV3Control.ofBlock (w.disk w.sbi.journalBlock)).lastSequence < 2 ^ 64 :=
    ByteBuf.get_lt _ ⟨24, 8⟩
  have small' : (JournalV3Control.ofBlock (w.disk w.sbi.journalBlock)).activeSequence < 2 ^ 64 :=
    ByteBuf.get_lt _ ⟨32, 8⟩
  generalize JournalV3Control.ofBlock (w.disk w.sbi.journalBlock) = control at small small'
  have discarded : ReplayEnds w (FixedDiscards w.sbi)
      (replayDiscard control.lastSequence (fixedPlaces w.sbi) w) :=
    ReplayEnds.discarded _ ⟨_, rfl, small⟩ w silent holds healthy.noFaults rfl rfl
  by_cases header : ControlHeaderValid w.sbi control ∧
      ControlPlacesFixed w.sbi control w.sbi.journalV2PayloadAreaBlocks ∧
      w.sbi.RingValid control ∧ ChecksumValid (w.disk w.sbi.journalBlock)
  case neg =>
    rw [Routine.require, if_neg header]
    exact ReplayEnds.stopped _ _ silent
  rw [Routine.require_bind _ _ _ _ header]
  by_cases idle : control.state = JOURNAL_V3_STATE_IDLE
  · rw [if_pos idle]
    by_cases clean : journalNeedsRecovery w = false
    · rw [if_pos clean]
      exact ReplayEnds.clean
    rw [if_neg clean]
    by_cases empty : control.activeSequence = 0 ∧ control.checkpointSequence = control.lastSequence
    · rw [Routine.require_bind _ _ _ _ empty]
      exact discarded
    · rw [Routine.require, if_neg empty]
      exact ReplayEnds.stopped _ _ silent
  rw [if_neg idle]
  by_cases known : control.state ≤ JOURNAL_V3_STATE_CHECKPOINTING
  case neg =>
    rw [Routine.require, if_neg known]
    exact ReplayEnds.stopped _ _ silent
  rw [Routine.require_bind _ _ _ _ known]
  by_cases sequences : ControlSequencesValid control
  case neg =>
    rw [Routine.require, if_neg sequences]
    exact ReplayEnds.stopped _ _ silent
  rw [Routine.require_bind _ _ _ _ sequences]
  by_cases finished : control.state = JOURNAL_V3_STATE_CHECKPOINTING ∧ journalNeedsRecovery w = false
  · rw [if_pos finished]
    exact discarded
  rw [if_neg finished]
  by_cases active : control.state = JOURNAL_V3_STATE_ACTIVE
  · rw [if_pos active]
    exact discarded
  · rw [if_neg active]
    exact replayFixedRecord_ends healthy holds inside long control small' small

end Fixed

end Ends

/-- The clean check writes nothing. -/
theorem journalV3ValidateClean_silent (holds : (Nat → Block) → Prop) (w : World) :
    KeepsAlong holds w (journalV3ValidateClean w).2 := by
  have kept : DiskKept (fun _ => False) w (journalV3ValidateClean w).2 :=
    journalV3ValidateClean_kept w
  obtain ⟨writes, log, nowhere⟩ := kept.log
  have none : writes = [] := by
    apply List.eq_nil_iff_forall_not_mem.mpr
    exact fun write member => nowhere write member
  rw [none, List.append_nil] at log
  exact KeepsAlong.silent kept.base log

theorem ReplayEnds.settled {w : World} {discards : Kernel Unit → Prop}
    {outcome : Except Errno Unit × World} (ends : ReplayEnds w discards outcome)
    (settles : ∀ body, discards body → ∀ middle : World, middle.sbi = w.sbi →
      middle.sbi.journalReplaying = false →
        KeepsAlong (Settled w.sbi.area) middle (body middle).2) :
    KeepsAlong (Settled w.sbi.area) w outcome.2 := by
  cases ends with
  | stopped err after keeps => exact keeps
  | clean => exact journalV3ValidateClean_silent _ w
  | discarded body discard middle keeps holds calm sbi size =>
      exact keeps.trans (settles body discard middle sbi holds.idle)

/-- A mount's journal state over an empty ring. -/
structure RingSettled (sbi : SbInfo) (head last : Nat) : Prop where
  closed : sbi.journalActiveSequence = 0
  recorded : sbi.journalHomeBlocks = []
  sequence : sbi.journalSequence = last
  lastIs : sbi.journalLastSequence = last
  checkpoint : sbi.journalCheckpointSequence = last
  headIs : sbi.journalRingHead = head
  tailIs : sbi.journalRingTail = head

theorem disk_with_sbi (w : World) (sbi : SbInfo) : ({ w with sbi := sbi } : World).disk = w.disk :=
  rfl

theorem discardedSbi_mount (sbi : SbInfo) (head last : Nat) :
    SameMount (discardedSbi sbi head last).journalV3ClearRuntime sbi :=
  ⟨rfl, rfl, rfl, rfl, rfl, rfl, rfl, rfl⟩

theorem fixedCleanSbi_mount (sbi : SbInfo) (last : Nat) : SameMount (fixedCleanSbi sbi last) sbi :=
  ⟨rfl, rfl, rfl, rfl, rfl, rfl, rfl, rfl⟩

theorem settledSbi_mount (sbi : SbInfo) (last : Nat) : SameMount (settledSbi sbi last) sbi :=
  ⟨rfl, rfl, rfl, rfl, rfl, rfl, rfl, rfl⟩

theorem discardedSbi_settled (sbi : SbInfo) (head last : Nat) :
    RingSettled (discardedSbi sbi head last).journalV3ClearRuntime head last :=
  ⟨rfl, rfl, rfl, rfl, rfl, rfl, rfl⟩

/-- A mount whose replay has succeeded. -/
structure Replayed (image : Nat → Block) (first : World) : Prop where
  mount : SameMount first.sbi (loadSuper image)
  buffers : first.cache = first.disk
  paired : Settled (loadSuper image).area image → Paired (first.disk 0)

section Mounting

variable {image : Nat → Block} {size : Nat} (layout : JournalLayout image size)
include layout

theorem JournalLayout.place : (loadSuper image).journalBlock < size := by
  have long := layout.long
  have room := layout.room.trans layout.homes
  unfold JOURNAL_V3_MIN_BLOCKS at long
  omega

theorem JournalLayout.ring_ends (ring : (loadSuper image).journalRing = true) :
    ReplayEnds (mounting image size) (RingDiscards (loadSuper image))
      (journalV3Replay (mounting image size)) := by
  have chosen : journalV3Replay (mounting image size) =
      journalV3ReplayRing (mounting image size) := by
    rw [journalV3Replay, Routine.read_bind, if_pos]
    exact ring
  rw [chosen]
  exact journalV3ReplayRing_ends (mounting_healthy image size) (mounting_holds image size []) ring
    layout.place

theorem JournalLayout.fixed_ends (fixed : (loadSuper image).journalRing = false) :
    ReplayEnds (mounting image size) (FixedDiscards (loadSuper image))
      (journalV3Replay (mounting image size)) := by
  have chosen : journalV3Replay (mounting image size) =
      journalV3ReplayFixed (mounting image size) := by
    rw [journalV3Replay, Routine.read_bind,
      show (mounting image size).sbi.journalRing = false from fixed, if_neg Bool.false_ne_true]
  have long : 0 < (loadSuper image).journalBlocks := lt_of_lt_of_le (by decide) layout.long
  rw [chosen]
  exact journalV3ReplayFixed_ends (mounting_healthy image size) (mounting_holds image size [])
    layout.place long

/-- Whatever a replay comes to, over an idle journal the superblock's marks say the same. -/
theorem JournalLayout.replay_settled : KeepsAlong (Settled (loadSuper image).area)
    (mounting image size) (journalV3Replay (mounting image size)).2 := by
  have long : 4 ≤ (loadSuper image).journalBlocks := layout.long
  have start (middle : World) (sbi : middle.sbi = loadSuper image) :
      0 < middle.sbi.journalBlock ∧ 2 ≤ middle.sbi.journalBlocks := by
    rw [sbi]
    exact ⟨layout.first, Nat.le_of_succ_le (Nat.le_of_succ_le long)⟩
  cases ring : (loadSuper image).journalRing with
  | true =>
      apply (layout.ring_ends ring).settled
      intro body discard middle sbi idle
      obtain ⟨head, last, rfl, _⟩ := discard
      have settled := replayRingDiscard_settled idle (start middle sbi).1 (start middle sbi).2 head
        last
      rw [sbi] at settled
      exact settled
  | false =>
      apply (layout.fixed_ends ring).settled
      intro body discard middle sbi idle
      obtain ⟨last, rfl, _⟩ := discard
      have long' : 3 ≤ middle.sbi.journalBlocks := by
        rw [show middle.sbi = loadSuper image from sbi]
        exact Nat.le_of_succ_le long
      have inside := fixedPlaces_inside long'
      have settled := replayDiscard_settled idle (start middle sbi).1 (start middle sbi).2 last
        (fixedPlaces middle.sbi) inside.1 inside.2
      rw [show middle.sbi = loadSuper image from sbi] at settled
      exact settled

theorem JournalLayout.ring_layout (ring : (loadSuper image).journalRing = true) :
    RingLayout image size :=
  ⟨layout.enabled, layout.v3, ring, layout.first, layout.long, layout.room, layout.homes,
    layout.bounded, layout.table⟩

theorem JournalLayout.mode : JournalMode (mounting image size) :=
  ⟨mounting_healthy image size, layout.enabled, layout.v3, rfl, layout.first, layout.table,
    layout.room.trans layout.homes⟩

/-- A ring that is empty already is taken as it is. -/
theorem JournalLayout.ring_idle (ring : (loadSuper image).journalRing = true) {last head : Nat}
    (control : RingControl (loadSuper image).area (image (loadSuper image).journalBlock)
      JOURNAL_V3_STATE_IDLE last 0 last head head)
    (clean : journalNeedsRecovery (mounting image size) = false) :
    journalV3Replay (mounting image size) =
      (.ok (), { mounting image size with sbi := cleanSbi (loadSuper image) last head }) := by
  have healthy := mounting_healthy image size
  have accepted := control.accepted (loadSuper image) ring rfl
  have buffers : (mounting image size).cache = image := rfl
  have sbi : (mounting image size).sbi = loadSuper image := rfl
  have ready := (layout.ring_layout ring).ready
  have done := validateClean_ring ready ring layout.long last head control
  rw [journalV3Replay, Routine.read_bind, sbi, if_pos ring, journalV3ReplayRing,
    kmalloc_bind _ healthy, Routine.read_bind, sbi, readFileBlock_bind _ healthy _ _ layout.place,
    buffers, Routine.require_bind _ _ _ _ accepted, if_pos control.stateIs, if_pos clean]
  exact done

/-- A mount of the volume over an empty ring. -/
theorem JournalLayout.ring_mounted (ring : (loadSuper image).journalRing = true) {written : World}
    {sbi : SbInfo} {head last : Nat} (healthy : written.Healthy) (same : written.size = size)
    (mount : SameMount sbi (loadSuper image)) (settled : RingSettled sbi head last)
    (buffers : written.cache = written.disk)
    (describes : Describes (written.disk 0) (loadSuper image) ((image 0).get Super.blocksCount))
    (control : RingControl (loadSuper image).area (written.disk (loadSuper image).area.first)
      JOURNAL_V3_STATE_IDLE last 0 last head head) :
    RingMounted { written with sbi := sbi } (loadSuper image).area
      ((image 0).get Super.blocksCount) := by
  have room := layout.room.trans layout.homes
  have buffer : Describes (written.cache 0) (loadSuper image)
      ((image 0).get Super.blocksCount) := by
    rw [buffers]
    exact describes
  have healthy' : ({ written with sbi := sbi } : World).Healthy :=
    ⟨healthy.noFaults, healthy.current⟩
  constructor
  case mode => exact layout.mode.of_same healthy' mount same
  case ring => exact mount.ring.trans ring
  case ready =>
    refine ⟨healthy', mount.area, buffer.blocksCount, ?_, ?_, ?_⟩
    · exact room.trans (Nat.le_of_eq same.symm)
    · exact layout.homes.trans (Nat.le_of_eq same.symm)
    · exact (Nat.le_of_eq same).trans (Nat.le_of_lt layout.bounded)
  case long => exact layout.long
  case limit => exact lt_of_le_of_lt room layout.bounded
  case describes => exact buffer.of_same mount
  case device => exact describes.of_same mount
  case journal => exact fun block _ => congrFun buffers block
  case closed => exact settled.closed
  case recorded => exact settled.recorded
  case sequence => exact settled.sequence.trans settled.lastIs.symm
  case checkpoint => exact settled.checkpoint.trans settled.lastIs.symm
  case empty => exact settled.tailIs.trans settled.headIs.symm
  case control =>
    dsimp only
    rw [settled.lastIs, settled.headIs]
    exact control

/-- A ring that the replay has discarded is mounted and empty. -/
theorem JournalLayout.ring_discarded (ring : (loadSuper image).journalRing = true)
    {middle : World} (holds : Holds middle middle.disk) (calm : middle.faults = [])
    (sbi : middle.sbi = loadSuper image) (same : middle.size = size) {head last : Nat}
    (low : (loadSuper image).ringStart ≤ head) (high : head < (loadSuper image).ringEnd)
    (small : last < 2 ^ 64)
    (describes : Describes ((replayRingDiscard head last middle).2.disk 0) (loadSuper image)
      ((image 0).get Super.blocksCount)) :
    RingMounted (replayRingDiscard head last middle).2 (loadSuper image).area
        ((image 0).get Super.blocksCount) ∧
      SameMount (replayRingDiscard head last middle).2.sbi (loadSuper image) ∧
      (replayRingDiscard head last middle).2.cache = (replayRingDiscard head last middle).2.disk := by
  have room := layout.room.trans layout.homes
  have limit := lt_of_le_of_lt room layout.bounded
  have run := replayRingDiscard_run middle ⟨calm, holds.current⟩ holds.idle
    (by rw [sbi]; exact ring) (by rw [sbi]; exact layout.long) (by rw [sbi, same]; exact room) head
    last
  have control (cells : Nat → Block) : RingControl (loadSuper image).area
      (applyWrites cells (finishWrites (discardedSbi (loadSuper image) head last) (middle.cache 0)
        last (ringResetPlaces (loadSuper image))) (loadSuper image).area.first)
      JOURNAL_V3_STATE_IDLE last 0 last head head := by
    rw [finishWrites, WriteLog.applyWrites_cons]
    exact ringReset_control ring layout.long limit low high small _
  rw [sbi] at run
  generalize finishWrites _ _ _ _ = writes at control run
  have disk : (middle.writtenAll writes).disk = applyWrites middle.disk writes :=
    World.writtenAll_disk _ _
  have cache : (middle.writtenAll writes).cache = applyWrites middle.disk writes := by
    rw [World.writtenAll_cache, holds.cache]
  have size' : (middle.writtenAll writes).size = size := (World.writtenAll_size _ _).trans same
  have healthy : (middle.writtenAll writes).Healthy :=
    World.writtenAll_healthy _ _ ⟨calm, holds.current⟩
  generalize middle.writtenAll writes = written at disk cache size' healthy run
  have mount := discardedSbi_mount (loadSuper image) head last
  have settled := discardedSbi_settled (loadSuper image) head last
  generalize (discardedSbi (loadSuper image) head last).journalV3ClearRuntime = sbi'
    at run mount settled
  have final := congrArg Prod.snd run
  dsimp only at final
  rw [final, disk_with_sbi] at describes
  rw [final, disk_with_sbi]
  refine ⟨?_, mount, cache.trans disk.symm⟩
  apply layout.ring_mounted ring healthy size' mount settled (cache.trans disk.symm) describes
  rw [disk]
  exact control middle.disk

/-- A successful replay of a ring mounts it empty. -/
theorem JournalLayout.ring_live (ring : (loadSuper image).journalRing = true) {first : World}
    (mounted : journalV3Replay (mounting image size) = (.ok (), first))
    (describes : Describes (first.disk 0) (loadSuper image) ((image 0).get Super.blocksCount)) :
    RingMounted first (loadSuper image).area ((image 0).get Super.blocksCount) ∧
      Replayed image first := by
  have keeps := layout.replay_settled
  have ends := layout.ring_ends ring
  rw [mounted] at keeps ends
  have live : RingMounted first (loadSuper image).area ((image 0).get Super.blocksCount) ∧
      SameMount first.sbi (loadSuper image) ∧ first.cache = first.disk := by
    generalize outcomeIs : ((Except.ok (), first) : Except Errno Unit × World) = outcome at ends
    cases ends with
    | stopped err after keeps => cases outcomeIs
    | clean =>
        have clean := outcomeIs.symm
        obtain ⟨last, head, _, after⟩ := (layout.ring_layout ring).of_validateClean clean
        refine ⟨(layout.ring_layout ring).mounted clean, ?_, ?_⟩
        · rw [after]
          exact cleanSbi_mount _ last head
        · rw [after, disk_with_sbi]
          rfl
    | discarded body discard middle keeps holds calm sbi same =>
        obtain ⟨head, last, rfl, low, high, small⟩ := discard
        have after : first = (replayRingDiscard head last middle).2 := congrArg Prod.snd outcomeIs
        rw [after] at describes ⊢
        exact layout.ring_discarded ring holds calm sbi same low high small describes
  obtain ⟨ready, mount, buffers⟩ := live
  refine ⟨ready, mount, buffers, ?_⟩
  intro settled
  exact (keeps.now settled).resolve_left fun busy => busy ready.control.stateIs

/-- A mount of the volume over a fixed journal. -/
theorem JournalLayout.fixed_inv (fixed : (loadSuper image).journalRing = false) {written : World}
    {sbi : SbInfo} (healthy : written.Healthy) (same : written.size = size)
    (mount : SameMount sbi (loadSuper image)) (closed : sbi.journalActiveSequence = 0)
    (recorded : sbi.journalHomeBlocks = [])
    (describes : Describes (written.cache 0) (loadSuper image) ((image 0).get Super.blocksCount)) :
    FixedInv { written with sbi := sbi } (loadSuper image).area
      ((image 0).get Super.blocksCount) := by
  have room := layout.room.trans layout.homes
  have healthy' : ({ written with sbi := sbi } : World).Healthy :=
    ⟨healthy.noFaults, healthy.current⟩
  constructor
  case mode => exact layout.mode.of_same healthy' mount same
  case fixed => exact mount.ring.trans fixed
  case ready =>
    refine ⟨healthy', mount.area, describes.blocksCount, ?_, ?_, ?_⟩
    · exact room.trans (Nat.le_of_eq same.symm)
    · exact layout.homes.trans (Nat.le_of_eq same.symm)
    · exact (Nat.le_of_eq same).trans (Nat.le_of_lt layout.bounded)
  case long => exact layout.long
  case limit => exact lt_of_le_of_lt room layout.bounded
  case describes => exact describes.of_same mount
  case records => refine ⟨?_, ?_, ?_⟩ <;> simp [recorded]
  case small =>
    show sbi.journalActiveSequence < 2 ^ 64
    rw [closed]
    exact Nat.two_pow_pos 64

/-- The fixed journal that the clean check has accepted. -/
theorem JournalLayout.fixed_clean (fixed : (loadSuper image).journalRing = false) {first : World}
    (clean : journalV3ValidateClean (mounting image size) = (.ok (), first)) :
    FixedInv first (loadSuper image).area ((image 0).get Super.blocksCount) ∧
      Replayed image first := by
  have room := layout.room.trans layout.homes
  have ready : Ready (mounting image size) (loadSuper image).area
      ((image 0).get Super.blocksCount) :=
    ⟨mounting_healthy image size, rfl, rfl, room, layout.homes, Nat.le_of_lt layout.bounded⟩
  have start := mounting_fixed ready fixed layout.first layout.long
    (lt_of_le_of_lt room layout.bounded)
  obtain ⟨last, idle, after⟩ := start.of_validate clean
  have mount := fixedCleanSbi_mount (loadSuper image) last
  rw [after]
  constructor
  · exact layout.fixed_inv fixed (mounting_healthy image size) rfl mount rfl rfl
      (loadSuper_describes image)
  · refine ⟨mount, ?_, ?_⟩
    · rw [disk_with_sbi]
      rfl
    · intro settled
      rw [disk_with_sbi]
      exact settled.resolve_left fun busy => busy idle.control.stateIs

/-- The fixed journal that a replay has discarded. -/
theorem JournalLayout.fixed_discarded (fixed : (loadSuper image).journalRing = false)
    {middle after : World} (holds : Holds middle middle.disk) (calm : middle.faults = [])
    (sbi : middle.sbi = loadSuper image) (same : middle.size = size) {last : Nat}
    (discarded : replayDiscard last (fixedPlaces (loadSuper image)) middle = (.ok (), after))
    (describes : Describes (after.disk 0) (loadSuper image) ((image 0).get Super.blocksCount)) :
    FixedInv after (loadSuper image).area ((image 0).get Super.blocksCount) ∧
      Replayed image after := by
  have room := layout.room.trans layout.homes
  obtain ⟨written, run, healthy, size', buffers, paired⟩ := replayDiscard_left holds calm
    (congrArg SbInfo.area sbi) ((congrArg SbInfo.journalRing sbi).trans fixed) layout.first
    layout.long (room.trans (Nat.le_of_eq same.symm)) last (fixedPlaces (loadSuper image))
  have final := (Prod.mk.inj (discarded.symm.trans run)).2
  rw [final, disk_with_sbi, ← buffers] at describes
  rw [final]
  have mount : SameMount (settledSbi middle.sbi last) (loadSuper image) :=
    sbi ▸ settledSbi_mount middle.sbi last
  exact ⟨layout.fixed_inv fixed healthy (size'.trans same) mount rfl rfl describes, mount, buffers,
    fun _ => paired⟩

/-- A successful replay in the fixed layout leaves a live mount. -/
theorem JournalLayout.fixed_live (fixed : (loadSuper image).journalRing = false) {first : World}
    (mounted : journalV3Replay (mounting image size) = (.ok (), first))
    (describes : Describes (first.disk 0) (loadSuper image) ((image 0).get Super.blocksCount)) :
    FixedInv first (loadSuper image).area ((image 0).get Super.blocksCount) ∧
      Replayed image first := by
  have ends := layout.fixed_ends fixed
  rw [mounted] at ends
  generalize outcomeIs : ((Except.ok (), first) : Except Errno Unit × World) = outcome at ends
  cases ends with
  | stopped err after keeps => cases outcomeIs
  | clean => exact layout.fixed_clean fixed outcomeIs.symm
  | discarded body discard middle keeps holds calm sbi same =>
      obtain ⟨last, rfl, small⟩ := discard
      exact layout.fixed_discarded fixed holds calm sbi same outcomeIs.symm describes

end Mounting

end Cryexts
