import Cryexts.Journal.Faults
import Cryexts.Journal.LiveView
import Cryexts.Journal.Replay

set_option autoImplicit false

namespace Cryexts

open Routine (Moves)

/-- On the device only blocks of `places` change. -/
structure DiskKept (places : Nat → Prop) (w after : World) : Prop where
  base : after.base = w.base
  log : Grows places w after

instance (places : Nat → Prop) : IsPreorder World (DiskKept places) where
  refl _ := ⟨rfl, Grows.silent rfl⟩
  trans _ _ _ first second := ⟨second.base.trans first.base, first.log.trans second.log⟩

section DiskKept

variable {places : Nat → Prop}

theorem DiskKept.disk {w after : World} (kept : DiskKept places w after) (block : Nat)
    (away : ¬ places block) : after.disk block = w.disk block := by
  obtain ⟨writes, log, inside⟩ := kept.log
  rw [World.disk, World.disk, log, kept.base, WriteLog.applyWrites_append]
  apply WriteLog.applyWrites_other
  intro write member same
  exact away (same ▸ inside write member)

theorem BlockIo.diskKept (w after : World) (io : BlockIo places w after) :
    DiskKept places w after := ⟨io.base, io.log⟩

theorem DiskKept.io {α : Type} {body : Kernel α} (moves : Moves (BlockIo places) body) :
    Moves (DiskKept places) body := moves.mono BlockIo.diskKept

theorem DiskKept.silent {w after : World} (base : after.base = w.base) (log : after.log = w.log) :
    DiskKept places w after := ⟨base, Grows.silent log⟩

private theorem kmalloc_diskKept : Moves (DiskKept places) kmalloc := DiskKept.io kmalloc_moves

private theorem readFileBlock_diskKept (block : Nat) :
    Moves (DiskKept places) (readFileBlock block) := DiskKept.io (readFileBlock_moves block)

/-- The check of a clean journal reads only. -/
theorem journalV3ValidateClean_kept : Moves (DiskKept places) journalV3ValidateClean := by
  unfold journalV3ValidateClean
  refine Moves.bind kmalloc_diskKept fun _ => ?_
  refine Moves.bind Moves.read fun w => ?_
  refine Moves.bind (readFileBlock_diskKept _) fun controlBuf => ?_
  dsimp only
  split
  · refine Moves.bind (Moves.require _ _) fun _ => ?_
    refine Moves.bind (Moves.require _ _) fun _ => ?_
    refine Moves.bind (Moves.require _ _) fun _ => ?_
    refine Moves.bind (Moves.require _ _) fun _ => ?_
    exact Moves.modify fun _ => DiskKept.silent rfl rfl
  · refine Moves.bind (Moves.require _ _) fun _ => ?_
    refine Moves.bind (Moves.require _ _) fun _ => ?_
    refine Moves.bind (readFileBlock_diskKept _) fun descriptorBuf => ?_
    refine Moves.bind (readFileBlock_diskKept _) fun commitBuf => ?_
    refine Moves.bind (Moves.require _ _) fun _ => ?_
    refine Moves.bind (Moves.require _ _) fun _ => ?_
    refine Moves.bind (Moves.require _ _) fun _ => ?_
    refine Moves.bind (Moves.require _ _) fun _ => ?_
    refine Moves.bind (Moves.require _ _) fun _ => ?_
    refine Moves.bind (Moves.require _ _) fun _ => ?_
    exact Moves.modify fun _ => DiskKept.silent rfl rfl

end DiskKept

/-- The superblock and the journal area. -/
def ReplayPlaces (area : JournalArea) (block : Nat) : Prop := block = 0 ∨ area.Inside block

/-- The end of a replay empties the journal by journal writes alone. -/
theorem journalV3ResetDisk_kept (w : World) (sequence : Nat) (places : JournalV3Segment)
    (descriptor : w.sbi.area.Inside places.descriptorBlock)
    (commit : w.sbi.area.Inside places.commitBlock) (long : 2 ≤ w.sbi.journalBlocks) :
    BlockIo w.sbi.area.Inside w (journalV3ResetDisk sequence places w).2 := by
  have own : ∀ block, w.sbi.journalBlock ≤ block → block < w.sbi.journalBlock +
      w.sbi.journalBlocks → w.sbi.area.Inside block :=
    fun block low high => ⟨low, high⟩
  have descriptor' : w.sbi.area.Inside (w.sbi.resetPlaces places).descriptorBlock := by
    unfold SbInfo.resetPlaces
    split
    · exact descriptor
    · apply own <;> simp only [SbInfo.journalV2DescriptorBlock] <;> omega
  have commit' : w.sbi.area.Inside (w.sbi.resetPlaces places).commitBlock := by
    unfold SbInfo.resetPlaces
    split
    · exact commit
    · apply own <;> simp only [SbInfo.journalV2CommitBlock] <;> omega
  rw [journalV3ResetDisk, Routine.read_bind]
  have first := journalV3WriteSync_moves (w.sbi.resetPlaces places).descriptorBlock
    (journalV3EmptyDescriptor sequence (w.sbi.resetPlaces places)) descriptor'
  have second := journalV3WriteSync_moves (w.sbi.resetPlaces places).commitBlock
    (journalV3EmptyCommit sequence (w.sbi.resetPlaces places)) commit'
  apply Moves.bind_from first
  intro _ one ran
  have sbi : one.sbi = w.sbi := (first.of_run ran).sbi
  apply Moves.bind_from second
  intro _ two ran'
  have sbi' : two.sbi = w.sbi := (second.of_run ran').sbi.trans sbi
  rw [Routine.read_bind]
  apply journalV3WriteSync_moves
  rw [sbi']
  apply own <;> omega

/-- The end of a replay touches the superblock and the journal only. -/
theorem finishReplay_kept (w : World) (lastSequence : Nat) (places : JournalV3Segment)
    (idle : w.sbi.journalReplaying = false)
    (descriptor : w.sbi.area.Inside places.descriptorBlock)
    (commit : w.sbi.area.Inside places.commitBlock) (long : 2 ≤ w.sbi.journalBlocks) :
    DiskKept (ReplayPlaces w.sbi.area) w (finishReplay lastSequence places w).2 := by
  have marked := superSetRecoveryUnlogged_eq false (setDiskJournalSequence lastSequence w) idle
  rw [finishReplay, Routine.modify_bind, Routine.modify_bind, marked]
  generalize recoveredSuper _ _ _ _ = super
  generalize startIs : (setDiskJournalSequence lastSequence w).dirtyBuffer 0 super = start
  have sbi : start.sbi = w.sbi := by
    rw [← startIs]
    rfl
  have begun : DiskKept (ReplayPlaces w.sbi.area) w start := by
    rw [← startIs]
    exact DiskKept.silent rfl rfl
  refine IsTrans.trans _ _ _ begun ?_
  apply Moves.bind_from (DiskKept.io (syncSingleBlock_moves 0 (Or.inl rfl)))
  intro _ synced ran
  have same : synced.sbi = w.sbi := by
    have io : BlockIo (ReplayPlaces w.sbi.area) start (syncSingleBlock 0 start).2 :=
      syncSingleBlock_moves 0 (Or.inl rfl) start
    rw [ran] at io
    exact io.sbi.trans sbi
  have reset : DiskKept (ReplayPlaces w.sbi.area) synced
      (journalV3ResetDisk lastSequence places synced).2 := by
    have io := journalV3ResetDisk_kept synced lastSequence places (by rwa [same]) (by rwa [same])
      (by rwa [same])
    obtain ⟨writes, log, inside⟩ := io.log
    rw [same] at inside
    exact ⟨io.base, writes, log, fun write member => Or.inr (inside write member)⟩
  cases done : journalV3ResetDisk lastSequence places synced with
  | mk outcome after =>
      rw [done] at reset
      cases outcome with
      | ok value =>
          rw [Routine.bind_ok _ _ _ _ _ done]
          exact IsTrans.trans _ _ _ reset (DiskKept.silent rfl rfl)
      | error err =>
          rw [Routine.bind_error _ _ _ _ _ done]
          exact reset

/-- No run of the body reports corruption. -/
def Unrejecting {α : Type} (body : Kernel α) : Prop := ∀ w, (body w).1 ≠ .error .euclean

theorem Unrejecting.bind {α β : Type} {first : Kernel α} {next : α → Kernel β}
    (start : Unrejecting first) (rest : ∀ value, Unrejecting (next value)) :
    Unrejecting (first >>= next) := by
  intro w
  rcases Routine.bind_cases first next w with ⟨err, after, ran, whole⟩ | ⟨value, after, _, whole⟩
  · rw [whole]
    have own := start w
    rw [ran] at own
    intro rejected
    injection rejected with same
    exact own (congrArg Except.error same)
  · rw [whole]
    exact rest value after

theorem Unrejecting.read : Unrejecting (Routine.read : Kernel World) := by
  intro w rejected
  cases rejected

theorem Unrejecting.modify (update : World → World) :
    Unrejecting (Routine.modify update : Kernel Unit) := by
  intro w rejected
  cases rejected

theorem journalV3WriteSync_unrejecting (block : Nat) (content : Block) :
    Unrejecting (journalV3WriteSync block content) := by
  intro w
  rw [journalV3WriteSync_eq]
  split
  · simp
  · split <;> simp

theorem syncSingleBlock_unrejecting (block : Nat) : Unrejecting (syncSingleBlock block) := by
  intro w
  by_cases pending : w.dirty block = true
  · rw [syncSingleBlock_eq w block pending]
    split
    · simp
    · split <;> simp
  · rw [syncSingleBlock, Routine.read_bind]
    split
    · simp
    · rw [syncDirtyBuffer, Routine.read_bind, if_neg pending]
      simp

theorem finishReplay_unrejecting (lastSequence : Nat) (places : JournalV3Segment) :
    Unrejecting (finishReplay lastSequence places) := by
  refine Unrejecting.bind (Unrejecting.modify _) fun _ => ?_
  refine Unrejecting.bind (Unrejecting.modify _) fun _ => ?_
  refine Unrejecting.bind (syncSingleBlock_unrejecting 0) fun _ => ?_
  refine Unrejecting.bind ?_ fun _ => Unrejecting.modify _
  refine Unrejecting.bind Unrejecting.read fun w => ?_
  refine Unrejecting.bind (journalV3WriteSync_unrejecting _ _) fun _ => ?_
  refine Unrejecting.bind (journalV3WriteSync_unrejecting _ _) fun _ => ?_
  exact Unrejecting.bind Unrejecting.read fun _ => journalV3WriteSync_unrejecting _ _

section Discard

variable {w : World} (idle : w.sbi.journalReplaying = false) (long : 2 ≤ w.sbi.journalBlocks)
include idle long

theorem replayDiscard_kept (lastSequence : Nat) (places : JournalV3Segment)
    (descriptor : w.sbi.area.Inside places.descriptorBlock)
    (commit : w.sbi.area.Inside places.commitBlock) :
    DiskKept (ReplayPlaces w.sbi.area) w (replayDiscard lastSequence places w).2 := by
  rw [replayDiscard, Routine.modify_bind]
  have begun : DiskKept (ReplayPlaces w.sbi.area) w
      { w with sbi := setSequences lastSequence w.sbi } := DiskKept.silent rfl rfl
  refine IsTrans.trans _ _ _ begun ?_
  exact finishReplay_kept { w with sbi := setSequences lastSequence w.sbi } lastSequence places
    idle descriptor commit long

theorem replayRingDiscard_kept (head lastSequence : Nat) :
    DiskKept (ReplayPlaces w.sbi.area) w (replayRingDiscard head lastSequence w).2 := by
  rw [replayRingDiscard, Routine.read_bind, Routine.modify_bind]
  have begun : DiskKept (ReplayPlaces w.sbi.area) w
      { w with sbi := discardedSbi w.sbi head lastSequence } := DiskKept.silent rfl rfl
  refine IsTrans.trans _ _ _ begun ?_
  apply finishReplay_kept { w with sbi := discardedSbi w.sbi head lastSequence } lastSequence
    (ringResetPlaces w.sbi) idle
  · show w.sbi.journalBlock ≤ w.sbi.journalBlock + 1 ∧
      w.sbi.journalBlock + 1 < w.sbi.journalBlock + w.sbi.journalBlocks
    omega
  · show w.sbi.journalBlock ≤ w.sbi.journalBlock + w.sbi.journalBlocks - 1 ∧
      w.sbi.journalBlock + w.sbi.journalBlocks - 1 < w.sbi.journalBlock + w.sbi.journalBlocks
    omega
  · exact long

end Discard

theorem replayRingDiscard_unrejecting (head lastSequence : Nat) :
    Unrejecting (replayRingDiscard head lastSequence) := by
  refine Unrejecting.bind Unrejecting.read fun w => ?_
  exact Unrejecting.bind (Unrejecting.modify _) fun _ => finishReplay_unrejecting _ _

theorem replayDiscard_unrejecting (lastSequence : Nat) (places : JournalV3Segment) :
    Unrejecting (replayDiscard lastSequence places) :=
  Unrejecting.bind (Unrejecting.modify _) fun _ => finishReplay_unrejecting _ _

end Cryexts
