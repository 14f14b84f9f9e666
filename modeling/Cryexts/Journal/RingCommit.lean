import Cryexts.Journal.Commit
import Cryexts.Journal.RingImage

set_option autoImplicit false

namespace Cryexts

open WriteLog (store applyWrites)

/-- A successful allocation in a ring: one contiguous segment, at the head unless
the ring starts over. -/
theorem journalV3RingAllocate_ring {sbi : SbInfo} {entries : Nat} {allocation : JournalV3Allocation}
    (ring : sbi.journalRing = true) (low : sbi.ringStart ≤ sbi.journalRingHead)
    (high : sbi.journalRingTail ≤ sbi.ringEnd)
    (success : journalV3RingAllocate sbi entries = .ok allocation) :
    ∃ position, allocation.segment = ⟨position, position + 1, entries, position + 1 + entries⟩ ∧
      allocation.nextHead = sbi.ringWrap (position + (entries + 2)) ∧
      sbi.ringStart ≤ position ∧ position + (entries + 2) ≤ sbi.ringEnd ∧
      entries + 2 < sbi.ringEnd - sbi.ringStart ∧
      (position = sbi.journalRingHead ∨ position = sbi.ringStart ∧
        sbi.ringEnd < sbi.journalRingHead + (entries + 2)) := by
  have shape : ∀ position, position + 1 + entries + 1 = position + (entries + 2) := by
    intro position
    omega
  unfold journalV3RingAllocate at success
  simp only [ring, Bool.true_eq_false, ↓reduceIte, shape] at success
  by_cases small : sbi.ringEnd - sbi.ringStart ≤ entries + 2
  · rw [if_pos small] at success
    cases success
  · rw [if_neg small] at success
    -- In each branch that succeeds the segment is at the head or at the ring start.
    repeat' split at success
    all_goals first
      | injection success with same
        subst same
        exact ⟨_, rfl, rfl, by omega, by omega, by omega, by omega⟩
      | cases success

/-- A segment that fits at the head, short of the tail or behind it, is placed there. -/
theorem journalV3RingAllocate_head {sbi : SbInfo} (entries : Nat) (ring : sbi.journalRing = true)
    (smaller : entries + 2 < sbi.ringEnd - sbi.ringStart)
    (fits : sbi.journalRingHead + (entries + 2) ≤ sbi.ringEnd)
    (order : sbi.journalRingTail ≤ sbi.journalRingHead ∨
      sbi.journalRingHead + (entries + 2) ≤ sbi.journalRingTail) :
    journalV3RingAllocate sbi entries = .ok
      ⟨⟨sbi.journalRingHead, sbi.journalRingHead + 1, entries,
        sbi.journalRingHead + 1 + entries⟩, sbi.ringWrap (sbi.journalRingHead + (entries + 2))⟩ := by
  have next : sbi.journalRingHead + 1 + entries + 1 = sbi.journalRingHead + (entries + 2) := by
    omega
  have large : ¬ sbi.ringEnd - sbi.ringStart ≤ entries + 2 := by omega
  have inside : ¬ sbi.ringEnd < sbi.journalRingHead + (entries + 2) := by omega
  unfold journalV3RingAllocate
  simp only [ring, Bool.true_eq_false, ↓reduceIte, large, inside, next]
  split
  · rfl
  · split
    · rw [if_neg (by omega)]
    · rfl

/-- The commit record and the control block behind it. -/
def recordWrites (w : World) (allocation : JournalV3Allocation) : List (Nat × Block) :=
  [(allocation.segment.commitBlock, (committing w).commitRecord allocation.segment),
    (w.sbi.journalBlock,
      journalV3PrepareControl (advanced w allocation) JOURNAL_V3_STATE_COMMITTED
        w.sbi.journalActiveSequence 0 w.sbi.journalCheckpointSequence allocation.segment)]

/-- The mount's journal state after a ring commit. -/
def ringCommitted (w : World) (allocation : JournalV3Allocation) : SbInfo :=
  { advanced w allocation with
    journalSequence := w.sbi.journalActiveSequence
    journalLastSequence := w.sbi.journalActiveSequence }.journalV3ClearRuntime

/-- A ring commit whose segment is allocated: what it writes, and the mount it leaves. -/
theorem journalV3Commit_ring {w : World} (mode : JournalMode w) (ring : w.sbi.journalRing = true)
    (allocation : JournalV3Allocation) (sound : w.sbi.journalError = none)
    (recorded : (atCommit w).sbi.journalError = none)
    (allocated : journalV3RingAllocate (atCommit w).sbi
      (atCommit w).sbi.journalHomeBlocks.length = .ok allocation)
    (count : allocation.segment.payloadBlocks = (committing w).images.length)
    (within : allocation.segment.Within w.sbi.area (committing w).images.length)
    (homes : ∀ image, image ∈ (committing w).images →
      image.1 < w.size ∧ ¬ w.sbi.area.Inside image.1) :
    journalV3Commit w = (.ok (),
      { (atCommit w).writtenAll (prepareWrites w allocation ++ recordWrites w allocation) with
        sbi := ringCommitted w allocation }) := by
  have prepared := Routine.onFailure_ok _ (fun _ => Routine.modify (journalV3ClearRecovery w))
    _ _ _ (journalV3Prepare_run mode allocation recorded allocated within homes)
  have worked := mode.worked
  have room := mode.room
  have sound' := worked.healthy mode.healthy
  have healthy : (({ atCommit w with sbi := advanced w allocation } : World).writtenAll
      (prepareWrites w allocation)).Healthy :=
    World.writtenAll_healthy _ _ ⟨sound'.noFaults, sound'.current⟩
  have inside : ∀ block, w.sbi.area.Inside block →
      block < (({ atCommit w with sbi := advanced w allocation } : World).writtenAll
        (prepareWrites w allocation)).size := by
    intro block member
    rw [World.writtenAll_size]
    change block < (atCommit w).size
    rw [worked.size]
    exact lt_of_lt_of_le member.2 room
  have place : (advanced w allocation).journalBlock = w.sbi.journalBlock :=
    congrArg JournalArea.first
      ((takeSegment_mount _ _ allocation).trans worked.toQuiet.mount).area
  have here : w.sbi.area.Inside w.sbi.journalBlock := by
    have later := within.descriptorBlock
    simp only [JournalArea.Inside, SbInfo.area] at later ⊢
    omega
  rw [journalV3Commit, Routine.read_bind, sound]
  dsimp only
  rw [Routine.bind_ok _ _ _ _ _ prepared]
  apply Routine.onFailure_ok
  rw [count, writeSync_bind _ healthy _ _ _ (inside _ within.commitBlock), if_pos ring,
    journalV3FinishRing, Routine.read_bind]
  have sbi : ∀ block content, ((({ atCommit w with sbi := advanced w allocation } :
      World).writtenAll (prepareWrites w allocation)).written block content).sbi =
        advanced w allocation := fun _ _ => World.writtenAll_sbi _ _
  rw [sbi, place]
  have control := journalV3WriteSync_run _ (World.written_healthy _ allocation.segment.commitBlock
    ((committing w).commitRecord allocation.segment) healthy) w.sbi.journalBlock
    (journalV3PrepareControl (advanced w allocation) JOURNAL_V3_STATE_COMMITTED
      w.sbi.journalActiveSequence 0 w.sbi.journalCheckpointSequence allocation.segment)
    (inside _ here)
  have record : journalV3PrepareCommit (committing w).images.length w.sbi.journalActiveSequence
      (((committing w).descriptor allocation.segment).get journalChecksum)
      (committing w).payloadChecksum true allocation.segment.descriptorBlock =
        (committing w).commitRecord allocation.segment := rfl
  rw [record, Routine.bind_ok _ _ _ _ _ control, Routine.modify_run]
  simp only [World.writtenAll_with_sbi, World.writtenAll_append]
  rfl

end Cryexts
