import Cryexts.Journal.SingleWrite

set_option autoImplicit false

namespace Cryexts

open WriteLog (store applyWrites)

/-- A commit writes its segment and the control block. -/
theorem RingInv.commit_places {w : World} {area : JournalArea} {count : Nat}
    {pending : List Transaction} {home : Nat → Block} (inv : RingInv w area count pending home)
    {allocation : JournalV3Allocation} {position : Nat}
    (segment : allocation.segment = (committing w).placesAt position) (write : Nat × Block)
    (member : write ∈ prepareWrites w allocation ++ recordWrites w allocation) :
    write.1 = area.first ∨ (position ≤ write.1 ∧ write.1 < position + (committing w).span) := by
  have first : w.sbi.journalBlock = area.first := by
    rw [← inv.ready.sameArea]
    rfl
  simp only [prepareWrites, recordWrites, List.mem_append, List.mem_cons, List.not_mem_nil,
    or_false] at member
  unfold Transaction.span
  rcases member with (payload | rfl | rfl) | rfl | rfl
  · have place := payloadWrites_place _ _ _ payload
    rw [segment] at place
    simp only [Transaction.placesAt] at place
    omega
  · right
    simp only [segment, Transaction.placesAt]
    omega
  · exact Or.inl first
  · right
    simp only [segment, Transaction.placesAt]
    omega
  · exact Or.inl first

/-- It writes nothing but the journal. -/
theorem RingInv.commit_inside {w : World} {area : JournalArea} {count : Nat}
    {pending : List Transaction} {home : Nat → Block} (inv : RingInv w area count pending home)
    {allocation : JournalV3Allocation} {position : Nat}
    (segment : allocation.segment = (committing w).placesAt position)
    (low : area.ringStart ≤ position) (fits : position + (committing w).span ≤ area.ringEnd)
    (write : Nat × Block)
    (member : write ∈ prepareWrites w allocation ++ recordWrites w allocation) :
    area.Inside write.1 := by
  have place := inv.commit_places segment write member
  have long := inv.long
  simp only [JournalArea.ringStart, JournalArea.ringEnd] at low fits
  unfold JournalArea.Inside
  omega

section Fill

variable {w : World} {area : JournalArea} {count : Nat} {pending : List Transaction}
variable {home : Nat → Block} (inv : RingInv w area count pending home)
variable {allocation : JournalV3Allocation}
variable (recorded : (atCommit w).sbi.journalError = none)
variable (allocated : journalV3RingAllocate (atCommit w).sbi
  (atCommit w).sbi.journalHomeBlocks.length = .ok allocation)
include inv recorded allocated

/-- A ring commit that got a segment, whatever that segment does to the ring. -/
theorem RingInv.commitAnywhere (sound : w.sbi.journalError = none) :
    ∃ position, allocation.segment = (committing w).placesAt position ∧
      allocation.nextHead =
        SegmentRing.wrap area.ringStart area.ringEnd (position + (committing w).span) ∧
      area.ringStart ≤ position ∧ position + (committing w).span ≤ area.ringEnd ∧
      (journalV3Prepare w).2.log.length + 3 =
        w.log.length + (prepareWrites w allocation ++ recordWrites w allocation).length + 1 ∧
      journalV3Commit w = (.ok (),
        { (atCommit w).writtenAll (prepareWrites w allocation ++ recordWrites w allocation) with
          sbi := ringCommitted w allocation }) := by
  have mode := inv.mode
  have quiet := mode.worked.toQuiet
  have same := inv.ready.sameArea
  have start : (atCommit w).sbi.ringStart = area.ringStart := by
    rw [← same, ← quiet.area]
    rfl
  have stop : (atCommit w).sbi.ringEnd = area.ringEnd := by
    rw [← same, ← quiet.area]
    rfl
  have ring : (atCommit w).sbi.journalRing = true := quiet.ring.trans inv.ring
  obtain ⟨position, segment, next, low, fits, _⟩ := journalV3RingAllocate_ring ring
    (by rw [start, quiet.head]; exact inv.headLow)
    (by rw [stop, quiet.tail]; exact Nat.le_of_lt inv.tailHigh) allocated
  have span : (atCommit w).sbi.journalHomeBlocks.length + 2 = (committing w).span := by
    rw [Transaction.span, committing_length]
  rw [← committing_length] at segment
  rw [span] at next fits
  rw [start] at low
  rw [stop] at fits
  have valid := committing_valid mode inv.describes inv.records inv.small
  rw [same] at valid
  have within : allocation.segment.Within w.sbi.area (committing w).images.length := by
    rw [same, segment]
    simp only [JournalArea.ringStart, JournalArea.ringEnd, Transaction.span] at low fits
    constructor <;> simp only [JournalArea.Inside] <;> omega
  have homes : ∀ image, image ∈ (committing w).images →
      image.1 < w.size ∧ ¬ w.sbi.area.Inside image.1 := by
    intro image member
    have place := valid.home image member
    rw [same]
    exact ⟨lt_of_lt_of_le place.1 inv.ready.homes, place.2⟩
  refine ⟨position, segment, ?_, low, fits, ?_, ?_⟩
  · rw [next, SbInfo.ringWrap_eq, quiet.area, same]
  · rw [journalV3Prepare_run mode allocation recorded allocated within homes,
      World.writtenAll_log]
    change ((atCommit w).log ++ prepareWrites w allocation).length + 3 = _
    rw [quiet.log, List.length_append, List.length_append]
    simp only [recordWrites, List.length_cons, List.length_nil]
    omega
  · exact journalV3Commit_ring mode inv.ring allocation sound recorded allocated
      (by rw [segment]) within homes

omit recorded allocated in
/-- The device after such a commit. -/
theorem RingInv.commit_disk : ({ (atCommit w).writtenAll
    (prepareWrites w allocation ++ recordWrites w allocation) with
      sbi := ringCommitted w allocation } : World).disk =
      applyWrites w.disk (prepareWrites w allocation ++ recordWrites w allocation) := by
  rw [← inv.mode.worked.toQuiet.disk]
  exact World.writtenAll_disk _ _

/-- A commit whose segment brings the head round onto the tail leaves a control block that
reads as an empty ring, so recovery owes nothing of what the ring holds. -/
theorem RingInv.exactFill (sound : w.sbi.journalError = none)
    (meet : (advanced w allocation).journalRingHead = (advanced w allocation).journalRingTail) :
    ∃ after, journalV3Commit w = (.ok (), after) ∧ SameMount after.sbi w.sbi ∧
      after.size = w.size ∧ w.log.length ≤ after.log.length ∧
      (journalV3Prepare w).2.log.length + 1 ≤ after.log.length ∧ after.disk 0 = w.disk 0 ∧
      after.sbi.journalCheckpointSequence = w.sbi.journalCheckpointSequence ∧
      (∃ head, RingControl area (after.disk area.first) JOURNAL_V3_STATE_COMMITTED
        w.sbi.journalActiveSequence 0 w.sbi.journalCheckpointSequence head head) ∧
      RingImage area count after.disk w.disk := by
  obtain ⟨position, segment, next, low, fits, length, run⟩ :=
    inv.commitAnywhere recorded allocated sound
  have mode := inv.mode
  have quiet := mode.worked.toQuiet
  have same := inv.ready.sameArea
  have mount : SameMount (advanced w allocation) w.sbi :=
    (takeSegment_mount _ _ allocation).trans quiet.mount
  have ring : (advanced w allocation).journalRing = true := mount.ring.trans inv.ring
  have head : (advanced w allocation).journalRingHead =
      SegmentRing.wrap area.ringStart area.ringEnd (position + (committing w).span) := by
    rw [advanced, SbInfo.takeSegment, if_pos (quiet.ring.trans inv.ring)]
    exact next
  have long := inv.long
  have wrapped := SegmentRing.wrap_mem area.ringStart area.ringEnd
    (position + (committing w).span) (by omega) fits
    (by simp only [JournalArea.ringStart, JournalArea.ringEnd]; omega)
  rw [← head] at wrapped
  have control : RingControl area (journalV3PrepareControl (advanced w allocation)
      JOURNAL_V3_STATE_COMMITTED w.sbi.journalActiveSequence 0 w.sbi.journalCheckpointSequence
      ((committing w).placesAt position)) JOURNAL_V3_STATE_COMMITTED w.sbi.journalActiveSequence 0
      w.sbi.journalCheckpointSequence (advanced w allocation).journalRingHead
      (advanced w allocation).journalRingTail :=
    ringControl_prepared (mount.area.trans same) ring inv.limit wrapped (meet ▸ wrapped)
      (by decide) inv.small (by decide) inv.control.checkpoint_lt (committing w) position fits
      (fun idle => absurd idle (by decide))
  rw [← segment, ← meet] at control
  have first : w.sbi.journalBlock = area.first := by
    rw [← same]
    rfl
  have inside := inv.commit_inside segment low fits
  have disk := @RingInv.commit_disk _ _ _ _ _ inv allocation
  have positive : 0 < area.first := by
    rw [← same]
    exact mode.first
  have written : applyWrites w.disk (prepareWrites w allocation ++ recordWrites w allocation)
      area.first = journalV3PrepareControl (advanced w allocation) JOURNAL_V3_STATE_COMMITTED
        w.sbi.journalActiveSequence 0 w.sbi.journalCheckpointSequence allocation.segment := by
    simp only [recordWrites, WriteLog.applyWrites_append, WriteLog.applyWrites_cons,
      WriteLog.applyWrites_nil, first]
    exact WriteLog.store_same _ _ _
  rw [← written] at control
  refine ⟨_, run, ?_, ?_, ?_, ?_, ?_, ?_, ?_, ?_⟩
  · exact ⟨mount.area, mount.tableStart, mount.tableBlocks, mount.enabled, mount.v2, mount.v3,
      mount.ring, mount.replaying⟩
  · rw [← quiet.size]
    exact World.writtenAll_size _ _
  · change _ ≤ ((atCommit w).writtenAll _).log.length
    rw [World.writtenAll_log, quiet.log, List.length_append]
    omega
  · change _ ≤ ((atCommit w).writtenAll _).log.length
    rw [World.writtenAll_log, quiet.log, List.length_append]
    omega
  · rw [disk]
    apply WriteLog.applyWrites_other
    intro write member zero
    have low := (inside write member).1
    omega
  · exact (takeSegment_checkpoint _ _ _).trans quiet.checkpoint
  · rw [disk]
    exact ⟨_, control⟩
  · rw [disk]
    refine RingImage.live _ _ _ _ _ _ [] control (by decide) ?_ rfl ?_
    · exact ⟨by simp, fun image member => by simp [imagesOf] at member, trivial, trivial⟩
    · exact SameHome.journalWrites _ _ positive inside

end Fill

/-- The smallest operation committed at the head: the ring it leaves is ready for it again. -/
theorem RingInv.single_commit {w : World} {area : JournalArea} {count block : Nat}
    {pending : List Transaction} {home : Nat → Block} (inv : RingInv w area count pending home)
    (ready : SingleReady w count block) (content : Block)
    (smaller : 4 < area.ringEnd - area.ringStart)
    (fits : w.sbi.journalRingHead + 4 ≤ area.ringEnd)
    (order : w.sbi.journalRingTail ≤ w.sbi.journalRingHead)
    (room : CommitRoom (singleWrite block content w)) (again : w.sbi.journalSequence + 2 < 2 ^ 64) :
    ∃ after, journalV3Commit (singleWrite block content w) = (.ok (), after) ∧
      (∀ other, SingleReady w count other → SingleReady after count other) ∧
      after.sbi.journalRingHead =
        SegmentRing.wrap area.ringStart area.ringEnd (w.sbi.journalRingHead + 4) ∧
      after.sbi.journalRingTail =
        (if w.sbi.journalRingTail = w.sbi.journalRingHead then w.sbi.journalRingHead
        else w.sbi.journalRingTail) ∧
      after.sbi.journalSequence = w.sbi.journalSequence + 1 ∧
      (∀ other, other ≠ area.first → (other < w.sbi.journalRingHead ∨
        w.sbi.journalRingHead + 4 ≤ other) → after.disk other = w.disk other) ∧
      (journalV3Prepare (singleWrite block content w)).2.log.length + 1 ≤ after.log.length ∧
      RingInv after area count (pending ++ [committing (singleWrite block content w)])
        (applyWrites home (committing (singleWrite block content w)).images) := by
  have single := inv.single ready content
  have quiet := (ready.quiet content).trans single.mode.worked.toQuiet
  have allocated := inv.single_allocation ready content smaller fits order
  have homes := ready.atCommit_homes content
  have opened : (singleWrite block content w).sbi.journalActiveSequence =
      w.sbi.journalSequence + 1 := by
    rw [ready.run]
    rfl
  generalize allocationIs : (⟨⟨w.sbi.journalRingHead, w.sbi.journalRingHead + 1, 2,
    w.sbi.journalRingHead + 1 + 2⟩, SegmentRing.wrap area.ringStart area.ringEnd
      (w.sbi.journalRingHead + 4)⟩ : JournalV3Allocation) = allocation at allocated
  obtain ⟨position, segment, next, low, place, length, run⟩ :=
    single.commitAnywhere homes.2 allocated (by rw [ready.run]; rfl)
  obtain ⟨writes, _, _, _, mount, after⟩ := single.commit (by rw [run]) (by omega) room
  have disk := @RingInv.commit_disk _ _ _ _ _ single allocation
  have places := single.commit_places segment
  have here : position = w.sbi.journalRingHead := by
    rw [← allocationIs] at segment
    exact (congrArg JournalV3Segment.descriptorBlock segment).symm
  rw [ready.span, here] at places
  have advancedRing : (atCommit (singleWrite block content w)).sbi.journalRing = true :=
    quiet.ring.trans inv.ring
  have head : (advanced (singleWrite block content w) allocation).journalRingHead =
      SegmentRing.wrap area.ringStart area.ringEnd (w.sbi.journalRingHead + 4) := by
    rw [advanced, SbInfo.takeSegment, if_pos advancedRing, ← allocationIs]
  have tail : (advanced (singleWrite block content w) allocation).journalRingTail =
      if w.sbi.journalRingTail = w.sbi.journalRingHead then w.sbi.journalRingHead
      else w.sbi.journalRingTail := by
    rw [advanced, SbInfo.takeSegment, if_pos advancedRing, ← allocationIs, quiet.tail,
      (ready.quiet content).head]
  rw [run] at mount after
  have whole := mount.trans (ready.quiet content).mount
  refine ⟨_, run, ?_, head, tail, opened, ?_, ?_, after⟩
  · intro other before
    refine ⟨after.mode, rfl, ?_, ?_, after.describes, before.apart, before.inside, ?_, ?_⟩
    · change (singleWrite block content w).sbi.journalActiveSequence + 1 < _
      rw [opened]
      exact again
    · rw [whole.area]
      exact before.capacity
    · rw [whole.area]
      exact before.outside
    · intro index early
      rw [whole.tableStart]
      exact before.table index (whole.tableBlocks ▸ early)
  · intro other control elsewhere
    rw [disk, WriteLog.applyWrites_other, (ready.quiet content).disk]
    rintro write member rfl
    rcases places write member with marked | ⟨above, below⟩
    · exact control marked
    · omega
  · change _ ≤ ((atCommit (singleWrite block content w)).writtenAll _).log.length
    rw [World.writtenAll_log, single.mode.worked.toQuiet.log, List.length_append]
    omega

end Cryexts
