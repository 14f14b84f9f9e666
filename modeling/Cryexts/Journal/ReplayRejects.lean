import Cryexts.Journal.ReplayFixed
import Cryexts.Journal.RingAtomicity

set_option autoImplicit false

namespace Cryexts

open WriteLog (store applyWrites)

theorem mounting_holds (image : Nat → Block) (size : Nat) (faults : List Bool) :
    Holds ((mounting image size).failing faults) image := ⟨rfl, rfl, rfl, rfl⟩

theorem mounting_failing (image : Nat → Block) (size : Nat) :
    (mounting image size).failing [] = mounting image size := rfl

theorem RingHarmless.failing {w : World} (harmless : RingHarmless w) (faults : List Bool) :
    RingHarmless (w.failing faults) :=
  fun pending => harmless ⟨pending.inside, pending.control, pending.live, pending.known⟩

/-- Whatever fails in it, the replay of a device content is faithful exactly where the layout is
the fixed one or the segments before a refused one leave every home block as it is. -/
theorem journalV3Replay_faithful (image : Nat → Block) (size : Nat)
    (long : JOURNAL_V3_MIN_BLOCKS ≤ (loadSuper image).journalBlocks) :
    (∀ faults, ReplayFaithful ((mounting image size).failing faults)
      (journalV3Replay ((mounting image size).failing faults))) ↔
    ((loadSuper image).journalRing = true → RingHarmless (mounting image size)) := by
  have enough : 3 ≤ (loadSuper image).journalBlocks := by
    unfold JOURNAL_V3_MIN_BLOCKS at long
    omega
  have here := mounting_holds image size
  have mounted : ∀ faults, ((mounting image size).failing faults).sbi.journalRing =
      (loadSuper image).journalRing := fun _ => rfl
  constructor
  · intro faithful ring
    have quiet := faithful []
    rw [journalV3Replay, Routine.read_bind, if_pos (by rw [mounted, ring])] at quiet
    exact RingHarmless.of_faithful (here []) rfl quiet
  · intro harmless faults
    rw [journalV3Replay, Routine.read_bind]
    by_cases ring : (loadSuper image).journalRing = true
    · rw [if_pos (by rw [mounted, ring])]
      exact journalV3ReplayRing_faithful enough ring (here faults) ((harmless ring).failing faults)
    · have fixed : (loadSuper image).journalRing = false := by simpa using ring
      rw [if_neg (by rw [mounted, fixed]; exact Bool.false_ne_true)]
      exact journalV3ReplayFixed_faithful enough fixed (here faults)

/-- A committed transaction is a segment the replay accepts. -/
theorem Transaction.Committed.accepted {v : World} {area : JournalArea} {count : Nat}
    (ready : Ready v area count) (idle : v.sbi.journalReplaying = false) {t : Transaction}
    (valid : t.Valid area count) (head position previous : Nat) (later : previous < t.sequence)
    (low : area.ringStart ≤ position) (inside : position + t.span ≤ area.ringEnd)
    (committed : t.Committed v.cache (t.placesAt position)) :
    SegmentAccepted v.sbi v.cache position previous ∧
      SegmentReadable v.sbi v.cache position previous v.size ∧
      SegmentHomes v.cache position v.size ∧
      segmentNext v.sbi v.cache position =
        SegmentRing.wrap area.ringStart area.ringEnd (position + t.span) ∧
      applyWrites v.cache (segmentCopies v.cache position) = applyWrites v.cache t.images := by
  obtain ⟨applied, _, next, run⟩ := replayRingSegment_committed ready idle valid head position
    previous later low inside committed
  have step := replayRingSegment_step ready.healthy.current idle head position previous
  generalize replayRingSegment head position previous v = outcome at run step
  cases step with
  | failed after reason => cases run
  | refused later refused => cases run
  | unfinished later quieter unfinished => cases run
  | applied later quieter accepted readable homes segment sequence place =>
      obtain ⟨same, world⟩ := Prod.mk.inj run
      injection same with some
      injection some with segment_eq
      rw [segment_eq, next] at place
      have cache := congrArg World.cache world
      rw [World.failing_cache, World.writtenAll_cache, World.writtenAll_cache] at cache
      exact ⟨accepted, readable, homes, place.symm, cache⟩

/-- No descriptor is on a zeroed block. -/
theorem SegmentHeaderValid.zero (sbi : SbInfo) (position previous : Nat) :
    ¬ SegmentHeaderValid sbi position previous (ByteBuf.zero BLOCK_SIZE) := by
  intro header
  have magic : (ByteBuf.zero BLOCK_SIZE).get ⟨0, 4⟩ = JOURNAL_V3_MAGIC := header.1
  rw [ByteBuf.get_zero] at magic
  exact absurd magic (by decide)

/-- A committed transaction at the tail, and a zeroed block where the next segment should be. -/
theorem RingMount.rejects_behind {v : World} {area : JournalArea} {count : Nat}
    (mount : RingMount v area count) {state last active checkpoint head tail : Nat}
    (control : RingControl area (v.disk area.first) state last active checkpoint head tail)
    (live : state ≠ JOURNAL_V3_STATE_IDLE) (known : state ≤ JOURNAL_V3_STATE_CHECKPOINTING)
    {t : Transaction} (valid : t.Valid area count) (later : checkpoint < t.sequence)
    (inside : tail + t.span ≤ area.ringEnd) (committed : t.Committed v.disk (t.placesAt tail))
    (apart : tail ≠ head ∧ SegmentRing.wrap area.ringStart area.ringEnd (tail + t.span) ≠ head)
    (gone : v.disk (SegmentRing.wrap area.ringStart area.ringEnd (tail + t.span)) =
      ByteBuf.zero BLOCK_SIZE) :
    ∃ after, journalV3ReplayRing v = (.error .euclean, after) ∧
      after.disk = applyWrites v.disk t.images := by
  have holds : Holds v v.disk := ⟨mount.healthy.current, mount.idle, mount.fresh.symm, rfl⟩
  have first : v.sbi.journalBlock = area.first := by
    rw [← mount.sameArea]
    rfl
  have journal := mount.journal
  have long := mount.long
  have accept := control.accepted v.sbi mount.ring mount.sameArea
  have pending : RingPending v := by
    constructor
    case inside =>
      rw [first]
      omega
    case control =>
      rw [first]
      exact accept
    case live =>
      rw [first, control.stateIs]
      exact live
    case known =>
      rw [first, control.stateIs]
      exact known
  have found := committed
  rw [mount.fresh] at found
  obtain ⟨accepted, readable, homes, next, applied⟩ := found.accepted mount.toReady mount.idle
    valid head tail checkpoint later control.tailLow inside
  rw [← mount.fresh] at accepted readable homes next applied
  have chain := RingApplied.segment apart.1 accepted readable homes (RingApplied.here _ _ _)
  have bounds := SegmentRing.wrap_mem area.ringStart area.ringEnd (tail + t.span)
    (control.tailLow.trans (Nat.le_add_right _ _)) inside
    (lt_of_le_of_lt control.tailLow control.tailHigh)
  have empty : ¬ SegmentHeaderValid v.sbi (segmentNext v.sbi v.disk tail)
      (segmentHeader v.disk tail).sequence
      (applyWrites v.disk (segmentCopies v.disk tail) (segmentNext v.sbi v.disk tail)) := by
    rw [next, accepted.outside.cell _ _ (by
      rw [mount.sameArea]
      exact ⟨(Nat.le_succ _).trans bounds.1, bounds.2⟩), gone]
    exact SegmentHeaderValid.zero _ _ _
  have refused : SegmentRefused v.sbi (applyWrites v.disk (segmentCopies v.disk tail))
      (segmentNext v.sbi v.disk tail) (segmentHeader v.disk tail).sequence v.size head := by
    refine ⟨⟨?_, fun header => absurd header empty⟩, fun all => empty all.header,
      fun unfinished => empty unfinished.1⟩
    rw [next]
    exact bounds.2.trans_le journal
  rw [← applied]
  apply pending.rejects holds mount.healthy.noFaults
  · rw [first, control.headIs, control.tailIs, control.checkpointIs]
    exact chain
  · rw [first, control.headIs, next]
    exact apart.2
  · rw [first, control.headIs]
    exact refused

theorem Describes.long {image : Nat → Block} {sbi : SbInfo} {count : Nat} {area : JournalArea}
    (describes : Describes (image 0) sbi count) (same : sbi.area = area)
    (long : JOURNAL_V3_MIN_BLOCKS ≤ area.blocks) :
    JOURNAL_V3_MIN_BLOCKS ≤ (loadSuper image).journalBlocks := by
  have loaded := describes.loaded.1.trans same
  rw [← loaded] at long
  exact long

/-- The theorem at a device with two committed transactions in its ring, all of which the replay
accepts. -/
theorem journalV3Replay_faithful_wide :
    ∃ (w : World) (history : List (Transaction × Nat)),
    RingRun CommitRoom 4118 wideMount w history ∧ history.length = 2 ∧
      w.sbi.journalRingTail = 4103 ∧ w.sbi.journalRingHead = 4111 ∧
      ∀ faults, ReplayFaithful ((mounting w.disk w.size).failing faults)
        (journalV3Replay ((mounting w.disk w.size).failing faults)) := by
  obtain ⟨first, early, _, one⟩ :=
    wideMount_run.commit 9 sampleContent (by decide) (by decide) (by decide)
  obtain ⟨w, late, _, two⟩ := one.commit 4 sampleContent (by decide) (by decide) (by decide)
  obtain ⟨home, inv⟩ := two.inv
  obtain ⟨after, replayed, _⟩ := replayRing_recovers (ringMount_of_describes inv inv.device) _
    (inv.image w.disk rfl inv.held (SameHome.refl _))
  refine ⟨w, _, two.run, rfl, two.tailAt, two.headAt, ?_⟩
  apply (journalV3Replay_faithful w.disk w.size
    (inv.device.long inv.ready.sameArea inv.long)).mpr
  intro _
  have mount := ringMount_of_describes inv inv.device
  exact RingHarmless.of_success ⟨mount.healthy.current, mount.idle, mount.fresh.symm, rfl⟩
    mount.healthy.noFaults replayed

/-- A ring whose control block names a further segment behind its one transaction. -/
def strayHead (w : World) : Nat → Block :=
  store (store w.disk 4102 (journalV3PrepareControl { w.sbi with journalRingHead := 4108 }
    JOURNAL_V3_STATE_COMMITTED w.sbi.journalLastSequence 0 w.sbi.journalCheckpointSequence
    ⟨4103, 4104, 2, 4106⟩)) 4107
    (ByteBuf.zero BLOCK_SIZE)

/-- A committed transaction behind which the control block names a segment that is not there: its
home block is written before the journal is rejected. -/
theorem journalV3Replay_partly_applied :
    ∃ (image : Nat → Block) (size : Nat) (block : Nat) (after : World),
    JOURNAL_V3_MIN_BLOCKS ≤ (loadSuper image).journalBlocks ∧
      journalV3Replay (mounting image size) = (.error .euclean, after) ∧
      ¬ (loadSuper image).area.Inside block ∧ block ≠ 0 ∧ after.disk block ≠ image block := by
  obtain ⟨w, success, ready, head, tail, blank, _, home, inv⟩ := smallMount_commits 8 (by decide)
  have span : (committing (singleWrite 8 sampleContent smallMount)).span = 4 :=
    (smallMount_single 8 (by decide)).span sampleContent
  have images := (smallMount_single 8 (by decide)).committing_images sampleContent
  generalize tIs : committing (singleWrite 8 sampleContent smallMount) = t at *
  have super : strayHead w 0 = w.disk 0 := by
    rw [strayHead, WriteLog.store_other _ _ _ _ (by decide),
      WriteLog.store_other _ _ _ _ (by decide)]
  have describes : Describes (strayHead w 0) w.sbi 4111 := by
    rw [super]
    exact inv.device
  have mount := ringMount_of_describes inv describes
  have long := describes.long inv.ready.sameArea inv.long
  have cell : ∀ block, block ≠ 4102 → block ≠ 4107 → strayHead w block = w.disk block := by
    intro block control stray
    rw [strayHead, WriteLog.store_other _ _ _ _ stray, WriteLog.store_other _ _ _ _ control]
  have control : RingControl ⟨4102, 9⟩ (strayHead w 4102) JOURNAL_V3_STATE_COMMITTED
      w.sbi.journalLastSequence 0 w.sbi.journalCheckpointSequence 4108 4103 := by
    have here : strayHead w 4102 = journalV3PrepareControl { w.sbi with journalRingHead := 4108 }
        JOURNAL_V3_STATE_COMMITTED w.sbi.journalLastSequence 0 w.sbi.journalCheckpointSequence
        (t.placesAt 4103) := by
      rw [strayHead, WriteLog.store_other _ _ _ _ (by decide), WriteLog.store_same,
        Transaction.placesAt, images]
      rfl
    have sequences := inv.control
    rw [here, ← tail]
    have sameArea : ({ w.sbi with journalRingHead := 4108 } : SbInfo).area = _ :=
      inv.ready.sameArea
    refine ringControl_prepared sameArea
      inv.ring inv.limit ⟨show 4103 ≤ 4108 by decide, show 4108 < 4111 by decide⟩
      ⟨inv.tailLow, inv.tailHigh⟩ (by decide)
      sequences.last_lt (by decide) sequences.checkpoint_lt t w.sbi.journalRingTail ?_
      (fun idle => absurd idle (by decide))
    rw [tail, span]
    decide
  have committed : t.Committed (strayHead w) (t.placesAt 4103) := by
    have on := inv.held.on.1
    rw [tail] at on
    apply on.congr
    intro block lower upper
    rw [span] at upper
    apply cell <;> omega
  have gone : strayHead w 4107 = ByteBuf.zero BLOCK_SIZE := WriteLog.store_same _ _ _
  generalize strayHead w = image at *
  have size : 4111 ≤ w.size := inv.ready.journal
  have later : w.sbi.journalCheckpointSequence < t.sequence := inv.held.ascending.1
  obtain ⟨after, rejects, disk⟩ := mount.rejects_behind control (by decide) (by decide)
    (inv.held.valid t List.mem_cons_self) later (by rw [span]; decide) committed
    (by rw [span]; decide) (by rw [span]; exact gone)
  refine ⟨image, w.size, 8, after, long, ?_, ?_, by decide, ?_⟩
  · rw [journalV3Replay, Routine.read_bind, if_pos mount.ring]
    exact rejects
  · have area : (loadSuper image).area = ⟨4102, 9⟩ := mount.sameArea
    rw [area]
    decide
  · rw [disk, images]
    simp only [WriteLog.applyWrites_cons, WriteLog.applyWrites_nil]
    rw [WriteLog.store_other _ _ _ _ (by decide), WriteLog.store_same, cell 8 (by decide)
      (by decide), blank]
    exact sampleContent_written

end Cryexts
