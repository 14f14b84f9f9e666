import Cryexts.Journal.RingImage

set_option autoImplicit false

namespace Cryexts

open WriteLog (store applyWrites)

/-- The committed transactions a ring still holds, from `tail` on. -/
structure Pending (area : JournalArea) (count : Nat) (cells : Nat → Block)
    (previous tail : Nat) (ts : List Transaction) : Prop where
  valid : ∀ t, t ∈ ts → t.Valid area count
  keeps : KeepsCount count (imagesOf ts)
  on : SegmentsOn area cells tail ts
  ascending : Ascending previous ts

/-- A device the ring may leave behind, and the home content its recovery owes. -/
inductive RingImage (area : JournalArea) (count : Nat) (image expected : Nat → Block) : Prop
  | idle (last head : Nat)
      (control : RingControl area (image area.first) JOURNAL_V3_STATE_IDLE last 0 last head head)
      (same : SameHome area image expected)
  | live (state last active checkpoint head tail : Nat) (ts : List Transaction)
      (control : RingControl area (image area.first) state last active checkpoint head tail)
      (busy : state ≠ JOURNAL_V3_STATE_IDLE ∧ state ≤ JOURNAL_V3_STATE_CHECKPOINTING)
      (pending : Pending area count image checkpoint tail ts)
      (chain : SegmentRing.Chain area.ringStart area.ringEnd tail (spans ts) head)
      (same : SameHome area (applyWrites image (imagesOf ts)) expected)
  | torn (state last active checkpoint head tail : Nat) (ts : List Transaction)
      (control : RingControl area (image area.first) state last active checkpoint head tail)
      (busy : state ≠ JOURNAL_V3_STATE_IDLE ∧ state ≤ JOURNAL_V3_STATE_CHECKPOINTING)
      (pending : Pending area count image checkpoint tail ts)
      (lost : Transaction) (valid : lost.Valid area count)
      (later : lastSequenceOf checkpoint ts < lost.sequence)
      (chain : SegmentRing.Chain area.ringStart area.ringEnd tail (spans ts ++ [lost.span]) head)
      (header : image (segmentsEnd area tail ts) =
        lost.descriptor (lost.placesAt (segmentsEnd area tail ts)))
      (absent : ¬ CommitMatches (segmentsEnd area tail ts)
        (lost.descriptor (lost.placesAt (segmentsEnd area tail ts)))
        (image (segmentsEnd area tail ts + 1 + lost.images.length)))
      (same : SameHome area (applyWrites image (imagesOf ts)) expected)

/-- The mount a ring recovery runs in: its buffers are the device. -/
structure RingMount (v : World) (area : JournalArea) (count : Nat) : Prop
    extends Ready v area count where
  fresh : v.disk = v.cache
  ring : v.sbi.journalRing = true
  idle : v.sbi.journalReplaying = false
  first : 0 < area.first
  long : 4 ≤ area.blocks
  limit : area.first + area.blocks < 2 ^ 64
  nextIno : v.sbi.nextIno = (v.cache 0).get Super.nextIno
  nextDataBlock : v.sbi.nextDataBlock = (v.cache 0).get Super.nextDataBlock

/-- A recovered ring: the owed home content, the allocation cursors the device had
before, and an empty journal. -/
structure RingRecovered (area : JournalArea) (before after : Nat → Block)
    (expected : Nat → Block) : Prop where
  home : SameHome area after expected
  nextIno : (after 0).get Super.nextIno = (before 0).get Super.nextIno
  nextDataBlock : (after 0).get Super.nextDataBlock = (before 0).get Super.nextDataBlock
  empty : ∃ last head,
    RingControl area (after area.first) JOURNAL_V3_STATE_IDLE last 0 last head head

theorem RingMount.written {v : World} {area : JournalArea} {count : Nat}
    (mount : RingMount v area count) (writes : List (Nat × Block))
    (keeps : KeepsCount count writes) :
    Ready (v.writtenAll writes) area count ∧
      (v.writtenAll writes).disk = (v.writtenAll writes).cache ∧
      (v.writtenAll writes).sbi = v.sbi := by
  refine ⟨mount.toReady.written writes keeps, ?_, World.writtenAll_sbi _ _⟩
  rw [World.writtenAll_disk, World.writtenAll_cache, mount.fresh]

private theorem u64_get (buf : Block) (field : ByteBuf.Field) (width : field.width = 8) :
    u64 (buf.get field) = buf.get field := by
  apply u64_of_lt
  have bound := ByteBuf.get_lt buf field
  rw [width] at bound
  exact bound

theorem resetWrites_inside (sbi : SbInfo) (ring : sbi.journalRing = true)
    (long : 4 ≤ sbi.area.blocks) (sequence : Nat) (write : Nat × Block)
    (member : write ∈ resetWrites sbi sequence (ringResetPlaces sbi)) :
    sbi.area.Inside write.1 := by
  simp only [resetWrites, SbInfo.resetPlaces, ring, ↓reduceIte, ringResetPlaces, List.mem_cons,
    List.not_mem_nil, or_false] at member
  simp only [SbInfo.area] at long
  rcases member with rfl | rfl | rfl <;>
    simp only [JournalArea.Inside, SbInfo.area] <;> omega

/-- The control block `discard` ends with. -/
theorem ringReset_control {sbi : SbInfo} (ring : sbi.journalRing = true)
    (long : 4 ≤ sbi.journalBlocks) (limit : sbi.journalBlock + sbi.journalBlocks < 2 ^ 64)
    {head last : Nat} (low : sbi.ringStart ≤ head) (high : head < sbi.ringEnd)
    (small : last < 2 ^ 64) (cells : Nat → Block) :
    RingControl sbi.area (applyWrites cells
      (resetWrites (discardedSbi sbi head last) last (ringResetPlaces sbi)) sbi.area.first)
      JOURNAL_V3_STATE_IDLE last 0 last head head := by
  have kept : (discardedSbi sbi head last).journalRing = true := ring
  have places : (discardedSbi sbi head last).resetPlaces (ringResetPlaces sbi) =
      ringResetPlaces sbi := by rw [SbInfo.resetPlaces, kept, if_pos rfl]
  have control : applyWrites cells (resetWrites (discardedSbi sbi head last) last
      (ringResetPlaces sbi)) sbi.area.first =
      journalV3PrepareControl (discardedSbi sbi head last) JOURNAL_V3_STATE_IDLE last 0 last
        ((discardedSbi sbi head last).resetPlaces (ringResetPlaces sbi)) := by
    simp only [resetWrites, WriteLog.applyWrites_cons, WriteLog.applyWrites_nil, SbInfo.area]
    exact WriteLog.store_same _ _ _
  rw [control, places]
  exact RingControl.prepared (discardedSbi sbi head last) kept
    ⟨by decide, small, by decide, small,
      ⟨by simp only [ringResetPlaces]; omega, by simp only [ringResetPlaces]; omega,
        by simp only [ringResetPlaces]; omega⟩,
      by simp only [ringResetPlaces]; omega, limit,
      fun _ => ⟨high, high, by
        change sbi.journalBlock + 1 < sbi.journalBlock + sbi.journalBlocks
        omega⟩⟩
    ⟨low, low⟩ (fun _ => rfl)

/-- What `discard` leaves, from a world whose home blocks are already right. -/
theorem replayRingDiscard_recovers {v : World} {area : JournalArea} {count : Nat}
    (mount : RingMount v area count) (writes : List (Nat × Block))
    (keeps : KeepsCount count writes) (expected : Nat → Block)
    (same : SameHome area (applyWrites v.cache writes) expected) (head last : Nat)
    (low : area.ringStart ≤ head) (high : head < area.ringEnd) (small : last < 2 ^ 64) :
    ∃ after, replayRingDiscard head last (v.writtenAll writes) = (.ok (), after) ∧
      RingRecovered area v.cache after.disk expected := by
  obtain ⟨ready, fresh, sbi⟩ := mount.written writes keeps
  have area' := mount.sameArea
  have long := mount.long
  have room := mount.journal
  have first := mount.first
  have limit := mount.limit
  subst area'
  simp only [SbInfo.area, JournalArea.ringStart, JournalArea.ringEnd]
    at long room first limit low high
  have ring : (v.writtenAll writes).sbi.journalRing = true := by rw [sbi]; exact mount.ring
  have run := replayRingDiscard_run (v.writtenAll writes) ready.healthy
    (by rw [sbi]; exact mount.idle) ring (by rw [sbi]; exact long)
    (by rw [sbi, World.writtenAll_size]; exact room) head last
  refine ⟨_, run, ?_⟩
  have disk : ({ (v.writtenAll writes).writtenAll (finishWrites
      (discardedSbi (v.writtenAll writes).sbi head last) ((v.writtenAll writes).cache 0) last
      (ringResetPlaces (v.writtenAll writes).sbi)) with
      sbi := (discardedSbi (v.writtenAll writes).sbi head last).journalV3ClearRuntime } :
      World).disk =
      applyWrites (store (applyWrites v.cache writes) 0
        (recoveredSuper false ((applyWrites v.cache writes 0).set Super.journalSequence last)
          v.sbi.nextIno v.sbi.nextDataBlock))
        (resetWrites (discardedSbi v.sbi head last) last (ringResetPlaces v.sbi)) := by
    change ((v.writtenAll writes).writtenAll _).disk = _
    rw [World.writtenAll_disk, fresh, World.writtenAll_cache, sbi, finishWrites,
      WriteLog.applyWrites_cons, discardedSbi_nextIno, discardedSbi_nextDataBlock]
  rw [disk]
  generalize superIs : recoveredSuper false
    ((applyWrites v.cache writes 0).set Super.journalSequence last) v.sbi.nextIno
      v.sbi.nextDataBlock = super
  have kept : (discardedSbi v.sbi head last).journalRing = true := mount.ring
  have inside : ∀ write, write ∈ resetWrites (discardedSbi v.sbi head last) last
      (ringResetPlaces v.sbi) → v.sbi.area.Inside write.1 :=
    fun write member => resetWrites_inside (discardedSbi v.sbi head last) kept long last write member
  have zero : applyWrites (store (applyWrites v.cache writes) 0 super)
      (resetWrites (discardedSbi v.sbi head last) last (ringResetPlaces v.sbi)) 0 = super := by
    rw [WriteLog.applyWrites_other, WriteLog.store_same]
    intro write member here
    have place := (inside write member).1
    simp only [SbInfo.area] at place
    omega
  have superSame : SameSuper super (applyWrites v.cache writes 0) := by
    rw [← superIs]
    exact (recoveredSuper_same _ _ _ _).trans (setJournalSequence_same _ _)
  refine ⟨?_, ?_, ?_, last, head, ?_⟩
  · exact ((SameHome.journalWrites _ _ first inside).trans
      (SameHome.storeSuper _ _ superSame)).trans same
  · rw [zero, ← superIs, recoveredSuper_nextIno, mount.nextIno, u64_get _ _ rfl]
  · rw [zero, ← superIs, recoveredSuper_nextDataBlock, mount.nextDataBlock, u64_get _ _ rfl]
  · exact ringReset_control mount.ring long limit low high small _

theorem lastSequenceOf_lt (ts : List Transaction) (last : Nat) (small : last < 2 ^ 64)
    (bounded : ∀ t, t ∈ ts → t.sequence < 2 ^ 64) : lastSequenceOf last ts < 2 ^ 64 := by
  induction ts generalizing last with
  | nil => exact small
  | cons t ts ih =>
      exact ih t.sequence (bounded t List.mem_cons_self)
        (fun other member => bounded other (List.mem_cons_of_mem _ member))

theorem RingControl.last_lt {area : JournalArea} {buf : Block}
    {state last active checkpoint head tail : Nat}
    (control : RingControl area buf state last active checkpoint head tail) :
    last < 2 ^ 64 := by
  rw [← control.lastIs]
  exact ByteBuf.get_lt buf ⟨24, 8⟩

/-- The read-only path over a ring that is already clean. -/
theorem validateClean_ring {v : World} {area : JournalArea} {count : Nat}
    (ready : Ready v area count) (ring : v.sbi.journalRing = true) (journal : 4 ≤ area.blocks)
    (last head : Nat)
    (control : RingControl area (v.cache area.first) JOURNAL_V3_STATE_IDLE last 0 last head head) :
    journalV3ValidateClean v = (.ok (),
      { v with sbi := { setSequences last v.sbi with
          journalActiveSequence := 0
          journalRingHead := head
          journalRingTail := head } }) := by
  have room := ready.journal
  have same := ready.sameArea
  subst same
  change RingControl v.sbi.area (v.cache v.sbi.journalBlock) _ _ _ _ _ _ at control
  have accepted := control.accepted v.sbi ring rfl
  have place : v.sbi.journalBlock < v.size := by
    simp only [SbInfo.area] at room journal
    omega
  rw [journalV3ValidateClean, kmalloc_bind v ready.healthy, Routine.read_bind,
    readFileBlock_bind v ready.healthy _ _ place]
  simp only [ring, ↓reduceIte]
  rw [Routine.require_bind _ _ _ _ accepted.1, Routine.require_bind _ _ _ _ accepted.2.1,
    Routine.require_bind _ _ _ _ accepted.2.2, Routine.require_bind _ _ _ _
      ⟨control.stateIs, control.activeIs, by rw [control.checkpointIs, control.lastIs]⟩,
    Routine.modify_run, control.lastIs, control.headIs, control.tailIs]

/-- Recovery of any device the ring may leave behind succeeds and owes nothing. -/
theorem replayRing_recovers {v : World} {area : JournalArea} {count : Nat}
    (mount : RingMount v area count) (expected : Nat → Block)
    (image : RingImage area count v.cache expected) :
    ∃ after, journalV3ReplayRing v = (.ok (), after) ∧
      RingRecovered area v.cache after.disk expected := by
  have ready := mount.toReady
  have place : area.first < v.size := by
    have room := mount.journal
    have long := mount.long
    omega
  have block : v.sbi.journalBlock = area.first := by
    rw [← mount.sameArea]
    rfl
  have nothing : KeepsCount count [] := fun image member => by simp at member
  have start : journalV3ReplayRing v = (do
      let controlBuf : Block := v.cache area.first
      let control := JournalV3Control.ofBlock controlBuf
      Routine.require (ControlHeaderValid v.sbi control ∧ v.sbi.RingValid control ∧
        ChecksumValid controlBuf) .euclean
      if control.state = JOURNAL_V3_STATE_IDLE then
        if journalNeedsRecovery v = false then journalV3ValidateClean
        else do
          Routine.require (control.activeSequence = 0 ∧
            control.checkpointSequence = control.lastSequence) .euclean
          replayRingDiscard control.ringHead control.lastSequence
      else do
        Routine.require (control.state ≤ JOURNAL_V3_STATE_CHECKPOINTING) .euclean
        let lastSequence ← replayRingWalk control.ringHead control.ringTail
          control.checkpointSequence control.lastSequence
        replayRingDiscard control.ringHead lastSequence : Kernel Unit) v := by
    rw [journalV3ReplayRing, kmalloc_bind v ready.healthy, Routine.read_bind, block,
      readFileBlock_bind v ready.healthy _ _ place]
  rw [start]
  dsimp only
  cases image with
  | idle last head control same =>
      have accepted := control.accepted v.sbi mount.ring mount.sameArea
      rw [Routine.require_bind _ _ _ _ accepted, if_pos control.stateIs]
      by_cases clean : journalNeedsRecovery v = false
      · rw [if_pos clean]
        refine ⟨_, validateClean_ring ready mount.ring mount.long last head control, ?_⟩
        have disk : v.disk = v.cache := mount.fresh
        refine ⟨?_, ?_, ?_, last, head, ?_⟩
        · change SameHome area v.disk expected
          rw [disk]
          exact same
        · change (v.disk 0).get Super.nextIno = _
          rw [disk]
        · change (v.disk 0).get Super.nextDataBlock = _
          rw [disk]
        · change RingControl area (v.disk area.first) _ _ _ _ _ _
          rw [disk]
          exact control
      · rw [if_neg clean, Routine.require_bind _ _ _ _
          ⟨control.activeIs, by rw [control.checkpointIs, control.lastIs]⟩,
          control.headIs, control.lastIs]
        exact replayRingDiscard_recovers mount [] nothing expected same head last
          control.headLow control.headHigh control.last_lt
  | live state last active checkpoint head tail ts control busy pending chain same =>
      have accepted := control.accepted v.sbi mount.ring mount.sameArea
      have walk := replayRingWalk_complete ready mount.idle ts pending.valid pending.keeps head
        tail checkpoint last chain control.tailLow pending.on pending.ascending
      rw [Routine.require_bind _ _ _ _ accepted, if_neg (by rw [control.stateIs]; exact busy.1),
        Routine.require_bind _ _ _ _ (by rw [control.stateIs]; exact busy.2), control.headIs,
        control.tailIs, control.checkpointIs, control.lastIs, Routine.bind_ok _ _ _ _ _ walk]
      exact replayRingDiscard_recovers mount _ pending.keeps expected same head _
        control.headLow control.headHigh
        (lastSequenceOf_lt ts last control.last_lt (fun t member => (pending.valid t member).bounded))
  | torn state last active checkpoint head tail ts control busy pending lost valid later chain
      header absent same =>
      have accepted := control.accepted v.sbi mount.ring mount.sameArea
      have walk := replayRingWalk_torn ready mount.idle ts pending.valid pending.keeps lost valid
        head tail checkpoint last chain control.tailLow pending.on pending.ascending later header
        absent
      rw [Routine.require_bind _ _ _ _ accepted, if_neg (by rw [control.stateIs]; exact busy.1),
        Routine.require_bind _ _ _ _ (by rw [control.stateIs]; exact busy.2), control.headIs,
        control.tailIs, control.checkpointIs, control.lastIs, Routine.bind_ok _ _ _ _ _ walk]
      exact replayRingDiscard_recovers mount _ pending.keeps expected same head _
        control.headLow control.headHigh
        (lastSequenceOf_lt ts last control.last_lt (fun t member => (pending.valid t member).bounded))

end Cryexts
