import Cryexts.Journal.RingImage

set_option autoImplicit false

namespace Cryexts

open WriteLog (store applyWrites)

/-- The mount's journal state once the oldest segment is home. -/
def checkpointedSbi (sbi : SbInfo) (t : Transaction) : SbInfo :=
  { sbi with
    journalRingTail := sbi.ringWrap (sbi.journalRingTail + t.span)
    journalTailSequence := t.sequence
    journalCheckpointSequence := t.sequence }

/-- The control block and the home blocks a checkpoint writes first. -/
def checkpointWrites (sbi : SbInfo) (t : Transaction) : List (Nat × Block) :=
  (sbi.journalBlock,
    journalV3PrepareControl sbi JOURNAL_V3_STATE_CHECKPOINTING sbi.journalLastSequence 0
      sbi.journalCheckpointSequence (t.placesAt sbi.journalRingTail)) :: t.images

/-- What a checkpoint writes last: the new tail, and a clean superblock first when the
ring has become empty. -/
def settleWrites (emptied : Bool) (sbi : SbInfo) (super : Block) (lastSequence sequence : Nat)
    (segment : JournalV3Segment) : List (Nat × Block) :=
  if emptied then
    [(0, recoveredSuper false super sbi.nextIno sbi.nextDataBlock),
      (sbi.journalBlock,
        journalV3PrepareControl sbi JOURNAL_V3_STATE_IDLE lastSequence 0 sequence segment)]
  else
    [(sbi.journalBlock,
      journalV3PrepareControl sbi JOURNAL_V3_STATE_COMMITTED lastSequence 0 sequence segment)]

theorem journalV3SettleTail_run (w : World) (healthy : w.Healthy)
    (idle : w.sbi.journalReplaying = false) (control : w.sbi.journalBlock < w.size)
    (emptied : Bool) (lastSequence sequence : Nat) (segment : JournalV3Segment) :
    journalV3SettleTail emptied lastSequence sequence segment w = (.ok (),
      w.writtenAll (settleWrites emptied w.sbi (w.cache 0) lastSequence sequence segment)) := by
  cases emptied with
  | true =>
      have synced := superSync_run w healthy idle (lt_of_le_of_lt (Nat.zero_le _) control)
      have put := journalV3WriteSync_run (w.written 0 (recoveredSuper false (w.cache 0)
        w.sbi.nextIno w.sbi.nextDataBlock)) (World.written_healthy _ _ _ healthy)
        w.sbi.journalBlock
        (journalV3PrepareControl w.sbi JOURNAL_V3_STATE_IDLE lastSequence 0 sequence segment)
        control
      rw [journalV3SettleTail, if_pos rfl, Routine.modify_bind,
        Routine.bind_ok _ _ _ _ _ synced, Routine.read_bind]
      exact put
  | false =>
      rw [journalV3SettleTail, if_neg (by decide), Routine.read_bind]
      exact journalV3WriteSync_run w healthy _ _ control

/-- All writes of one checkpoint step, in order. -/
def checkpointAll (w : World) (t : Transaction) : List (Nat × Block) :=
  checkpointWrites w.sbi t ++
    settleWrites (decide (w.sbi.ringWrap (w.sbi.journalRingTail + t.span) = w.sbi.journalRingHead))
      (checkpointedSbi w.sbi t) (applyWrites w.cache t.images 0) w.sbi.journalLastSequence
      t.sequence (t.placesAt w.sbi.journalRingTail)

/-- A checkpoint step writes the control block, its images and the superblock. -/
theorem mem_checkpointAll (w : World) (t : Transaction) (write : Nat × Block)
    (member : write ∈ checkpointAll w t) :
    write.1 = w.sbi.journalBlock ∨ write ∈ t.images ∨ write.1 = 0 := by
  rw [checkpointAll, checkpointWrites, List.mem_append, List.mem_cons] at member
  rcases member with (rfl | image) | settle
  · exact Or.inl rfl
  · exact Or.inr (Or.inl image)
  · unfold settleWrites at settle
    split at settle
    · simp only [List.mem_cons, List.not_mem_nil, or_false] at settle
      rcases settle with rfl | rfl
      · exact Or.inr (Or.inr rfl)
      · exact Or.inl rfl
    · simp only [List.mem_singleton] at settle
      exact Or.inl (congrArg Prod.fst settle)

theorem journalV3CheckpointOne_empty (w : World)
    (empty : w.sbi.journalRingTail = w.sbi.journalRingHead) :
    journalV3CheckpointOne w = (.ok (), w) := by
  rw [journalV3CheckpointOne, Routine.read_bind, if_pos (Or.inr empty)]
  rfl

/-- A checkpoint step over a committed segment at the tail. -/
theorem journalV3CheckpointOne_run {w : World} {area : JournalArea} {count : Nat}
    (ready : Ready w area count) (ring : w.sbi.journalRing = true)
    (idle : w.sbi.journalReplaying = false) (first : 0 < area.first) {t : Transaction}
    (valid : t.Valid area count)
    (apart : w.sbi.journalRingTail ≠ w.sbi.journalRingHead)
    (low : area.ringStart ≤ w.sbi.journalRingTail)
    (inside : w.sbi.journalRingTail + t.span ≤ area.ringEnd)
    (committed : t.Committed w.cache (t.placesAt w.sbi.journalRingTail))
    (later : w.sbi.journalCheckpointSequence < t.sequence) :
    journalV3CheckpointOne w = (.ok (),
      { w.writtenAll (checkpointAll w t) with sbi := checkpointedSbi w.sbi t }) := by
  have small : count ≤ 2 ^ 64 := ready.homes.trans ready.bounded
  have journal := ready.journal
  have same := ready.sameArea
  subst same
  have limit : w.sbi.area.ringEnd ≤ w.size := journal
  have bounded := placesAt_bounded t w.sbi.journalRingTail _ inside (limit.trans ready.bounded)
  unfold JournalArea.ringStart at low
  have reach := inside
  unfold Transaction.span at reach
  have control : w.sbi.journalBlock < w.size := by
    simp only [SbInfo.area] at low
    omega
  have header := segmentHeader_valid valid small w.sbi.journalRingTail
    w.sbi.journalCheckpointSequence bounded later
  have found : w.cache w.sbi.journalRingTail =
      t.descriptor (t.placesAt w.sbi.journalRingTail) := committed.descriptor
  have fields := t.ofBlock_descriptor _ _ count valid bounded small
  have record := t.ofBlock_commitRecord _ _ count valid bounded
  have commit : w.cache (w.sbi.journalRingTail + 1 + t.images.length) =
      t.commitRecord (t.placesAt w.sbi.journalRingTail) := committed.commitRecord
  have commitBlock : (JournalV3Descriptor.ofBlock
      (t.descriptor (t.placesAt w.sbi.journalRingTail))).commitBlock =
        w.sbi.journalRingTail + 1 + t.images.length := by
    rw [fields]
    rfl
  have entryCount : (JournalV3Descriptor.ofBlock
      (t.descriptor (t.placesAt w.sbi.journalRingTail))).entryCount = t.images.length := by
    rw [fields]
    rfl
  have payloadStart : (JournalV3Descriptor.ofBlock
      (t.descriptor (t.placesAt w.sbi.journalRingTail))).payloadStart =
        w.sbi.journalRingTail + 1 := by
    rw [fields]
    rfl
  have sequence : (JournalV3Descriptor.ofBlock
      (t.descriptor (t.placesAt w.sbi.journalRingTail))).sequence = t.sequence := by
    rw [fields]
    rfl
  have accepted : CommitMatches w.sbi.journalRingTail
      (t.descriptor (t.placesAt w.sbi.journalRingTail))
      (t.commitRecord (t.placesAt w.sbi.journalRingTail)) ∧
      (JournalV3Commit.ofBlock (t.commitRecord (t.placesAt w.sbi.journalRingTail))).flags =
        JOURNAL_V3_FLAG_COMMITTED ∧
      (JournalV3Commit.ofBlock (t.commitRecord
        (t.placesAt w.sbi.journalRingTail))).descriptorChecksum =
          (JournalV3Descriptor.ofBlock
            (t.descriptor (t.placesAt w.sbi.journalRingTail))).checksum := by
    refine ⟨commitMatches valid small _ bounded, ?_, ?_⟩
    · rw [record]
    · rw [record, fields]
  rw [journalV3CheckpointOne, Routine.read_bind, if_neg (by
    rw [ring]
    exact not_or.mpr ⟨by decide, apart⟩), kmalloc_bind w ready.healthy,
    readFileBlock_bind w ready.healthy _ _ (by omega), found]
  dsimp only
  rw [Routine.require_bind _ _ _ _ header, commitBlock,
    readFileBlock_bind w ready.healthy _ _ (by omega), commit,
    Routine.require_bind _ _ _ _ accepted, entryCount, payloadStart, sequence]
  -- The control block is the only journal block that changes before the home writes.
  have placed : (⟨w.sbi.journalRingTail, w.sbi.journalRingTail + 1, t.images.length,
      w.sbi.journalRingTail + 1 + t.images.length⟩ : JournalV3Segment) =
        t.placesAt w.sbi.journalRingTail := rfl
  rw [placed, writeSync_bind w ready.healthy _ _ _ control]
  generalize controlIs : journalV3PrepareControl w.sbi JOURNAL_V3_STATE_CHECKPOINTING
    w.sbi.journalLastSequence 0 w.sbi.journalCheckpointSequence
    (t.placesAt w.sbi.journalRingTail) = marked
  have ready' : Ready (w.written w.sbi.journalBlock marked) w.sbi.area count :=
    ready.written [(w.sbi.journalBlock, marked)] (by
      intro image member zero
      rw [List.mem_singleton] at member
      subst member
      simp only [SbInfo.area] at first
      exact absurd zero (by omega))
  have committed' : t.Committed (w.written w.sbi.journalBlock marked).cache
      (t.placesAt w.sbi.journalRingTail) := by
    apply committed.congr
    intro block lower _
    apply WriteLog.store_other
    simp only [SbInfo.area] at low
    omega
  have cells : ∀ index, index < t.images.length →
      w.sbi.area.Inside ((t.placesAt w.sbi.journalRingTail).payloadStart + index) := by
    intro index before
    simp only [Transaction.placesAt, JournalArea.Inside, JournalArea.ringEnd] at *
    omega
  have checks := verifyPayloads_run ready' valid bounded false committed'.toLogged
    (by
      change w.sbi.journalRingTail + 1 + t.images.length ≤ w.size
      omega) FNV_OFFSET
  have home := writeHome_run ready' valid bounded committed'.toLogged cells
  have checks' : verifyPayloads false (t.descriptor (t.placesAt w.sbi.journalRingTail))
      (w.sbi.journalRingTail + 1) (List.range t.images.length) FNV_OFFSET
      (w.written w.sbi.journalBlock marked) = _ := checks
  have home' : writeHome (t.descriptor (t.placesAt w.sbi.journalRingTail))
      (w.sbi.journalRingTail + 1) (List.range t.images.length)
      (w.written w.sbi.journalBlock marked) = _ := home
  rw [Routine.bind_ok _ _ _ _ _ checks', Routine.require_bind _ _ _ _ (by
    rw [record]
    rfl), Routine.bind_ok _ _ _ _ _ home', Routine.modify_bind]
  have ends : w.sbi.journalRingTail + 1 + t.images.length + 1 =
      w.sbi.journalRingTail + t.span := by
    unfold Transaction.span
    omega
  rw [ends]
  have settled : ({ (w.written w.sbi.journalBlock marked).writtenAll t.images with
      sbi := checkpointedSbi w.sbi t } : World).Healthy := by
    have sound := World.writtenAll_healthy _ t.images ready'.healthy
    exact ⟨sound.noFaults, sound.current⟩
  have size : ({ (w.written w.sbi.journalBlock marked).writtenAll t.images with
      sbi := checkpointedSbi w.sbi t } : World).size = w.size := World.writtenAll_size _ _
  have moved : { ((w.written w.sbi.journalBlock marked).writtenAll t.images).sbi with
      journalRingTail := w.sbi.ringWrap (w.sbi.journalRingTail + t.span)
      journalTailSequence := t.sequence
      journalCheckpointSequence := t.sequence } = checkpointedSbi w.sbi t := by
    rw [World.writtenAll_sbi]
    rfl
  rw [moved]
  have super : ((w.written w.sbi.journalBlock marked).writtenAll t.images).cache 0 =
      applyWrites w.cache t.images 0 := by
    rw [World.writtenAll_cache]
    apply WriteLog.applyWrites_congr_at
    apply WriteLog.store_other
    simp only [SbInfo.area] at first
    omega
  refine (journalV3SettleTail_run _ settled idle (by rw [size]; exact control) _ _ _ _).trans ?_
  rw [checkpointAll, checkpointWrites, controlIs, ← super, List.cons_append,
    World.writtenAll_cons, World.writtenAll_append]
  exact congrArg (Prod.mk _) (World.writtenAll_with_sbi _ _ _)

end Cryexts
