import Cryexts.Journal.Commit
import Cryexts.Journal.RingImage

set_option autoImplicit false

namespace Cryexts

open WriteLog (store applyWrites)

/-- The places of a transaction in the fixed layout. -/
def JournalArea.fixedPlaces (area : JournalArea) (entries : Nat) : JournalV3Segment :=
  ⟨area.first + 1, area.first + 2, entries, area.first + area.blocks - 1⟩

/-- The fixed layout always has the same place for a transaction. -/
theorem journalV3RingAllocate_fixed {sbi : SbInfo} (entries : Nat)
    (fixed : sbi.journalRing = false) :
    journalV3RingAllocate sbi entries =
      .ok ⟨sbi.area.fixedPlaces entries, sbi.journalRingHead⟩ := by
  unfold journalV3RingAllocate
  simp only [fixed, ↓reduceIte]
  rfl

section Home

variable {w : World} {area : JournalArea} {count : Nat} (ready : Ready w area count)
variable {t : Transaction} (valid : t.Valid area count) {places : JournalV3Segment}
variable (bounded : places.Bounded)
include ready valid bounded

private theorem checkpointImages_from (logged : t.Logged w.cache places)
    (journal : ∀ index, index < t.images.length → area.Inside (places.payloadStart + index))
    (done rest : List (Nat × Block)) (split : t.images = done ++ rest) :
    checkpointImages (t.descriptor places) places.payloadStart (rest.map Prod.fst) done.length
        (w.writtenAll done) = (.ok (), w.writtenAll (done ++ rest)) := by
  have small : count ≤ 2 ^ 64 := ready.homes.trans ready.bounded
  induction rest generalizing done with
  | nil => simp [checkpointImages]
  | cons image rest ih =>
      have here : t.images[done.length]? = some image := by
        rw [split, List.getElem?_append_right (Nat.le_refl _), Nat.sub_self,
          List.getElem?_cons_zero]
      have entry := t.entry_descriptor places area count valid bounded small _ _ here
      have home := valid.home image (List.mem_of_getElem? here)
      have healthy := World.writtenAll_healthy w done ready.healthy
      have inside := journal _ (List.getElem?_eq_some_iff.mp here).1
      have place : places.payloadStart + done.length < (w.writtenAll done).size := by
        rw [World.writtenAll_size]
        exact lt_of_lt_of_le inside.2 ready.journal
      have read := readFileBlock_run (w.writtenAll done) healthy _ place
      have early : OutsideJournal area done := fun write member =>
        (valid.home write (split ▸ List.mem_append_left _ member)).2
      rw [World.writtenAll_cache, early.cell _ _ inside, logged.payload _ _ here] at read
      have put := journalV3WriteSync_run (w.writtenAll done) healthy image.1 image.2 (by
        rw [World.writtenAll_size]
        exact lt_of_lt_of_le home.1 ready.homes)
      have later := ih (done ++ [image]) (by rw [split]; simp)
      rw [List.length_append, List.length_singleton, World.writtenAll_append,
        World.writtenAll_cons, World.writtenAll_nil, List.append_assoc,
        List.singleton_append] at later
      rw [List.map_cons, checkpointImages, Routine.bind_ok _ _ _ _ _ read,
        Routine.require_bind _ _ _ _ (by rw [entry]), Routine.bind_ok _ _ _ _ _ put]
      exact later

/-- The home loop of a commit writes exactly the images, in order. -/
theorem checkpointImages_run (logged : t.Logged w.cache places)
    (journal : ∀ index, index < t.images.length → area.Inside (places.payloadStart + index)) :
    checkpointImages (t.descriptor places) places.payloadStart t.homes 0 w =
      (.ok (), w.writtenAll t.images) :=
  checkpointImages_from ready valid bounded logged journal [] t.images rfl

end Home

theorem KeepsCount.journal {area : JournalArea} {count : Nat} {writes : List (Nat × Block)}
    (first : 0 < area.first) (inside : ∀ write, write ∈ writes → area.Inside write.1) :
    KeepsCount count writes := by
  intro write member zero
  have low := (inside write member).1
  omega

/-- The writes of `journalV3FinishFixed` over a superblock buffer `super`. -/
def finishFixedWrites (sbi : SbInfo) (super : Block) (t : Transaction)
    (places : JournalV3Segment) (previousSequence : Nat) : List (Nat × Block) :=
  (sbi.journalBlock, journalV3PrepareControl sbi JOURNAL_V3_STATE_CHECKPOINTING t.sequence
      t.sequence previousSequence places) :: t.images ++
    [(0, recoveredSuper false super sbi.nextIno sbi.nextDataBlock),
      (places.descriptorBlock, journalV3EmptyDescriptor t.sequence places),
      (places.commitBlock, journalV3EmptyCommit t.sequence places),
      (sbi.journalBlock, journalV3PrepareControl sbi JOURNAL_V3_STATE_IDLE t.sequence 0 t.sequence
        places)]

/-- The mount's journal state behind a checkpoint of everything up to `sequence`. -/
def settledSbi (sbi : SbInfo) (sequence : Nat) : SbInfo :=
  (setSequences sequence sbi).journalV3ClearRuntime

section Finish

variable {v : World} {area : JournalArea} {count : Nat} (ready : Ready v area count)
variable {t : Transaction} (valid : t.Valid area count) {places : JournalV3Segment}
variable (bounded : places.Bounded) (within : places.Within area t.images.length)
include ready valid bounded within

/-- The second half of a commit in the fixed layout, over a logged transaction. -/
theorem journalV3FinishFixed_run (logged : t.Logged v.cache places)
    (journal : ∀ index, index < t.images.length → area.Inside (places.payloadStart + index))
    (apart : area.first < places.payloadStart ∧ area.first ≠ places.descriptorBlock)
    (first : 0 < area.first) (idle : v.sbi.journalReplaying = false)
    (homes : v.sbi.journalHomeBlocks = t.homes) (keeps : KeepsCount count t.images)
    (previousSequence payloadChecksum : Nat) :
    journalV3FinishFixed previousSequence t.sequence
        ⟨places, t.descriptor places, payloadChecksum⟩ v =
      (.ok (), { v.writtenAll (finishFixedWrites v.sbi (applyWrites v.cache t.images 0) t places
          previousSequence) with sbi := settledSbi v.sbi t.sequence }) := by
  have same : v.sbi.journalBlock = area.first := congrArg JournalArea.first ready.sameArea
  have here : area.Inside area.first := by
    have later := within.descriptorBlock
    unfold JournalArea.Inside at later ⊢
    omega
  have inside : ∀ block, area.Inside block → block < v.size := fun block member =>
    lt_of_lt_of_le member.2 ready.journal
  generalize markedIs : journalV3PrepareControl v.sbi JOURNAL_V3_STATE_CHECKPOINTING t.sequence
    t.sequence previousSequence places = marked
  have markedReady := ready.written [(area.first, marked)]
    (KeepsCount.journal first (by simpa using here))
  rw [World.writtenAll_cons, World.writtenAll_nil] at markedReady
  have kept : t.Logged (v.written area.first marked).cache places := by
    refine logged.congr ?_ ?_
    · exact WriteLog.store_other _ _ _ _ (Ne.symm apart.2)
    · intro index _
      apply WriteLog.store_other
      have low := apart.1
      omega
  have home := checkpointImages_run markedReady valid bounded kept journal
  have homeReady := markedReady.written t.images keeps
  have super : ((v.written area.first marked).writtenAll t.images).cache 0 =
      applyWrites v.cache t.images 0 := by
    rw [World.writtenAll_cache]
    apply WriteLog.applyWrites_congr_at
    exact WriteLog.store_other _ _ _ _ (Nat.ne_of_lt first)
  have sbi : ((v.written area.first marked).writtenAll t.images).sbi = v.sbi :=
    World.writtenAll_sbi _ _
  have size : ((v.written area.first marked).writtenAll t.images).size = v.size :=
    World.writtenAll_size _ _
  have synced := superSync_run _ homeReady.healthy (by rw [sbi]; exact idle)
    (by rw [size]; exact lt_of_le_of_lt (Nat.zero_le _) (inside _ here))
  rw [super, sbi] at synced
  generalize cleanIs : recoveredSuper false (applyWrites v.cache t.images 0) v.sbi.nextIno
    v.sbi.nextDataBlock = clean at synced
  have cleanHealthy := World.written_healthy _ 0 clean homeReady.healthy
  have descriptor := World.written_healthy _ places.descriptorBlock
    (journalV3EmptyDescriptor t.sequence places) cleanHealthy
  have commit := World.written_healthy _ places.commitBlock
    (journalV3EmptyCommit t.sequence places) descriptor
  have room : ∀ block, area.Inside block →
      block < ((v.written area.first marked).writtenAll t.images).size := by
    rw [size]
    exact inside
  rw [journalV3FinishFixed, Routine.read_bind]
  dsimp only
  rw [homes, same, markedIs, writeSync_bind v ready.healthy _ _ _ (inside _ here),
    Routine.bind_ok _ _ _ _ _ home, Routine.modify_bind, Routine.bind_ok _ _ _ _ _ synced,
    writeSync_bind _ cleanHealthy _ _ _ (room _ within.descriptorBlock),
    writeSync_bind _ descriptor _ _ _ (room _ within.commitBlock), Routine.read_bind]
  have last : (((((v.written area.first marked).writtenAll t.images).written 0 clean).written
      places.descriptorBlock (journalV3EmptyDescriptor t.sequence places)).written
      places.commitBlock (journalV3EmptyCommit t.sequence places)).sbi = v.sbi := sbi
  have tall : area.first < (((((v.written area.first marked).writtenAll t.images).written 0
      clean).written places.descriptorBlock (journalV3EmptyDescriptor t.sequence places)).written
      places.commitBlock (journalV3EmptyCommit t.sequence places)).size := room _ here
  rw [finishFixedWrites, same, markedIs, cleanIs]
  simp only [World.writtenAll_append, World.writtenAll_cons, World.writtenAll_nil]
  generalize (((((v.written area.first marked).writtenAll t.images).written 0 clean).written
      places.descriptorBlock (journalV3EmptyDescriptor t.sequence places)).written
      places.commitBlock (journalV3EmptyCommit t.sequence places)) = reset at *
  rw [last, same, writeSync_bind _ commit _ _ _ tall, Routine.modify_run]
  have kept : (reset.written area.first (journalV3PrepareControl v.sbi JOURNAL_V3_STATE_IDLE
      t.sequence 0 t.sequence places)).sbi = v.sbi := last
  generalize reset.written area.first _ = final at *
  rw [kept]
  rfl

end Finish

/-- A live mount over a fixed journal, with whatever it has recorded. -/
structure FixedInv (w : World) (area : JournalArea) (count : Nat) : Prop where
  mode : JournalMode w
  fixed : w.sbi.journalRing = false
  ready : Ready w area count
  long : JOURNAL_V3_MIN_BLOCKS ≤ area.blocks
  limit : area.first + area.blocks < 2 ^ 64
  describes : Describes (w.cache 0) w.sbi count
  records : RecordSet w.sbi count
  small : w.sbi.journalActiveSequence < 2 ^ 64

/-- Where a commit in the fixed layout puts its transaction. -/
def fixedAllocation (w : World) : JournalV3Allocation :=
  ⟨w.sbi.area.fixedPlaces (committing w).images.length, (atCommit w).sbi.journalRingHead⟩

/-- Everything such a commit writes from its commit record on, in order. -/
def fixedFinishWrites (w : World) : List (Nat × Block) :=
  let places := (fixedAllocation w).segment
  (places.commitBlock, (committing w).commitRecord places) ::
    finishFixedWrites (atCommit w).sbi (commitSuper w) (committing w) places w.sbi.journalSequence

namespace FixedInv

variable {w : World} {area : JournalArea} {count : Nat} (inv : FixedInv w area count)
include inv

theorem valid : (committing w).Valid area count := by
  have valid := committing_valid inv.mode inv.describes inv.records inv.small
  rw [inv.ready.sameArea] at valid
  exact valid

theorem fits : (committing w).images.length + 3 ≤ area.blocks := by
  have fits := inv.valid.fits
  have long := inv.long
  unfold JournalArea.capacity at fits
  unfold JOURNAL_V3_MIN_BLOCKS at *
  split at fits <;> omega

theorem atCommit_ready : Ready (atCommit w) area count := by
  have worked := inv.mode.worked
  refine ⟨worked.healthy inv.ready.healthy, worked.area.trans inv.ready.sameArea, ?_, ?_, ?_, ?_⟩
  · rw [blocksCount, World.super, atCommit_super inv.mode.first inv.mode.table inv.mode.enabled
      inv.mode.v3 inv.mode.live]
    exact ((commitSuper_same w).describes inv.describes).blocksCount
  · rw [worked.size]
    exact inv.ready.journal
  · rw [worked.size]
    exact inv.ready.homes
  · rw [worked.size]
    exact inv.ready.bounded

theorem allocated : journalV3RingAllocate (atCommit w).sbi
    (atCommit w).sbi.journalHomeBlocks.length = .ok (fixedAllocation w) := by
  have worked := inv.mode.worked
  rw [journalV3RingAllocate_fixed _ (worked.ring.trans inv.fixed), ← committing_length,
    worked.area]
  rfl

theorem advanced_eq : advanced w (fixedAllocation w) = (atCommit w).sbi := by
  have fixed := inv.mode.worked.ring.trans inv.fixed
  unfold advanced SbInfo.takeSegment
  rw [fixed]
  rfl

theorem within : (fixedAllocation w).segment.Within area (committing w).images.length := by
  have same := inv.ready.sameArea
  have fits := inv.fits
  subst same
  constructor <;>
    simp only [fixedAllocation, JournalArea.fixedPlaces, JournalArea.Inside] <;> omega

theorem bounded : (fixedAllocation w).segment.Bounded := by
  have same := inv.ready.sameArea
  have limit := inv.limit
  have fits := inv.fits
  subst same
  constructor <;> simp only [fixedAllocation, JournalArea.fixedPlaces] <;> omega

theorem homes (image : Nat × Block) (member : image ∈ (committing w).images) :
    image.1 < w.size ∧ ¬ w.sbi.area.Inside image.1 := by
  have home := inv.valid.home image member
  rw [inv.ready.sameArea]
  exact ⟨lt_of_lt_of_le home.1 inv.ready.homes, home.2⟩

/-- The first half of the commit. -/
theorem prepared (recorded : (atCommit w).sbi.journalError = none) :
    journalV3Prepare w =
      (.ok ⟨(fixedAllocation w).segment, (committing w).descriptor (fixedAllocation w).segment,
          (committing w).payloadChecksum⟩,
        (atCommit w).writtenAll (prepareWrites w (fixedAllocation w))) := by
  have within := inv.within
  rw [← inv.ready.sameArea] at within
  rw [journalV3Prepare_run inv.mode (fixedAllocation w) recorded inv.allocated within inv.homes,
    inv.advanced_eq]

/-- What is logged before the control block names it. -/
theorem logged (cells : Nat → Block) :
    (committing w).Logged (applyWrites cells (prepareWrites w (fixedAllocation w)))
      (fixedAllocation w).segment := by
  have fits := inv.fits
  have same := inv.ready.sameArea
  subst same
  rw [prepareWrites, WriteLog.applyWrites_append]
  simp only [WriteLog.applyWrites_cons, WriteLog.applyWrites_nil]
  constructor
  · rw [WriteLog.store_other, WriteLog.store_same]
    exact Nat.succ_ne_self _
  · intro index image here
    have before := (List.getElem?_eq_some_iff.mp here).1
    have place : (fixedAllocation w).segment.payloadStart = w.sbi.journalBlock + 2 := rfl
    have descriptor : (fixedAllocation w).segment.descriptorBlock = w.sbi.journalBlock + 1 := rfl
    rw [WriteLog.store_other _ _ _ _ (by omega), WriteLog.store_other _ _ _ _ (by omega)]
    exact applyWrites_payload _ _ _ _ _ here

theorem prepareWrites_inside (write : Nat × Block)
    (member : write ∈ prepareWrites w (fixedAllocation w)) : area.Inside write.1 := by
  have fits := inv.fits
  have same := inv.ready.sameArea
  subst same
  rcases List.mem_append.mp member with payload | rest
  · have place := payloadWrites_place _ _ _ payload
    simp only [fixedAllocation, JournalArea.fixedPlaces, SbInfo.area] at place
    simp only [JournalArea.Inside, SbInfo.area] at fits ⊢
    omega
  · simp only [List.mem_cons, List.not_mem_nil, or_false] at rest
    rcases rest with rfl | rfl <;>
      simp only [fixedAllocation, JournalArea.fixedPlaces, JournalArea.Inside, SbInfo.area]
        at fits ⊢ <;> omega

/-- The superblock buffer the checkpoint of a commit starts from. -/
theorem checkpointSuper (writes : List (Nat × Block))
    (inside : ∀ write, write ∈ writes → area.Inside write.1) :
    applyWrites (applyWrites (atCommit w).cache writes) (committing w).images 0 =
      commitSuper w := by
  have first := inv.mode.first
  have here := inv.ready.sameArea
  have super := atCommit_super inv.mode.first inv.mode.table inv.mode.enabled inv.mode.v3
    inv.mode.live
  rw [here] at first
  apply WriteLog.applyWrites_settled
  · rw [WriteLog.applyWrites_other, super]
    intro write member zero
    have low := (inside write member).1
    omega
  · intro image member zero
    rw [← committing_current w image member, zero, super]

theorem keeps : KeepsCount count (committing w).images := by
  intro image member zero
  exact (committing_describes inv.mode inv.describes image member zero).blocksCount

/-- A commit in the fixed layout: what it writes, and the mount it leaves. -/
theorem commit (sound : w.sbi.journalError = none)
    (recorded : (atCommit w).sbi.journalError = none) :
    journalV3Commit w = (.ok (),
      { (atCommit w).writtenAll (prepareWrites w (fixedAllocation w) ++ fixedFinishWrites w) with
        sbi := settledSbi (atCommit w).sbi w.sbi.journalActiveSequence }) := by
  have worked := inv.mode.worked
  have within := inv.within
  have fits := inv.fits
  have first : 0 < area.first := by
    rw [← inv.ready.sameArea]
    exact inv.mode.first
  have prepared := Routine.onFailure_ok _ (fun _ => Routine.modify (journalV3ClearRecovery w))
    _ _ _ (inv.prepared recorded)
  have places : (fixedAllocation w).segment =
      area.fixedPlaces (committing w).images.length := by
    rw [fixedAllocation, inv.ready.sameArea]
  have writes := inv.prepareWrites_inside
  have recordedInside : ∀ write, write ∈ prepareWrites w (fixedAllocation w) ++
      [((fixedAllocation w).segment.commitBlock,
        (committing w).commitRecord (fixedAllocation w).segment)] → area.Inside write.1 := by
    intro write member
    rcases List.mem_append.mp member with early | late
    · exact writes write early
    · rw [List.mem_singleton.mp late]
      exact within.commitBlock
  have ready := inv.atCommit_ready.written _ (KeepsCount.journal first recordedInside)
  have prepareReady := inv.atCommit_ready.written _ (KeepsCount.journal first writes)
  have logged : (committing w).Logged ((atCommit w).writtenAll
      (prepareWrites w (fixedAllocation w) ++ [((fixedAllocation w).segment.commitBlock,
        (committing w).commitRecord (fixedAllocation w).segment)])).cache
      (fixedAllocation w).segment := by
    rw [World.writtenAll_cache, WriteLog.applyWrites_append]
    refine (inv.logged (atCommit w).cache).congr ?_ ?_
    · apply WriteLog.store_other
      rw [places]
      simp only [JournalArea.fixedPlaces]
      omega
    · intro index before
      apply WriteLog.store_other
      rw [places]
      simp only [JournalArea.fixedPlaces]
      omega
  have finish := journalV3FinishFixed_run ready inv.valid inv.bounded within logged
    (by
      intro index before
      rw [places]
      simp only [JournalArea.fixedPlaces, JournalArea.Inside]
      omega)
    (by
      rw [places]
      simp only [JournalArea.fixedPlaces]
      omega)
    first (by
      rw [World.writtenAll_sbi, worked.replaying]
      exact inv.mode.live)
    (by rw [World.writtenAll_sbi, Transaction.homes, committing_homes])
    inv.keeps w.sbi.journalSequence (committing w).payloadChecksum
  rw [World.writtenAll_cache, inv.checkpointSuper _ recordedInside, World.writtenAll_sbi] at finish
  rw [journalV3Commit, Routine.read_bind, sound]
  dsimp only
  rw [Routine.bind_ok _ _ _ _ _ prepared]
  apply Routine.onFailure_ok
  have count' : (fixedAllocation w).segment.payloadBlocks = (committing w).images.length := rfl
  rw [count', writeSync_bind _ prepareReady.healthy _ _ _
    (lt_of_lt_of_le within.commitBlock.2 prepareReady.journal), inv.fixed,
    if_neg Bool.false_ne_true]
  have record : journalV3PrepareCommit (committing w).images.length w.sbi.journalActiveSequence
      (((committing w).descriptor (fixedAllocation w).segment).get journalChecksum)
      (committing w).payloadChecksum true (fixedAllocation w).segment.descriptorBlock =
        (committing w).commitRecord (fixedAllocation w).segment := rfl
  rw [record]
  rw [World.writtenAll_append] at finish
  refine finish.trans ?_
  rw [fixedFinishWrites, World.writtenAll_append]
  rfl

end FixedInv

end Cryexts
