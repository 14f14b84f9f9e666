import Cryexts.Journal.Work

set_option autoImplicit false

namespace Cryexts

open WriteLog (store applyWrites)

/-- The payload copies a commit logs, from journal block `start` on. -/
def payloadWrites : Nat → List (Nat × Block) → List (Nat × Block)
  | _, [] => []
  | start, image :: rest => (start, image.2) :: payloadWrites (start + 1) rest

theorem payloadWrites_length (start : Nat) (images : List (Nat × Block)) :
    (payloadWrites start images).length = images.length := by
  induction images generalizing start with
  | nil => rfl
  | cons image rest ih => simp only [payloadWrites, List.length_cons, ih]

theorem payloadWrites_place (start : Nat) (images : List (Nat × Block)) (write : Nat × Block)
    (member : write ∈ payloadWrites start images) :
    start ≤ write.1 ∧ write.1 < start + images.length := by
  induction images generalizing start with
  | nil => simp [payloadWrites] at member
  | cons image rest ih =>
      rw [payloadWrites, List.mem_cons] at member
      rw [List.length_cons]
      rcases member with rfl | later
      · dsimp only
        omega
      · have place := ih (start + 1) later
        omega

/-- Each payload copy is found where it was logged. -/
theorem applyWrites_payload (cells : Nat → Block) (start : Nat) (images : List (Nat × Block))
    (index : Nat) (image : Nat × Block) (here : images[index]? = some image) :
    applyWrites cells (payloadWrites start images) (start + index) = image.2 := by
  induction images generalizing cells start index with
  | nil => simp at here
  | cons first rest ih =>
      rw [payloadWrites, WriteLog.applyWrites_cons]
      cases index with
      | zero =>
          have same : first = image := by simpa using here
          subst same
          rw [WriteLog.applyWrites_other, Nat.add_zero, WriteLog.store_same]
          intro write member
          have place := payloadWrites_place _ _ _ member
          omega
      | succ index =>
          have later := ih (store cells start first.2) (start + 1) index (by simpa using here)
          rw [← later]
          congr 1
          omega

/-- The image loop logs the images in order and gathers their entries. -/
theorem logImages_run (w : World) (healthy : w.Healthy) (payloadStart : Nat)
    (images : List (Nat × Block)) (index : Nat) (descriptor : Block) (sum : Nat)
    (current : ∀ image, image ∈ images → w.cache image.1 = image.2)
    (homes : ∀ image, image ∈ images → image.1 < w.size ∧
      (image.1 < payloadStart + index ∨ payloadStart + index + images.length ≤ image.1))
    (room : payloadStart + index + images.length ≤ w.size) :
    logImages payloadStart (images.map Prod.fst) index descriptor sum w =
      (.ok (descriptor.setAll (JournalV3Entry.allMembers index
          (images.map fun image => (image.1, fnv1aUpdate FNV_OFFSET image.2))),
        images.foldl (fun sum image => fnv1aUpdate sum image.2) sum),
        w.writtenAll (payloadWrites (payloadStart + index) images)) := by
  induction images generalizing w index descriptor sum with
  | nil => rfl
  | cons image rest ih =>
      have here := homes image List.mem_cons_self
      have content := current image List.mem_cons_self
      simp only [List.length_cons] at homes room
      have put := World.written_healthy w (payloadStart + index) image.2 healthy
      have later := ih (w.written (payloadStart + index) image.2) put (index + 1)
        (descriptor.setAll (JournalV3Entry.members index image.1
          (fnv1aUpdate FNV_OFFSET image.2))) (fnv1aUpdate sum image.2)
        (by
          intro other member
          have away := homes other (List.mem_cons_of_mem _ member)
          rw [← current other (List.mem_cons_of_mem _ member)]
          apply WriteLog.store_other
          omega)
        (by
          intro other member
          have away := homes other (List.mem_cons_of_mem _ member)
          refine ⟨away.1, ?_⟩
          omega)
        (by
          change payloadStart + (index + 1) + rest.length ≤ w.size
          omega)
      rw [List.map_cons, logImages, readFileBlock_bind w healthy _ _ here.1, content,
        writeSync_bind w healthy _ _ _ (by omega), later]
      simp only [List.map_cons, JournalV3Entry.allMembers, ByteBuf.setAll_append, List.foldl_cons,
        payloadWrites, World.writtenAll_cons]
      rw [Nat.add_assoc]

/-- A mount whose version 3 journal is in use. -/
structure JournalMode (w : World) : Prop where
  healthy : w.Healthy
  enabled : w.sbi.journalEnabled = true
  v3 : w.sbi.journalV3 = true
  live : w.sbi.journalReplaying = false
  first : 0 < w.sbi.area.first
  table : TableApart w.sbi
  room : w.sbi.area.first + w.sbi.area.blocks ≤ w.size

theorem JournalMode.of_same {w after : World} (mode : JournalMode w) (healthy : after.Healthy)
    (same : SameMount after.sbi w.sbi) (size : after.size = w.size) : JournalMode after where
  healthy := healthy
  enabled := same.enabled.trans mode.enabled
  v3 := same.v3.trans mode.v3
  live := same.replaying.trans mode.live
  first := by
    rw [same.area]
    exact mode.first
  table := mode.table.of_same same
  room := by
    rw [same.area, size]
    exact mode.room

theorem JournalMode.worked {w : World} (mode : JournalMode w) : Worked w (atCommit w) :=
  atCommit_worked mode.first mode.table mode.enabled mode.v3 mode.live

/-- The transaction a commit makes durable. -/
def committing (w : World) : Transaction where
  sequence := w.sbi.journalActiveSequence
  images := (atCommit w).sbi.journalHomeBlocks.map fun block => (block, (atCommit w).cache block)

theorem committing_length (w : World) :
    (committing w).images.length = (atCommit w).sbi.journalHomeBlocks.length := by
  simp only [committing, List.length_map]

theorem committing_homes (w : World) :
    (committing w).images.map Prod.fst = (atCommit w).sbi.journalHomeBlocks := by
  simp [committing, Function.comp_def]

theorem committing_current (w : World) (image : Nat × Block)
    (member : image ∈ (committing w).images) : (atCommit w).cache image.1 = image.2 := by
  simp only [committing, List.mem_map] at member
  obtain ⟨block, _, rfl⟩ := member
  rfl

/-- A commit always journals the superblock with its recovery mark. -/
theorem committing_super {w : World} (mode : JournalMode w) (image : Nat × Block)
    (member : image ∈ (committing w).images) (zero : image.1 = 0) : image.2 = commitSuper w := by
  rw [← committing_current w image member, zero]
  exact atCommit_super mode.first mode.table mode.enabled mode.v3 mode.live

/-- A journalled superblock describes the mount that journalled it. -/
theorem committing_describes {w : World} (mode : JournalMode w) {count : Nat}
    (describes : Describes (w.cache 0) w.sbi count) (image : Nat × Block)
    (member : image ∈ (committing w).images) (super : image.1 = 0) :
    Describes image.2 w.sbi count := by
  rw [committing_super mode image member super]
  exact (commitSuper_same w).describes describes

/-- The record path leaves only transactions the journal can hold. -/
theorem committing_valid {w : World} (mode : JournalMode w) {count : Nat}
    (describes : Describes (w.cache 0) w.sbi count) (records : RecordSet w.sbi count)
    (bounded : w.sbi.journalActiveSequence < 2 ^ 64) :
    (committing w).Valid w.sbi.area count := by
  have set := atCommit_recordSet mode.first mode.table mode.enabled mode.v3 mode.live describes
    records
  have area := mode.worked.area
  refine ⟨?_, bounded, ?_, ?_⟩
  · rw [committing_length, ← area]
    exact set.fits
  · intro image member
    have home := set.home image.1 (committing_homes w ▸ List.mem_map_of_mem member)
    refine ⟨home.1, ?_⟩
    rw [← area]
    exact home.2
  · rw [Transaction.homes, committing_homes]
    exact set.distinct

/-- The mount's journal state once a commit has taken its segment. -/
def advanced (w : World) (allocation : JournalV3Allocation) : SbInfo :=
  (atCommit w).sbi.takeSegment w.sbi.journalRingHead allocation

theorem takeSegment_mount (sbi : SbInfo) (head : Nat) (allocation : JournalV3Allocation) :
    SameMount (sbi.takeSegment head allocation) sbi := by
  unfold SbInfo.takeSegment
  split <;> exact ⟨rfl, rfl, rfl, rfl, rfl, rfl, rfl, rfl⟩

theorem takeSegment_checkpoint (sbi : SbInfo) (head : Nat) (allocation : JournalV3Allocation) :
    (sbi.takeSegment head allocation).journalCheckpointSequence =
      sbi.journalCheckpointSequence := by
  unfold SbInfo.takeSegment
  split <;> rfl

/-- Everything a commit writes before its commit record, in order. -/
def prepareWrites (w : World) (allocation : JournalV3Allocation) : List (Nat × Block) :=
  payloadWrites allocation.segment.payloadStart (committing w).images ++
    [(allocation.segment.descriptorBlock, (committing w).descriptor allocation.segment),
      (w.sbi.journalBlock,
        journalV3PrepareControl (advanced w allocation) JOURNAL_V3_STATE_PREPARED
          w.sbi.journalSequence w.sbi.journalActiveSequence w.sbi.journalCheckpointSequence
          allocation.segment)]

theorem Transaction.descriptor_eq (t : Transaction) (places : JournalV3Segment) :
    journalV3FinishDescriptor ((journalV3PrepareDescriptor t.images.length t.sequence
      places.payloadStart places.commitBlock).setAll (JournalV3Entry.allMembers 0 t.entries)) =
      t.descriptor places := by
  rw [journalV3FinishDescriptor, journalV3PrepareDescriptor, ← ByteBuf.setAll_append]
  rfl

/-- Places of a transaction inside the journal. -/
structure JournalV3Segment.Within (places : JournalV3Segment) (area : JournalArea)
    (entries : Nat) : Prop where
  descriptorBlock : area.Inside places.descriptorBlock
  payload : area.first ≤ places.payloadStart
  payloadEnd : places.payloadStart + entries ≤ area.first + area.blocks
  commitBlock : area.Inside places.commitBlock

/-- The first half of a commit whose segment is allocated. -/
theorem journalV3Prepare_run {w : World} (mode : JournalMode w) (allocation : JournalV3Allocation)
    (sound : (atCommit w).sbi.journalError = none)
    (allocated : journalV3RingAllocate (atCommit w).sbi
      (atCommit w).sbi.journalHomeBlocks.length = .ok allocation)
    (within : allocation.segment.Within w.sbi.area (committing w).images.length)
    (homes : ∀ image, image ∈ (committing w).images →
      image.1 < w.size ∧ ¬ w.sbi.area.Inside image.1) :
    journalV3Prepare w =
      (.ok ⟨allocation.segment, (committing w).descriptor allocation.segment,
          (committing w).payloadChecksum⟩,
        ({ atCommit w with sbi := advanced w allocation } : World).writtenAll
          (prepareWrites w allocation)) := by
  have worked := mode.worked
  have room := mode.room
  have sound' := worked.healthy mode.healthy
  have healthy : ({ atCommit w with sbi := advanced w allocation } : World).Healthy :=
    ⟨sound'.noFaults, sound'.current⟩
  have payloadLow := within.payload
  have payloadHigh := within.payloadEnd
  have images := logImages_run { atCommit w with sbi := advanced w allocation } healthy
    allocation.segment.payloadStart (committing w).images 0
    (journalV3PrepareDescriptor (committing w).images.length w.sbi.journalActiveSequence
      allocation.segment.payloadStart allocation.segment.commitBlock) FNV_OFFSET
    (committing_current w)
    (by
      intro image member
      have home := homes image member
      simp only [JournalArea.Inside] at home
      change image.1 < (atCommit w).size ∧ _
      rw [worked.size]
      refine ⟨home.1, ?_⟩
      omega)
    (by
      change _ ≤ (atCommit w).size
      rw [worked.size]
      omega)
  have start : journalV3Prepare w =
      journalV3LogTransaction w (atCommit w).sbi.journalHomeBlocks allocation.segment
        { atCommit w with sbi := advanced w allocation } := by
    have sound' : (superSetRecovery true (gdtPrepareWrite (setDiskJournalSequence
        w.sbi.journalActiveSequence w))).sbi.journalError = none := sound
    have allocated' : journalV3RingAllocate (superSetRecovery true (gdtPrepareWrite
        (setDiskJournalSequence w.sbi.journalActiveSequence w))).sbi
        (superSetRecovery true (gdtPrepareWrite (setDiskJournalSequence
          w.sbi.journalActiveSequence w))).sbi.journalHomeBlocks.length = .ok allocation := allocated
    unfold journalV3Prepare
    rw [Routine.read_bind, Routine.modify_bind, Routine.modify_bind, Routine.modify_bind,
      Routine.read_bind]
    simp only [sound', allocated']
    rfl
  have logged := World.writtenAll_healthy _
    (payloadWrites (allocation.segment.payloadStart + 0) (committing w).images) healthy
  have described := World.written_healthy _ allocation.segment.descriptorBlock
    ((committing w).descriptor allocation.segment) logged
  have size : ({ atCommit w with sbi := advanced w allocation } : World).size = w.size :=
    worked.size
  have finished : journalV3FinishDescriptor
      ((journalV3PrepareDescriptor (committing w).images.length w.sbi.journalActiveSequence
        allocation.segment.payloadStart allocation.segment.commitBlock).setAll
          (JournalV3Entry.allMembers 0
            ((committing w).images.map fun image => (image.1, fnv1aUpdate FNV_OFFSET image.2)))) =
        (committing w).descriptor allocation.segment :=
    (committing w).descriptor_eq allocation.segment
  have place : (advanced w allocation).journalBlock = w.sbi.journalBlock :=
    congrArg JournalArea.first
      ((takeSegment_mount _ _ allocation).trans worked.toQuiet.mount).area
  have here : w.sbi.area.Inside w.sbi.journalBlock := by
    have later := within.descriptorBlock
    simp only [JournalArea.Inside, SbInfo.area] at later ⊢
    omega
  have inside : ∀ block, w.sbi.area.Inside block → block < w.size := fun block member =>
    lt_of_lt_of_le member.2 room
  rw [start, journalV3LogTransaction, kmalloc_bind _ healthy, ← committing_homes, List.length_map,
    Routine.bind_ok _ _ _ _ _ images]
  dsimp only
  rw [finished, writeSync_bind _ logged _ _ _ (by
      rw [World.writtenAll_size, size]
      exact inside _ within.descriptorBlock), Routine.read_bind]
  have control := journalV3WriteSync_run _ described w.sbi.journalBlock
    (journalV3PrepareControl (advanced w allocation) JOURNAL_V3_STATE_PREPARED
      w.sbi.journalSequence w.sbi.journalActiveSequence w.sbi.journalCheckpointSequence
      allocation.segment) (by
        change _ < (World.writtenAll _ _).size
        rw [World.writtenAll_size, size]
        exact inside _ here)
  have sbi : ∀ writes, (World.writtenAll
      ({ atCommit w with sbi := advanced w allocation } : World) writes).sbi =
        advanced w allocation := World.writtenAll_sbi _
  rw [show ∀ (v : World) block content, (v.written block content).sbi = v.sbi from
    fun _ _ _ => rfl, sbi, place, Routine.bind_ok _ _ _ _ _ control]
  have total : (if (committing w).images.length = 0 then 0
      else (committing w).images.foldl (fun sum image => fnv1aUpdate sum image.2) FNV_OFFSET) =
        (committing w).payloadChecksum := rfl
  rw [total, prepareWrites, World.writtenAll_append]
  rfl

/-- The first half of a commit gives up over the record set or the ring, or logs the
transaction in the segment it was given. -/
theorem journalV3Prepare_cases (w : World) :
    (∃ err, journalV3Prepare w = (.error err, atCommit w)) ∨
      (atCommit w).sbi.journalError = none ∧
      ∃ allocation, journalV3RingAllocate (atCommit w).sbi
          (atCommit w).sbi.journalHomeBlocks.length = .ok allocation ∧
        journalV3Prepare w =
          journalV3LogTransaction w (atCommit w).sbi.journalHomeBlocks allocation.segment
            { atCommit w with sbi := advanced w allocation } := by
  generalize reached : atCommit w = before
  have start : superSetRecovery true (gdtPrepareWrite (setDiskJournalSequence
      w.sbi.journalActiveSequence w)) = before := reached
  cases refused : before.sbi.journalError with
  | some err =>
      left
      refine ⟨err, ?_⟩
      unfold journalV3Prepare
      rw [Routine.read_bind, Routine.modify_bind, Routine.modify_bind, Routine.modify_bind,
        Routine.read_bind, start]
      simp only [refused]
      rfl
  | none =>
      cases placed : journalV3RingAllocate before.sbi before.sbi.journalHomeBlocks.length with
      | error err =>
          left
          refine ⟨err, ?_⟩
          unfold journalV3Prepare
          rw [Routine.read_bind, Routine.modify_bind, Routine.modify_bind, Routine.modify_bind,
            Routine.read_bind, start]
          simp only [refused, placed]
          rfl
      | ok allocation =>
          right
          refine ⟨rfl, allocation, rfl, ?_⟩
          unfold journalV3Prepare advanced
          rw [Routine.read_bind, Routine.modify_bind, Routine.modify_bind, Routine.modify_bind,
            Routine.read_bind, start, reached]
          simp only [refused, placed]
          rfl

/-- A commit that succeeds had nothing against its record set and found its place. -/
theorem journalV3Commit_success {w : World} (success : (journalV3Commit w).1 = .ok ()) :
    w.sbi.journalError = none ∧ (atCommit w).sbi.journalError = none ∧
      ∃ allocation, journalV3RingAllocate (atCommit w).sbi
        (atCommit w).sbi.journalHomeBlocks.length = .ok allocation := by
  cases poisoned : w.sbi.journalError with
  | some err => simp [journalV3Commit, poisoned] at success
  | none =>
      rcases journalV3Prepare_cases w with ⟨err, failed⟩ | ⟨sound, allocation, placed, _⟩
      · have result := Routine.onFailure_error journalV3Prepare
          (fun _ => Routine.modify (journalV3ClearRecovery w)) w (atCommit w) err failed
        rw [journalV3Commit, Routine.read_bind, poisoned] at success
        dsimp only at success
        rw [Routine.bind_error _ _ _ _ _ result] at success
        cases success
      · exact ⟨rfl, sound, allocation, placed⟩

end Cryexts
