import Cryexts.Fsck
import Cryexts.Journal.NewestKept

set_option autoImplicit false

namespace Cryexts

open WriteLog (store applyWrites along_cell)
open Fsck (DescriptorReads CommitReads NamedIntact NoReplay IdleJournal FixedIdle JournalVolume
  controlOf readPlace checkedVolume validateJournalHeader)

/-- A ring's control block names a segment whose descriptor and commit record are there. -/
structure SegmentNamed (area : JournalArea) (cells : Nat → Block) (places : JournalV3Segment) :
    Prop where
  named : namedPlaces (JournalV3Control.ofBlock (cells area.first)) = places
  low : area.ringStart ≤ places.descriptorBlock
  payload : places.payloadStart = places.descriptorBlock + 1
  commit : places.commitBlock = places.payloadStart + places.payloadBlocks
  high : places.commitBlock < area.ringEnd
  descriptor : DescriptorReads places (cells places.descriptorBlock)
  record : CommitReads places (cells places.commitBlock)

section SegmentNamed

variable {area : JournalArea} {cells : Nat → Block} {places : JournalV3Segment}

/-- Only the journal tells. -/
theorem SegmentNamed.congr (segment : SegmentNamed area cells places) {after : Nat → Block}
    (same : ∀ block, area.Inside block → after block = cells block) :
    SegmentNamed area after places := by
  obtain ⟨named, low, payload, commit, high, descriptor, record⟩ := segment
  have control := same area.first (by
    unfold JournalArea.Inside
    unfold JournalArea.ringStart JournalArea.ringEnd at *
    omega)
  have first := same places.descriptorBlock (by
    unfold JournalArea.Inside
    unfold JournalArea.ringStart JournalArea.ringEnd at *
    omega)
  have last := same places.commitBlock (by
    unfold JournalArea.Inside
    unfold JournalArea.ringStart JournalArea.ringEnd at *
    omega)
  rw [← control] at named
  rw [← first] at descriptor
  rw [← last] at record
  exact ⟨named, low, payload, commit, high, descriptor, record⟩

/-- The segment of a committed transaction. -/
theorem SegmentNamed.of_committed {t : Transaction} {count position : Nat}
    (valid : t.Valid area count) (counted : count ≤ 2 ^ 64)
    (limit : area.first + area.blocks < 2 ^ 64) (low : area.ringStart ≤ position)
    (fits : position + t.span ≤ area.ringEnd)
    (committed : t.Committed cells (t.placesAt position))
    (named : namedPlaces (JournalV3Control.ofBlock (cells area.first)) = t.placesAt position) :
    SegmentNamed area cells (t.placesAt position) := by
  have bounded := placesAt_bounded t position _ fits (Nat.le_of_lt limit)
  have most := Transaction.length_le t area count valid
  have descriptor := t.ofBlock_descriptor _ area count valid bounded counted
  have record := t.ofBlock_commitRecord _ area count valid bounded
  constructor
  case named => exact named
  case low => exact low
  case payload => rfl
  case commit => rfl
  case high =>
    unfold Transaction.span at fits
    show position + 1 + t.images.length < area.ringEnd
    omega
  case descriptor =>
    rw [committed.descriptor]
    constructor
    case valid => exact t.descriptor_valid _
    case entries =>
      rw [descriptor]
      exact most
    all_goals
      rw [descriptor]
      simp [Transaction.header, journalV3DescriptorHeader, Transaction.placesAt]
  case record =>
    rw [committed.commitRecord]
    constructor
    case valid => exact t.commitRecord_valid _
    all_goals rw [record]

/-- The tool finds it. -/
theorem SegmentNamed.intact {size : Nat} (segment : SegmentNamed area cells places)
    (volume : JournalVolume cells size) (same : (loadSuper cells).area = area)
    (wide : size < 2 ^ 64)
    (ringEnd : (JournalV3Control.ofBlock (cells area.first)).ringEnd = area.ringEnd) :
    NamedIntact cells size := by
  obtain ⟨named, low, payload, commit, high, descriptor, record⟩ := segment
  have place : (loadSuper cells).journalBlock = area.first := congrArg JournalArea.first same
  have start : Fsck.ringStart (cells 0) = area.ringStart := congrArg JournalArea.ringStart same
  have stop : area.ringEnd ≤ size := by
    rw [← same]
    exact volume.room
  have found : controlOf cells = JournalV3Control.ofBlock (cells area.first) := by
    rw [controlOf, place]
  rw [← found] at named ringEnd
  have first : (controlOf cells).descriptorBlock = places.descriptorBlock := by
    rw [← named]
    rfl
  have second : (controlOf cells).payloadStart = places.payloadStart := by
    rw [← named]
    rfl
  have length : (controlOf cells).payloadBlocks = places.payloadBlocks := by
    rw [← named]
    rfl
  have last : (controlOf cells).commitBlock = places.commitBlock := by
    rw [← named]
    rfl
  have descriptorInside : places.descriptorBlock < size := by omega
  have commitInside : places.commitBlock < size := by omega
  have descriptorPlace := volume.readPlace_inside descriptorInside
  have commitPlace := volume.readPlace_inside commitInside
  have payloadSmall : places.descriptorBlock + 1 < 2 ^ 64 := by omega
  have commitSmall : places.payloadStart + places.payloadBlocks < 2 ^ 64 := by omega
  constructor
  case low =>
    rw [first, start]
    exact low
  case payload =>
    rw [first, second, u64_of_lt _ payloadSmall]
    exact payload
  case commit =>
    rw [second, length, last, u64_of_lt _ commitSmall]
    exact commit
  case high =>
    rw [last, ringEnd]
    exact high
  case descriptorPlace =>
    rw [first, descriptorPlace]
    exact descriptorInside
  case commitPlace =>
    rw [last, commitPlace]
    exact commitInside
  case descriptor =>
    rw [named, first, descriptorPlace]
    exact descriptor
  case record =>
    rw [named, last, commitPlace]
    exact record

end SegmentNamed

/-- A fixed journal as a commit or the formatter leaves it: empty, under a control block that may
name another payload length than the area's. -/
structure FixedReset (area : JournalArea) (cells : Nat → Block) (last entries : Nat) : Prop where
  small : last < 2 ^ 64
  control : FixedControl area (cells area.first) JOURNAL_V3_STATE_IDLE last 0 last entries
  empty : ∃ named, cells (area.first + 1) = journalV3EmptyDescriptor last (area.fixedPlaces named) ∧
    cells (area.first + area.blocks - 1) = journalV3EmptyCommit last (area.fixedPlaces named)

theorem FixedReset.congr {area : JournalArea} {cells after : Nat → Block} {last entries : Nat}
    (reset : FixedReset area cells last entries) (long : JOURNAL_V3_MIN_BLOCKS ≤ area.blocks)
    (same : ∀ block, area.Inside block → after block = cells block) :
    FixedReset area after last entries := by
  obtain ⟨named, descriptor, commit⟩ := reset.empty
  unfold JOURNAL_V3_MIN_BLOCKS at long
  constructor
  case small => exact reset.small
  case control =>
    rw [same _ ⟨Nat.le_refl _, by omega⟩]
    exact reset.control
  case empty =>
    refine ⟨named, ?_, ?_⟩
    · rw [same _ ⟨by omega, by omega⟩]
      exact descriptor
    · rw [same _ ⟨by omega, by omega⟩]
      exact commit

/-- The clean check accepts it under the area's own payload length. -/
theorem FixedReset.clean {area : JournalArea} {cells : Nat → Block} {last : Nat}
    (reset : FixedReset area cells last (area.blocks - 3)) (sbi : SbInfo) (same : sbi.area = area)
    (long : JOURNAL_V3_MIN_BLOCKS ≤ area.blocks) (limit : area.first + area.blocks < 2 ^ 64) :
    FixedClean sbi area cells last := by
  subst same
  obtain ⟨named, descriptor, commit⟩ := reset.empty
  have empty := reset_clean reset.small sbi long limit named
  constructor
  case control => exact reset.control
  case descriptor =>
    rw [descriptor]
    exact empty.1
  case commit =>
    rw [descriptor, commit]
    exact empty.2.1
  case described =>
    rw [descriptor]
    exact empty.2.2.1
  case recorded =>
    rw [commit]
    exact empty.2.2.2

/-- And under no other. -/
theorem FixedReset.full {area : JournalArea} {cells : Nat → Block} {last entries : Nat}
    (reset : FixedReset area cells last entries) (same : (loadSuper cells).area = area)
    (fixed : (loadSuper cells).journalRing = false) (idle : IdleJournal cells) :
    entries = area.blocks - 3 := by
  subst same
  obtain ⟨_, _, accepted⟩ := reset.control.accepted (loadSuper cells) fixed rfl
  exact (accepted _).mp (idle.fixed fixed).places

theorem recoveryMark_recovered (super : Block) (nextIno nextDataBlock : Nat) :
    recoveryMark (recoveredSuper false super nextIno nextDataBlock) = 0 := by
  unfold recoveryMark
  rw [recoveredSuper_state, if_neg Bool.false_ne_true, clearRecoveryState, Nat.and_assoc]
  exact Nat.and_zero _

/-- A mount whose superblock asks for no recovery, on the device or in its buffer. -/
structure Unmarked (w : World) : Prop where
  buffer : recoveryMark (w.cache 0) = 0
  device : recoveryMark (w.disk 0) = 0

/-- A mount in the fixed layout between two of its steps. -/
structure FixedRest (w : World) (area : JournalArea) (count last entries : Nat) : Prop where
  inv : FixedInv w area count
  sequence : w.sbi.journalSequence = last
  reset : FixedReset area w.disk last entries
  unmarked : Unmarked w

/-- A ring mount between two of its steps: once nothing is pending it asks for no recovery. -/
structure RingRest (w : World) (area : JournalArea) (count last : Nat)
    (pending : List Transaction) (home : Nat → Block) : Prop where
  inv : RingInv w area count pending home
  sequence : w.sbi.journalSequence = last
  named : ∃ places, SegmentNamed area w.disk places
  unmarked : pending = [] → Unmarked w

section Step

variable {w : World} {area : JournalArea} {count last : Nat}

theorem FsWork.gentle_mark (mode : JournalMode w) (work : FsWork) (gentle : work.Gentle w count) :
    recoveryMark ((work.run w).cache 0) = recoveryMark (w.cache 0) := by
  by_cases written : ∃ content, work = FsWork.write 0 content
  · obtain ⟨content, rfl⟩ := written
    show recoveryMark (store w.cache 0 content 0) = recoveryMark (w.cache 0)
    rw [WriteLog.store_same]
    exact (gentle.2 content rfl).2
  · rw [FsWork.run_cache mode work 0 fun content same => written ⟨content, same⟩]

theorem Unmarked.work (unmarked : Unmarked w) (mode : JournalMode w) (work : FsWork)
    (gentle : work.Gentle w count) (disk : (work.run w).disk = w.disk) : Unmarked (work.run w) where
  buffer := (work.gentle_mark mode gentle).trans unmarked.buffer
  device := by
    rw [disk]
    exact unmarked.device

/-- Buffers written as they are carry the mark of the superblock they hold. -/
theorem Unmarked.writeback (unmarked : Unmarked w) (writes : List (Nat × Block))
    (own : ∀ write, write ∈ writes → write.1 = 0 → write.2 = w.cache 0) :
    Unmarked (w.writtenAll writes) := by
  have marks (write : Nat × Block) (member : write ∈ writes) (zero : write.1 = 0) :
      recoveryMark write.2 = 0 := by
    rw [own write member zero]
    exact unmarked.buffer
  constructor
  case buffer =>
    rw [World.writtenAll_cache]
    exact (along_cell (fun super => recoveryMark super = 0) unmarked.buffer marks).last
  case device =>
    rw [World.writtenAll_disk]
    exact (along_cell (fun super => recoveryMark super = 0) unmarked.device marks).last

section Fixed

variable {entries : Nat} (rest : FixedRest w area count last entries)
include rest

theorem FixedRest.work (work : FsWork) (gentle : work.Gentle w count) :
    FixedRest (work.run w) area count last entries := by
  obtain ⟨quiet, inv⟩ := rest.inv.work work gentle.1
  constructor
  case inv => exact inv
  case sequence => exact quiet.sequence.trans rest.sequence
  case reset =>
    rw [quiet.disk]
    exact rest.reset
  case unmarked => exact rest.unmarked.work rest.inv.mode work gentle quiet.disk

/-- A commit leaves an empty journal, under a control block that names its own length. -/
theorem FixedRest.commit (success : (journalV3Commit w).1 = .ok ()) :
    FixedRest (journalV3Commit w).2 area count (committing w).sequence
      (committing w).images.length := by
  obtain ⟨sound, recorded, _⟩ := journalV3Commit_success success
  have inv := rest.inv
  have quiet := inv.mode.worked.toQuiet
  have run := inv.commit sound recorded
  rw [inv.writes_eq] at run
  have super (cells : Nat → Block) :
      applyWrites cells (fixedLog w ++ (fixedHome w ++ fixedReset w)) 0 = fixedCleanSuper w :=
    inv.settled_super cells 3
  constructor
  case inv => exact inv.committed success
  case sequence =>
    rw [run]
    rfl
  case reset =>
    obtain ⟨descriptor, commit, control⟩ :=
      inv.reset_cells (applyWrites w.disk (fixedLog w ++ fixedHome w))
    have disk : (journalV3Commit w).2.disk =
        applyWrites (applyWrites w.disk (fixedLog w ++ fixedHome w)) (fixedReset w) := by
      rw [run, disk_with_sbi, World.writtenAll_disk, quiet.disk, ← WriteLog.applyWrites_append,
        List.append_assoc]
    rw [disk]
    exact ⟨inv.small, control, _, descriptor, commit⟩
  case unmarked =>
    have mark : recoveryMark (fixedCleanSuper w) = 0 := recoveryMark_recovered _ _ _
    constructor
    case buffer =>
      rw [run]
      show recoveryMark (((atCommit w).writtenAll _).cache 0) = 0
      rw [World.writtenAll_cache, super]
      exact mark
    case device =>
      rw [run, disk_with_sbi, World.writtenAll_disk, super]
      exact mark

theorem FixedRest.writeback (writes : List (Nat × Block))
    (own : ∀ write, write ∈ writes → write.2 = w.cache write.1 ∧ ¬ w.sbi.area.Inside write.1) :
    FixedRest (w.writtenAll writes) area count last entries := by
  have inv := rest.inv
  have here (write : Nat × Block) (member : write ∈ writes) (zero : write.1 = 0) :
      write.2 = w.cache 0 := by
    rw [(own write member).1, zero]
  constructor
  case inv =>
    apply inv.writtenAll
    intro write member zero
    rw [here write member zero]
    exact inv.describes
  case sequence =>
    rw [World.writtenAll_sbi]
    exact rest.sequence
  case reset =>
    rw [World.writtenAll_disk]
    apply rest.reset.congr inv.long
    intro block inside
    apply WriteLog.applyWrites_other
    intro write member same
    apply (own write member).2
    rw [same, inv.ready.sameArea]
    exact inside
  case unmarked => exact rest.unmarked.writeback writes here

end Fixed

section Ring

variable {pending : List Transaction} {home : Nat → Block}
variable (rest : RingRest w area count last pending home)
include rest

theorem RingRest.work (work : FsWork) (gentle : work.Gentle w count) :
    RingRest (work.run w) area count last pending home := by
  obtain ⟨quiet, inv⟩ := rest.inv.work work gentle.1
  constructor
  case inv => exact inv
  case sequence => exact quiet.sequence.trans rest.sequence
  case named =>
    rw [quiet.disk]
    exact rest.named
  case unmarked =>
    intro empty
    exact (rest.unmarked empty).work rest.inv.mode work gentle quiet.disk

/-- A commit's last control block names its own segment. -/
theorem RingRest.commit (opened : w.sbi.journalActiveSequence ≠ 0) (room : RingRoom w)
    (success : (journalV3Commit w).1 = .ok ()) : ∃ after,
      RingRest (journalV3Commit w).2 area count (committing w).sequence
        (pending ++ [committing w]) after := by
  obtain ⟨allocation, position, first, second, logged⟩ :=
    rest.inv.commitLogged success opened room
  have inv := rest.inv
  have placed := logged.start.placed
  obtain ⟨committed, control⟩ := commitWrites_written w.disk (committing w) area position first
    second placed.low
  refine ⟨_, inv.logged_ring logged opened, ?_, ⟨(committing w).placesAt position, ?_⟩, ?_⟩
  · rw [logged.sbi]
    rfl
  · rw [inv.logged_disk logged]
    apply SegmentNamed.of_committed logged.start.valid
      (inv.ready.homes.trans inv.ready.bounded) inv.limit placed.low placed.fits committed
    rw [control]
    exact logged.named
  · intro empty
    simp at empty

end Ring

section Checkpoint

variable {t : Transaction} {ts : List Transaction} {home : Nat → Block}
variable (inv : RingInv w area count (t :: ts) home)
include inv

/-- The last control block of a checkpoint names the segment it has brought home. -/
theorem RingInv.checkpoint_named (cells : Nat → Block) :
    namedPlaces (JournalV3Control.ofBlock (applyWrites cells (checkpointAll w t) area.first)) =
      t.placesAt w.sbi.journalRingTail := by
  have block : w.sbi.journalBlock = area.first :=
    congrArg JournalArea.first inv.ready.sameArea
  have settled : (checkpointedSbi w.sbi t).journalBlock = area.first := block
  have chain := inv.chain
  rw [spans_cons] at chain
  have fits : w.sbi.journalRingTail + t.span ≤ area.ringEnd := chain.2.2.1
  have limit := inv.limit
  have bounded := placesAt_bounded t _ _ fits (Nat.le_of_lt limit)
  have blocks : t.images.length < 2 ^ 64 := by
    unfold Transaction.span JournalArea.ringEnd at fits
    omega
  rw [checkpointAll, WriteLog.applyWrites_append, settleWrites]
  split
  · rw [WriteLog.applyWrites_cons, WriteLog.applyWrites_cons, WriteLog.applyWrites_nil, settled,
      WriteLog.store_same]
    exact namedPlaces_prepareControl _ _ _ _ _ bounded blocks
  · rw [WriteLog.applyWrites_cons, WriteLog.applyWrites_nil, settled, WriteLog.store_same]
    exact namedPlaces_prepareControl _ _ _ _ _ bounded blocks

/-- Its writes leave the segment where it is. -/
theorem RingInv.checkpoint_segment (block : Nat) (low : area.ringStart ≤ block)
    (high : block < area.ringEnd) :
    applyWrites w.disk (checkpointAll w t) block = w.disk block := by
  have positive := inv.mode.first
  have journalBlock : w.sbi.journalBlock = area.first :=
    congrArg JournalArea.first inv.ready.sameArea
  unfold JournalArea.ringStart at low
  unfold JournalArea.ringEnd at high
  apply WriteLog.applyWrites_other
  intro write member same
  rcases mem_checkpointAll w t write member with control | image | zero
  · omega
  · have outside := ((inv.held.valid t List.mem_cons_self).home write image).2
    apply outside
    unfold JournalArea.Inside
    omega
  · omega

/-- Once nothing is left the superblock asks for no recovery. -/
theorem RingInv.checkpoint_cleared (empty : ts = []) (cells : Nat → Block) :
    recoveryMark (applyWrites cells (checkpointAll w t) 0) = 0 := by
  have positive := inv.mode.first
  have block : (checkpointedSbi w.sbi t).journalBlock = w.sbi.area.first := rfl
  have chain := inv.chain
  rw [spans_cons, empty] at chain
  have drained : w.sbi.ringWrap (w.sbi.journalRingTail + t.span) = w.sbi.journalRingHead := by
    rw [SbInfo.ringWrap_eq, inv.ready.sameArea]
    exact chain.2.2.2.2
  rw [checkpointAll, WriteLog.applyWrites_append, settleWrites, decide_eq_true drained, if_pos rfl,
    WriteLog.applyWrites_cons, WriteLog.applyWrites_cons, WriteLog.applyWrites_nil, block,
    WriteLog.store_other _ _ _ _ (by omega), WriteLog.store_same]
  exact recoveryMark_recovered _ _ _

end Checkpoint

theorem RingRest.checkpoint {pending : List Transaction} {home : Nat → Block}
    (rest : RingRest w area count last pending home) : ∃ left,
      RingRest (journalV3CheckpointOne w).2 area count last left home := by
  have inv := rest.inv
  cases pending with
  | nil =>
      rw [journalV3CheckpointOne_empty w inv.chain]
      exact ⟨[], rest⟩
  | cons t ts =>
      obtain ⟨_, _, _, after⟩ := inv.checkpointStep
      have world := inv.checkpoint_world
      have disk : (journalV3CheckpointOne w).2.disk = applyWrites w.disk (checkpointAll w t) := by
        rw [world, disk_with_sbi]
        exact World.writtenAll_disk _ _
      have cache : (journalV3CheckpointOne w).2.cache =
          applyWrites w.cache (checkpointAll w t) := by
        rw [world]
        exact World.writtenAll_cache _ _
      refine ⟨ts, after, ?_, ⟨t.placesAt w.sbi.journalRingTail, ?_⟩, ?_⟩
      · rw [world]
        exact rest.sequence
      · have chain := inv.chain
        rw [spans_cons] at chain
        have fits : w.sbi.journalRingTail + t.span ≤ area.ringEnd := chain.2.2.1
        have low := inv.tailLow
        rw [disk]
        apply SegmentNamed.of_committed (inv.held.valid t List.mem_cons_self)
          (inv.ready.homes.trans inv.ready.bounded) inv.limit low fits _ (inv.checkpoint_named _)
        apply inv.held.on.1.congr
        intro block lower upper
        exact inv.checkpoint_segment block (by omega) (by omega)
      · intro empty
        constructor
        case buffer =>
          rw [cache]
          exact inv.checkpoint_cleared empty _
        case device =>
          rw [disk]
          exact inv.checkpoint_cleared empty _

theorem RingRest.writeback {pending : List Transaction} {home : Nat → Block}
    (rest : RingRest w area count last pending home) (writes : List (Nat × Block))
    (own : ∀ write, write ∈ writes → write.2 = w.cache write.1 ∧ ¬ w.sbi.area.Inside write.1) :
    ∃ after, RingRest (w.writtenAll writes) area count last pending after := by
  have inv := rest.inv
  have here (write : Nat × Block) (member : write ∈ writes) (zero : write.1 = 0) :
      write.2 = w.cache 0 := by
    rw [(own write member).1, zero]
  have outside (write : Nat × Block) (member : write ∈ writes) : ¬ area.Inside write.1 := by
    rw [← inv.ready.sameArea]
    exact (own write member).2
  refine ⟨_, inv.writtenAll ?_ ?_, ?_, ?_, ?_⟩
  · intro write member inside
    exact absurd inside (outside write member)
  · intro write member zero
    rw [here write member zero]
    exact inv.describes
  · rw [World.writtenAll_sbi]
    exact rest.sequence
  · obtain ⟨places, named⟩ := rest.named
    refine ⟨places, named.congr ?_⟩
    intro block inside
    rw [World.writtenAll_disk]
    apply WriteLog.applyWrites_other
    intro write member same
    apply outside write member
    rw [same]
    exact inside
  · intro empty
    exact (rest.unmarked empty).writeback writes here

end Step

/-- The length of the last transaction, or of the payload area where there is none. -/
def lastLength (fresh : Nat) (commits : List Transaction) : Nat :=
  (commits.getLast?.map fun t => t.images.length).getD fresh

/-- A mount of either layout between two of its steps, after its `commits`. -/
structure Rests (w : World) (area : JournalArea) (count start : Nat) (commits : List Transaction) :
    Prop where
  fixed : w.sbi.journalRing = false →
    FixedRest w area count (lastSequenceOf start commits) (lastLength (area.blocks - 3) commits)
  ring : w.sbi.journalRing = true →
    ∃ pending home, RingRest w area count (lastSequenceOf start commits) pending home

section Run

variable {w first : World} {area : JournalArea} {count start : Nat} {commits : List Transaction}

theorem Rests.of_fixed (rest : FixedRest w area count (lastSequenceOf start commits)
    (lastLength (area.blocks - 3) commits)) : Rests w area count start commits := by
  constructor
  · intro _
    exact rest
  · intro ring
    rw [rest.inv.fixed] at ring
    cases ring

theorem Rests.of_ring {pending : List Transaction} {home : Nat → Block}
    (rest : RingRest w area count (lastSequenceOf start commits) pending home) :
    Rests w area count start commits := by
  constructor
  · intro fixed
    rw [rest.inv.ring] at fixed
    cases fixed
  · intro _
    exact ⟨pending, home, rest⟩

/-- Every run of a mount at rest comes to rest. -/
theorem MountRun.rests (run : MountRun count first commits w)
    (begun : Rests first area count start []) : Rests w area count start commits := by
  induction run with
  | mounted => exact begun
  | @work _ w work _ gentle ih =>
      cases layout : w.sbi.journalRing with
      | false => exact Rests.of_fixed ((ih.fixed layout).work work gentle)
      | true =>
          obtain ⟨_, _, rest⟩ := ih.ring layout
          exact Rests.of_ring (rest.work work gentle)
  | @commit _ w after _ opened room success ih =>
      have same : after = (journalV3Commit w).2 := by rw [success]
      have done : (journalV3Commit w).1 = .ok () := by rw [success]
      rw [same]
      cases layout : w.sbi.journalRing with
      | false =>
          have rest := (ih.fixed layout).commit done
          apply Rests.of_fixed
          rw [lastSequenceOf_snoc]
          simpa [lastLength] using rest
      | true =>
          obtain ⟨_, _, rest⟩ := ih.ring layout
          obtain ⟨_, rest⟩ := rest.commit opened (room layout) done
          apply Rests.of_ring
          rw [lastSequenceOf_snoc]
          exact rest
  | checkpoint _ ring ih =>
      obtain ⟨_, _, rest⟩ := ih.ring ring
      obtain ⟨_, rest⟩ := rest.checkpoint
      exact Rests.of_ring rest
  | @writeback _ w _ writes own ih =>
      cases layout : w.sbi.journalRing with
      | false => exact Rests.of_fixed ((ih.fixed layout).writeback writes own)
      | true =>
          obtain ⟨_, _, rest⟩ := ih.ring layout
          obtain ⟨_, rest⟩ := rest.writeback writes own
          exact Rests.of_ring rest

/-- The marks of an unmount leave the mount's journal state. -/
theorem putSuperMark_sbi (w : World) (now : Nat) : (putSuperMark now w).2.sbi = w.sbi := by
  unfold putSuperMark
  rw [Routine.read_bind]
  split
  · rw [Routine.modify_bind, Routine.modify_bind]
    exact (syncDirtyBuffer_flushed 0 _).sbi
  · rfl

/-- An unmount leaves a ring empty, at the head it had. -/
theorem RingRest.putSuper {last : Nat} {pending : List Transaction} {home : Nat → Block}
    (rest : RingRest w area count last pending home) (now : Nat) :
    (putSuper now w).2.sbi.journalRingTail = w.sbi.journalRingHead ∧
      (putSuper now w).2.sbi.journalRingHead = w.sbi.journalRingHead := by
  have mode := rest.inv.mode
  obtain ⟨after, drained, empty, head, _⟩ := rest.inv.emptied
  have sbi : (Cryexts.putSuper now w).2.sbi = after.sbi := by
    unfold Cryexts.putSuper
    rw [Routine.read_bind, if_pos ⟨mode.v3, rest.inv.ring⟩, Routine.ignored_bind, drained]
    exact putSuperMark_sbi after now
  have meet : after.sbi.journalRingTail = after.sbi.journalRingHead := empty.chain
  rw [sbi]
  exact ⟨meet.trans head, head⟩

end Run

/-- What a device should be after an unmount: its next mount takes the journal as it is, writes
nothing, and goes on at the sequence and the head given; and the tool accepts the journal. -/
structure Remounts (image : Nat → Block) (size last head : Nat) : Prop where
  noReplay : NoReplay image size
  replay : ∃ sbi, journalV3Replay (mounting image size) =
      (.ok (), { mounting image size with sbi := sbi }) ∧
    sbi.journalSequence = last ∧
    (sbi.journalRing = true → sbi.journalRingHead = head ∧ sbi.journalRingTail = head)
  tool : validateJournalHeader image size (image (loadSuper image).journalBlock) = .ok ()

/-- A device at rest: the journal of a volume, empty and without a recovery mark. -/
structure RestingVolume (image : Nat → Block) (size last head : Nat) : Prop where
  volume : VolumeSettled image size
  unmarked : recoveryMark (image 0) = 0
  fixed : (loadSuper image).journalRing = false → FixedReset (loadSuper image).area image last
    ((loadSuper image).area.blocks - 3)
  ring : (loadSuper image).journalRing = true →
    RingControl (loadSuper image).area (image (loadSuper image).area.first)
      JOURNAL_V3_STATE_IDLE last 0 last head head ∧
    ∃ places, SegmentNamed (loadSuper image).area image places

/-- A run of a mount of the volume, and its unmount, as its commits leave them. -/
structure Closes (image : Nat → Block) (last : Nat) (w after : World)
    (commits : List Transaction) : Prop where
  sound : SuperSound (after.disk 0) (loadSuper image) ((image 0).get Super.blocksCount)
  mount : SameMount after.sbi (loadSuper image)
  before : SameMount w.sbi (loadSuper image)
  run : Rests w (loadSuper image).area ((image 0).get Super.blocksCount) last commits
  rests : Rests after (loadSuper image).area ((image 0).get Super.blocksCount) last commits

section RestingVolume

variable {image : Nat → Block} {size last head : Nat} (rest : RestingVolume image size last head)
include rest

theorem RestingVolume.idle : IdleJournal image := by
  have layout := rest.volume.layout
  have limit := lt_of_le_of_lt (layout.room.trans layout.homes) layout.bounded
  cases ring : (loadSuper image).journalRing with
  | false =>
      exact IdleJournal.of_fixed ring ((rest.fixed ring).clean _ rfl layout.long limit)
  | true => exact IdleJournal.of_ring ring rfl (rest.ring ring).1

theorem RestingVolume.noReplay : NoReplay image size := by
  have idle := rest.idle
  have paired : Paired (image 0) :=
    rest.volume.settled.resolve_left fun busy => busy idle.idle
  have clear := rest.unmarked
  unfold recoveryMark at clear
  unfold Paired at paired
  exact (checkedVolume rest.volume).noReplay_iff.mpr ⟨idle, clear, paired.mp clear⟩

/-- The tool finds the segment that the control block of a ring at rest names. -/
theorem RestingVolume.intact (ring : (loadSuper image).journalRing = true) :
    NamedIntact image size := by
  obtain ⟨control, places, segment⟩ := rest.ring ring
  exact segment.intact (checkedVolume rest.volume) rfl rest.volume.layout.bounded control.ringEnd

theorem RestingVolume.replay_fixed (fixed : (loadSuper image).journalRing = false) :
    journalV3Replay (mounting image size) =
      (.ok (), { mounting image size with sbi := fixedCleanSbi (loadSuper image) last }) := by
  have layout := rest.volume.layout
  have room := layout.room.trans layout.homes
  have ready : Ready (mounting image size) (loadSuper image).area
      ((image 0).get Super.blocksCount) :=
    ⟨mounting_healthy image size, rfl, rfl, room, layout.homes, Nat.le_of_lt layout.bounded⟩
  have limit := lt_of_le_of_lt room layout.bounded
  have start := mounting_fixed ready fixed layout.first layout.long limit
  have clean := (rest.fixed fixed).clean (loadSuper image) rfl layout.long limit
  rw [journalV3Replay_fixed start.fixed, start.replay_idle clean.control rest.noReplay.settled]
  exact start.validate_clean clean

/-- The next mount of a device at rest writes nothing and goes on where the last one stopped. -/
theorem RestingVolume.replay : ∃ sbi, journalV3Replay (mounting image size) =
      (.ok (), { mounting image size with sbi := sbi }) ∧ SameMount sbi (loadSuper image) ∧
    sbi.journalSequence = last ∧
    (sbi.journalRing = true → sbi.journalRingHead = head ∧ sbi.journalRingTail = head) := by
  cases ring : (loadSuper image).journalRing with
  | false =>
      refine ⟨_, rest.replay_fixed ring, fixedCleanSbi_mount _ _, rfl, ?_⟩
      intro other
      rw [(fixedCleanSbi_mount (loadSuper image) last).ring, ring] at other
      cases other
  | true =>
      have replay := rest.volume.layout.ring_idle ring (rest.ring ring).1 rest.noReplay.settled
      exact ⟨cleanSbi (loadSuper image) last head, replay, cleanSbi_mount _ _ _, rfl,
        fun _ => ⟨rfl, rfl⟩⟩

theorem RestingVolume.remounts : Remounts image size last head where
  noReplay := rest.noReplay
  replay := by
    obtain ⟨sbi, replay, _, sequence, ring⟩ := rest.replay
    exact ⟨sbi, replay, sequence, ring⟩
  tool := by
    have checked := checkedVolume rest.volume
    exact checked.accepts_iff.mpr ⟨rest.idle, rest.unmarked, rest.intact⟩

/-- The mount of a device at rest is a mount at rest. -/
theorem RestingVolume.begins {first : World} (mounted : journalV3Replay (mounting image size) =
    (.ok (), first)) : first.disk = image ∧ first.sbi.journalSequence = last ∧
      Rests first (loadSuper image).area ((image 0).get Super.blocksCount) last [] := by
  have layout := rest.volume.layout
  obtain ⟨sbi, replay, mount, sequence, _⟩ := rest.replay
  have same : first = { mounting image size with sbi := sbi } :=
    (Prod.mk.inj (mounted.symm.trans replay)).2
  have disk : first.disk = image := by rw [same, disk_with_sbi]; rfl
  have cache : first.cache = image := by rw [same]; rfl
  have here : first.sbi = sbi := by rw [same]
  have describes : Describes (first.disk 0) (loadSuper image)
      ((image 0).get Super.blocksCount) := by
    rw [disk]
    exact loadSuper_describes image
  have unmarked : Unmarked first := by
    constructor
    case buffer =>
      rw [cache]
      exact rest.unmarked
    case device =>
      rw [disk]
      exact rest.unmarked
  rw [here]
  refine ⟨disk, sequence, ?_⟩
  cases ring : (loadSuper image).journalRing with
  | false =>
      apply Rests.of_fixed
      refine ⟨(layout.fixed_live ring mounted describes).1, ?_, ?_, unmarked⟩
      · rw [here]
        exact sequence
      · rw [disk]
        exact rest.fixed ring
  | true =>
      obtain ⟨live, _⟩ := layout.ring_live ring mounted describes
      obtain ⟨places, named⟩ := (rest.ring ring).2
      apply Rests.of_ring
      refine ⟨live.inv, ?_, ⟨places, ?_⟩, fun _ => unmarked⟩
      · rw [here]
        exact sequence
      · rw [disk]
        exact named

/-- A run and the unmount at its end are a mount at rest on a sound volume. -/
theorem RestingVolume.closes {first w : World} {commits : List Transaction}
    (mounted : journalV3Replay (mounting image size) = (.ok (), first))
    (run : MountRun ((image 0).get Super.blocksCount) first commits w) (now : Nat) :
    Closes image last w (putSuper now w).2 commits := by
  obtain ⟨disk, _, begun⟩ := rest.begins mounted
  have same : OfVolume (first.disk 0) (loadSuper image) ((image 0).get Super.blocksCount) := by
    rw [disk]
    exact loadSuper_ofVolume image
  obtain ⟨live, mount, _⟩ := rest.volume.live mounted same
  have closed := run.putSuper live now
  constructor
  case sound => exact rest.volume.soundNow mounted same closed
  case mount => exact (closed.live live).mount.trans mount
  case before => exact (run.live live).mount.trans mount
  case run => exact run.rests begun
  case rests => exact closed.rests begun

/-- In the fixed layout the unmounted control block names the last transaction's length. -/
theorem RestingVolume.reset {first w : World} {commits : List Transaction}
    (mounted : journalV3Replay (mounting image size) = (.ok (), first))
    (run : MountRun ((image 0).get Super.blocksCount) first commits w) (now : Nat)
    (fixed : (loadSuper image).journalRing = false) :
    FixedRest (putSuper now w).2 (loadSuper image).area ((image 0).get Super.blocksCount)
      (lastSequenceOf last commits) (lastLength ((loadSuper image).area.blocks - 3) commits) := by
  have closes := rest.closes mounted run now
  exact closes.rests.fixed (closes.mount.ring.trans fixed)

/-- An unmounted ring is empty, at the head the mount had. -/
theorem RestingVolume.drained {first w : World} {commits : List Transaction}
    (mounted : journalV3Replay (mounting image size) = (.ok (), first))
    (run : MountRun ((image 0).get Super.blocksCount) first commits w) (now : Nat)
    (ring : (loadSuper image).journalRing = true) : ∃ home,
      RingRest (putSuper now w).2 (loadSuper image).area ((image 0).get Super.blocksCount)
        (lastSequenceOf last commits) [] home ∧
      (putSuper now w).2.sbi.journalRingTail = w.sbi.journalRingHead ∧
      (putSuper now w).2.sbi.journalRingHead = w.sbi.journalRingHead := by
  have closes := rest.closes mounted run now
  obtain ⟨_, _, before⟩ := closes.run.ring (closes.before.ring.trans ring)
  obtain ⟨tail, head⟩ := before.putSuper now
  obtain ⟨pending, home, after⟩ := closes.rests.ring (closes.mount.ring.trans ring)
  have chain := after.inv.chain
  rw [tail, head] at chain
  have empty : pending = [] := List.map_eq_nil_iff.mp chain.eq_nil
  subst empty
  exact ⟨home, after, tail, head⟩

/-- A run whose last transaction fills the payload area, where it is fixed, ends at rest. -/
theorem RestingVolume.unmounted {first w : World} {commits : List Transaction}
    (mounted : journalV3Replay (mounting image size) = (.ok (), first))
    (run : MountRun ((image 0).get Super.blocksCount) first commits w) (now : Nat)
    (full : (loadSuper image).journalRing = false →
      lastLength ((loadSuper image).area.blocks - 3) commits = (loadSuper image).area.blocks - 3) :
    RestingVolume (putSuper now w).2.disk size (lastSequenceOf last commits)
      w.sbi.journalRingHead := by
  have sound := (rest.closes mounted run now).sound
  have same : SameMount (loadSuper (putSuper now w).2.disk) (loadSuper image) :=
    sound.toOfVolume.mount rfl
  constructor
  case volume => exact rest.volume.of_volume sound.toOfVolume (Or.inr sound.paired)
  case unmarked =>
    cases layout : (loadSuper image).journalRing with
    | false => exact (rest.reset mounted run now layout).unmarked.device
    | true =>
        obtain ⟨_, after, _⟩ := rest.drained mounted run now layout
        exact (after.unmarked rfl).device
  case fixed =>
    intro fixed
    have layout := same.ring.symm.trans fixed
    have reset := (rest.reset mounted run now layout).reset
    rw [full layout] at reset
    rw [same.area]
    exact reset
  case ring =>
    intro ring
    obtain ⟨_, after, tail, head⟩ := rest.drained mounted run now (same.ring.symm.trans ring)
    have control := after.inv.control
    have settled : (putSuper now w).2.sbi.journalLastSequence =
        (putSuper now w).2.sbi.journalCheckpointSequence := after.inv.last
    have sequence := after.inv.sequence.symm.trans after.sequence
    rw [if_pos rfl, tail, head, ← settled, sequence] at control
    rw [same.area]
    exact ⟨control, after.named⟩

/-- In the fixed layout the next mount wants a last transaction that fills the payload area. -/
theorem RestingVolume.refuses_short {first w : World} {commits : List Transaction}
    (mounted : journalV3Replay (mounting image size) = (.ok (), first))
    (run : MountRun ((image 0).get Super.blocksCount) first commits w) (now : Nat)
    (quiet : NoReplay (putSuper now w).2.disk size)
    (fixed : (loadSuper image).journalRing = false) :
    lastLength ((loadSuper image).area.blocks - 3) commits = (loadSuper image).area.blocks - 3 := by
  have sound := (rest.closes mounted run now).sound
  have same : SameMount (loadSuper (putSuper now w).2.disk) (loadSuper image) :=
    sound.toOfVolume.mount rfl
  have volume := rest.volume.of_volume sound.toOfVolume (Or.inr sound.paired)
  obtain ⟨idle, _⟩ := (checkedVolume volume).noReplay_iff.mp quiet
  exact (rest.reset mounted run now fixed).reset.full same.area (same.ring.trans fixed) idle

end RestingVolume

section Formatted

variable (identity : Block) {options : MkfsOptions} {g : MkfsGeometry} {deviceSize : Nat}
variable (now : Nat) (others : Nat → Block)
variable (accepted : mkfsGeometry options deviceSize = some g)
variable (v3 : options.useJournalV3 = true) (wide : deviceSize < 2 ^ 63)
include accepted v3 wide

omit wide in
theorem mkfsImage_journalRing :
    (loadSuper (mkfsImage identity options g now others)).journalRing = options.journalRing := by
  show ((mkfsImage identity options g now others 0).get Super.featuresIncompat &&&
    FEATURE_INCOMPAT_JOURNAL_RING != 0) = options.journalRing
  rw [mkfsImage_incompat identity now others accepted v3]
  cases ring : options.journalRing with
  | false => exact (mkfsFeaturesIncompat_absent options).2 ring
  | true => exact mkfsFeaturesIncompat_ring ring

omit wide in
/-- The formatter leaves the two blocks of an empty transaction, in either layout. -/
theorem mkfsImage_empty :
    mkfsImage identity options g now others (g.journalBlock + 1) = journalV3EmptyDescriptor 0
        ((⟨g.journalBlock, g.journalBlocks⟩ : JournalArea).fixedPlaces 0) ∧
      mkfsImage identity options g now others (g.journalBlock + g.journalBlocks - 1) =
        journalV3EmptyCommit 0
          ((⟨g.journalBlock, g.journalBlocks⟩ : JournalArea).fixedPlaces 0) := by
  constructor
  · rw [mkfsImage_descriptor identity now others accepted v3]
    rfl
  · rw [mkfsImage_commit]
    rfl

/-- The control block of a fresh ring names all of it. -/
theorem mkfsImage_named (ring : options.journalRing = true) :
    SegmentNamed ⟨g.journalBlock, g.journalBlocks⟩ (mkfsImage identity options g now others)
      ((⟨g.journalBlock, g.journalBlocks⟩ : JournalArea).fixedPlaces (g.journalBlocks - 3)) := by
  obtain ⟨_, long, _, _, ends, _⟩ := mkfsGeometry_journal accepted v3
  have bounded := (mkfsImage_journalLayout identity now others accepted v3
    (lt_trans wide (by decide))).bounded
  have limit : g.journalBlock + g.journalBlocks < 2 ^ 64 := by omega
  have read := JournalV3Control.ofBlock_sealMembers
    (mkfsControlFields g.journalBlock g.journalBlocks true) (mkfsControlFields_fit _ _ _ long limit)
  obtain ⟨first, last⟩ := mkfsImage_empty identity now others accepted v3
  unfold JOURNAL_V3_MIN_BLOCKS at long
  have places : ((⟨g.journalBlock, g.journalBlocks⟩ : JournalArea).fixedPlaces 0).Bounded := by
    constructor <;> simp only [JournalArea.fixedPlaces] <;> omega
  have descriptor := (emptyTransaction 0).ofBlock_descriptor
    ((⟨g.journalBlock, g.journalBlocks⟩ : JournalArea).fixedPlaces 0)
    ⟨g.journalBlock, g.journalBlocks⟩ 0 (emptyTransaction_valid (by decide) _ _) places
    (Nat.zero_le _)
  have record := ofBlock_emptyCommit (show 0 < 2 ^ 64 by decide)
    ((⟨g.journalBlock, g.journalBlocks⟩ : JournalArea).fixedPlaces 0) places
  rw [← journalV3EmptyDescriptor_eq] at descriptor
  constructor
  case named =>
    rw [mkfsImage_control identity now others accepted v3, ring, setJournalV3Control, read]
    rfl
  case low => exact Nat.le_refl _
  case payload => rfl
  case commit =>
    show g.journalBlock + g.journalBlocks - 1 = g.journalBlock + 2 + (g.journalBlocks - 3)
    omega
  case high =>
    show g.journalBlock + g.journalBlocks - 1 < g.journalBlock + g.journalBlocks
    omega
  case descriptor =>
    show DescriptorReads _ (mkfsImage identity options g now others (g.journalBlock + 1))
    rw [first]
    constructor
    case valid =>
      rw [journalV3EmptyDescriptor_eq]
      exact (emptyTransaction 0).descriptor_valid _
    case entries =>
      rw [descriptor]
      exact Nat.zero_le _
    case fits =>
      rw [descriptor]
      exact Nat.zero_le _
    all_goals
      rw [descriptor]
      rfl
  case record =>
    show CommitReads _ (mkfsImage identity options g now others
      (g.journalBlock + g.journalBlocks - 1))
    rw [last]
    constructor
    case valid => exact sealMembers_valid _
    case descriptorBlock =>
      rw [record]
      rfl
    all_goals rw [record]

/-- A freshly formatted device is at rest. -/
theorem mkfsImage_resting : RestingVolume (mkfsImage identity options g now others) g.blocksCount 0
    (g.journalBlock + 1) := by
  have below : deviceSize < 2 ^ 64 := lt_trans wide (by decide)
  have layout := mkfsImage_journalRing identity now others accepted v3
  obtain ⟨journalBlock, journalBlocks, _⟩ :=
    mkfsImage_journal identity now others accepted v3 below
  have area : (loadSuper (mkfsImage identity options g now others)).area =
      ⟨g.journalBlock, g.journalBlocks⟩ := by
    rw [← journalBlock, ← journalBlocks]
    rfl
  constructor
  case volume => exact (Reached.formatted identity now others accepted v3 wide rfl).settled
  case unmarked =>
    rw [recoveryMark, mkfsImage_state identity now others accepted v3]
    rfl
  case fixed =>
    intro fixed
    rw [area]
    constructor
    case small => exact Nat.two_pow_pos 64
    case control =>
      exact (mkfsImage_fixedClean identity now others accepted v3 (layout.symm.trans fixed) below _
        area).control
    case empty => exact ⟨0, mkfsImage_empty identity now others accepted v3⟩
  case ring =>
    intro ring
    have layout := layout.symm.trans ring
    rw [area]
    exact ⟨mkfsImage_ring identity now others accepted v3 below layout, _,
      mkfsImage_named identity now others accepted v3 wide layout⟩

end Formatted

/-- The devices that formatting and unmounting leave, as long as in the fixed layout the last
transaction of every mount fills the payload area. -/
inductive Unmounted (size : Nat) : (Nat → Block) → Prop
  | formatted (identity : Block) {options : MkfsOptions} {g : MkfsGeometry} {deviceSize : Nat}
      (now : Nat) (others : Nat → Block) (accepted : mkfsGeometry options deviceSize = some g)
      (v3 : options.useJournalV3 = true) (wide : deviceSize < 2 ^ 63)
      (whole : g.blocksCount = size) : Unmounted size (mkfsImage identity options g now others)
  | unmounted {image : Nat → Block} {first w : World} {commits : List Transaction}
      (before : Unmounted size image)
      (mounted : journalV3Replay (mounting image size) = (.ok (), first))
      (run : MountRun ((image 0).get Super.blocksCount) first commits w) (now : Nat)
      (full : (loadSuper image).journalRing = false → ∀ t, commits.getLast? = some t →
        t.images.length = (loadSuper image).journalBlocks - 3) :
      Unmounted size (putSuper now w).2.disk

theorem lastLength_eq_iff (fresh : Nat) (commits : List Transaction) :
    lastLength fresh commits = fresh ↔
      ∀ t, commits.getLast? = some t → t.images.length = fresh := by
  unfold lastLength
  cases commits.getLast? with
  | none => simp
  | some t => simp

/-- Whatever mounts and runs came before, an unmounted device is at rest. -/
theorem Unmounted.resting {size : Nat} {image : Nat → Block} (before : Unmounted size image) :
    ∃ last head, RestingVolume image size last head := by
  induction before with
  | formatted identity now others accepted v3 wide whole =>
      subst whole
      exact ⟨_, _, mkfsImage_resting identity now others accepted v3 wide⟩
  | unmounted _ mounted run now full ih =>
      obtain ⟨_, _, rest⟩ := ih
      exact ⟨_, _, rest.unmounted mounted run now fun fixed =>
        (lastLength_eq_iff _ _).mpr (full fixed)⟩

/-- The fixed volume of the examples. -/
def smallFixedImage : Nat → Block :=
  mkfsImage (ByteBuf.zero BLOCK_SIZE) smallFixed smallGeometry 0 fun _ => ByteBuf.zero BLOCK_SIZE

theorem smallFixedImage_resting : RestingVolume smallFixedImage 4111 0 4103 :=
  mkfsImage_resting _ 0 _ smallFixed_accepted rfl (by decide)

theorem smallFixedMount_sbi : smallFixedMount.sbi = fixedCleanSbi (loadSuper smallFixedImage) 0 :=
  rfl

theorem smallFixedImage_fixed : (loadSuper smallFixedImage).journalRing = false := by
  rw [← (fixedCleanSbi_mount (loadSuper smallFixedImage) 0).ring, ← smallFixedMount_sbi]
  exact smallFixedMount_mounted.fixed

theorem smallFixedImage_area : (loadSuper smallFixedImage).area = ⟨4102, 9⟩ := by
  rw [← (fixedCleanSbi_mount (loadSuper smallFixedImage) 0).area, ← smallFixedMount_sbi]
  exact smallFixedMount_mounted.ready.sameArea

theorem smallFixedImage_mounts :
    journalV3Replay (mounting smallFixedImage 4111) = (.ok (), smallFixedMount) :=
  smallFixedImage_resting.replay_fixed smallFixedImage_fixed

end Cryexts
