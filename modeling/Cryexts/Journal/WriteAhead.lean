import Cryexts.Journal.Barrier
import Cryexts.Journal.RingAtomicity

set_option autoImplicit false

namespace Cryexts

open Routine (Moves)
open WriteLog (store)

/-- A version 3 mount whose journal positions lie inside its journal. -/
structure JournalPlaced (sbi : SbInfo) : Prop where
  live : LiveV3 sbi
  first : 0 < sbi.area.first
  table : TableApart sbi
  head : sbi.journalRing = true → sbi.ringStart ≤ sbi.journalRingHead
  tail : sbi.journalRing = true → sbi.journalRingTail ≤ sbi.ringEnd

/-- What an operation does inside its transaction. It reaches a buffer only through a
block of the device. -/
def FsWork.Inner : FsWork → World → Prop
  | .write block _, w => block < w.size
  | .start, _ | .abort, _ => False
  | _, _ => True

/-- A transaction from its begin on, up to its commit. -/
inductive TransactionRun (first : World) : World → Prop
  | begun {w : World} (opened : journalV3Begin first = (.ok (), w)) : TransactionRun first w
  | work {w : World} (work : FsWork) (before : TransactionRun first w) (inner : work.Inner w) :
      TransactionRun first (work.run w)

/-- The device writes that precede the commit block's, counted over the whole log. -/
def writesBeforeCommitRecord (w : World) : Nat :=
  (journalV3Prepare (journalOrderedBarrier w).2).2.log.length

/-- A home block reaches the device with the transaction's content only behind the
commit block. The superblock is recorded by the commit itself. -/
def WriteAhead (first w : World) : Prop :=
  ∀ index block content, first.log.length ≤ index →
    (journalCommit w).2.log[index]? = some (block, content) →
    block = 0 ∨ block ∈ w.sbi.journalHomeBlocks → content ≠ first.cache block →
    writesBeforeCommitRecord w ≤ index

/-- What a transaction has done so far. -/
structure Inside (first w : World) : Prop where
  log : w.log = first.log
  size : w.size = first.size
  mount : SameMount w.sbi first.sbi
  head : w.sbi.journalRingHead = first.sbi.journalRingHead
  tail : w.sbi.journalRingTail = first.sbi.journalRingTail
  outside : ∀ block, block ∈ w.sbi.journalHomeBlocks → ¬ w.sbi.area.Inside block
  fits : w.sbi.journalHomeBlocks.length ≤ w.sbi.journalV3PayloadCapacity
  room : w.sbi.journalV3PayloadCapacity ≠ 0
  touched : ∀ block, w.cache block ≠ first.cache block → w.dirty block = true ∧ block < w.size

theorem Inside.begun {first w : World} (opened : journalV3Begin first = (.ok (), w)) :
    Inside first w := by
  have capacity : first.sbi.journalV3PayloadCapacity ≠ 0 := by
    intro none
    by_cases closed : first.sbi.journalActiveSequence = 0
    · simp [journalV3Begin, closed, none] at opened
    · simp [journalV3Begin, closed] at opened
  rcases journalV3Begin_cases first with ⟨err, failed⟩ | started
  · rw [failed] at opened
    cases opened
  · rw [started] at opened
    obtain rfl := (Prod.mk.inj opened).2
    refine ⟨rfl, rfl, ⟨rfl, rfl, rfl, rfl, rfl, rfl, rfl, rfl⟩, rfl, rfl, ?_, ?_, capacity, ?_⟩
    · intro block member
      cases member
    · exact Nat.zero_le _
    · intro block changed
      exact absurd rfl changed

theorem Inside.record {first w : World} (live : LiveV3 first.sbi) (inside : Inside first w)
    (block : Nat) : Inside first (journalRecordBh block w) := by
  have here := live.of_same inside.mount
  rcases journalRecordBh_cases block w here.enabled here.v3 here.live with
    ⟨same, _⟩ | ⟨_, _, same⟩ | ⟨_, _, _, apart, _, room, same⟩
  · rw [same]
    exact inside
  · rw [same]
    obtain ⟨log, size, mount, head, tail, outside, fits, room, touched⟩ := inside
    exact ⟨log, size, ⟨mount.area, mount.tableStart, mount.tableBlocks, mount.enabled, mount.v2,
      mount.v3, mount.ring, mount.replaying⟩, head, tail, outside, fits, room, touched⟩
  · rw [same]
    obtain ⟨log, size, mount, head, tail, outside, fits, some, touched⟩ := inside
    refine ⟨log, size, ⟨mount.area, mount.tableStart, mount.tableBlocks, mount.enabled, mount.v2,
      mount.v3, mount.ring, mount.replaying⟩, head, tail, ?_, ?_, some, touched⟩
    · intro other member
      rcases List.mem_append.mp member with old | new
      · exact outside other old
      · rw [List.mem_singleton.mp new]
        exact apart
    · rw [List.length_append, List.length_singleton]
      exact room

theorem TransactionRun.inside {first w : World} (live : LiveV3 first.sbi)
    (run : TransactionRun first w) : Inside first w := by
  induction run with
  | begun opened => exact Inside.begun opened
  | work work before inner ih =>
      obtain ⟨log, size, mount, head, tail, outside, fits, room, touched⟩ := ih
      have kept : SameMount _ first.sbi := mount
      cases work with
      | write block content =>
          refine ⟨log, size, mount, head, tail, outside, fits, room, ?_⟩
          intro other changed
          change store _ block true other = true ∧ _
          by_cases here : other = block
          · rw [here, WriteLog.store_same]
            exact ⟨rfl, inner⟩
          · rw [WriteLog.store_other _ _ _ _ here]
            refine touched other ?_
            change store _ block content other ≠ _ at changed
            rwa [WriteLog.store_other _ _ _ _ here] at changed
      | cursors nextIno nextDataBlock =>
          exact ⟨log, size, ⟨mount.area, mount.tableStart, mount.tableBlocks, mount.enabled,
            mount.v2, mount.v3, mount.ring, mount.replaying⟩, head, tail, outside, fits, room,
            touched⟩
      | storage bytes =>
          exact ⟨log, size, ⟨mount.area, mount.tableStart, mount.tableBlocks, mount.enabled,
            mount.v2, mount.v3, mount.ring, mount.replaying⟩, head, tail, outside, fits, room,
            touched⟩
      | start => exact absurd inner id
      | record block =>
          exact Inside.record live ⟨log, size, mount, head, tail, outside, fits, room, touched⟩
            block
      | abort => exact absurd inner id

/-- The record set of a commit still fits. -/
theorem atCommit_fits {w : World} (live : LiveV3 w.sbi) (first : 0 < w.sbi.area.first)
    (table : TableApart w.sbi)
    (fits : w.sbi.journalHomeBlocks.length ≤ w.sbi.journalV3PayloadCapacity) :
    (atCommit w).sbi.journalHomeBlocks.length ≤ w.sbi.journalV3PayloadCapacity := by
  obtain ⟨before, same, worked, _, homes, _⟩ := atCommit_before first table
  have here := live.of_same worked.mount
  have capacity : before.sbi.journalV3PayloadCapacity = w.sbi.journalV3PayloadCapacity := by
    rw [SbInfo.journalV3PayloadCapacity_eq, SbInfo.journalV3PayloadCapacity_eq, worked.area]
  rw [same]
  rcases journalRecordBh_cases 0 before here.enabled here.v3 here.live with
    ⟨kept, _⟩ | ⟨_, _, kept⟩ | ⟨_, _, _, _, _, room, kept⟩
  · rw [kept, homes]
    exact fits
  · rw [kept]
    change before.sbi.journalHomeBlocks.length ≤ _
    rw [homes]
    exact fits
  · rw [kept, ← capacity]
    change (before.sbi.journalHomeBlocks ++ [0]).length ≤ _
    rw [List.length_append, List.length_singleton]
    exact room

/-- The places of an allocated segment lie inside the journal. -/
theorem allocation_inside {sbi : SbInfo} {entries : Nat} {allocation : JournalV3Allocation}
    (head : sbi.journalRing = true → sbi.ringStart ≤ sbi.journalRingHead)
    (tail : sbi.journalRing = true → sbi.journalRingTail ≤ sbi.ringEnd)
    (room : sbi.journalV3PayloadCapacity ≠ 0) (fits : entries ≤ sbi.journalV3PayloadCapacity)
    (success : journalV3RingAllocate sbi entries = .ok allocation) :
    sbi.area.Inside allocation.segment.descriptorBlock ∧
      ∀ index, index < entries → sbi.area.Inside (allocation.segment.payloadStart + index) := by
  by_cases ring : sbi.journalRing = true
  · obtain ⟨position, segment, _, low, high, _⟩ :=
      journalV3RingAllocate_ring ring (head ring) (tail ring) success
    rw [segment]
    simp only [SbInfo.ringStart, SbInfo.ringEnd] at low high
    refine ⟨?_, fun index before => ?_⟩
    · simp only [JournalArea.Inside, SbInfo.area]
      omega
    · simp only [JournalArea.Inside, SbInfo.area]
      omega
  · have plain : sbi.journalRing = false := by simpa using ring
    unfold journalV3RingAllocate at success
    simp only [plain, ↓reduceIte] at success
    obtain rfl := Except.ok.inj success
    unfold SbInfo.journalV3PayloadCapacity JOURNAL_V3_MIN_BLOCKS at fits room
    split at fits
    · simp_all
    · refine ⟨?_, fun index before => ?_⟩
      · simp only [JournalArea.Inside, SbInfo.area, SbInfo.journalV2DescriptorBlock]
        omega
      · simp only [JournalArea.Inside, SbInfo.area, SbInfo.journalV2PayloadStart]
        omega

theorem SbInfo.ringStart_eq (sbi : SbInfo) : sbi.ringStart = sbi.area.ringStart := rfl

theorem SbInfo.ringEnd_eq (sbi : SbInfo) : sbi.ringEnd = sbi.area.ringEnd := rfl

/-- A transaction is logged at its segment and the control block. -/
theorem journalV3LogTransaction_grows {places : Nat → Prop} (start w : World) (homes : List Nat)
    (segment : JournalV3Segment) (descriptor : places segment.descriptorBlock)
    (payloads : ∀ index, index < homes.length → places (segment.payloadStart + index))
    (control : places w.sbi.journalBlock) :
    Grows places w (journalV3LogTransaction start homes segment w).2 := by
  have images : ∀ descriptor : Block, Moves (BlockIo places)
      (logImages segment.payloadStart homes 0 descriptor FNV_OFFSET) := fun _ =>
    logImages_moves _ _ _ _ _ fun later _ high => payloads later (by omega)
  have described : ∀ content : Block, Moves (BlockIo places)
      (journalV3WriteSync segment.descriptorBlock content) := fun content =>
    journalV3WriteSync_moves _ content descriptor
  have ran : BlockIo places w (journalV3LogTransaction start homes segment w).2 := by
    refine Moves.bind_from kmalloc_moves w fun _ first one => ?_
    refine Moves.bind_from (images _) first fun logged second two => ?_
    refine Moves.bind_from (described _) second fun _ third three => ?_
    have sbi : third.sbi = w.sbi := by
      rw [((described _).of_run three).sbi, ((images _).of_run two).sbi,
        (@kmalloc_moves places).of_run one |>.sbi]
    have last : Moves (BlockIo places) (journalV3WriteSync third.sbi.journalBlock
        (journalV3PrepareControl third.sbi JOURNAL_V3_STATE_PREPARED start.sbi.journalSequence
          start.sbi.journalActiveSequence start.sbi.journalCheckpointSequence segment)) := by
      apply journalV3WriteSync_moves
      rw [sbi]
      exact control
    exact Moves.bind last (fun _ => Moves.pure _) third
  exact ran.log

/-- Before its commit block a commit writes journal blocks only. -/
theorem journalV3Prepare_grows {w : World} (live : LiveV3 w.sbi) (first : 0 < w.sbi.area.first)
    (table : TableApart w.sbi)
    (head : w.sbi.journalRing = true → w.sbi.ringStart ≤ w.sbi.journalRingHead)
    (tail : w.sbi.journalRing = true → w.sbi.journalRingTail ≤ w.sbi.ringEnd)
    (fits : w.sbi.journalHomeBlocks.length ≤ w.sbi.journalV3PayloadCapacity)
    (room : w.sbi.journalV3PayloadCapacity ≠ 0) :
    Grows w.sbi.area.Inside w (journalV3Prepare w).2 := by
  have worked := atCommit_worked first table live.enabled live.v3 live.live
  have start : Grows w.sbi.area.Inside w (atCommit w) := Grows.silent worked.log
  have quiet := worked.toQuiet
  have capacity : (atCommit w).sbi.journalV3PayloadCapacity = w.sbi.journalV3PayloadCapacity := by
    rw [SbInfo.journalV3PayloadCapacity_eq, SbInfo.journalV3PayloadCapacity_eq, quiet.area]
  rcases journalV3Prepare_cases w with ⟨err, failed⟩ | ⟨_, allocation, placed, ran⟩
  · rw [failed]
    exact start
  · have inside := allocation_inside (by
        intro ring
        rw [quiet.ring] at ring
        rw [quiet.head]
        have low := head ring
        rw [SbInfo.ringStart_eq] at low ⊢
        rw [quiet.area]
        exact low)
      (by
        intro ring
        rw [quiet.ring] at ring
        rw [quiet.tail]
        have high := tail ring
        rw [SbInfo.ringEnd_eq] at high ⊢
        rw [quiet.area]
        exact high)
      (by rw [capacity]; exact room)
      (by rw [capacity]; exact atCommit_fits live first table fits) placed
    rw [quiet.area] at inside
    rw [ran]
    have control : w.sbi.area.Inside w.sbi.journalBlock := by
      have least := inside.1
      simp only [JournalArea.Inside, SbInfo.area] at least ⊢
      omega
    have place : (advanced w allocation).journalBlock = w.sbi.journalBlock :=
      congrArg JournalArea.first ((takeSegment_mount _ _ allocation).trans quiet.mount).area
    exact Grows.trans start (journalV3LogTransaction_grows _ _ _ _ inside.1 inside.2
      (by rw [place]; exact control))

/-- What a commit has written up to its commit block is what its barrier and its first half
write. -/
theorem journalCommit_log {w : World} (live : LiveV3 w.sbi) :
    (∃ rest, (journalCommit w).2.log = (journalOrderedBarrier w).2.log ++ rest) ∧
      ∀ index, index < writesBeforeCommitRecord w → ∀ write,
        (journalCommit w).2.log[index]? = some write →
        (journalV3Prepare (journalOrderedBarrier w).2).2.log[index]? = some write := by
  have active : ¬ w.Bypassed :=
    not_or.mpr ⟨by rw [live.enabled]; decide, by rw [live.live]; decide⟩
  cases ran : journalOrderedBarrier w with
  | mk outcome after =>
      have flushed := journalOrderedBarrier_flushed.of_run ran
      have here : LiveV3 after.sbi := by rw [flushed.sbi]; exact live
      obtain ⟨logged, grown, _⟩ := (journalV3Prepare_kept after here).2
      have early : ∀ (index : Nat) (write : Nat × Block), after.log[index]? = some write →
          (journalV3Prepare after).2.log[index]? = some write := by
        intro index write found
        rw [grown]
        rw [List.getElem?_append_left (List.getElem?_eq_some_iff.mp found).1]
        exact found
      unfold writesBeforeCommitRecord
      rw [ran]
      cases outcome with
      | error err =>
          have result := Routine.onFailure_error journalOrderedBarrier
            (fun _ => Routine.modify journalAbort) w after err ran
          have log : (journalCommit w).2.log = after.log := by
            rw [journalCommit, Routine.read_bind, if_neg active,
              Routine.bind_error _ _ _ _ _ result]
            change (journalAbort after).log = after.log
            unfold journalAbort
            split <;> rfl
          refine ⟨⟨[], by rw [log, List.append_nil]⟩, fun index _ write found => ?_⟩
          rw [log] at found
          exact early index write found
      | ok value =>
          have result := Routine.onFailure_ok journalOrderedBarrier
            (fun _ => Routine.modify journalAbort) w after value ran
          have commit : journalCommit w = journalV3Commit after := by
            rw [journalCommit, Routine.read_bind, if_neg active, Routine.bind_ok _ _ _ _ _ result]
          rw [commit]
          rcases journalV3Commit_grows here with same | ⟨rest, later, _⟩
          · refine ⟨⟨[], by rw [same, List.append_nil]⟩, fun index _ write found => ?_⟩
            rw [same] at found
            exact early index write found
          · refine ⟨⟨logged ++ rest, by rw [later, grown, List.append_assoc]⟩,
              fun index before write found => ?_⟩
            rw [later, List.getElem?_append_left before] at found
            exact found

theorem journalOrderedBarrier_log {w after : World} (synced : syncBlockdev w = (.ok (), after)) :
    (journalOrderedBarrier w).2.log = after.log := by
  rw [journalOrderedBarrier, Routine.bind_ok _ _ _ _ _ synced]
  have quiet : ∀ v : World, ((do if ← faulty then Routine.fail Errno.eio : Kernel Unit) v).2.log =
      v.log := by
    intro v
    cases tried : faulty v with
    | mk outcome later =>
        have log : later.log = v.log := by
          have moved : (faulty v).2 = later := by rw [tried]
          rw [← moved]
          unfold faulty
          cases v.faults <;> rfl
        cases outcome with
        | error err => rw [Routine.bind_error _ _ _ _ _ tried, log]
        | ok failed =>
            rw [Routine.bind_ok _ _ _ _ _ tried]
            cases failed <;> exact log
  exact quiet after

/-- A transaction that leaves its home blocks as it found them writes none of its content
ahead of its commit block. -/
theorem Inside.writeAhead {first w : World} (placed : JournalPlaced first.sbi)
    (inside : Inside first w)
    (unchanged : ∀ block, block = 0 ∨ block ∈ w.sbi.journalHomeBlocks →
      w.cache block = first.cache block) : WriteAhead first w := by
  have live := placed.live.of_same inside.mount
  intro index block content late found home changed
  by_contra before
  have recorded := (journalCommit_log live).2 index (Nat.lt_of_not_le before) _ found
  have flushed := journalOrderedBarrier_flushed w
  obtain ⟨flush, log, same⟩ := flushed.log
  generalize (journalOrderedBarrier w).2 = middle at *
  have area : middle.sbi.area = first.sbi.area := by rw [flushed.sbi, inside.mount.area]
  have here : LiveV3 middle.sbi := by rw [flushed.sbi]; exact live
  obtain ⟨logged, grown, outside⟩ := journalV3Prepare_grows here
    (by rw [area]; exact placed.first)
    (by rw [flushed.sbi]; exact placed.table.of_same inside.mount)
    (by
      intro ring
      rw [flushed.sbi, inside.mount.ring] at ring
      rw [SbInfo.ringStart_eq, area, flushed.sbi, inside.head]
      exact placed.head ring)
    (by
      intro ring
      rw [flushed.sbi, inside.mount.ring] at ring
      rw [SbInfo.ringEnd_eq, area, flushed.sbi, inside.tail]
      exact placed.tail ring)
    (by rw [flushed.sbi]; exact inside.fits) (by rw [flushed.sbi]; exact inside.room)
  rw [grown, log, inside.log, List.append_assoc, List.getElem?_append_right late] at recorded
  have member := List.mem_of_getElem? recorded
  rcases List.mem_append.mp member with early | later
  · have kept := same _ early
    exact changed (kept.trans (unchanged block home))
  · have place := outside _ later
    rw [flushed.sbi] at place
    rcases home with super | record
    · subst super
      rw [inside.mount.area] at place
      have low := placed.first
      have bound := place.1
      omega
    · exact inside.outside block record place

/-- The barrier at the head of a commit writes whatever home block the transaction has
changed. -/
theorem Inside.flushed {first w after : World} (live : LiveV3 first.sbi)
    (inside : Inside first w) (synced : syncBlockdev w = (.ok (), after))
    (ahead : WriteAhead first w) (block : Nat)
    (home : block = 0 ∨ block ∈ w.sbi.journalHomeBlocks) : w.cache block = first.cache block := by
  by_contra changed
  have here := live.of_same inside.mount
  obtain ⟨pending, low⟩ := inside.touched block changed
  have swept : ((List.range w.size).forM syncDirtyBuffer : Kernel Unit) w = (.ok (), after) :=
    synced
  obtain ⟨writes, log, member⟩ :=
    syncBlocks_writes swept block (List.mem_range.mpr low) pending
  have barrier := journalOrderedBarrier_log synced
  obtain ⟨index, small, at_⟩ := List.mem_iff_getElem.mp member
  obtain ⟨⟨rest, whole⟩, _⟩ := journalCommit_log here
  have found : (journalCommit w).2.log[w.log.length + index]? =
      some (block, w.cache block) := by
    rw [whole, barrier, log, List.append_assoc, List.getElem?_append_right (by omega),
      Nat.add_sub_cancel_left, List.getElem?_append_left small,
      List.getElem?_eq_getElem small, at_]
  have late := ahead (w.log.length + index) block (w.cache block)
    (by rw [inside.log]; omega) found home changed
  have flushed := journalOrderedBarrier_flushed w
  have middle : LiveV3 (journalOrderedBarrier w).2.sbi := by rw [flushed.sbi]; exact here
  obtain ⟨logged, grown, _⟩ := (journalV3Prepare_kept _ middle).2
  rw [writesBeforeCommitRecord, grown, barrier, log, List.length_append, List.length_append]
    at late
  omega

/-- The write-ahead rule holds of a transaction exactly when its home blocks and the
superblock are as it found them. Where they are, it holds whatever fails; the other
direction takes the flush of the barrier to write every dirty buffer. -/
theorem writeAhead_unchanged (first w : World) (placed : JournalPlaced first.sbi)
    (run : TransactionRun first w) :
    ((∀ block, block = 0 ∨ block ∈ w.sbi.journalHomeBlocks → w.cache block = first.cache block) →
      WriteAhead first w) ∧
    ((syncBlockdev w).1 = .ok () → (WriteAhead first w ↔
      ∀ block, block = 0 ∨ block ∈ w.sbi.journalHomeBlocks →
        w.cache block = first.cache block)) := by
  have inside := run.inside placed.live
  refine ⟨inside.writeAhead placed, fun synced => ⟨fun ahead block home => ?_,
    inside.writeAhead placed⟩⟩
  exact inside.flushed placed.live (Prod.ext synced rfl) ahead block home

theorem RingInv.placed {w : World} {area : JournalArea} {count : Nat} {pending : List Transaction}
    {home : Nat → Block} (inv : RingInv w area count pending home) : JournalPlaced w.sbi where
  live := ⟨inv.mode.enabled, inv.mode.v3, inv.mode.live⟩
  first := inv.mode.first
  table := inv.mode.table
  head _ := by
    rw [SbInfo.ringStart_eq, inv.ready.sameArea]
    exact inv.headLow
  tail _ := by
    rw [SbInfo.ringEnd_eq, inv.ready.sameArea]
    exact Nat.le_of_lt inv.tailHigh

theorem SingleReady.begins {w : World} {count block : Nat} (ready : SingleReady w count block) :
    journalV3Begin w = (.ok (), (journalV3Begin w).2) := by
  have capacity := ready.capacity
  have full : w.sbi.journalV3PayloadCapacity ≠ 0 := by
    rw [SbInfo.journalV3PayloadCapacity_eq]
    omega
  rcases journalV3Begin_cases w with ⟨err, failed⟩ | started
  · simp [journalV3Begin, ready.closed, full] at failed
  · rw [started]

theorem SingleReady.begun_size {w : World} {count block : Nat} (ready : SingleReady w count block) :
    (journalV3Begin w).2.size = w.size := by
  have inside := Inside.begun ready.begins
  exact inside.size

/-- A transaction that records a block and changes nothing. -/
theorem SingleReady.idle {w : World} {count block : Nat} (ready : SingleReady w count block) :
    TransactionRun w (journalRecordBh block (journalV3Begin w).2) ∧
      (journalRecordBh block (journalV3Begin w).2).cache = w.cache := by
  have live : LiveV3 w.sbi := ⟨ready.mode.enabled, ready.mode.v3, ready.mode.live⟩
  have here := live.of_same (Inside.begun ready.begins).mount
  refine ⟨(TransactionRun.begun ready.begins).work (FsWork.record block) trivial, ?_⟩
  rw [(journalRecordBh_cache block here.enabled here.v3 here.live).1]
  rcases journalV3Begin_cases w with ⟨err, failed⟩ | started
  · rw [failed]
  · rw [started]

/-- The theorem at such a transaction on a fresh volume. -/
theorem writeAhead_unchanged_small :
    WriteAhead smallMount (journalRecordBh 8 (journalV3Begin smallMount).2) := by
  obtain ⟨run, same⟩ := (smallMount_single 8 (by decide)).idle
  refine (writeAhead_unchanged _ _ smallMount_mounted.inv.placed run).1 fun block _ => ?_
  rw [same]

private theorem flushed_first {w : World} {count block : Nat} (ready : SingleReady w count block)
    (placed : JournalPlaced w.sbi) (room : block < w.size) (content : Block)
    (changed : content ≠ w.cache block) :
    TransactionRun w (singleWrite block content w) ∧
      ¬ WriteAhead w (singleWrite block content w) := by
  have begun := TransactionRun.begun ready.begins
  have inner : (FsWork.write block content).Inner (journalV3Begin w).2 := by
    change block < (journalV3Begin w).2.size
    rw [ready.begun_size]
    exact room
  have run : TransactionRun w (singleWrite block content w) :=
    (begun.work (FsWork.write block content) inner).work (FsWork.record block) trivial
  have inside := run.inside placed.live
  have healthy := (ready.quiet content).healthy ready.mode.healthy
  have synced : syncBlockdev (singleWrite block content w) =
      (.ok (), (syncBlockdev (singleWrite block content w)).2) :=
    Prod.ext (syncBlocks_healthy healthy _).1 rfl
  refine ⟨run, fun ahead => ?_⟩
  have same := inside.flushed placed.live synced ahead block (Or.inr (by
    rw [ready.run]
    exact List.mem_cons_self))
  rw [ready.run] at same
  change store w.cache block content block = _ at same
  rw [WriteLog.store_same] at same
  exact changed same

/-- One changed home block is flushed by the barrier, before the descriptor is written. -/
theorem writeAhead_broken :
    TransactionRun smallMount (singleWrite 8 sampleContent smallMount) ∧
      ¬ WriteAhead smallMount (singleWrite 8 sampleContent smallMount) := by
  have blank : smallMount.cache 8 = ByteBuf.zero BLOCK_SIZE :=
    mkfsImage_other (ByteBuf.zero BLOCK_SIZE) 0 (fun _ => ByteBuf.zero BLOCK_SIZE)
      smallGeometry_accepted rfl 8 (by decide) (by decide)
  have inv := smallMount_mounted.inv
  apply flushed_first (smallMount_single 8 (by decide)) inv.placed
  · exact lt_of_lt_of_le (smallMount_single 8 (by decide)).inside inv.ready.homes
  · rw [blank]
    exact sampleContent_written

end Cryexts
