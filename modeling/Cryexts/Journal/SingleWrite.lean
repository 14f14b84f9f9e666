import Cryexts.Journal.RingRun

set_option autoImplicit false

namespace Cryexts

open WriteLog (store applyWrites)

/-- The smallest metadata operation: one home block changed inside a transaction. -/
def singleWrite (block : Nat) (content : Block) (w : World) : World :=
  journalRecordBh block ((journalV3Begin w).2.dirtyBuffer block content)

/-- The mount's journal state inside that operation. -/
def singleSbi (sbi : SbInfo) (block : Nat) : SbInfo :=
  { sbi.journalV3ClearRuntime with
    journalActiveSequence := sbi.journalSequence + 1
    journalHomeBlocks := [block] }

/-- A mount in which the operation can run on `block`. -/
structure SingleReady (w : World) (count block : Nat) : Prop where
  mode : JournalMode w
  closed : w.sbi.journalActiveSequence = 0
  sequence : w.sbi.journalSequence + 1 < 2 ^ 64
  capacity : 2 ≤ w.sbi.area.capacity
  describes : Describes (w.cache 0) w.sbi count
  apart : block ≠ 0
  inside : block < count
  outside : ¬ w.sbi.area.Inside block
  table : ∀ index, index < w.sbi.groupDescTableBlocks → block ≠ w.sbi.groupDescTableStart + index

namespace SingleReady

variable {w : World} {count block : Nat} (ready : SingleReady w count block) (content : Block)
include ready

theorem run : singleWrite block content w =
    { w.dirtyBuffer block content with sbi := singleSbi w.sbi block } := by
  have capacity := ready.capacity
  have full : w.sbi.journalV3PayloadCapacity ≠ 0 := by
    rw [SbInfo.journalV3PayloadCapacity_eq]
    omega
  have begun : (journalV3Begin w).2 = { w with sbi :=
      { w.sbi.journalV3ClearRuntime with
        journalActiveSequence := w.sbi.journalSequence + 1 } } := by
    simp [journalV3Begin, ready.closed, full, u64_of_lt _ ready.sequence]
  rw [singleWrite, begun]
  generalize openedIs : ({ w with sbi := { w.sbi.journalV3ClearRuntime with
    journalActiveSequence := w.sbi.journalSequence + 1 } } : World).dirtyBuffer block content =
      opened
  have super : opened.cache 0 = w.cache 0 := by
    rw [← openedIs]
    exact WriteLog.store_other _ _ _ _ (Ne.symm ready.apart)
  have counted : blocksCount opened = count := by
    rw [blocksCount, World.super, super]
    exact ready.describes.blocksCount
  have inside : block < blocksCount opened := by rw [counted]; exact ready.inside
  subst openedIs
  exact journalRecordBh_fresh block ready.mode.enabled ready.mode.v3 ready.mode.live
    (Nat.succ_ne_zero _) rfl inside ready.outside (by simp [SbInfo.journalV3ClearRuntime])
    (lt_of_lt_of_le Nat.zero_lt_two capacity)

theorem quiet : Quiet w (singleWrite block content w) := by
  rw [ready.run]
  refine ⟨rfl, rfl, rfl, rfl, rfl, ?_, rfl⟩
  intro other inside
  apply WriteLog.store_other
  rintro rfl
  exact ready.outside inside

theorem super : (singleWrite block content w).cache 0 = w.cache 0 := by
  rw [ready.run]
  exact WriteLog.store_other _ _ _ _ (Ne.symm ready.apart)

/-- The commit of the operation holds its block and the superblock. -/
theorem atCommit_homes : (atCommit (singleWrite block content w)).sbi.journalHomeBlocks =
      [block, 0] ∧ (atCommit (singleWrite block content w)).sbi.journalError = none := by
  have quiet := ready.quiet content
  have mode := ready.mode.of_same (quiet.healthy ready.mode.healthy) quiet.mount quiet.size
  have sbi : (singleWrite block content w).sbi = singleSbi w.sbi block := by rw [ready.run]
  obtain ⟨before, same, worked, super, homes, sound⟩ := atCommit_before mode.first mode.table
  have inside := ready.inside
  have counted : blocksCount before = count := by
    rw [blocksCount, World.super, super]
    apply ((commitSuper_same _).describes _).blocksCount
    · exact w.sbi
    · rw [ready.super]
      exact ready.describes
  have area : before.sbi.area = w.sbi.area := worked.area.trans quiet.area
  have first := ready.mode.first
  have outside : ¬ w.sbi.area.Inside 0 := fun member => absurd member.1 (by omega)
  rw [sbi] at homes sound
  have record := journalRecordBh_fresh 0 (worked.enabled.trans mode.enabled)
    (worked.v3.trans mode.v3) (worked.replaying.trans mode.live)
    (by
      rw [worked.active, sbi]
      exact Nat.succ_ne_zero _) sound (by omega) (by rw [area]; exact outside)
    (by
      rw [homes]
      simpa [singleSbi] using Ne.symm ready.apart)
    (by
      rw [homes, area]
      exact ready.capacity)
  rw [same, record, homes]
  exact ⟨rfl, sound⟩

theorem committing_images : (committing (singleWrite block content w)).images =
    [(block, content), (0, commitSuper (singleWrite block content w))] := by
  have quiet := ready.quiet content
  have mode := ready.mode.of_same (quiet.healthy ready.mode.healthy) quiet.mount quiet.size
  have changed : (singleWrite block content w).cache block = content := by
    rw [ready.run]
    exact WriteLog.store_same _ _ _
  have image := atCommit_cache mode.first mode.table mode.enabled mode.v3 mode.live block
    ready.apart (by
      intro index before
      rw [quiet.mount.tableStart]
      exact ready.table index (quiet.mount.tableBlocks ▸ before))
  have record := atCommit_super mode.first mode.table mode.enabled mode.v3 mode.live
  simp only [committing, (ready.atCommit_homes content).1, List.map_cons, List.map_nil, image,
    record, changed]

end SingleReady

section Single

variable {w : World} {area : JournalArea} {count block : Nat} {pending : List Transaction}
variable {home : Nat → Block} (inv : RingInv w area count pending home)
variable (ready : SingleReady w count block) (content : Block)
include inv ready

theorem RingInv.single : RingInv (singleWrite block content w) area count pending home := by
  have sbi : (singleWrite block content w).sbi = singleSbi w.sbi block := by rw [ready.run]
  have small := ready.sequence
  refine inv.quiet (ready.quiet content) ?_ ?_ ?_ ?_
  · rw [ready.super]
    exact inv.describes
  · rw [sbi]
    refine ⟨by simp [singleSbi], ?_, ?_⟩
    · intro other member
      rw [List.mem_singleton.mp member]
      exact ⟨ready.inside, ready.outside⟩
    · exact Nat.le_of_lt ready.capacity
  · rw [sbi]
    exact Or.inr rfl
  · rw [sbi]
    exact small

omit inv in
theorem SingleReady.span : (committing (singleWrite block content w)).span = 4 := by
  rw [Transaction.span, ready.committing_images]
  rfl

/-- Where the ring puts the operation when it has contiguous room at the head. -/
theorem RingInv.single_allocation (smaller : 4 < area.ringEnd - area.ringStart)
    (fits : w.sbi.journalRingHead + 4 ≤ area.ringEnd)
    (order : w.sbi.journalRingTail ≤ w.sbi.journalRingHead) :
    journalV3RingAllocate (atCommit (singleWrite block content w)).sbi
      (atCommit (singleWrite block content w)).sbi.journalHomeBlocks.length = .ok
        ⟨⟨w.sbi.journalRingHead, w.sbi.journalRingHead + 1, 2, w.sbi.journalRingHead + 1 + 2⟩,
          SegmentRing.wrap area.ringStart area.ringEnd (w.sbi.journalRingHead + 4)⟩ := by
  have single := inv.single ready content
  have quiet := (ready.quiet content).trans single.mode.worked.toQuiet
  have same := quiet.area.trans inv.ready.sameArea
  have start : (atCommit (singleWrite block content w)).sbi.ringStart = area.ringStart := by
    rw [← same]
    rfl
  have stop : (atCommit (singleWrite block content w)).sbi.ringEnd = area.ringEnd := by
    rw [← same]
    rfl
  have placed := journalV3RingAllocate_head 2 (quiet.ring.trans inv.ring)
    (by rw [start, stop]; exact smaller) (by rw [quiet.head, stop]; exact fits)
    (Or.inl (by rw [quiet.head, quiet.tail]; exact order))
  rw [(ready.atCommit_homes content).1]
  rw [quiet.head, SbInfo.ringWrap_eq, same] at placed
  exact placed

/-- The operation finds its room when the ring is empty, or when the segment ends before the
ring does or wraps onto a block before the tail. -/
theorem RingInv.single_room (fits : w.sbi.journalRingHead + 4 ≤ area.ringEnd)
    (order : w.sbi.journalRingTail ≤ w.sbi.journalRingHead)
    (apart : w.sbi.journalRingHead = w.sbi.journalRingTail ∨
      w.sbi.journalRingHead + 4 < area.ringEnd ∨ area.ringStart < w.sbi.journalRingTail)
    (blank : (w.disk (w.sbi.journalRingHead + 1 + 2)).get ⟨0, 4⟩ ≠ JOURNAL_V3_MAGIC) :
    CommitRoom (singleWrite block content w) := by
  have quiet := ready.quiet content
  have same := inv.ready.sameArea
  have start : (singleWrite block content w).sbi.ringStart = area.ringStart := by
    rw [← same, ← quiet.area]
    rfl
  have stop : (singleWrite block content w).sbi.ringEnd = area.ringEnd := by
    rw [← same, ← quiet.area]
    rfl
  have span := ready.span content
  have length : (committing (singleWrite block content w)).images.length = 2 := by
    rw [ready.committing_images]
    rfl
  have position : ringPosition (singleWrite block content w).sbi
      (committing (singleWrite block content w)).span = w.sbi.journalRingHead := by
    rw [ringPosition, span, stop, quiet.head, if_neg (by omega)]
  constructor
  · rw [span, start, stop, quiet.head, quiet.tail]
    rcases apart with empty | room | behind
    · exact Or.inl empty
    all_goals
      right
      unfold SegmentRing.Room
      rw [if_neg (by omega)]
      omega
  · rw [position, length, quiet.disk]
    intro commit
    exact blank commit.1

end Single

end Cryexts
