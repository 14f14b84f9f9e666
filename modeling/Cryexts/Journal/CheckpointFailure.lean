import Cryexts.Journal.CheckpointStops
import Cryexts.Journal.RingSpace
import Cryexts.Journal.RingWalk

set_option autoImplicit false

namespace Cryexts

open WriteLog (store applyWrites)
open SegmentRing (Live Covers)

/-- The ring blocks between the tail and the head that the durable control block names. -/
@[irreducible] def ControlNames (w : World) (cell : Nat) : Prop :=
  Live w.sbi.ringStart w.sbi.ringEnd
    (JournalV3Control.ofBlock (w.disk w.sbi.journalBlock)).ringTail
    (JournalV3Control.ofBlock (w.disk w.sbi.journalBlock)).ringHead cell

/-- What a failed checkpoint step must leave: the mount's cursors enclose what the durable
control block names, so no commit is given any of it while they stand or the head moves on; and
from the media as it is, read afresh, a second step succeeds and so does the replay after a
crash. -/
structure CheckpointConsistent (w : World) : Prop where
  enclosed : ∀ cell, ControlNames w cell →
    Live w.sbi.ringStart w.sbi.ringEnd w.sbi.journalRingTail w.sbi.journalRingHead cell
  kept : ∀ (sbi : SbInfo) (entries : Nat) (allocation : JournalV3Allocation),
    sbi.area = w.sbi.area → sbi.journalRing = true →
    (∀ cell, Live w.sbi.ringStart w.sbi.ringEnd w.sbi.journalRingTail w.sbi.journalRingHead cell →
      Live w.sbi.ringStart w.sbi.ringEnd sbi.journalRingTail sbi.journalRingHead cell) →
    journalV3RingAllocate sbi entries = .ok allocation →
    ∀ cell, ControlNames w cell → ¬ Covers allocation.segment.stretch cell
  retried : ∀ uptodate : Nat → Bool,
    (∀ block, w.sbi.area.Inside block →
      ({ w with faults := [], uptodate := uptodate } : World).live block = w.disk block) →
    (journalV3CheckpointOne { w with faults := [], uptodate := uptodate }).1 = .ok ()
  replayed : ∃ recovered, journalV3ReplayRing (mounting w.disk w.size) = (.ok (), recovered)

/-- The ring's buffers hold `cells`, whatever the device holds. -/
def World.misread (w : World) (cells : Nat → Block) : World :=
  { w with cache := fun block =>
      if w.sbi.ringStart ≤ block ∧ block < w.sbi.ringEnd then cells block else w.cache block }

/-- No allocation at the cursors of a ring takes a block between them. -/
theorem journalV3RingAllocate_live {sbi : SbInfo} {entries : Nat}
    {allocation : JournalV3Allocation} (ring : sbi.journalRing = true)
    (success : journalV3RingAllocate sbi entries = .ok allocation) (cell : Nat)
    (live : Live sbi.ringStart sbi.ringEnd sbi.journalRingTail sbi.journalRingHead cell) :
    ¬ Covers allocation.segment.stretch cell := by
  rcases journalV3RingAllocate_cases sbi entries ring with
    ⟨refused, _⟩ | ⟨position, placed, small, choice⟩
  · rw [refused] at success
    cases success
  · rw [placed] at success
    injection success with same
    subst same
    rw [segmentAt_stretch]
    unfold Live at live
    unfold Covers
    dsimp only
    cases choice <;> split at live <;> omega

/-- The last step of a checkpoint, when it fails, leaves the control block on the device. -/
theorem journalV3SettleTail_error {w after : World} {err : Errno} (emptied : Bool)
    (lastSequence sequence : Nat) (segment : JournalV3Segment) (first : 0 < w.sbi.journalBlock)
    (idle : w.sbi.journalReplaying = false)
    (failed : journalV3SettleTail emptied lastSequence sequence segment w = (.error err, after)) :
    after.sbi = w.sbi ∧ after.disk w.sbi.journalBlock = w.disk w.sbi.journalBlock := by
  have unwritten : ∀ (v : World) (content : Block) (reason : Errno) (final : World),
      journalV3WriteSync v.sbi.journalBlock content v = (.error reason, final) →
      final.sbi = v.sbi ∧ final.disk v.sbi.journalBlock = v.disk v.sbi.journalBlock := by
    intro v content reason final failed
    rw [journalV3WriteSync_eq] at failed
    split at failed
    · injection failed with _ same
      subst same
      exact ⟨rfl, rfl⟩
    · split at failed
      · injection failed with _ same
        subst same
        exact ⟨rfl, rfl⟩
      · cases failed
  cases emptied with
  | false =>
      rw [journalV3SettleTail, if_neg Bool.false_ne_true, Routine.read_bind] at failed
      exact unwritten w _ _ _ failed
  | true =>
      rw [journalV3SettleTail, if_pos rfl, Routine.modify_bind,
        superSetRecoveryUnlogged_eq _ _ idle] at failed
      generalize recoveredSuper false (w.cache 0) w.sbi.nextIno w.sbi.nextDataBlock = super
        at failed
      have sync := syncSingleBlock_eq (w.dirtyBuffer 0 super) 0 (WriteLog.store_same w.dirty 0 true)
      split at sync
      · rw [Routine.bind_error _ _ _ _ _ sync] at failed
        injection failed with _ same
        subst same
        exact ⟨rfl, rfl⟩
      · split at sync
        · rw [Routine.bind_error _ _ _ _ _ sync] at failed
          injection failed with _ same
          subst same
          exact ⟨rfl, rfl⟩
        · rw [Routine.bind_ok _ _ _ _ _ sync, Routine.read_bind] at failed
          obtain ⟨sbi, disk⟩ := unwritten _ _ _ _ failed
          refine ⟨sbi, disk.trans ?_⟩
          change ((w.dirtyBuffer 0 super).stored 0 _).disk w.sbi.journalBlock = _
          rw [World.disk_stored, WriteLog.store_other _ _ _ _ (by omega)]
          rfl

/-- The tail has moved when that last step fails. -/
theorem checkpointSettle_error {w v after : World} {err : Errno} (first : 0 < v.sbi.journalBlock)
    (idle : v.sbi.journalReplaying = false)
    (failed : checkpointSettle w v = (.error err, after)) :
    after.sbi.area = v.sbi.area ∧ after.sbi.journalRingHead = v.sbi.journalRingHead ∧
      after.sbi.journalRingTail = w.sbi.ringWrap (w.tailHeader.commitBlock + 1) ∧
      after.disk v.sbi.journalBlock = v.disk v.sbi.journalBlock := by
  rw [checkpointSettle, Routine.modify_bind] at failed
  generalize movedIs : ({ v.sbi with
    journalRingTail := w.sbi.ringWrap (w.tailHeader.commitBlock + 1)
    journalTailSequence := w.tailHeader.sequence
    journalCheckpointSequence := w.tailHeader.sequence } : SbInfo) = moved at failed
  have block : moved.journalBlock = v.sbi.journalBlock := by rw [← movedIs]
  have still : moved.journalReplaying = false := by rw [← movedIs]; exact idle
  have places : moved.area = v.sbi.area := by rw [← movedIs, SbInfo.area, SbInfo.area]
  have head : moved.journalRingHead = v.sbi.journalRingHead := by rw [← movedIs]
  have tail : moved.journalRingTail = w.sbi.ringWrap (w.tailHeader.commitBlock + 1) := by
    rw [← movedIs]
  clear movedIs
  obtain ⟨sbi, disk⟩ := journalV3SettleTail_error _ _ _ _
    (show 0 < moved.journalBlock by rw [block]; exact first) still failed
  have same : after.sbi = moved := sbi
  have kept : after.disk moved.journalBlock = v.disk moved.journalBlock := disk
  rw [same, places, head, tail]
  rw [block] at kept
  exact ⟨rfl, rfl, rfl, kept⟩

/-- And it succeeds when nothing fails. -/
theorem journalV3SettleTail_succeeds (w : World) (emptied : Bool) (lastSequence sequence : Nat)
    (segment : JournalV3Segment) (idle : w.sbi.journalReplaying = false)
    (control : w.sbi.journalBlock < w.size) (sound : w.faults = []) :
    (journalV3SettleTail emptied lastSequence sequence segment w).1 = .ok () := by
  have written : ∀ (v : World) (content : Block), v.sbi.journalBlock < v.size → v.faults = [] →
      (journalV3WriteSync v.sbi.journalBlock content v).1 = .ok () := by
    intro v content inside sound
    rw [journalV3WriteSync_eq, sound]
    simp [Nat.not_le.mpr inside]
  cases emptied with
  | false =>
      rw [journalV3SettleTail, if_neg Bool.false_ne_true, Routine.read_bind]
      exact written w _ control sound
  | true =>
      rw [journalV3SettleTail, if_pos rfl, Routine.modify_bind, superSetRecoveryUnlogged_eq _ _ idle]
      generalize recoveredSuper false (w.cache 0) w.sbi.nextIno w.sbi.nextDataBlock = super
      have sync := syncSingleBlock_eq (w.dirtyBuffer 0 super) 0 (WriteLog.store_same w.dirty 0 true)
      have room : ¬ (w.dirtyBuffer 0 super).size ≤ 0 := by
        show ¬ w.size ≤ 0
        omega
      have quiet : ¬ (w.dirtyBuffer 0 super).faults.headD false = true := by
        show ¬ w.faults.headD false = true
        rw [sound]
        exact Bool.false_ne_true
      rw [if_neg room, if_neg quiet] at sync
      rw [Routine.bind_ok _ _ _ _ _ sync, Routine.read_bind]
      apply written
      · exact control
      · show w.faults.tail = []
        rw [sound]
        rfl

/-- What an early stop leaves on the device: the mark at most, and a first part of the images. -/
theorem EarlyStop.device {w after : World} (stop : EarlyStop w after) :
    after.sbi = w.sbi ∧ after.size = w.size ∧ (after.disk = w.disk ∨
      ∃ done rest, w.tailImages = done ++ rest ∧ (done ≠ [] → TailAccepted w) ∧
        after.disk = applyWrites (store w.disk w.sbi.journalBlock (checkpointMark w)) done) := by
  have disk : ∀ done, ((w.written w.sbi.journalBlock (checkpointMark w)).writtenAll done).disk =
      applyWrites (store w.disk w.sbi.journalBlock (checkpointMark w)) done := by
    intro done
    have marked : (w.written w.sbi.journalBlock (checkpointMark w)).disk =
        store w.disk w.sbi.journalBlock (checkpointMark w) :=
      w.writtenAll_disk [(w.sbi.journalBlock, checkpointMark w)]
    rw [World.writtenAll_disk, marked]
  cases stop with
  | untouched faults => exact ⟨rfl, rfl, Or.inl rfl⟩
  | unmarked faults => exact ⟨rfl, rfl, Or.inl rfl⟩
  | partly done rest faults accepted parts =>
      refine ⟨World.writtenAll_sbi _ _, World.writtenAll_size _ _, Or.inr ⟨done, rest, parts,
        accepted, disk done⟩⟩
  | lost done image rest faults accepted parts =>
      refine ⟨World.writtenAll_sbi _ _, World.writtenAll_size _ _, Or.inr ⟨done, image :: rest,
        parts, fun _ => accepted, disk done⟩⟩

/-- The superblock buffer behind an early stop: unchanged, or an image of the segment. -/
theorem EarlyStop.super {w after : World} (stop : EarlyStop w after)
    (first : 0 < w.sbi.journalBlock) :
    after.cache 0 = w.cache 0 ∨ (TailAccepted w ∧ (0, after.cache 0) ∈ w.tailImages) := by
  have away : w.sbi.journalBlock ≠ 0 := by omega
  have written : ∀ done, ((w.written w.sbi.journalBlock (checkpointMark w)).writtenAll done).cache 0
      = w.cache 0 ∨ done ≠ [] ∧ (0, ((w.written w.sbi.journalBlock
        (checkpointMark w)).writtenAll done).cache 0) ∈ done := by
    intro done
    rw [World.writtenAll_cache]
    rcases WriteLog.applyWrites_mem_or_other
      (w.written w.sbi.journalBlock (checkpointMark w)).cache done 0 with same | member
    · left
      rw [same]
      exact WriteLog.store_other _ _ _ _ away.symm
    · exact Or.inr ⟨List.ne_nil_of_mem member, member⟩
  cases stop with
  | untouched faults => exact Or.inl rfl
  | unmarked faults => exact Or.inl (WriteLog.store_other _ _ _ _ away.symm)
  | partly done rest faults accepted parts =>
      rcases written done with same | ⟨some, member⟩
      · exact Or.inl same
      · refine Or.inr ⟨accepted some, ?_⟩
        rw [parts]
        exact List.mem_append_left _ member
  | lost done image rest faults accepted parts =>
      change store _ image.1 image.2 0 = _ ∨ _ ∧ (0, store _ image.1 image.2 0) ∈ _
      by_cases here : image.1 = 0
      · right
        rw [here, WriteLog.store_same, parts]
        refine ⟨accepted, ?_⟩
        rw [← here]
        simp
      · rw [WriteLog.store_other _ _ _ _ (Ne.symm here)]
        rcases written done with same | ⟨some, member⟩
        · exact Or.inl same
        · refine Or.inr ⟨accepted, ?_⟩
          rw [parts]
          exact List.mem_append_left _ member

/-- Where its blocks are on the device and nothing fails, a checkpoint step of an accepted
segment succeeds. -/
theorem checkpoint_succeeds {w : World} (placed : TailPlaced w) (accepted : TailAccepted w) :
    (journalV3CheckpointOne { w with faults := [] }).1 = .ok () := by
  obtain ⟨middle, moved, leads⟩ := journalV3CheckpointOne_leads w placed accepted
  rw [leads.run]
  have room : ∀ index, index ∈ List.range w.tailHeader.entryCount →
      w.tailHeader.payloadStart + index < middle.size ∧
        (JournalV3Entry.ofBlock w.tailBuf index).homeBlock < middle.size := by
    intro index member
    rw [moved.size]
    exact ⟨(placed.cells accepted.opened index member).2.2.1,
      (placed.home accepted _ (List.mem_map_of_mem member)).1⟩
  obtain ⟨after, homes⟩ := writeHome_succeeds w.tailBuf w.tailHeader.payloadStart _ middle room
  have partly := writeHome_partly w.tailBuf w.tailHeader.payloadStart
    (List.range w.tailHeader.entryCount) { middle with faults := [] } (placed.apart accepted)
  rw [homes.run] at partly
  obtain ⟨_, _, _, partly, _⟩ := partly
  rw [checkpointHome, Routine.bind_ok _ _ _ _ _ homes.run, checkpointSettle, Routine.modify_bind]
  have size : after.size = w.size := partly.size.trans moved.size
  have sbi : after.sbi = w.sbi := partly.sbi.trans moved.sbi
  have low := placed.low
  have high := placed.high
  have room := placed.journal
  have control : after.sbi.journalBlock < after.size := by
    rw [sbi, size]
    unfold SbInfo.ringStart at low
    omega
  apply journalV3SettleTail_succeeds
  · show after.sbi.journalReplaying = false
    rw [sbi]
    exact placed.idle
  · exact control
  · rfl

theorem World.misread_eq {w : World} {cells : Nat → Block}
    (same : (w.misread cells).cache = w.cache) : w.misread cells = w := by
  have whole : w.misread cells = { w with cache := (w.misread cells).cache } := rfl
  rw [whole, same]

theorem World.misread_self (w : World) : w.misread w.cache = w := by
  apply World.misread_eq
  funext block
  simp [World.misread]

/-- Where the checks pass nothing was misread. -/
theorem World.read_well {w : World} {cells : Nat → Block}
    (detected : (w.misread cells).cache = w.cache ∨ ¬ TailAccepted (w.misread cells))
    (accepted : TailAccepted (w.misread cells)) : w.misread cells = w :=
  World.misread_eq (detected.resolve_right (fun no => no accepted))

section Failure

variable {w : World} {area : JournalArea} {count : Nat} {t : Transaction}
variable {ts : List Transaction} {home : Nat → Block} (inv : RingInv w area count (t :: ts) home)
variable (cells : Nat → Block)
include inv

theorem RingInv.ringStart_eq : w.sbi.ringStart = area.ringStart := by
  rw [← inv.ready.sameArea]
  rfl

theorem RingInv.ringEnd_eq : w.sbi.ringEnd = area.ringEnd := by
  rw [← inv.ready.sameArea]
  rfl

theorem RingInv.control_at : w.sbi.journalBlock = area.first := by
  rw [← inv.ready.sameArea]
  rfl

/-- The mark of a step over misread buffers names the mount's cursors all the same. -/
theorem RingInv.mark_control : RingControl area (checkpointMark (w.misread cells))
    JOURNAL_V3_STATE_CHECKPOINTING w.sbi.journalLastSequence 0 w.sbi.journalCheckpointSequence
    w.sbi.journalRingHead w.sbi.journalRingTail := by
  have start := inv.ringStart_eq
  have stop := inv.ringEnd_eq
  have tailLow := inv.tailLow
  have tailHigh := inv.tailHigh
  have headLow := inv.headLow
  have headHigh := inv.headHigh
  have limit := inv.limit
  have same := inv.ready.sameArea
  subst same
  have blocks : w.sbi.journalBlock + w.sbi.journalBlocks < 2 ^ 64 := limit
  have stop' : w.sbi.area.ringEnd = w.sbi.journalBlock + w.sbi.journalBlocks := rfl
  refine RingControl.prepared w.sbi inv.ring ?_ ⟨headLow, tailLow⟩
    (fun idle => absurd idle (by decide))
  constructor
  case state => decide
  case last => exact inv.control.last_lt
  case active => decide
  case checkpoint => exact inv.control.checkpoint_lt
  case places =>
    refine ⟨?_, ByteBuf.get_lt _ ⟨32, 8⟩, ByteBuf.get_lt _ ⟨40, 8⟩⟩
    show w.sbi.journalRingTail < 2 ^ 64
    omega
  case blocks =>
    exact lt_trans (ByteBuf.get_lt (w.misread cells).tailBuf ⟨12, 4⟩) (by decide)
  case limit => exact blocks
  case ring => exact fun _ => ⟨headHigh, tailHigh, lt_of_le_of_lt headLow headHigh⟩

variable {cells} {after : World} (stop : EarlyStop (w.misread cells) after)
variable (detected : (w.misread cells).cache = w.cache ∨ ¬ TailAccepted (w.misread cells))
include stop detected

/-- The device behind an early stop. -/
theorem RingInv.early_device : after.disk = w.disk ∨ ∃ taken, after.disk =
    applyWrites (store w.disk area.first (checkpointMark (w.misread cells)))
      (t.images.take taken) := by
  obtain ⟨_, _, unchanged | ⟨done, rest, parts, accepted, disk⟩⟩ := stop.device
  · exact Or.inl unchanged
  · right
    have first := inv.control_at
    by_cases none : done = []
    · refine ⟨0, ?_⟩
      rw [disk, none, ← first]
      rfl
    · have well := World.read_well detected (accepted none)
      rw [well, inv.tailHolds.images] at parts
      refine ⟨done.length, ?_⟩
      rw [disk, parts, List.take_left, ← first]
      rfl

theorem RingInv.early_cells (block : Nat) (low : area.ringStart ≤ block)
    (high : block < area.ringEnd) : after.disk block = w.disk block := by
  rcases inv.early_device stop detected with same | ⟨taken, same⟩
  · rw [same]
  · have valid := inv.held.valid t List.mem_cons_self
    have outside : OutsideJournal area (t.images.take taken) :=
      fun write member => valid.outside write (List.mem_of_mem_take member)
    rw [same, outside.cell _ _ (by
      simp only [JournalArea.Inside, JournalArea.ringStart, JournalArea.ringEnd] at *
      omega)]
    apply WriteLog.store_other
    simp only [JournalArea.ringStart] at low
    omega

/-- The durable control block names the mount's cursors. -/
theorem RingInv.early_control : ∃ state last active checkpoint, RingControl area
    (after.disk area.first) state last active checkpoint w.sbi.journalRingHead
    w.sbi.journalRingTail := by
  rcases inv.early_device stop detected with same | ⟨taken, same⟩
  · rw [same]
    exact ⟨_, _, _, _, inv.control⟩
  · have valid := inv.held.valid t List.mem_cons_self
    have outside : OutsideJournal area (t.images.take taken) :=
      fun write member => valid.outside write (List.mem_of_mem_take member)
    have long := inv.long
    have written : after.disk area.first = checkpointMark (w.misread cells) := by
      rw [same, outside.cell _ _ (by
        simp only [JournalArea.Inside]
        omega), WriteLog.store_same]
    rw [written]
    exact ⟨_, _, _, _, inv.mark_control cells⟩

/-- The superblock buffer and the superblock on the device still describe the mount. -/
theorem RingInv.early_super : Describes (after.cache 0) w.sbi count ∧
    Describes (after.disk 0) w.sbi count := by
  have first := inv.ready.sameArea ▸ inv.mode.first
  have start := inv.ringStart_eq
  constructor
  · rcases stop.super inv.mode.first with same | ⟨accepted, member⟩
    · have outside : ¬ (w.sbi.ringStart ≤ 0 ∧ 0 < w.sbi.ringEnd) := by
        rw [start, JournalArea.ringStart]
        omega
      have kept : (w.misread cells).cache 0 = w.cache 0 := by
        simp only [World.misread, outside, ↓reduceIte]
      rw [same, kept]
      exact inv.describes
    · rw [World.read_well detected accepted, inv.tailHolds.images] at member
      exact inv.images (0, after.cache 0) (List.mem_append_left _ member) rfl
  · rcases inv.early_device stop detected with same | ⟨taken, same⟩
    · rw [same]
      exact inv.device
    · rw [same]
      rcases WriteLog.applyWrites_mem_or_other
        (store w.disk area.first (checkpointMark (w.misread cells))) (t.images.take taken) 0
        with other | member
      · rw [other, WriteLog.store_other _ _ _ _ (by omega)]
        exact inv.device
      · exact inv.images (0, _) (List.mem_append_left _ (List.mem_of_mem_take member)) rfl

/-- A replay of the device behind an early stop succeeds. -/
theorem RingInv.early_replayed :
    ∃ recovered, journalV3ReplayRing (mounting after.disk w.size) = (.ok (), recovered) := by
  have mount := ringMount_of_describes inv (inv.early_super stop detected).2
  have image : RingImage area count after.disk home := by
    rcases inv.early_device stop detected with same | ⟨taken, same⟩
    · rw [same]
      exact inv.image w.disk rfl inv.held inv.same
    · rw [same]
      exact inv.checkpointStart.partial_image (inv.mark_control cells) (by decide) taken
  obtain ⟨recovered, replayed, _⟩ := replayRing_recovers mount home image
  exact ⟨recovered, replayed⟩

/-- A second step from the media as it is succeeds. -/
theorem RingInv.early_retried (uptodate : Nat → Bool)
    (fresh : ∀ block, area.Inside block →
      ({ after with faults := [], uptodate := uptodate } : World).live block = after.disk block) :
    (journalV3CheckpointOne { after with faults := [], uptodate := uptodate }).1 = .ok () := by
  obtain ⟨sbi, size, _⟩ := stop.device
  have same : after.sbi = w.sbi := sbi
  have size' : after.size = w.size := size
  have holds := inv.tailHolds
  have placed := inv.tailPlaced
  have start := inv.ringStart_eq
  have stops := inv.ringEnd_eq
  generalize vIs : ({ after with faults := [], uptodate := uptodate } : World) = v at *
  have sbi' : v.sbi = w.sbi := by rw [← vIs, ← same]
  have room : v.size = w.size := by rw [← vIs, ← size']
  have counted : blocksCount v = count := by
    rw [← vIs]
    exact (inv.early_super stop detected).1.blocksCount
  have held : TailHolds v count t := by
    constructor
    case ring => rw [sbi']; exact holds.ring
    case sameCount => exact counted
    case apart => rw [sbi']; exact holds.apart
    case fits => rw [sbi']; exact holds.fits
    case valid => rw [sbi']; exact holds.valid
    case limit => rw [sbi']; exact holds.limit
    case counted => exact holds.counted
    case committed =>
      rw [sbi']
      apply inv.held.on.1.congr
      intro block lower upper
      have low := inv.tailLow
      have fits := holds.fits
      rw [stops] at fits
      rw [fresh block (by
        simp only [JournalArea.Inside, JournalArea.ringStart, JournalArea.ringEnd] at *
        omega)]
      exact inv.early_cells stop detected block (by omega) (by omega)
    case later => rw [sbi']; exact holds.later
  have accepted := held.accepted
  have place : TailPlaced v := by
    constructor
    case first => rw [sbi']; exact placed.first
    case idle => rw [sbi']; exact placed.idle
    case journal => rw [sbi', room]; exact placed.journal
    case homes => rw [counted, room]; exact inv.ready.homes
    case low => rw [sbi']; exact placed.low
    case high => rw [sbi']; exact placed.high
    case inside =>
      intro _
      have fits := held.fits
      rw [held.commitBlock]
      unfold Transaction.span at fits
      omega
    case distinct =>
      intro _
      rw [held.images]
      exact held.valid.distinct
    case super =>
      intro _
      rw [held.images]
      exact inv.supers t List.mem_cons_self
  have done := checkpoint_succeeds place accepted
  rw [← vIs] at done ⊢
  exact done

/-- Behind an early stop the durable control block names the blocks between the cursors. -/
theorem RingInv.early_names (cell : Nat) : ControlNames after cell ↔
    Live w.sbi.ringStart w.sbi.ringEnd w.sbi.journalRingTail w.sbi.journalRingHead cell := by
  obtain ⟨sbi, _, _⟩ := stop.device
  have same : after.sbi = w.sbi := sbi
  obtain ⟨_, _, _, _, control⟩ := inv.early_control stop detected
  unfold ControlNames
  rw [same, inv.control_at, control.headIs, control.tailIs]

/-- An early stop leaves everything consistent. -/
theorem RingInv.early_consistent : CheckpointConsistent after := by
  have named := inv.early_names stop detected
  obtain ⟨sbi, size, _⟩ := stop.device
  have same : after.sbi = w.sbi := sbi
  have size' : after.size = w.size := size
  constructor
  case enclosed =>
    intro cell names
    rw [same]
    exact (named cell).mp names
  case kept =>
    intro other entries allocation area ring wider success cell names
    have start : other.ringStart = after.sbi.ringStart := congrArg JournalArea.ringStart area
    have stop : other.ringEnd = after.sbi.ringEnd := congrArg JournalArea.ringEnd area
    apply journalV3RingAllocate_live ring success
    rw [start, stop]
    apply wider
    rw [same]
    exact (named cell).mp names
  case retried =>
    intro uptodate fresh
    apply inv.early_retried stop detected
    rw [same, inv.ready.sameArea] at fresh
    exact fresh
  case replayed =>
    rw [size']
    exact inv.early_replayed stop detected

omit stop detected in
/-- A failure behind the move of the tail leaves the segment at the old tail to the next commit,
while the durable control block still names it. -/
theorem RingInv.late_open {faults : List Bool} {err : Errno}
    (failed : checkpointSettle w (((w.written w.sbi.journalBlock (checkpointMark w)).writtenAll
      w.tailImages).failing faults) = (.error err, after)) : ¬ CheckpointConsistent after := by
  have holds := inv.tailHolds
  have chain := inv.chain
  rw [spans_cons] at chain
  have first := inv.control_at
  have start := inv.ringStart_eq
  have stops := inv.ringEnd_eq
  have valid := inv.held.valid t List.mem_cons_self
  have outside : OutsideJournal area t.images := fun write member => valid.outside write member
  have long := inv.long
  have mark := inv.mark_control w.cache
  rw [World.misread_self] at mark
  -- The world the last part of the step begins in.
  generalize beginIs : ((w.written w.sbi.journalBlock (checkpointMark w)).writtenAll
    w.tailImages).failing faults = v at failed
  have sbi : v.sbi = w.sbi := by
    rw [← beginIs]
    exact World.writtenAll_sbi _ _
  have marked : (w.written w.sbi.journalBlock (checkpointMark w)).disk =
      store w.disk w.sbi.journalBlock (checkpointMark w) :=
    w.writtenAll_disk [(w.sbi.journalBlock, checkpointMark w)]
  have control : v.disk area.first = checkpointMark w := by
    rw [← beginIs, World.failing_disk, World.writtenAll_disk, marked, holds.images,
      outside.cell _ _ (by
        simp only [JournalArea.Inside]
        omega), ← first]
    exact WriteLog.store_same w.disk w.sbi.journalBlock (checkpointMark w)
  have block : 0 < v.sbi.journalBlock := by
    rw [sbi]
    exact inv.mode.first
  have idle : v.sbi.journalReplaying = false := by
    rw [sbi]
    exact inv.mode.live
  obtain ⟨area', head, next, disk⟩ := checkpointSettle_error block idle failed
  rw [sbi] at area' head disk
  rw [first, control] at disk
  have tail : after.sbi.journalRingTail =
      SegmentRing.wrap area.ringStart area.ringEnd (w.sbi.journalRingTail + t.span) := by
    rw [next, holds.commitBlock, SbInfo.ringWrap_eq, inv.ready.sameArea]
    congr 1
    unfold Transaction.span
    omega
  have same : after.sbi.journalBlock = area.first := by
    rw [← first]
    exact congrArg JournalArea.first area'
  have start' : after.sbi.ringStart = area.ringStart := by
    rw [← start]
    exact congrArg JournalArea.ringStart area'
  have stop' : after.sbi.ringEnd = area.ringEnd := by
    rw [← stops]
    exact congrArg JournalArea.ringEnd area'
  have low := chain.1
  have live := SegmentRing.Chain.first_live chain inv.headLow inv.headHigh w.sbi.journalRingTail
  intro consistent
  have enclosed := consistent.enclosed w.sbi.journalRingTail
  unfold ControlNames at enclosed
  rw [same, start', stop', disk, mark.headIs, mark.tailIs, head, tail] at enclosed
  have inside := live.1 (Nat.le_refl _) (by omega)
  exact (live.2 (enclosed inside)).2 ⟨Nat.le_refl _, by omega⟩

end Failure

theorem RingInv.stepStops {w : World} {area : JournalArea} {count : Nat} {t : Transaction}
    {ts : List Transaction} {home : Nat → Block} (inv : RingInv w area count (t :: ts) home)
    {cells : Nat → Block} (faults : List Bool)
    (detected : (w.misread cells).cache = w.cache ∨ ¬ TailAccepted (w.misread cells)) :
    StopsEarly ((w.misread cells).failing faults)
      (journalV3CheckpointOne ((w.misread cells).failing faults)) := by
  have placed : TailAccepted ((w.misread cells).failing faults) →
      TailPlaced ((w.misread cells).failing faults) := by
    intro accepted
    rw [World.read_well detected accepted.of_faults]
    exact inv.tailPlaced.faults faults
  have control : w.sbi.journalBlock < w.size := by
    have room := inv.ready.journal
    have long := inv.long
    rw [inv.control_at]
    omega
  exact journalV3CheckpointOne_stops ((w.misread cells).failing faults) inv.ready.healthy.current
    inv.ring inv.chain.tail_ne inv.mode.first inv.tailPlaced.low placed control

theorem EarlyStop.of_failing {w after : World} {faults : List Bool}
    (stop : EarlyStop (w.failing faults) after) : EarlyStop w after := by
  cases stop with
  | untouched later => exact EarlyStop.untouched later
  | unmarked later => exact EarlyStop.unmarked later
  | partly done rest later accepted parts =>
      have early := EarlyStop.partly done rest later (fun some => (accepted some).of_faults) parts
      simpa using early
  | lost done image rest later accepted parts =>
      have early := EarlyStop.lost done image rest later accepted.of_faults parts
      simpa using early

/-- In every run whose commits find their room, a failed checkpoint step leaves the cursors and
the control block consistent exactly where a check refused the segment at the tail or the
failure fell before the tail moved. -/
theorem ringRun_checkpoint_consistent {first w : World} {area : JournalArea} {count : Nat}
    {history : List (Transaction × Nat)} (mounted : RingMounted first area count)
    (run : RingRun RingRoom count first w history) (cells : Nat → Block) (faults : List Bool)
    (detected : (w.misread cells).cache = w.cache ∨ ¬ TailAccepted (w.misread cells))
    {err : Errno} {after : World}
    (failed : journalV3CheckpointOne ((w.misread cells).failing faults) = (.error err, after)) :
    CheckpointConsistent after ↔
      (TailAccepted (w.misread cells) → Faulty faults 0 (checkpointCalls (w.misread cells))) := by
  obtain ⟨_, pending, walk⟩ := run.walkInv mounted
  obtain ⟨home, inv⟩ := walk.ring
  cases pending with
  | nil =>
      have meet : ((w.misread cells).failing faults).sbi.journalRingTail =
          ((w.misread cells).failing faults).sbi.journalRingHead := inv.chain
      rw [journalV3CheckpointOne_empty _ meet] at failed
      cases failed
  | cons t ts =>
      have stops := inv.stepStops faults detected
      rw [failed] at stops
      rcases stops with ⟨reason, final, same, stop, fails⟩ | ⟨accepted, quiet, settles⟩
      · injection same with _ final
        subst final
        have consistent := inv.early_consistent stop.of_failing detected
        constructor
        · intro _ accepted
          exact fails (accepted.faults faults)
        · intro _
          exact consistent
      · have known := accepted.of_faults
        rw [World.read_well detected known] at settles
        simp only [checkpointSettle_failing, checkpointMark_failing, World.tailImages_failing,
          World.failing_written, World.failing_writtenAll, World.failing_failing,
          World.failing_sbi] at settles
        have late := inv.late_open settles.symm
        constructor
        · intro consistent
          exact absurd consistent late
        · intro early
          exact absurd (early known) quiet

/-- The theorem behind one checkpoint, with two transactions pending, where the last of the home
writes fails. -/
theorem ringRun_checkpoint_consistent_small :
    ∃ (w : World) (history : List (Transaction × Nat)) (err : Errno) (after : World),
    RingRun RingRoom 4118 wideMount w history ∧ history.length = 3 ∧
      w.sbi.journalRingTail = 4107 ∧ w.sbi.journalRingHead = 4115 ∧
      journalV3CheckpointOne (w.failing (List.replicate (checkpointCalls w - 1) false ++ [true])) =
        (.error err, after) ∧
      CheckpointConsistent after := by
  obtain ⟨first, early, _, one⟩ :=
    wideMount_run.commit 9 sampleContent (by decide) (by decide) (by decide)
  obtain ⟨second, middle, _, two⟩ :=
    (one.checkpoint (by decide)).commit 4 sampleContent (by decide) (by decide) (by decide)
  obtain ⟨w, late, _, three⟩ := two.commit 5 sampleContent (by decide) (by decide) (by decide)
  obtain ⟨home, inv⟩ := three.inv
  have run := three.run.mono fun _ meets => CommitRoom.room meets
  have detected : (w.misread w.cache).cache = w.cache := by rw [World.misread_self]
  have faulty : Faulty (List.replicate (checkpointCalls w - 1) false ++ [true]) 0
      (checkpointCalls w) := by
    have calls : 0 < checkpointCalls w := by
      unfold checkpointCalls
      omega
    refine ⟨checkpointCalls w - 1, Nat.zero_le _, by omega, ?_⟩
    rw [List.getD_eq_getElem?_getD, List.getElem?_append_right (by simp)]
    simp
  rcases inv.stepStops (List.replicate (checkpointCalls w - 1) false ++ [true])
    (Or.inl detected) with ⟨err, after, failed, _, _⟩ | ⟨_, quiet, _⟩
  · have fails := failed
    rw [World.misread_self] at fails
    refine ⟨w, _, err, after, run, rfl, three.tailAt, three.headAt, fails, ?_⟩
    apply (ringRun_checkpoint_consistent wideMount_mounted run w.cache _ (Or.inl detected)
      failed).mpr
    intro _
    rw [World.misread_self]
    exact faulty
  · rw [World.misread_self] at quiet
    exact absurd faulty quiet

theorem Faulty.replicate_append (calls : Nat) (later : List Bool) :
    ¬ Faulty (List.replicate calls false ++ later) 0 calls := by
  rintro ⟨call, _, small, fails⟩
  rw [List.getD_eq_getElem?_getD, List.getElem?_append_left (by simpa using small),
    List.getElem?_replicate_of_lt small] at fails
  exact absurd fails (by decide)

/-- The last step of a checkpoint fails when its first call does. -/
theorem journalV3SettleTail_fails {w : World} (emptied : Bool) (lastSequence sequence : Nat)
    (segment : JournalV3Segment) (idle : w.sbi.journalReplaying = false) (faults : List Bool)
    (faulty : w.faults = true :: faults) : ∃ after,
    journalV3SettleTail emptied lastSequence sequence segment w = (.error .eio, after) := by
  cases emptied with
  | false =>
      rw [journalV3SettleTail, if_neg Bool.false_ne_true, Routine.read_bind,
        journalV3WriteSync_eq, faulty]
      exact ⟨_, rfl⟩
  | true =>
      rw [journalV3SettleTail, if_pos rfl, Routine.modify_bind,
        superSetRecoveryUnlogged_eq _ _ idle]
      generalize recoveredSuper false (w.cache 0) w.sbi.nextIno w.sbi.nextDataBlock = super
      have sync := syncSingleBlock_eq (w.dirtyBuffer 0 super) 0 (WriteLog.store_same w.dirty 0 true)
      have lost : (w.dirtyBuffer 0 super).faults.headD false = true := by
        show w.faults.headD false = true
        rw [faulty]
        rfl
      rw [if_pos lost] at sync
      split at sync
      · exact ⟨_, Routine.bind_error _ _ _ _ _ sync⟩
      · exact ⟨_, Routine.bind_error _ _ _ _ _ sync⟩

theorem checkpointSettle_fails (w v : World) (idle : v.sbi.journalReplaying = false)
    (faults : List Bool) (faulty : v.faults = true :: faults) :
    ∃ after, checkpointSettle w v = (.error .eio, after) := by
  rw [checkpointSettle, Routine.modify_bind]
  exact journalV3SettleTail_fails _ _ _ _ idle faults faulty

/-- With one pending transaction the superblock's write fails: the step has moved the tail, and
the control block on the device still names the segment behind it. -/
theorem journalV3CheckpointOne_late_inconsistent :
    ∃ (w : World) (history : List (Transaction × Nat)) (err : Errno) (after : World),
    RingRun RingRoom 4111 smallMount w history ∧
      journalV3CheckpointOne (w.failing (List.replicate (checkpointCalls w) false ++ [true])) =
        (.error err, after) ∧ ¬ CheckpointConsistent after := by
  obtain ⟨w, history, home, narrow, _, inv, _⟩ := smallMount_pending 8 (by decide)
  have run := narrow.mono fun _ meets => CommitRoom.room meets
  have detected : (w.misread w.cache).cache = w.cache := by rw [World.misread_self]
  have stops := inv.stepStops (List.replicate (checkpointCalls w) false ++ [true])
    (Or.inl detected)
  rw [World.misread_self] at stops
  have accepted := inv.tailHolds.accepted
  rcases stops with ⟨_, _, _, _, fails⟩ | ⟨_, _, settles⟩
  · exact absurd (fails (accepted.faults _)) (Faulty.replicate_append _ _)
  · simp only [checkpointSettle_failing, checkpointMark_failing, World.tailImages_failing,
      World.failing_written, World.failing_writtenAll, World.failing_failing,
      World.failing_sbi, World.failing_faults] at settles
    have rest : (List.replicate (checkpointCalls w) false ++ [true]).drop
        (checkpointCalls (w.failing (List.replicate (checkpointCalls w) false ++ [true]))) =
          [true] := by
      show List.drop (checkpointCalls w) _ = _
      simp
    obtain ⟨after, fails⟩ := checkpointSettle_fails w
      (((w.written w.sbi.journalBlock (checkpointMark w)).writtenAll w.tailImages).failing _)
      (by rw [World.failing_sbi, World.writtenAll_sbi]; exact inv.mode.live) [] rest
    rw [fails] at settles
    exact ⟨w, history, .eio, after, run, settles, inv.late_open fails⟩

end Cryexts
