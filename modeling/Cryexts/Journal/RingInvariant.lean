import Cryexts.Journal.RingStep
import Cryexts.Mount

set_option autoImplicit false

namespace Cryexts

open WriteLog (store applyWrites)

/-- A live mount over a ring journal: `pending` are the committed transactions not yet
home, `home` the home content the device owes. -/
structure RingInv (w : World) (area : JournalArea) (count : Nat) (pending : List Transaction)
    (home : Nat → Block) : Prop where
  mode : JournalMode w
  ring : w.sbi.journalRing = true
  ready : Ready w area count
  long : 4 ≤ area.blocks
  limit : area.first + area.blocks < 2 ^ 64
  describes : Describes (w.cache 0) w.sbi count
  device : Describes (w.disk 0) w.sbi count
  images : ∀ image, image ∈ imagesOf pending → image.1 = 0 → Describes image.2 w.sbi count
  records : RecordSet w.sbi count
  journal : ∀ block, area.Inside block → w.cache block = w.disk block
  held : Pending area count w.disk w.sbi.journalCheckpointSequence w.sbi.journalRingTail pending
  chain : SegmentRing.Chain area.ringStart area.ringEnd w.sbi.journalRingTail (spans pending)
    w.sbi.journalRingHead
  headLow : area.ringStart ≤ w.sbi.journalRingHead
  headHigh : w.sbi.journalRingHead < area.ringEnd
  tailLow : area.ringStart ≤ w.sbi.journalRingTail
  tailHigh : w.sbi.journalRingTail < area.ringEnd
  last : w.sbi.journalLastSequence = lastSequenceOf w.sbi.journalCheckpointSequence pending
  sequence : w.sbi.journalSequence = w.sbi.journalLastSequence
  opened : w.sbi.journalActiveSequence = 0 ∨
    w.sbi.journalActiveSequence = w.sbi.journalSequence + 1
  small : w.sbi.journalActiveSequence < 2 ^ 64
  control : RingControl area (w.disk area.first)
    (if pending = [] then JOURNAL_V3_STATE_IDLE else JOURNAL_V3_STATE_COMMITTED)
    w.sbi.journalLastSequence 0 w.sbi.journalCheckpointSequence w.sbi.journalRingHead
    w.sbi.journalRingTail
  supers : ∀ t, t ∈ pending → 0 ∈ t.homes
  same : SameHome area (applyWrites w.disk (imagesOf pending)) home

/-- The device of a live mount is one recovery knows. -/
theorem RingInv.image {w : World} {area : JournalArea} {count : Nat} {pending : List Transaction}
    {home expected : Nat → Block} (inv : RingInv w area count pending home) (after : Nat → Block)
    (control : after area.first = w.disk area.first)
    (held : Pending area count after w.sbi.journalCheckpointSequence w.sbi.journalRingTail pending)
    (same : SameHome area (applyWrites after (imagesOf pending)) expected) :
    RingImage area count after expected := by
  have here := inv.control
  rw [← control] at here
  cases pending with
  | nil =>
      have meet : w.sbi.journalRingTail = w.sbi.journalRingHead := inv.chain
      have last : w.sbi.journalLastSequence = w.sbi.journalCheckpointSequence := inv.last
      rw [if_pos rfl, meet, ← last] at here
      exact RingImage.idle _ _ here same
  | cons t ts =>
      rw [if_neg (by simp)] at here
      exact RingImage.live _ _ _ _ _ _ _ here (by decide) held inv.chain same

/-- Quiet work keeps the ring as it is. -/
theorem RingInv.quiet {w after : World} {area : JournalArea} {count : Nat}
    {pending : List Transaction} {home : Nat → Block}
    (inv : RingInv w area count pending home) (quiet : Quiet w after)
    (describes : Describes (after.cache 0) w.sbi count) (records : RecordSet after.sbi count)
    (opened : after.sbi.journalActiveSequence = 0 ∨
      after.sbi.journalActiveSequence = w.sbi.journalSequence + 1)
    (small : after.sbi.journalActiveSequence < 2 ^ 64) :
    RingInv after area count pending home := by
  have disk := quiet.disk
  have area' : after.sbi.area = area := quiet.area.trans inv.ready.sameArea
  have inside : ∀ block, area.Inside block → w.sbi.area.Inside block := by
    rw [inv.ready.sameArea]
    exact fun _ member => member
  constructor
  case mode => exact inv.mode.of_same (quiet.healthy inv.mode.healthy) quiet.mount quiet.size
  case ring => exact quiet.ring.trans inv.ring
  case ready =>
    refine ⟨quiet.healthy inv.ready.healthy, area', describes.blocksCount, ?_, ?_, ?_⟩ <;>
      rw [quiet.size]
    · exact inv.ready.journal
    · exact inv.ready.homes
    · exact inv.ready.bounded
  case long => exact inv.long
  case limit => exact inv.limit
  case describes => exact quiet.describes describes
  case device =>
    rw [disk]
    exact quiet.describes inv.device
  case images =>
    intro image member zero
    exact quiet.describes (inv.images image member zero)
  case records => exact records
  case journal =>
    intro block member
    rw [quiet.journal block (inside block member), disk, inv.journal block member]
  case held =>
    rw [disk, quiet.checkpoint, quiet.tail]
    exact inv.held
  case chain =>
    rw [quiet.head, quiet.tail]
    exact inv.chain
  case headLow => rw [quiet.head]; exact inv.headLow
  case headHigh => rw [quiet.head]; exact inv.headHigh
  case tailLow => rw [quiet.tail]; exact inv.tailLow
  case tailHigh => rw [quiet.tail]; exact inv.tailHigh
  case last => rw [quiet.last, quiet.checkpoint, inv.last]
  case sequence => rw [quiet.sequence, quiet.last, inv.sequence]
  case opened => rw [quiet.sequence]; exact opened
  case small => exact small
  case control =>
    rw [disk, quiet.last, quiet.checkpoint, quiet.head, quiet.tail]
    exact inv.control
  case supers => exact inv.supers
  case same =>
    rw [disk]
    exact inv.same

theorem RingControl.checkpoint_lt {area : JournalArea} {buf : Block}
    {state last active checkpoint head tail : Nat}
    (control : RingControl area buf state last active checkpoint head tail) :
    checkpoint < 2 ^ 64 := by
  rw [← control.checkpointIs]
  exact ByteBuf.get_lt buf ⟨40, 8⟩

/-- The control block a mount writes over a segment of its ring. -/
theorem ringControl_prepared {sbi : SbInfo} {area : JournalArea} (same : sbi.area = area)
    (ring : sbi.journalRing = true) (limit : area.first + area.blocks < 2 ^ 64)
    (head : area.ringStart ≤ sbi.journalRingHead ∧ sbi.journalRingHead < area.ringEnd)
    (tail : area.ringStart ≤ sbi.journalRingTail ∧ sbi.journalRingTail < area.ringEnd)
    {state last active checkpoint : Nat} (known : state ≤ JOURNAL_V3_STATE_CHECKPOINTING)
    (lastSmall : last < 2 ^ 64) (activeSmall : active < 2 ^ 64)
    (checkpointSmall : checkpoint < 2 ^ 64) (t : Transaction) (position : Nat)
    (fits : position + t.span ≤ area.ringEnd)
    (idle : state = JOURNAL_V3_STATE_IDLE → sbi.journalRingHead = sbi.journalRingTail) :
    RingControl area (journalV3PrepareControl sbi state last active checkpoint
      (t.placesAt position)) state last active checkpoint sbi.journalRingHead
      sbi.journalRingTail := by
  subst same
  have blocks : t.images.length < 2 ^ 64 := by
    unfold Transaction.span JournalArea.ringEnd at fits
    omega
  refine RingControl.prepared sbi ring ⟨known, lastSmall, activeSmall, checkpointSmall, ?_, blocks,
    limit, fun _ => ⟨head.2, tail.2, lt_of_le_of_lt head.1 head.2⟩⟩ ⟨head.1, tail.1⟩ idle
  exact placesAt_bounded t position _ fits (Nat.le_of_lt limit)

/-- Where the allocator puts a ring transaction of `span` blocks: at the head, or at the
start of a ring that ends before it. -/
def ringPosition (sbi : SbInfo) (span : Nat) : Nat :=
  if sbi.ringEnd < sbi.journalRingHead + span then sbi.ringStart else sbi.journalRingHead

/-- An empty ring, or contiguous room behind the head that leaves the head off the tail. -/
def RingRoom (w : World) : Prop :=
  w.sbi.journalRingHead = w.sbi.journalRingTail ∨
    SegmentRing.Room w.sbi.ringStart w.sbi.ringEnd w.sbi.journalRingTail w.sbi.journalRingHead
      (committing w).span

/-- What a ring commit needs for its crash safety, all of it known before it starts:
an empty ring or contiguous room that leaves the head off the tail, and no stale
content at the place of its commit record that already reads as this record. -/
structure CommitRoom (w : World) : Prop where
  room : w.sbi.journalRingHead = w.sbi.journalRingTail ∨
    SegmentRing.Room w.sbi.ringStart w.sbi.ringEnd w.sbi.journalRingTail w.sbi.journalRingHead
      (committing w).span
  stale : ¬ CommitMatches (ringPosition w.sbi (committing w).span)
    ((committing w).descriptor
      ((committing w).placesAt (ringPosition w.sbi (committing w).span)))
    (w.disk (ringPosition w.sbi (committing w).span + 1 + (committing w).images.length))

/-- The writes of a step, and what every prefix of them leaves on the device. -/
structure RingWrites (w after : World) (area : JournalArea) (count : Nat)
    (writes : List (Nat × Block)) (owed : Nat → Nat → Block) : Prop where
  base : after.base = w.base
  log : after.log = w.log ++ writes
  image : ∀ written, RingImage area count (applyWrites w.disk (writes.take written)) (owed written)
  device : ∀ written, Describes (applyWrites w.disk (writes.take written) 0) w.sbi count

section Commit

variable {w : World} {area : JournalArea} {count : Nat} {pending : List Transaction}
variable {home : Nat → Block} (inv : RingInv w area count pending home)
variable (success : (journalV3Commit w).1 = .ok ())
include inv success

/-- The allocation of a commit that finds its room. -/
theorem RingInv.allocation (room : RingRoom w) :
    ∃ allocation position, journalV3RingAllocate (atCommit w).sbi
        (atCommit w).sbi.journalHomeBlocks.length = .ok allocation ∧
      position = ringPosition w.sbi (committing w).span ∧
      allocation.segment = (committing w).placesAt position ∧
      (advanced w allocation).journalRingHead =
        SegmentRing.wrap area.ringStart area.ringEnd (position + (committing w).span) ∧
      Placement area (advanced w allocation).journalRingTail pending position
        (committing w).span ∧
      (pending = [] ∨ (advanced w allocation).journalRingTail = w.sbi.journalRingTail) := by
  obtain ⟨_, _, allocation, allocated⟩ := journalV3Commit_success success
  have quiet := inv.mode.worked.toQuiet
  have same := inv.ready.sameArea
  have start : (atCommit w).sbi.ringStart = area.ringStart := by
    rw [← same, ← quiet.area]
    rfl
  have stop : (atCommit w).sbi.ringEnd = area.ringEnd := by
    rw [← same, ← quiet.area]
    rfl
  have start' : w.sbi.ringStart = area.ringStart := by rw [← same]; rfl
  have stop' : w.sbi.ringEnd = area.ringEnd := by rw [← same]; rfl
  have ring : (atCommit w).sbi.journalRing = true := quiet.ring.trans inv.ring
  obtain ⟨position, segment, next, low, fits, smaller, place⟩ := journalV3RingAllocate_ring ring
    (by rw [start, quiet.head]; exact inv.headLow)
    (by rw [stop, quiet.tail]; exact Nat.le_of_lt inv.tailHigh) allocated
  have span : (atCommit w).sbi.journalHomeBlocks.length + 2 = (committing w).span := by
    rw [Transaction.span, committing_length]
  rw [← committing_length] at segment
  rw [span] at next fits smaller place
  rw [start, stop] at smaller place
  rw [start] at low
  rw [stop] at fits
  rw [quiet.head] at place
  have chain := inv.chain
  unfold RingRoom at room
  rw [start', stop'] at room
  have headLow := inv.headLow
  have headHigh := inv.headHigh
  have at' : position = ringPosition w.sbi (committing w).span := by
    unfold ringPosition
    rw [start', stop']
    split <;> omega
  have head : (advanced w allocation).journalRingHead =
      SegmentRing.wrap area.ringStart area.ringEnd (position + (committing w).span) := by
    rw [advanced, SbInfo.takeSegment, if_pos ring]
    change allocation.nextHead = _
    rw [next, SbInfo.ringWrap_eq, quiet.area, same]
  have tail : (advanced w allocation).journalRingTail =
      if w.sbi.journalRingTail = w.sbi.journalRingHead then position
      else w.sbi.journalRingTail := by
    rw [advanced, SbInfo.takeSegment, if_pos ring, quiet.tail, segment]
  have positive : 0 < (committing w).span := by
    unfold Transaction.span
    omega
  refine ⟨allocation, position, allocated, at', segment, head, ?_⟩
  cases pending with
  | nil =>
      have meet : w.sbi.journalRingTail = w.sbi.journalRingHead := chain
      rw [tail, if_pos meet]
      exact ⟨⟨rfl, Or.inr rfl, low, by omega, low, by omega, positive, fits, smaller⟩, Or.inl rfl⟩
  | cons t ts =>
      have apart : w.sbi.journalRingTail ≠ w.sbi.journalRingHead := by
        rw [spans_cons] at chain
        exact chain.tail_ne
      rw [tail, if_neg apart]
      have roomy := room.resolve_left (fun meet => apart meet.symm)
      have here : position = w.sbi.journalRingHead := by
        rcases place with here | ⟨_, beyond⟩
        · exact here
        · exfalso
          have tailHigh := inv.tailHigh
          unfold SegmentRing.Room at roomy
          split at roomy <;> omega
      rw [here] at low fits ⊢
      exact ⟨⟨chain, Or.inl roomy, inv.tailLow, inv.tailHigh, low, inv.headHigh, positive, fits,
        smaller⟩, Or.inr rfl⟩

omit success in
/-- What stands on the device where a commit begins. -/
theorem RingInv.commitBegun (opened : w.sbi.journalActiveSequence ≠ 0)
    {allocation : JournalV3Allocation} {position : Nat}
    (placed : Placement area (advanced w allocation).journalRingTail pending position
      (committing w).span)
    (kept : pending = [] ∨ (advanced w allocation).journalRingTail = w.sbi.journalRingTail) :
    CommitBegun area count w.disk w.sbi.journalCheckpointSequence
      (advanced w allocation).journalRingTail pending (committing w) position home := by
  have same := inv.ready.sameArea
  have valid := committing_valid inv.mode inv.describes inv.records inv.small
  rw [same] at valid
  have live := inv.opened.resolve_left opened
  have held : Pending area count w.disk w.sbi.journalCheckpointSequence
      (advanced w allocation).journalRingTail pending := by
    rcases kept with empty | tail
    · subst empty
      exact ⟨by simp, fun image member => by simp at member, trivial, trivial⟩
    · rw [tail]
      exact inv.held
  refine ⟨placed, held, valid, ?_, same ▸ inv.mode.first, inv.same, ?_⟩
  · rw [← inv.last, ← inv.sequence]
    change w.sbi.journalSequence < w.sbi.journalActiveSequence
    omega
  · intro after control held home
    refine inv.image after control ?_ home
    rcases kept with empty | tail
    · subst empty
      exact ⟨by simp, fun image member => by simp at member, trivial, trivial⟩
    · rw [← tail]
      exact held

omit success in
/-- The control blocks a commit writes. -/
theorem RingInv.commitControl {allocation : JournalV3Allocation} {position : Nat}
    (segment : allocation.segment = (committing w).placesAt position)
    (head : (advanced w allocation).journalRingHead =
      SegmentRing.wrap area.ringStart area.ringEnd (position + (committing w).span))
    (placed : Placement area (advanced w allocation).journalRingTail pending position
      (committing w).span)
    (state last active : Nat) (known : state ≤ JOURNAL_V3_STATE_CHECKPOINTING)
    (busy : state ≠ JOURNAL_V3_STATE_IDLE) (lastSmall : last < 2 ^ 64)
    (activeSmall : active < 2 ^ 64) :
    RingControl area (journalV3PrepareControl (advanced w allocation) state last active
      w.sbi.journalCheckpointSequence allocation.segment) state last active
      w.sbi.journalCheckpointSequence (advanced w allocation).journalRingHead
      (advanced w allocation).journalRingTail := by
  have quiet := inv.mode.worked.toQuiet
  have mount : SameMount (advanced w allocation) w.sbi :=
    (takeSegment_mount _ _ allocation).trans quiet.mount
  have wrapped := SegmentRing.wrap_mem area.ringStart area.ringEnd
    (position + (committing w).span) (by have low := placed.low; omega) placed.fits
    (by have low := placed.low; have high := placed.high; omega)
  rw [segment]
  exact ringControl_prepared (mount.area.trans inv.ready.sameArea) (mount.ring.trans inv.ring)
    inv.limit (by rw [head]; exact wrapped) ⟨placed.tailLow, placed.tailHigh⟩ known lastSmall
    activeSmall inv.control.checkpoint_lt _ _ placed.fits (fun idle => absurd idle busy)

/-- A commit that found its room: where its segment went, its two control blocks, and the world
its writes have left. -/
structure CommitLogged (w : World) (area : JournalArea) (count : Nat) (pending : List Transaction)
    (home : Nat → Block) (allocation : JournalV3Allocation) (position : Nat)
    (first second : Block) : Prop where
  start : CommitBegun area count w.disk w.sbi.journalCheckpointSequence
    (advanced w allocation).journalRingTail pending (committing w) position home
  place : position = ringPosition w.sbi (committing w).span
  head : (advanced w allocation).journalRingHead =
    SegmentRing.wrap area.ringStart area.ringEnd (position + (committing w).span)
  recorded : (atCommit w).sbi.journalError = none
  prepared : RingControl area first JOURNAL_V3_STATE_PREPARED w.sbi.journalSequence
    w.sbi.journalActiveSequence w.sbi.journalCheckpointSequence
    (advanced w allocation).journalRingHead (advanced w allocation).journalRingTail
  committed : RingControl area second JOURNAL_V3_STATE_COMMITTED w.sbi.journalActiveSequence 0
    w.sbi.journalCheckpointSequence (advanced w allocation).journalRingHead
    (advanced w allocation).journalRingTail
  named : namedPlaces (JournalV3Control.ofBlock second) = (committing w).placesAt position
  after : (journalV3Commit w).2 = { (atCommit w).writtenAll
    (commitWrites (committing w) position area.first first second) with
      sbi := ringCommitted w allocation }
  point : (journalV3Prepare w).2.log.length + 1 =
    w.log.length + ((committing w).images.length + 3)

theorem RingInv.commitLogged (opened : w.sbi.journalActiveSequence ≠ 0) (room : RingRoom w) :
    ∃ allocation position first second,
      CommitLogged w area count pending home allocation position first second := by
  obtain ⟨allocation, position, allocated, at', segment, head, placed, kept⟩ :=
    inv.allocation success room
  obtain ⟨sound, recorded, _⟩ := journalV3Commit_success success
  have mode := inv.mode
  have quiet := mode.worked.toQuiet
  have same := inv.ready.sameArea
  have start := inv.commitBegun opened placed kept
  have live := inv.opened.resolve_left opened
  have small := inv.small
  have within : allocation.segment.Within w.sbi.area (committing w).images.length := by
    have low := placed.low
    have fits := placed.fits
    rw [same, segment]
    simp only [JournalArea.ringStart, JournalArea.ringEnd, Transaction.span] at low fits
    constructor <;> simp only [Transaction.placesAt, JournalArea.Inside] <;> omega
  have homes : ∀ image, image ∈ (committing w).images →
      image.1 < w.size ∧ ¬ w.sbi.area.Inside image.1 := by
    intro image member
    have home := start.valid.home image member
    rw [same]
    exact ⟨lt_of_lt_of_le home.1 inv.ready.homes, home.2⟩
  have counted : allocation.segment.payloadBlocks = (committing w).images.length := by
    rw [segment]
    rfl
  have run := journalV3Commit_ring mode inv.ring allocation sound recorded allocated counted
    within homes
  have prepared := journalV3Prepare_run mode allocation recorded allocated within homes
  have journalBlock : w.sbi.journalBlock = area.first := by
    rw [← same]
    rfl
  have writes : prepareWrites w allocation ++ recordWrites w allocation =
      commitWrites (committing w) position area.first
        (journalV3PrepareControl (advanced w allocation) JOURNAL_V3_STATE_PREPARED
          w.sbi.journalSequence w.sbi.journalActiveSequence w.sbi.journalCheckpointSequence
          allocation.segment)
        (journalV3PrepareControl (advanced w allocation) JOURNAL_V3_STATE_COMMITTED
          w.sbi.journalActiveSequence 0 w.sbi.journalCheckpointSequence allocation.segment) := by
    simp only [prepareWrites, recordWrites, commitWrites, logWrites, segment, journalBlock,
      List.append_assoc]
    rfl
  have fits := placed.fits
  have limit := inv.limit
  have bounded := placesAt_bounded (committing w) position _ fits (Nat.le_of_lt limit)
  have blocks : allocation.segment.payloadBlocks < 2 ^ 64 := by
    rw [counted]
    unfold Transaction.span JournalArea.ringEnd at fits
    omega
  rw [← segment] at bounded
  refine ⟨allocation, position, _, _, start, at', head, recorded, ?_, ?_,
    (namedPlaces_prepareControl _ _ _ _ _ bounded blocks).trans segment, by rw [run, writes], ?_⟩
  · exact inv.commitControl segment head placed _ _ _ (by decide) (by decide) (by omega) small
  · exact inv.commitControl segment head placed _ _ _ (by decide) (by decide) small (by decide)
  · rw [prepared, World.writtenAll_log]
    change ((atCommit w).log ++ prepareWrites w allocation).length + 1 = _
    rw [quiet.log, List.length_append, prepareWrites, List.length_append, payloadWrites_length]
    rfl

section Logged

omit success
variable {allocation : JournalV3Allocation} {position : Nat} {first second : Block}
variable (logged : CommitLogged w area count pending home allocation position first second)
include logged

omit inv in
theorem CommitLogged.sbi : (journalV3Commit w).2.sbi = ringCommitted w allocation := by
  rw [logged.after]

theorem RingInv.logged_disk : (journalV3Commit w).2.disk = applyWrites w.disk
    (commitWrites (committing w) position area.first first second) := by
  rw [logged.after, ← inv.mode.worked.toQuiet.disk]
  exact World.writtenAll_disk _ _

omit inv in
theorem CommitLogged.cache : (journalV3Commit w).2.cache = applyWrites (atCommit w).cache
    (commitWrites (committing w) position area.first first second) := by
  rw [logged.after]
  exact World.writtenAll_cache _ _

theorem RingInv.logged_size : (journalV3Commit w).2.size = w.size := by
  rw [logged.after, ← inv.mode.worked.toQuiet.size]
  exact World.writtenAll_size _ _

theorem RingInv.logged_healthy : (journalV3Commit w).2.Healthy := by
  have sound := World.writtenAll_healthy _
    (commitWrites (committing w) position area.first first second)
    (inv.mode.worked.toQuiet.healthy inv.mode.healthy)
  rw [logged.after]
  exact ⟨sound.noFaults, sound.current⟩

theorem RingInv.logged_mount : SameMount (journalV3Commit w).2.sbi w.sbi := by
  have mount : SameMount (advanced w allocation) w.sbi :=
    (takeSegment_mount _ _ allocation).trans inv.mode.worked.toQuiet.mount
  rw [logged.after]
  exact ⟨mount.area, mount.tableStart, mount.tableBlocks, mount.enabled, mount.v2, mount.v3,
    mount.ring, mount.replaying⟩

theorem RingInv.logged_checkpoint : (journalV3Commit w).2.sbi.journalCheckpointSequence =
    w.sbi.journalCheckpointSequence := by
  rw [logged.sbi]
  exact (takeSegment_checkpoint _ _ _).trans inv.mode.worked.toQuiet.checkpoint

omit inv in
/-- The writes of a commit are the journal's own. -/
theorem CommitLogged.super (cells : Nat → Block) (taken : Nat) : applyWrites cells
    ((commitWrites (committing w) position area.first first second).take taken) 0 = cells 0 := by
  apply WriteLog.applyWrites_other
  intro write member zero
  have journal := (commitWrites_inside logged.start first second write
    (List.mem_of_mem_take member)).1
  have low := logged.start.first
  omega

omit inv in
theorem CommitLogged.block_zero (cells : Nat → Block) : applyWrites cells
    (commitWrites (committing w) position area.first first second) 0 = cells 0 := by
  have same := logged.super cells
    (commitWrites (committing w) position area.first first second).length
  rwa [List.take_length] at same

/-- The ring a commit leaves holds one transaction more. -/
theorem RingInv.logged_ring (opened : w.sbi.journalActiveSequence ≠ 0) :
    RingInv (journalV3Commit w).2 area count (pending ++ [committing w])
      (applyWrites home (committing w).images) := by
  have mode := inv.mode
  have quiet := mode.worked.toQuiet
  have same := inv.ready.sameArea
  have placed := logged.start.placed
  have disk := inv.logged_disk logged
  have cache := logged.cache
  have size := inv.logged_size logged
  have healthy := inv.logged_healthy logged
  have same' := inv.logged_mount logged
  have sbi := logged.sbi
  have checkpoint := inv.logged_checkpoint logged
  have wrapped := SegmentRing.wrap_mem area.ringStart area.ringEnd
    (position + (committing w).span) (by have low := placed.low; omega) placed.fits
    (by have low := placed.low; have high := placed.high; omega)
  have super : (journalV3Commit w).2.cache 0 = commitSuper w := by
    rw [cache, logged.block_zero,
      atCommit_super mode.first mode.table mode.enabled mode.v3 mode.live]
  have describe := committing_describes mode inv.describes
  have keeps : KeepsCount count (committing w).images := fun image member zero =>
    (describe image member zero).blocksCount
  have finished := logged.start.finished first second keeps
  constructor
  case mode => exact mode.of_same healthy same' size
  case ring => exact same'.ring.trans inv.ring
  case ready =>
    refine ⟨healthy, same'.area.trans same, ?_, ?_, ?_, ?_⟩
    · rw [blocksCount, World.super, super]
      exact ((commitSuper_same w).describes inv.describes).blocksCount
    all_goals rw [size]
    · exact inv.ready.journal
    · exact inv.ready.homes
    · exact inv.ready.bounded
  case long => exact inv.long
  case limit => exact inv.limit
  case describes =>
    rw [super]
    exact ((commitSuper_same w).describes inv.describes).of_same same'
  case device =>
    rw [disk, logged.block_zero]
    exact inv.device.of_same same'
  case images =>
    intro image member zero
    rw [imagesOf_append, List.mem_append] at member
    rcases member with earlier | here
    · exact (inv.images image earlier zero).of_same same'
    · exact (describe image (by simpa [imagesOf] using here) zero).of_same same'
  case records =>
    rw [sbi]
    exact ⟨List.nodup_nil, fun block member => by simp [ringCommitted,
      SbInfo.journalV3ClearRuntime] at member, Nat.zero_le _⟩
  case journal =>
    intro block member
    rw [cache, disk]
    apply WriteLog.applyWrites_congr_at
    rw [quiet.journal block (same ▸ member), inv.journal block member]
  case held =>
    rw [disk, checkpoint, sbi]
    exact finished.1
  case chain =>
    rw [sbi]
    change SegmentRing.Chain _ _ (advanced w allocation).journalRingTail _
      (advanced w allocation).journalRingHead
    rw [logged.head]
    exact finished.2.1
  case headLow =>
    rw [sbi]
    exact logged.head ▸ wrapped.1
  case headHigh =>
    rw [sbi]
    exact logged.head ▸ wrapped.2
  case tailLow =>
    rw [sbi]
    exact placed.tailLow
  case tailHigh =>
    rw [sbi]
    exact placed.tailHigh
  case last =>
    rw [checkpoint, sbi, lastSequenceOf_snoc]
    rfl
  case sequence =>
    rw [sbi]
    rfl
  case opened =>
    rw [sbi]
    exact Or.inl rfl
  case small =>
    rw [sbi]
    exact Nat.two_pow_pos 64
  case control =>
    have written := commitWrites_written w.disk (committing w) area position first second
      placed.low
    rw [disk, checkpoint, sbi, if_neg (by simp), written.2]
    exact logged.committed
  case supers =>
    intro other member
    rcases List.mem_append.mp member with earlier | here
    · exact inv.supers other earlier
    · rw [List.mem_singleton.mp here, Transaction.homes, committing_homes]
      exact atCommit_mem mode.first mode.table mode.enabled mode.v3 mode.live opened
        logged.recorded
  case same =>
    rw [disk]
    exact finished.2.2

end Logged

/-- A commit that finds its room: what it writes, and the ring it leaves, which holds one
transaction more. Its crash points need nothing stale in the way. -/
theorem RingInv.committed (opened : w.sbi.journalActiveSequence ≠ 0) (room : RingRoom w) :
    ∃ writes, (journalV3Commit w).2.base = w.base ∧
      (journalV3Commit w).2.log = w.log ++ writes ∧
      (CommitRoom w → ∀ written, RingImage area count (applyWrites w.disk (writes.take written))
        (if written < (committing w).images.length + 3 then home
          else applyWrites home (committing w).images)) ∧
      (∀ written, Describes (applyWrites w.disk (writes.take written) 0) w.sbi count) ∧
      (journalV3Prepare w).2.log.length + 1 = w.log.length + ((committing w).images.length + 3) ∧
      writes.length = (committing w).images.length + 4 ∧
      SameMount (journalV3Commit w).2.sbi w.sbi ∧
      (journalV3Commit w).2.sbi.journalCheckpointSequence = w.sbi.journalCheckpointSequence ∧
      RingInv (journalV3Commit w).2 area count (pending ++ [committing w])
        (applyWrites home (committing w).images) := by
  obtain ⟨allocation, position, first, second, logged⟩ := inv.commitLogged success opened room
  have quiet := inv.mode.worked.toQuiet
  have keeps : KeepsCount count (committing w).images := fun image member zero =>
    (committing_describes inv.mode inv.describes image member zero).blocksCount
  refine ⟨commitWrites (committing w) position area.first first second, ?_, ?_, ?_, ?_,
    logged.point, commitWrites_length _ _ _ _ _, inv.logged_mount logged,
    inv.logged_checkpoint logged, inv.logged_ring logged opened⟩
  · rw [logged.after, ← quiet.base]
    exact World.writtenAll_base _ _
  · rw [logged.after, ← quiet.log]
    exact World.writtenAll_log _ _
  · intro meets
    have clean : CommitStart area count w.disk w.sbi.journalCheckpointSequence
        (advanced w allocation).journalRingTail pending (committing w) position home :=
      ⟨logged.start, logged.place ▸ meets.stale⟩
    have prepared := logged.prepared
    have committed := logged.committed
    rw [logged.head] at prepared committed
    exact clean.crash first second keeps prepared committed
  · intro taken
    rw [logged.super]
    exact inv.device

/-- A commit: every prefix of its writes is a device recovery knows, and the ring it
leaves holds one transaction more. -/
theorem RingInv.commit (opened : w.sbi.journalActiveSequence ≠ 0) (meets : CommitRoom w) :
    ∃ writes, RingWrites w (journalV3Commit w).2 area count writes
        (fun written => if written < (committing w).images.length + 3 then home
          else applyWrites home (committing w).images) ∧
      (journalV3Prepare w).2.log.length + 1 = w.log.length + ((committing w).images.length + 3) ∧
      writes.length = (committing w).images.length + 4 ∧
      SameMount (journalV3Commit w).2.sbi w.sbi ∧
      RingInv (journalV3Commit w).2 area count (pending ++ [committing w])
        (applyWrites home (committing w).images) := by
  obtain ⟨writes, base, log, image, device, point, length, same, _, after⟩ :=
    inv.committed success opened meets.room
  exact ⟨writes, ⟨base, log, image meets, device⟩, point, length, same, after⟩

end Commit

/-- The log up to a crash during a checkpoint: nothing, some home writes behind the first
control block, or some of the writes that settle it. -/
theorem checkpoint_take (control : Nat × Block) (images settle : List (Nat × Block))
    (written : Nat) :
    (written = 0 ∧ (control :: images ++ settle).take written = []) ∨
      (∃ taken, (control :: images ++ settle).take written = control :: images.take taken) ∨
      (∃ taken, 0 < taken ∧
        (control :: images ++ settle).take written = control :: images ++ settle.take taken) := by
  cases written with
  | zero => exact Or.inl ⟨rfl, rfl⟩
  | succ written =>
      right
      by_cases within : written ≤ images.length
      · refine Or.inl ⟨written, ?_⟩
        rw [List.cons_append, List.take_succ_cons, List.take_append_of_le_length within]
      · refine Or.inr ⟨written - images.length, by omega, ?_⟩
        rw [List.cons_append, List.take_succ_cons, List.take_append,
          List.take_of_length_le (by omega)]
        rfl

section Checkpoint

variable {w : World} {area : JournalArea} {count : Nat} {t : Transaction}
variable {ts : List Transaction} {home : Nat → Block}
variable (inv : RingInv w area count (t :: ts) home)
include inv

theorem RingInv.checkpointStart : CheckpointStart area count w.disk
    w.sbi.journalCheckpointSequence w.sbi.journalRingHead w.sbi.journalRingTail t ts home :=
  ⟨inv.held, inv.chain, inv.tailLow, inv.headLow, inv.headHigh, inv.ready.sameArea ▸ inv.mode.first,
    inv.supers t List.mem_cons_self, inv.same⟩

theorem RingInv.checkpointRun : journalV3CheckpointOne w = (.ok (),
    { w.writtenAll (checkpointAll w t) with sbi := checkpointedSbi w.sbi t }) := by
  have chain := inv.chain
  rw [spans_cons] at chain
  have low := inv.tailLow
  have fits : w.sbi.journalRingTail + t.span ≤ area.ringEnd := chain.2.2.1
  refine journalV3CheckpointOne_run inv.ready inv.ring inv.mode.live
    (inv.ready.sameArea ▸ inv.mode.first) (inv.held.valid t List.mem_cons_self) chain.tail_ne low
    fits ?_ inv.held.ascending.1
  apply inv.held.on.1.congr
  intro block lower upper
  apply inv.journal
  simp only [JournalArea.Inside, JournalArea.ringStart, JournalArea.ringEnd] at *
  omega

private theorem RingInv.markedControl : RingControl area
    (journalV3PrepareControl w.sbi JOURNAL_V3_STATE_CHECKPOINTING w.sbi.journalLastSequence 0
      w.sbi.journalCheckpointSequence (t.placesAt w.sbi.journalRingTail))
    JOURNAL_V3_STATE_CHECKPOINTING w.sbi.journalLastSequence 0 w.sbi.journalCheckpointSequence
    w.sbi.journalRingHead w.sbi.journalRingTail := by
  have chain := inv.chain
  rw [spans_cons] at chain
  exact ringControl_prepared inv.ready.sameArea inv.ring inv.limit
    ⟨inv.headLow, inv.headHigh⟩ ⟨inv.tailLow, inv.tailHigh⟩ (by decide) inv.control.last_lt
    (by decide) inv.control.checkpoint_lt _ _ chain.2.2.1 (fun idle => absurd idle (by decide))

private theorem RingInv.settledControl (state : Nat)
    (known : state ≤ JOURNAL_V3_STATE_CHECKPOINTING)
    (idle : state = JOURNAL_V3_STATE_IDLE → w.sbi.journalRingHead =
      SegmentRing.wrap area.ringStart area.ringEnd (w.sbi.journalRingTail + t.span)) :
    RingControl area
      (journalV3PrepareControl (checkpointedSbi w.sbi t) state w.sbi.journalLastSequence 0
        t.sequence (t.placesAt w.sbi.journalRingTail))
      state w.sbi.journalLastSequence 0 t.sequence w.sbi.journalRingHead
      (SegmentRing.wrap area.ringStart area.ringEnd (w.sbi.journalRingTail + t.span)) := by
  have chain := inv.chain
  rw [spans_cons] at chain
  have low := inv.tailLow
  have high := inv.tailHigh
  have next := SegmentRing.wrap_mem area.ringStart area.ringEnd
    (w.sbi.journalRingTail + t.span) (by omega) chain.2.2.1 (by omega)
  have tail : (checkpointedSbi w.sbi t).journalRingTail =
      SegmentRing.wrap area.ringStart area.ringEnd (w.sbi.journalRingTail + t.span) := by
    rw [← inv.ready.sameArea]
    rfl
  have valid := inv.held.valid t List.mem_cons_self
  have same : (checkpointedSbi w.sbi t).area = area := inv.ready.sameArea
  have control := ringControl_prepared same inv.ring inv.limit ⟨inv.headLow, inv.headHigh⟩ (by rw [tail]; exact next) known
    inv.control.last_lt (by decide : 0 < 2 ^ 64) valid.bounded t w.sbi.journalRingTail chain.2.2.1
    (by rw [tail]; exact idle)
  rw [tail] at control
  exact control

/-- Every prefix of a checkpoint's writes is a device recovery knows. -/
private theorem RingInv.checkpointCrash (written : Nat) :
    RingImage area count (applyWrites w.disk ((checkpointAll w t).take written)) home := by
  have start := inv.checkpointStart
  have marked := inv.markedControl
  have valid := inv.held.valid t List.mem_cons_self
  have journalBlock : w.sbi.journalBlock = area.first := by
    rw [← inv.ready.sameArea]
    rfl
  have wraps : w.sbi.ringWrap (w.sbi.journalRingTail + t.span) =
      SegmentRing.wrap area.ringStart area.ringEnd (w.sbi.journalRingTail + t.span) := by
    rw [SbInfo.ringWrap_eq, inv.ready.sameArea]
  rw [checkpointAll, checkpointWrites]
  rcases checkpoint_take (w.sbi.journalBlock, journalV3PrepareControl w.sbi
    JOURNAL_V3_STATE_CHECKPOINTING w.sbi.journalLastSequence 0 w.sbi.journalCheckpointSequence
    (t.placesAt w.sbi.journalRingTail)) t.images (settleWrites (decide
      (w.sbi.ringWrap (w.sbi.journalRingTail + t.span) = w.sbi.journalRingHead))
      (checkpointedSbi w.sbi t) (applyWrites w.cache t.images 0) w.sbi.journalLastSequence
      t.sequence (t.placesAt w.sbi.journalRingTail)) written with
    ⟨_, nothing⟩ | ⟨taken, some⟩ | ⟨taken, positive, settling⟩
  · rw [nothing]
    exact inv.image w.disk rfl inv.held inv.same
  · rw [some, WriteLog.applyWrites_cons, journalBlock]
    exact start.partial_image marked (by decide) taken
  · rw [settling, List.cons_append, WriteLog.applyWrites_cons, WriteLog.applyWrites_append,
      journalBlock]
    have settledBlock : (checkpointedSbi w.sbi t).journalBlock = area.first := journalBlock
    by_cases drained : w.sbi.ringWrap (w.sbi.journalRingTail + t.span) = w.sbi.journalRingHead
    · rw [decide_eq_true drained, settleWrites, if_pos rfl, settledBlock]
      rw [wraps] at drained
      have empty : ts = [] := by
        have chain := inv.chain.2.2.2.2
        rw [drained] at chain
        exact List.map_eq_nil_iff.mp chain.eq_nil
      have idle := inv.settledControl JOURNAL_V3_STATE_IDLE (by decide) (fun _ => drained.symm)
      have last : w.sbi.journalLastSequence = t.sequence := by
        rw [inv.last, empty]
        rfl
      rw [drained, ← last] at idle
      cases taken with
      | zero => omega
      | succ more =>
          cases more with
          | zero => exact start.super_image marked (by decide)
          | succ more =>
              rw [List.take_of_length_le (by simp), ← last]
              refine start.idle_image empty idle ?_
              rw [WriteLog.applyWrites_written w.cache w.disk t.images 0
                (inv.supers t List.mem_cons_self)]
              exact recoveredSuper_same _ _ _ _
    · rw [decide_eq_false drained, settleWrites, if_neg (by decide), settledBlock,
        List.take_of_length_le (by simp only [List.length_singleton]; omega)]
      have committed := inv.settledControl JOURNAL_V3_STATE_COMMITTED (by decide)
        (fun idle => absurd idle (by decide))
      exact start.settled_image committed (by decide)

/-- The superblocks a checkpoint writes: its images, and the cleared one at its end. -/
theorem RingInv.checkpointSupers (write : Nat × Block) (member : write ∈ checkpointAll w t)
    (zero : write.1 = 0) : write ∈ t.images ∨ write.2 =
      recoveredSuper false (applyWrites w.cache t.images 0) w.sbi.nextIno w.sbi.nextDataBlock := by
  have first := inv.mode.first
  simp only [SbInfo.area] at first
  have block : (checkpointedSbi w.sbi t).journalBlock = w.sbi.journalBlock := rfl
  rw [checkpointAll, checkpointWrites, List.mem_append, List.mem_cons] at member
  rcases member with (control | image) | settle
  · have here := congrArg Prod.fst control
    dsimp only at here
    omega
  · exact Or.inl image
  · unfold settleWrites at settle
    split at settle
    · simp only [List.mem_cons, List.not_mem_nil, or_false] at settle
      rcases settle with recovered | control
      · rw [recovered]
        exact Or.inr rfl
      · have here := congrArg Prod.fst control
        dsimp only at here
        omega
    · have here := congrArg Prod.fst (List.mem_singleton.mp settle)
      dsimp only at here
      omega

/-- Block 0 keeps describing the mount at every point of a checkpoint. -/
private theorem RingInv.checkpointDevice (cells : Nat → Block)
    (describes : Describes (cells 0) w.sbi count) (written : Nat) :
    Describes (applyWrites cells ((checkpointAll w t).take written) 0) w.sbi count := by
  have images (write : Nat × Block) (image : write ∈ t.images) (zero : write.1 = 0) :
      Describes write.2 w.sbi count :=
    inv.images write (List.mem_append_left _ image) zero
  apply WriteLog.along_cell (fun super => Describes super w.sbi count) describes
  intro write member zero
  rcases inv.checkpointSupers write member zero with image | cleared
  · exact images write image zero
  · rw [cleared]
    apply (recoveredSuper_same _ _ _ _).describes
    exact (WriteLog.along_cell (fun super => Describes super w.sbi count) inv.describes
      images).last

/-- The device and the mount a checkpoint leaves. -/
private theorem RingInv.checkpointHeld :
    RingControl area (applyWrites w.disk (checkpointAll w t) area.first)
        (if ts = [] then JOURNAL_V3_STATE_IDLE else JOURNAL_V3_STATE_COMMITTED)
        w.sbi.journalLastSequence 0 t.sequence w.sbi.journalRingHead
        (SegmentRing.wrap area.ringStart area.ringEnd (w.sbi.journalRingTail + t.span)) ∧
      Pending area count (applyWrites w.disk (checkpointAll w t)) t.sequence
        (SegmentRing.wrap area.ringStart area.ringEnd (w.sbi.journalRingTail + t.span)) ts ∧
      SameHome area (applyWrites (applyWrites w.disk (checkpointAll w t)) (imagesOf ts)) home := by
  have start := inv.checkpointStart
  have journalBlock : w.sbi.journalBlock = area.first := by
    rw [← inv.ready.sameArea]
    rfl
  have settledBlock : (checkpointedSbi w.sbi t).journalBlock = area.first := journalBlock
  have wraps : w.sbi.ringWrap (w.sbi.journalRingTail + t.span) =
      SegmentRing.wrap area.ringStart area.ringEnd (w.sbi.journalRingTail + t.span) := by
    rw [SbInfo.ringWrap_eq, inv.ready.sameArea]
  have chain := inv.chain.2.2.2.2
  rw [checkpointAll, checkpointWrites, WriteLog.applyWrites_append, WriteLog.applyWrites_cons,
    journalBlock]
  by_cases drained : w.sbi.ringWrap (w.sbi.journalRingTail + t.span) = w.sbi.journalRingHead
  · rw [decide_eq_true drained, settleWrites, if_pos rfl, settledBlock]
    rw [wraps] at drained
    have empty : ts = [] := by
      rw [drained] at chain
      exact List.map_eq_nil_iff.mp chain.eq_nil
    have recovered : SameSuper (recoveredSuper false (applyWrites w.cache t.images 0)
        (checkpointedSbi w.sbi t).nextIno (checkpointedSbi w.sbi t).nextDataBlock)
        (applyWrites w.disk t.images 0) := by
      rw [WriteLog.applyWrites_written w.cache w.disk t.images 0
        (inv.supers t List.mem_cons_self)]
      exact recoveredSuper_same _ _ _ _
    have idle := inv.settledControl JOURNAL_V3_STATE_IDLE (by decide) (fun _ => drained.symm)
    refine ⟨?_, ?_, ?_⟩
    · simp only [WriteLog.applyWrites_cons, WriteLog.applyWrites_nil]
      rw [WriteLog.store_same, if_pos empty]
      exact idle
    · rw [empty]
      exact ⟨by simp, fun image member => by simp at member, trivial, trivial⟩
    · rw [empty]
      exact start.idle_same empty recovered
  · rw [decide_eq_false drained, settleWrites, if_neg Bool.false_ne_true, settledBlock]
    have more : ts ≠ [] := by
      intro empty
      subst empty
      rw [wraps] at drained
      exact drained chain
    have committed := inv.settledControl JOURNAL_V3_STATE_COMMITTED (by decide)
      (fun idle => absurd idle (by decide))
    refine ⟨?_, start.settled _ _⟩
    simp only [WriteLog.applyWrites_cons, WriteLog.applyWrites_nil]
    rw [WriteLog.store_same, if_neg more]
    exact committed

/-- A checkpoint: it succeeds, and the oldest pending transaction is home. -/
theorem RingInv.checkpointStep : (journalV3CheckpointOne w).1 = .ok () ∧
    SameMount (journalV3CheckpointOne w).2.sbi w.sbi ∧
    RingWrites w (journalV3CheckpointOne w).2 area count (checkpointAll w t) (fun _ => home) ∧
      RingInv (journalV3CheckpointOne w).2 area count ts home := by
  have run := inv.checkpointRun
  have after : (journalV3CheckpointOne w).2 =
      { w.writtenAll (checkpointAll w t) with sbi := checkpointedSbi w.sbi t } := by rw [run]
  have held := inv.checkpointHeld
  have mount : SameMount (journalV3CheckpointOne w).2.sbi w.sbi := by
    rw [after]
    exact ⟨rfl, rfl, rfl, rfl, rfl, rfl, rfl, rfl⟩
  have size : (journalV3CheckpointOne w).2.size = w.size := by
    rw [after]
    exact World.writtenAll_size _ _
  have healthy : (journalV3CheckpointOne w).2.Healthy := by
    have sound := World.writtenAll_healthy w (checkpointAll w t) inv.mode.healthy
    rw [after]
    exact ⟨sound.noFaults, sound.current⟩
  have disk : (journalV3CheckpointOne w).2.disk = applyWrites w.disk (checkpointAll w t) := by
    rw [after]
    exact World.writtenAll_disk _ _
  have cache : (journalV3CheckpointOne w).2.cache = applyWrites w.cache (checkpointAll w t) := by
    rw [after]
    exact World.writtenAll_cache _ _
  have sbi : (journalV3CheckpointOne w).2.sbi = checkpointedSbi w.sbi t := by rw [after]
  have tail : (checkpointedSbi w.sbi t).journalRingTail =
      SegmentRing.wrap area.ringStart area.ringEnd (w.sbi.journalRingTail + t.span) := by
    rw [← inv.ready.sameArea]
    rfl
  have whole : ∀ cells : Nat → Block, Describes (cells 0) w.sbi count →
      Describes (applyWrites cells (checkpointAll w t) 0) w.sbi count := by
    intro cells describes
    have all := inv.checkpointDevice cells describes (checkpointAll w t).length
    rw [List.take_length] at all
    exact all
  have low := inv.tailLow
  have high := inv.tailHigh
  have next := SegmentRing.wrap_mem area.ringStart area.ringEnd
    (w.sbi.journalRingTail + t.span) (by omega) inv.chain.2.2.1 (by omega)
  refine ⟨by rw [run], mount, ⟨?_, ?_, inv.checkpointCrash, inv.checkpointDevice _ inv.device⟩, ?_⟩
  · rw [after]
    exact World.writtenAll_base _ _
  · rw [after]
    exact World.writtenAll_log _ _
  · constructor
    case mode => exact inv.mode.of_same healthy mount size
    case ring => exact mount.ring.trans inv.ring
    case ready =>
      refine ⟨healthy, mount.area.trans inv.ready.sameArea, ?_, ?_, ?_, ?_⟩
      · rw [blocksCount, World.super, cache]
        exact (whole _ inv.describes).blocksCount
      all_goals rw [size]
      · exact inv.ready.journal
      · exact inv.ready.homes
      · exact inv.ready.bounded
    case long => exact inv.long
    case limit => exact inv.limit
    case describes =>
      rw [cache]
      exact (whole _ inv.describes).of_same mount
    case device =>
      rw [disk]
      exact (whole _ inv.device).of_same mount
    case images =>
      intro image member zero
      exact (inv.images image (List.mem_append_right _ member) zero).of_same mount
    case records =>
      rw [sbi]
      exact inv.records.of_same rfl rfl
    case journal =>
      intro block member
      rw [cache, disk]
      exact WriteLog.applyWrites_congr_at _ _ _ _ (inv.journal block member)
    case held =>
      rw [disk, sbi, tail]
      exact held.2.1
    case chain =>
      rw [sbi, tail]
      exact inv.chain.2.2.2.2
    case headLow => rw [sbi]; exact inv.headLow
    case headHigh => rw [sbi]; exact inv.headHigh
    case tailLow => rw [sbi, tail]; exact next.1
    case tailHigh => rw [sbi, tail]; exact next.2
    case last => rw [sbi]; exact inv.last
    case sequence => rw [sbi]; exact inv.sequence
    case opened => rw [sbi]; exact inv.opened
    case small => rw [sbi]; exact inv.small
    case control =>
      rw [disk, sbi, tail]
      exact held.1
    case supers =>
      intro other member
      exact inv.supers other (List.mem_cons_of_mem _ member)
    case same =>
      rw [disk]
      exact held.2.2

end Checkpoint

end Cryexts
