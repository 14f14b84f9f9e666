import Cryexts.Journal.ReplayRejects

set_option autoImplicit false

namespace Cryexts

open Routine (Moves)
open WriteLog (store)

/-! ### What the ring walk reads -/

/-- The control block the ring replay goes by: read and accepted, with segments to look for. -/
structure ReplayStarted (w : World) (control : JournalV3Control) (started : World) : Prop where
  read : ∃ buf, (kmalloc >>= fun _ => readFileBlock w.sbi.journalBlock) w = (.ok buf, started) ∧
    control = JournalV3Control.ofBlock buf ∧ ChecksumValid buf
  header : ControlHeaderValid w.sbi control
  ring : w.sbi.RingValid control
  live : control.state ≠ JOURNAL_V3_STATE_IDLE ∧ control.state ≤ JOURNAL_V3_STATE_CHECKPOINTING

/-- The rounds of the walk: so many segments applied, the next position, the last sequence and
the state they have left. -/
inductive RingRound (control : JournalV3Control) (started : World) : Nat → Nat → Nat → World → Prop
  | first : RingRound control started 0 control.ringTail control.checkpointSequence started
  | next {count position previous : Nat} {w after : World} {segment : Applied previous}
      (before : RingRound control started count position previous w)
      (ahead : position ≠ control.ringHead)
      (applied : replayRingSegment control.ringHead position previous w =
        (.ok (some segment), after)) :
      RingRound control started (count + 1) segment.segmentEnd segment.sequence after

/-- The walk comes to the segment at `position`, after `count` others. -/
def Reaches (w : World) (count position previous : Nat) (reached : World) : Prop :=
  ∃ control started, ReplayStarted w control started ∧
    RingRound control started count position previous reached ∧ position ≠ control.ringHead

/-- The blocks one round reads: the descriptor, the commit block it names, and its payloads, first
to check them and then to copy them. -/
inductive SegmentReads (w : World) (position previous : Nat) : Nat → Prop
  | descriptor : SegmentReads w position previous position
  | commit {buf : Block} {found : World} (read : readFileBlock position w = (.ok buf, found))
      (header : SegmentHeaderValid w.sbi position previous buf) :
      SegmentReads w position previous (JournalV3Descriptor.ofBlock buf).commitBlock
  | payload {buf commitBuf : Block} {found later checked : World} {index aggregate : Nat}
      (read : readFileBlock position w = (.ok buf, found))
      (header : SegmentHeaderValid w.sbi position previous buf)
      (commit : readFileBlock (JournalV3Descriptor.ofBlock buf).commitBlock found =
        (.ok commitBuf, later))
      (committed : CommitMatches position buf commitBuf ∧
        (JournalV3Commit.ofBlock commitBuf).flags = JOURNAL_V3_FLAG_COMMITTED)
      (inside : index < (JournalV3Descriptor.ofBlock buf).entryCount)
      (earlier : verifyPayloads true buf (JournalV3Descriptor.ofBlock buf).payloadStart
        (List.range index) FNV_OFFSET later = (.ok aggregate, checked)) :
      SegmentReads w position previous ((JournalV3Descriptor.ofBlock buf).payloadStart + index)

/-- A block the ring walk reads. -/
def ReplayReads (w : World) (block : Nat) : Prop :=
  ∃ count position previous reached, Reaches w count position previous reached ∧
    SegmentReads reached position previous block

/-- A round that is applied had an accepted header, and the walk goes on behind its commit block. -/
theorem replayRingSegment_applied {head position previous : Nat} {w after : World}
    {segment : Applied previous}
    (applied : replayRingSegment head position previous w = (.ok (some segment), after)) :
    ∃ buf found, readFileBlock position w = (.ok buf, found) ∧
      SegmentHeaderValid w.sbi position previous buf ∧
      segment.segmentEnd = w.sbi.ringWrap ((JournalV3Descriptor.ofBlock buf).commitBlock + 1) := by
  rw [replayRingSegment, Routine.read_bind] at applied
  obtain ⟨buf, found, read, rest⟩ := Routine.of_bind_ok _ _ _ _ _ applied
  by_cases header : SegmentHeaderValid w.sbi position previous buf
  · refine ⟨buf, found, read, header, ?_⟩
    rw [dif_pos header] at rest
    obtain ⟨commitBuf, later, _, rest⟩ := Routine.of_bind_ok _ _ _ _ _ rest
    dsimp only at rest
    split at rest
    · obtain ⟨_, rest⟩ := Routine.of_require_bind_ok _ _ _ _ _ _ rest
      obtain ⟨_, _, _, rest⟩ := Routine.of_bind_ok _ _ _ _ _ rest
      obtain ⟨_, rest⟩ := Routine.of_require_bind_ok _ _ _ _ _ _ rest
      obtain ⟨_, _, _, rest⟩ := Routine.of_bind_ok _ _ _ _ _ rest
      have same := Except.ok.inj (congrArg Prod.fst rest)
      rw [← Option.some.inj same]
    · split at rest
      · cases Except.ok.inj (congrArg Prod.fst rest)
      · cases congrArg Prod.fst rest
  · rw [dif_neg header] at rest
    cases congrArg Prod.fst rest

/-- Sequences only grow along the walk, which bounds the number of rounds. -/
theorem RingRound.counted {control : JournalV3Control} {started w : World}
    {count position previous : Nat} (round : RingRound control started count position previous w) :
    count ≤ previous ∧ (count = 0 ∨ previous < 2 ^ 64) := by
  induction round with
  | first => exact ⟨Nat.zero_le _, Or.inl rfl⟩
  | @next count position previous w after segment before ahead applied ih =>
      have later := segment.later
      exact ⟨by omega, Or.inr segment.bounded⟩

/-! ### What the ring replay writes -/

/-- The journal area stays where it is, and the device is written at `places` only. -/
structure WritesIn (places : Nat → Prop) (w after : World) : Prop where
  area : after.sbi.area = w.sbi.area
  size : after.size = w.size
  base : after.base = w.base
  log : Grows (fun block => places block ∧ block < w.size) w after

instance (places : Nat → Prop) : IsPreorder World (WritesIn places) where
  refl _ := ⟨rfl, rfl, rfl, Grows.silent rfl⟩
  trans _ _ _ first second := by
    have later := second.log
    rw [first.size] at later
    exact ⟨second.area.trans first.area, second.size.trans first.size,
      second.base.trans first.base, first.log.trans later⟩

section WritesIn

variable {places : Nat → Prop}

theorem WritesIn.silent {w after : World} (area : after.sbi.area = w.sbi.area)
    (size : after.size = w.size) (base : after.base = w.base) (log : after.log = w.log) :
    WritesIn places w after :=
  ⟨area, size, base, Grows.silent log⟩

/-- Block input alone writes nothing. -/
theorem WritesIn.io {α : Type} {body : Kernel α} (moves : Moves (BlockIo fun _ => False) body) :
    Moves (WritesIn places) body := by
  refine moves.mono fun w after io => ?_
  obtain ⟨writes, log, none⟩ := io.log
  refine ⟨congrArg SbInfo.area io.sbi, io.size, io.base, writes, log, ?_⟩
  intro write member
  exact absurd (none write member) id

theorem journalV3WriteSync_writes (block : Nat) (content : Block) (place : places block) :
    Moves (WritesIn places) (journalV3WriteSync block content) := by
  intro w
  rw [journalV3WriteSync_eq]
  split
  · exact WritesIn.silent rfl rfl rfl rfl
  · rename_i stopped
    split
    · exact WritesIn.silent rfl rfl rfl rfl
    · refine ⟨rfl, rfl, rfl, [(block, content)], rfl, ?_⟩
      intro write member
      rw [List.mem_singleton.mp member]
      exact ⟨place, Nat.lt_of_not_le fun outside => stopped (Or.inr outside)⟩

theorem writeHome_writes (descriptor : Block) (payloadStart : Nat) (indices : List Nat)
    (homes : ∀ index, index ∈ indices → places (JournalV3Entry.ofBlock descriptor index).homeBlock) :
    Moves (WritesIn places) (writeHome descriptor payloadStart indices) := by
  induction indices with
  | nil => exact Moves.pure _
  | cons index rest ih =>
      apply Moves.bind (WritesIn.io (readFileBlock_moves _))
      intro payload
      apply Moves.bind (journalV3WriteSync_writes _ _ (homes index List.mem_cons_self))
      intro _
      exact ih fun other member => homes other (List.mem_cons_of_mem _ member)

theorem replayHome_writes (descriptor : Block) (payloadStart entries : Nat)
    (homes : ∀ index, index < entries →
      places (JournalV3Entry.ofBlock descriptor index).homeBlock) :
    Moves (WritesIn places) (replayHome descriptor payloadStart entries) := by
  have flag (replaying : Bool) (w : World) : WritesIn places w (setReplaying replaying w) :=
    WritesIn.silent rfl rfl rfl rfl
  apply Moves.bind (Moves.modify (flag true))
  intro _
  apply Moves.bind
  · apply Moves.onFailure
    · exact writeHome_writes _ _ _ fun index member => homes index (List.mem_range.mp member)
    · intro _
      exact Moves.modify (flag false)
  · intro _
    exact Moves.modify (flag false)

end WritesIn

/-- Entries that have passed the checks name home blocks outside the journal. -/
theorem verifyPayloads_homes {distinct : Bool} {descriptor : Block} {payloadStart : Nat}
    {indices : List Nat} {aggregate result : Nat} {w after : World}
    (passed : verifyPayloads distinct descriptor payloadStart indices aggregate w =
      (.ok result, after)) :
    ∀ index, index ∈ indices →
      ¬ w.sbi.area.Inside (JournalV3Entry.ofBlock descriptor index).homeBlock := by
  induction indices generalizing aggregate w with
  | nil => simp
  | cons index rest ih =>
      rw [verifyPayloads, Routine.read_bind] at passed
      obtain ⟨entry, passed⟩ := Routine.of_require_bind_ok _ _ _ _ _ _ passed
      obtain ⟨_, passed⟩ := Routine.of_require_bind_ok _ _ _ _ _ _ passed
      obtain ⟨payload, found, read, passed⟩ := Routine.of_bind_ok _ _ _ _ _ passed
      obtain ⟨_, passed⟩ := Routine.of_require_bind_ok _ _ _ _ _ _ passed
      intro other member
      rcases List.mem_cons.mp member with rfl | later
      · exact entry.2.1
      · have same := (readFileBlock_ok read).2.2.1
        rw [← same]
        exact ih passed other later

/-- Whatever a round comes to, it writes home blocks outside the journal only. -/
theorem replayRingSegment_writes (head position previous : Nat) (w : World) :
    WritesIn (fun block => ¬ w.sbi.area.Inside block) w
      (replayRingSegment head position previous w).2 := by
  rw [replayRingSegment, Routine.read_bind]
  apply Moves.bind_from (WritesIn.io (readFileBlock_moves position))
  intro buf found read
  by_cases header : SegmentHeaderValid w.sbi position previous buf
  case neg =>
    rw [dif_neg header]
    exact Moves.fail _ _
  rw [dif_pos header]
  apply Moves.bind_from (WritesIn.io (readFileBlock_moves _))
  intro commitBuf later commit
  dsimp only
  split
  case isFalse =>
    split
    · exact Moves.pure _ _
    · exact Moves.fail _ _
  apply Moves.bind_from (Moves.require _ _)
  intro _ checked required
  apply Moves.bind_from (WritesIn.io (verifyPayloads_moves _ _ _ _ _))
  intro aggregate verified passed
  apply Moves.bind_from (Moves.require _ _)
  intro _ accepted required'
  have same : checked.sbi = w.sbi := by
    rw [(Routine.of_require_ok _ _ _ _ required).2, (readFileBlock_ok commit).2.2.1,
      (readFileBlock_ok read).2.2.1]
  have homes := verifyPayloads_homes passed
  rw [same] at homes
  apply Moves.bind
  · apply replayHome_writes
    intro index inside
    exact homes index (List.mem_range.mpr inside)
  · intro _
    exact Moves.pure _

theorem replayRingWalk_writes (head position previous lastSequence : Nat) (w : World) :
    WritesIn (fun block => ¬ w.sbi.area.Inside block) w
      (replayRingWalk head position previous lastSequence w).2 := by
  induction position, previous, lastSequence, w using replayRingWalk.induct head with
  | case1 previous lastSequence w =>
      rw [replayRingWalk, if_pos rfl]
      exact WritesIn.silent rfl rfl rfl rfl
  | case2 position previous lastSequence w apart err after ran =>
      have step := replayRingSegment_writes head position previous w
      rw [ran] at step
      rw [replayRingWalk, if_neg apart, ran]
      exact step
  | case3 position previous lastSequence w apart after ran =>
      have step := replayRingSegment_writes head position previous w
      rw [ran] at step
      rw [replayRingWalk, if_neg apart, ran]
      exact step
  | case4 position previous lastSequence w apart segment after ran ih =>
      have step := replayRingSegment_writes head position previous w
      rw [ran] at step
      rw [replayRingWalk, if_neg apart, ran]
      rw [step.area] at ih
      exact IsTrans.trans _ _ _ step ih

/-- The device log of a replay: home blocks outside the journal and on the device, then the
superblock and journal blocks that it ends with. -/
def HomesOutside (w after : World) : Prop :=
  ∃ homes rest, after.log = w.log ++ homes ++ rest ∧
    (∀ write, write ∈ homes → ¬ w.sbi.area.Inside write.1 ∧ write.1 < w.size) ∧
    ∀ write, write ∈ rest → ReplayPlaces w.sbi.area write.1

theorem WritesIn.finished {w middle after : World}
    (walked : WritesIn (fun block => ¬ w.sbi.area.Inside block) w middle)
    (kept : DiskKept (ReplayPlaces w.sbi.area) middle after) : HomesOutside w after := by
  obtain ⟨homes, log, outside⟩ := walked.log
  obtain ⟨rest, log', places⟩ := kept.log
  refine ⟨homes, rest, ?_, outside, places⟩
  rw [log', log]

section Confined

variable {w : World} (ring : w.sbi.journalRing = true)
include ring

/-- Between a valid ring's start and its end there is room. -/
theorem ringValid_bounds {control : JournalV3Control} (valid : w.sbi.RingValid control) :
    (w.sbi.ringStart ≤ control.ringTail ∧ control.ringTail < w.sbi.ringEnd) ∧
      2 ≤ w.sbi.journalBlocks := by
  unfold SbInfo.RingValid at valid
  rw [if_pos ring] at valid
  obtain ⟨_, _, headLow, headHigh, tailLow, tailHigh, _⟩ := valid
  refine ⟨⟨tailLow, tailHigh⟩, ?_⟩
  unfold SbInfo.ringStart at headLow
  unfold SbInfo.ringEnd at headHigh
  omega

theorem replayRingControl_homes (holds : Holds w w.disk) (faults : List Bool) :
    HomesOutside w (replayRingControl w (w.disk w.sbi.journalBlock) (w.failing faults)).2 := by
  have silent : WritesIn (fun block => ¬ w.sbi.area.Inside block) w (w.failing faults) :=
    WritesIn.silent rfl rfl rfl rfl
  have stop : HomesOutside w (w.failing faults) := silent.finished (DiskKept.silent rfl rfl)
  rw [replayRingControl]
  by_cases control : ControlHeaderValid w.sbi
      (JournalV3Control.ofBlock (w.disk w.sbi.journalBlock)) ∧
      w.sbi.RingValid (JournalV3Control.ofBlock (w.disk w.sbi.journalBlock)) ∧
      ChecksumValid (w.disk w.sbi.journalBlock)
  case neg =>
    rw [Routine.require, if_neg control]
    exact stop
  rw [Routine.require_bind _ _ _ _ control]
  have long := (ringValid_bounds ring control.2.1).2
  by_cases idle : (JournalV3Control.ofBlock (w.disk w.sbi.journalBlock)).state =
      JOURNAL_V3_STATE_IDLE
  · rw [if_pos idle]
    by_cases clean : journalNeedsRecovery w = false
    · rw [if_pos clean]
      exact silent.finished (journalV3ValidateClean_kept (w.failing faults))
    rw [if_neg clean]
    by_cases sequences :
        (JournalV3Control.ofBlock (w.disk w.sbi.journalBlock)).activeSequence = 0 ∧
        (JournalV3Control.ofBlock (w.disk w.sbi.journalBlock)).checkpointSequence =
          (JournalV3Control.ofBlock (w.disk w.sbi.journalBlock)).lastSequence
    · rw [Routine.require_bind _ _ _ _ sequences]
      exact silent.finished (replayRingDiscard_kept (holds.failing faults).idle long _ _)
    · rw [Routine.require, if_neg sequences]
      exact stop
  rw [if_neg idle]
  by_cases known : (JournalV3Control.ofBlock (w.disk w.sbi.journalBlock)).state ≤
      JOURNAL_V3_STATE_CHECKPOINTING
  case neg =>
    rw [Routine.require, if_neg known]
    exact stop
  rw [Routine.require_bind _ _ _ _ known]
  generalize JournalV3Control.ofBlock (w.disk w.sbi.journalBlock) = control
  have walked : WritesIn (fun block => ¬ w.sbi.area.Inside block) w
      (replayRingWalk control.ringHead control.ringTail control.checkpointSequence
        control.lastSequence (w.failing faults)).2 :=
    IsTrans.trans _ _ _ silent (replayRingWalk_writes _ _ _ _ (w.failing faults))
  have step := replayRingWalk_step control.ringHead control.ringTail control.checkpointSequence
    control.lastSequence (w.failing faults) w.disk (holds.failing faults)
  cases ran : replayRingWalk control.ringHead control.ringTail control.checkpointSequence
    control.lastSequence (w.failing faults) with
  | mk outcome after =>
      rw [ran] at walked step
      cases outcome with
      | error err =>
          rw [Routine.bind_error _ _ _ _ _ ran]
          exact walked.finished (DiskKept.silent rfl rfl)
      | ok last =>
          rw [Routine.bind_ok _ _ _ _ _ ran]
          cases step with
          | arrived result final sequence content ended chain ends held same quieter =>
              have kept := replayRingDiscard_kept held.idle (by rw [same]; exact long)
                control.ringHead last
              rw [walked.area] at kept
              exact walked.finished kept

/-- Home blocks are written outside the journal and on the device only. -/
theorem journalV3ReplayRing_homes (holds : Holds w w.disk) :
    HomesOutside w (journalV3ReplayRing w).2 := by
  have stop (faults : List Bool) : HomesOutside w (w.failing faults) :=
    (WritesIn.silent rfl rfl rfl rfl : WritesIn (fun block => ¬ w.sbi.area.Inside block) w
      (w.failing faults)).finished (DiskKept.silent rfl rfl)
  rw [journalV3ReplayRing]
  rcases kmalloc_found w with ⟨alloc, _⟩ | alloc
  · rw [Routine.bind_error _ _ _ _ _ alloc]
    exact stop _
  rw [Routine.bind_ok _ _ _ _ _ alloc, Routine.read_bind]
  show HomesOutside w ((readFileBlock w.sbi.journalBlock >>= replayRingControl w) _).2
  have one := holds.failing w.faults.tail
  rcases readFileBlock_found one.current w.sbi.journalBlock with ⟨read, _⟩ | ⟨read, inside⟩
  · rw [Routine.bind_error _ _ _ _ _ read]
    exact stop _
  · rw [Routine.bind_ok _ _ _ _ _ read, World.failing_cache, holds.cache]
    exact replayRingControl_homes ring holds _

end Confined

/-! ### Where the walk goes -/

theorem ReplayStarted.area {w started : World} {control : JournalV3Control}
    (start : ReplayStarted w control started) : started.sbi.area = w.sbi.area := by
  obtain ⟨buf, read, _⟩ := start.read
  have moved : WritesIn (fun _ => True) w started := by
    have moves : Moves (WritesIn fun _ => True)
        (kmalloc >>= fun _ => readFileBlock w.sbi.journalBlock) :=
      Moves.bind (WritesIn.io kmalloc_moves) fun _ => WritesIn.io (readFileBlock_moves _)
    exact moves.of_run read
  exact moved.area

theorem RingRound.area {control : JournalV3Control} {started w : World}
    {count position previous : Nat} (round : RingRound control started count position previous w) :
    w.sbi.area = started.sbi.area := by
  induction round with
  | first => rfl
  | @next count position previous w after segment before ahead applied ih =>
      have step := replayRingSegment_writes control.ringHead position previous w
      rw [applied] at step
      exact step.area.trans ih

/-- Every descriptor that the walk accepts names a commit block inside the ring. -/
def CommitsInside (w : World) : Prop :=
  ∀ count position previous reached buf found, Reaches w count position previous reached →
    readFileBlock position reached = (.ok buf, found) →
    SegmentHeaderValid reached.sbi position previous buf →
    (JournalV3Descriptor.ofBlock buf).commitBlock < w.sbi.ringEnd

/-- The replay ends after so many rounds, reads segments inside the ring, and writes home blocks
outside the journal and on the device. -/
structure ReplayConfined (w : World) : Prop where
  ends : ∀ count position previous reached, Reaches w count position previous reached →
    count < 2 ^ 64
  reads : ∀ block, ReplayReads w block → w.sbi.ringStart ≤ block ∧ block < w.sbi.ringEnd
  writes : HomesOutside w (journalV3ReplayRing w).2

theorem ringStart_area {first second : SbInfo} (same : first.area = second.area) :
    first.ringStart = second.ringStart ∧ first.ringEnd = second.ringEnd := by
  have start : first.journalBlock = second.journalBlock := congrArg JournalArea.first same
  have count : first.journalBlocks = second.journalBlocks := congrArg JournalArea.blocks same
  simp [SbInfo.ringStart, SbInfo.ringEnd, start, count]

/-- As long as commit blocks are inside the ring, the walk is. -/
theorem CommitsInside.position {w started reached : World} {control : JournalV3Control}
    {count position previous : Nat} (inside : CommitsInside w)
    (ring : w.sbi.journalRing = true) (start : ReplayStarted w control started)
    (round : RingRound control started count position previous reached) :
    w.sbi.ringStart ≤ position ∧ position < w.sbi.ringEnd := by
  induction round with
  | first => exact (ringValid_bounds ring start.ring).1
  | @next count position previous at' after segment before ahead applied ih =>
      obtain ⟨buf, found, read, header, next⟩ := replayRingSegment_applied applied
      have low := inside count position previous at' buf found ⟨control, started, start, before,
        ahead⟩ read header
      have same := ringStart_area (before.area.trans start.area)
      have place : (JournalV3Descriptor.ofBlock buf).payloadStart = position + 1 :=
        header.2.2.2.2.2.1
      have stop : (JournalV3Descriptor.ofBlock buf).commitBlock =
          (JournalV3Descriptor.ofBlock buf).payloadStart +
            (JournalV3Descriptor.ofBlock buf).entryCount := header.2.2.2.2.2.2.1
      rw [next, SbInfo.ringWrap, same.1, same.2]
      split
      · omega
      · omega

/-- On any content, whatever fails, the ring replay ends and keeps to its places exactly where
every descriptor it accepts names a commit block inside the ring. -/
theorem journalV3ReplayRing_confined (image : Nat → Block) (size : Nat) (faults : List Bool)
    (ring : (loadSuper image).journalRing = true) :
    ReplayConfined ((mounting image size).failing faults) ↔
      CommitsInside ((mounting image size).failing faults) := by
  have holds : Holds ((mounting image size).failing faults)
      ((mounting image size).failing faults).disk := mounting_holds image size faults
  have mounted : ((mounting image size).failing faults).sbi.journalRing = true := ring
  generalize (mounting image size).failing faults = w at *
  constructor
  · intro confined count position previous reached buf found reaches read header
    exact (confined.reads _ ⟨count, position, previous, reached, reaches,
      SegmentReads.commit read header⟩).2
  · intro inside
    constructor
    · intro count position previous reached reaches
      obtain ⟨control, started, start, round, ahead⟩ := reaches
      have counted := round.counted
      omega
    · intro block reads
      obtain ⟨count, position, previous, reached, reaches, reads⟩ := reads
      obtain ⟨control, started, start, round, ahead⟩ := reaches
      have here := inside.position mounted start round
      have commit {buf : Block} {found : World}
          (read : readFileBlock position reached = (.ok buf, found))
          (header : SegmentHeaderValid reached.sbi position previous buf) :=
        inside count position previous reached buf found ⟨control, started, start, round, ahead⟩
          read header
      cases reads with
      | descriptor => exact here
      | commit read header =>
          have low := commit read header
          have place := header.2.2.2.2.2.1
          have stop := header.2.2.2.2.2.2.1
          omega
      | payload read header record committed among earlier =>
          have low := commit read header
          have place := header.2.2.2.2.2.1
          have stop := header.2.2.2.2.2.2.1
          omega
    · exact journalV3ReplayRing_homes mounted holds

theorem area_places {sbi : SbInfo} {area : JournalArea} (same : sbi.area = area) :
    sbi.journalBlock = area.first ∧ sbi.journalBlocks = area.blocks :=
  ⟨congrArg JournalArea.first same, congrArg JournalArea.blocks same⟩

/-- The walk stands before the committed transactions that are left. -/
structure WalkAt (area : JournalArea) (count head position previous : Nat) (w : World)
    (ts : List Transaction) : Prop where
  ready : Ready w area count
  idle : w.sbi.journalReplaying = false
  valid : ∀ t, t ∈ ts → t.Valid area count
  keeps : KeepsCount count (imagesOf ts)
  chain : SegmentRing.Chain area.ringStart area.ringEnd position (spans ts) head
  low : area.ringStart ≤ position
  on : SegmentsOn area w.cache position ts
  ascending : Ascending previous ts

namespace WalkAt

variable {area : JournalArea} {count head position previous : Nat} {w : World}

/-- One round applies the first of them. -/
theorem round {t : Transaction} {ts : List Transaction}
    (walk : WalkAt area count head position previous w (t :: ts)) {segment : Applied previous}
    {after : World}
    (applied : replayRingSegment head position previous w = (.ok (some segment), after)) :
    WalkAt area count head segment.segmentEnd segment.sequence after ts := by
  have first := walk.valid t List.mem_cons_self
  have chain := walk.chain
  have low := walk.low
  rw [spans_cons] at chain
  obtain ⟨_, _, inside, _, later⟩ := chain
  obtain ⟨found, sequence, ends, run⟩ := replayRingSegment_committed walk.ready walk.idle first
    head position previous walk.ascending.1 low inside walk.on.1
  rw [run] at applied
  obtain ⟨same, rfl⟩ := Prod.mk.inj applied
  obtain rfl := Option.some.inj (Except.ok.inj same)
  have next := SegmentRing.wrap_mem area.ringStart area.ringEnd (position + t.span) (by omega)
    inside (by unfold Transaction.span at inside; omega)
  have padded : SegmentRing.Chain area.ringStart area.ringEnd
      (SegmentRing.wrap area.ringStart area.ringEnd (position + t.span)) (spans ts ++ []) head := by
    rw [List.append_nil]
    exact later
  have keepsFirst : KeepsCount count t.images := fun image member =>
    walk.keeps image (List.mem_append_left _ member)
  have keepsRest : KeepsCount count (imagesOf ts) := fun image member =>
    walk.keeps image (List.mem_append_right _ member)
  rw [sequence, ends]
  constructor
  case ready => exact walk.ready.written t.images keepsFirst
  case idle => rw [World.writtenAll_sbi, walk.idle]
  case valid => exact fun other member => walk.valid other (List.mem_cons_of_mem _ member)
  case keeps => exact keepsRest
  case chain => exact later
  case low => exact next.1
  case on =>
    rw [World.writtenAll_cache]
    exact walk.on.2.home padded next.1 t.images first.outside
  case ascending => exact walk.ascending.2

/-- The descriptor in front of the walk names a commit block inside the ring. -/
theorem commit_inside {ts : List Transaction} (walk : WalkAt area count head position previous w ts)
    (ahead : position ≠ head) : position < area.ringEnd ∧
      (JournalV3Descriptor.ofBlock (w.cache position)).commitBlock < area.ringEnd := by
  cases ts with
  | nil => exact absurd walk.chain ahead
  | cons t ts =>
      have inside := walk.chain.2.2.1
      have bounded := placesAt_bounded t position _ inside
        (walk.ready.journal.trans walk.ready.bounded)
      have descriptor : w.cache position = t.descriptor (t.placesAt position) :=
        walk.on.1.descriptor
      rw [descriptor, t.ofBlock_descriptor _ area count (walk.valid t List.mem_cons_self) bounded
        (walk.ready.homes.trans walk.ready.bounded)]
      show position < area.ringEnd ∧ position + 1 + t.images.length < area.ringEnd
      unfold Transaction.span at inside
      omega

end WalkAt

/-- Round by round the walk stands before fewer of them. -/
theorem RingRound.walkAt {control : JournalV3Control} {started w : World}
    {count position previous blocks : Nat} {area : JournalArea} {ts : List Transaction}
    (round : RingRound control started count position previous w)
    (start : WalkAt area blocks control.ringHead control.ringTail control.checkpointSequence
      started ts) : ∃ rest, WalkAt area blocks control.ringHead position previous w rest := by
  induction round with
  | first => exact ⟨ts, start⟩
  | next before ahead applied ih =>
      obtain ⟨rest, walk⟩ := ih
      cases rest with
      | nil => exact absurd walk.chain ahead
      | cons t rest => exact ⟨rest, walk.round applied⟩

/-- The ring replay goes by the control block on the device. -/
theorem ReplayStarted.mounting {image : Nat → Block} {size : Nat} {control : JournalV3Control}
    {started : World} (start : ReplayStarted (mounting image size) control started) :
    control = JournalV3Control.ofBlock (image (loadSuper image).journalBlock) ∧
      started = Cryexts.mounting image size := by
  have healthy := mounting_healthy image size
  obtain ⟨buf, read, rfl, _⟩ := start.read
  rw [kmalloc_bind _ healthy] at read
  change readFileBlock (loadSuper image).journalBlock _ = _ at read
  by_cases inside : (loadSuper image).journalBlock < size
  · rw [readFileBlock_run _ healthy _ inside] at read
    obtain ⟨same, world⟩ := Prod.mk.inj read
    exact ⟨congrArg JournalV3Control.ofBlock (Except.ok.inj same).symm, world.symm⟩
  · have outside : (Cryexts.mounting image size).size ≤ (loadSuper image).journalBlock :=
      Nat.not_lt.mp inside
    rw [readFileBlock_eq, if_pos (Or.inr outside)] at read
    cases congrArg Prod.fst read

/-- What a mount has committed is replayed inside the ring. -/
theorem RingInv.commitsInside {w : World} {area : JournalArea} {count : Nat}
    {pending : List Transaction} {home : Nat → Block} (inv : RingInv w area count pending home) :
    CommitsInside (mounting w.disk w.size) := by
  intro rounds position previous reached buf found reaches read _
  obtain ⟨control, started, start, round, ahead⟩ := reaches
  obtain ⟨rfl, rfl⟩ := start.mounting
  have mount := ringMount_of_describes inv inv.device
  have first : (loadSuper w.disk).journalBlock = area.first := (area_places mount.sameArea).1
  have control := inv.control
  have stop : (mounting w.disk w.size).sbi.ringEnd = area.ringEnd := by
    rw [← mount.sameArea]
    rfl
  have begins : WalkAt area count w.sbi.journalRingHead w.sbi.journalRingTail
      w.sbi.journalCheckpointSequence (mounting w.disk w.size) pending :=
    ⟨mount.toReady, mount.idle, inv.held.valid, inv.held.keeps, inv.chain, inv.tailLow,
      inv.held.on, inv.held.ascending⟩
  rw [first] at round ahead
  rw [← control.headIs, ← control.tailIs, ← control.checkpointIs] at begins
  obtain ⟨rest, walk⟩ := round.walkAt begins
  have inside := walk.commit_inside ahead
  have room := walk.ready.journal
  have size : position < reached.size := lt_of_lt_of_le inside.1 room
  rw [readFileBlock_run _ walk.ready.healthy _ size] at read
  rw [stop, ← Except.ok.inj (congrArg Prod.fst read)]
  exact inside.2

/-- The theorem at a device with two committed transactions in its ring. -/
theorem journalV3ReplayRing_confined_wide :
    ∃ (w : World) (history : List (Transaction × Nat)),
    RingRun CommitRoom 4118 wideMount w history ∧ history.length = 2 ∧
      w.sbi.journalRingTail = 4103 ∧ w.sbi.journalRingHead = 4111 ∧
      ReplayConfined ((mounting w.disk w.size).failing []) := by
  obtain ⟨first, early, _, one⟩ :=
    wideMount_run.commit 9 sampleContent (by decide) (by decide) (by decide)
  obtain ⟨w, late, _, two⟩ := one.commit 4 sampleContent (by decide) (by decide) (by decide)
  obtain ⟨home, inv⟩ := two.inv
  have mount := ringMount_of_describes inv inv.device
  refine ⟨w, _, two.run, rfl, two.tailAt, two.headAt, ?_⟩
  apply (journalV3ReplayRing_confined w.disk w.size [] mount.ring).mpr
  rw [mounting_failing]
  exact inv.commitsInside

/-- The sole segment of a ring, whose descriptor lies in the ring's last block and so names a
commit block behind it. -/
def overlongTransaction : Transaction := ⟨1, []⟩

def overlongPlaces : JournalV3Segment := ⟨4110, 4111, 0, 4111⟩

/-- A ring with one segment, which begins in the ring's last block. -/
def overlongRing : Nat → Block :=
  store (store smallMount.disk 4102 (journalV3PrepareControl
    { smallMount.sbi with journalRingHead := 4103, journalRingTail := 4110 }
    JOURNAL_V3_STATE_COMMITTED 1 0 0 overlongPlaces)) 4110
    (overlongTransaction.descriptor overlongPlaces)

theorem overlongTransaction_valid : overlongTransaction.Valid ⟨4102, 9⟩ 4111 where
  fits := Nat.zero_le _
  bounded := by decide
  home := by simp [overlongTransaction]
  distinct := List.nodup_nil

/-- A descriptor at the tail of a ring that is not empty: the walk reads the commit block it
names. -/
theorem mounting_reads {image : Nat → Block} {size : Nat} {area : JournalArea}
    (same : (loadSuper image).area = area) (ring : (loadSuper image).journalRing = true)
    (inside : area.ringEnd < size) {state last active checkpoint head tail : Nat}
    (control : RingControl area (image area.first) state last active checkpoint head tail)
    (live : state ≠ JOURNAL_V3_STATE_IDLE ∧ state ≤ JOURNAL_V3_STATE_CHECKPOINTING)
    (apart : tail ≠ head)
    (header : SegmentHeaderValid (loadSuper image) tail checkpoint (image tail)) :
    ReplayReads (mounting image size) (JournalV3Descriptor.ofBlock (image tail)).commitBlock := by
  have healthy := mounting_healthy image size
  have low := control.tailLow
  have high := control.tailHigh
  have first : (loadSuper image).journalBlock = area.first := (area_places same).1
  have start : ReplayStarted (mounting image size) (JournalV3Control.ofBlock (image area.first))
      (mounting image size) := by
    have accepted := control.accepted (loadSuper image) ring same
    refine ⟨⟨image area.first, ?_, rfl, control.valid⟩, accepted.1, accepted.2.1, ?_⟩
    · rw [kmalloc_bind _ healthy]
      show readFileBlock (loadSuper image).journalBlock _ = _
      rw [first]
      apply readFileBlock_run _ healthy
      show area.first < size
      unfold JournalArea.ringEnd at inside
      omega
    · rw [control.stateIs]
      exact live
  have round : RingRound (JournalV3Control.ofBlock (image area.first)) (mounting image size) 0 _ _
      _ := RingRound.first
  rw [control.tailIs, control.checkpointIs] at round
  have read := readFileBlock_run _ healthy tail (show tail < size by omega)
  refine ⟨0, tail, checkpoint, _, ⟨_, _, start, round, ?_⟩, SegmentReads.commit read header⟩
  rw [control.headIs]
  exact apart

theorem overlong_control {sbi : SbInfo} (same : sbi.area = ⟨4102, 9⟩)
    (ring : sbi.journalRing = true) :
    RingControl ⟨4102, 9⟩ (journalV3PrepareControl
      { sbi with journalRingHead := 4103, journalRingTail := 4110 }
      JOURNAL_V3_STATE_COMMITTED 1 0 0 overlongPlaces) JOURNAL_V3_STATE_COMMITTED 1 0 0 4103
      4110 := by
  have first : sbi.journalBlock = 4102 := (area_places same).1
  have count : sbi.journalBlocks = 9 := (area_places same).2
  have fits : ControlFits { sbi with journalRingHead := 4103, journalRingTail := 4110 }
      JOURNAL_V3_STATE_COMMITTED 1 0 0 overlongPlaces := by
    constructor
    case limit => simp [first, count]
    case ring => simp [SbInfo.ringEnd, SbInfo.ringStart, first, count]
    case places => exact ⟨by decide, by decide, by decide⟩
    all_goals decide
  have prepared := RingControl.prepared
    { sbi with journalRingHead := 4103, journalRingTail := 4110 } ring fits
    (by simp [SbInfo.ringStart, first]) (fun idle => absurd idle (by decide))
  rw [← same]
  exact prepared

/-- The replay of a ring whose one descriptor lies in its last block looks for the commit record
behind the journal. -/
theorem journalV3ReplayRing_strays : (loadSuper overlongRing).journalRing = true ∧
    ∃ block, ReplayReads (mounting overlongRing 4112) block ∧
      ¬ block < (loadSuper overlongRing).ringEnd := by
  have mounted := smallMount_mounted
  have super : overlongRing 0 = smallMount.disk 0 := by
    rw [overlongRing, WriteLog.store_other _ _ _ _ (by decide),
      WriteLog.store_other _ _ _ _ (by decide)]
  have describes : Describes (overlongRing 0) smallMount.sbi 4111 := by
    rw [super]
    exact mounted.device
  have area : (loadSuper overlongRing).area = ⟨4102, 9⟩ :=
    describes.loaded.1.trans mounted.ready.sameArea
  have ring : (loadSuper overlongRing).journalRing = true := 
    describes.loaded.2.2.2.2.trans mounted.ring
  have control : RingControl ⟨4102, 9⟩ (overlongRing 4102) JOURNAL_V3_STATE_COMMITTED 1 0 0 4103
      4110 := by
    have here : overlongRing 4102 = journalV3PrepareControl
        { smallMount.sbi with journalRingHead := 4103, journalRingTail := 4110 }
        JOURNAL_V3_STATE_COMMITTED 1 0 0 overlongPlaces := by
      rw [overlongRing, WriteLog.store_other _ _ _ _ (by decide), WriteLog.store_same]
    rw [here]
    exact overlong_control mounted.ready.sameArea mounted.ring
  have here : overlongRing 4110 = overlongTransaction.descriptor overlongPlaces :=
    WriteLog.store_same _ _ _
  have read := Transaction.ofBlock_descriptor overlongTransaction overlongPlaces ⟨4102, 9⟩ 4111
    overlongTransaction_valid ⟨by decide, by decide, by decide⟩ (by decide)
  rw [← here] at read
  have names : (JournalV3Descriptor.ofBlock (overlongRing 4110)).commitBlock = 4111 := by
    rw [read]
    rfl
  have header : SegmentHeaderValid (loadSuper overlongRing) 4110 0 (overlongRing 4110) := by
    rw [SegmentHeaderValid, read]
    have sealed : ChecksumValid (overlongRing 4110) := by
      rw [here]
      exact Transaction.descriptor_valid _ _
    simp [Transaction.header, journalV3DescriptorHeader, overlongPlaces, overlongTransaction, sealed]
  have reads := @mounting_reads _ 4112 _ area ring (by decide) _ _ _ _ _ _ control ⟨by decide, by decide⟩
    (by decide) header
  rw [names] at reads
  refine ⟨ring, 4111, reads, ?_⟩
  rw [SbInfo.ringEnd, (area_places area).1, (area_places area).2]
  decide

end Cryexts
