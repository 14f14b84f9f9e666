import Cryexts.Journal.ReplaySegment

set_option autoImplicit false

namespace Cryexts

open WriteLog (store applyWrites)

/-- Accepted segments from one position to another, each applied to what the ones before it
left. -/
inductive RingApplied (sbi : SbInfo) (size head : Nat) : Nat → Nat → (Nat → Block) → Nat → Nat →
    (Nat → Block) → Prop
  | here (position previous : Nat) (cells : Nat → Block) :
      RingApplied sbi size head position previous cells position previous cells
  | segment {position previous : Nat} {cells : Nat → Block} {final last : Nat}
      {content : Nat → Block} (apart : position ≠ head)
      (accepted : SegmentAccepted sbi cells position previous)
      (readable : SegmentReadable sbi cells position previous size)
      (homes : SegmentHomes cells position size)
      (rest : RingApplied sbi size head (segmentNext sbi cells position)
        (segmentHeader cells position).sequence (applyWrites cells (segmentCopies cells position))
        final last content) :
      RingApplied sbi size head position previous cells final last content

/-- The device and the buffers hold `cells`. -/
structure Holds (w : World) (cells : Nat → Block) : Prop where
  current : w.Current
  idle : w.sbi.journalReplaying = false
  cache : w.cache = cells
  disk : w.disk = cells

theorem Holds.failing {w : World} {cells : Nat → Block} (holds : Holds w cells)
    (faults : List Bool) : Holds (w.failing faults) cells :=
  ⟨holds.current, holds.idle, holds.cache, holds.disk⟩

theorem Holds.writtenAll {w : World} {cells : Nat → Block} (holds : Holds w cells)
    (writes : List (Nat × Block)) : Holds (w.writtenAll writes) (applyWrites cells writes) where
  current := holds.current.writtenAll writes
  idle := by
    rw [World.writtenAll_sbi]
    exact holds.idle
  cache := by rw [World.writtenAll_cache, holds.cache]
  disk := by rw [World.writtenAll_disk, holds.disk]

/-- What the ring walk comes to. -/
inductive WalkStep (w : World) (head position previous : Nat) (cells : Nat → Block) :
    Except Errno Nat × World → Prop
  | failed (after : World) : WalkStep w head position previous cells (.error .eio, after)
  | refused (final last : Nat) (content : Nat → Block) (after : World)
      (chain : RingApplied w.sbi w.size head position previous cells final last content)
      (apart : final ≠ head)
      (refused : SegmentRefused w.sbi content final last w.size head)
      (holds : Holds after content) :
      WalkStep w head position previous cells (.error .euclean, after)
  | arrived (result final last : Nat) (content : Nat → Block) (after : World)
      (chain : RingApplied w.sbi w.size head position previous cells final last content)
      (ends : final = head ∨ SegmentUnfinished w.sbi content final last head)
      (holds : Holds after content) (same : after.sbi = w.sbi)
      (quieter : Quieter w.faults after.faults) :
      WalkStep w head position previous cells (.ok result, after)

theorem WalkStep.behind {w after : World} {head position previous : Nat} {cells : Nat → Block}
    {outcome : Except Errno Nat × World}
    (rest : WalkStep after head (segmentNext w.sbi cells position)
      (segmentHeader cells position).sequence (applyWrites cells (segmentCopies cells position))
      outcome)
    (sbi : after.sbi = w.sbi) (size : after.size = w.size)
    (quieter : Quieter w.faults after.faults) (apart : position ≠ head)
    (accepted : SegmentAccepted w.sbi cells position previous)
    (readable : SegmentReadable w.sbi cells position previous w.size)
    (homes : SegmentHomes cells position w.size) :
    WalkStep w head position previous cells outcome := by
  cases rest with
  | failed last => exact WalkStep.failed last
  | refused final last content left chain away refused holds =>
      rw [sbi, size] at chain refused
      exact WalkStep.refused final last content left
        (RingApplied.segment apart accepted readable homes chain) away refused holds
  | arrived result final last content left chain ends holds same later =>
      rw [sbi, size] at chain
      rw [sbi] at ends same
      exact WalkStep.arrived result final last content left
        (RingApplied.segment apart accepted readable homes chain) ends holds same
        (quieter.trans later)

/-- The ring walk over any content, whatever fails in it. -/
theorem replayRingWalk_step (head position previous lastSequence : Nat) (w : World)
    (cells : Nat → Block) (holds : Holds w cells) :
    WalkStep w head position previous cells
      (replayRingWalk head position previous lastSequence w) := by
  induction position, previous, lastSequence, w using replayRingWalk.induct head
    generalizing cells with
  | case1 previous lastSequence w =>
      rw [replayRingWalk, if_pos rfl]
      exact WalkStep.arrived _ _ _ _ _ (RingApplied.here _ _ _) (Or.inl rfl) holds rfl
        (Quieter.refl _)
  | case2 position previous lastSequence w apart err after ran =>
      have step := replayRingSegment_step holds.current holds.idle head position previous
      rw [ran] at step
      rw [replayRingWalk, if_neg apart, ran]
      cases step with
      | failed after reason => exact WalkStep.failed _
      | refused later refused =>
          rw [holds.cache] at refused
          exact WalkStep.refused _ _ _ _ (RingApplied.here _ _ _) apart refused
            (holds.failing later)
  | case3 position previous lastSequence w apart after ran =>
      have step := replayRingSegment_step holds.current holds.idle head position previous
      rw [ran] at step
      rw [replayRingWalk, if_neg apart, ran]
      cases step with
      | unfinished later quieter unfinished =>
          rw [holds.cache] at unfinished
          exact WalkStep.arrived _ _ _ _ _ (RingApplied.here _ _ _) (Or.inr unfinished)
            (holds.failing later) rfl quieter
  | case4 position previous lastSequence w apart segment after ran ih =>
      have step := replayRingSegment_step holds.current holds.idle head position previous
      rw [ran] at step
      rw [replayRingWalk, if_neg apart, ran]
      cases step with
      | applied later quieter accepted readable homes segment sequence next =>
          rw [holds.cache] at accepted readable homes
          have more := ih _ ((holds.writtenAll _).failing later)
          rw [sequence, next, holds.cache] at more
          show WalkStep w head position previous cells
            (replayRingWalk head segment.segmentEnd segment.sequence segment.sequence _)
          rw [sequence, next, holds.cache]
          exact more.behind (World.writtenAll_sbi _ _) (World.writtenAll_size _ _) quieter apart
            accepted readable homes

/-- Where nothing fails the walk applies every chain it finds, and stops at a refused segment. -/
theorem RingApplied.walks {sbi : SbInfo} {size head position previous : Nat}
    {cells content : Nat → Block} {final last : Nat}
    (chain : RingApplied sbi size head position previous cells final last content)
    (apart : final ≠ head) (refused : SegmentRefused sbi content final last size head) :
    ∀ (w : World) (lastSequence : Nat), w.sbi = sbi → w.size = size → Holds w cells →
      w.faults = [] → ∃ after,
        replayRingWalk head position previous lastSequence w = (.error .euclean, after) ∧
        after.disk = content := by
  induction chain with
  | here position previous cells =>
      intro w lastSequence sbi size holds none
      have step := replayRingSegment_step holds.current holds.idle head position previous
      rw [replayRingWalk, if_neg apart]
      generalize replayRingSegment head position previous w = outcome at step
      rw [← sbi, ← size, ← holds.cache] at refused
      cases step with
      | failed after reason =>
          rcases reason none with unreadable | ⟨accepted, _⟩
          · exact absurd refused.readable unreadable
          · exact absurd accepted refused.unaccepted
      | refused later _ => exact ⟨_, rfl, (holds.failing later).disk⟩
      | unfinished later quieter unfinished => exact absurd unfinished refused.finished
      | applied later quieter accepted readable homes segment sequence next =>
          exact absurd accepted refused.unaccepted
  | segment away accepted readable homes rest ih =>
      intro w lastSequence sbi size holds none
      rename_i position previous cells final last content
      have step := replayRingSegment_step holds.current holds.idle head position previous
      rw [replayRingWalk, if_neg away]
      generalize replayRingSegment head position previous w = outcome at step
      cases step with
      | failed after reason =>
          rw [holds.cache, sbi, size] at reason
          rcases reason none with unreadable | ⟨_, beyond⟩
          · exact absurd readable unreadable
          · exact absurd homes beyond
      | refused later refused =>
          rw [holds.cache, sbi] at refused
          exact absurd accepted refused.unaccepted
      | unfinished later quieter unfinished =>
          rw [holds.cache, sbi] at unfinished
          exact absurd accepted.committed unfinished.2.1
      | applied later quieter _ _ _ segment sequence next =>
          show ∃ after, replayRingWalk head segment.segmentEnd segment.sequence segment.sequence
            _ = _ ∧ _
          rw [sequence, next, holds.cache, sbi]
          apply ih apart refused
          · exact (World.writtenAll_sbi _ _).trans sbi
          · exact (World.writtenAll_size _ _).trans size
          · exact (holds.writtenAll _).failing later
          · exact quieter none

section Inside

variable {sbi : SbInfo} {size head : Nat}

/-- Behind the ring the walk never comes back. -/
theorem RingApplied.beyond {position previous final last : Nat} {cells content : Nat → Block}
    (chain : RingApplied sbi size head position previous cells final last content)
    (behind : sbi.ringEnd ≤ position) : sbi.ringEnd ≤ final := by
  induction chain with
  | here => exact behind
  | segment apart accepted readable homes rest ih =>
      rename_i position previous cells final last content
      apply ih
      have start : (segmentHeader cells position).payloadStart = position + 1 :=
        accepted.header.2.2.2.2.2.1
      have ends : (segmentHeader cells position).commitBlock =
          (segmentHeader cells position).payloadStart +
            (segmentHeader cells position).entryCount := accepted.header.2.2.2.2.2.2.1
      unfold segmentNext SbInfo.ringWrap
      split <;> omega

/-- A segment the walk went on from without leaving the ring lies in it. -/
theorem commitBlock_inside {position : Nat} {cells : Nat → Block}
    (next : segmentNext sbi cells position < sbi.ringEnd) :
    (segmentHeader cells position).commitBlock < sbi.ringEnd := by
  unfold segmentNext SbInfo.ringWrap at next
  split at next <;> omega

/-- The home writes of an accepted segment stay out of the journal. -/
theorem SegmentAccepted.outside {position previous : Nat} {cells : Nat → Block}
    (accepted : SegmentAccepted sbi cells position previous) :
    OutsideJournal sbi.area (segmentCopies cells position) := by
  intro image member
  obtain ⟨index, among, same⟩ := homeCopies_homes _ _ _ _ _ member
  rw [same]
  exact (accepted.entries index among).entry.2.1

theorem RingApplied.journal {position previous final last : Nat} {cells content : Nat → Block}
    (chain : RingApplied sbi size head position previous cells final last content) (block : Nat)
    (inside : sbi.area.Inside block) : content block = cells block := by
  induction chain with
  | here => rfl
  | segment apart accepted readable homes rest ih =>
      rw [ih]
      exact accepted.outside.cell _ _ inside

/-- The home writes of a segment that lies in the ring are its payloads. -/
theorem SegmentAccepted.copies {position previous : Nat} {cells : Nat → Block}
    (accepted : SegmentAccepted sbi cells position previous) (low : sbi.ringStart ≤ position)
    (next : segmentNext sbi cells position < sbi.ringEnd) :
    segmentCopies cells position =
      homeImages (cells position) (segmentHeader cells position).payloadStart cells
        (List.range (segmentHeader cells position).entryCount) := by
  apply homeCopies_apart
  intro index member other among same
  have outside := (accepted.entries index member).entry.2.1
  have start : (segmentHeader cells position).payloadStart = position + 1 :=
    accepted.header.2.2.2.2.2.1
  have ends : (segmentHeader cells position).commitBlock =
      (segmentHeader cells position).payloadStart +
        (segmentHeader cells position).entryCount := accepted.header.2.2.2.2.2.2.1
  have last := commitBlock_inside next
  have small := List.mem_range.mp among
  rw [← same] at outside
  apply outside
  unfold SbInfo.ringStart at low
  unfold SbInfo.ringEnd at last
  constructor <;> omega

theorem SegmentAccepted.copied {position previous : Nat} {cells : Nat → Block}
    (accepted : SegmentAccepted sbi cells position previous) (low : sbi.ringStart ≤ position)
    (next : segmentNext sbi cells position < sbi.ringEnd) {block : Nat} {content : Block}
    (member : (block, content) ∈ segmentCopies cells position) :
    ∃ index, index < (segmentHeader cells position).entryCount ∧
      (JournalV3Entry.ofBlock (cells position) index).homeBlock = block ∧
      cells (position + 1 + index) = content := by
  have start : (segmentHeader cells position).payloadStart = position + 1 :=
    accepted.header.2.2.2.2.2.1
  rw [accepted.copies low next, start] at member
  obtain ⟨index, among, image⟩ := List.mem_map.mp member
  obtain ⟨home, payload⟩ := Prod.mk.inj image
  exact ⟨index, List.mem_range.mp among, home, payload⟩

/-- A home block's content is a payload of an accepted segment of the ring as it stood. -/
structure SegmentCarries (sbi : SbInfo) (size head start before : Nat) (cells : Nat → Block)
    (block : Nat) (content : Block) (position last : Nat) (found : Nat → Block) : Prop where
  chain : RingApplied sbi size head start before cells position last found
  journal : ∀ other, sbi.area.Inside other → found other = cells other
  accepted : SegmentAccepted sbi found position last
  low : sbi.ringStart ≤ position
  high : (segmentHeader found position).commitBlock < sbi.ringEnd
  payload : ∃ index, index < (segmentHeader found position).entryCount ∧
    (JournalV3Entry.ofBlock (found position) index).homeBlock = block ∧
    cells (position + 1 + index) = content

/-- What a chain that stays in the ring has changed it has taken from its payloads. -/
theorem RingApplied.carries {position previous final last : Nat} {cells content : Nat → Block}
    (chain : RingApplied sbi size head position previous cells final last content)
    (low : sbi.ringStart ≤ position) (high : final < sbi.ringEnd) (block : Nat) :
    content block = cells block ∨ ∃ place sequence found, SegmentCarries sbi size head position
      previous cells block (content block) place sequence found := by
  induction chain with
  | here => exact Or.inl rfl
  | segment apart accepted readable homes rest ih =>
      rename_i position previous cells final last content
      have start : (segmentHeader cells position).payloadStart = position + 1 :=
        accepted.header.2.2.2.2.2.1
      have ends : (segmentHeader cells position).commitBlock =
          (segmentHeader cells position).payloadStart +
            (segmentHeader cells position).entryCount := accepted.header.2.2.2.2.2.2.1
      have next : segmentNext sbi cells position < sbi.ringEnd := by
        by_contra behind
        have beyond := rest.beyond (Nat.le_of_not_lt behind)
        omega
      have inside := commitBlock_inside next
      have after : sbi.ringStart ≤ segmentNext sbi cells position := by
        unfold segmentNext SbInfo.ringWrap
        split <;> omega
      have kept : ∀ other, sbi.area.Inside other →
          applyWrites cells (segmentCopies cells position) other = cells other :=
        fun other member => accepted.outside.cell _ _ member
      rcases ih after high with same | ⟨place, sequence, found, carried⟩
      · rw [same]
        rcases WriteLog.applyWrites_mem_or_other cells (segmentCopies cells position) block with
          same | member
        · exact Or.inl same
        · right
          generalize applyWrites cells (segmentCopies cells position) block = value at member ⊢
          exact ⟨position, previous, cells, RingApplied.here _ _ _, fun _ _ => rfl, accepted, low,
            inside, accepted.copied low next member⟩
      · right
        obtain ⟨index, small, home, payload⟩ := carried.payload
        refine ⟨place, sequence, found, RingApplied.segment apart accepted readable homes
          carried.chain, ?_, carried.accepted, carried.low, carried.high, index, small, home, ?_⟩
        · intro other member
          rw [carried.journal other member, kept other member]
        · rw [← payload, kept]
          have begins : (segmentHeader found place).payloadStart = place + 1 :=
            carried.accepted.header.2.2.2.2.2.1
          have stops : (segmentHeader found place).commitBlock =
              (segmentHeader found place).payloadStart +
                (segmentHeader found place).entryCount := carried.accepted.header.2.2.2.2.2.2.1
          have lower := carried.low
          have upper := carried.high
          unfold SbInfo.ringStart at lower
          unfold SbInfo.ringEnd at upper
          show sbi.journalBlock ≤ _ ∧ _ < sbi.journalBlock + sbi.journalBlocks
          omega

end Inside

end Cryexts
