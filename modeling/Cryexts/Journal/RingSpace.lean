import Cryexts.Journal.RingCommit
import Cryexts.Lib.RingSpace
import Cryexts.Mkfs

set_option autoImplicit false

namespace Cryexts

open SegmentRing (Space Cursors Covers wrap)

/-- The cells of a segment, its descriptor and its commit block included. -/
def JournalV3Segment.stretch (segment : JournalV3Segment) : Nat × Nat :=
  (segment.descriptorBlock, segment.commitBlock + 1 - segment.descriptorBlock)

/-- The segment of `entries` payloads at `position`. -/
def segmentAt (position entries : Nat) : JournalV3Segment :=
  ⟨position, position + 1, entries, position + 1 + entries⟩

theorem segmentAt_stretch (position entries : Nat) :
    (segmentAt position entries).stretch = (position, entries + 2) := by
  unfold JournalV3Segment.stretch segmentAt
  simp only [Prod.mk.injEq, true_and]
  omega

/-- A ring as commits and checkpoints move it: the mount's journal state with the live
segments, oldest first. Every allocation of the run is `allowed` before it is made. -/
inductive RingReached (allowed : SbInfo → List JournalV3Segment → Nat → Prop) :
    SbInfo → List JournalV3Segment → Prop
  | empty (sbi : SbInfo) (ring : sbi.journalRing = true)
      (meet : sbi.journalRingTail = sbi.journalRingHead)
      (low : sbi.ringStart ≤ sbi.journalRingHead) (high : sbi.journalRingHead < sbi.ringEnd) :
      RingReached allowed sbi []
  | allocate {sbi : SbInfo} {live : List JournalV3Segment} {entries : Nat}
      {allocation : JournalV3Allocation} (before : RingReached allowed sbi live)
      (meets : allowed sbi live entries)
      (success : journalV3RingAllocate sbi entries = .ok allocation) :
      RingReached allowed (sbi.takeSegment sbi.journalRingHead allocation)
        (live ++ [allocation.segment])
  | remove {sbi : SbInfo} {oldest : JournalV3Segment} {rest : List JournalV3Segment}
      (before : RingReached allowed sbi (oldest :: rest))
      (pending : sbi.journalRingTail ≠ sbi.journalRingHead) :
      RingReached allowed
        { sbi with journalRingTail := sbi.ringWrap (oldest.commitBlock + 1) } rest

/-- Where a segment of `entries` payloads may be placed: inside the ring, off the control
block and every live segment, and with the head behind it off the tail. -/
structure RingPlace (sbi : SbInfo) (live : List JournalV3Segment) (entries position : Nat) :
    Prop where
  low : sbi.ringStart ≤ position
  high : position + (entries + 2) ≤ sbi.ringEnd
  control : ∀ block, Covers (position, entries + 2) block → block ≠ sbi.journalBlock
  apart : ∀ segment, segment ∈ live → ∀ block, Covers segment.stretch block →
    ¬ Covers (position, entries + 2) block
  spare : sbi.ringWrap (position + (entries + 2)) ≠
    if live = [] then position else sbi.journalRingTail

/-- An allocation is safe: a success is a fitting place, whose head is off the tail, and a
refusal means there is none at the head or at the ring start. -/
def RingAllocationSafe (sbi : SbInfo) (live : List JournalV3Segment) (entries : Nat) : Prop :=
  (∀ allocation, journalV3RingAllocate sbi entries = .ok allocation →
    ∃ position, allocation.segment = segmentAt position entries ∧
      RingPlace sbi live entries position ∧
      (sbi.takeSegment sbi.journalRingHead allocation).journalRingHead ≠
        (sbi.takeSegment sbi.journalRingHead allocation).journalRingTail) ∧
  (journalV3RingAllocate sbi entries = .error .enospc →
    ∀ position, position = sbi.journalRingHead ∨ position = sbi.ringStart →
      ¬ RingPlace sbi live entries position)

/-- The segment leaves a block free behind it in a ring that is in use; and where it would
pass a wrapped ring's tail, a live segment begins there. -/
structure RingSpare (sbi : SbInfo) (live : List JournalV3Segment) (entries : Nat) : Prop where
  between : sbi.journalRingHead < sbi.journalRingTail →
    sbi.journalRingHead + (entries + 2) ≠ sbi.journalRingTail
  held : sbi.journalRingHead < sbi.journalRingTail →
    sbi.journalRingTail < sbi.journalRingHead + (entries + 2) →
    sbi.journalRingHead + (entries + 2) ≤ sbi.ringEnd →
    ∃ oldest, live.head? = some oldest ∧ oldest.descriptorBlock = sbi.journalRingTail
  behind : sbi.journalRingTail < sbi.journalRingHead →
    sbi.journalRingHead + (entries + 2) = sbi.ringEnd → sbi.journalRingTail ≠ sbi.ringStart
  around : sbi.journalRingTail < sbi.journalRingHead →
    sbi.ringEnd < sbi.journalRingHead + (entries + 2) →
    sbi.ringStart + (entries + 2) ≠ sbi.journalRingTail

/-- The place the allocator takes for `needed` blocks. -/
inductive RingChoice (sbi : SbInfo) (needed : Nat) : Nat → Prop
  | fresh (empty : sbi.journalRingHead = sbi.journalRingTail)
      (fits : sbi.journalRingHead + needed ≤ sbi.ringEnd) :
      RingChoice sbi needed sbi.journalRingHead
  | restarted (empty : sbi.journalRingHead = sbi.journalRingTail)
      (beyond : sbi.ringEnd < sbi.journalRingHead + needed) :
      RingChoice sbi needed sbi.ringStart
  | between (order : sbi.journalRingHead < sbi.journalRingTail)
      (fits : sbi.journalRingHead + needed ≤ sbi.journalRingTail) :
      RingChoice sbi needed sbi.journalRingHead
  | behind (order : sbi.journalRingTail < sbi.journalRingHead)
      (fits : sbi.journalRingHead + needed ≤ sbi.ringEnd) :
      RingChoice sbi needed sbi.journalRingHead
  | around (order : sbi.journalRingTail < sbi.journalRingHead)
      (beyond : sbi.ringEnd < sbi.journalRingHead + needed)
      (fits : sbi.ringStart + needed ≤ sbi.journalRingTail) :
      RingChoice sbi needed sbi.ringStart

/-- Why the allocator refuses `needed` blocks. -/
inductive RingRefusal (sbi : SbInfo) (needed : Nat) : Prop
  | large (whole : sbi.ringEnd - sbi.ringStart ≤ needed)
  | between (order : sbi.journalRingHead < sbi.journalRingTail)
      (short : sbi.journalRingTail < sbi.journalRingHead + needed)
  | around (order : sbi.journalRingTail < sbi.journalRingHead)
      (beyond : sbi.ringEnd < sbi.journalRingHead + needed)
      (short : sbi.journalRingTail < sbi.ringStart + needed)

/-- What the allocator does in a ring, case by case. -/
theorem journalV3RingAllocate_cases (sbi : SbInfo) (entries : Nat)
    (ring : sbi.journalRing = true) :
    (journalV3RingAllocate sbi entries = .error .enospc ∧ RingRefusal sbi (entries + 2)) ∨
    ∃ position, journalV3RingAllocate sbi entries =
        .ok ⟨segmentAt position entries, sbi.ringWrap (position + (entries + 2))⟩ ∧
      entries + 2 < sbi.ringEnd - sbi.ringStart ∧ RingChoice sbi (entries + 2) position := by
  have next : ∀ position, position + 1 + entries + 1 = position + (entries + 2) := by
    intro position
    omega
  unfold journalV3RingAllocate segmentAt
  simp only [ring, Bool.true_eq_false, ↓reduceIte, next]
  split
  · exact Or.inl ⟨rfl, RingRefusal.large (by omega)⟩
  · split
    · split
      · exact Or.inr ⟨_, rfl, by omega, RingChoice.restarted (by omega) (by omega)⟩
      · exact Or.inr ⟨_, rfl, by omega, RingChoice.fresh (by omega) (by omega)⟩
    · split
      · split
        · exact Or.inl ⟨rfl, RingRefusal.between (by omega) (by omega)⟩
        · exact Or.inr ⟨_, rfl, by omega, RingChoice.between (by omega) (by omega)⟩
      · split
        · split
          · exact Or.inl ⟨rfl, RingRefusal.around (by omega) (by omega) (by omega)⟩
          · exact Or.inr ⟨_, rfl, by omega, RingChoice.around (by omega) (by omega) (by omega)⟩
        · exact Or.inr ⟨_, rfl, by omega, RingChoice.behind (by omega) (by omega)⟩

theorem takeSegment_head {sbi : SbInfo} (ring : sbi.journalRing = true) (head : Nat)
    (allocation : JournalV3Allocation) :
    (sbi.takeSegment head allocation).journalRingHead = allocation.nextHead := by
  simp [SbInfo.takeSegment, ring]

theorem takeSegment_tail {sbi : SbInfo} (ring : sbi.journalRing = true) (head : Nat)
    (allocation : JournalV3Allocation) :
    (sbi.takeSegment head allocation).journalRingTail =
      if sbi.journalRingTail = head then allocation.segment.descriptorBlock
      else sbi.journalRingTail := by
  simp [SbInfo.takeSegment, ring]

theorem takeSegment_ring (sbi : SbInfo) (head : Nat) (allocation : JournalV3Allocation) :
    (sbi.takeSegment head allocation).journalRing = sbi.journalRing ∧
      (sbi.takeSegment head allocation).ringStart = sbi.ringStart ∧
      (sbi.takeSegment head allocation).ringEnd = sbi.ringEnd := by
  unfold SbInfo.takeSegment
  split <;> exact ⟨rfl, rfl, rfl⟩

/-- The live segments of a ring and its two cursors belong together. -/
structure RingSpace (sbi : SbInfo) (live : List JournalV3Segment) : Prop where
  ring : sbi.journalRing = true
  cursors : Cursors sbi.ringStart sbi.ringEnd sbi.journalRingTail sbi.journalRingHead
  space : Space sbi.ringStart sbi.ringEnd sbi.journalRingTail sbi.journalRingHead
    (live.map JournalV3Segment.stretch)
  shape : ∀ segment, segment ∈ live → segment.descriptorBlock ≤ segment.commitBlock

section RingSpace

variable {sbi : SbInfo} {live : List JournalV3Segment} (inv : RingSpace sbi live)
include inv

theorem RingSpace.empty_iff : sbi.journalRingTail = sbi.journalRingHead ↔ live = [] :=
  (inv.space.empty_iff inv.cursors).trans List.map_eq_nil_iff

/-- The tail after an allocation at `position`. -/
theorem RingSpace.nextTail {entries position next : Nat} :
    (sbi.takeSegment sbi.journalRingHead ⟨segmentAt position entries, next⟩).journalRingTail =
      if live = [] then position else sbi.journalRingTail := by
  rw [takeSegment_tail inv.ring]
  by_cases empty : live = []
  · rw [if_pos empty, if_pos (inv.empty_iff.mpr empty)]
    rfl
  · rw [if_neg empty, if_neg (fun meet => empty (inv.empty_iff.mp meet))]

/-- The place the allocator chose lies in the ring. -/
theorem RingSpace.choice_bounds {needed position : Nat}
    (choice : RingChoice sbi needed position) (small : needed < sbi.ringEnd - sbi.ringStart) :
    sbi.ringStart ≤ position ∧ position + needed ≤ sbi.ringEnd := by
  obtain ⟨tailLow, tailHigh, headLow, headHigh⟩ := inv.cursors
  cases choice <;> omega

/-- It is off every live segment. -/
theorem RingSpace.choice_free {needed position : Nat}
    (choice : RingChoice sbi needed position) (stretch : Nat × Nat)
    (member : stretch ∈ live.map JournalV3Segment.stretch) (cell : Nat)
    (covers : Covers stretch cell) : ¬ Covers (position, needed) cell := by
  cases choice with
  | fresh empty _ =>
      exact inv.space.head_free (by omega) stretch member cell covers
  | restarted empty _ =>
      rw [inv.empty_iff.mp empty.symm] at member
      cases member
  | between order fits =>
      exact inv.space.head_free (fun _ => fits) stretch member cell covers
  | behind order _ =>
      exact inv.space.head_free (by omega) stretch member cell covers
  | around order _ fits =>
      exact inv.space.start_free (Nat.le_of_lt order) fits stretch member cell covers

/-- A spare allocation keeps the head off the tail. -/
theorem RingSpace.choice_spare {entries position : Nat}
    (choice : RingChoice sbi (entries + 2) position)
    (small : entries + 2 < sbi.ringEnd - sbi.ringStart) (spare : RingSpare sbi live entries) :
    wrap sbi.ringStart sbi.ringEnd (position + (entries + 2)) ≠
      if live = [] then position else sbi.journalRingTail := by
  obtain ⟨tailLow, tailHigh, headLow, headHigh⟩ := inv.cursors
  have next := SegmentRing.wrap_cases sbi.ringStart sbi.ringEnd (position + (entries + 2))
  by_cases empty : live = []
  · have meet := inv.empty_iff.mpr empty
    rw [if_pos empty]
    omega
  · rw [if_neg empty]
    cases choice with
    | fresh meet _ => exact absurd (inv.empty_iff.mp meet.symm) empty
    | restarted meet _ => exact absurd (inv.empty_iff.mp meet.symm) empty
    | between order fits =>
        have off := spare.between order
        omega
    | behind order fits =>
        have off := spare.behind order
        omega
    | around order beyond fits =>
        have off := spare.around order beyond
        omega

/-- And the live segments with the new one fill the ring between its cursors. -/
theorem RingSpace.choice_grown {entries position : Nat}
    (choice : RingChoice sbi (entries + 2) position)
    (small : entries + 2 < sbi.ringEnd - sbi.ringStart) (spare : RingSpare sbi live entries) :
    Space sbi.ringStart sbi.ringEnd (if live = [] then position else sbi.journalRingTail)
      (wrap sbi.ringStart sbi.ringEnd (position + (entries + 2)))
      (live.map JournalV3Segment.stretch ++ [(position, entries + 2)]) := by
  have cursors := inv.cursors
  obtain ⟨tailLow, tailHigh, headLow, headHigh⟩ := inv.cursors
  obtain ⟨low, high⟩ := inv.choice_bounds choice small
  by_cases empty : live = []
  · rw [if_pos empty, empty]
    have start : Space sbi.ringStart sbi.ringEnd position position [] :=
      Space.linear (Nat.le_refl position) rfl
    exact start.place_head (by constructor <;> omega) (by omega) (by omega) (by omega)
  · rw [if_neg empty]
    cases choice with
    | fresh meet _ => exact absurd (inv.empty_iff.mp meet.symm) empty
    | restarted meet _ => exact absurd (inv.empty_iff.mp meet.symm) empty
    | between order fits =>
        have off := spare.between order
        exact inv.space.place_head cursors (by omega) (by omega) (by omega)
    | behind order fits =>
        exact inv.space.place_head cursors (by omega) (by omega) (spare.behind order)
    | around order beyond fits =>
        have off := spare.around order beyond
        exact inv.space.place_start cursors (by omega) order (by omega)

/-- A spare allocation leaves the ring in order and is a fitting place. -/
theorem RingSpace.allocate {entries : Nat} {allocation : JournalV3Allocation}
    (spare : RingSpare sbi live entries)
    (success : journalV3RingAllocate sbi entries = .ok allocation) :
    (∃ position, allocation.segment = segmentAt position entries ∧
      RingPlace sbi live entries position ∧
      (sbi.takeSegment sbi.journalRingHead allocation).journalRingHead ≠
        (sbi.takeSegment sbi.journalRingHead allocation).journalRingTail) ∧
    RingSpace (sbi.takeSegment sbi.journalRingHead allocation) (live ++ [allocation.segment]) := by
  rcases journalV3RingAllocate_cases sbi entries inv.ring with
    ⟨refused, _⟩ | ⟨position, placed, small, choice⟩
  · rw [refused] at success
    cases success
  · rw [placed] at success
    injection success with same
    subst same
    have low := (inv.choice_bounds choice small).1
    have high := (inv.choice_bounds choice small).2
    have bounds := SegmentRing.wrap_mem sbi.ringStart sbi.ringEnd (position + (entries + 2))
      (by omega) high (by omega)
    have apart := inv.choice_spare choice small spare
    have grown := inv.choice_grown choice small spare
    have tailLow := inv.cursors.tailLow
    have tailHigh := inv.cursors.tailHigh
    have place : RingPlace sbi live entries position := by
      constructor
      case low => exact low
      case high => exact high
      case control =>
        intro block covers
        unfold Covers at covers
        unfold SbInfo.ringStart at low
        omega
      case apart =>
        intro segment member block covers
        exact inv.choice_free choice segment.stretch (List.mem_map_of_mem member) block covers
      case spare => exact apart
    have kept := takeSegment_ring sbi sbi.journalRingHead
      ⟨segmentAt position entries, sbi.ringWrap (position + (entries + 2))⟩
    refine ⟨⟨position, rfl, place, ?_⟩, ?_⟩
    · rw [takeSegment_head inv.ring, inv.nextTail]
      exact apart
    · constructor
      case ring => exact kept.1.trans inv.ring
      case cursors =>
        rw [kept.2.1, kept.2.2, takeSegment_head inv.ring, inv.nextTail]
        clear kept grown apart place
        constructor
        · split <;> omega
        · split <;> omega
        · exact bounds.1
        · exact bounds.2
      case space =>
        rw [kept.2.1, kept.2.2, takeSegment_head inv.ring, inv.nextTail, List.map_append,
          List.map_singleton, segmentAt_stretch]
        exact grown
      case shape =>
        intro segment member
        rcases List.mem_append.mp member with earlier | here
        · exact inv.shape segment earlier
        · rw [List.mem_singleton.mp here]
          show position ≤ position + 1 + entries
          omega

/-- The oldest segment given back leaves the ring in order. -/
theorem RingSpace.remove {oldest : JournalV3Segment} {rest : List JournalV3Segment}
    (parts : live = oldest :: rest) :
    RingSpace { sbi with journalRingTail := sbi.ringWrap (oldest.commitBlock + 1) } rest := by
  subst parts
  have shape := inv.shape oldest List.mem_cons_self
  have released := inv.space.release inv.cursors (List.map_cons ..)
  have next : oldest.stretch.1 + oldest.stretch.2 = oldest.commitBlock + 1 := by
    unfold JournalV3Segment.stretch
    simp only
    omega
  rw [next] at released
  constructor
  case ring => exact inv.ring
  case cursors => exact released.1
  case space => exact released.2
  case shape => exact fun segment member => inv.shape segment (List.mem_cons_of_mem _ member)

/-- A refused request has no place, unless the tail of a wrapped ring stands before blocks no
segment took. -/
theorem RingSpace.refused {entries : Nat} (refusal : RingRefusal sbi (entries + 2))
    (spare : RingSpare sbi live entries) (position : Nat)
    (here : position = sbi.journalRingHead ∨ position = sbi.ringStart) :
    ¬ RingPlace sbi live entries position := by
  intro place
  obtain ⟨tailLow, tailHigh, headLow, headHigh⟩ := inv.cursors
  have low := place.low
  have high := place.high
  -- A live segment that covers a block of the place refutes it.
  have taken : ∀ cell, (∃ stretch, stretch ∈ live.map JournalV3Segment.stretch ∧
      Covers stretch cell) → ¬ Covers (position, entries + 2) cell := by
    rintro cell ⟨stretch, member, covers⟩
    obtain ⟨segment, among, rfl⟩ := List.mem_map.mp member
    exact place.apart segment among cell covers
  unfold Covers at taken
  cases refusal with
  | large whole =>
      have wide : position = sbi.ringStart := by omega
      have ends : position + (entries + 2) = sbi.ringEnd := by omega
      have spare := place.spare
      rw [ends, SbInfo.ringWrap, if_pos rfl] at spare
      by_cases empty : live = []
      · rw [if_pos empty] at spare
        exact spare wide.symm
      · have apart : sbi.journalRingTail ≠ sbi.journalRingHead :=
          fun meet => empty (inv.empty_iff.mp meet)
        obtain ⟨cell, lower, upper, covered⟩ := inv.space.covers_some inv.cursors apart
        apply taken cell covered
        show position ≤ cell ∧ cell < position + (entries + 2)
        omega
  | between order short =>
      by_cases first : position = sbi.journalRingHead
      · rw [first] at high
        obtain ⟨oldest, among, begins⟩ := spare.held order short high
        have member := List.mem_of_mem_head? among
        have shape := inv.shape oldest member
        apply taken sbi.journalRingTail
        · refine ⟨oldest.stretch, List.mem_map_of_mem member, ?_⟩
          unfold JournalV3Segment.stretch
          dsimp only
          omega
        · show position ≤ _ ∧ _ < position + (entries + 2)
          omega
      · have past : position = sbi.ringStart := by omega
        have apart : sbi.ringStart ≠ sbi.journalRingHead := by omega
        apply taken sbi.ringStart (inv.space.covers_start order apart)
        show position ≤ _ ∧ _ < position + (entries + 2)
        omega
  | around order beyond short =>
      apply taken sbi.journalRingTail (inv.space.covers_tail order)
      show position ≤ _ ∧ _ < position + (entries + 2)
      omega

/-- What the allocator does wrong when the request leaves no block free. -/
theorem RingSpace.spare_of_safe {entries : Nat} (safe : RingAllocationSafe sbi live entries) :
    RingSpare sbi live entries := by
  obtain ⟨tailLow, tailHigh, headLow, headHigh⟩ := inv.cursors
  obtain ⟨placed, refused⟩ := safe
  -- A success at `position` that ends on the tail is not safe.
  have meets : ∀ position, journalV3RingAllocate sbi entries =
        .ok ⟨segmentAt position entries, sbi.ringWrap (position + (entries + 2))⟩ →
      sbi.journalRingTail ≠ sbi.journalRingHead →
      sbi.ringWrap (position + (entries + 2)) ≠ sbi.journalRingTail := by
    intro position success used meet
    obtain ⟨_, _, _, apart⟩ := placed _ success
    rw [takeSegment_head inv.ring, inv.nextTail,
      if_neg (fun empty => used (inv.empty_iff.mpr empty))] at apart
    exact apart meet
  rcases journalV3RingAllocate_cases sbi entries inv.ring with
    ⟨failed, refusal⟩ | ⟨position, success, small, choice⟩
  · have none := refused failed
    constructor
    case between =>
      intro order
      cases refusal <;> omega
    case held =>
      intro order short fits
      by_contra skipped
      apply none sbi.journalRingHead (Or.inl rfl)
      have behind := inv.space.behind_tail order
      constructor
      case low => exact headLow
      case high => exact fits
      case control =>
        intro block covers
        obtain ⟨lower, _⟩ := covers
        show block ≠ sbi.journalBlock
        unfold SbInfo.ringStart at headLow
        dsimp only at lower
        omega
      case apart =>
        intro segment member block covers inside
        have early : block < sbi.journalRingHead := by
          apply behind _ segment.stretch (List.mem_map_of_mem member) block covers
          intro stretch first begins
          rw [List.head?_map, Option.map_eq_some_iff] at first
          obtain ⟨oldest, first, rfl⟩ := first
          exact skipped ⟨oldest, first, begins⟩
        exact absurd inside.1 (by dsimp only; omega)
      case spare =>
        have used : live ≠ [] := fun empty => by
          have meet := inv.empty_iff.mpr empty
          omega
        rw [if_neg used]
        unfold SbInfo.ringWrap
        split <;> omega
    case behind =>
      intro order
      cases refusal <;> omega
    case around =>
      intro order
      cases refusal <;> omega
  · have next := meets position success
    have wraps := SegmentRing.wrap_cases sbi.ringStart sbi.ringEnd (position + (entries + 2))
    change _ → wrap sbi.ringStart sbi.ringEnd (position + (entries + 2)) ≠ _ at next
    constructor
    case between =>
      intro order
      have apart := next (by omega)
      cases choice <;> omega
    case held =>
      intro order short
      cases choice <;> omega
    case behind =>
      intro order
      have apart := next (by omega)
      cases choice <;> omega
    case around =>
      intro order
      have apart := next (by omega)
      cases choice <;> omega

end RingSpace

/-- Every run of spare allocations and of removals keeps the ring in order. -/
theorem RingReached.space {sbi : SbInfo} {live : List JournalV3Segment}
    (reached : RingReached RingSpare sbi live) : RingSpace sbi live := by
  induction reached with
  | empty sbi ring meet low high =>
      constructor
      case ring => exact ring
      case cursors => constructor <;> omega
      case space => exact Space.linear (Nat.le_of_eq meet) meet
      case shape => simp
  | allocate before meets success ih => exact (ih.allocate meets success).2
  | remove before pending ih => exact ih.remove rfl

/-- In a ring that came about by spare allocations, an allocation is safe exactly when it is
spare itself. -/
theorem journalV3RingAllocate_safe {sbi : SbInfo} {live : List JournalV3Segment}
    (reached : RingReached RingSpare sbi live) (entries : Nat) :
    RingAllocationSafe sbi live entries ↔ RingSpare sbi live entries := by
  have inv := reached.space
  constructor
  · exact inv.spare_of_safe
  · intro spare
    constructor
    · intro allocation success
      exact (inv.allocate spare success).1
    · intro failed
      rcases journalV3RingAllocate_cases sbi entries inv.ring with
        ⟨_, refusal⟩ | ⟨position, success, _⟩
      · exact inv.refused refusal spare
      · rw [success] at failed
        cases failed

/-- A ring of eight blocks behind block 4102. -/
def smallRingAt (head tail : Nat) : SbInfo :=
  { smallMount.sbi with
    journalBlock := 4102
    journalBlocks := 9
    journalRing := true
    journalRingHead := head
    journalRingTail := tail }

theorem smallRingAt_first :
    journalV3RingAllocate (smallRingAt 4103 4103) 2 = .ok ⟨segmentAt 4103 2, 4107⟩ := rfl

theorem smallRingAt_second :
    journalV3RingAllocate (smallRingAt 4107 4103) 2 = .ok ⟨segmentAt 4107 2, 4103⟩ := rfl

theorem smallRingAt_take (head tail position entries next : Nat) :
    (smallRingAt head tail).takeSegment head ⟨segmentAt position entries, next⟩ =
      smallRingAt next (if tail = head then position else tail) := by
  by_cases meet : tail = head <;> simp [SbInfo.takeSegment, smallRingAt, segmentAt, meet]

/-- The ring of eight blocks with one segment of four. -/
theorem smallRingAt_reached (allowed : SbInfo → List JournalV3Segment → Nat → Prop)
    (first : allowed (smallRingAt 4103 4103) [] 2) :
    RingReached allowed (smallRingAt 4107 4103) [segmentAt 4103 2] := by
  have empty : RingReached allowed (smallRingAt 4103 4103) [] :=
    RingReached.empty _ rfl rfl (by decide) (by decide)
  have placed := RingReached.allocate empty first smallRingAt_first
  have head : (smallRingAt 4103 4103).journalRingHead = 4103 := rfl
  rw [head, smallRingAt_take] at placed
  exact placed

/-- The theorem at that ring, for a segment of three blocks. -/
theorem journalV3RingAllocate_safe_small :
    RingAllocationSafe (smallRingAt 4107 4103) [segmentAt 4103 2] 1 := by
  have first : RingSpare (smallRingAt 4103 4103) [] 2 := by
    constructor <;> exact fun order => absurd order (by decide)
  have reached := smallRingAt_reached RingSpare first
  apply (journalV3RingAllocate_safe reached 1).mpr
  constructor
  · exact fun order => absurd order (by decide)
  · exact fun order => absurd order (by decide)
  · exact fun _ ends => absurd ends (by decide)
  · exact fun _ beyond => absurd beyond (by decide)

/-- A second segment of four fills the ring: the head comes round onto the tail, the ring reads
as empty, and the next segment is placed over the oldest live one. -/
theorem journalV3RingAllocate_full_unsafe :
    ¬ RingAllocationSafe (smallRingAt 4107 4103) [segmentAt 4103 2] 2 ∧
      RingReached (fun _ _ _ => True) (smallRingAt 4103 4103) [segmentAt 4103 2, segmentAt 4107 2] ∧
      ¬ RingAllocationSafe (smallRingAt 4103 4103) [segmentAt 4103 2, segmentAt 4107 2] 2 := by
  refine ⟨?_, ?_, ?_⟩
  · rintro ⟨placed, _⟩
    obtain ⟨_, _, _, apart⟩ := placed _ smallRingAt_second
    exact apart rfl
  · have placed := RingReached.allocate (smallRingAt_reached (fun _ _ _ => True) trivial) trivial
      smallRingAt_second
    have head : (smallRingAt 4107 4103).journalRingHead = 4107 := rfl
    rw [head, smallRingAt_take] at placed
    exact placed
  · rintro ⟨placed, _⟩
    obtain ⟨position, here, place, _⟩ := placed _ smallRingAt_first
    injection here with here
    subst here
    exact place.apart (segmentAt 4103 2) List.mem_cons_self 4103 ⟨by decide, by decide⟩
      ⟨by decide, by decide⟩

end Cryexts
