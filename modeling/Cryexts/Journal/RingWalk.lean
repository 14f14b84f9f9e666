import Cryexts.Journal.RingAtomicity

set_option autoImplicit false

namespace Cryexts

open WriteLog (store applyWrites)

/-- The descriptor positions visited from `position` until `head`, each the wrapped successor
of the commit block the descriptor before it names, and where the walk stands afterwards. -/
def ringWalk (sbi : SbInfo) (device : Nat → Block) (head : Nat) : Nat → Nat → List Nat × Nat
  | 0, position => ([], position)
  | steps + 1, position =>
      if position = head then ([], position)
      else
        let (visited, last) := ringWalk sbi device head steps
          (sbi.ringWrap ((JournalV3Descriptor.ofBlock (device position)).commitBlock + 1))
        (position :: visited, last)

/-- The walk over the recorded ring visits the pending transactions' segments in order, which is
that of their sequences, and arrives at the recorded head. -/
structure RingWalked (w : World) (pending : List Transaction) : Prop where
  walk : ∃ visited, (∀ steps, pending.length ≤ steps →
      ringWalk w.sbi w.disk (JournalV3Control.ofBlock (w.disk w.sbi.journalBlock)).ringHead steps
          (JournalV3Control.ofBlock (w.disk w.sbi.journalBlock)).ringTail =
        (visited, (JournalV3Control.ofBlock (w.disk w.sbi.journalBlock)).ringHead)) ∧
    List.Forall₂ (fun position t => Transaction.Committed t w.disk (t.placesAt position)) visited
      pending
  ascending : (pending.map Transaction.sequence).Pairwise (· < ·)

/-- The transactions of a run that no checkpoint has brought home yet. -/
def pendingOf (w : World) (history : List (Transaction × Nat)) : List Transaction :=
  (history.map Prod.fst).filter fun t => w.sbi.journalCheckpointSequence < t.sequence

theorem Ascending.pairwise {previous : Nat} {ts : List Transaction}
    (ascending : Ascending previous ts) :
    (∀ t, t ∈ ts → previous < t.sequence) ∧
      (ts.map Transaction.sequence).Pairwise (· < ·) := by
  induction ts generalizing previous with
  | nil => simp
  | cons t ts ih =>
      obtain ⟨later, pairs⟩ := ih ascending.2
      have first := ascending.1
      constructor
      · intro other member
        rcases List.mem_cons.mp member with rfl | member
        · exact first
        · exact first.trans (later other member)
      · rw [List.map_cons, List.pairwise_cons]
        refine ⟨?_, pairs⟩
        intro sequence member
        obtain ⟨other, among, rfl⟩ := List.mem_map.mp member
        exact later other among

/-- The walk over a chain of committed segments. -/
theorem ringWalk_chain {area : JournalArea} {count : Nat} {sbi : SbInfo} {device : Nat → Block}
    (same : sbi.area = area) (limit : area.first + area.blocks < 2 ^ 64)
    (small : count ≤ 2 ^ 64) (head : Nat)
    (ts : List Transaction) (valid : ∀ t, t ∈ ts → t.Valid area count) :
    ∀ position, SegmentRing.Chain area.ringStart area.ringEnd position (spans ts) head →
      SegmentsOn area device position ts → ∃ visited,
        (∀ steps, ts.length ≤ steps → ringWalk sbi device head steps position = (visited, head)) ∧
        List.Forall₂ (fun position t => Transaction.Committed t device (t.placesAt position))
          visited ts := by
  induction ts with
  | nil =>
      intro position chain _
      have here : position = head := chain
      refine ⟨[], ?_, List.Forall₂.nil⟩
      intro steps _
      cases steps with
      | zero => simp [ringWalk, here]
      | succ steps => simp [ringWalk, here]
  | cons t ts ih =>
      intro position chain on
      rw [spans_cons] at chain
      obtain ⟨_, apart, inside, _, later⟩ := chain
      obtain ⟨committed, others⟩ := on
      obtain ⟨visited, walks, places⟩ :=
        ih (fun other member => valid other (List.mem_cons_of_mem _ member)) _ later others
      refine ⟨position :: visited, ?_, List.Forall₂.cons committed places⟩
      intro steps enough
      have bounded := placesAt_bounded t position _ inside (Nat.le_of_lt limit)
      have descriptor : device position = t.descriptor (t.placesAt position) := committed.descriptor
      have next : sbi.ringWrap ((JournalV3Descriptor.ofBlock (device position)).commitBlock + 1) =
          SegmentRing.wrap area.ringStart area.ringEnd (position + t.span) := by
        have ends : (t.placesAt position).commitBlock + 1 = position + t.span := by
          simp only [Transaction.placesAt, Transaction.span]
          omega
        rw [descriptor, t.ofBlock_descriptor _ area count (valid t List.mem_cons_self) bounded
          small, SbInfo.ringWrap_eq, same, ← ends]
        rfl
      cases steps with
      | zero => simp at enough
      | succ steps =>
          rw [ringWalk, if_neg apart, next, walks steps (by simpa using enough)]

/-- A mount over a ring walks its pending transactions. -/
theorem RingInv.walked {w : World} {area : JournalArea} {count : Nat} {pending : List Transaction}
    {home : Nat → Block} (inv : RingInv w area count pending home) : RingWalked w pending := by
  have control := inv.control
  have first : w.sbi.journalBlock = area.first := by
    rw [← inv.ready.sameArea]
    rfl
  constructor
  · rw [first, control.headIs, control.tailIs]
    exact ringWalk_chain inv.ready.sameArea inv.limit
      (inv.ready.homes.trans inv.ready.bounded) _ pending inv.held.valid _ inv.chain inv.held.on
  · exact inv.held.ascending.pairwise.2

/-- What holds after a run whose commits find their room: the transactions that are not pending
are behind the checkpoint. -/
structure WalkInv (w : World) (area : JournalArea) (count : Nat)
    (history : List (Transaction × Nat)) (settled pending : List Transaction) : Prop where
  ring : ∃ home, RingInv w area count pending home
  parts : history.map Prod.fst = settled ++ pending
  behind : ∀ t, t ∈ settled → t.sequence ≤ w.sbi.journalCheckpointSequence

theorem WalkInv.pending_eq {w : World} {area : JournalArea} {count : Nat}
    {history : List (Transaction × Nat)} {settled pending : List Transaction}
    (inv : WalkInv w area count history settled pending) : pendingOf w history = pending := by
  obtain ⟨home, ring⟩ := inv.ring
  have later := ring.held.ascending.pairwise.1
  have none : settled.filter (fun t => w.sbi.journalCheckpointSequence < t.sequence) = [] := by
    rw [List.filter_eq_nil_iff]
    intro t member
    have early := inv.behind t member
    simp only [decide_eq_true_eq]
    omega
  have all : pending.filter (fun t => w.sbi.journalCheckpointSequence < t.sequence) = pending := by
    rw [List.filter_eq_self]
    intro t member
    simpa using later t member
  rw [pendingOf, inv.parts, List.filter_append, none, all, List.nil_append]

/-- A checkpoint moves its transaction behind the checkpoint. -/
theorem WalkInv.checkpoint {w : World} {area : JournalArea} {count : Nat}
    {history : List (Transaction × Nat)} {settled pending : List Transaction}
    (inv : WalkInv w area count history settled pending) :
    ∃ settled pending, WalkInv (journalV3CheckpointOne w).2 area count history settled pending := by
  obtain ⟨home, ring⟩ := inv.ring
  cases pending with
  | nil =>
      rw [journalV3CheckpointOne_empty w ring.chain]
      exact ⟨settled, [], inv⟩
  | cons t ts =>
      have sbi : (journalV3CheckpointOne w).2.sbi = checkpointedSbi w.sbi t := by
        rw [ring.checkpointRun]
      have later := ring.held.ascending.1
      obtain ⟨_, _, _, after⟩ := ring.checkpointStep
      refine ⟨settled ++ [t], ts, ⟨home, after⟩, ?_, ?_⟩
      · rw [inv.parts, List.append_assoc]
        rfl
      · intro other member
        rw [sbi]
        show other.sequence ≤ t.sequence
        rcases List.mem_append.mp member with earlier | here
        · have early := inv.behind other earlier
          omega
        · rw [List.mem_singleton.mp here]

/-- Every run of commits that find their room. -/
theorem RingRun.walkInv {first w : World} {area : JournalArea} {count : Nat}
    {history : List (Transaction × Nat)} (mounted : RingMounted first area count)
    (run : RingRun RingRoom count first w history) :
    ∃ settled pending, WalkInv w area count history settled pending := by
  induction run with
  | mounted => exact ⟨[], [], ⟨_, mounted.inv⟩, rfl, by simp⟩
  | work work before sound ih =>
      obtain ⟨settled, pending, inv⟩ := ih
      obtain ⟨home, ring⟩ := inv.ring
      obtain ⟨quiet, next⟩ := ring.work work sound
      refine ⟨settled, pending, ⟨home, next⟩, inv.parts, ?_⟩
      rw [quiet.checkpoint]
      exact inv.behind
  | commit before opened meets success ih =>
      obtain ⟨settled, pending, inv⟩ := ih
      obtain ⟨home, ring⟩ := inv.ring
      obtain ⟨_, _, _, _, _, _, _, _, checkpoint, next⟩ :=
        ring.committed (by rw [success]) opened meets
      rw [success] at checkpoint next
      refine ⟨settled, _, ⟨_, next⟩, ?_, ?_⟩
      · rw [List.map_append, inv.parts, List.append_assoc]
        rfl
      · rw [checkpoint]
        exact inv.behind
  | checkpoint before ih =>
      obtain ⟨settled, pending, inv⟩ := ih
      exact inv.checkpoint

/-- In every run whose commits find their room, the walk from the recorded tail visits the
pending transactions and arrives at the recorded head. -/
theorem ringRun_walked {first w : World} {area : JournalArea} {count : Nat}
    {history : List (Transaction × Nat)} (mounted : RingMounted first area count)
    (run : RingRun RingRoom count first w history) : RingWalked w (pendingOf w history) := by
  obtain ⟨settled, pending, inv⟩ := run.walkInv mounted
  obtain ⟨home, ring⟩ := inv.ring
  rw [inv.pending_eq]
  exact ring.walked

/-- A walk that starts at its head visits nothing. -/
theorem ringWalk_empty (sbi : SbInfo) (device : Nat → Block) (head steps : Nat) :
    ringWalk sbi device head steps head = ([], head) := by
  cases steps with
  | zero => rfl
  | succ steps => rw [ringWalk, if_pos rfl]

/-- The theorem at a fresh volume with one pending transaction. -/
theorem ringRun_walked_small : ∃ (w : World) (history : List (Transaction × Nat)),
    history.length = 1 ∧ RingWalked w (pendingOf w history) := by
  obtain ⟨w, success, _⟩ := smallMount_commits 8 (by decide)
  have opened : (singleWrite 8 sampleContent smallMount).sbi.journalActiveSequence ≠ 0 := by
    rw [(smallMount_single 8 (by decide)).run]
    exact Nat.succ_ne_zero _
  have first : RingRun RingRoom 4111 smallMount (singleWrite 8 sampleContent smallMount) [] :=
    (RingRun.mounted).single sampleContent (smallMount_single 8 (by decide)).apart
      (smallMount_single 8 (by decide)).outside
  have run := RingRun.commit first opened (smallMount_room 8 (by decide)).room success
  exact ⟨w, _, rfl, ringRun_walked smallMount_mounted run⟩

/-- In the ring that two commits fill exactly both transactions are pending, and the walk visits
neither. -/
theorem ringRun_full_unwalked :
    ∃ (w : World) (history : List (Transaction × Nat)),
    RingRun (fun _ => True) 4111 smallMount w history ∧ pendingOf w history ≠ [] ∧
      ¬ RingWalked w (pendingOf w history) := by
  obtain ⟨w, final, run, _, _, _, ⟨home, inv⟩, _, _, checkpoint, area, ⟨_, _, head, control⟩, _⟩ :=
    smallMount_fills
  have later := inv.held.ascending.1
  have first : final.sbi.journalBlock = 4102 :=
    congrArg JournalArea.first (area.trans inv.ready.sameArea)
  have pending : pendingOf final (fullHistory w) ≠ [] := by
    rw [pendingOf, checkpoint, fullHistory, List.map_append, List.filter_append]
    simp [later]
  refine ⟨final, fullHistory w, run, pending, ?_⟩
  intro walked
  obtain ⟨visited, walks, places⟩ := walked.walk
  have visits := walks _ (Nat.le_refl _)
  rw [first, control.headIs, control.tailIs, ringWalk_empty, Prod.mk.injEq] at visits
  rw [← visits.1] at places
  exact pending (List.forall₂_nil_left_iff.mp places)

end Cryexts
