import Cryexts.Journal.RingCheckpoint
import Cryexts.Journal.RingCommit
import Cryexts.Journal.RingRecovery

set_option autoImplicit false

namespace Cryexts

open WriteLog (store applyWrites)

theorem SegmentsOn.snoc {area : JournalArea} {cells : Nat → Block} {position : Nat}
    {ts : List Transaction} {t : Transaction} (on : SegmentsOn area cells position ts)
    (last : t.Committed cells (t.placesAt (segmentsEnd area position ts))) :
    SegmentsOn area cells position (ts ++ [t]) := by
  induction ts generalizing position with
  | nil => exact ⟨last, trivial⟩
  | cons first ts ih => exact ⟨on.1, ih on.2 last⟩

theorem Ascending.snoc {previous : Nat} {ts : List Transaction} {t : Transaction}
    (ascending : Ascending previous ts) (later : lastSequenceOf previous ts < t.sequence) :
    Ascending previous (ts ++ [t]) := by
  induction ts generalizing previous with
  | nil => exact ⟨later, trivial⟩
  | cons first ts ih => exact ⟨ascending.1, ih ascending.2 later⟩

theorem lastSequenceOf_snoc (previous : Nat) (ts : List Transaction) (t : Transaction) :
    lastSequenceOf previous (ts ++ [t]) = t.sequence := by
  induction ts generalizing previous with
  | nil => rfl
  | cons first ts ih => exact ih first.sequence

theorem spans_append (first second : List Transaction) :
    spans (first ++ second) = spans first ++ spans second := by
  simp only [spans, List.map_append]

theorem segmentsEnd_eq {area : JournalArea} {position head : Nat} {ts : List Transaction}
    (chain : SegmentRing.Chain area.ringStart area.ringEnd position (spans ts) head) :
    segmentsEnd area position ts = head :=
  segmentsEnd_chain ts [] head position (by rw [List.append_nil]; exact chain)

/-- A place behind the pending segments that none of them uses. -/
structure Placement (area : JournalArea) (tail : Nat) (pending : List Transaction)
    (position span : Nat) : Prop where
  chain : SegmentRing.Chain area.ringStart area.ringEnd tail (spans pending) position
  room : SegmentRing.Room area.ringStart area.ringEnd tail position span ∨ spans pending = []
  tailLow : area.ringStart ≤ tail
  tailHigh : tail < area.ringEnd
  low : area.ringStart ≤ position
  high : position < area.ringEnd
  positive : 0 < span
  fits : position + span ≤ area.ringEnd
  smaller : span < area.ringEnd - area.ringStart

namespace Placement

variable {area : JournalArea} {tail : Nat} {pending : List Transaction} {position span : Nat}
variable (placed : Placement area tail pending position span)
include placed

theorem extended : SegmentRing.Chain area.ringStart area.ringEnd tail (spans pending ++ [span])
    (SegmentRing.wrap area.ringStart area.ringEnd (position + span)) :=
  placed.chain.snoc placed.positive placed.tailLow placed.tailHigh placed.low placed.high
    placed.smaller placed.room placed.fits

theorem not_live (block : Nat) (lower : position ≤ block) (upper : block < position + span) :
    ¬ SegmentRing.Live area.ringStart area.ringEnd tail position block := by
  rcases placed.room with room | empty
  · exact room.not_live lower upper
  · have chain := placed.chain
    rw [empty] at chain
    have meet : tail = position := chain
    subst meet
    unfold SegmentRing.Live
    rw [if_pos (Nat.le_refl _)]
    omega

/-- Writes into the new segment leave the pending ones as they are. -/
theorem keeps {count : Nat} {cells after : Nat → Block} {checkpoint : Nat}
    (held : Pending area count cells checkpoint tail pending)
    (same : ∀ block, area.ringStart ≤ block → block < area.ringEnd →
      ¬ (position ≤ block ∧ block < position + span) → after block = cells block) :
    Pending area count after checkpoint tail pending where
  valid := held.valid
  keeps := held.keeps
  ascending := held.ascending
  on := by
    apply held.on.congr placed.chain placed.low placed.high
    intro block live
    have bounds : area.ringStart ≤ block ∧ block < area.ringEnd := by
      have tailLow := placed.tailLow
      have high := placed.high
      unfold SegmentRing.Live at live
      split at live <;> omega
    apply same block bounds.1 bounds.2
    intro inside
    exact placed.not_live block inside.1 inside.2 live

end Placement

/-- The copies and the descriptor of a transaction logged at `position`. -/
def logWrites (t : Transaction) (position : Nat) : List (Nat × Block) :=
  payloadWrites (position + 1) t.images ++ [(position, t.descriptor (t.placesAt position))]

theorem logWrites_place (t : Transaction) (position : Nat) (write : Nat × Block)
    (member : write ∈ logWrites t position) :
    position ≤ write.1 ∧ write.1 < position + 1 + t.images.length := by
  rcases List.mem_append.mp member with copy | header
  · have place := payloadWrites_place _ _ _ copy
    omega
  · rw [List.mem_singleton.mp header]
    dsimp only
    omega

/-- Every block outside the segment keeps its content while the segment is logged. -/
theorem logWrites_outside (cells : Nat → Block) (t : Transaction) (position count block : Nat)
    (outside : ¬ (position ≤ block ∧ block < position + t.span)) :
    applyWrites cells ((logWrites t position).take count) block = cells block := by
  apply WriteLog.applyWrites_other
  intro write member here
  have place := logWrites_place t position write (List.mem_of_mem_take member)
  unfold Transaction.span at outside
  omega

theorem logWrites_commit (cells : Nat → Block) (t : Transaction) (position count : Nat) :
    applyWrites cells ((logWrites t position).take count) (position + 1 + t.images.length) =
      cells (position + 1 + t.images.length) := by
  apply WriteLog.applyWrites_other
  intro write member here
  have place := logWrites_place t position write (List.mem_of_mem_take member)
  omega

theorem logWrites_logged (cells : Nat → Block) (t : Transaction) (position : Nat) :
    t.Logged (applyWrites cells (logWrites t position)) (t.placesAt position) where
  descriptor := by
    rw [logWrites, WriteLog.applyWrites_concat]
    exact WriteLog.store_same _ _ _
  payload index image here := by
    rw [logWrites, WriteLog.applyWrites_concat, WriteLog.store_other]
    · exact applyWrites_payload cells (position + 1) t.images index image here
    · simp only [Transaction.placesAt]
      omega

/-- Everything one ring commit writes: the segment without its commit record, the
PREPARED control block, the record, the COMMITTED control block. -/
def commitWrites (t : Transaction) (position first : Nat) (prepared committed : Block) :
    List (Nat × Block) :=
  logWrites t position ++ [(first, prepared),
    (position + 1 + t.images.length, t.commitRecord (t.placesAt position)), (first, committed)]

/-- A ring before a commit that finds a place behind its pending segments. -/
structure CommitBegun (area : JournalArea) (count : Nat) (cells : Nat → Block)
    (checkpoint tail : Nat) (pending : List Transaction) (t : Transaction) (position : Nat)
    (home : Nat → Block) : Prop where
  placed : Placement area tail pending position t.span
  held : Pending area count cells checkpoint tail pending
  valid : t.Valid area count
  later : lastSequenceOf checkpoint pending < t.sequence
  first : 0 < area.first
  same : SameHome area (applyWrites cells (imagesOf pending)) home
  /-- The control block on the device covers the pending segments. -/
  covered : ∀ after : Nat → Block, after area.first = cells area.first →
    Pending area count after checkpoint tail pending →
    SameHome area (applyWrites after (imagesOf pending)) home → RingImage area count after home

/-- The same with nothing stale in the way of its crash safety. -/
structure CommitStart (area : JournalArea) (count : Nat) (cells : Nat → Block)
    (checkpoint tail : Nat) (pending : List Transaction) (t : Transaction) (position : Nat)
    (home : Nat → Block) : Prop extends
    CommitBegun area count cells checkpoint tail pending t position home where
  /-- No stale block reads as the record that is about to be written. -/
  stale : ¬ CommitMatches position (t.descriptor (t.placesAt position))
    (cells (position + 1 + t.images.length))

section CommitStart

variable {area : JournalArea} {count : Nat} {cells : Nat → Block} {checkpoint tail : Nat}
variable {pending : List Transaction} {t : Transaction} {position : Nat} {home : Nat → Block}
variable (start : CommitBegun area count cells checkpoint tail pending t position home)
include start

/-- A device that differs from the start only inside the journal. -/
private theorem CommitBegun.home_of (after : Nat → Block)
    (writes : List (Nat × Block)) (is : after = applyWrites cells writes)
    (inside : ∀ write, write ∈ writes → area.Inside write.1) :
    SameHome area (applyWrites after (imagesOf pending)) home := by
  have unchanged := SameHome.journalWrites cells writes start.first inside
  rw [is]
  exact (unchanged.applyWrites (imagesOf pending)).trans start.same

private theorem CommitBegun.area_inside (block : Nat) (lower : position ≤ block)
    (upper : block < position + t.span) : area.Inside block := by
  have low := start.placed.low
  have fits := start.placed.fits
  simp only [JournalArea.Inside, JournalArea.ringStart, JournalArea.ringEnd] at *
  omega

private theorem CommitBegun.control_apart : ¬ (position ≤ area.first ∧
    area.first < position + t.span) := by
  have low := start.placed.low
  simp only [JournalArea.ringStart] at low
  omega

private theorem CommitBegun.log_inside (write : Nat × Block)
    (member : write ∈ logWrites t position) : area.Inside write.1 := by
  have place := logWrites_place t position write member
  apply start.area_inside
  · exact place.1
  · unfold Transaction.span
    omega

/-- While the segment is being logged the control block still covers the pending ones. -/
theorem CommitBegun.logging (written : Nat) :
    RingImage area count (applyWrites cells ((logWrites t position).take written)) home := by
  apply start.covered
  · exact logWrites_outside _ _ _ _ _ start.control_apart
  · apply start.placed.keeps start.held
    intro block _ _ outside
    exact logWrites_outside _ _ _ _ _ outside
  · apply start.home_of _ _ rfl
    intro write member
    exact start.log_inside write (List.mem_of_mem_take member)

variable (writes : List (Nat × Block)) (inside : ∀ write, write ∈ writes → area.Inside write.1)
variable (others : ∀ block, area.ringStart ≤ block → block < area.ringEnd →
  ¬ (position ≤ block ∧ block < position + t.span) → applyWrites cells writes block = cells block)
variable {state last active : Nat}
variable (control : RingControl area (applyWrites cells writes area.first) state last active
  checkpoint (SegmentRing.wrap area.ringStart area.ringEnd (position + t.span)) tail)
variable (busy : state ≠ JOURNAL_V3_STATE_IDLE ∧ state ≤ JOURNAL_V3_STATE_CHECKPOINTING)
include inside others control busy

/-- A control block past the segment, without its commit record. -/
theorem CommitBegun.torn
    (stale : ¬ CommitMatches position (t.descriptor (t.placesAt position))
      (cells (position + 1 + t.images.length)))
    (header : applyWrites cells writes position = t.descriptor (t.placesAt position))
    (record : applyWrites cells writes (position + 1 + t.images.length) =
      cells (position + 1 + t.images.length)) :
    RingImage area count (applyWrites cells writes) home := by
  have ends := segmentsEnd_eq start.placed.chain
  refine RingImage.torn state last active checkpoint _ tail pending control busy
    (start.placed.keeps start.held others) t start.valid start.later start.placed.extended ?_ ?_
    (start.home_of _ _ rfl inside)
  · rw [ends]
    exact header
  · rw [ends, record]
    exact stale

omit control busy in
/-- With its commit record the new segment is one of the pending ones. -/
theorem CommitBegun.extended (keeps : KeepsCount count t.images)
    (committed : t.Committed (applyWrites cells writes) (t.placesAt position)) :
    Pending area count (applyWrites cells writes) checkpoint tail (pending ++ [t]) ∧
      SegmentRing.Chain area.ringStart area.ringEnd tail (spans (pending ++ [t]))
        (SegmentRing.wrap area.ringStart area.ringEnd (position + t.span)) ∧
      SameHome area (applyWrites (applyWrites cells writes) (imagesOf (pending ++ [t])))
        (applyWrites home t.images) := by
  have ends := segmentsEnd_eq start.placed.chain
  have held := start.placed.keeps start.held others
  refine ⟨⟨?_, ?_, ?_, held.ascending.snoc start.later⟩, ?_, ?_⟩
  · intro other member
    rcases List.mem_append.mp member with earlier | here
    · exact held.valid other earlier
    · rw [List.mem_singleton.mp here]
      exact start.valid
  · intro image member
    rw [imagesOf_append, List.mem_append] at member
    rcases member with earlier | here
    · exact held.keeps image earlier
    · exact keeps image (by simpa [imagesOf] using here)
  · apply held.on.snoc
    rw [ends]
    exact committed
  · rw [spans_append]
    exact start.placed.extended
  · rw [imagesOf_append, WriteLog.applyWrites_append]
    have home := (start.home_of _ _ rfl inside).applyWrites t.images
    simpa [imagesOf] using home

/-- A control block past the segment, with its commit record. -/
theorem CommitBegun.live (keeps : KeepsCount count t.images)
    (committed : t.Committed (applyWrites cells writes) (t.placesAt position)) :
    RingImage area count (applyWrites cells writes) (applyWrites home t.images) := by
  obtain ⟨held, chain, same⟩ := start.extended writes inside others keeps committed
  exact RingImage.live state last active checkpoint _ tail (pending ++ [t]) control busy held
    chain same

end CommitStart

theorem logWrites_length (t : Transaction) (position : Nat) :
    (logWrites t position).length = t.images.length + 1 := by
  rw [logWrites, List.length_append, payloadWrites_length, List.length_singleton]

theorem commitWrites_length (t : Transaction) (position first : Nat) (prepared committed : Block) :
    (commitWrites t position first prepared committed).length = t.images.length + 4 := by
  rw [commitWrites, List.length_append, logWrites_length]
  rfl

/-- The log up to a crash during a commit: within the segment, or behind one of the
three writes that follow it. -/
theorem commitWrites_take (t : Transaction) (position first : Nat) (prepared committed : Block)
    (written : Nat) :
    (written < t.images.length + 2 ∧
      (commitWrites t position first prepared committed).take written =
        (logWrites t position).take written) ∨
    (written = t.images.length + 2 ∧
      (commitWrites t position first prepared committed).take written =
        logWrites t position ++ [(first, prepared)]) ∨
    (written = t.images.length + 3 ∧
      (commitWrites t position first prepared committed).take written =
        logWrites t position ++ [(first, prepared),
          (position + 1 + t.images.length, t.commitRecord (t.placesAt position))]) ∨
    (t.images.length + 4 ≤ written ∧
      (commitWrites t position first prepared committed).take written =
        commitWrites t position first prepared committed) := by
  have length := logWrites_length t position
  by_cases within : written < t.images.length + 2
  · refine Or.inl ⟨within, ?_⟩
    rw [commitWrites, List.take_append_of_le_length (by omega)]
  · have split : ∀ extra, (commitWrites t position first prepared committed).take
        (t.images.length + 1 + extra) = logWrites t position ++ [(first, prepared),
          (position + 1 + t.images.length, t.commitRecord (t.placesAt position)),
          (first, committed)].take extra := by
      intro extra
      rw [commitWrites, ← length, List.take_length_add_append]
    by_cases second : written = t.images.length + 2
    · exact Or.inr (Or.inl ⟨second, by rw [second]; exact split 1⟩)
    · by_cases third : written = t.images.length + 3
      · exact Or.inr (Or.inr (Or.inl ⟨third, by rw [third]; exact split 2⟩))
      · refine Or.inr (Or.inr (Or.inr ⟨by omega, List.take_of_length_le ?_⟩))
        rw [commitWrites_length]
        omega

/-- The commit record completes a logged segment, whatever the control block becomes. -/
theorem recorded_committed {t : Transaction} {cells : Nat → Block} {position first : Nat}
    (logged : t.Logged cells (t.placesAt position)) (low : first < position) (control : Block) :
    t.Committed (store (store cells first control) (position + 1 + t.images.length)
      (t.commitRecord (t.placesAt position))) (t.placesAt position) := by
  have keep : ∀ block, position ≤ block → block < position + 1 + t.images.length →
      store (store cells first control) (position + 1 + t.images.length)
        (t.commitRecord (t.placesAt position)) block = cells block := by
    intro block lower upper
    rw [WriteLog.store_other _ _ _ _ (by omega), WriteLog.store_other _ _ _ _ (by omega)]
  refine ⟨logged.congr (keep _ (Nat.le_refl _) ?_) ?_, WriteLog.store_same _ _ _⟩
  · simp only [Transaction.placesAt]
    omega
  · intro index before
    apply keep
    · simp only [Transaction.placesAt]
      omega
    · simp only [Transaction.placesAt]
      omega

/-- After all writes of a commit its segment and the last control block are in place. -/
theorem commitWrites_written (cells : Nat → Block) (t : Transaction) (area : JournalArea)
    (position : Nat) (prepared committed : Block) (low : area.ringStart ≤ position) :
    t.Committed (applyWrites cells (commitWrites t position area.first prepared committed))
        (t.placesAt position) ∧
      applyWrites cells (commitWrites t position area.first prepared committed) area.first =
        committed := by
  have below : area.first < position := low
  have cell : applyWrites cells (commitWrites t position area.first prepared committed) =
      store (store (store (applyWrites cells (logWrites t position)) area.first prepared)
        (position + 1 + t.images.length) (t.commitRecord (t.placesAt position)))
        area.first committed := by
    rw [commitWrites, WriteLog.applyWrites_append]
    rfl
  rw [cell]
  refine ⟨?_, WriteLog.store_same _ _ _⟩
  apply (recorded_committed (logWrites_logged cells t position) below prepared).congr
  intro block lower _
  exact WriteLog.store_other _ _ _ _ (by omega)

section Crash

variable {area : JournalArea} {count : Nat} {cells : Nat → Block} {checkpoint tail : Nat}
variable {pending : List Transaction} {t : Transaction} {position : Nat} {home : Nat → Block}
variable (start : CommitBegun area count cells checkpoint tail pending t position home)
variable (prepared committed : Block)

private theorem commitWrites_place (write : Nat × Block)
    (member : write ∈ commitWrites t position area.first prepared committed) :
    write.1 = area.first ∨ (position ≤ write.1 ∧ write.1 < position + t.span) := by
  unfold Transaction.span
  rcases List.mem_append.mp member with logged | behind
  · have place := logWrites_place t position write logged
    omega
  · simp only [List.mem_cons, List.not_mem_nil, or_false] at behind
    rcases behind with rfl | rfl | rfl
    · exact Or.inl rfl
    · dsimp only
      omega
    · exact Or.inl rfl

include start in
theorem commitWrites_inside (write : Nat × Block)
    (member : write ∈ commitWrites t position area.first prepared committed) :
    area.Inside write.1 := by
  rcases commitWrites_place prepared committed write member with here | segment
  · rw [here]
    have bounds := start.area_inside position (Nat.le_refl _)
      (by unfold Transaction.span; omega)
    have low := start.placed.low
    simp only [JournalArea.Inside, JournalArea.ringStart] at *
    omega
  · exact start.area_inside write.1 segment.1 segment.2

private theorem commitWrites_others (writes : List (Nat × Block))
    (some : ∀ write, write ∈ writes →
      write ∈ commitWrites t position area.first prepared committed)
    (block : Nat) (low : area.ringStart ≤ block)
    (outside : ¬ (position ≤ block ∧ block < position + t.span)) :
    applyWrites cells writes block = cells block := by
  apply WriteLog.applyWrites_other
  intro write member here
  have place := commitWrites_place prepared committed write (some write member)
  simp only [JournalArea.ringStart] at low
  omega

/-- A crash at any point of a commit leaves a ring that recovery knows, and the
transaction counts exactly from its commit record on. -/
theorem CommitStart.crash
    (start : CommitStart area count cells checkpoint tail pending t position home)
    (prepared committed : Block) (keeps : KeepsCount count t.images) {last active : Nat}
    (preparedIs : RingControl area prepared JOURNAL_V3_STATE_PREPARED last active checkpoint
      (SegmentRing.wrap area.ringStart area.ringEnd (position + t.span)) tail)
    (committedIs : RingControl area committed JOURNAL_V3_STATE_COMMITTED t.sequence 0 checkpoint
      (SegmentRing.wrap area.ringStart area.ringEnd (position + t.span)) tail)
    (written : Nat) :
    RingImage area count
      (applyWrites cells ((commitWrites t position area.first prepared committed).take written))
      (if written < t.images.length + 3 then home else applyWrites home t.images) := by
  have low := start.placed.low
  have below : area.first < position := low
  have apart : position ≠ area.first := by omega
  have recordApart : position + 1 + t.images.length ≠ area.first := by omega
  have logged := logWrites_logged cells t position
  have member : ∀ write, write ∈
      (commitWrites t position area.first prepared committed).take written →
      write ∈ commitWrites t position area.first prepared committed :=
    fun write member => List.mem_of_mem_take member
  have inside := fun write (inside : write ∈ _) =>
    commitWrites_inside start.toCommitBegun prepared committed write (member write inside)
  have others : ∀ block, area.ringStart ≤ block → block < area.ringEnd →
      ¬ (position ≤ block ∧ block < position + t.span) →
      applyWrites cells ((commitWrites t position area.first prepared committed).take written)
        block = cells block :=
    fun block low _ => commitWrites_others prepared committed _ member block low
  rcases commitWrites_take t position area.first prepared committed written with
    ⟨within, same⟩ | ⟨second, same⟩ | ⟨third, same⟩ | ⟨all, same⟩
  · rw [same, if_pos (by omega)]
    exact start.logging written
  · rw [if_pos (by omega)]
    rw [same] at inside others ⊢
    have behind : ∀ block, block ≠ area.first →
        applyWrites cells (logWrites t position ++ [(area.first, prepared)]) block =
          applyWrites cells (logWrites t position) block := by
      intro block away
      rw [WriteLog.applyWrites_concat, WriteLog.store_other _ _ _ _ away]
    have control : RingControl area (applyWrites cells (logWrites t position ++
        [(area.first, prepared)]) area.first) JOURNAL_V3_STATE_PREPARED last active checkpoint
        (SegmentRing.wrap area.ringStart area.ringEnd (position + t.span)) tail := by
      rw [WriteLog.applyWrites_concat, WriteLog.store_same]
      exact preparedIs
    apply start.torn _ inside others control (by decide) start.stale
    · rw [behind _ apart]
      exact logged.descriptor
    · rw [behind _ recordApart]
      have whole := logWrites_commit cells t position (logWrites t position).length
      rw [List.take_length] at whole
      exact whole
  · rw [if_neg (by omega)]
    rw [same] at inside others ⊢
    have cell : applyWrites cells (logWrites t position ++ [(area.first, prepared),
        (position + 1 + t.images.length, t.commitRecord (t.placesAt position))]) =
        store (store (applyWrites cells (logWrites t position)) area.first prepared)
          (position + 1 + t.images.length) (t.commitRecord (t.placesAt position)) := by
      rw [WriteLog.applyWrites_append]
      rfl
    have control : RingControl area (applyWrites cells (logWrites t position ++
        [(area.first, prepared), (position + 1 + t.images.length,
          t.commitRecord (t.placesAt position))]) area.first) JOURNAL_V3_STATE_PREPARED last active
        checkpoint (SegmentRing.wrap area.ringStart area.ringEnd (position + t.span)) tail := by
      rw [cell, WriteLog.store_other _ _ _ _ recordApart.symm, WriteLog.store_same]
      exact preparedIs
    apply start.live _ inside others control (by decide) keeps
    rw [cell]
    exact recorded_committed logged below _
  · rw [if_neg (by omega)]
    rw [same] at inside others ⊢
    have written := commitWrites_written cells t area position prepared committed low
    have control : RingControl area
        (applyWrites cells (commitWrites t position area.first prepared committed) area.first)
        JOURNAL_V3_STATE_COMMITTED t.sequence 0 checkpoint
        (SegmentRing.wrap area.ringStart area.ringEnd (position + t.span)) tail := by
      rw [written.2]
      exact committedIs
    exact start.live _ inside others control (by decide) keeps written.1

include start in
/-- The ring a whole commit leaves. -/
theorem CommitBegun.finished (keeps : KeepsCount count t.images) :
    Pending area count (applyWrites cells (commitWrites t position area.first prepared committed))
        checkpoint tail (pending ++ [t]) ∧
      SegmentRing.Chain area.ringStart area.ringEnd tail (spans (pending ++ [t]))
        (SegmentRing.wrap area.ringStart area.ringEnd (position + t.span)) ∧
      SameHome area (applyWrites (applyWrites cells
        (commitWrites t position area.first prepared committed)) (imagesOf (pending ++ [t])))
        (applyWrites home t.images) := by
  refine start.extended _ (commitWrites_inside start prepared committed) ?_ keeps
    (commitWrites_written cells t area position prepared committed start.placed.low).1
  intro block low _
  exact commitWrites_others prepared committed _ (fun _ member => member) block low

end Crash

/-- A ring before a checkpoint of its oldest segment. -/
structure CheckpointStart (area : JournalArea) (count : Nat) (cells : Nat → Block)
    (checkpoint head tail : Nat) (t : Transaction) (ts : List Transaction)
    (home : Nat → Block) : Prop where
  held : Pending area count cells checkpoint tail (t :: ts)
  chain : SegmentRing.Chain area.ringStart area.ringEnd tail (spans (t :: ts)) head
  tailLow : area.ringStart ≤ tail
  headLow : area.ringStart ≤ head
  headHigh : head < area.ringEnd
  first : 0 < area.first
  super : 0 ∈ t.homes
  same : SameHome area (applyWrites cells (imagesOf (t :: ts))) home

namespace CheckpointStart

variable {area : JournalArea} {count : Nat} {cells : Nat → Block} {checkpoint head tail : Nat}
variable {t : Transaction} {ts : List Transaction} {home : Nat → Block}
variable (start : CheckpointStart area count cells checkpoint head tail t ts home)
include start

/-- Devices with the ring's segments untouched keep their pending transactions. -/
private theorem pending_of (after : Nat → Block)
    (ring : ∀ block, area.ringStart ≤ block → block < area.ringEnd → after block = cells block) :
    Pending area count after checkpoint tail (t :: ts) where
  valid := start.held.valid
  keeps := start.held.keeps
  ascending := start.held.ascending
  on := by
    apply start.held.on.congr start.chain start.headLow start.headHigh
    intro block live
    have tailLow := start.tailLow
    have headHigh := start.headHigh
    apply ring
    · unfold SegmentRing.Live at live
      split at live <;> omega
    · unfold SegmentRing.Live at live
      split at live <;> omega

private theorem rest_of (after : Nat → Block)
    (ring : ∀ block, area.ringStart ≤ block → block < area.ringEnd → after block = cells block) :
    Pending area count after t.sequence
      (SegmentRing.wrap area.ringStart area.ringEnd (tail + t.span)) ts where
  valid other member := start.held.valid other (List.mem_cons_of_mem _ member)
  keeps image member := start.held.keeps image (List.mem_append_right _ member)
  ascending := (start.pending_of after ring).ascending.2
  on := (start.pending_of after ring).on.2

/-- The oldest segment's home writes over a device whose control block changed. -/
private theorem partial_ring (control : Block) (written : Nat) (block : Nat)
    (low : area.ringStart ≤ block) (high : block < area.ringEnd) :
    applyWrites (store cells area.first control) (t.images.take written) block = cells block := by
  have valid := start.held.valid t List.mem_cons_self
  have outside : OutsideJournal area (t.images.take written) :=
    fun write member => valid.outside write (List.mem_of_mem_take member)
  simp only [JournalArea.ringStart, JournalArea.ringEnd] at low high
  rw [outside.cell _ _ ⟨by omega, high⟩]
  exact WriteLog.store_other _ _ _ _ (by omega)

private theorem partial_home (control : Block) (written : Nat) :
    SameHome area (applyWrites (applyWrites (store cells area.first control)
      (t.images.take written)) (imagesOf (t :: ts))) home := by
  rw [imagesOf_cons, WriteLog.applyWrites_append, WriteLog.applyWrites_take_then_all,
    ← WriteLog.applyWrites_append, ← imagesOf_cons]
  have marked : SameHome area (store cells area.first control) cells := by
    apply SameHome.journalWrites cells [(area.first, control)] start.first
    intro write member
    rw [List.mem_singleton.mp member]
    have low := start.headLow
    have high := start.headHigh
    simp only [JournalArea.ringStart, JournalArea.ringEnd, JournalArea.Inside] at *
    omega
  exact (marked.applyWrites _).trans start.same

/-- While the segment is written home the marked control block still covers it. -/
theorem partial_image {marked : Block} {state last active : Nat}
    (markedIs : RingControl area marked state last active checkpoint head tail)
    (busy : state ≠ JOURNAL_V3_STATE_IDLE ∧ state ≤ JOURNAL_V3_STATE_CHECKPOINTING)
    (written : Nat) :
    RingImage area count
      (applyWrites (store cells area.first marked) (t.images.take written)) home := by
  have valid := start.held.valid t List.mem_cons_self
  have outside : OutsideJournal area (t.images.take written) :=
    fun write member => valid.outside write (List.mem_of_mem_take member)
  refine RingImage.live state last active checkpoint head tail (t :: ts) ?_ busy
    (start.pending_of _ (start.partial_ring marked written)) start.chain
    (start.partial_home marked written)
  have low := start.headLow
  have high := start.headHigh
  simp only [JournalArea.ringStart, JournalArea.ringEnd] at low high
  rw [outside.cell _ _ ⟨Nat.le_refl _, by omega⟩, WriteLog.store_same]
  exact markedIs

/-- The superblock of a drained ring is on the device, the control block not yet. -/
theorem super_image {marked super : Block} {state last active : Nat}
    (markedIs : RingControl area marked state last active checkpoint head tail)
    (busy : state ≠ JOURNAL_V3_STATE_IDLE ∧ state ≤ JOURNAL_V3_STATE_CHECKPOINTING) :
    RingImage area count
      (store (applyWrites (store cells area.first marked) t.images) 0 super) home := by
  have valid := start.held.valid t List.mem_cons_self
  have low := start.headLow
  have high := start.headHigh
  have first := start.first
  simp only [JournalArea.ringStart, JournalArea.ringEnd] at low high
  have ring : ∀ block, area.first ≤ block → store
      (applyWrites (store cells area.first marked) t.images) 0 super block =
        applyWrites (store cells area.first marked) t.images block := fun block lower =>
    WriteLog.store_other _ _ _ _ (by omega)
  have whole := start.partial_ring marked t.images.length
  rw [List.take_length] at whole
  refine RingImage.live state last active checkpoint head tail (t :: ts) ?_ busy
    (start.pending_of _ ?_) start.chain ?_
  · rw [ring _ (Nat.le_refl _), valid.outside.cell _ _ ⟨Nat.le_refl _, by omega⟩,
      WriteLog.store_same]
    exact markedIs
  · intro block lower upper
    rw [ring block (by simp only [JournalArea.ringStart] at lower; omega)]
    exact whole block lower upper
  · have home := start.partial_home marked t.images.length
    rw [List.take_length] at home
    refine SameHome.trans ?_ home
    rw [imagesOf_cons, WriteLog.applyWrites_append, WriteLog.applyWrites_append]
    apply SameHome.applyWrites
    -- Block 0 is among the images, so redoing them forgets the superblock just written.
    constructor
    · rw [WriteLog.applyWrites_written _ (applyWrites (store cells area.first marked) t.images)
        t.images 0 start.super]
      exact SameSuper.refl _
    · intro block away _
      apply WriteLog.applyWrites_congr_at
      exact WriteLog.store_other _ _ _ _ away

/-- The home blocks once the ring is drained and the superblock written. -/
theorem idle_same {marked super idle : Block} (drained : ts = [])
    (recovered : SameSuper super (applyWrites cells t.images 0)) :
    SameHome area (store (store (applyWrites (store cells area.first marked) t.images) 0
      super) area.first idle) home := by
  have first := start.first
  have low := start.headLow
  have high := start.headHigh
  simp only [JournalArea.ringStart, JournalArea.ringEnd] at low high
  have home := start.same
  rw [drained, imagesOf_cons, imagesOf_nil, List.append_nil] at home
  refine SameHome.trans ?_ home
  constructor
  · rw [WriteLog.store_other _ _ _ _ (by omega), WriteLog.store_same]
    exact recovered
  · intro block away outside
    have apart : block ≠ area.first := by
      rintro rfl
      exact outside ⟨Nat.le_refl _, by omega⟩
    rw [WriteLog.store_other _ _ _ _ apart, WriteLog.store_other _ _ _ _ away]
    apply WriteLog.applyWrites_congr_at
    exact WriteLog.store_other _ _ _ _ apart

/-- A drained ring with its idle control block. -/
theorem idle_image {marked super idle : Block} {last : Nat} (drained : ts = [])
    (idleIs : RingControl area idle JOURNAL_V3_STATE_IDLE last 0 last head head)
    (recovered : SameSuper super (applyWrites cells t.images 0)) :
    RingImage area count (store (store (applyWrites (store cells area.first marked) t.images) 0
      super) area.first idle) home := by
  refine RingImage.idle last head ?_ (start.idle_same drained recovered)
  rw [WriteLog.store_same]
  exact idleIs

/-- What is pending and owed once the oldest segment is home. -/
theorem settled (marked committed : Block) :
    Pending area count (store (applyWrites (store cells area.first marked) t.images)
        area.first committed) t.sequence
        (SegmentRing.wrap area.ringStart area.ringEnd (tail + t.span)) ts ∧
      SameHome area (applyWrites (store (applyWrites (store cells area.first marked) t.images)
        area.first committed) (imagesOf ts)) home := by
  have low := start.headLow
  have high := start.headHigh
  simp only [JournalArea.ringStart, JournalArea.ringEnd] at low high
  have whole := start.partial_ring marked t.images.length
  rw [List.take_length] at whole
  constructor
  · apply start.rest_of
    intro block lower upper
    rw [WriteLog.store_other _ _ _ _ (by simp only [JournalArea.ringStart] at lower; omega)]
    exact whole block lower upper
  · have home := start.same
    rw [imagesOf_cons, WriteLog.applyWrites_append] at home
    refine SameHome.trans (SameHome.applyWrites ?_ (imagesOf ts)) home
    constructor
    · have first := start.first
      rw [WriteLog.store_other _ _ _ _ (by omega)]
      rw [WriteLog.applyWrites_congr_at (store cells area.first marked) cells t.images 0
        (WriteLog.store_other _ _ _ _ (by omega))]
      exact SameSuper.refl _
    · intro block away outside
      have apart : block ≠ area.first := by
        rintro rfl
        exact outside ⟨Nat.le_refl _, by omega⟩
      rw [WriteLog.store_other _ _ _ _ apart]
      apply WriteLog.applyWrites_congr_at
      exact WriteLog.store_other _ _ _ _ apart

/-- A checkpointed segment with the control block behind it. -/
theorem settled_image {marked committed : Block} {state last active : Nat}
    (committedIs : RingControl area committed state last active t.sequence head
      (SegmentRing.wrap area.ringStart area.ringEnd (tail + t.span)))
    (busy : state ≠ JOURNAL_V3_STATE_IDLE ∧ state ≤ JOURNAL_V3_STATE_CHECKPOINTING) :
    RingImage area count (store (applyWrites (store cells area.first marked) t.images)
      area.first committed) home := by
  have whole := start.settled marked committed
  refine RingImage.live state last active t.sequence head _ ts ?_ busy whole.1
    start.chain.2.2.2.2 whole.2
  rw [WriteLog.store_same]
  exact committedIs

end CheckpointStart

end Cryexts
