import Cryexts.Journal.Transaction
import Mathlib.Data.List.Nodup

set_option autoImplicit false

namespace Cryexts

open WriteLog (store applyWrites)

/-- The home images of several transactions, in order. -/
def imagesOf (ts : List Transaction) : List (Nat × Block) := ts.flatMap Transaction.images

@[simp] theorem imagesOf_nil : imagesOf [] = [] := rfl

@[simp] theorem imagesOf_cons (t : Transaction) (ts : List Transaction) :
    imagesOf (t :: ts) = t.images ++ imagesOf ts := rfl

theorem imagesOf_append (first second : List Transaction) :
    imagesOf (first ++ second) = imagesOf first ++ imagesOf second := by
  simp only [imagesOf, List.flatMap_append]

/-- Every journalled image of the superblock block states the same volume size. -/
def KeepsCount (count : Nat) (images : List (Nat × Block)) : Prop :=
  ∀ image, image ∈ images → image.1 = 0 → image.2.get Super.blocksCount = count

theorem applyWrites_count (count : Nat) (cells : Nat → Block) (images : List (Nat × Block))
    (keeps : KeepsCount count images) (now : (cells 0).get Super.blocksCount = count) :
    (applyWrites cells images 0).get Super.blocksCount = count := by
  rcases WriteLog.applyWrites_mem_or_other cells images 0 with same | member
  · rw [same, now]
  · exact keeps (0, applyWrites cells images 0) member rfl

/-- A list of writes that stays out of the journal. -/
def OutsideJournal (area : JournalArea) (writes : List (Nat × Block)) : Prop :=
  ∀ write, write ∈ writes → ¬ area.Inside write.1

theorem OutsideJournal.cell {area : JournalArea} {writes : List (Nat × Block)}
    (outside : OutsideJournal area writes) (cells : Nat → Block) (block : Nat)
    (inside : area.Inside block) : applyWrites cells writes block = cells block := by
  apply WriteLog.applyWrites_other
  intro write member same
  exact outside write member (same ▸ inside)

theorem Transaction.Valid.outside {t : Transaction} {area : JournalArea} {count : Nat}
    (valid : t.Valid area count) : OutsideJournal area t.images :=
  fun image member => (valid.home image member).2

theorem Transaction.Valid.fresh {t : Transaction} {area : JournalArea} {count : Nat}
    (valid : t.Valid area count) {earlier later : Nat} {first second : Nat × Block}
    (before : earlier < later) (left : t.images[earlier]? = some first)
    (right : t.images[later]? = some second) : first.1 ≠ second.1 := by
  obtain ⟨low, rfl⟩ := List.getElem?_eq_some_iff.mp left
  obtain ⟨high, rfl⟩ := List.getElem?_eq_some_iff.mp right
  have apart := List.pairwise_iff_getElem.mp valid.distinct earlier later
    (by simpa [Transaction.homes] using low) (by simpa [Transaction.homes] using high) before
  simpa [Transaction.homes] using apart

theorem Transaction.Logged.congr {t : Transaction} {first second : Nat → Block}
    {places : JournalV3Segment} (logged : t.Logged first places)
    (header : second places.descriptorBlock = first places.descriptorBlock)
    (same : ∀ index, index < t.images.length →
      second (places.payloadStart + index) = first (places.payloadStart + index)) :
    t.Logged second places where
  descriptor := by rw [header, logged.descriptor]
  payload index image here := by
    rw [same index (List.getElem?_eq_some_iff.mp here).1, logged.payload index image here]

/-- The world a replay or a checkpoint works on: sound, and with room for the area
and every home block. -/
structure Ready (w : World) (area : JournalArea) (count : Nat) : Prop where
  healthy : w.Healthy
  sameArea : w.sbi.area = area
  sameCount : blocksCount w = count
  journal : area.first + area.blocks ≤ w.size
  homes : count ≤ w.size
  bounded : w.size ≤ 2 ^ 64

theorem Ready.written {w : World} {area : JournalArea} {count : Nat}
    (ready : Ready w area count) (writes : List (Nat × Block)) (keeps : KeepsCount count writes) :
    Ready (w.writtenAll writes) area count where
  healthy := World.writtenAll_healthy w writes ready.healthy
  sameArea := by rw [World.writtenAll_sbi, ready.sameArea]
  sameCount := by
    simp only [blocksCount, World.super, World.writtenAll_cache]
    exact applyWrites_count count _ _ keeps ready.sameCount
  journal := by rw [World.writtenAll_size]; exact ready.journal
  homes := by rw [World.writtenAll_size]; exact ready.homes
  bounded := by rw [World.writtenAll_size]; exact ready.bounded

/-- Writes between the two settings of the replay's flag. -/
theorem setReplaying_writtenAll (w : World) (writes : List (Nat × Block))
    (idle : w.sbi.journalReplaying = false) :
    setReplaying false ((setReplaying true w).writtenAll writes) = w.writtenAll writes := by
  have same : { w.sbi with journalReplaying := false } = w.sbi := by rw [← idle]
  simp only [setReplaying, World.writtenAll_with_sbi]
  rw [same]
  exact (World.writtenAll_with_sbi w writes w.sbi).symm

section Payloads

variable {w : World} {area : JournalArea} {count : Nat} (ready : Ready w area count)
variable {t : Transaction} (valid : t.Valid area count) {places : JournalV3Segment}
variable (bounded : places.Bounded)
include ready valid bounded

private theorem verifyPayloads_from (distinct : Bool) (logged : t.Logged w.cache places)
    (room : places.payloadStart + t.images.length ≤ w.size)
    (done rest : List (Nat × Block)) (split : t.images = done ++ rest) (seed : Nat) :
    verifyPayloads distinct (t.descriptor places) places.payloadStart
        (List.range' done.length rest.length) seed w =
      (.ok (rest.foldl (fun sum image => fnv1aUpdate sum image.2) seed), w) := by
  have small : count ≤ 2 ^ 64 := ready.homes.trans ready.bounded
  induction rest generalizing done seed with
  | nil => rfl
  | cons image rest ih =>
      have here : t.images[done.length]? = some image := by
        rw [split, List.getElem?_append_right (Nat.le_refl _), Nat.sub_self,
          List.getElem?_cons_zero]
      have entry := t.entry_descriptor places area count valid bounded small _ _ here
      have home := valid.home image (List.mem_of_getElem? here)
      have place : places.payloadStart + done.length < w.size := by
        have inside := (List.getElem?_eq_some_iff.mp here).1
        omega
      have read := readFileBlock_run w ready.healthy _ place
      rw [logged.payload _ _ here] at read
      have fresh : ∀ earlier, earlier < done.length →
          (JournalV3Entry.ofBlock (t.descriptor places) earlier).homeBlock ≠
            (JournalV3Entry.ofBlock (t.descriptor places) done.length).homeBlock := by
        intro earlier before
        have inside : earlier < t.images.length := by
          have total := (List.getElem?_eq_some_iff.mp here).1
          omega
        have other := t.entry_descriptor places area count valid bounded small earlier _
          (List.getElem?_eq_getElem inside)
        rw [other, entry]
        exact valid.fresh before (List.getElem?_eq_getElem inside) here
      rw [List.length_cons, List.range'_succ, verifyPayloads, Routine.read_bind]
      rw [Routine.bind_ok _ _ _ _ _ (Routine.require_true _ _ _ (by
        rw [entry, ready.sameCount]
        have inside : ¬ w.sbi.JournalBlockIsInternal image.1 := by
          have same := ready.sameArea
          subst same
          exact home.2
        exact ⟨home.1, inside, rfl⟩))]
      rw [Routine.bind_ok _ _ _ _ _ (Routine.require_true _ _ _ (Or.inr fresh))]
      rw [Routine.bind_ok _ _ _ _ _ read]
      rw [Routine.bind_ok _ _ _ _ _ (Routine.require_true _ _ _ (by rw [entry]))]
      have later := ih (done ++ [image]) (by rw [split]; simp) (fnv1aUpdate seed image.2)
      rw [List.length_append, List.length_singleton] at later
      exact later

/-- Checks over logged payloads succeed and yield their running checksum. -/
theorem verifyPayloads_run (distinct : Bool) (logged : t.Logged w.cache places)
    (room : places.payloadStart + t.images.length ≤ w.size) (seed : Nat) :
    verifyPayloads distinct (t.descriptor places) places.payloadStart
        (List.range t.images.length) seed w =
      (.ok (t.images.foldl (fun sum image => fnv1aUpdate sum image.2) seed), w) := by
  have run := verifyPayloads_from ready valid bounded distinct logged room [] t.images rfl seed
  rw [List.range_eq_range']
  exact run

private theorem writeHome_from (logged : t.Logged w.cache places)
    (journal : ∀ index, index < t.images.length → area.Inside (places.payloadStart + index))
    (done rest : List (Nat × Block)) (split : t.images = done ++ rest) :
    writeHome (t.descriptor places) places.payloadStart
        (List.range' done.length rest.length) (w.writtenAll done) =
      (.ok (), w.writtenAll (done ++ rest)) := by
  have small : count ≤ 2 ^ 64 := ready.homes.trans ready.bounded
  induction rest generalizing done with
  | nil => simp [writeHome]
  | cons image rest ih =>
      have here : t.images[done.length]? = some image := by
        rw [split, List.getElem?_append_right (Nat.le_refl _), Nat.sub_self,
          List.getElem?_cons_zero]
      have index := (List.getElem?_eq_some_iff.mp here).1
      have entry := t.entry_descriptor places area count valid bounded small _ _ here
      have home := valid.home image (List.mem_of_getElem? here)
      have healthy := World.writtenAll_healthy w done ready.healthy
      have inside := journal _ index
      have place : places.payloadStart + done.length < (w.writtenAll done).size := by
        rw [World.writtenAll_size]
        exact lt_of_lt_of_le inside.2 ready.journal
      have read := readFileBlock_run (w.writtenAll done) healthy _ place
      have early : OutsideJournal area done := fun write member =>
        (valid.home write (split ▸ List.mem_append_left _ member)).2
      rw [World.writtenAll_cache, early.cell _ _ inside, logged.payload _ _ here] at read
      have put := journalV3WriteSync_run (w.writtenAll done) healthy image.1 image.2 (by
        rw [World.writtenAll_size]
        exact lt_of_lt_of_le home.1 ready.homes)
      rw [List.length_cons, List.range'_succ, writeHome, Routine.bind_ok _ _ _ _ _ read, entry,
        Routine.bind_ok _ _ _ _ _ put]
      have later := ih (done ++ [image]) (by rw [split]; simp)
      rw [List.length_append, List.length_singleton, World.writtenAll_append,
        World.writtenAll_cons, World.writtenAll_nil, List.append_assoc,
        List.singleton_append] at later
      exact later

/-- The home loop writes exactly the images, in order. -/
theorem writeHome_run (logged : t.Logged w.cache places)
    (journal : ∀ index, index < t.images.length → area.Inside (places.payloadStart + index)) :
    writeHome (t.descriptor places) places.payloadStart (List.range t.images.length) w =
      (.ok (), w.writtenAll t.images) := by
  have run := writeHome_from ready valid bounded logged journal [] t.images rfl
  rw [List.range_eq_range']
  exact run

/-- The same writes under `journal_replaying`. -/
theorem replayHome_run (logged : t.Logged w.cache places)
    (journal : ∀ index, index < t.images.length → area.Inside (places.payloadStart + index))
    (idle : w.sbi.journalReplaying = false) :
    replayHome (t.descriptor places) places.payloadStart t.images.length w =
      (.ok (), w.writtenAll t.images) := by
  have set : Ready (setReplaying true w) area count :=
    ⟨⟨ready.healthy.noFaults, ready.healthy.current⟩, ready.sameArea, ready.sameCount,
      ready.journal, ready.homes, ready.bounded⟩
  have loop := writeHome_run set valid bounded logged journal
  rw [replayHome, Routine.modify_bind, Routine.bind_ok _ _ _ _ _ (Routine.onFailure_ok _ _ _ _ _ loop),
    Routine.modify_run, setReplaying_writtenAll w t.images idle]

end Payloads

/-- The committed segments of a ring, one behind the other from a position on. -/
def SegmentsOn (area : JournalArea) (cells : Nat → Block) : Nat → List Transaction → Prop
  | _, [] => True
  | position, t :: ts =>
      t.Committed cells (t.placesAt position) ∧
        SegmentsOn area cells (SegmentRing.wrap area.ringStart area.ringEnd (position + t.span)) ts

/-- Each sequence is later than the one before, starting after `previous`. -/
def Ascending : Nat → List Transaction → Prop
  | _, [] => True
  | previous, t :: ts => previous < t.sequence ∧ Ascending t.sequence ts

def lastSequenceOf : Nat → List Transaction → Nat
  | last, [] => last
  | _, t :: ts => lastSequenceOf t.sequence ts

def spans (ts : List Transaction) : List Nat := ts.map Transaction.span

@[simp] theorem spans_cons (t : Transaction) (ts : List Transaction) :
    spans (t :: ts) = t.span :: spans ts := rfl

/-- Where the segments of `ts` from `position` on end. -/
def segmentsEnd (area : JournalArea) : Nat → List Transaction → Nat
  | position, [] => position
  | position, t :: ts =>
      segmentsEnd area (SegmentRing.wrap area.ringStart area.ringEnd (position + t.span)) ts

section Walk

variable {w : World} {area : JournalArea} {count : Nat} (ready : Ready w area count)
variable (idle : w.sbi.journalReplaying = false)

theorem placesAt_bounded (t : Transaction) (position limit : Nat)
    (inside : position + t.span ≤ limit) (small : limit ≤ 2 ^ 64) :
    (t.placesAt position).Bounded := by
  unfold Transaction.span at inside
  constructor <;> simp only [Transaction.placesAt] <;> omega

theorem segmentHeader_valid {t : Transaction} (valid : t.Valid w.sbi.area count)
    (small : count ≤ 2 ^ 64) (position previous : Nat)
    (bounded : (t.placesAt position).Bounded) (later : previous < t.sequence) :
    SegmentHeaderValid w.sbi position previous (t.descriptor (t.placesAt position)) := by
  unfold SegmentHeaderValid
  rw [t.ofBlock_descriptor _ _ count valid bounded small]
  exact ⟨rfl, rfl, rfl, t.descriptor_valid _, valid.fits, rfl, rfl, later⟩

theorem commitMatches {t : Transaction} (valid : t.Valid area count) (small : count ≤ 2 ^ 64)
    (position : Nat) (bounded : (t.placesAt position).Bounded) :
    CommitMatches position (t.descriptor (t.placesAt position))
      (t.commitRecord (t.placesAt position)) := by
  unfold CommitMatches
  rw [t.ofBlock_descriptor _ _ count valid bounded small,
    t.ofBlock_commitRecord _ _ count valid bounded]
  exact ⟨rfl, rfl, rfl, rfl, rfl, rfl, t.commitRecord_valid _⟩

include ready idle

/-- One round of the walk over a committed segment applies it. -/
theorem replayRingSegment_committed {t : Transaction} (valid : t.Valid area count)
    (head position previous : Nat) (later : previous < t.sequence)
    (low : area.ringStart ≤ position) (inside : position + t.span ≤ area.ringEnd)
    (committed : t.Committed w.cache (t.placesAt position)) :
    ∃ applied : Applied previous, applied.sequence = t.sequence ∧
      applied.segmentEnd = SegmentRing.wrap area.ringStart area.ringEnd (position + t.span) ∧
      replayRingSegment head position previous w =
        (.ok (some applied), w.writtenAll t.images) := by
  have small : count ≤ 2 ^ 64 := ready.homes.trans ready.bounded
  have journal := ready.journal
  have same := ready.sameArea
  subst same
  have limit : w.sbi.area.ringEnd ≤ w.size := journal
  have bounded := placesAt_bounded t position _ inside (limit.trans ready.bounded)
  unfold JournalArea.ringStart at low
  unfold Transaction.span at inside
  have header := segmentHeader_valid valid small position previous bounded later
  have readDescriptor := readFileBlock_run w ready.healthy position (by omega)
  have found : w.cache position = t.descriptor (t.placesAt position) := committed.descriptor
  rw [found] at readDescriptor
  have fields := t.ofBlock_descriptor _ _ count valid bounded small
  have record := t.ofBlock_commitRecord _ _ count valid bounded
  have readCommit := readFileBlock_run w ready.healthy (position + 1 + t.images.length) (by omega)
  have commit : w.cache (position + 1 + t.images.length) =
      t.commitRecord (t.placesAt position) := committed.commitRecord
  rw [commit] at readCommit
  have checks := verifyPayloads_run ready valid bounded true committed.toLogged
    (by simp only [Transaction.placesAt]; omega) FNV_OFFSET
  have cells : ∀ index, index < t.images.length →
      w.sbi.area.Inside ((t.placesAt position).payloadStart + index) := by
    intro index before
    simp only [Transaction.placesAt, JournalArea.Inside, JournalArea.ringEnd] at *
    omega
  have home := replayHome_run ready valid bounded committed.toLogged cells idle
  have accepted : CommitMatches position (t.descriptor (t.placesAt position))
      (t.commitRecord (t.placesAt position)) ∧
      (JournalV3Commit.ofBlock (t.commitRecord (t.placesAt position))).flags =
        JOURNAL_V3_FLAG_COMMITTED := by
    refine ⟨commitMatches valid small position bounded, ?_⟩
    rw [record]
  refine ⟨⟨(JournalV3Descriptor.ofBlock (t.descriptor (t.placesAt position))).sequence,
    w.sbi.ringWrap ((JournalV3Descriptor.ofBlock
      (t.descriptor (t.placesAt position))).commitBlock + 1),
    header.2.2.2.2.2.2.2, ByteBuf.get_lt _ ⟨24, 8⟩⟩, ?_, ?_, ?_⟩
  · dsimp only
    rw [fields]
    rfl
  · dsimp only
    rw [fields, SbInfo.ringWrap_eq]
    simp only [Transaction.header, journalV3DescriptorHeader, Transaction.placesAt,
      Transaction.span]
    congr 1
    omega
  · rw [replayRingSegment, Routine.read_bind, Routine.bind_ok _ _ _ _ _ readDescriptor]
    rw [dif_pos header]
    have commitBlock : (JournalV3Descriptor.ofBlock
        (t.descriptor (t.placesAt position))).commitBlock = position + 1 + t.images.length := by
      rw [fields]
      rfl
    have entryCount : (JournalV3Descriptor.ofBlock
        (t.descriptor (t.placesAt position))).entryCount = t.images.length := by
      rw [fields]
      rfl
    have payloadStart : (JournalV3Descriptor.ofBlock
        (t.descriptor (t.placesAt position))).payloadStart =
          (t.placesAt position).payloadStart := by
      rw [fields]
      rfl
    rw [Routine.bind_ok _ _ _ _ _ (commitBlock ▸ readCommit), if_pos accepted,
      Routine.bind_ok _ _ _ _ _ (Routine.require_true _ _ _ (by rw [record, fields]))]
    rw [Routine.bind_ok _ _ _ _ _ (payloadStart ▸ entryCount ▸ checks)]
    rw [Routine.bind_ok _ _ _ _ _ (Routine.require_true _ _ _ (by
      rw [record, entryCount]
      rfl))]
    rw [Routine.bind_ok _ _ _ _ _ (payloadStart ▸ entryCount ▸ home)]
    rfl

end Walk

theorem OutsideJournal.imagesOf {area : JournalArea} {count : Nat} {ts : List Transaction}
    (valid : ∀ t, t ∈ ts → t.Valid area count) : OutsideJournal area (imagesOf ts) := by
  intro write member
  simp only [Cryexts.imagesOf, List.mem_flatMap] at member
  obtain ⟨t, inside, image⟩ := member
  exact ((valid t inside).home write image).2

/-- A segment whose blocks stay as they are stays committed. -/
theorem Transaction.Committed.congr {t : Transaction} {first second : Nat → Block}
    {position : Nat} (committed : t.Committed first (t.placesAt position))
    (keep : ∀ block, position ≤ block → block < position + t.span →
      second block = first block) : t.Committed second (t.placesAt position) := by
  unfold Transaction.span at keep
  refine ⟨committed.toLogged.congr ?_ ?_, ?_⟩
  · exact keep position (by omega) (by omega)
  · intro index before
    exact keep (position + 1 + index) (by omega) (by omega)
  · rw [← committed.commitRecord]
    exact keep (position + 1 + t.images.length) (by omega) (by omega)

/-- A segment between the ring's bounds keeps its blocks when only home blocks change. -/
theorem Transaction.Committed.home {t : Transaction} {area : JournalArea}
    {cells : Nat → Block} {position : Nat} (committed : t.Committed cells (t.placesAt position))
    (writes : List (Nat × Block)) (outside : OutsideJournal area writes)
    (low : area.ringStart ≤ position) (inside : position + t.span ≤ area.ringEnd) :
    t.Committed (applyWrites cells writes) (t.placesAt position) := by
  apply committed.congr
  intro block lower upper
  apply outside.cell
  simp only [JournalArea.Inside, JournalArea.ringStart, JournalArea.ringEnd] at *
  omega

/-- The segments of a ring depend on its live blocks only. -/
theorem SegmentsOn.congr {area : JournalArea} {first second : Nat → Block} {position head : Nat}
    {ts : List Transaction} (on : SegmentsOn area first position ts)
    (chain : SegmentRing.Chain area.ringStart area.ringEnd position (spans ts) head)
    (headLow : area.ringStart ≤ head) (headHigh : head < area.ringEnd)
    (same : ∀ block, SegmentRing.Live area.ringStart area.ringEnd position head block →
      second block = first block) : SegmentsOn area second position ts := by
  induction ts generalizing position with
  | nil => trivial
  | cons t ts ih =>
      rw [spans_cons] at chain
      have live := chain.first_live headLow headHigh
      refine ⟨on.1.congr ?_, ih on.2 chain.2.2.2.2 ?_⟩
      · intro block lower upper
        exact same block ((live block).1 lower upper)
      · intro block later
        exact same block ((live block).2 later).1

theorem SegmentsOn.home {area : JournalArea} {cells : Nat → Block} {position head : Nat}
    {ts : List Transaction} {more : List Nat} (on : SegmentsOn area cells position ts)
    (chain : SegmentRing.Chain area.ringStart area.ringEnd position (spans ts ++ more) head)
    (low : area.ringStart ≤ position) (writes : List (Nat × Block))
    (outside : OutsideJournal area writes) :
    SegmentsOn area (applyWrites cells writes) position ts := by
  induction ts generalizing position with
  | nil => trivial
  | cons t ts ih =>
      rw [spans_cons, List.cons_append] at chain
      obtain ⟨_, _, inside, _, later⟩ := chain
      have next := SegmentRing.wrap_mem area.ringStart area.ringEnd (position + t.span)
        (by omega) inside (by unfold Transaction.span at inside; omega)
      exact ⟨on.1.home writes outside low inside, ih on.2 later next.1⟩

/-- The walk over the committed segments of a chain applies them all, in order. -/
theorem replayRingWalk_committed {w : World} {area : JournalArea} {count : Nat}
    (ready : Ready w area count) (idle : w.sbi.journalReplaying = false)
    (ts : List Transaction) (valid : ∀ t, t ∈ ts → t.Valid area count)
    (keeps : KeepsCount count (imagesOf ts)) (more : List Nat)
    (head position previous last : Nat)
    (chain : SegmentRing.Chain area.ringStart area.ringEnd position (spans ts ++ more) head)
    (low : area.ringStart ≤ position) (on : SegmentsOn area w.cache position ts)
    (ascending : Ascending previous ts) :
    replayRingWalk head position previous last w =
      replayRingWalk head (segmentsEnd area position ts) (lastSequenceOf previous ts)
        (lastSequenceOf last ts) (w.writtenAll (imagesOf ts)) := by
  induction ts generalizing w position previous last with
  | nil => rfl
  | cons t ts ih =>
      have first := valid t List.mem_cons_self
      have others : ∀ other, other ∈ ts → other.Valid area count :=
        fun other member => valid other (List.mem_cons_of_mem _ member)
      have keepsFirst : KeepsCount count t.images := fun image member =>
        keeps image (List.mem_append_left _ member)
      have keepsRest : KeepsCount count (imagesOf ts) := fun image member =>
        keeps image (List.mem_append_right _ member)
      rw [spans_cons, List.cons_append] at chain
      obtain ⟨_, apart, inside, _, later⟩ := chain
      obtain ⟨applied, sequence, ends, run⟩ := replayRingSegment_committed ready idle first head
        position previous ascending.1 low inside on.1
      have next := SegmentRing.wrap_mem area.ringStart area.ringEnd (position + t.span)
        (by omega) inside (by unfold Transaction.span at inside; omega)
      have rest := ih (ready.written t.images keepsFirst)
        (by rw [World.writtenAll_sbi, idle]) others keepsRest
        (SegmentRing.wrap area.ringStart area.ringEnd (position + t.span)) t.sequence t.sequence
        later next.1 (by
          rw [World.writtenAll_cache]
          exact on.2.home later next.1 t.images first.outside) ascending.2
      rw [replayRingWalk, if_neg apart, run]
      dsimp only
      rw [sequence, ends, rest, imagesOf_cons, World.writtenAll_append]
      rfl

theorem segmentsEnd_chain {area : JournalArea} (ts : List Transaction) (more : List Nat)
    (head position : Nat)
    (chain : SegmentRing.Chain area.ringStart area.ringEnd position (spans ts ++ more) head) :
    SegmentRing.Chain area.ringStart area.ringEnd (segmentsEnd area position ts) more head := by
  induction ts generalizing position with
  | nil => exact chain
  | cons t ts ih => exact ih _ chain.2.2.2.2

theorem segmentsEnd_low {area : JournalArea} (ts : List Transaction) (more : List Nat)
    (head position : Nat) (low : area.ringStart ≤ position)
    (chain : SegmentRing.Chain area.ringStart area.ringEnd position (spans ts ++ more) head) :
    area.ringStart ≤ segmentsEnd area position ts := by
  induction ts generalizing position with
  | nil => exact low
  | cons t ts ih =>
      obtain ⟨_, _, inside, _, later⟩ := chain
      have next := SegmentRing.wrap_mem area.ringStart area.ringEnd (position + t.span)
        (by omega) inside (by unfold Transaction.span at inside; omega)
      exact ih _ next.1 later

/-- A complete chain is applied as a whole. -/
theorem replayRingWalk_complete {w : World} {area : JournalArea} {count : Nat}
    (ready : Ready w area count) (idle : w.sbi.journalReplaying = false)
    (ts : List Transaction) (valid : ∀ t, t ∈ ts → t.Valid area count)
    (keeps : KeepsCount count (imagesOf ts)) (head position previous last : Nat)
    (chain : SegmentRing.Chain area.ringStart area.ringEnd position (spans ts) head)
    (low : area.ringStart ≤ position) (on : SegmentsOn area w.cache position ts)
    (ascending : Ascending previous ts) :
    replayRingWalk head position previous last w =
      (.ok (lastSequenceOf last ts), w.writtenAll (imagesOf ts)) := by
  have padded : SegmentRing.Chain area.ringStart area.ringEnd position (spans ts ++ []) head := by
    rw [List.append_nil]
    exact chain
  have ends : segmentsEnd area position ts = head := segmentsEnd_chain ts [] head position padded
  rw [replayRingWalk_committed ready idle ts valid keeps [] head position previous last padded low
    on ascending, ends, replayRingWalk, if_pos rfl]

/-- A last segment whose commit block names another transaction is dropped. -/
theorem replayRingWalk_torn {w : World} {area : JournalArea} {count : Nat}
    (ready : Ready w area count) (idle : w.sbi.journalReplaying = false)
    (ts : List Transaction) (valid : ∀ t, t ∈ ts → t.Valid area count)
    (keeps : KeepsCount count (imagesOf ts)) (torn : Transaction) (tornValid : torn.Valid area count)
    (head position previous last : Nat)
    (chain : SegmentRing.Chain area.ringStart area.ringEnd position (spans ts ++ [torn.span]) head)
    (low : area.ringStart ≤ position) (on : SegmentsOn area w.cache position ts)
    (ascending : Ascending previous ts) (later : lastSequenceOf previous ts < torn.sequence)
    (header : w.cache (segmentsEnd area position ts) =
      torn.descriptor (torn.placesAt (segmentsEnd area position ts)))
    (absent : ¬ CommitMatches (segmentsEnd area position ts)
      (torn.descriptor (torn.placesAt (segmentsEnd area position ts)))
      (w.cache (segmentsEnd area position ts + 1 + torn.images.length))) :
    replayRingWalk head position previous last w =
      (.ok (lastSequenceOf last ts), w.writtenAll (imagesOf ts)) := by
  have small : count ≤ 2 ^ 64 := ready.homes.trans ready.bounded
  have low' := segmentsEnd_low ts _ head position low chain
  have chain' := segmentsEnd_chain ts _ head position chain
  have outside := OutsideJournal.imagesOf valid
  rw [replayRingWalk_committed ready idle ts valid keeps _ head position previous last chain low
    on ascending]
  generalize segmentsEnd area position ts = here at *
  obtain ⟨_, apart, inside, _, meets⟩ := chain'
  have after := ready.written _ keeps
  have same := after.sameArea
  have journal := after.journal
  subst same
  have limit : (w.writtenAll (imagesOf ts)).sbi.area.ringEnd ≤
      (w.writtenAll (imagesOf ts)).size := journal
  have bounded := placesAt_bounded torn here _ inside (limit.trans after.bounded)
  unfold Transaction.span at inside
  have cell : ∀ block, here ≤ block → block < here + (torn.images.length + 2) →
      (w.writtenAll (imagesOf ts)).cache block = w.cache block := by
    intro block lower upper
    rw [World.writtenAll_cache]
    apply outside.cell
    simp only [JournalArea.Inside, JournalArea.ringStart, JournalArea.ringEnd] at *
    omega
  have valid' := segmentHeader_valid tornValid small here (lastSequenceOf previous ts) bounded later
  have readDescriptor := readFileBlock_run _ after.healthy here (by omega)
  rw [cell here (by omega) (by omega), header] at readDescriptor
  have readCommit := readFileBlock_run _ after.healthy (here + 1 + torn.images.length) (by omega)
  rw [cell _ (by omega) (by omega)] at readCommit
  have commitBlock : (JournalV3Descriptor.ofBlock
      (torn.descriptor (torn.placesAt here))).commitBlock = here + 1 + torn.images.length := by
    rw [torn.ofBlock_descriptor _ _ count tornValid bounded small]
    rfl
  have ends : (w.writtenAll (imagesOf ts)).sbi.ringWrap
      (here + 1 + torn.images.length + 1) = head := by
    rw [SbInfo.ringWrap_eq, show here + 1 + torn.images.length + 1 =
      here + (torn.images.length + 2) by omega]
    exact meets
  have stops : replayRingSegment head here (lastSequenceOf previous ts)
      (w.writtenAll (imagesOf ts)) = (.ok none, w.writtenAll (imagesOf ts)) := by
    rw [replayRingSegment, Routine.read_bind, Routine.bind_ok _ _ _ _ _ readDescriptor,
      dif_pos valid']
    rw [← commitBlock] at readCommit ends absent
    rw [Routine.bind_ok _ _ _ _ _ readCommit, if_neg (fun both => absent both.1), if_pos ends]
    rfl
  rw [replayRingWalk, if_neg apart, stops]

end Cryexts
