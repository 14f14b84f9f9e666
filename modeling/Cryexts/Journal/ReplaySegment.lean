import Cryexts.Journal.CheckpointStops
import Cryexts.Journal.Replay

set_option autoImplicit false

namespace Cryexts

open WriteLog (store applyWrites)

/-- Where nothing was to fail before, nothing is later. -/
def Quieter (faults later : List Bool) : Prop := faults = [] → later = []

theorem Quieter.refl (faults : List Bool) : Quieter faults faults := id

theorem Quieter.trans {first second third : List Bool} (one : Quieter first second)
    (two : Quieter second third) : Quieter first third := fun none => two (one none)

theorem Quieter.tail (faults : List Bool) : Quieter faults faults.tail := by
  intro none
  rw [none]
  rfl

theorem kmalloc_found (w : World) :
    (kmalloc w = (.error .enomem, w.failing w.faults.tail) ∧ w.faults ≠ []) ∨
      kmalloc w = (.ok (), w.failing w.faults.tail) := by
  have alloc := kmalloc_eq w
  by_cases none : w.faults.headD false = true
  · rw [if_pos none] at alloc
    left
    refine ⟨alloc, ?_⟩
    intro empty
    rw [empty] at none
    cases none
  · rw [if_neg none] at alloc
    exact Or.inr alloc

section Current

variable {w : World} (current : w.Current)
include current

/-- A read fails, or it finds the buffer. -/
theorem readFileBlock_found (block : Nat) :
    (readFileBlock block w = (.error .eio, w.failing w.faults.tail) ∧
      (w.faults = [] → w.size ≤ block)) ∨
    (readFileBlock block w = (.ok (w.cache block), w.failing w.faults.tail) ∧ block < w.size) := by
  have read : readFileBlock block w =
      if w.faults.headD false = true ∨ w.size ≤ block then
        (.error .eio, w.failing w.faults.tail)
      else (.ok (w.cache block), w.failing w.faults.tail) := by
    rw [readFileBlock_eq, current.live, current.reread]
    rfl
  by_cases stopped : w.faults.headD false = true ∨ w.size ≤ block
  · rw [if_pos stopped] at read
    left
    refine ⟨read, ?_⟩
    intro none
    rw [none] at stopped
    exact stopped.resolve_left (by decide)
  · rw [if_neg stopped] at read
    right
    exact ⟨read, by omega⟩

/-- A write fails, or it reaches the device. -/
theorem writeSync_reached (block : Nat) (content : Block) :
    (∃ after, journalV3WriteSync block content w = (.error .eio, after) ∧
      (w.faults = [] → w.size ≤ block)) ∨
    (journalV3WriteSync block content w =
        (.ok (), (w.written block content).failing w.faults.tail.tail) ∧ block < w.size) := by
  have put := journalV3WriteSync_eq w block content
  rw [current.stored] at put
  by_cases stopped : w.faults.headD false = true ∨ w.size ≤ block
  · rw [if_pos stopped] at put
    left
    refine ⟨_, put, ?_⟩
    intro none
    rw [none] at stopped
    exact stopped.resolve_left (by decide)
  · rw [if_neg stopped] at put
    by_cases lost : w.faults.tail.headD false = true
    · rw [if_pos lost] at put
      left
      refine ⟨_, put, ?_⟩
      intro none
      rw [none] at lost
      cases lost
    · rw [if_neg lost] at put
      right
      exact ⟨put, by omega⟩

end Current

/-- What the replay asks of an entry and of its payload. -/
structure EntryReplayable (sbi : SbInfo) (count : Nat) (descriptor : Block) (payloadStart : Nat)
    (cells : Nat → Block) (index : Nat) : Prop
    extends EntryAccepted sbi count descriptor payloadStart cells index where
  distinct : ∀ earlier, earlier < index → (JournalV3Entry.ofBlock descriptor earlier).homeBlock ≠
    (JournalV3Entry.ofBlock descriptor index).homeBlock

/-- The payload checks of a replay: a read fails, an entry is refused, or all are accepted. -/
theorem verifyPayloads_replay {w : World} (current : w.Current) (descriptor : Block)
    (payloadStart : Nat) (indices : List Nat) (aggregate : Nat) :
    (∃ later, verifyPayloads true descriptor payloadStart indices aggregate w =
        (.error .eio, w.failing later) ∧
      (w.faults = [] → ∃ index, index ∈ indices ∧ w.size ≤ payloadStart + index)) ∨
    (∃ later, verifyPayloads true descriptor payloadStart indices aggregate w =
        (.error .euclean, w.failing later) ∧
      ¬ ∀ index, index ∈ indices →
        EntryReplayable w.sbi (blocksCount w) descriptor payloadStart w.cache index) ∨
    (∃ later, verifyPayloads true descriptor payloadStart indices aggregate w =
        (.ok (imagesChecksum (homeImages descriptor payloadStart w.cache indices) aggregate),
          w.failing later) ∧ Quieter w.faults later ∧
      ∀ index, index ∈ indices →
        EntryReplayable w.sbi (blocksCount w) descriptor payloadStart w.cache index) := by
  induction indices generalizing w aggregate with
  | nil =>
      right; right
      exact ⟨w.faults, rfl, Quieter.refl _, by simp⟩
  | cons index rest ih =>
      rw [verifyPayloads, Routine.read_bind]
      by_cases entry : (JournalV3Entry.ofBlock descriptor index).homeBlock < blocksCount w ∧
          ¬ w.sbi.JournalBlockIsInternal (JournalV3Entry.ofBlock descriptor index).homeBlock ∧
          (JournalV3Entry.ofBlock descriptor index).flags = 0
      case neg =>
        right; left
        rw [Routine.require, if_neg entry]
        exact ⟨w.faults, rfl, fun all => entry (all index List.mem_cons_self).entry⟩
      rw [Routine.require_bind _ _ _ _ entry]
      by_cases distinct : ∀ earlier, earlier < index →
          (JournalV3Entry.ofBlock descriptor earlier).homeBlock ≠
            (JournalV3Entry.ofBlock descriptor index).homeBlock
      case neg =>
        right; left
        have repeated : ¬ (true = false ∨ ∀ earlier, earlier < index →
            (JournalV3Entry.ofBlock descriptor earlier).homeBlock ≠
              (JournalV3Entry.ofBlock descriptor index).homeBlock) := by simpa using distinct
        rw [Routine.require, if_neg repeated]
        exact ⟨w.faults, rfl, fun all => distinct (all index List.mem_cons_self).distinct⟩
      rw [Routine.require_bind _ _ _ _ (Or.inr distinct)]
      rcases readFileBlock_found current (payloadStart + index) with
        ⟨read, beyond⟩ | ⟨read, inside⟩
      · left
        rw [Routine.bind_error _ _ _ _ _ read]
        exact ⟨_, rfl, fun none => ⟨index, List.mem_cons_self, beyond none⟩⟩
      rw [Routine.bind_ok _ _ _ _ _ read]
      by_cases payload : fnv1aUpdate FNV_OFFSET (w.cache (payloadStart + index)) =
          (JournalV3Entry.ofBlock descriptor index).payloadChecksum
      case neg =>
        right; left
        rw [Routine.require, if_neg payload]
        exact ⟨_, rfl, fun all => payload (all index List.mem_cons_self).payload⟩
      rw [Routine.require_bind _ _ _ _ payload]
      have next : (w.failing w.faults.tail).Current := current
      rw [homeImages_cons, imagesChecksum_cons]
      rcases ih next (fnv1aUpdate aggregate (w.cache (payloadStart + index))) with
        ⟨later, run, beyond⟩ | ⟨later, run, refused⟩ | ⟨later, run, quieter, accepted⟩
      · left
        refine ⟨later, run, fun none => ?_⟩
        obtain ⟨other, member, outside⟩ := beyond (Quieter.tail _ none)
        exact ⟨other, List.mem_cons_of_mem _ member, outside⟩
      · right; left
        exact ⟨later, run, fun all => refused fun other member =>
          all other (List.mem_cons_of_mem _ member)⟩
      · right; right
        refine ⟨later, run, (Quieter.tail _).trans quieter, ?_⟩
        intro other member
        rcases List.mem_cons.mp member with rfl | member
        · exact ⟨⟨entry, payload⟩, distinct⟩
        · exact accepted other member

/-- The home writes of a segment, each payload as it stands when its turn comes. -/
def homeCopies (descriptor : Block) (payloadStart : Nat) :
    List Nat → (Nat → Block) → List (Nat × Block)
  | [], _ => []
  | index :: rest, cells =>
      let image := ((JournalV3Entry.ofBlock descriptor index).homeBlock,
        cells (payloadStart + index))
      image :: homeCopies descriptor payloadStart rest (store cells image.1 image.2)

theorem homeCopies_homes (descriptor : Block) (payloadStart : Nat) (indices : List Nat)
    (cells : Nat → Block) (image : Nat × Block)
    (member : image ∈ homeCopies descriptor payloadStart indices cells) :
    ∃ index, index ∈ indices ∧ image.1 = (JournalV3Entry.ofBlock descriptor index).homeBlock := by
  induction indices generalizing cells with
  | nil => cases member
  | cons index rest ih =>
      rcases List.mem_cons.mp member with rfl | later
      · exact ⟨index, List.mem_cons_self, rfl⟩
      · obtain ⟨other, among, same⟩ := ih _ later
        exact ⟨other, List.mem_cons_of_mem _ among, same⟩

/-- Where no payload lies in a home block the copies are the images as they were checked. -/
theorem homeCopies_apart (descriptor : Block) (payloadStart : Nat) (indices : List Nat)
    (cells : Nat → Block)
    (apart : ∀ index, index ∈ indices → ∀ other, other ∈ indices →
      payloadStart + other ≠ (JournalV3Entry.ofBlock descriptor index).homeBlock) :
    homeCopies descriptor payloadStart indices cells =
      homeImages descriptor payloadStart cells indices := by
  induction indices generalizing cells with
  | nil => rfl
  | cons index rest ih =>
      rw [homeCopies, homeImages_cons, ih _ fun one member other member' =>
        apart one (List.mem_cons_of_mem _ member) other (List.mem_cons_of_mem _ member')]
      congr 1
      apply homeImages_congr
      intro other member
      apply WriteLog.store_other
      exact apart index List.mem_cons_self other (List.mem_cons_of_mem _ member)

/-- The home loop fails, or every copy reaches the device. -/
theorem writeHome_reached {w : World} (current : w.Current) (descriptor : Block)
    (payloadStart : Nat) (indices : List Nat) :
    (∃ after, writeHome descriptor payloadStart indices w = (.error .eio, after) ∧
      (w.faults = [] → ∃ index, index ∈ indices ∧ (w.size ≤ payloadStart + index ∨
        w.size ≤ (JournalV3Entry.ofBlock descriptor index).homeBlock))) ∨
    (∃ later, writeHome descriptor payloadStart indices w =
        (.ok (), (w.writtenAll (homeCopies descriptor payloadStart indices w.cache)).failing
          later) ∧ Quieter w.faults later ∧
      ∀ index, index ∈ indices →
        (JournalV3Entry.ofBlock descriptor index).homeBlock < w.size) := by
  induction indices generalizing w with
  | nil =>
      right
      exact ⟨w.faults, rfl, Quieter.refl _, by simp⟩
  | cons index rest ih =>
      rw [writeHome]
      rcases readFileBlock_found current (payloadStart + index) with
        ⟨read, beyond⟩ | ⟨read, _⟩
      · left
        rw [Routine.bind_error _ _ _ _ _ read]
        exact ⟨_, rfl, fun none => ⟨index, List.mem_cons_self, Or.inl (beyond none)⟩⟩
      rw [Routine.bind_ok _ _ _ _ _ read]
      have next : (w.failing w.faults.tail).Current := current
      rcases writeSync_reached next (JournalV3Entry.ofBlock descriptor index).homeBlock
        (w.cache (payloadStart + index)) with ⟨after, put, beyond⟩ | ⟨put, inside⟩
      · left
        rw [Routine.bind_error _ _ _ _ _ put]
        exact ⟨_, rfl, fun none => ⟨index, List.mem_cons_self,
          Or.inr (beyond (Quieter.tail _ none))⟩⟩
      rw [Routine.bind_ok _ _ _ _ _ put]
      have quieter : Quieter w.faults w.faults.tail.tail.tail :=
        (Quieter.tail _).trans ((Quieter.tail _).trans (Quieter.tail _))
      have again : (((w.failing w.faults.tail).written
          (JournalV3Entry.ofBlock descriptor index).homeBlock
          (w.cache (payloadStart + index))).failing w.faults.tail.tail.tail).Current := current
      rcases ih again with ⟨after, run, beyond⟩ | ⟨later, run, quiet, homes⟩
      · left
        refine ⟨after, run, fun none => ?_⟩
        obtain ⟨other, member, outside⟩ := beyond (quieter none)
        exact ⟨other, List.mem_cons_of_mem _ member, outside⟩
      · right
        refine ⟨later, ?_, quieter.trans quiet, ?_⟩
        · simp only [World.failing_written, World.failing_failing, World.failing_writtenAll,
            World.failing_cache] at run
          rw [homeCopies, World.writtenAll_cons]
          exact run
        · intro other member
          rcases List.mem_cons.mp member with rfl | member
          · exact inside
          · exact homes other member

section Segment

variable (sbi : SbInfo) (cells : Nat → Block) (position previous : Nat)

def segmentHeader : JournalV3Descriptor := JournalV3Descriptor.ofBlock (cells position)

def segmentCommit : JournalV3Commit :=
  JournalV3Commit.ofBlock (cells (segmentHeader cells position).commitBlock)

/-- Where the walk goes on behind the segment at `position`. -/
def segmentNext : Nat := sbi.ringWrap ((segmentHeader cells position).commitBlock + 1)

/-- The home writes of the segment at `position`. -/
def segmentCopies : List (Nat × Block) :=
  homeCopies (cells position) (segmentHeader cells position).payloadStart
    (List.range (segmentHeader cells position).entryCount) cells

/-- The commit record of the segment at `position` completes it. -/
def SegmentCommitted : Prop :=
  CommitMatches position (cells position) (cells (segmentHeader cells position).commitBlock) ∧
    (segmentCommit cells position).flags = JOURNAL_V3_FLAG_COMMITTED

/-- All that the ring replay asks of the segment at `position` before it writes a home block. -/
structure SegmentAccepted : Prop where
  header : SegmentHeaderValid sbi position previous (cells position)
  committed : SegmentCommitted cells position
  checksum : (segmentCommit cells position).descriptorChecksum =
    (segmentHeader cells position).checksum
  entries : ∀ index, index ∈ List.range (segmentHeader cells position).entryCount →
    EntryReplayable sbi ((cells 0).get Super.blocksCount) (cells position)
      (segmentHeader cells position).payloadStart cells index
  payloads : (if (segmentHeader cells position).entryCount = 0 then 0
      else imagesChecksum (homeImages (cells position) (segmentHeader cells position).payloadStart
        cells (List.range (segmentHeader cells position).entryCount)) FNV_OFFSET) =
    (segmentCommit cells position).payloadChecksum

/-- A last segment whose commit record is not there. -/
def SegmentUnfinished (head : Nat) : Prop :=
  SegmentHeaderValid sbi position previous (cells position) ∧
    ¬ SegmentCommitted cells position ∧ segmentNext sbi cells position = head

/-- The descriptor and the commit block it names can be read. -/
def SegmentReadable (size : Nat) : Prop :=
  position < size ∧ (SegmentHeaderValid sbi position previous (cells position) →
    (segmentHeader cells position).commitBlock < size)

/-- A segment that can be read and is neither complete nor the unfinished last one. -/
structure SegmentRefused (size head : Nat) : Prop where
  readable : SegmentReadable sbi cells position previous size
  unaccepted : ¬ SegmentAccepted sbi cells position previous
  finished : ¬ SegmentUnfinished sbi cells position previous head

/-- The home blocks of a segment are on the device. -/
def SegmentHomes (size : Nat) : Prop :=
  ∀ index, index ∈ List.range (segmentHeader cells position).entryCount →
    (JournalV3Entry.ofBlock (cells position) index).homeBlock < size

end Segment

/-- What one round of the ring walk comes to. -/
inductive SegmentStep (w : World) (head position previous : Nat) :
    Except Errno (Option (Applied previous)) × World → Prop
  | failed (after : World) (reason : w.faults = [] →
      ¬ SegmentReadable w.sbi w.cache position previous w.size ∨
        SegmentAccepted w.sbi w.cache position previous ∧
          ¬ SegmentHomes w.cache position w.size) :
      SegmentStep w head position previous (.error .eio, after)
  | refused (later : List Bool)
      (refused : SegmentRefused w.sbi w.cache position previous w.size head) :
      SegmentStep w head position previous (.error .euclean, w.failing later)
  | unfinished (later : List Bool) (quieter : Quieter w.faults later)
      (unfinished : SegmentUnfinished w.sbi w.cache position previous head) :
      SegmentStep w head position previous (.ok none, w.failing later)
  | applied (later : List Bool) (quieter : Quieter w.faults later)
      (accepted : SegmentAccepted w.sbi w.cache position previous)
      (readable : SegmentReadable w.sbi w.cache position previous w.size)
      (homes : SegmentHomes w.cache position w.size) (segment : Applied previous)
      (sequence : segment.sequence = (segmentHeader w.cache position).sequence)
      (next : segment.segmentEnd = segmentNext w.sbi w.cache position) :
      SegmentStep w head position previous
        (.ok (some segment), (w.writtenAll (segmentCopies w.cache position)).failing later)

/-- The home writes of a replay, with the flag that marks them set and cleared again. -/
theorem replayHome_reached {w : World} (current : w.Current)
    (idle : w.sbi.journalReplaying = false) (descriptor : Block) (payloadStart entries : Nat) :
    (∃ after, replayHome descriptor payloadStart entries w = (.error .eio, after) ∧
      (w.faults = [] → ∃ index, index ∈ List.range entries ∧ (w.size ≤ payloadStart + index ∨
        w.size ≤ (JournalV3Entry.ofBlock descriptor index).homeBlock))) ∨
    (∃ later, replayHome descriptor payloadStart entries w =
        (.ok (), (w.writtenAll (homeCopies descriptor payloadStart (List.range entries)
          w.cache)).failing later) ∧ Quieter w.faults later ∧
      ∀ index, index ∈ List.range entries →
        (JournalV3Entry.ofBlock descriptor index).homeBlock < w.size) := by
  have marked : (setReplaying true w).Current := current
  rw [replayHome, Routine.modify_bind]
  rcases writeHome_reached marked descriptor payloadStart (List.range entries) with
    ⟨after, run, beyond⟩ | ⟨later, run, quieter, homes⟩
  · left
    rw [Routine.bind_error _ _ _ _ _ (Routine.onFailure_error _ _ _ _ _ run)]
    exact ⟨_, rfl, beyond⟩
  · right
    rw [Routine.bind_ok _ _ _ _ _ (Routine.onFailure_ok _ _ _ _ _ run)]
    refine ⟨later, ?_, quieter, homes⟩
    rw [← setReplaying_writtenAll w _ idle]
    rfl

/-- A round of the ring walk behind the descriptor checks. -/
def segmentRest (head position : Nat) {previous : Nat} (buf : Block) (segment : Applied previous) :
    Kernel (Option (Applied previous)) := do
  let commitBuf ← readFileBlock (JournalV3Descriptor.ofBlock buf).commitBlock
  if CommitMatches position buf commitBuf ∧
      (JournalV3Commit.ofBlock commitBuf).flags = JOURNAL_V3_FLAG_COMMITTED then do
    Routine.require ((JournalV3Commit.ofBlock commitBuf).descriptorChecksum =
      (JournalV3Descriptor.ofBlock buf).checksum) .euclean
    let aggregate ← verifyPayloads true buf (JournalV3Descriptor.ofBlock buf).payloadStart
      (List.range (JournalV3Descriptor.ofBlock buf).entryCount) FNV_OFFSET
    Routine.require ((if (JournalV3Descriptor.ofBlock buf).entryCount = 0 then 0 else aggregate) =
      (JournalV3Commit.ofBlock commitBuf).payloadChecksum) .euclean
    replayHome buf (JournalV3Descriptor.ofBlock buf).payloadStart
      (JournalV3Descriptor.ofBlock buf).entryCount
    return some segment
  else if segment.segmentEnd = head then return none
  else Routine.fail .euclean

section Rest

variable {w : World} (current : w.Current) (idle : w.sbi.journalReplaying = false)
include current idle

/-- From the payload checks on. -/
theorem segmentPayloads_step {head position previous : Nat} (segment : Applied previous)
    (sequence : segment.sequence = (segmentHeader w.cache position).sequence)
    (next : segment.segmentEnd = segmentNext w.sbi w.cache position)
    (header : SegmentHeaderValid w.sbi position previous (w.cache position))
    (readable : SegmentReadable w.sbi w.cache position previous w.size)
    (committed : SegmentCommitted w.cache position)
    (checksum : (segmentCommit w.cache position).descriptorChecksum =
      (segmentHeader w.cache position).checksum) {faults : List Bool}
    (quieter : Quieter w.faults faults) :
    SegmentStep w head position previous
      ((verifyPayloads true (w.cache position) (segmentHeader w.cache position).payloadStart
          (List.range (segmentHeader w.cache position).entryCount) FNV_OFFSET >>= fun aggregate =>
        Routine.require ((if (segmentHeader w.cache position).entryCount = 0 then 0
          else aggregate) = (segmentCommit w.cache position).payloadChecksum) .euclean >>= fun _ =>
        replayHome (w.cache position) (segmentHeader w.cache position).payloadStart
          (segmentHeader w.cache position).entryCount >>= fun _ => return some segment)
        (w.failing faults)) := by
  have complete : ¬ SegmentUnfinished w.sbi w.cache position previous head :=
    fun unfinished => unfinished.2.1 committed
  have inside : ∀ index, index ∈ List.range (segmentHeader w.cache position).entryCount →
      (segmentHeader w.cache position).payloadStart + index < w.size := by
    intro index member
    have stored := readable.2 header
    have place : (segmentHeader w.cache position).commitBlock =
        (segmentHeader w.cache position).payloadStart +
          (segmentHeader w.cache position).entryCount := header.2.2.2.2.2.2.1
    have small := List.mem_range.mp member
    omega
  have before : (w.failing faults).Current := current
  rcases verifyPayloads_replay before (w.cache position)
    (segmentHeader w.cache position).payloadStart
    (List.range (segmentHeader w.cache position).entryCount) FNV_OFFSET with
    ⟨later, run, beyond⟩ | ⟨later, run, refused⟩ | ⟨later, run, still, entries⟩
  · rw [Routine.bind_error _ _ _ _ _ run]
    refine SegmentStep.failed _ fun none => ?_
    obtain ⟨index, member, outside⟩ := beyond (quieter none)
    have there := inside index member
    exact absurd there (Nat.not_lt.mpr outside)
  · rw [Routine.bind_error _ _ _ _ _ run]
    exact SegmentStep.refused _ ⟨readable, fun accepted => refused accepted.entries, complete⟩
  rw [World.failing_cache] at run
  rw [Routine.bind_ok _ _ _ _ _ run]
  by_cases payloads : (if (segmentHeader w.cache position).entryCount = 0 then 0
      else imagesChecksum (homeImages (w.cache position)
        (segmentHeader w.cache position).payloadStart w.cache
        (List.range (segmentHeader w.cache position).entryCount)) FNV_OFFSET) =
      (segmentCommit w.cache position).payloadChecksum
  case neg =>
    rw [Routine.require, if_neg payloads]
    exact SegmentStep.refused _ ⟨readable, fun accepted => payloads accepted.payloads, complete⟩
  rw [Routine.require_bind _ _ _ _ payloads]
  have accepted : SegmentAccepted w.sbi w.cache position previous :=
    ⟨header, committed, checksum, entries, payloads⟩
  have ready : ((w.failing faults).failing later).Current := current
  rcases replayHome_reached ready idle (w.cache position)
    (segmentHeader w.cache position).payloadStart
    (segmentHeader w.cache position).entryCount with ⟨after, run, beyond⟩ | ⟨last, run, quiet, homes⟩
  · rw [Routine.bind_error _ _ _ _ _ run]
    refine SegmentStep.failed _ fun none => Or.inr ⟨accepted, fun homes => ?_⟩
    obtain ⟨index, member, outside | outside⟩ := beyond (still (quieter none))
    · exact absurd (inside index member) (Nat.not_lt.mpr outside)
    · exact absurd (homes index member) (Nat.not_lt.mpr outside)
  · rw [Routine.bind_ok _ _ _ _ _ run]
    simp only [World.failing_failing, World.failing_writtenAll, World.failing_cache]
    exact SegmentStep.applied last ((quieter.trans still).trans quiet) accepted readable homes
      segment sequence next

theorem segmentRest_step {head position previous : Nat} (segment : Applied previous)
    (sequence : segment.sequence = (segmentHeader w.cache position).sequence)
    (next : segment.segmentEnd = segmentNext w.sbi w.cache position)
    (header : SegmentHeaderValid w.sbi position previous (w.cache position))
    (inside : position < w.size) {faults : List Bool} (quieter : Quieter w.faults faults) :
    SegmentStep w head position previous
      (segmentRest head position (w.cache position) segment (w.failing faults)) := by
  have before : (w.failing faults).Current := current
  rw [segmentRest]
  rcases readFileBlock_found before (segmentHeader w.cache position).commitBlock with
    ⟨read, beyond⟩ | ⟨read, stored⟩
  · rw [segmentHeader] at read
    rw [Routine.bind_error _ _ _ _ _ read]
    refine SegmentStep.failed _ fun none => Or.inl fun readable => ?_
    exact absurd (readable.2 header) (Nat.not_lt.mpr (beyond (quieter none)))
  rw [segmentHeader, World.failing_cache] at read
  rw [Routine.bind_ok _ _ _ _ _ read]
  have readable : SegmentReadable w.sbi w.cache position previous w.size :=
    ⟨inside, fun _ => stored⟩
  by_cases committed : CommitMatches position (w.cache position)
      (w.cache (JournalV3Descriptor.ofBlock (w.cache position)).commitBlock) ∧
      (JournalV3Commit.ofBlock (w.cache
        (JournalV3Descriptor.ofBlock (w.cache position)).commitBlock)).flags =
          JOURNAL_V3_FLAG_COMMITTED
  case neg =>
    rw [if_neg committed, next]
    by_cases last : segmentNext w.sbi w.cache position = head
    · rw [if_pos last]
      exact SegmentStep.unfinished _ (quieter.trans (Quieter.tail _)) ⟨header, committed, last⟩
    · rw [if_neg last]
      exact SegmentStep.refused _ ⟨readable, fun accepted => committed accepted.committed,
        fun unfinished => last unfinished.2.2⟩
  rw [if_pos committed]
  have complete : ¬ SegmentUnfinished w.sbi w.cache position previous head :=
    fun unfinished => unfinished.2.1 committed
  by_cases checksum : (JournalV3Commit.ofBlock (w.cache
      (JournalV3Descriptor.ofBlock (w.cache position)).commitBlock)).descriptorChecksum =
        (JournalV3Descriptor.ofBlock (w.cache position)).checksum
  case neg =>
    rw [Routine.require, if_neg checksum]
    exact SegmentStep.refused _ ⟨readable, fun accepted => checksum accepted.checksum, complete⟩
  rw [Routine.require_bind _ _ _ _ checksum]
  exact segmentPayloads_step current idle segment sequence next header readable committed checksum
    (quieter.trans (Quieter.tail _))

/-- One round of the ring walk over any content, whatever fails in it. -/
theorem replayRingSegment_step (head position previous : Nat) :
    SegmentStep w head position previous (replayRingSegment head position previous w) := by
  rw [replayRingSegment, Routine.read_bind]
  rcases readFileBlock_found current position with ⟨read, beyond⟩ | ⟨read, inside⟩
  · rw [Routine.bind_error _ _ _ _ _ read]
    refine SegmentStep.failed _ fun none => Or.inl fun readable => ?_
    exact absurd readable.1 (Nat.not_lt.mpr (beyond none))
  rw [Routine.bind_ok _ _ _ _ _ read]
  by_cases header : SegmentHeaderValid w.sbi position previous (w.cache position)
  · rw [dif_pos header]
    exact segmentRest_step current idle ⟨_, _, header.2.2.2.2.2.2.2, _⟩ rfl rfl header inside
      (Quieter.tail _)
  · rw [dif_neg header]
    exact SegmentStep.refused _ ⟨⟨inside, fun valid => absurd valid header⟩,
      fun accepted => header accepted.header, fun last => header last.1⟩

end Rest

end Cryexts
