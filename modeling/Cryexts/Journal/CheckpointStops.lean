import Cryexts.Journal.CheckpointInvisible

set_option autoImplicit false

namespace Cryexts

open WriteLog (store applyWrites)

/-- One of the fallible calls `low, …, high - 1` fails. -/
def Faulty (faults : List Bool) (low high : Nat) : Prop :=
  ∃ call, low ≤ call ∧ call < high ∧ faults.getD call false = true

theorem Faulty.widen {faults : List Bool} {low high lower higher : Nat}
    (faulty : Faulty faults low high) (below : lower ≤ low) (above : high ≤ higher) :
    Faulty faults lower higher := by
  obtain ⟨call, early, late, fails⟩ := faulty
  exact ⟨call, by omega, by omega, fails⟩

theorem Faulty.first {faults : List Bool} {low high : Nat}
    (fails : faults.getD low false = true) (some : low < high) : Faulty faults low high :=
  ⟨low, Nat.le_refl _, some, fails⟩

theorem Faulty.none (faults : List Bool) (low : Nat) : ¬ Faulty faults low low := by
  rintro ⟨call, early, late, _⟩
  omega

/-- Two stretches of calls without a failure follow each other. -/
theorem Faulty.join {faults : List Bool} {low middle high : Nat}
    (first : ¬ Faulty faults low middle) (second : ¬ Faulty faults middle high) :
    ¬ Faulty faults low high := by
  rintro ⟨call, early, late, fails⟩
  by_cases before : call < middle
  · exact first ⟨call, early, before, fails⟩
  · exact second ⟨call, by omega, late, fails⟩

theorem Faulty.quiet_one {faults : List Bool} {low : Nat}
    (sound : ¬ faults.getD low false = true) : ¬ Faulty faults low (low + 1) := by
  rintro ⟨call, early, late, fails⟩
  have here : call = low := by omega
  rw [here] at fails
  exact sound fails

theorem headD_drop (faults : List Bool) (calls : Nat) :
    (faults.drop calls).headD false = faults.getD calls false := by
  simp [List.head?_drop, List.getD_eq_getElem?_getD]

/-- Every buffer is what a reader gets. -/
def World.Current (w : World) : Prop := w.uptodate = fun _ => true

/-- The world with other failures ahead. -/
def World.failing (w : World) (faults : List Bool) : World := { w with faults := faults }

namespace World

variable (w : World) (faults : List Bool)

@[simp] theorem failing_faults : (w.failing faults).faults = faults := rfl

@[simp] theorem failing_sbi : (w.failing faults).sbi = w.sbi := rfl

@[simp] theorem failing_cache : (w.failing faults).cache = w.cache := rfl

@[simp] theorem failing_disk : (w.failing faults).disk = w.disk := rfl

@[simp] theorem failing_live : (w.failing faults).live = w.live := rfl

@[simp] theorem failing_failing (later : List Bool) :
    (w.failing faults).failing later = w.failing later := rfl

@[simp] theorem failing_blocksCount : blocksCount (w.failing faults) = blocksCount w := rfl

@[simp] theorem failing_reread (block : Nat) :
    (w.failing faults).reread block = (w.reread block).failing faults := rfl

@[simp] theorem failing_stored (block : Nat) (content : Block) :
    (w.failing faults).stored block content = (w.stored block content).failing faults := rfl

@[simp] theorem failing_spoiled (block : Nat) (content : Block) :
    (w.failing faults).spoiled block content = (w.spoiled block content).failing faults := rfl

@[simp] theorem failing_written (block : Nat) (content : Block) :
    (w.failing faults).written block content = (w.written block content).failing faults := rfl

@[simp] theorem failing_writtenAll (writes : List (Nat × Block)) :
    (w.failing faults).writtenAll writes = (w.writtenAll writes).failing faults := by
  induction writes generalizing w with
  | nil => rfl
  | cons write rest ih => simp only [World.writtenAll_cons, failing_written, ih]

theorem Current.written {w : World} (current : w.Current) (block : Nat) (content : Block) :
    (w.written block content).Current := current

theorem Current.writtenAll {w : World} (current : w.Current) (writes : List (Nat × Block)) :
    (w.writtenAll writes).Current := by
  induction writes generalizing w with
  | nil => exact current
  | cons write rest ih => exact ih (current.written write.1 write.2)

theorem Current.live {w : World} (current : w.Current) : w.live = w.cache := by
  funext block
  rw [World.live, if_pos (by rw [current])]

theorem Current.reread {w : World} (current : w.Current) (block : Nat) : w.reread block = w := by
  rw [World.reread, current.live, WriteLog.store_eq_self _ _ _ rfl,
    WriteLog.store_eq_self _ _ _ (by rw [current])]

theorem Current.stored {w : World} (current : w.Current) (block : Nat) (content : Block) :
    w.stored block content = w.written block content := by
  rw [World.stored, WriteLog.store_eq_self _ _ _ (by rw [current])]
  rfl

end World

section Current

variable {w : World} (faults : List Bool) (calls : Nat)

theorem kmalloc_current : kmalloc (w.failing (faults.drop calls)) =
    (if faults.getD calls false = true then .error .enomem else .ok (),
      w.failing (faults.drop (calls + 1))) := by
  rw [kmalloc_eq, World.failing_faults, headD_drop, List.tail_drop]
  rfl

variable (current : w.Current)
include current

theorem readFileBlock_current (block : Nat) :
    readFileBlock block (w.failing (faults.drop calls)) =
      if faults.getD calls false = true ∨ w.size ≤ block then
        (.error .eio, w.failing (faults.drop (calls + 1)))
      else (.ok (w.cache block), w.failing (faults.drop (calls + 1))) := by
  rw [readFileBlock_eq, World.failing_faults, headD_drop, List.tail_drop, World.failing_live,
    World.failing_reread, current.live, current.reread]
  rfl

theorem writeSync_current (block : Nat) (content : Block) :
    journalV3WriteSync block content (w.failing (faults.drop calls)) =
      if faults.getD calls false = true ∨ w.size ≤ block then
        (.error .eio, w.failing (faults.drop (calls + 1)))
      else if faults.getD (calls + 1) false = true then
        (.error .eio, (w.spoiled block content).failing (faults.drop (calls + 2)))
      else (.ok (), (w.written block content).failing (faults.drop (calls + 2))) := by
  rw [journalV3WriteSync_eq, World.failing_faults, List.tail_drop, headD_drop, headD_drop,
    List.tail_drop, World.failing_spoiled, World.failing_stored, current.stored]
  rfl

/-- The payload checks: an entry is refused or a read fails, or every entry is accepted. -/
theorem verifyPayloads_current (descriptor : Block) (payloadStart : Nat) (indices : List Nat)
    (aggregate : Nat) :
    (∃ err used, verifyPayloads false descriptor payloadStart indices aggregate
        (w.failing (faults.drop calls)) = (.error err, w.failing (faults.drop used)) ∧
      ((∀ index, index ∈ indices → payloadStart + index < w.size ∧
        EntryAccepted w.sbi (blocksCount w) descriptor payloadStart w.cache index) →
        Faulty faults calls (calls + indices.length))) ∨
    (verifyPayloads false descriptor payloadStart indices aggregate
        (w.failing (faults.drop calls)) =
          (.ok (imagesChecksum (homeImages descriptor payloadStart w.cache indices) aggregate),
            w.failing (faults.drop (calls + indices.length))) ∧
      (∀ index, index ∈ indices →
        EntryAccepted w.sbi (blocksCount w) descriptor payloadStart w.cache index) ∧
      ¬ Faulty faults calls (calls + indices.length)) := by
  induction indices generalizing calls aggregate with
  | nil =>
      right
      exact ⟨rfl, by simp, Faulty.none _ _⟩
  | cons index rest ih =>
      rw [verifyPayloads, Routine.read_bind]
      rw [World.failing_blocksCount, World.failing_sbi]
      by_cases entry : (JournalV3Entry.ofBlock descriptor index).homeBlock < blocksCount w ∧
          ¬ w.sbi.JournalBlockIsInternal (JournalV3Entry.ofBlock descriptor index).homeBlock ∧
          (JournalV3Entry.ofBlock descriptor index).flags = 0
      · rw [Routine.bind_ok _ _ _ _ _ (Routine.require_true _ _ _ entry),
          Routine.bind_ok _ _ _ _ _ (Routine.require_true _ _ _ (Or.inl rfl))]
        have read := readFileBlock_current faults calls current (payloadStart + index)
        split at read
        · rename_i stopped
          rw [Routine.bind_error _ _ _ _ _ read]
          refine Or.inl ⟨_, _, rfl, fun accepted => ?_⟩
          have inside := (accepted index List.mem_cons_self).1
          exact Faulty.first (stopped.resolve_right (by omega)) (by simp)
        · rename_i sound
          rw [Routine.bind_ok _ _ _ _ _ read]
          by_cases payload : fnv1aUpdate FNV_OFFSET (w.cache (payloadStart + index)) =
              (JournalV3Entry.ofBlock descriptor index).payloadChecksum
          · rw [Routine.bind_ok _ _ _ _ _ (Routine.require_true _ _ _ payload)]
            have one := Faulty.quiet_one (fun fails => sound (Or.inl fails))
            have length : calls + (index :: rest).length = calls + 1 + rest.length := by
              simp only [List.length_cons]
              omega
            rw [length, homeImages_cons, imagesChecksum_cons]
            rcases ih (calls + 1) (fnv1aUpdate aggregate (w.cache (payloadStart + index))) with
              ⟨err, used, run, fails⟩ | ⟨run, entries, quiet⟩
            · refine Or.inl ⟨err, used, run, fun accepted => ?_⟩
              have later := fails fun other member => accepted other (List.mem_cons_of_mem _ member)
              exact later.widen (by omega) (Nat.le_refl _)
            · refine Or.inr ⟨run, ?_, Faulty.join one quiet⟩
              intro other member
              rcases List.mem_cons.mp member with rfl | member
              · exact ⟨entry, payload⟩
              · exact entries other member
          · left
            rw [Routine.require, if_neg payload]
            exact ⟨_, _, rfl, fun accepted =>
              absurd (accepted index List.mem_cons_self).2.payload payload⟩
      · left
        rw [Routine.require, if_neg entry]
        exact ⟨_, _, rfl, fun accepted => absurd (accepted index List.mem_cons_self).2.entry entry⟩

/-- The home loop: it stops before a write, in a write that is lost, or behind the last one. -/
theorem writeHome_current (descriptor : Block) (payloadStart : Nat) (indices : List Nat)
    (apart : ∀ index, index ∈ indices → ∀ other, other ∈ indices →
      payloadStart + other ≠ (JournalV3Entry.ofBlock descriptor index).homeBlock)
    (room : ∀ index, index ∈ indices → payloadStart + index < w.size ∧
      (JournalV3Entry.ofBlock descriptor index).homeBlock < w.size) :
    (∃ err done rest used, homeImages descriptor payloadStart w.cache indices = done ++ rest ∧
      writeHome descriptor payloadStart indices (w.failing (faults.drop calls)) =
        (.error err, (w.writtenAll done).failing (faults.drop used)) ∧
      Faulty faults calls (calls + 3 * indices.length)) ∨
    (∃ err done image rest used,
      homeImages descriptor payloadStart w.cache indices = done ++ image :: rest ∧
      writeHome descriptor payloadStart indices (w.failing (faults.drop calls)) =
        (.error err, ((w.writtenAll done).spoiled image.1 image.2).failing (faults.drop used)) ∧
      Faulty faults calls (calls + 3 * indices.length)) ∨
    (writeHome descriptor payloadStart indices (w.failing (faults.drop calls)) =
        (.ok (), (w.writtenAll (homeImages descriptor payloadStart w.cache indices)).failing
          (faults.drop (calls + 3 * indices.length))) ∧
      ¬ Faulty faults calls (calls + 3 * indices.length)) := by
  induction indices generalizing w calls with
  | nil =>
      right; right
      exact ⟨rfl, Faulty.none _ _⟩
  | cons index rest ih =>
      obtain ⟨cell, home⟩ := room index List.mem_cons_self
      have length : calls + 3 * (index :: rest).length = calls + 3 + 3 * rest.length := by
        simp only [List.length_cons]
        omega
      have images := homeImages_cons descriptor payloadStart w.cache index rest
      have read := readFileBlock_current faults calls current (payloadStart + index)
      rw [writeHome]
      split at read
      · rename_i stopped
        rw [Routine.bind_error _ _ _ _ _ read]
        refine Or.inl ⟨_, [], _, _, rfl, rfl, ?_⟩
        exact Faulty.first (stopped.resolve_right (by omega)) (by simp)
      · rename_i sound
        rw [Routine.bind_ok _ _ _ _ _ read]
        have put := writeSync_current faults (calls + 1) current
          (JournalV3Entry.ofBlock descriptor index).homeBlock (w.cache (payloadStart + index))
        have one := Faulty.quiet_one (fun fails => sound (Or.inl fails))
        split at put
        · rename_i stopped
          rw [Routine.bind_error _ _ _ _ _ put]
          refine Or.inl ⟨_, [], _, _, rfl, rfl, ?_⟩
          have fails := stopped.resolve_right (by omega)
          exact (Faulty.first fails (Nat.lt_succ_self _)).widen (by omega) (by omega)
        · rename_i sound'
          have two := Faulty.join one (Faulty.quiet_one (fun fails => sound' (Or.inl fails)))
          split at put
          · rename_i lost
            rw [Routine.bind_error _ _ _ _ _ put]
            refine Or.inr (Or.inl ⟨_, [], _, _, _, images, rfl, ?_⟩)
            exact (Faulty.first lost (Nat.lt_succ_self _)).widen (by omega) (by omega)
          · rename_i kept
            have three := Faulty.join two (Faulty.quiet_one kept)
            rw [Routine.bind_ok _ _ _ _ _ put]
            have same : homeImages descriptor payloadStart (w.written
                (JournalV3Entry.ofBlock descriptor index).homeBlock
                (w.cache (payloadStart + index))).cache rest =
                homeImages descriptor payloadStart w.cache rest := by
              apply homeImages_congr
              intro other member
              apply WriteLog.store_other
              exact apart index List.mem_cons_self other (List.mem_cons_of_mem _ member)
            have later := ih (calls + 3) (current.written
              (JournalV3Entry.ofBlock descriptor index).homeBlock
              (w.cache (payloadStart + index)))
              (fun one member other member' => apart one (List.mem_cons_of_mem _ member) other
                (List.mem_cons_of_mem _ member'))
              (fun other member => room other (List.mem_cons_of_mem _ member))
            rw [same] at later
            rw [images, length]
            rcases later with ⟨err, done, left, used, parts, run, fails⟩ |
              ⟨err, done, image, left, used, parts, run, fails⟩ | ⟨run, quiet⟩
            · refine Or.inl ⟨err, ((JournalV3Entry.ofBlock descriptor index).homeBlock,
                w.cache (payloadStart + index)) :: done, left, used, ?_, ?_, ?_⟩
              · rw [parts, List.cons_append]
              · rw [World.writtenAll_cons]
                exact run
              · exact fails.widen (by omega) (Nat.le_refl _)
            · refine Or.inr (Or.inl ⟨err, ((JournalV3Entry.ofBlock descriptor index).homeBlock,
                w.cache (payloadStart + index)) :: done, image, left, used, ?_, ?_, ?_⟩)
              · rw [parts, List.cons_append]
              · rw [World.writtenAll_cons]
                exact run
              · exact fails.widen (by omega) (Nat.le_refl _)
            · refine Or.inr (Or.inr ⟨?_, Faulty.join three quiet⟩)
              rw [World.writtenAll_cons]
              exact run

end Current

/-- The control block a checkpoint step of the segment at the tail writes first. -/
def checkpointMark (w : World) : Block :=
  journalV3PrepareControl w.sbi JOURNAL_V3_STATE_CHECKPOINTING w.sbi.journalLastSequence 0
    w.sbi.journalCheckpointSequence ⟨w.sbi.journalRingTail, w.tailHeader.payloadStart,
      w.tailHeader.entryCount, w.tailHeader.commitBlock⟩

@[simp] theorem checkpointMark_failing (w : World) (faults : List Bool) :
    checkpointMark (w.failing faults) = checkpointMark w := rfl

@[simp] theorem World.tailImages_failing (w : World) (faults : List Bool) :
    (w.failing faults).tailImages = w.tailImages := rfl

theorem checkpointSettle_failing (w : World) (faults : List Bool) :
    checkpointSettle (w.failing faults) = checkpointSettle w := rfl

/-- A checkpoint step that stopped before it moved the tail. -/
inductive EarlyStop (w : World) : World → Prop
  | untouched (faults : List Bool) : EarlyStop w (w.failing faults)
  | unmarked (faults : List Bool) :
      EarlyStop w ((w.spoiled w.sbi.journalBlock (checkpointMark w)).failing faults)
  | partly (done rest : List (Nat × Block)) (faults : List Bool)
      (accepted : done ≠ [] → TailAccepted w) (parts : w.tailImages = done ++ rest) :
      EarlyStop w (((w.written w.sbi.journalBlock (checkpointMark w)).writtenAll done).failing
        faults)
  | lost (done : List (Nat × Block)) (image : Nat × Block) (rest : List (Nat × Block))
      (faults : List Bool) (accepted : TailAccepted w)
      (parts : w.tailImages = done ++ image :: rest) :
      EarlyStop w ((((w.written w.sbi.journalBlock (checkpointMark w)).writtenAll done).spoiled
        image.1 image.2).failing faults)

/-- The calls of a checkpoint step before it moves the tail: an allocation, two reads, two for
the control block, one for each payload that is checked and three for each that is copied. -/
def checkpointCalls (w : World) : Nat := 5 + 4 * w.tailHeader.entryCount

/-- What a checkpoint step comes to: it stopped early, refused by a check or by a failure among
its first calls, or it moves the tail behind all its home writes. -/
def StopsEarly (w : World) (outcome : Except Errno Unit × World) : Prop :=
  (∃ err after, outcome = (.error err, after) ∧ EarlyStop w after ∧
    (TailAccepted w → Faulty w.faults 0 (checkpointCalls w))) ∨
  (TailAccepted w ∧ ¬ Faulty w.faults 0 (checkpointCalls w) ∧
    outcome = checkpointSettle w
      (((w.written w.sbi.journalBlock (checkpointMark w)).writtenAll w.tailImages).failing
        (w.faults.drop (checkpointCalls w))))

theorem StopsEarly.stop {w : World} {err : Errno} {after : World} (early : EarlyStop w after)
    (fails : TailAccepted w → Faulty w.faults 0 (checkpointCalls w)) :
    StopsEarly w (.error err, after) := Or.inl ⟨err, after, rfl, early, fails⟩

/-- The checks and the copies behind the first control block. -/
def checkpointRest (w : World) : Kernel Unit :=
  verifyPayloads false w.tailBuf w.tailHeader.payloadStart (List.range w.tailHeader.entryCount)
    FNV_OFFSET >>= fun aggregate =>
  Routine.require ((if w.tailHeader.entryCount = 0 then 0 else aggregate) =
    w.tailCommit.payloadChecksum) .euclean >>= fun _ => checkpointHome w

section Stops

variable (w : World) (current : w.Current) (ring : w.sbi.journalRing = true)
variable (apart : w.sbi.journalRingTail ≠ w.sbi.journalRingHead)
variable (first : 0 < w.sbi.journalBlock) (low : w.sbi.ringStart ≤ w.sbi.journalRingTail)
variable (placed : TailAccepted w → TailPlaced w)
include current ring apart first low placed

theorem checkpointRest_stops
    (header : SegmentHeaderValid w.sbi w.sbi.journalRingTail w.sbi.journalCheckpointSequence
      w.tailBuf)
    (commit : CommitMatches w.sbi.journalRingTail w.tailBuf (w.live w.tailHeader.commitBlock) ∧
      w.tailCommit.flags = JOURNAL_V3_FLAG_COMMITTED ∧
      w.tailCommit.descriptorChecksum = w.tailHeader.checksum)
    (quiet : ¬ Faulty w.faults 0 5) :
    StopsEarly w (checkpointRest w ((w.written w.sbi.journalBlock (checkpointMark w)).failing
      (w.faults.drop 5))) := by
  have calls : checkpointCalls w = 5 + 4 * w.tailHeader.entryCount := rfl
  have positions : w.tailHeader.payloadStart = w.sbi.journalRingTail + 1 := header.2.2.2.2.2.1
  have marked : (w.written w.sbi.journalBlock (checkpointMark w)).Current := current.written _ _
  have live := current.live
  have cache : ∀ block, block ≠ w.sbi.journalBlock →
      (w.written w.sbi.journalBlock (checkpointMark w)).cache block = w.live block := by
    intro block away
    rw [live]
    exact WriteLog.store_other _ _ _ _ away
  have count : blocksCount (w.written w.sbi.journalBlock (checkpointMark w)) = blocksCount w := by
    rw [blocksCount, World.super, cache 0 (by omega), live]
    rfl
  have sbi : (w.written w.sbi.journalBlock (checkpointMark w)).sbi = w.sbi := rfl
  have size : (w.written w.sbi.journalBlock (checkpointMark w)).size = w.size := rfl
  have images : homeImages w.tailBuf w.tailHeader.payloadStart
      (w.written w.sbi.journalBlock (checkpointMark w)).cache
      (List.range w.tailHeader.entryCount) = w.tailImages := by
    apply homeImages_congr
    intro index _
    apply cache
    unfold SbInfo.ringStart at low
    omega
  -- What the checks say of the world with the mark they say of the world before it.
  have entry : ∀ index, EntryAccepted (w.written w.sbi.journalBlock (checkpointMark w)).sbi
      (blocksCount (w.written w.sbi.journalBlock (checkpointMark w))) w.tailBuf
      w.tailHeader.payloadStart (w.written w.sbi.journalBlock (checkpointMark w)).cache index ↔
      EntryAccepted w.sbi (blocksCount w) w.tailBuf w.tailHeader.payloadStart w.live index := by
    intro index
    have same : (w.written w.sbi.journalBlock (checkpointMark w)).cache
        (w.tailHeader.payloadStart + index) = w.live (w.tailHeader.payloadStart + index) := by
      apply cache
      unfold SbInfo.ringStart at low
      omega
    constructor
    · rintro ⟨accepted, payload⟩
      exact ⟨count ▸ accepted, same ▸ payload⟩
    · rintro ⟨accepted, payload⟩
      exact ⟨count.symm ▸ accepted, same.symm ▸ payload⟩
  generalize markedIs : w.written w.sbi.journalBlock (checkpointMark w) = u at *
  have early : ∀ err used, (TailAccepted w → Faulty w.faults 0 (checkpointCalls w)) →
      StopsEarly w (.error err, u.failing (w.faults.drop used)) := by
    intro err used fails
    have stop := EarlyStop.partly (w := w) [] w.tailImages (w.faults.drop used)
      (fun some => absurd rfl some) rfl
    rw [World.writtenAll_nil, markedIs] at stop
    exact StopsEarly.stop stop fails
  rw [checkpointRest]
  rcases verifyPayloads_current w.faults 5 marked w.tailBuf w.tailHeader.payloadStart
    (List.range w.tailHeader.entryCount) FNV_OFFSET with
    ⟨err, used, run, fails⟩ | ⟨run, entries, quiet'⟩
  · rw [Routine.bind_error _ _ _ _ _ run]
    refine early err used fun accepted => ?_
    have faulty := fails fun index member => by
      refine ⟨?_, (entry index).mpr (accepted.entries index member)⟩
      rw [size]
      exact ((placed accepted).cells accepted.opened index member).2.2.1
    rw [List.length_range] at faulty
    exact faulty.widen (by omega) (by omega)
  rw [Routine.bind_ok _ _ _ _ _ run, images]
  rw [List.length_range] at quiet'
  by_cases payloads : (if w.tailHeader.entryCount = 0 then 0
      else imagesChecksum w.tailImages FNV_OFFSET) = w.tailCommit.payloadChecksum
  case neg =>
    rw [Routine.require, if_neg payloads]
    exact early .euclean _ fun accepted => absurd accepted.payloads payloads
  rw [Routine.bind_ok _ _ _ _ _ (Routine.require_true _ _ _ payloads), checkpointHome]
  have accepted : TailAccepted w := ⟨ring, ⟨apart, header⟩, commit,
    fun index member => (entry index).mp (entries index member), payloads⟩
  have place := placed accepted
  rcases writeHome_current w.faults (5 + (List.range w.tailHeader.entryCount).length) marked
    w.tailBuf w.tailHeader.payloadStart (List.range w.tailHeader.entryCount)
    (place.apart accepted) (fun index member => by
      rw [size]
      exact ⟨(place.cells accepted.opened index member).2.2.1,
        (place.home accepted _ (List.mem_map_of_mem member)).1⟩) with
    ⟨err, done, rest, used, parts, run, fails⟩ |
    ⟨err, done, image, rest, used, parts, run, fails⟩ | ⟨run, quiet3⟩
  · rw [Routine.bind_error _ _ _ _ _ run]
    rw [List.length_range] at fails
    rw [images] at parts
    have stop := EarlyStop.partly done rest (w.faults.drop used) (fun _ => accepted) parts
    rw [markedIs] at stop
    exact StopsEarly.stop stop fun _ => fails.widen (by omega) (by omega)
  · rw [Routine.bind_error _ _ _ _ _ run]
    rw [List.length_range] at fails
    rw [images] at parts
    have stop := EarlyStop.lost done image rest (w.faults.drop used) accepted parts
    rw [markedIs] at stop
    exact StopsEarly.stop stop fun _ => fails.widen (by omega) (by omega)
  · rw [Routine.bind_ok _ _ _ _ _ run]
    rw [List.length_range] at quiet3
    have whole := Faulty.join (Faulty.join quiet quiet') quiet3
    have total : 5 + w.tailHeader.entryCount + 3 * w.tailHeader.entryCount = checkpointCalls w := by
      omega
    rw [total] at whole
    refine Or.inr ⟨accepted, whole, ?_⟩
    rw [markedIs, images, List.length_range, total]

/-- A checkpoint step of a ring in use, whatever fails in it. -/
theorem journalV3CheckpointOne_stops (control : w.sbi.journalBlock < w.size) :
    StopsEarly w (journalV3CheckpointOne w) := by
  have full : ¬ (w.sbi.journalRing = false ∨ w.sbi.journalRingTail = w.sbi.journalRingHead) := by
    rw [ring]
    exact not_or.mpr ⟨by decide, apart⟩
  have calls : checkpointCalls w = 5 + 4 * w.tailHeader.entryCount := rfl
  have tailBuf : w.tailBuf = w.cache w.sbi.journalRingTail := by rw [World.tailBuf, current.live]
  have early : ∀ call, call < 5 → w.faults.getD call false = true →
      Faulty w.faults 0 (checkpointCalls w) :=
    fun call small fails => ⟨call, by omega, by omega, fails⟩
  rw [journalV3CheckpointOne, Routine.read_bind, if_neg full]
  have alloc := @kmalloc_current w w.faults 0
  change kmalloc w = _ at alloc
  by_cases none : w.faults.getD 0 false = true
  · rw [if_pos none] at alloc
    rw [Routine.bind_error _ _ _ _ _ alloc]
    exact StopsEarly.stop (EarlyStop.untouched _) fun _ => early 0 (by omega) none
  rw [if_neg none] at alloc
  rw [Routine.bind_ok _ _ _ _ _ alloc]
  have read := readFileBlock_current w.faults 1 current w.sbi.journalRingTail
  split at read
  · rename_i stopped
    rw [Routine.bind_error _ _ _ _ _ read]
    refine StopsEarly.stop (EarlyStop.untouched _) fun accepted => ?_
    have inside := (placed accepted).position w.sbi.journalRingTail (Nat.le_refl _)
      (placed accepted).high
    exact early 1 (by omega) (stopped.resolve_right (by omega))
  rename_i sound1
  rw [Routine.bind_ok _ _ _ _ _ read, ← tailBuf]
  by_cases header : SegmentHeaderValid w.sbi w.sbi.journalRingTail w.sbi.journalCheckpointSequence
      w.tailBuf
  case neg =>
    rw [Routine.require, if_neg header]
    exact StopsEarly.stop (EarlyStop.untouched _) fun accepted =>
      absurd accepted.opened.header header
  rw [Routine.bind_ok _ _ _ _ _ (Routine.require_true _ _ _ header)]
  have read' := readFileBlock_current w.faults 2 current
    (JournalV3Descriptor.ofBlock w.tailBuf).commitBlock
  split at read'
  · rename_i stopped
    rw [Routine.bind_error _ _ _ _ _ read']
    refine StopsEarly.stop (EarlyStop.untouched _) fun accepted => ?_
    have inside := ((placed accepted).commitCell accepted.opened).2.2.1
    unfold World.tailHeader at inside
    exact early 2 (by omega) (stopped.resolve_right (by omega))
  rename_i sound2
  rw [← current.live] at read'
  rw [Routine.bind_ok _ _ _ _ _ read']
  change StopsEarly w ((Routine.require (CommitMatches w.sbi.journalRingTail w.tailBuf
      (w.live w.tailHeader.commitBlock) ∧ w.tailCommit.flags = JOURNAL_V3_FLAG_COMMITTED ∧
      w.tailCommit.descriptorChecksum = w.tailHeader.checksum) Errno.euclean >>= fun _ =>
    journalV3WriteSync w.sbi.journalBlock (checkpointMark w) >>= fun _ => checkpointRest w) _)
  by_cases commit : CommitMatches w.sbi.journalRingTail w.tailBuf
      (w.live w.tailHeader.commitBlock) ∧ w.tailCommit.flags = JOURNAL_V3_FLAG_COMMITTED ∧
      w.tailCommit.descriptorChecksum = w.tailHeader.checksum
  case neg =>
    rw [Routine.require, if_neg commit]
    exact StopsEarly.stop (EarlyStop.untouched _) fun accepted => absurd accepted.commit commit
  rw [Routine.bind_ok _ _ _ _ _ (Routine.require_true _ _ _ commit)]
  have mark := writeSync_current w.faults 3 current w.sbi.journalBlock (checkpointMark w)
  split at mark
  · rename_i stopped
    rw [Routine.bind_error _ _ _ _ _ mark]
    exact StopsEarly.stop (EarlyStop.untouched _) fun _ =>
      early 3 (by omega) (stopped.resolve_right (by omega))
  rename_i sound3
  split at mark
  · rename_i stopped
    rw [Routine.bind_error _ _ _ _ _ mark]
    exact StopsEarly.stop (EarlyStop.unmarked _) fun _ => early 4 (by omega) stopped
  rename_i sound4
  rw [Routine.bind_ok _ _ _ _ _ mark]
  apply checkpointRest_stops w current ring apart first low placed header commit
  rintro ⟨call, _, small, fails⟩
  have cases : call = 0 ∨ call = 1 ∨ call = 2 ∨ call = 3 ∨ call = 4 := by omega
  rcases cases with rfl | rfl | rfl | rfl | rfl
  · exact none fails
  · exact sound1 (Or.inl fails)
  · exact sound2 (Or.inl fails)
  · exact sound3 (Or.inl fails)
  · exact sound4 fails

end Stops

end Cryexts
