import Cryexts.Journal.LiveView

set_option autoImplicit false

namespace Cryexts

open Routine (Moves)
open WriteLog (store applyWrites)

/-- The home images the entries of a descriptor name, read from `cells`. -/
def homeImages (descriptor : Block) (payloadStart : Nat) (cells : Nat → Block)
    (indices : List Nat) : List (Nat × Block) :=
  indices.map fun index =>
    ((JournalV3Entry.ofBlock descriptor index).homeBlock, cells (payloadStart + index))

theorem homeImages_congr (descriptor : Block) (payloadStart : Nat) (first second : Nat → Block)
    (indices : List Nat) (same : ∀ index, index ∈ indices →
      first (payloadStart + index) = second (payloadStart + index)) :
    homeImages descriptor payloadStart first indices =
      homeImages descriptor payloadStart second indices := by
  apply List.map_congr_left
  intro index member
  rw [same index member]

/-- A home loop that has written `done` and not `rest`. The block it failed on is read from the
device again. -/
structure PartlyHome (w after : World) (done rest : List (Nat × Block)) : Prop where
  sbi : after.sbi = w.sbi
  size : after.size = w.size
  disk : after.disk = applyWrites w.disk done
  live : ∀ block, after.live block = applyWrites w.live done block ∨
    (block ∈ rest.map Prod.fst ∧ after.live block = applyWrites w.disk done block)
  kept : ∀ block, w.uptodate block = true → block ∉ rest.map Prod.fst →
    after.uptodate block = true
  current : ∀ block, block ∈ done.map Prod.fst → block ∉ rest.map Prod.fst →
    after.uptodate block = true

/-- One image that has reached its home block. -/
structure PutHome (w after : World) (home : Nat) (content : Block) : Prop where
  sbi : after.sbi = w.sbi
  size : after.size = w.size
  disk : after.disk = store w.disk home content
  live : after.live = store w.live home content
  kept : ∀ block, block = home ∨ w.uptodate block = true → after.uptodate block = true

theorem PutHome.partly {w middle after : World} {home : Nat} {content : Block}
    {done rest : List (Nat × Block)} (put : PutHome w middle home content)
    (partly : PartlyHome middle after done rest) :
    PartlyHome w after ((home, content) :: done) rest := by
  constructor
  case sbi => rw [partly.sbi, put.sbi]
  case size => rw [partly.size, put.size]
  case disk => rw [partly.disk, put.disk, WriteLog.applyWrites_cons]
  case live =>
    intro block
    rw [WriteLog.applyWrites_cons, WriteLog.applyWrites_cons, ← put.live, ← put.disk]
    exact partly.live block
  case kept =>
    intro block current outside
    exact partly.kept block (put.kept block (Or.inr current)) outside
  case current =>
    intro block member outside
    rcases List.mem_cons.mp member with same | member
    · exact partly.kept block (put.kept block (Or.inl same)) outside
    · exact partly.current block member outside

theorem PartlyHome.nothing {w after : World} (sbi : after.sbi = w.sbi) (size : after.size = w.size)
    (disk : after.disk = w.disk) (live : after.live = w.live) (rest : List (Nat × Block))
    (kept : ∀ block, w.uptodate block = true → after.uptodate block = true) :
    PartlyHome w after [] rest :=
  ⟨sbi, size, disk, fun block => Or.inl (by rw [live]; rfl),
    fun block current _ => kept block current, fun block member => by simp at member⟩

/-- One round of the home loop: it stops, or the image is home. -/
theorem homeRound_cases (w : World) (cell home : Nat) (rest : List (Nat × Block))
    (next : Kernel Unit) :
    (∃ err after, (readFileBlock cell >>= fun payload =>
        journalV3WriteSync home payload >>= fun _ => next) w = (.error err, after) ∧
      PartlyHome w after [] ((home, w.live cell) :: rest)) ∨
    ∃ after, (readFileBlock cell >>= fun payload =>
        journalV3WriteSync home payload >>= fun _ => next) w = next after ∧
      PutHome w after home (w.live cell) := by
  have read := readFileBlock_eq w cell
  by_cases unread : w.faults.headD false = true ∨ w.size ≤ cell
  · rw [if_pos unread] at read
    left
    refine ⟨_, _, Routine.bind_error _ _ _ _ _ read, ?_⟩
    apply PartlyHome.nothing <;> first | rfl | exact fun _ current => current
  · rw [if_neg unread] at read
    have loaded : ∀ block, w.uptodate block = true → (w.reread cell).uptodate block = true := by
      intro block current
      by_cases same : block = cell
      · simp [World.reread, same]
      · simp [World.reread, same, WriteLog.store_other, current]
    have put := journalV3WriteSync_eq { w.reread cell with faults := w.faults.tail } home
      (w.live cell)
    rw [Routine.bind_ok _ _ _ _ _ read]
    split at put
    · left
      refine ⟨_, _, Routine.bind_error _ _ _ _ _ put, ?_⟩
      apply PartlyHome.nothing
      case live => exact w.live_reread cell
      case kept => exact loaded
      all_goals rfl
    · split at put
      · left
        refine ⟨_, _, Routine.bind_error _ _ _ _ _ put, rfl, rfl, rfl, ?_, ?_, ?_⟩
        · intro block
          by_cases here : block = home
          · subst here
            right
            exact ⟨by simp, World.live_spoiled_same _ _ _⟩
          · left
            exact (World.live_spoiled_other _ _ _ _ here).trans
              (congrFun (w.live_reread cell) block)
        · intro block current outside
          have other : block ≠ home := by
            rintro rfl
            simp at outside
          change store (w.reread cell).uptodate home false block = true
          rw [WriteLog.store_other _ _ _ _ other]
          exact loaded block current
        · intro block member
          simp at member
      · right
        refine ⟨_, Routine.bind_ok _ _ _ _ _ put, rfl, rfl, ?_, ?_, ?_⟩
        · have device := World.disk_stored (w.reread cell) home (w.live cell)
          exact device
        · have seen := World.live_stored (w.reread cell) home (w.live cell)
          rw [World.live_reread] at seen
          exact seen
        · intro block known
          change store (w.reread cell).uptodate home true block = true
          by_cases same : block = home
          · rw [same, WriteLog.store_same]
          · rw [WriteLog.store_other _ _ _ _ same]
            exact loaded block (known.resolve_left same)

/-- The home loop, whatever fails in it, has written a first part of its images. -/
theorem writeHome_partly (descriptor : Block) (payloadStart : Nat) (indices : List Nat) (w : World)
    (apart : ∀ index, index ∈ indices → ∀ other, other ∈ indices →
      payloadStart + other ≠ (JournalV3Entry.ofBlock descriptor index).homeBlock) :
    ∃ done rest, homeImages descriptor payloadStart w.live indices = done ++ rest ∧
      PartlyHome w (writeHome descriptor payloadStart indices w).2 done rest ∧
      ((writeHome descriptor payloadStart indices w).1 = .ok () → rest = []) := by
  induction indices generalizing w with
  | nil =>
      refine ⟨[], [], rfl, ?_, fun _ => rfl⟩
      exact PartlyHome.nothing rfl rfl rfl rfl [] fun _ current => current
  | cons index rest ih =>
      rcases homeRound_cases w (payloadStart + index)
        (JournalV3Entry.ofBlock descriptor index).homeBlock
        (homeImages descriptor payloadStart w.live rest) (writeHome descriptor payloadStart rest)
        with ⟨err, after, run, partly⟩ | ⟨after, run, put⟩
      · rw [writeHome, run]
        refine ⟨[], _, rfl, partly, ?_⟩
        intro success
        cases success
      · rw [writeHome, run]
        obtain ⟨done, left, split, partly, finished⟩ := ih after fun one member other member' =>
          apart one (List.mem_cons_of_mem _ member) other (List.mem_cons_of_mem _ member')
        rw [put.live, homeImages_congr descriptor payloadStart _ w.live rest (by
          intro other member
          apply WriteLog.store_other
          exact apart index List.mem_cons_self other (List.mem_cons_of_mem _ member))] at split
        refine ⟨_ :: done, left, ?_, put.partly partly, finished⟩
        rw [List.cons_append, ← split]
        rfl

/-- Nothing fails in a home loop whose blocks are all on the device. -/
theorem writeHome_succeeds (descriptor : Block) (payloadStart : Nat) (indices : List Nat)
    (w : World) (room : ∀ index, index ∈ indices → payloadStart + index < w.size ∧
      (JournalV3Entry.ofBlock descriptor index).homeBlock < w.size) :
    ∃ after, Succeeds (writeHome descriptor payloadStart indices) w () after := by
  induction indices generalizing w with
  | nil => exact ⟨w, Succeeds.pure w ()⟩
  | cons index rest ih =>
      obtain ⟨cell, home⟩ := room index List.mem_cons_self
      have read := Succeeds.readFileBlock (payloadStart + index) cell
      have put := Succeeds.writeSync (w := w.reread (payloadStart + index))
        (JournalV3Entry.ofBlock descriptor index).homeBlock (w.live (payloadStart + index)) home
      obtain ⟨after, later⟩ := ih ((w.reread (payloadStart + index)).stored
        (JournalV3Entry.ofBlock descriptor index).homeBlock (w.live (payloadStart + index)))
        fun other member => room other (List.mem_cons_of_mem _ member)
      exact ⟨after, read.bind (put.bind later)⟩

theorem writeHome_append (descriptor : Block) (payloadStart : Nat) (first second : List Nat)
    (w : World) : writeHome descriptor payloadStart (first ++ second) w =
      (writeHome descriptor payloadStart first >>= fun _ =>
        writeHome descriptor payloadStart second) w := by
  induction first generalizing w with
  | nil => rfl
  | cons index rest ih =>
      rw [List.cons_append, writeHome, writeHome, Routine.bind_assoc]
      apply Routine.bind_congr
      intro payload after
      rw [Routine.bind_assoc]
      apply Routine.bind_congr
      intro _ later
      exact ih later

/-- What the checks say about one entry and its payload. -/
structure EntryAccepted (sbi : SbInfo) (count : Nat) (descriptor : Block) (payloadStart : Nat)
    (cells : Nat → Block) (index : Nat) : Prop where
  entry : (JournalV3Entry.ofBlock descriptor index).homeBlock < count ∧
    ¬ sbi.JournalBlockIsInternal (JournalV3Entry.ofBlock descriptor index).homeBlock ∧
    (JournalV3Entry.ofBlock descriptor index).flags = 0
  payload : fnv1aUpdate FNV_OFFSET (cells (payloadStart + index)) =
    (JournalV3Entry.ofBlock descriptor index).payloadChecksum

/-- The running checksum of a list of images. -/
def imagesChecksum (images : List (Nat × Block)) (seed : Nat) : Nat :=
  images.foldl (fun sum image => fnv1aUpdate sum image.2) seed

theorem imagesChecksum_cons (image : Nat × Block) (images : List (Nat × Block)) (seed : Nat) :
    imagesChecksum (image :: images) seed = imagesChecksum images (fnv1aUpdate seed image.2) := by
  rw [imagesChecksum, List.foldl_cons, imagesChecksum]

theorem homeImages_cons (descriptor : Block) (payloadStart : Nat) (cells : Nat → Block)
    (index : Nat) (rest : List Nat) :
    homeImages descriptor payloadStart cells (index :: rest) =
      ((JournalV3Entry.ofBlock descriptor index).homeBlock, cells (payloadStart + index)) ::
        homeImages descriptor payloadStart cells rest := by
  rw [homeImages, List.map_cons, homeImages]

theorem verifyPayloads_accepts (descriptor : Block) (payloadStart : Nat) (positive : 0 < payloadStart)
    (indices : List Nat) (seed total : Nat) (w after : World)
    (ran : verifyPayloads false descriptor payloadStart indices seed w = (.ok total, after)) :
    (∀ index, index ∈ indices →
      EntryAccepted w.sbi (blocksCount w) descriptor payloadStart w.live index) ∧
    total = imagesChecksum (homeImages descriptor payloadStart w.live indices) seed := by
  induction indices generalizing w seed with
  | nil =>
      rw [verifyPayloads, Routine.pure_run] at ran
      obtain ⟨value, _⟩ := Prod.mk.inj ran
      exact ⟨by simp, (Except.ok.inj value).symm⟩
  | cons index rest ih =>
      rw [verifyPayloads, Routine.read_bind] at ran
      obtain ⟨_, checked, entry, ran⟩ := Routine.of_bind_ok _ _ _ _ _ ran
      obtain ⟨named, same⟩ := Routine.of_require_ok _ _ _ _ entry
      rw [same] at ran
      obtain ⟨_, unique, distinct, ran⟩ := Routine.of_bind_ok _ _ _ _ _ ran
      obtain ⟨_, same⟩ := Routine.of_require_ok _ _ _ _ distinct
      rw [same] at ran
      obtain ⟨payload, loaded, read, ran⟩ := Routine.of_bind_ok _ _ _ _ _ ran
      obtain ⟨content, live, sbi, count⟩ := readFileBlock_ok read
      obtain ⟨_, state, summed, ran⟩ := Routine.of_bind_ok _ _ _ _ _ ran
      obtain ⟨sum, same⟩ := Routine.of_require_ok _ _ _ _ summed
      rw [same] at ran
      obtain ⟨entries, result⟩ := ih _ _ ran
      rw [live, sbi, count (by omega)] at entries
      rw [live, content] at result
      rw [homeImages_cons, imagesChecksum_cons]
      refine ⟨?_, result⟩
      intro other member
      rcases List.mem_cons.mp member with here | member
      · rw [here]
        exact ⟨named, content ▸ sum⟩
      · exact entries other member

theorem verifyPayloads_succeeds (descriptor : Block) (payloadStart : Nat)
    (positive : 0 < payloadStart) (indices : List Nat) (seed : Nat) (w : World)
    (accepted : ∀ index, index ∈ indices →
      EntryAccepted w.sbi (blocksCount w) descriptor payloadStart w.live index)
    (room : ∀ index, index ∈ indices → payloadStart + index < w.size) :
    ∃ after, Succeeds (verifyPayloads false descriptor payloadStart indices seed) w
      (imagesChecksum (homeImages descriptor payloadStart w.live indices) seed) after := by
  induction indices generalizing w seed with
  | nil =>
      rw [verifyPayloads]
      exact ⟨w, Succeeds.pure w seed⟩
  | cons index rest ih =>
      have entry := accepted index List.mem_cons_self
      have here := room index List.mem_cons_self
      have read := Succeeds.readFileBlock (payloadStart + index) here
      have fields := readFileBlock_ok read.run
      have later := ih (fnv1aUpdate seed (w.live (payloadStart + index)))
        (w.reread (payloadStart + index))
      rw [World.live_reread] at later
      obtain ⟨after, done⟩ := later (by
          intro other member
          have known := accepted other (List.mem_cons_of_mem _ member)
          have count := fields.2.2.2 (by omega)
          rw [← show blocksCount (w.reread (payloadStart + index)) = blocksCount w from count]
            at known
          exact known)
        fun other member => room other (List.mem_cons_of_mem _ member)
      refine ⟨after, ?_⟩
      rw [verifyPayloads, homeImages_cons, imagesChecksum_cons]
      apply Succeeds.read
      · intro faults
        rfl
      · apply (Succeeds.require .euclean entry.entry).bind
        apply (Succeeds.require .euclean (Or.inl rfl)).bind
        apply read.bind
        exact (Succeeds.require .euclean entry.payload).bind done

section Tail

variable (w : World)

/-- The descriptor block at the tail of the ring, as a reader gets it. -/
def World.tailBuf : Block := w.live w.sbi.journalRingTail

def World.tailHeader : JournalV3Descriptor := JournalV3Descriptor.ofBlock w.tailBuf

def World.tailCommit : JournalV3Commit := JournalV3Commit.ofBlock (w.live w.tailHeader.commitBlock)

/-- The images a checkpoint step copies home. -/
def World.tailImages : List (Nat × Block) :=
  homeImages w.tailBuf w.tailHeader.payloadStart w.live (List.range w.tailHeader.entryCount)

/-- The ring is not empty and a descriptor stands at its tail. -/
structure TailOpened : Prop where
  apart : w.sbi.journalRingTail ≠ w.sbi.journalRingHead
  header : SegmentHeaderValid w.sbi w.sbi.journalRingTail w.sbi.journalCheckpointSequence w.tailBuf

/-- All that the checkpoint asks of the segment at the tail before it writes a home block. -/
structure TailAccepted : Prop where
  ring : w.sbi.journalRing = true
  opened : TailOpened w
  commit : CommitMatches w.sbi.journalRingTail w.tailBuf (w.live w.tailHeader.commitBlock) ∧
    w.tailCommit.flags = JOURNAL_V3_FLAG_COMMITTED ∧
    w.tailCommit.descriptorChecksum = w.tailHeader.checksum
  entries : ∀ index, index ∈ List.range w.tailHeader.entryCount →
    EntryAccepted w.sbi (blocksCount w) w.tailBuf w.tailHeader.payloadStart w.live index
  payloads : (if w.tailHeader.entryCount = 0 then 0 else imagesChecksum w.tailImages FNV_OFFSET) =
    w.tailCommit.payloadChecksum

/-- The segment at the tail lies in the ring and records the superblock, no block twice. -/
structure TailPlaced : Prop where
  first : 0 < w.sbi.journalBlock
  idle : w.sbi.journalReplaying = false
  journal : w.sbi.ringEnd ≤ w.size
  homes : blocksCount w ≤ w.size
  low : w.sbi.ringStart ≤ w.sbi.journalRingTail
  high : w.sbi.journalRingTail < w.sbi.ringEnd
  inside : TailOpened w → w.tailHeader.commitBlock < w.sbi.ringEnd
  distinct : TailAccepted w → (w.tailImages.map Prod.fst).Nodup
  super : TailAccepted w → 0 ∈ w.tailImages.map Prod.fst

end Tail

/-- The step behind the home loop. -/
def checkpointSettle (w : World) : Kernel Unit :=
  Routine.modify (fun now => { now with sbi := { now.sbi with
    journalRingTail := w.sbi.ringWrap (w.tailHeader.commitBlock + 1)
    journalTailSequence := w.tailHeader.sequence
    journalCheckpointSequence := w.tailHeader.sequence } }) >>= fun _ =>
  journalV3SettleTail (decide (w.sbi.ringWrap (w.tailHeader.commitBlock + 1) =
      w.sbi.journalRingHead)) w.sbi.journalLastSequence w.tailHeader.sequence
    ⟨w.sbi.journalRingTail, w.tailHeader.payloadStart, w.tailHeader.entryCount,
      w.tailHeader.commitBlock⟩

/-- The part of a checkpoint step behind its checks. -/
def checkpointHome (w : World) : Kernel Unit :=
  writeHome w.tailBuf w.tailHeader.payloadStart (List.range w.tailHeader.entryCount) >>= fun _ =>
    checkpointSettle w

/-- The end of a checkpoint step changes no home block that readers can tell. -/
theorem journalV3SettleTail_view (w : World) (emptied : Bool) (lastSequence sequence : Nat)
    (segment : JournalV3Segment) (first : 0 < w.sbi.journalBlock)
    (idle : w.sbi.journalReplaying = false) (current : w.uptodate 0 = true)
    (home : w.disk 0 = w.live 0) :
    SameSuper ((journalV3SettleTail emptied lastSequence sequence segment w).2.live 0) (w.live 0) ∧
      ∀ block, block ≠ 0 → block ≠ w.sbi.journalBlock →
        (journalV3SettleTail emptied lastSequence sequence segment w).2.live block =
          w.live block := by
  have low : (0 : Nat) ≠ w.sbi.journalBlock := by omega
  cases emptied with
  | false =>
      rw [journalV3SettleTail, if_neg Bool.false_ne_true]
      rw [Routine.read_bind]
      refine ⟨?_, fun block _ apart => writeSync_live w _ _ block apart⟩
      rw [writeSync_live w _ _ 0 low]
      exact SameSuper.refl _
  | true =>
      rw [journalV3SettleTail, if_pos rfl, Routine.modify_bind, superSetRecoveryUnlogged_eq _ _ idle]
      generalize superIs : recoveredSuper false (w.cache 0) w.sbi.nextIno w.sbi.nextDataBlock = super
      have cached : w.cache 0 = w.live 0 := by rw [World.live, if_pos current]
      have same : SameSuper super (w.live 0) := by
        rw [← superIs, ← cached]
        exact recoveredSuper_same false (w.cache 0) _ _
      have dirtied : ∀ block, block ≠ 0 → (w.dirtyBuffer 0 super).live block = w.live block := by
        intro block apart
        simp [World.live, World.dirtyBuffer, World.disk, apart, WriteLog.store_other]
      have content : (w.dirtyBuffer 0 super).cache 0 = super :=
        WriteLog.store_same w.cache 0 super
      have shown : (w.dirtyBuffer 0 super).live 0 = super := by
        have current' : (w.dirtyBuffer 0 super).uptodate 0 = true := current
        rw [World.live, if_pos current', content]
      have device : (w.dirtyBuffer 0 super).disk 0 = w.live 0 := home
      have sync := syncSingleBlock_eq (w.dirtyBuffer 0 super) 0
        (WriteLog.store_same w.dirty 0 true)
      rw [content] at sync
      split at sync
      · rw [Routine.bind_error _ _ _ _ _ sync]
        refine ⟨?_, fun block apart _ => dirtied block apart⟩
        rw [shown]
        exact same
      · split at sync
        · rw [Routine.bind_error _ _ _ _ _ sync]
          refine ⟨?_, fun block apart _ => ?_⟩
          · change SameSuper (((w.dirtyBuffer 0 super).spoiled 0 super).live 0) _
            rw [World.live_spoiled_same, device]
            exact SameSuper.refl _
          · change ((w.dirtyBuffer 0 super).spoiled 0 super).live block = _
            rw [World.live_spoiled_other _ _ _ _ apart, dirtied block apart]
        · rw [Routine.bind_ok _ _ _ _ _ sync, Routine.read_bind]
          refine ⟨?_, fun block apart other => ?_⟩
          · rw [writeSync_live]
            case apart => exact low
            change SameSuper (((w.dirtyBuffer 0 super).stored 0 super).live 0) _
            rw [World.live_stored, WriteLog.store_same]
            exact same
          · rw [writeSync_live]
            case apart => exact other
            change ((w.dirtyBuffer 0 super).stored 0 super).live block = _
            rw [World.live_stored, WriteLog.store_other _ _ _ _ apart, dirtied block apart]

/-- What a checkpoint step comes to: it has written no home block, or the segment at the tail
has passed every check and the home loop runs. -/
def ReachesHome (w : World) (outcome : Except Errno Unit × World) : Prop :=
  Rereads w.sbi.area.Inside w.sbi.journalBlock w outcome.2 ∨
    (TailAccepted w ∧ ∃ after, Rereads w.sbi.area.Inside w.sbi.journalBlock w after ∧
      outcome = checkpointHome w after)

theorem ReachesHome.bind {α : Type} {w v : World} {first : Kernel α} {next : α → Kernel Unit}
    (before : Rereads w.sbi.area.Inside w.sbi.journalBlock w v)
    (moves : Moves (Rereads w.sbi.area.Inside w.sbi.journalBlock) first)
    (rest : ∀ value after, first v = (.ok value, after) →
      Rereads w.sbi.area.Inside w.sbi.journalBlock w after → ReachesHome w (next value after)) :
    ReachesHome w ((first >>= next) v) := by
  rcases Routine.bind_cases first next v with ⟨reason, after, ran, run⟩ | ⟨value, after, ran, run⟩
  · rw [run]
    exact Or.inl (IsTrans.trans _ _ _ before (moves.of_run ran))
  · rw [run]
    exact rest value after ran (IsTrans.trans _ _ _ before (moves.of_run ran))

theorem TailPlaced.control {w : World} (placed : TailPlaced w) :
    w.sbi.area.Inside w.sbi.journalBlock := by
  have low := placed.low
  have high := placed.high
  unfold SbInfo.ringStart at low
  unfold SbInfo.ringEnd at high
  simp only [SbInfo.area, JournalArea.Inside]
  omega

theorem TailPlaced.position {w : World} (placed : TailPlaced w) (block : Nat)
    (above : w.sbi.journalRingTail ≤ block) (below : block < w.sbi.ringEnd) :
    w.sbi.area.Inside block ∧ block ≠ w.sbi.journalBlock ∧ block < w.size ∧ 0 < block := by
  have low := placed.low
  have journal := placed.journal
  unfold SbInfo.ringStart at low
  unfold SbInfo.ringEnd at below journal
  simp only [SbInfo.area, JournalArea.Inside]
  omega

theorem TailPlaced.cells {w : World} (placed : TailPlaced w)
    (opened : TailOpened w) (index : Nat) (member : index ∈ List.range w.tailHeader.entryCount) :
    w.sbi.area.Inside (w.tailHeader.payloadStart + index) ∧
      w.tailHeader.payloadStart + index ≠ w.sbi.journalBlock ∧
      w.tailHeader.payloadStart + index < w.size ∧ 0 < w.tailHeader.payloadStart + index := by
  have beyond := placed.inside opened
  obtain ⟨_, _, _, _, _, start, commit, _⟩ := opened.header
  change w.tailHeader.payloadStart = _ at start
  change w.tailHeader.commitBlock = w.tailHeader.payloadStart + w.tailHeader.entryCount at commit
  have small := List.mem_range.mp member
  exact placed.position _ (by omega) (by omega)

theorem TailPlaced.commitCell {w : World} (placed : TailPlaced w)
    (opened : TailOpened w) :
    w.sbi.area.Inside w.tailHeader.commitBlock ∧ w.tailHeader.commitBlock ≠ w.sbi.journalBlock ∧
      w.tailHeader.commitBlock < w.size ∧ 0 < w.tailHeader.payloadStart := by
  have beyond := placed.inside opened
  obtain ⟨_, _, _, _, _, start, commit, _⟩ := opened.header
  change w.tailHeader.payloadStart = _ at start
  change w.tailHeader.commitBlock = w.tailHeader.payloadStart + w.tailHeader.entryCount at commit
  obtain ⟨inside, apart, room, _⟩ := placed.position w.tailHeader.commitBlock (by omega) beyond
  exact ⟨inside, apart, room, by omega⟩

theorem Rereads.count {w after : World} {area : JournalArea} {control : Nat}
    (moved : Rereads area.Inside control w after) (first : 0 < area.first) :
    blocksCount after = blocksCount w := by
  have outside : ¬ area.Inside 0 := by
    unfold JournalArea.Inside
    omega
  rw [blocksCount, World.super, moved.cache 0 outside]
  rfl

/-- The checks of a checkpoint step, whatever fails among them. -/
theorem journalV3CheckpointOne_cases (w : World) (placed : TailPlaced w) :
    ReachesHome w (journalV3CheckpointOne w) := by
  have start : Rereads w.sbi.area.Inside w.sbi.journalBlock w w := Std.Refl.refl w
  obtain ⟨here, apart, _, _⟩ := placed.position w.sbi.journalRingTail (Nat.le_refl _) placed.high
  rw [journalV3CheckpointOne, Routine.read_bind]
  by_cases empty : w.sbi.journalRing = false ∨ w.sbi.journalRingTail = w.sbi.journalRingHead
  · rw [if_pos empty]
    exact Or.inl start
  rw [if_neg empty]
  apply ReachesHome.bind start kmalloc_rereads
  intro _ first _ moved
  apply ReachesHome.bind moved (readFileBlock_rereads _ here)
  intro descriptorBuf second read moved'
  have buf : descriptorBuf = w.tailBuf :=
    (readFileBlock_ok read).1.trans (moved.live _ apart)
  rw [buf]
  apply ReachesHome.bind moved' (Moves.require _ _)
  intro _ third checked _
  obtain ⟨header, same⟩ := Routine.of_require_ok _ _ _ _ checked
  rw [same]
  have opened : TailOpened w := ⟨fun meet => empty (Or.inr meet), header⟩
  obtain ⟨inside, apart', _, positive⟩ := placed.commitCell opened
  apply ReachesHome.bind moved' (readFileBlock_rereads _ inside)
  intro commitBuf fourth read' moved''
  have record : commitBuf = w.live w.tailHeader.commitBlock :=
    (readFileBlock_ok read').1.trans (moved'.live _ apart')
  rw [record]
  apply ReachesHome.bind moved'' (Moves.require _ _)
  intro _ fifth checked' _
  obtain ⟨commit, same'⟩ := Routine.of_require_ok _ _ _ _ checked'
  rw [same']
  apply ReachesHome.bind moved'' (writeSync_rereads _ placed.control)
  intro _ sixth _ marked
  apply ReachesHome.bind marked
  · apply verifyPayloads_rereads
    intro index member
    exact (placed.cells opened index member).1
  intro total seventh verified moved3
  apply ReachesHome.bind moved3 (Moves.require _ _)
  intro _ eighth summed _
  obtain ⟨whole, same3⟩ := Routine.of_require_ok _ _ _ _ summed
  rw [same3]
  obtain ⟨entries, result⟩ := verifyPayloads_accepts _ _ positive _ _ _ _ _ verified
  have images : homeImages w.tailBuf w.tailHeader.payloadStart sixth.live
      (List.range w.tailHeader.entryCount) = w.tailImages :=
    homeImages_congr _ _ _ _ _ fun index member =>
      marked.live _ (placed.cells opened index member).2.1
  right
  refine ⟨⟨?_, opened, commit, ?_, ?_⟩, seventh, moved3, rfl⟩
  · cases ring : w.sbi.journalRing with
    | true => rfl
    | false => exact absurd (Or.inl ring) empty
  · intro index member
    have entry := entries index member
    rw [marked.sbi, marked.count placed.first] at entry
    refine ⟨entry.entry, ?_⟩
    rw [← marked.live _ (placed.cells opened index member).2.1]
    exact entry.payload
  · have sum : total = imagesChecksum (homeImages w.tailBuf w.tailHeader.payloadStart sixth.live
        (List.range w.tailHeader.entryCount)) FNV_OFFSET := result
    rw [← images, ← sum]
    exact whole

theorem Succeeds.rereads {α : Type} {body : Kernel α} {places : Nat → Prop} {control : Nat}
    {w after : World} {value : α} (moves : Moves (Rereads places control) body)
    (done : Succeeds body w value after) : Rereads places control w after := by
  have early : Rereads places control w { w with faults := [] } := Rereads.faults w []
  have moved := moves.of_run done.run
  have late : Rereads places control { after with faults := [] } after :=
    Rereads.faults { after with faults := [] } after.faults
  exact IsTrans.trans _ _ _ (IsTrans.trans _ _ _ early moved) late

/-- Where nothing fails before it, the home loop of an accepted segment runs. -/
theorem journalV3CheckpointOne_leads (w : World) (placed : TailPlaced w)
    (accepted : TailAccepted w) :
    ∃ after, Rereads w.sbi.area.Inside w.sbi.journalBlock w after ∧
      Leads journalV3CheckpointOne (checkpointHome w) w after := by
  obtain ⟨here, apart, room, _⟩ :=
    placed.position w.sbi.journalRingTail (Nat.le_refl _) placed.high
  obtain ⟨inside, apart', room', positive⟩ := placed.commitCell accepted.opened
  have control : w.sbi.journalBlock < w.size := by
    have low := placed.low
    unfold SbInfo.ringStart at low
    omega
  have read := Succeeds.readFileBlock (w := w) w.sbi.journalRingTail room
  have read' := Succeeds.readFileBlock (w := w.reread w.sbi.journalRingTail)
    w.tailHeader.commitBlock room'
  rw [World.live_reread] at read'
  generalize markIs : journalV3PrepareControl w.sbi JOURNAL_V3_STATE_CHECKPOINTING
    w.sbi.journalLastSequence 0 w.sbi.journalCheckpointSequence
    (⟨w.sbi.journalRingTail, w.tailHeader.payloadStart, w.tailHeader.entryCount,
      w.tailHeader.commitBlock⟩ : JournalV3Segment) = mark
  have put := Succeeds.writeSync
    (w := (w.reread w.sbi.journalRingTail).reread w.tailHeader.commitBlock) w.sbi.journalBlock
    mark control
  have moved : Rereads w.sbi.area.Inside w.sbi.journalBlock w
      (((w.reread w.sbi.journalRingTail).reread w.tailHeader.commitBlock).stored
        w.sbi.journalBlock mark) := by
    have first : Rereads w.sbi.area.Inside w.sbi.journalBlock w _ :=
      read.rereads (readFileBlock_rereads _ here)
    have second : Rereads w.sbi.area.Inside w.sbi.journalBlock _ _ :=
      read'.rereads (readFileBlock_rereads _ inside)
    have third := put.rereads (writeSync_rereads _ placed.control)
    exact IsTrans.trans _ _ _ (IsTrans.trans _ _ _ first second) third
  generalize ((w.reread w.sbi.journalRingTail).reread w.tailHeader.commitBlock).stored
    w.sbi.journalBlock mark = marked at *
  have images : homeImages w.tailBuf w.tailHeader.payloadStart marked.live
      (List.range w.tailHeader.entryCount) = w.tailImages :=
    homeImages_congr _ _ _ _ _ fun index member =>
      moved.live _ (placed.cells accepted.opened index member).2.1
  obtain ⟨after, checks⟩ := verifyPayloads_succeeds w.tailBuf w.tailHeader.payloadStart positive
    (List.range w.tailHeader.entryCount) FNV_OFFSET marked (by
      intro index member
      have entry := accepted.entries index member
      rw [moved.sbi, moved.count placed.first]
      refine ⟨entry.entry, ?_⟩
      rw [moved.live _ (placed.cells accepted.opened index member).2.1]
      exact entry.payload) (by
      intro index member
      rw [moved.size]
      exact (placed.cells accepted.opened index member).2.2.1)
  rw [images] at checks
  refine ⟨after, ?_, ?_⟩
  · refine IsTrans.trans _ _ _ moved (checks.rereads ?_)
    apply verifyPayloads_rereads
    intro index member
    exact (placed.cells accepted.opened index member).1
  have full : ¬ (w.sbi.journalRing = false ∨ w.sbi.journalRingTail = w.sbi.journalRingHead) := by
    rw [accepted.ring]
    exact not_or.mpr ⟨by decide, accepted.opened.apart⟩
  apply Leads.read
  · intro faults
    rfl
  rw [if_neg full]
  apply Leads.bind (Succeeds.kmalloc w)
  apply Leads.bind read
  apply Leads.bind (Succeeds.require _ accepted.opened.header)
  apply Leads.bind read'
  apply Leads.bind (Succeeds.require _ accepted.commit)
  rw [← markIs] at put
  apply Leads.bind put
  apply Leads.bind checks
  apply Leads.bind (Succeeds.require _ accepted.payloads)
  exact Leads.refl _ _

theorem TailAccepted.faults {w : World} (accepted : TailAccepted w) (faults : List Bool) :
    TailAccepted { w with faults := faults } :=
  ⟨accepted.ring, ⟨accepted.opened.apart, accepted.opened.header⟩, accepted.commit, accepted.entries,
    accepted.payloads⟩

theorem TailAccepted.of_faults {w : World} {faults : List Bool}
    (accepted : TailAccepted { w with faults := faults }) : TailAccepted w :=
  ⟨accepted.ring, ⟨accepted.opened.apart, accepted.opened.header⟩, accepted.commit, accepted.entries,
    accepted.payloads⟩

theorem TailPlaced.faults {w : World} (placed : TailPlaced w) (faults : List Bool) :
    TailPlaced { w with faults := faults } :=
  ⟨placed.first, placed.idle, placed.journal, placed.homes, placed.low, placed.high,
    fun opened => placed.inside ⟨opened.apart, opened.header⟩,
    fun accepted => placed.distinct accepted.of_faults,
    fun accepted => placed.super accepted.of_faults⟩

theorem checkpointSettle_view (w final : World) (first : 0 < final.sbi.journalBlock)
    (idle : final.sbi.journalReplaying = false) (current : final.uptodate 0 = true)
    (device : final.disk 0 = final.live 0) :
    SameSuper ((checkpointSettle w final).2.live 0) (final.live 0) ∧
      ∀ block, block ≠ 0 → block ≠ final.sbi.journalBlock →
        (checkpointSettle w final).2.live block = final.live block := by
  rw [checkpointSettle, Routine.modify_bind]
  have mount := tailAdvanced_mount final.sbi (w.sbi.ringWrap (w.tailHeader.commitBlock + 1))
    w.tailHeader.sequence
  generalize ({ final.sbi with
    journalRingTail := w.sbi.ringWrap (w.tailHeader.commitBlock + 1)
    journalTailSequence := w.tailHeader.sequence
    journalCheckpointSequence := w.tailHeader.sequence } : SbInfo) = sbi at *
  have journal : sbi.journalBlock = final.sbi.journalBlock := congrArg JournalArea.first mount.area
  rw [← World.live_sbi final sbi, ← journal]
  apply journalV3SettleTail_view
  · rw [← journal] at first
    exact first
  · exact mount.replaying.trans idle
  · exact current
  · exact device

section Home

variable {w after : World} (placed : TailPlaced w) (accepted : TailAccepted w)
variable (moved : Rereads w.sbi.area.Inside w.sbi.journalBlock w after)
include placed accepted

theorem TailPlaced.home (image : Nat × Block) (member : image ∈ w.tailImages) :
    image.1 < w.size ∧ ¬ w.sbi.area.Inside image.1 ∧ image.1 ≠ w.sbi.journalBlock := by
  obtain ⟨index, small, rfl⟩ := List.mem_map.mp member
  have entry := (accepted.entries index small).entry
  have outside : ¬ w.sbi.area.Inside (JournalV3Entry.ofBlock w.tailBuf index).homeBlock := entry.2.1
  refine ⟨lt_of_lt_of_le entry.1 placed.homes, outside, fun same => outside ?_⟩
  have here : (JournalV3Entry.ofBlock w.tailBuf index).homeBlock = w.sbi.journalBlock := same
  rw [here]
  exact placed.control

theorem TailPlaced.apart (index : Nat) (member : index ∈ List.range w.tailHeader.entryCount)
    (other : Nat) (member' : other ∈ List.range w.tailHeader.entryCount) :
    w.tailHeader.payloadStart + other ≠ (JournalV3Entry.ofBlock w.tailBuf index).homeBlock := by
  intro same
  have outside := (placed.home accepted _ (List.mem_map_of_mem member)).2.1
  exact outside (same ▸ (placed.cells accepted.opened other member').1)

include moved in
theorem Rereads.tailImages (indices : List Nat)
    (part : ∀ index, index ∈ indices → index ∈ List.range w.tailHeader.entryCount) :
    homeImages w.tailBuf w.tailHeader.payloadStart after.live indices =
      homeImages w.tailBuf w.tailHeader.payloadStart w.live indices :=
  homeImages_congr _ _ _ _ _ fun index member =>
    moved.live _ (placed.cells accepted.opened index (part index member)).2.1

include moved in
/-- The home loop and what follows it, whatever fails in them. -/
theorem checkpointHome_view :
    ∃ done rest cells, w.tailImages = done ++ rest ∧
      SameHome w.sbi.area (checkpointHome w after).2.live cells ∧
      (∀ block, ¬ w.sbi.area.Inside block → cells block = applyWrites w.live done block ∨
        (block ∈ rest.map Prod.fst ∧ cells block = applyWrites w.disk done block)) ∧
      ((writeHome w.tailBuf w.tailHeader.payloadStart (List.range w.tailHeader.entryCount)
        after).1 = .ok () → rest = []) := by
  have images := moved.tailImages placed accepted (List.range w.tailHeader.entryCount)
    fun _ member => member
  obtain ⟨done, rest, split, partly, finished⟩ := writeHome_partly w.tailBuf
    w.tailHeader.payloadStart (List.range w.tailHeader.entryCount) after
    (placed.apart accepted)
  rw [images] at split
  have seen : ∀ block, ¬ w.sbi.area.Inside block →
      applyWrites after.live done block = applyWrites w.live done block ∧
        applyWrites after.disk done block = applyWrites w.disk done block := by
    intro block outside
    have other : block ≠ w.sbi.journalBlock := fun same => outside (same ▸ placed.control)
    exact ⟨WriteLog.applyWrites_congr_at _ _ _ _ (moved.live block other),
      WriteLog.applyWrites_congr_at _ _ _ _ (moved.disk block other)⟩
  refine ⟨done, rest, (writeHome w.tailBuf w.tailHeader.payloadStart
    (List.range w.tailHeader.entryCount) after).2.live, split, ?_, ?_, finished⟩
  · cases ran : writeHome w.tailBuf w.tailHeader.payloadStart
        (List.range w.tailHeader.entryCount) after with
    | mk outcome final =>
        rw [ran] at partly finished
        cases outcome with
        | error reason =>
            rw [checkpointHome, Routine.bind_error _ _ _ _ _ ran]
            exact SameHome.refl _
        | ok value =>
            have whole := finished rfl
            subst whole
            rw [List.append_nil] at split
            have super : 0 ∈ done.map Prod.fst := by
              rw [← split]
              exact placed.super accepted
            have current := partly.current 0 super (by simp)
            have live : final.live 0 = applyWrites after.live done 0 := by
              rcases partly.live 0 with same | ⟨member, _⟩
              · exact same
              · simp at member
            have device : final.disk 0 = final.live 0 := by
              rw [live, partly.disk]
              exact WriteLog.applyWrites_written _ _ _ _ super
            have journal : final.sbi.journalBlock = w.sbi.journalBlock := by
              rw [partly.sbi, moved.sbi]
            have idle : final.sbi.journalReplaying = false := by
              rw [partly.sbi, moved.sbi]
              exact placed.idle
            have first : 0 < final.sbi.journalBlock := by
              rw [journal]
              exact placed.first
            obtain ⟨same, others⟩ := checkpointSettle_view w final first idle current device
            rw [checkpointHome, Routine.bind_ok _ _ _ _ _ ran]
            refine ⟨same, fun block apart outside => others block apart ?_⟩
            intro here
            rw [here] at outside
            exact outside (journal ▸ placed.control)
  · intro block outside
    rw [← (seen block outside).1, ← (seen block outside).2]
    exact partly.live block

end Home

end Cryexts
