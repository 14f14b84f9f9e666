import Cryexts.Journal.CheckpointView
import Cryexts.Journal.RingAtomicity

set_option autoImplicit false

namespace Cryexts

open WriteLog (store applyWrites)

/-- The images the next checkpoint step copies home are the newest content of their blocks. -/
def NewestImages (w : World) (home : Nat → Block) : Prop :=
  TailAccepted w → ∀ image, image ∈ w.tailImages →
    SameHome w.sbi.area (store home image.1 image.2) home

/-- The device already holds the newest content of the blocks the next checkpoint step writes. -/
def NewestOnDevice (w : World) (home : Nat → Block) : Prop :=
  TailAccepted w → ∀ image, image ∈ w.tailImages →
    SameHome w.sbi.area (store home image.1 (w.disk image.1)) home

namespace SameHome

variable {area : JournalArea} {first second home : Nat → Block}

/-- Writing what is there changes nothing. -/
theorem absorb (writes : List (Nat × Block)) (each : ∀ image, image ∈ writes →
    SameHome area (store home image.1 image.2) home) :
    SameHome area (WriteLog.applyWrites home writes) home := by
  induction writes with
  | nil => exact SameHome.refl home
  | cons image rest ih =>
      rw [WriteLog.applyWrites_cons]
      have here := (each image List.mem_cons_self).applyWrites rest
      exact here.trans (ih fun other member => each other (List.mem_cons_of_mem _ member))

theorem put (same : SameHome area first second) (block : Nat) (content : Block) :
    SameHome area (store first block content) (store second block content) :=
  same.applyWrites [(block, content)]

/-- Home content is compared block by block. -/
theorem of_blocks (positive : 0 < area.first) (each : ∀ block, ¬ area.Inside block →
    ∃ whole : Nat → Block, SameHome area whole second ∧ first block = whole block) :
    SameHome area first second where
  super := by
    obtain ⟨whole, same, here⟩ := each 0 (by unfold JournalArea.Inside; omega)
    rw [here]
    exact same.super
  blocks block apart outside := by
    obtain ⟨whole, same, here⟩ := each block outside
    rw [here]
    exact same.blocks block apart outside

/-- Only the content at a block decides whether writing there is noticed. -/
theorem put_of (same : SameHome area first home) (block : Nat) (content : Block)
    (here : first block = content) : SameHome area (store home block content) home where
  super := by
    by_cases zero : block = 0
    · subst zero
      rw [WriteLog.store_same, ← here]
      exact same.super
    · rw [WriteLog.store_other _ _ _ _ (Ne.symm zero)]
      exact SameSuper.refl _
  blocks other apart outside := by
    by_cases there : other = block
    · subst there
      rw [WriteLog.store_same, ← here]
      exact same.blocks other apart outside
    · exact WriteLog.store_other _ _ _ _ there

end SameHome

theorem writeHome_cons (descriptor : Block) (payloadStart index : Nat) (rest : List Nat)
    (next : Unit → Kernel Unit) :
    (writeHome descriptor payloadStart (index :: rest) >>= next) =
      (readFileBlock (payloadStart + index) >>= fun payload =>
        journalV3WriteSync (JournalV3Entry.ofBlock descriptor index).homeBlock payload >>= fun _ =>
          writeHome descriptor payloadStart rest >>= next) := by
  funext w
  rw [writeHome, Routine.bind_assoc]
  apply Routine.bind_congr
  intro payload after
  rw [Routine.bind_assoc]

/-- A round of the home loop whose write does not reach the device. -/
theorem homeRound_fails (w : World) (cell home : Nat) (inside : cell < w.size)
    (inside' : home < w.size) (next : Unit → Kernel Unit) :
    ((readFileBlock cell >>= fun payload => journalV3WriteSync home payload >>= next)
      { w with faults := [false, false, true] }).2.live home = w.disk home := by
  have read := readFileBlock_eq { w with faults := [false, false, true] } cell
  have present : ¬ w.size ≤ cell := Nat.not_le.mpr inside
  have present' : ¬ w.size ≤ home := Nat.not_le.mpr inside'
  simp only [List.headD_cons, Bool.false_eq_true, present, or_self, ↓reduceIte, List.tail_cons]
    at read
  rw [Routine.bind_ok _ _ _ _ _ read]
  generalize contentIs : ({ w with faults := [false, false, true] } : World).live cell = content
  generalize stateIs : ({ ({ w with faults := [false, false, true] } : World).reread cell with
    faults := [false, true] } : World) = state
  have faults : state.faults = [false, true] := by rw [← stateIs]
  have size : state.size = w.size := by rw [← stateIs]; rfl
  have disk : state.disk = w.disk := by rw [← stateIs]; rfl
  have put := journalV3WriteSync_eq state home content
  rw [faults, size] at put
  simp only [List.headD_cons, Bool.false_eq_true, present', or_self, ↓reduceIte, List.tail_cons]
    at put
  rw [Routine.bind_error _ _ _ _ _ put, World.live_faults, World.live_spoiled_same, disk]

section Invisible

variable {w : World} {home : Nat → Block} (placed : TailPlaced w)
variable (newest : SameHome w.sbi.area w.live home)
include placed newest

/-- A step that copies home only the newest content changes nothing, wherever it stops. -/
theorem checkpoint_keeps (images : NewestImages w home) (device : NewestOnDevice w home)
    (faults : List Bool) :
    SameHome w.sbi.area (journalV3CheckpointOne { w with faults := faults }).2.live home := by
  rcases journalV3CheckpointOne_cases _ (placed.faults faults) with moved | reached
  · refine SameHome.trans ?_ newest
    apply SameHome.of_blocks placed.first
    intro block outside
    refine ⟨w.live, SameHome.refl _, moved.live block ?_⟩
    rintro rfl
    exact outside placed.control
  · obtain ⟨accepted, after, moved, run⟩ := reached
    have known := accepted.of_faults
    obtain ⟨done, rest, cells, split, same, each, _⟩ :=
      checkpointHome_view (placed.faults faults) accepted moved
    rw [run]
    refine SameHome.trans same ?_
    have part : ∀ image, image ∈ done → SameHome w.sbi.area (store home image.1 image.2) home := by
      intro image member
      apply images known
      change image ∈ World.tailImages { w with faults := faults }
      rw [split]
      exact List.mem_append_left _ member
    have written : ∀ whole, SameHome w.sbi.area whole home →
        SameHome w.sbi.area (applyWrites whole done) home := fun whole before =>
      (before.applyWrites done).trans (SameHome.absorb done part)
    apply SameHome.of_blocks placed.first
    intro block outside
    rcases each block outside with here | ⟨member, here⟩
    · exact ⟨_, written _ newest, here⟩
    · obtain ⟨image, late, rfl⟩ := List.mem_map.mp member
      have reread : SameHome w.sbi.area (store home image.1 (w.disk image.1)) home := by
        apply device known
        change image ∈ World.tailImages { w with faults := faults }
        rw [split]
        exact List.mem_append_right _ late
      refine ⟨_, written _ ((newest.put image.1 (w.disk image.1)).trans reread), here.trans ?_⟩
      apply WriteLog.applyWrites_congr_at
      exact (WriteLog.store_same _ _ _).symm

omit newest in
/-- Without a failure an accepted segment's images are what readers see from then on. -/
theorem checkpoint_copies (accepted : TailAccepted w) :
    SameHome w.sbi.area (journalV3CheckpointOne { w with faults := [] }).2.live
      (applyWrites w.live w.tailImages) := by
  obtain ⟨after, moved, leads⟩ := journalV3CheckpointOne_leads w placed accepted
  have moved' : Rereads w.sbi.area.Inside w.sbi.journalBlock w { after with faults := [] } :=
    IsTrans.trans _ _ _ moved (Rereads.faults after [])
  obtain ⟨done, rest, cells, split, same, each, finished⟩ :=
    checkpointHome_view placed accepted moved'
  obtain ⟨final, home⟩ := writeHome_succeeds w.tailBuf w.tailHeader.payloadStart
    (List.range w.tailHeader.entryCount) after (by
      intro index member
      rw [moved.size]
      exact ⟨(placed.cells accepted.opened index member).2.2.1,
        (placed.home accepted _ (List.mem_map_of_mem member)).1⟩)
  have whole := finished (by rw [home.run])
  subst whole
  rw [List.append_nil] at split
  rw [leads.run]
  refine SameHome.trans same ?_
  apply SameHome.of_blocks placed.first
  intro block outside
  refine ⟨_, SameHome.refl _, ?_⟩
  rcases each block outside with here | ⟨member, _⟩
  · rw [here, split]
  · simp at member

omit newest in
/-- A failed write of any one home block sends its readers back to the device. -/
theorem checkpoint_spoils (accepted : TailAccepted w) (image : Nat × Block)
    (member : image ∈ w.tailImages) :
    ∃ faults, (journalV3CheckpointOne { w with faults := faults }).2.live image.1 =
      w.disk image.1 := by
  obtain ⟨after, moved, leads⟩ := journalV3CheckpointOne_leads w placed accepted
  obtain ⟨index, inside, rfl⟩ := List.mem_map.mp member
  obtain ⟨early, late, split⟩ := List.append_of_mem inside
  have part : ∀ other, other ∈ early → other ∈ List.range w.tailHeader.entryCount := by
    intro other before
    rw [split]
    exact List.mem_append_left _ before
  obtain ⟨final, done⟩ := writeHome_succeeds w.tailBuf w.tailHeader.payloadStart early after (by
    intro other before
    rw [moved.size]
    exact ⟨(placed.cells accepted.opened other (part other before)).2.2.1,
      (placed.home accepted _ (List.mem_map_of_mem (part other before))).1⟩)
  obtain ⟨written, rest, cut, partly, finished⟩ := writeHome_partly w.tailBuf
    w.tailHeader.payloadStart early { after with faults := [] } fun one before other before' =>
      placed.apart accepted one (part one before) other (part other before')
  have whole := finished (by rw [done.run])
  subst whole
  rw [done.run] at partly
  rw [List.append_nil] at cut
  generalize homeIs : (JournalV3Entry.ofBlock w.tailBuf index).homeBlock = home at *
  -- The home blocks are distinct, so the loop has not touched this one yet.
  have untouched : home ∉ written.map Prod.fst := by
    rw [← cut]
    intro before
    have distinct := placed.distinct accepted
    rw [World.tailImages, homeImages, split, List.map_append, List.map_append] at distinct
    have disjoint := (List.nodup_append.mp distinct).2.2
    have same : ∀ cells, (homeImages w.tailBuf w.tailHeader.payloadStart cells early).map Prod.fst =
        (homeImages w.tailBuf w.tailHeader.payloadStart w.live early).map Prod.fst := by
      intro cells
      simp only [homeImages, List.map_map]
      rfl
    rw [same] at before
    exact disjoint home before home (by rw [← homeIs]; simp) rfl
  have outside := placed.home accepted _ (List.mem_map_of_mem inside)
  have room := placed.cells accepted.opened index inside
  have device : final.disk home = w.disk home := by
    have before : final.disk home = after.disk home := by
      have applied := congrFun partly.disk home
      rw [WriteLog.applyWrites_other] at applied
      · exact applied
      · intro write known same
        exact untouched (same ▸ List.mem_map_of_mem known)
    rw [before]
    apply moved.disk
    rw [← homeIs]
    exact outside.2.2
  have size : final.size = w.size := partly.size.trans moved.size
  have steps : Leads (checkpointHome w) (writeHome w.tailBuf w.tailHeader.payloadStart (index :: late)
      >>= fun _ => checkpointSettle w) after final := by
    have shape : checkpointHome w = (writeHome w.tailBuf w.tailHeader.payloadStart early >>= fun _ =>
        writeHome w.tailBuf w.tailHeader.payloadStart (index :: late) >>= fun _ =>
          checkpointSettle w) := by
      funext v
      have parts : writeHome w.tailBuf w.tailHeader.payloadStart (early ++ index :: late) =
          (writeHome w.tailBuf w.tailHeader.payloadStart early >>= fun _ =>
            writeHome w.tailBuf w.tailHeader.payloadStart (index :: late)) := by
        funext u
        exact writeHome_append _ _ _ _ _
      rw [checkpointHome, split, parts, Routine.bind_assoc]
    rw [shape]
    exact Leads.bind done (Leads.refl _ _)
  obtain ⟨faults, run⟩ := (leads.trans steps).any [false, false, true]
  refine ⟨faults, ?_⟩
  have failed := homeRound_fails final (w.tailHeader.payloadStart + index) home
    (by rw [size]; exact room.2.2.1) (by rw [size, ← homeIs]; exact outside.1)
    (fun _ => writeHome w.tailBuf w.tailHeader.payloadStart late >>= fun _ => checkpointSettle w)
  rw [run, writeHome_cons, homeIs]
  exact failed.trans device

end Invisible

/-- A committed transaction stands at the tail of the ring, as a reader gets it. -/
structure TailHolds (w : World) (count : Nat) (t : Transaction) : Prop where
  ring : w.sbi.journalRing = true
  sameCount : blocksCount w = count
  apart : w.sbi.journalRingTail ≠ w.sbi.journalRingHead
  fits : w.sbi.journalRingTail + t.span ≤ w.sbi.ringEnd
  valid : t.Valid w.sbi.area count
  limit : w.sbi.ringEnd ≤ 2 ^ 64
  counted : count ≤ 2 ^ 64
  committed : t.Committed w.live (t.placesAt w.sbi.journalRingTail)
  later : w.sbi.journalCheckpointSequence < t.sequence

namespace TailHolds

variable {w : World} {count : Nat} {t : Transaction} (holds : TailHolds w count t)
include holds

theorem bounded : (t.placesAt w.sbi.journalRingTail).Bounded :=
  placesAt_bounded t _ _ holds.fits holds.limit

theorem buf : w.tailBuf = t.descriptor (t.placesAt w.sbi.journalRingTail) :=
  holds.committed.descriptor

theorem header : w.tailHeader =
    { t.header (t.placesAt w.sbi.journalRingTail) with
      checksum := (t.descriptor (t.placesAt w.sbi.journalRingTail)).get journalChecksum } := by
  rw [World.tailHeader, holds.buf]
  exact t.ofBlock_descriptor _ _ count holds.valid holds.bounded holds.counted

theorem commitBlock : w.tailHeader.commitBlock = w.sbi.journalRingTail + 1 + t.images.length := by
  rw [holds.header]
  rfl

theorem entryCount : w.tailHeader.entryCount = t.images.length := by
  rw [holds.header]
  rfl

theorem payloadStart : w.tailHeader.payloadStart = w.sbi.journalRingTail + 1 := by
  rw [holds.header]
  rfl

theorem images : w.tailImages = t.images := by
  rw [World.tailImages, holds.entryCount, holds.payloadStart, holds.buf]
  apply List.ext_getElem
  · simp [homeImages]
  · intro index _ inside
    have here : t.images[index]? = some t.images[index] := List.getElem?_eq_getElem inside
    have entry := t.entry_descriptor _ _ count holds.valid holds.bounded holds.counted index _ here
    have payload := holds.committed.payload index _ here
    simp only [homeImages, List.getElem_map, List.getElem_range, entry]
    exact Prod.ext rfl payload

theorem accepted : TailAccepted w := by
  have record : w.live w.tailHeader.commitBlock =
      t.commitRecord (t.placesAt w.sbi.journalRingTail) := by
    rw [holds.commitBlock]
    exact holds.committed.commitRecord
  have commit := t.ofBlock_commitRecord _ _ count holds.valid holds.bounded
  constructor
  case ring => exact holds.ring
  case opened =>
    refine ⟨holds.apart, ?_⟩
    rw [holds.buf]
    exact segmentHeader_valid holds.valid holds.counted _ _ holds.bounded holds.later
  case commit =>
    refine ⟨?_, ?_, ?_⟩
    · rw [record, holds.buf]
      exact commitMatches holds.valid holds.counted _ holds.bounded
    · rw [World.tailCommit, record, commit]
    · rw [World.tailCommit, record, commit, holds.header]
  case entries =>
    intro index member
    have inside := List.mem_range.mp member
    rw [holds.entryCount] at inside
    have here : t.images[index]? = some t.images[index] := List.getElem?_eq_getElem inside
    have entry := t.entry_descriptor _ _ count holds.valid holds.bounded holds.counted index _ here
    have home := holds.valid.home _ (List.getElem_mem inside)
    rw [holds.sameCount, holds.buf, holds.payloadStart]
    constructor
    · rw [entry]
      exact ⟨home.1, home.2, rfl⟩
    · rw [entry]
      exact congrArg (fnv1aUpdate FNV_OFFSET) (holds.committed.payload index _ here)
  case payloads =>
    rw [holds.images, holds.entryCount, World.tailCommit, record, commit]
    rfl

end TailHolds

/-- A mount in fault-free operation shows readers its buffers. -/
theorem World.Healthy.live {w : World} (healthy : w.Healthy) : w.live = w.cache := by
  funext block
  rw [World.live, if_pos (by rw [healthy.current])]

theorem RingInv.tailHolds {w : World} {area : JournalArea} {count : Nat} {t : Transaction}
    {ts : List Transaction} {home : Nat → Block} (inv : RingInv w area count (t :: ts) home) :
    TailHolds w count t := by
  have same := inv.ready.sameArea
  subst same
  have chain := inv.chain
  rw [spans_cons] at chain
  have low := inv.tailLow
  have fits : w.sbi.journalRingTail + t.span ≤ w.sbi.area.ringEnd := chain.2.2.1
  have limit := inv.ready.journal.trans inv.ready.bounded
  refine ⟨inv.ring, inv.ready.sameCount, chain.tail_ne, fits,
    inv.held.valid t List.mem_cons_self, limit, inv.ready.homes.trans inv.ready.bounded, ?_,
    inv.held.ascending.1⟩
  rw [inv.ready.healthy.live]
  apply inv.held.on.1.congr
  intro block lower upper
  apply inv.journal
  simp only [JournalArea.Inside, JournalArea.ringStart, JournalArea.ringEnd] at *
  omega

theorem RingInv.tailPlaced {w : World} {area : JournalArea} {count : Nat}
    {pending : List Transaction} {home : Nat → Block} (inv : RingInv w area count pending home) :
    TailPlaced w := by
  have same := inv.ready.sameArea
  constructor
  case first =>
    have first := inv.mode.first
    exact first
  case idle => exact inv.mode.live
  case journal =>
    have room := inv.mode.room
    exact room
  case homes => rw [inv.ready.sameCount]; exact inv.ready.homes
  case low =>
    have low := inv.tailLow
    rw [← same] at low
    exact low
  case high =>
    have high := inv.tailHigh
    rw [← same] at high
    exact high
  all_goals
    intro known
    cases pending with
    | nil =>
        have meet : w.sbi.journalRingTail = w.sbi.journalRingHead := inv.chain
        first
        | exact absurd meet known.apart
        | exact absurd meet known.opened.apart
    | cons t ts =>
        have holds := inv.tailHolds
        first
        | rw [holds.images]
          exact holds.valid.distinct
        | rw [holds.images]
          exact inv.supers t List.mem_cons_self
        | have fits := holds.fits
          rw [holds.commitBlock]
          unfold Transaction.span at fits
          omega

/-- Every run of a ring mount keeps its tail segment in place. -/
theorem RingRun.tailPlaced {first w : World} {area : JournalArea} {count : Nat}
    {history : List (Transaction × Nat)} (mounted : RingMounted first area count)
    (run : RingRun CommitRoom count first w history) : TailPlaced w := by
  obtain ⟨pending, inv⟩ := (run.inv mounted).ring
  exact inv.tailPlaced

/-- A checkpoint step is invisible to readers of the home blocks exactly where what it copies is
what they would read anyway. Without a failure that is the newest content of each block; where
a write fails, the block on the device must be the newest too. -/
theorem checkpoint_invisible (w : World) (home : Nat → Block) (placed : TailPlaced w)
    (newest : SameHome w.sbi.area w.live home) :
    (SameHome w.sbi.area (journalV3CheckpointOne { w with faults := [] }).2.live home ↔
      NewestImages w home) ∧
    ((∀ faults, SameHome w.sbi.area (journalV3CheckpointOne { w with faults := faults }).2.live
      home) ↔ NewestImages w home ∧ NewestOnDevice w home) := by
  have copied : SameHome w.sbi.area (journalV3CheckpointOne { w with faults := [] }).2.live home →
      NewestImages w home := by
    intro same accepted image member
    have written := (checkpoint_copies placed accepted).symm.trans same
    exact written.put_of image.1 image.2
      (WriteLog.applyWrites_nodup _ _ _ _ (placed.distinct accepted) member)
  refine ⟨⟨copied, fun images => ?_⟩, ⟨fun same => ⟨copied (same []), ?_⟩, ?_⟩⟩
  · by_cases accepted : TailAccepted w
    · have absorbed := SameHome.absorb w.tailImages (images accepted)
      exact (checkpoint_copies placed accepted).trans
        ((newest.applyWrites w.tailImages).trans absorbed)
    · exact checkpoint_keeps placed newest images
        (fun known => absurd known accepted) []
  · intro accepted image member
    obtain ⟨faults, spoiled⟩ := checkpoint_spoils placed accepted image member
    exact (same faults).put_of image.1 (w.disk image.1) spoiled
  · rintro ⟨images, device⟩ faults
    exact checkpoint_keeps placed newest images device faults

/-- The ring behind the first commit of a fresh volume: one transaction, not yet home. -/
theorem smallMount_pending (block : Nat) (placed : 2 ≤ block ∧ block < 4102) :
    ∃ w history home, RingRun CommitRoom 4111 smallMount w history ∧
      history.map Prod.fst = [committing (singleWrite block sampleContent smallMount)] ∧
      RingInv w ⟨4102, 9⟩ 4111 [committing (singleWrite block sampleContent smallMount)] home ∧
      w.disk block = ByteBuf.zero BLOCK_SIZE ∧ w.sbi.journalActiveSequence = 0 := by
  obtain ⟨w, success, ready, _, _, blank, _, home, inv⟩ := smallMount_commits block placed
  have opened : (singleWrite block sampleContent smallMount).sbi.journalActiveSequence ≠ 0 := by
    rw [(smallMount_single block placed).run]
    exact Nat.succ_ne_zero _
  have first : RingRun CommitRoom 4111 smallMount (singleWrite block sampleContent smallMount) [] :=
    (RingRun.mounted).single sampleContent (smallMount_single block placed).apart
      (smallMount_single block placed).outside
  exact ⟨w, _, home, RingRun.commit first opened (smallMount_room block placed) success, rfl, inv,
    blank, ready.closed⟩

/-- The theorem there. -/
theorem checkpoint_invisible_small : ∃ w : World, TailAccepted w ∧
    (SameHome w.sbi.area (journalV3CheckpointOne { w with faults := [] }).2.live w.live ↔
      NewestImages w w.live) ∧
    ((∀ faults, SameHome w.sbi.area (journalV3CheckpointOne { w with faults := faults }).2.live
      w.live) ↔ NewestImages w w.live ∧ NewestOnDevice w w.live) := by
  obtain ⟨w, history, home, run, _, inv, _⟩ := smallMount_pending 8 (by decide)
  exact ⟨w, inv.tailHolds.accepted,
    checkpoint_invisible w w.live (run.tailPlaced smallMount_mounted) (SameHome.refl _)⟩

/-- A failed write in that checkpoint shows: block 8 no longer reads as it was committed. -/
theorem checkpoint_noticed : ∃ (w : World) (history : List (Transaction × Nat)),
    RingRun CommitRoom 4111 smallMount w history ∧
    history.map Prod.fst = [committing (singleWrite 8 sampleContent smallMount)] ∧
    (8, sampleContent) ∈ (committing (singleWrite 8 sampleContent smallMount)).images ∧
    ∃ faults, (journalV3CheckpointOne { w with faults := faults }).2.live 8 ≠ sampleContent := by
  obtain ⟨w, history, home, run, sole, inv, blank, _⟩ := smallMount_pending 8 (by decide)
  have recorded : (8, sampleContent) ∈
      (committing (singleWrite 8 sampleContent smallMount)).images := by
    rw [(smallMount_single 8 (by decide)).committing_images]
    exact List.mem_cons_self
  have holds := inv.tailHolds
  obtain ⟨faults, spoiled⟩ := checkpoint_spoils inv.tailPlaced holds.accepted (8, sampleContent)
    (by rw [holds.images]; exact recorded)
  refine ⟨w, history, run, sole, recorded, faults, ?_⟩
  rw [spoiled, blank]
  exact sampleContent_written.symm

end Cryexts
