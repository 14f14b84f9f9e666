import Cryexts.Journal.CheckpointInvisible
import Cryexts.Journal.Flush

set_option autoImplicit false

namespace Cryexts

open WriteLog (store applyWrites)

/-- A file block written out: `cryexts_write_inode_block` behind its encryption, then
`cryexts_sync_inode_block`. -/
def writeOutInodeBlock (block : Nat) (content : Block) : Kernel Unit := do
  writeFileBlock block content
  syncSingleBlock block

theorem writeOutInodeBlock_run (w : World) (healthy : w.Healthy) (block : Nat) (content : Block)
    (inside : block < w.size) :
    writeOutInodeBlock block content w = (.ok (), w.written block content) :=
  journalV3WriteSync_run w healthy block content inside

/-- A block the allocator hands out for file data. -/
structure DataPlace (sbi : SbInfo) (block : Nat) : Prop where
  apart : block ≠ 0
  outside : ¬ sbi.area.Inside block
  table : ∀ index, index < sbi.groupDescTableBlocks → block ≠ sbi.groupDescTableStart + index

theorem DataPlace.of_same {sbi after : SbInfo} {block : Nat} (place : DataPlace sbi block)
    (same : SameMount after sbi) : DataPlace after block where
  apart := place.apart
  outside := by
    rw [same.area]
    exact place.outside
  table index before := by
    rw [same.tableStart]
    exact place.table index (same.tableBlocks ▸ before)

/-- What goes on while `block` is file data and nobody rewrites it: work elsewhere, commits that do
not record it, and checkpoint steps. -/
inductive DataRun (count block : Nat) (start : World) : World → Prop
  | written : DataRun count block start start
  | work {w : World} (work : FsWork) (before : DataRun count block start w)
      (sound : work.Sound w count) (elsewhere : ∀ content, work ≠ FsWork.write block content) :
      DataRun count block start (work.run w)
  | commit {w after : World} (before : DataRun count block start w)
      (opened : w.sbi.journalActiveSequence ≠ 0) (meets : CommitRoom w)
      (success : journalV3Commit w = (.ok (), after))
      (elsewhere : block ∉ (committing w).homes) : DataRun count block start after
  | checkpoint {w : World} (before : DataRun count block start w) :
      DataRun count block start (journalV3CheckpointOne w).2

/-- Readers get `content`, a checkpoint step that may fail anywhere leaves it so, and replay after
a crash since the write-out finds it. -/
structure DataKept (start w : World) (block : Nat) (content : Block) : Prop where
  now : w.live block = content
  checkpoint : ∀ faults,
    (journalV3CheckpointOne { w with faults := faults }).2.live block = content
  replay : ∀ written, start.log.length ≤ written → written ≤ w.log.length →
    ∃ after, journalV3ReplayRing (mounting (w.crashAt written) w.size) = (.ok (), after) ∧
      after.disk block = content

/-- No transaction in the ring holds another image of the block. -/
def NoStaleImage (pending : List Transaction) (block : Nat) (content : Block) : Prop :=
  ∀ image, image ∈ imagesOf pending → image.1 = block → image.2 = content

/-- The write-out of a data block changes neither the ring nor what it holds. -/
theorem RingInv.dataWritten {w : World} {area : JournalArea} {count : Nat}
    {pending : List Transaction} {home : Nat → Block} (inv : RingInv w area count pending home)
    (block : Nat) (content : Block) (place : DataPlace w.sbi block) :
    RingInv (w.written block content) area count pending
      (applyWrites (store w.disk block content) (imagesOf pending)) := by
  have outside := place.outside
  rw [inv.ready.sameArea] at outside
  have journal : ∀ write, write ∈ [(block, content)] → area.Inside write.1 →
      write.2 = w.disk write.1 := by
    intro write member inside
    rw [List.mem_singleton.mp member] at inside
    exact absurd inside outside
  have super : ∀ write, write ∈ [(block, content)] → write.1 = 0 →
      Describes write.2 w.sbi count := by
    intro write member zero
    rw [List.mem_singleton.mp member] at zero
    exact absurd zero place.apart
  exact inv.writtenAll journal super

/-- A commit writes the journal and nothing else. -/
theorem RingInv.commit_outside {w : World} {area : JournalArea} {count : Nat}
    {pending : List Transaction} {home : Nat → Block} (inv : RingInv w area count pending home)
    {after : World} (success : journalV3Commit w = (.ok (), after)) :
    after.sbi.journalActiveSequence = 0 ∧ after.size = w.size ∧
      ∀ block, ¬ area.Inside block → after.cache block = (atCommit w).cache block ∧
        after.disk block = w.disk block ∧ after.dirty block = (atCommit w).dirty block := by
  obtain ⟨sound, recorded, allocation, allocated⟩ :=
    journalV3Commit_success (w := w) (by rw [success])
  obtain ⟨position, segment, _, low, fits, _, run⟩ := inv.commitAnywhere recorded allocated sound
  have inside := inv.commit_inside segment low fits
  have same : after = { (atCommit w).writtenAll
      (prepareWrites w allocation ++ recordWrites w allocation) with
        sbi := ringCommitted w allocation } := by
    rw [success] at run
    exact (Prod.mk.inj run).2
  rw [same]
  refine ⟨rfl, (World.writtenAll_size _ _).trans inv.mode.worked.toQuiet.size, ?_⟩
  intro block outside
  have elsewhere : ∀ write, write ∈ prepareWrites w allocation ++ recordWrites w allocation →
      write.1 ≠ block := by
    rintro write member rfl
    exact outside (inside write member)
  refine ⟨?_, ?_, ?_⟩
  · change ((atCommit w).writtenAll _).cache block = _
    rw [World.writtenAll_cache, WriteLog.applyWrites_other _ _ _ elsewhere]
  · rw [inv.commit_disk, WriteLog.applyWrites_other _ _ _ elsewhere]
  · change ((atCommit w).writtenAll _).dirty block = _
    rw [World.writtenAll_dirty, if_neg]
    intro member
    obtain ⟨write, found, here⟩ := List.mem_map.mp member
    exact elsewhere write found here

/-- A commit leaves the buffers of other blocks alone. -/
theorem RingInv.commit_cell {w : World} {area : JournalArea} {count : Nat}
    {pending : List Transaction} {home : Nat → Block} (inv : RingInv w area count pending home)
    {after : World} (success : journalV3Commit w = (.ok (), after)) (block : Nat)
    (place : DataPlace w.sbi block) :
    after.cache block = w.cache block ∧ after.disk block = w.disk block := by
  have mode := inv.mode
  have outside := place.outside
  rw [inv.ready.sameArea] at outside
  obtain ⟨cache, disk, _⟩ := (inv.commit_outside success).2.2 block outside
  rw [cache, disk]
  exact ⟨atCommit_cache mode.first mode.table mode.enabled mode.v3 mode.live block place.apart
    place.table, rfl⟩

section Checkpoint

variable {w : World} {area : JournalArea} {count : Nat} {t : Transaction}
variable {ts : List Transaction} {home : Nat → Block} (inv : RingInv w area count (t :: ts) home)
include inv

theorem RingInv.checkpoint_world : (journalV3CheckpointOne w).2 =
    { w.writtenAll (checkpointAll w t) with sbi := checkpointedSbi w.sbi t } := by
  rw [inv.checkpointRun]

/-- Outside the journal a checkpoint step writes its images and the superblock. -/
theorem RingInv.checkpointAll_other (block : Nat) (apart : block ≠ 0)
    (outside : ¬ area.Inside block) (cells : Nat → Block) :
    applyWrites cells (checkpointAll w t) block = applyWrites cells t.images block := by
  have control : w.sbi.journalBlock ≠ block := by
    rintro rfl
    apply outside
    have long := inv.long
    have same := inv.ready.sameArea
    rw [← same] at long ⊢
    simp only [SbInfo.area, JournalArea.Inside] at *
    omega
  rw [checkpointAll, checkpointWrites, WriteLog.applyWrites_append, WriteLog.applyWrites_other]
  · rw [WriteLog.applyWrites_cons]
    apply WriteLog.applyWrites_congr_at
    exact WriteLog.store_other _ _ _ _ (Ne.symm control)
  · intro write member
    have journalBlock : (checkpointedSbi w.sbi t).journalBlock = w.sbi.journalBlock := rfl
    unfold settleWrites at member
    split at member
    · simp only [List.mem_cons, List.not_mem_nil, or_false] at member
      rcases member with rfl | rfl
      · exact Ne.symm apart
      · exact control
    · rw [List.mem_singleton.mp member]
      exact control

/-- The superblock a step leaves differs from its image in recovery's members only. -/
theorem RingInv.checkpointAll_super : SameSuper (applyWrites w.cache (checkpointAll w t) 0)
    (applyWrites w.cache t.images 0) := by
  have low := inv.mode.first
  have control : 0 ≠ w.sbi.journalBlock := by
    simp only [SbInfo.area] at low
    omega
  have images : applyWrites w.cache (checkpointWrites w.sbi t) 0 =
      applyWrites w.cache t.images 0 := by
    rw [checkpointWrites, WriteLog.applyWrites_cons]
    apply WriteLog.applyWrites_congr_at
    exact WriteLog.store_other _ _ _ _ control
  have settled : (checkpointedSbi w.sbi t).journalBlock = w.sbi.journalBlock := rfl
  rw [checkpointAll, WriteLog.applyWrites_append, settleWrites]
  split
  · rw [WriteLog.applyWrites_cons, WriteLog.applyWrites_cons, WriteLog.applyWrites_nil, settled,
      WriteLog.store_other _ _ _ _ control, WriteLog.store_same]
    exact recoveredSuper_same _ _ _ _
  · rw [WriteLog.applyWrites_cons, WriteLog.applyWrites_nil, settled,
      WriteLog.store_other _ _ _ _ control, images]
    exact SameSuper.refl _

theorem RingInv.checkpoint_cell (block : Nat) (place : DataPlace w.sbi block) :
    (journalV3CheckpointOne w).2.cache block = applyWrites w.cache t.images block ∧
      (journalV3CheckpointOne w).2.disk block = applyWrites w.disk t.images block := by
  have outside := place.outside
  rw [inv.ready.sameArea] at outside
  have other := inv.checkpointAll_other block place.apart outside
  rw [inv.checkpoint_world]
  constructor
  · change (w.writtenAll _).cache block = _
    rw [World.writtenAll_cache, other]
  · change (w.writtenAll _).disk block = _
    rw [World.writtenAll_disk, other]

end Checkpoint

theorem FsWork.run_cache {w : World} (mode : JournalMode w) (work : FsWork) (block : Nat)
    (elsewhere : ∀ content, work ≠ FsWork.write block content) :
    (work.run w).cache block = w.cache block := by
  cases work with
  | write other content =>
      apply WriteLog.store_other
      rintro rfl
      exact elsewhere content rfl
  | cursors nextIno nextDataBlock => rfl
  | storage bytes => rfl
  | start =>
      change (journalV3Begin w).2.cache block = _
      rcases journalV3Begin_cases w with ⟨err, refused⟩ | begun
      · rw [refused]
      · rw [begun]
  | record other =>
      change (journalRecordBh other w).cache block = _
      rw [(journalRecordBh_cache other mode.enabled mode.v3 mode.live).1]
  | abort => rfl

/-- What holds of a data block and its crash points for as long as nobody rewrites it. -/
structure DataInv (start w : World) (area : JournalArea) (count block : Nat) (content : Block) :
    Prop where
  ring : ∃ pending home, RingInv w area count pending home ∧ NoStaleImage pending block content ∧
    home block = content
  place : DataPlace w.sbi block
  cache : w.cache block = content
  disk : w.disk block = content
  since : start.log.length ≤ w.log.length
  image : ∀ written, start.log.length ≤ written → written ≤ w.log.length →
    ∃ home, RingImage area count (w.crashAt written) home ∧ home block = content
  device : ∀ written, start.log.length ≤ written → written ≤ w.log.length →
    Describes (w.crashAt written 0) w.sbi count

section DataInv

variable {start w after : World} {area : JournalArea} {count block : Nat} {content : Block}
variable (inv : DataInv start w area count block content)
include inv

theorem DataInv.advance {writes : List (Nat × Block)} {owed : Nat → Nat → Block}
    (step : RingWrites w after area count writes owed) (same : SameMount after.sbi w.sbi)
    (owes : ∀ written, owed written block = content)
    (ring : ∃ pending home, RingInv after area count pending home ∧
      NoStaleImage pending block content ∧ home block = content)
    (cache : after.cache block = content) (disk : after.disk block = content) :
    DataInv start after area count block content := by
  have length : after.log.length = w.log.length + writes.length := by
    rw [step.log, List.length_append]
  have since := inv.since
  constructor
  case ring => exact ring
  case place => exact inv.place.of_same same
  case cache => exact cache
  case disk => exact disk
  case since => omega
  case image =>
    intro written early late
    rcases crashAt_append step.base step.log written with ⟨before, crash⟩ | ⟨beyond, crash⟩
    · rw [crash]
      exact inv.image written early before
    · rw [crash]
      exact ⟨_, step.image _, owes _⟩
  case device =>
    intro written early late
    rcases crashAt_append step.base step.log written with ⟨before, crash⟩ | ⟨beyond, crash⟩
    · rw [crash]
      exact (inv.device written early before).of_same same
    · rw [crash]
      exact (step.device _).of_same same

theorem DataInv.work (work : FsWork) (sound : work.Sound w count)
    (elsewhere : ∀ content, work ≠ FsWork.write block content) :
    DataInv start (work.run w) area count block content := by
  obtain ⟨pending, home, ring, fresh, owes⟩ := inv.ring
  obtain ⟨quiet, next⟩ := ring.work work sound
  apply inv.advance (ring.nothing quiet) quiet.mount (fun _ => owes) ⟨pending, home, next, fresh, owes⟩
  · rw [work.run_cache ring.mode block elsewhere]
    exact inv.cache
  · rw [quiet.disk]
    exact inv.disk

theorem DataInv.commit (opened : w.sbi.journalActiveSequence ≠ 0) (meets : CommitRoom w)
    (success : journalV3Commit w = (.ok (), after)) (elsewhere : block ∉ (committing w).homes) :
    DataInv start after area count block content := by
  obtain ⟨pending, home, ring, fresh, owes⟩ := inv.ring
  obtain ⟨writes, step, _, _, mount, next⟩ := ring.commit (by rw [success]) opened meets
  rw [success] at step mount next
  have untouched : ∀ cells : Nat → Block,
      applyWrites cells (committing w).images block = cells block := by
    intro cells
    apply WriteLog.applyWrites_other
    rintro image member rfl
    exact elsewhere (List.mem_map_of_mem member)
  have cell := ring.commit_cell success block inv.place
  apply inv.advance step mount
  · intro written
    split
    · exact owes
    · rw [untouched, owes]
  · refine ⟨_, _, next, ?_, by rw [untouched, owes]⟩
    intro image member here
    rw [imagesOf_append] at member
    rcases List.mem_append.mp member with early | late
    · exact fresh image early here
    · rw [imagesOf_cons, imagesOf_nil, List.append_nil] at late
      exact absurd (here ▸ List.mem_map_of_mem late) elsewhere
  · rw [cell.1, inv.cache]
  · rw [cell.2, inv.disk]

theorem DataInv.checkpoint :
    DataInv start (journalV3CheckpointOne w).2 area count block content := by
  obtain ⟨pending, home, ring, fresh, owes⟩ := inv.ring
  cases pending with
  | nil =>
      rw [journalV3CheckpointOne_empty w ring.chain]
      exact inv
  | cons t ts =>
      obtain ⟨_, mount, step, next⟩ := ring.checkpointStep
      obtain ⟨cache, disk⟩ := ring.checkpoint_cell block inv.place
      have here : ∀ image, image ∈ t.images → image.1 = block → image.2 = content :=
        fun image member => fresh image (List.mem_append_left _ member)
      apply inv.advance step mount (fun _ => owes)
      · exact ⟨ts, home, next, fun image member => fresh image (List.mem_append_right _ member), owes⟩
      · rw [cache]
        exact WriteLog.applyWrites_settled _ _ _ _ inv.cache here
      · rw [disk]
        exact WriteLog.applyWrites_settled _ _ _ _ inv.disk here

/-- A checkpoint step that may fail anywhere writes no other content to the block. -/
theorem DataInv.checkpointAny (faults : List Bool) :
    (journalV3CheckpointOne { w with faults := faults }).2.live block = content := by
  obtain ⟨pending, home, ring, fresh, _⟩ := inv.ring
  have placed := ring.tailPlaced
  have live : w.live block = content := by rw [ring.ready.healthy.live, inv.cache]
  have outside := inv.place.outside
  have control : block ≠ w.sbi.journalBlock := by
    rintro rfl
    exact outside placed.control
  rcases journalV3CheckpointOne_cases _ (placed.faults faults) with moved | ⟨accepted, after, moved, run⟩
  · rw [moved.live block control]
    exact live
  · obtain ⟨done, rest, cells, split, same, each, _⟩ :=
      checkpointHome_view (placed.faults faults) accepted moved
    have known := accepted.of_faults
    have images : ∀ image, image ∈ done → image.1 = block → image.2 = content := by
      intro image member
      cases pending with
      | nil =>
          have meet : w.sbi.journalRingTail = w.sbi.journalRingHead := ring.chain
          exact absurd meet known.opened.apart
      | cons t ts =>
          apply fresh image
          apply List.mem_append_left
          rw [← ring.tailHolds.images]
          change image ∈ World.tailImages { w with faults := faults }
          rw [split]
          exact List.mem_append_left _ member
    rw [run, same.blocks block inv.place.apart outside]
    rcases each block outside with here | ⟨_, here⟩
    · rw [here]
      exact WriteLog.applyWrites_settled _ _ _ _ live images
    · rw [here]
      exact WriteLog.applyWrites_settled _ _ _ _ inv.disk images

theorem DataInv.kept : DataKept start w block content := by
  obtain ⟨pending, home, ring, _, _⟩ := inv.ring
  refine ⟨by rw [ring.ready.healthy.live, inv.cache], inv.checkpointAny, ?_⟩
  intro written early late
  obtain ⟨expected, image, owes⟩ := inv.image written early late
  obtain ⟨after, replayed, recovered⟩ := replayRing_recovers
    (ringMount_of_describes ring (inv.device written early late)) _ image
  refine ⟨after, replayed, ?_⟩
  have outside := inv.place.outside
  rw [ring.ready.sameArea] at outside
  rw [recovered.home.blocks block inv.place.apart outside, owes]

end DataInv

/-- Right behind the write-out, over a ring without a stale image. -/
theorem RingInv.dataInv {w : World} {area : JournalArea} {count : Nat}
    {pending : List Transaction} {home : Nat → Block} (inv : RingInv w area count pending home)
    (block : Nat) (content : Block) (place : DataPlace w.sbi block)
    (fresh : NoStaleImage pending block content) :
    DataInv (w.written block content) (w.written block content) area count block content := by
  have next := inv.dataWritten block content place
  have disk : (w.written block content).disk = store w.disk block content :=
    World.writtenAll_disk w [(block, content)]
  have here : (w.written block content).disk block = content := by
    rw [disk, WriteLog.store_same]
  have crash : ∀ written, (w.written block content).log.length ≤ written →
      written ≤ (w.written block content).log.length →
      (w.written block content).crashAt written = (w.written block content).disk := by
    intro written early late
    rw [World.crashAt, List.take_of_length_le early]
    rfl
  have owes : applyWrites (store w.disk block content) (imagesOf pending) block = content :=
    WriteLog.applyWrites_settled _ _ _ _ (WriteLog.store_same _ _ _) fresh
  constructor
  case ring => exact ⟨pending, _, next, fresh, owes⟩
  case place => exact place
  case cache => exact WriteLog.store_same w.cache block content
  case disk => exact here
  case since => exact Nat.le_refl _
  case image =>
    intro written early late
    rw [crash written early late]
    exact ⟨_, next.image _ rfl next.held next.same, owes⟩
  case device =>
    intro written early late
    rw [crash written early late]
    exact next.device

theorem DataRun.inv {start w : World} {area : JournalArea} {count block : Nat} {content : Block}
    (run : DataRun count block start w) (first : DataInv start start area count block content) :
    DataInv start w area count block content := by
  induction run with
  | written => exact first
  | work work _ sound elsewhere ih => exact ih.work work sound elsewhere
  | commit _ opened meets success elsewhere ih => exact ih.commit opened meets success elsewhere
  | checkpoint _ ih => exact ih.checkpoint

/-- Draining the ring shows every image it holds of a block to the readers of that block. -/
theorem RingInv.drains_to {start w : World} {area : JournalArea} {count block : Nat}
    {pending : List Transaction} {home : Nat → Block} (inv : RingInv w area count pending home)
    (run : DataRun count block start w) (place : DataPlace w.sbi block) (image : Nat × Block)
    (member : image ∈ imagesOf pending) (here : image.1 = block) :
    ∃ later, DataRun count block start later ∧ later.live block = image.2 := by
  induction pending generalizing w with
  | nil => simp at member
  | cons t ts ih =>
      obtain ⟨_, mount, _, next⟩ := inv.checkpointStep
      have step := DataRun.checkpoint run
      rw [imagesOf_cons] at member
      rcases List.mem_append.mp member with first | later
      · refine ⟨_, step, ?_⟩
        rw [next.ready.healthy.live, (inv.checkpoint_cell block place).1]
        have distinct := (inv.held.valid t List.mem_cons_self).distinct
        apply WriteLog.applyWrites_nodup _ _ _ _ distinct
        rw [← here]
        exact first
      · exact ih next step (place.of_same mount) later

/-- File data written out to a block survives whatever the journal does from then on exactly
where no transaction still in the ring holds another image of that block. -/
theorem data_reuse_kept (w : World) (area : JournalArea) (count : Nat)
    (pending : List Transaction) (home : Nat → Block) (inv : RingInv w area count pending home)
    (block : Nat) (content : Block) (place : DataPlace w.sbi block) (inside : block < w.size) :
    ∃ start, writeOutInodeBlock block content w = (.ok (), start) ∧
      ((∀ later, DataRun count block start later → DataKept start later block content) ↔
        NoStaleImage pending block content) := by
  refine ⟨_, writeOutInodeBlock_run w inv.mode.healthy block content inside, ?_, ?_⟩
  · intro kept image member here
    obtain ⟨later, run, shown⟩ := (inv.dataWritten block content place).drains_to
      DataRun.written place image member here
    rw [← shown]
    exact (kept later run).now
  · intro fresh later run
    exact (run.inv (inv.dataInv block content place fresh)).kept

/-- A block bitmap with the given bits of its first sixteen. -/
def sampleBitmap (bits : Nat) : Block := (ByteBuf.zero BLOCK_SIZE).set ⟨0, 2⟩ bits

theorem WideRun.images {w : World} {history : List (Transaction × Nat)}
    {pending : List Transaction} {tail head : Nat}
    (wide : WideRun w history pending tail head) (block : Nat) (content : Block)
    (place : 2 ≤ block ∧ block < 4102) :
    (committing (singleWrite block content w)).images.head? = some (block, content) := by
  rw [(wide.ready block place).committing_images]
  rfl

/-- Three commits: one records block 9, one frees its bit in the bitmap of the group, one takes
the bit again. Nothing is checkpointed in between. -/
theorem wideMount_reused : ∃ w history home, RingRun CommitRoom 4118 wideMount w history ∧
    RingInv w ⟨4102, 16⟩ 4118 (history.map Prod.fst) home ∧
    (history.map fun entry => entry.1.images.head?) =
      [some (9, sampleContent), some (2, sampleBitmap 0x01ff), some (2, sampleBitmap 0x03ff)] ∧
    DataPlace w.sbi 9 ∧ 9 < w.size := by
  obtain ⟨first, early, _, one⟩ :=
    wideMount_run.commit 9 sampleContent (by decide) (by decide) (by decide)
  obtain ⟨second, middle, _, two⟩ :=
    one.commit 2 (sampleBitmap 0x01ff) (by decide) (by decide) (by decide)
  obtain ⟨third, late, _, three⟩ :=
    two.commit 2 (sampleBitmap 0x03ff) (by decide) (by decide) (by decide)
  obtain ⟨home, inv⟩ := three.inv
  have ready := three.ready 9 (by decide)
  refine ⟨third, _, home, three.run, inv, ?_, ⟨by decide, ready.outside, ready.table⟩, ?_⟩
  · simp only [List.nil_append, List.cons_append, List.map_cons, List.map_nil,
      wideMount_run.images 9 sampleContent (by decide), one.images 2 _ (by decide),
      two.images 2 _ (by decide)]
  · exact lt_of_lt_of_le (by decide) inv.ready.homes

/-- The theorem at that state. -/
theorem data_reuse_kept_wide : ∃ (w : World) (pending : List Transaction) (start : World),
    writeOutInodeBlock 9 (ByteBuf.zero BLOCK_SIZE) w = (.ok (), start) ∧
      ((∀ later, DataRun 4118 9 start later →
        DataKept start later 9 (ByteBuf.zero BLOCK_SIZE)) ↔
          NoStaleImage pending 9 (ByteBuf.zero BLOCK_SIZE)) := by
  obtain ⟨w, history, home, _, inv, _, place, inside⟩ := wideMount_reused
  obtain ⟨start, run, same⟩ :=
    data_reuse_kept w _ _ _ home inv 9 (ByteBuf.zero BLOCK_SIZE) place inside
  exact ⟨w, _, start, run, same⟩

/-- Block 9 is freed and handed out as file data while the commit that recorded it is still in the
ring. Draining the ring puts the old image over the data. -/
theorem data_reuse_lost : ∃ (w : World) (history : List (Transaction × Nat)) (start later : World),
    RingRun CommitRoom 4118 wideMount w history ∧
    (history.map fun entry => entry.1.images.head?) =
      [some (9, sampleContent), some (2, sampleBitmap 0x01ff), some (2, sampleBitmap 0x03ff)] ∧
    writeOutInodeBlock 9 (ByteBuf.zero BLOCK_SIZE) w = (.ok (), start) ∧
    DataRun 4118 9 start later ∧ later.live 9 = sampleContent ∧
    later.live 9 ≠ ByteBuf.zero BLOCK_SIZE := by
  obtain ⟨w, history, home, run, inv, recorded, place, inside⟩ := wideMount_reused
  have written := writeOutInodeBlock_run w inv.mode.healthy 9 (ByteBuf.zero BLOCK_SIZE) inside
  have member : (9, sampleContent) ∈ imagesOf (history.map Prod.fst) := by
    cases history with
    | nil => simp at recorded
    | cons entry rest =>
        rw [List.map_cons] at recorded
        rw [List.map_cons, imagesOf_cons]
        exact List.mem_append_left _ (List.mem_of_mem_head? (List.cons.inj recorded).1)
  obtain ⟨later, after, shown⟩ := (inv.dataWritten 9 (ByteBuf.zero BLOCK_SIZE) place).drains_to
    DataRun.written place (9, sampleContent) member rfl
  refine ⟨w, history, _, later, run, recorded, written, after, shown, ?_⟩
  rw [shown]
  exact sampleContent_written

end Cryexts
