import Cryexts.Journal.ReplayEnds
import Cryexts.Journal.Flush
import Cryexts.Journal.DataReuse

set_option autoImplicit false

namespace Cryexts

open ByteBuf (EqOutside)
open WriteLog (store applyWrites Along along_cell)

/-- The superblock describes the volume, the place of its group descriptor table included. -/
structure OfVolume (super : Block) (sbi : SbInfo) (count : Nat) : Prop
    extends Describes super sbi count where
  tableStart : super.get Super.groupDescTableStart = sbi.groupDescTableStart
  tableBlocks : super.get Super.groupDescTableBlocks = sbi.groupDescTableBlocks

/-- What a mount keeps of its superblock: the volume, and two marks that say the same. -/
structure SuperSound (super : Block) (sbi : SbInfo) (count : Nat) : Prop
    extends OfVolume super sbi count where
  paired : Paired super

section Super

variable {sbi : SbInfo} {count : Nat}

theorem loadSuper_ofVolume (image : Nat → Block) :
    OfVolume (image 0) (loadSuper image) ((image 0).get Super.blocksCount) :=
  ⟨loadSuper_describes image, rfl, rfl⟩

theorem OfVolume.of_same {super : Block} {other : SbInfo} (volume : OfVolume super other count)
    (same : SameMount sbi other) : OfVolume super sbi count :=
  ⟨volume.toDescribes.of_same same, volume.tableStart.trans same.tableStart.symm,
    volume.tableBlocks.trans same.tableBlocks.symm⟩

theorem SuperSound.of_same {super : Block} {other : SbInfo} (sound : SuperSound super other count)
    (same : SameMount sbi other) : SuperSound super sbi count :=
  ⟨sound.toOfVolume.of_same same, sound.paired⟩

theorem SameSuper.ofVolume {first second : Block} (same : SameSuper first second)
    (volume : OfVolume second sbi count) : OfVolume first sbi count where
  toDescribes := same.describes volume.toDescribes
  tableStart := (same.get _ (by decide)).trans volume.tableStart
  tableBlocks := (same.get _ (by decide)).trans volume.tableBlocks

theorem OfVolume.recovered {super : Block} (volume : OfVolume super sbi count) (needed : Bool)
    (nextIno nextDataBlock : Nat) :
    SuperSound (recoveredSuper needed super nextIno nextDataBlock) sbi count :=
  ⟨(recoveredSuper_same _ _ _ _).ofVolume volume, recoveredSuper_paired _ _ _ _⟩

theorem commitSuper_sound {w : World} (volume : OfVolume (w.cache 0) sbi count) :
    SuperSound (commitSuper w) sbi count :=
  OfVolume.recovered ((setJournalSequence_same _ _).ofVolume volume) _ _ _

/-- The superblock of another image of the volume mounts the same journal. -/
theorem OfVolume.mount {image : Nat → Block} (volume : OfVolume (image 0) sbi count)
    (idle : sbi.journalReplaying = false) : SameMount (loadSuper image) sbi := by
  obtain ⟨area, enabled, v2, v3, ring⟩ := volume.toDescribes.loaded
  exact ⟨area, volume.tableStart, volume.tableBlocks, enabled, v2, v3, ring, idle.symm⟩

theorem JournalLayout.of_volume {image other : Nat → Block} {size : Nat}
    (layout : JournalLayout image size)
    (volume : OfVolume (other 0) (loadSuper image) ((image 0).get Super.blocksCount)) :
    JournalLayout other size := by
  have same := volume.mount rfl
  have first : (loadSuper other).journalBlock = (loadSuper image).journalBlock :=
    congrArg JournalArea.first same.area
  have blocks : (loadSuper other).journalBlocks = (loadSuper image).journalBlocks :=
    congrArg JournalArea.blocks same.area
  constructor
  case enabled => exact same.enabled.trans layout.enabled
  case v3 => exact same.v3.trans layout.v3
  case first => exact lt_of_lt_of_eq layout.first first.symm
  case long => exact le_of_le_of_eq layout.long blocks.symm
  case room =>
    rw [first, blocks, volume.blocksCount]
    exact layout.room
  case homes =>
    rw [volume.blocksCount]
    exact layout.homes
  case bounded => exact layout.bounded
  case table => exact layout.table.of_same same

end Super

/-- The recovery mark of a superblock. -/
def recoveryMark (super : Block) : Nat := super.get Super.state &&& FS_STATE_NEEDS_RECOVERY

/-- Work between commits that leaves the superblock's description and marks as they are. -/
def FsWork.Gentle (work : FsWork) (w : World) (count : Nat) : Prop :=
  work.Sound w count ∧ ∀ content, work = FsWork.write 0 content →
    (SuperSound (w.cache 0) w.sbi count → SuperSound content w.sbi count) ∧
      recoveryMark content = recoveryMark (w.cache 0)

/-- The runs of a mount of either layout, with the transactions committed so far: work, commits,
checkpoint steps of a ring, and home buffers written as they are, by `fsync`, by the ordered
barrier or behind the journal's back. -/
inductive MountRun (count : Nat) (first : World) : List Transaction → World → Prop
  | mounted : MountRun count first [] first
  | work {commits : List Transaction} {w : World} (work : FsWork)
      (before : MountRun count first commits w) (gentle : work.Gentle w count) :
      MountRun count first commits (work.run w)
  | commit {commits : List Transaction} {w after : World} (before : MountRun count first commits w)
      (opened : w.sbi.journalActiveSequence ≠ 0) (room : w.sbi.journalRing = true → RingRoom w)
      (success : journalV3Commit w = (.ok (), after)) :
      MountRun count first (commits ++ [committing w]) after
  | checkpoint {commits : List Transaction} {w : World} (before : MountRun count first commits w)
      (ring : w.sbi.journalRing = true) :
      MountRun count first commits (journalV3CheckpointOne w).2
  | writeback {commits : List Transaction} {w : World} (before : MountRun count first commits w)
      (writes : List (Nat × Block))
      (own : ∀ write, write ∈ writes → write.2 = w.cache write.1 ∧ ¬ w.sbi.area.Inside write.1) :
      MountRun count first commits (w.writtenAll writes)

/-- A mount of either layout between two of its steps. -/
structure LiveMount (w : World) (area : JournalArea) (count : Nat) : Prop where
  super : SuperSound (w.cache 0) w.sbi count
  journal : FixedInv w area count ∨ ∃ pending home, RingInv w area count pending home ∧
    ∀ image, image ∈ imagesOf pending → image.1 = 0 → SuperSound image.2 w.sbi count

/-- What a step of a mount comes to: a mount of the same volume, and sound superblocks at every
crash point since. -/
structure LiveStep (w after : World) (area : JournalArea) (count : Nat) : Prop where
  live : LiveMount after area count
  mount : SameMount after.sbi w.sbi
  size : after.size = w.size
  keeps : KeepsAlong (fun cells => SuperSound (cells 0) w.sbi count) w after

section Step

variable {w : World} {area : JournalArea} {count : Nat}

theorem LiveMount.mode (live : LiveMount w area count) : JournalMode w := by
  rcases live.journal with fixed | ⟨pending, home, ring, _⟩
  · exact fixed.mode
  · exact ring.mode

/-- A step whose every superblock is sound. -/
theorem KeepsAlong.supers {after : World} {sbi : SbInfo} (writes : List (Nat × Block))
    (base : after.base = w.base) (log : after.log = w.log ++ writes)
    (sound : ∀ write, write ∈ writes → write.1 = 0 → SuperSound write.2 sbi count) :
    KeepsAlong (fun cells => SuperSound (cells 0) sbi count) w after :=
  KeepsAlong.written writes base log fun start =>
    along_cell (fun super => SuperSound super sbi count) start sound

theorem SuperSound.along {cells : Nat → Block} {sbi : SbInfo} {writes : List (Nat × Block)}
    (start : SuperSound (cells 0) sbi count)
    (sound : ∀ write, write ∈ writes → write.1 = 0 → SuperSound write.2 sbi count) :
    SuperSound (applyWrites cells writes 0) sbi count :=
  (along_cell (fun super => SuperSound super sbi count) start sound).last

theorem FsWork.gentle_super (mode : JournalMode w) (work : FsWork) (gentle : work.Gentle w count)
    (super : SuperSound (w.cache 0) w.sbi count) :
    SuperSound ((work.run w).cache 0) w.sbi count := by
  by_cases written : ∃ content, work = FsWork.write 0 content
  · obtain ⟨content, rfl⟩ := written
    show SuperSound (store w.cache 0 content 0) w.sbi count
    rw [WriteLog.store_same]
    exact (gentle.2 content rfl).1 super
  · rw [FsWork.run_cache mode work 0 fun content same => written ⟨content, same⟩]
    exact super

/-- Work between commits. -/
theorem LiveMount.work (live : LiveMount w area count) (work : FsWork)
    (gentle : work.Gentle w count) : LiveStep w (work.run w) area count := by
  have super := work.gentle_super live.mode gentle live.super
  have quiet : Quiet w (work.run w) := by
    rcases live.journal with fixed | ⟨pending, home, ring, _⟩
    · exact (fixed.work work gentle.1).1
    · exact (ring.work work gentle.1).1
  refine ⟨⟨super.of_same quiet.mount, ?_⟩, quiet.mount, quiet.size,
    KeepsAlong.silent quiet.base quiet.log⟩
  rcases live.journal with fixed | ⟨pending, home, ring, images⟩
  · exact Or.inl (fixed.work work gentle.1).2
  · apply Or.inr
    exact ⟨pending, home, (ring.work work gentle.1).2,
      fun image member zero => (images image member zero).of_same quiet.mount⟩

/-- A commit in the fixed layout. -/
theorem LiveMount.commit_fixed (super : SuperSound (w.cache 0) w.sbi count)
    (fixed : FixedInv w area count) (success : (journalV3Commit w).1 = .ok ()) :
    LiveStep w (journalV3Commit w).2 area count := by
  obtain ⟨sound, recorded, _⟩ := journalV3Commit_success success
  have committed := fixed.committed success
  obtain ⟨base, log⟩ := fixed.commit_log success
  have mode := fixed.mode
  have journalled := commitSuper_sound super.toOfVolume
  have supers (write : Nat × Block)
      (member : write ∈ fixedLog w ++ (fixedHome w ++ fixedReset w)) (zero : write.1 = 0) :
      SuperSound write.2 w.sbi count := by
    rcases fixed.supers write member zero with here | cleared
    · rw [here]
      exact journalled
    · rw [cleared]
      exact journalled.toOfVolume.recovered _ _ _
  have keeps := KeepsAlong.supers _ base log supers
  have quiet := mode.worked.toQuiet
  have run := fixed.commit sound recorded
  rw [fixed.writes_eq] at run
  have mount : SameMount (journalV3Commit w).2.sbi w.sbi := by
    rw [run]
    exact (settledSbi_mount _ _).trans quiet.mount
  have size : (journalV3Commit w).2.size = w.size := by
    rw [run]
    exact (World.writtenAll_size _ _).trans quiet.size
  have cache : (journalV3Commit w).2.cache =
      applyWrites (atCommit w).cache (fixedLog w ++ (fixedHome w ++ fixedReset w)) := by
    rw [run]
    exact World.writtenAll_cache _ _
  refine ⟨⟨SuperSound.of_same ?_ mount, Or.inl committed⟩, mount, size, keeps⟩
  rw [cache]
  apply SuperSound.along _ supers
  rw [atCommit_super mode.first mode.table mode.enabled mode.v3 mode.live]
  exact journalled

/-- A commit into the ring. -/
theorem LiveMount.commit_ring {pending : List Transaction} {home : Nat → Block}
    (super : SuperSound (w.cache 0) w.sbi count) (ring : RingInv w area count pending home)
    (images : ∀ image, image ∈ imagesOf pending → image.1 = 0 → SuperSound image.2 w.sbi count)
    (opened : w.sbi.journalActiveSequence ≠ 0) (room : RingRoom w)
    (success : (journalV3Commit w).1 = .ok ()) : LiveStep w (journalV3Commit w).2 area count := by
  obtain ⟨allocation, position, first, second, logged⟩ := ring.commitLogged success opened room
  have mode := ring.mode
  have quiet := mode.worked.toQuiet
  have journalled := commitSuper_sound super.toOfVolume
  have mount := ring.logged_mount logged
  have base : (journalV3Commit w).2.base = w.base := by
    rw [logged.after]
    exact (World.writtenAll_base _ _).trans quiet.base
  have log : (journalV3Commit w).2.log =
      w.log ++ commitWrites (committing w) position area.first first second := by
    rw [logged.after, ← quiet.log]
    exact World.writtenAll_log _ _
  have outside (write : Nat × Block)
      (member : write ∈ commitWrites (committing w) position area.first first second)
      (zero : write.1 = 0) : SuperSound write.2 w.sbi count := by
    have low := (commitWrites_inside logged.start first second write member).1
    have positive := logged.start.first
    omega
  refine ⟨⟨SuperSound.of_same ?_ mount, Or.inr ⟨_, _, ring.logged_ring logged opened, ?_⟩⟩, mount,
    ring.logged_size logged, KeepsAlong.supers _ base log outside⟩
  · rw [logged.cache, logged.block_zero,
      atCommit_super mode.first mode.table mode.enabled mode.v3 mode.live]
    exact journalled
  · intro image member zero
    apply SuperSound.of_same _ mount
    rw [imagesOf_append, List.mem_append] at member
    rcases member with earlier | here
    · exact images image earlier zero
    · rw [committing_super mode image (by simpa [imagesOf] using here) zero]
      exact journalled

/-- A checkpoint step of a ring. -/
theorem LiveMount.checkpoint_ring {pending : List Transaction} {home : Nat → Block}
    (super : SuperSound (w.cache 0) w.sbi count) (ring : RingInv w area count pending home)
    (images : ∀ image, image ∈ imagesOf pending → image.1 = 0 → SuperSound image.2 w.sbi count) :
    LiveStep w (journalV3CheckpointOne w).2 area count := by
  cases pending with
  | nil =>
      rw [journalV3CheckpointOne_empty w ring.chain]
      exact ⟨⟨super, Or.inr ⟨[], home, ring, images⟩⟩, SameMount.refl _, rfl,
        KeepsAlong.silent rfl rfl⟩
  | cons t ts =>
      obtain ⟨_, mount, writes, after⟩ := ring.checkpointStep
      have older (write : Nat × Block) (image : write ∈ t.images) (zero : write.1 = 0) :
          SuperSound write.2 w.sbi count :=
        images write (List.mem_append_left _ image) zero
      have supers (write : Nat × Block) (member : write ∈ checkpointAll w t)
          (zero : write.1 = 0) : SuperSound write.2 w.sbi count := by
        rcases ring.checkpointSupers write member zero with image | cleared
        · exact older write image zero
        · rw [cleared]
          exact (super.along older).toOfVolume.recovered _ _ _
      have world := ring.checkpoint_world
      have cache :
          (journalV3CheckpointOne w).2.cache = applyWrites w.cache (checkpointAll w t) := by
        rw [world]
        exact World.writtenAll_cache _ _
      have size : (journalV3CheckpointOne w).2.size = w.size := by
        rw [world]
        exact World.writtenAll_size _ _
      refine ⟨⟨SuperSound.of_same ?_ mount, Or.inr ⟨ts, home, after, ?_⟩⟩, mount, size,
        KeepsAlong.supers _ writes.base writes.log supers⟩
      · rw [cache]
        exact super.along supers
      · intro image member zero
        exact (images image (List.mem_append_right _ member) zero).of_same mount

/-- Home writes that leave the superblock describing the volume. -/
theorem FixedInv.writtenAll (fixed : FixedInv w area count) (writes : List (Nat × Block))
    (supers : ∀ write, write ∈ writes → write.1 = 0 → Describes write.2 w.sbi count) :
    FixedInv (w.writtenAll writes) area count := by
  have sbi : (w.writtenAll writes).sbi = w.sbi := World.writtenAll_sbi w writes
  have mount : SameMount (w.writtenAll writes).sbi w.sbi := by
    rw [sbi]
    exact SameMount.refl _
  constructor
  case mode =>
    exact fixed.mode.of_same (World.writtenAll_healthy _ _ fixed.mode.healthy) mount
      (World.writtenAll_size _ _)
  case fixed => exact mount.ring.trans fixed.fixed
  case ready =>
    apply fixed.ready.written
    intro write member zero
    exact (supers write member zero).blocksCount
  case long => exact fixed.long
  case limit => exact fixed.limit
  case describes =>
    rw [World.writtenAll_cache]
    have along := along_cell (fun super => Describes super w.sbi count) fixed.describes supers
    exact along.last.of_same mount
  case records =>
    rw [sbi]
    exact fixed.records
  case small =>
    rw [sbi]
    exact fixed.small

/-- Home buffers written as they are. -/
theorem LiveMount.writeback (live : LiveMount w area count) (writes : List (Nat × Block))
    (own : ∀ write, write ∈ writes → write.2 = w.cache write.1 ∧ ¬ w.sbi.area.Inside write.1) :
    LiveStep w (w.writtenAll writes) area count := by
  have sbi : (w.writtenAll writes).sbi = w.sbi := World.writtenAll_sbi w writes
  have mount : SameMount (w.writtenAll writes).sbi w.sbi := by
    rw [sbi]
    exact ⟨rfl, rfl, rfl, rfl, rfl, rfl, rfl, rfl⟩
  have supers (write : Nat × Block) (member : write ∈ writes) (zero : write.1 = 0) :
      SuperSound write.2 w.sbi count := by
    rw [(own write member).1, zero]
    exact live.super
  have super : SuperSound ((w.writtenAll writes).cache 0) w.sbi count := by
    rw [World.writtenAll_cache]
    exact live.super.along supers
  refine ⟨⟨super.of_same mount, ?_⟩, mount, World.writtenAll_size _ _,
    KeepsAlong.supers writes (World.writtenAll_base _ _) (World.writtenAll_log _ _) supers⟩
  rcases live.journal with fixed | ⟨pending, home, ring, images⟩
  · apply Or.inl
    apply fixed.writtenAll
    intro write member zero
    exact (supers write member zero).toDescribes
  · apply Or.inr
    refine ⟨pending, _, ring.writtenAll ?_ ?_, ?_⟩
    · intro write member inside
      have outside := (own write member).2
      rw [ring.ready.sameArea] at outside
      exact absurd inside outside
    · intro write member zero
      exact (supers write member zero).toDescribes
    · rw [sbi]
      exact images

theorem LiveStep.trans {middle after : World} (first : LiveStep w middle area count)
    (second : LiveStep middle after area count) : LiveStep w after area count := by
  have same : (fun cells : Nat → Block => SuperSound (cells 0) middle.sbi count) =
      fun cells => SuperSound (cells 0) w.sbi count := by
    funext cells
    apply propext
    exact ⟨fun sound => sound.of_same first.mount.symm, fun sound => sound.of_same first.mount⟩
  have later := second.keeps
  rw [same] at later
  exact ⟨second.live, second.mount.trans first.mount, second.size.trans first.size,
    first.keeps.trans later⟩

/-- Every run of a live mount keeps it alive, and the volume sound at each of its crash points. -/
theorem MountRun.live {commits : List Transaction} {first : World}
    (run : MountRun count first commits w)
    (start : LiveMount first area count) : LiveStep first w area count := by
  induction run with
  | mounted =>
      exact ⟨start, ⟨rfl, rfl, rfl, rfl, rfl, rfl, rfl, rfl⟩, rfl, KeepsAlong.silent rfl rfl⟩
  | work work _ gentle ih => exact ih.trans (ih.live.work work gentle)
  | @commit _ w after _ opened room success ih =>
      apply ih.trans
      have same : after = (journalV3Commit w).2 := by rw [success]
      have done : (journalV3Commit w).1 = .ok () := by rw [success]
      rw [same]
      rcases ih.live.journal with fixed | ⟨pending, home, ring, images⟩
      · exact LiveMount.commit_fixed ih.live.super fixed done
      · exact LiveMount.commit_ring ih.live.super ring images opened (room ring.ring) done
  | checkpoint _ ring ih =>
      apply ih.trans
      rcases ih.live.journal with fixed | ⟨pending, home, inv, images⟩
      · rw [fixed.fixed] at ring
        cases ring
      · exact LiveMount.checkpoint_ring ih.live.super inv images
  | writeback _ writes own ih => exact ih.trans (ih.live.writeback writes own)

end Step

/-- The smallest metadata operation is work of a run. -/
theorem MountRun.single {count block : Nat} {commits : List Transaction} {first w : World}
    (run : MountRun count first commits w) (content : Block) (apart : block ≠ 0)
    (outside : ¬ w.sbi.area.Inside block) :
    MountRun count first commits (singleWrite block content w) := by
  have begun := MountRun.work FsWork.start run ⟨trivial, nofun⟩
  have changed := MountRun.work (FsWork.write block content) begun
    ⟨⟨by
      show ¬ (journalV3Begin w).2.sbi.area.Inside block
      rw [journalV3Begin_area]
      exact outside, fun zero => absurd zero apart⟩, by
      intro other same
      cases same
      exact absurd rfl apart⟩
  exact MountRun.work (FsWork.record block) changed ⟨trivial, nofun⟩

/-- `cryexts_set_state`. -/
def setState (setBits clearBits : Nat) (w : World) : World :=
  let state := (w.cache 0).get Super.state ||| setBits
  w.dirtyBuffer 0 (updateSuperChecksum
    ((w.cache 0).set Super.state (state &&& (0xffffffff - clearBits))))

/-- The clean superblock that `cryexts_put_super` writes from version 4 on. -/
def putSuperMark (now : Nat) : Kernel Unit := do
  let w ← Routine.read
  if VERSION_V4 ≤ w.super Super.version then do
    Routine.modify (setState FS_STATE_CLEAN 0)
    Routine.modify fun w => w.dirtyBuffer 0
      (updateSuperChecksum ((w.cache 0).set Super.lastWriteTime now))
    (syncDirtyBuffer 0).ignored
  else return ()

/-- `cryexts_put_super` of a mount for writing, as far as it reaches the device. -/
def putSuper (now : Nat) : Kernel Unit := do
  let w ← Routine.read
  if w.sbi.journalV3 = true ∧ w.sbi.journalRing = true then do
    journalCheckpointSync.ignored
    putSuperMark now
  else putSuperMark now

section Unmount

variable {w first : World} {area : JournalArea} {count : Nat} {commits : List Transaction}

theorem SuperSound.edited {super changed : Block} {sbi : SbInfo}
    (sound : SuperSound super sbi count)
    (rest : EqOutside [Super.state, Super.lastWriteTime, Super.checksum] changed super)
    (mark : recoveryMark changed = recoveryMark super) : SuperSound changed sbi count := by
  have same (field : ByteBuf.Field) (apart : ∀ other,
      other ∈ [Super.state, Super.lastWriteTime, Super.checksum] → field.Apart other) :
      changed.get field = super.get field := rest.get field apart
  constructor
  case paired =>
    have paired := sound.paired
    unfold Paired at paired ⊢
    unfold recoveryMark at mark
    rw [mark, same _ (by decide)]
    exact paired
  case toOfVolume =>
    refine ⟨⟨?_, ?_, ?_, ?_, ?_, ?_, ?_⟩, ?_, ?_⟩
    all_goals rw [same _ (by decide)]
    · exact sound.journalBlock
    · exact sound.journalBlocks
    · exact sound.blocksCount
    · exact sound.enabled
    · exact sound.v2
    · exact sound.v3
    · exact sound.ring
    · exact sound.tableStart
    · exact sound.tableBlocks

/-- `cryexts_journal_checkpoint_sync` is a run of checkpoint steps. -/
theorem MountRun.checkpointLoop {w : World} (ring : w.sbi.journalRing = true)
    (run : MountRun count first commits w) (start : LiveMount first area count) :
    MountRun count first commits (checkpointLoop w).2 := by
  induction w using checkpointLoop.induct with
  | case1 w met =>
      rw [Cryexts.checkpointLoop, if_pos met]
      exact run
  | case2 w apart err after stopped =>
      have step := MountRun.checkpoint run ring
      rw [Cryexts.checkpointLoop, if_neg apart, stopped]
      rw [stopped] at step
      exact step
  | case3 w apart after stepped progress ih =>
      have step := MountRun.checkpoint run ring
      rw [stepped] at step
      have kept := (run.live start).mount
      have kept' := (step.live start).mount
      rw [Cryexts.checkpointLoop, if_neg apart, stepped]
      dsimp only
      rw [if_pos progress]
      exact ih (kept'.ring.trans (kept.ring.symm.trans ring)) step
  | case4 w apart after stepped stuck =>
      have step := MountRun.checkpoint run ring
      rw [stepped] at step
      rw [Cryexts.checkpointLoop, if_neg apart, stepped]
      dsimp only
      rw [if_neg stuck]
      exact step

theorem updateSuperChecksum_edits {super changed : Block}
    (rest : EqOutside [Super.state, Super.lastWriteTime, Super.checksum] changed super) :
    EqOutside [Super.state, Super.lastWriteTime, Super.checksum] (updateSuperChecksum changed)
      super :=
  (updateSuperChecksum_same changed _ (by decide)).trans rest

/-- The unmount marks the superblock clean and leaves its recovery mark. -/
theorem recoveryMark_cleaned (super : Block) : recoveryMark (updateSuperChecksum
    (super.set Super.state ((super.get Super.state ||| FS_STATE_CLEAN) &&& (0xffffffff - 0)))) =
      recoveryMark super := by
  have marked : super.get Super.state ||| FS_STATE_CLEAN < 2 ^ 32 :=
    Nat.or_lt_two_pow (ByteBuf.get_lt super Super.state) (by decide)
  have whole : (super.get Super.state ||| FS_STATE_CLEAN) &&& (0xffffffff - 0) =
      super.get Super.state ||| FS_STATE_CLEAN := by
    show (super.get Super.state ||| FS_STATE_CLEAN) &&& (2 ^ 32 - 1) = _
    rw [Nat.and_two_pow_sub_one_eq_mod, Nat.mod_eq_of_lt marked]
  unfold recoveryMark
  rw [get_updateSuperChecksum _ _ (by decide), ByteBuf.get_set_same _ _ _ (by decide), whole,
    Nat.mod_eq_of_lt (show _ < 256 ^ Super.state.width from marked), Nat.and_or_distrib_right]
  exact Nat.or_zero _

theorem recoveryMark_stamped (super : Block) (now : Nat) :
    recoveryMark (updateSuperChecksum (super.set Super.lastWriteTime now)) =
      recoveryMark super := by
  unfold recoveryMark
  rw [get_updateSuperChecksum _ _ (by decide), ByteBuf.get_set_apart _ _ _ _ (by decide)]

theorem SuperSound.cleaned {super : Block} {sbi : SbInfo} (sound : SuperSound super sbi count) :
    SuperSound (updateSuperChecksum (super.set Super.state
      ((super.get Super.state ||| FS_STATE_CLEAN) &&& (0xffffffff - 0)))) sbi count :=
  sound.edited (updateSuperChecksum_edits ((EqOutside.refl _ _).set _ _ (by decide)))
    (recoveryMark_cleaned super)

theorem SuperSound.stamped {super : Block} {sbi : SbInfo} (sound : SuperSound super sbi count)
    (now : Nat) :
    SuperSound (updateSuperChecksum (super.set Super.lastWriteTime now)) sbi count :=
  sound.edited (updateSuperChecksum_edits ((EqOutside.refl _ _).set _ _ (by decide)))
    (recoveryMark_stamped super now)

theorem MountRun.journalCheckpointSync (run : MountRun count first commits w)
    (start : LiveMount first area count) :
    MountRun count first commits (journalCheckpointSync w).2 := by
  unfold Cryexts.journalCheckpointSync
  split
  · exact run
  · next ring =>
      have ring : w.sbi.journalRing = true := by simp_all
      exact MountRun.checkpointLoop ring run start

/-- A superblock buffer changed in place. -/
theorem MountRun.super (run : MountRun count first commits w) (start : LiveMount first area count)
    (content : Block) (sound : SuperSound (w.cache 0) w.sbi count → SuperSound content w.sbi count)
    (mark : recoveryMark content = recoveryMark (w.cache 0)) :
    MountRun count first commits (w.dirtyBuffer 0 content) := by
  have live := (run.live start).live
  have positive := live.mode.first
  apply MountRun.work (FsWork.write 0 content) run
  refine ⟨⟨?_, fun _ => (sound live.super).toDescribes⟩, ?_⟩
  · unfold JournalArea.Inside
    omega
  · intro other same
    cases same
    exact ⟨sound, mark⟩

/-- The superblock buffer written out. -/
theorem MountRun.synced (run : MountRun count first commits w)
    (start : LiveMount first area count) :
    MountRun count first commits (syncDirtyBuffer 0 w).2 := by
  have mode := (run.live start).live.mode
  have positive := mode.first
  rw [syncDirtyBuffer_run mode.healthy 0]
  dsimp only
  split
  · apply MountRun.writeback run [(0, w.cache 0)]
    intro write member
    rw [List.mem_singleton.mp member]
    refine ⟨rfl, ?_⟩
    unfold JournalArea.Inside
    omega
  · exact run

theorem MountRun.putSuperMark (run : MountRun count first commits w)
    (start : LiveMount first area count) (now : Nat) :
    MountRun count first commits (putSuperMark now w).2 := by
  unfold Cryexts.putSuperMark
  rw [Routine.read_bind]
  split
  · rw [Routine.modify_bind, Routine.modify_bind]
    have marked := MountRun.super run start _ SuperSound.cleaned (recoveryMark_cleaned _)
    have stamped := MountRun.super marked start _ (fun sound => sound.stamped now)
      (recoveryMark_stamped _ now)
    exact MountRun.synced stamped start
  · exact run

/-- The unmount is a run of the mount. -/
theorem MountRun.putSuper (run : MountRun count first commits w)
    (start : LiveMount first area count) (now : Nat) :
    MountRun count first commits (putSuper now w).2 := by
  unfold Cryexts.putSuper
  rw [Routine.read_bind]
  split
  · rw [Routine.ignored_bind]
    exact (run.journalCheckpointSync start).putSuperMark start now
  · exact run.putSuperMark start now

end Unmount

/-- The states of a device between mounts: freshly formatted, at a crash point of a replay, at a
crash point of a mount, and unmounted. Whatever superblock a replay writes home goes on describing
the volume. -/
inductive Reached (size : Nat) : (Nat → Block) → Prop
  | formatted (identity : Block) {options : MkfsOptions} {g : MkfsGeometry} {deviceSize : Nat}
      (now : Nat) (others : Nat → Block) (accepted : mkfsGeometry options deviceSize = some g)
      (v3 : options.useJournalV3 = true) (wide : deviceSize < 2 ^ 63)
      (whole : g.blocksCount = size) : Reached size (mkfsImage identity options g now others)
  | replay {image : Nat → Block} (before : Reached size image) (written : Nat)
      (volume : OfVolume ((journalV3Replay (mounting image size)).2.crashAt written 0)
        (loadSuper image) ((image 0).get Super.blocksCount)) :
      Reached size ((journalV3Replay (mounting image size)).2.crashAt written)
  | crash {image : Nat → Block} {first w : World} {commits : List Transaction}
      (before : Reached size image)
      (mounted : journalV3Replay (mounting image size) = (.ok (), first))
      (volume : OfVolume (first.disk 0) (loadSuper image) ((image 0).get Super.blocksCount))
      (run : MountRun ((image 0).get Super.blocksCount) first commits w) (written : Nat)
      (since : first.log.length ≤ written) : Reached size (w.crashAt written)
  | unmounted {image : Nat → Block} {first w : World} {commits : List Transaction}
      (before : Reached size image)
      (mounted : journalV3Replay (mounting image size) = (.ok (), first))
      (volume : OfVolume (first.disk 0) (loadSuper image) ((image 0).get Super.blocksCount))
      (run : MountRun ((image 0).get Super.blocksCount) first commits w) (now : Nat) :
      Reached size (putSuper now w).2.disk

/-- What holds of a device between mounts. -/
structure VolumeSettled (image : Nat → Block) (size : Nat) : Prop where
  layout : JournalLayout image size
  bytes : size * BLOCK_SIZE < 2 ^ 63
  settled : Settled (loadSuper image).area image

section Reached

variable {image : Nat → Block} {size : Nat} (volume : VolumeSettled image size)
include volume

/-- Another state of the same volume. -/
theorem VolumeSettled.of_volume {other : Nat → Block}
    (same : OfVolume (other 0) (loadSuper image) ((image 0).get Super.blocksCount))
    (settled : Settled (loadSuper image).area other) : VolumeSettled other size := by
  refine ⟨volume.layout.of_volume same, volume.bytes, ?_⟩
  rw [(same.mount rfl).area]
  exact settled

/-- A successful replay leaves a live mount. -/
theorem VolumeSettled.live {first : World}
    (mounted : journalV3Replay (mounting image size) = (.ok (), first))
    (same : OfVolume (first.disk 0) (loadSuper image) ((image 0).get Super.blocksCount)) :
    LiveMount first (loadSuper image).area ((image 0).get Super.blocksCount) ∧
      SameMount first.sbi (loadSuper image) ∧
      SuperSound (first.disk 0) (loadSuper image) ((image 0).get Super.blocksCount) := by
  have start (replayed : Replayed image first)
      (journal : FixedInv first (loadSuper image).area ((image 0).get Super.blocksCount) ∨
        ∃ home, RingInv first (loadSuper image).area ((image 0).get Super.blocksCount) [] home) :
      LiveMount first (loadSuper image).area ((image 0).get Super.blocksCount) ∧
        SameMount first.sbi (loadSuper image) ∧
        SuperSound (first.disk 0) (loadSuper image) ((image 0).get Super.blocksCount) := by
    have sound : SuperSound (first.disk 0) (loadSuper image) ((image 0).get Super.blocksCount) :=
      ⟨same, replayed.paired volume.settled⟩
    refine ⟨⟨?_, ?_⟩, replayed.mount, sound⟩
    · rw [replayed.buffers]
      exact sound.of_same replayed.mount
    · rcases journal with fixed | ⟨home, ring⟩
      · exact Or.inl fixed
      · exact Or.inr ⟨[], home, ring, by simp⟩
  cases ring : (loadSuper image).journalRing with
  | true =>
      obtain ⟨live, replayed⟩ := volume.layout.ring_live ring mounted same.toDescribes
      exact start replayed (Or.inr ⟨_, live.inv⟩)
  | false =>
      obtain ⟨live, replayed⟩ := volume.layout.fixed_live ring mounted same.toDescribes
      exact start replayed (Or.inl live)

/-- Every superblock at a crash point of a mount is sound. -/
theorem VolumeSettled.sound {first w : World} {commits : List Transaction}
    (mounted : journalV3Replay (mounting image size) = (.ok (), first))
    (same : OfVolume (first.disk 0) (loadSuper image) ((image 0).get Super.blocksCount))
    (run : MountRun ((image 0).get Super.blocksCount) first commits w) (written : Nat)
    (since : first.log.length ≤ written) :
    SuperSound (w.crashAt written 0) (loadSuper image) ((image 0).get Super.blocksCount) := by
  obtain ⟨live, mount, sound⟩ := volume.live mounted same
  have keeps := (run.live live).keeps
  exact (keeps.crash (sound.of_same mount) written since).of_same mount.symm

theorem VolumeSettled.run {first w : World} {commits : List Transaction}
    (mounted : journalV3Replay (mounting image size) = (.ok (), first))
    (same : OfVolume (first.disk 0) (loadSuper image) ((image 0).get Super.blocksCount))
    (run : MountRun ((image 0).get Super.blocksCount) first commits w) (written : Nat)
    (since : first.log.length ≤ written) : VolumeSettled (w.crashAt written) size := by
  have sound := volume.sound mounted same run written since
  exact volume.of_volume sound.toOfVolume (Or.inr sound.paired)

/-- The device a mount has come to. -/
theorem VolumeSettled.soundNow {first w : World} {commits : List Transaction}
    (mounted : journalV3Replay (mounting image size) = (.ok (), first))
    (same : OfVolume (first.disk 0) (loadSuper image) ((image 0).get Super.blocksCount))
    (run : MountRun ((image 0).get Super.blocksCount) first commits w) :
    SuperSound (w.disk 0) (loadSuper image) ((image 0).get Super.blocksCount) := by
  obtain ⟨live, _⟩ := volume.live mounted same
  obtain ⟨writes, log, _⟩ := (run.live live).keeps.log
  have since : first.log.length ≤ w.log.length := by
    rw [log, List.length_append]
    omega
  have sound := volume.sound mounted same run _ since
  rw [World.crashAt, List.take_length] at sound
  exact sound

end Reached

/-- Over an idle journal of a device between mounts the superblock's marks say the same. -/
theorem Reached.settled {size : Nat} {image : Nat → Block} (reached : Reached size image) :
    VolumeSettled image size := by
  induction reached with
  | formatted identity now others accepted v3 wide whole =>
      subst whole
      have blocks := (mkfsGeometry_journal accepted v3).1
      refine ⟨mkfsImage_journalLayout identity now others accepted v3
        (lt_trans wide (by decide)), ?_, Or.inr ?_⟩
      · rw [blocks]
        exact lt_of_le_of_lt (Nat.div_mul_le_self _ _) wide
      rw [Paired, mkfsImage_state identity now others accepted v3,
        mkfsImage_incompat identity now others accepted v3]
      apply iff_of_true (by decide)
      simpa only [bne_eq_false_iff_eq] using (mkfsFeaturesIncompat_absent _).1
  | replay before written same ih =>
      exact ih.of_volume same (ih.layout.replay_settled.crash ih.settled written (Nat.zero_le _))
  | crash before mounted same run written since ih => exact ih.run mounted same run written since
  | @unmounted image first w commits before mounted same run now ih =>
      obtain ⟨live, _⟩ := ih.live mounted same
      have sound := ih.soundNow mounted same (run.putSuper live now)
      exact ih.of_volume sound.toOfVolume (Or.inr sound.paired)

end Cryexts
