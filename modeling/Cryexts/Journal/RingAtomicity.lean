import Cryexts.Journal.RingFill
import Cryexts.Mkfs

set_option autoImplicit false

namespace Cryexts

open WriteLog (store applyWrites)

/-- Everything a crash owes is back: the home blocks, and in the superblock the allocation
cursors with the rest of what recovery does not keep its own books in. -/
structure Restored (area : JournalArea) (device expected : Nat → Block) : Prop where
  home : SameHome area device expected
  cursors : superCursors (device 0) = superCursors (expected 0)

/-- A crash at any point of a run whose commits all find their room is recovered by the ring
replay to the checkpointed and the durable transactions, in order. The superblock's two
allocation cursors are what the crashed device had. -/
theorem ringCommit_crash_atomic {first w : World} {area : JournalArea} {count : Nat}
    {history : List (Transaction × Nat)} (mounted : RingMounted first area count)
    (run : RingRun CommitRoom count first w history) (written : Nat)
    (since : first.log.length ≤ written) (until_ : written ≤ w.log.length) :
    ∃ after, journalV3ReplayRing (mounting (w.crashAt written) w.size) = (.ok (), after) ∧
      SameHome area after.disk (owed first history written) ∧
      (Restored area after.disk (owed first history written) ↔
        superCursors (w.crashAt written 0) = superCursors (owed first history written 0)) := by
  obtain ⟨after, replayed, recovered⟩ := ringRun_recovers mounted run written since until_
  have kept : superCursors (after.disk 0) = superCursors (w.crashAt written 0) :=
    Prod.ext recovered.nextIno recovered.nextDataBlock
  refine ⟨after, replayed, recovered.home, ?_, ?_⟩
  · intro restored
    rw [← kept]
    exact restored.cursors
  · intro same
    exact ⟨recovered.home, kept.trans same⟩

theorem journalV3Begin_area (w : World) : (journalV3Begin w).2.sbi.area = w.sbi.area := by
  unfold journalV3Begin
  rw [Routine.read_bind]
  repeat' split
  all_goals rfl

/-- The three steps of the smallest operation belong to any run. -/
theorem RingRun.single {allowed : World → Prop} {count block : Nat} {first w : World}
    {history : List (Transaction × Nat)} (run : RingRun allowed count first w history)
    (content : Block) (apart : block ≠ 0) (outside : ¬ w.sbi.area.Inside block) :
    RingRun allowed count first (singleWrite block content w) history := by
  have begun := RingRun.work FsWork.start run trivial
  have changed := RingRun.work (FsWork.write block content) begun
    ⟨by
      change ¬ (journalV3Begin w).2.sbi.area.Inside block
      rw [journalV3Begin_area]
      exact outside, fun zero => absurd zero apart⟩
  exact RingRun.work (FsWork.record block) changed trivial

/-- What the smallest operation writes in the examples. -/
def sampleContent : Block := (ByteBuf.zero BLOCK_SIZE).set ⟨0, 4⟩ 1

theorem sampleContent_written : sampleContent ≠ ByteBuf.zero BLOCK_SIZE := by
  intro same
  have read := congrArg (ByteBuf.get · ⟨0, 4⟩) same
  simp only [sampleContent, ByteBuf.get_zero] at read
  rw [ByteBuf.get_set_same _ _ _ (by decide)] at read
  exact absurd read (by decide)

/-- A block of the first group behind the descriptor table: bitmaps, inode table, root directory. -/
theorem smallMount_single (block : Nat) (placed : 2 ≤ block ∧ block < 4102) :
    SingleReady smallMount 4111 block := by
  have mounted := smallMount_mounted
  have area := mounted.ready.sameArea
  have table := mkfsImage_table (ByteBuf.zero BLOCK_SIZE) 0 (fun _ => ByteBuf.zero BLOCK_SIZE)
    smallGeometry_accepted rfl (by decide)
  refine ⟨mounted.mode, rfl, by decide, ?_, mounted.describes, by omega, by omega, ?_, ?_⟩
  · rw [area]
    decide
  · rw [area]
    simp only [JournalArea.Inside]
    omega
  · intro index before
    change index < (mkfsImage _ _ _ _ _ 0).get Super.groupDescTableBlocks at before
    change block ≠ (mkfsImage _ _ _ _ _ 0).get Super.groupDescTableStart + index
    rw [table.2] at before
    rw [table.1]
    simp only [smallGeometry, GDT_START_BLOCK] at before ⊢
    omega

/-- The first commit of the examples finds its room. -/
theorem smallMount_room (block : Nat) (placed : 2 ≤ block ∧ block < 4102) :
    CommitRoom (singleWrite block sampleContent smallMount) := by
  have inv := smallMount_mounted.inv
  have blank : mkfsImage (ByteBuf.zero BLOCK_SIZE) smallRing smallGeometry 0
      (fun _ => ByteBuf.zero BLOCK_SIZE) (4102 + 4) = ByteBuf.zero BLOCK_SIZE :=
    @mkfsImage_blank _ smallRing smallGeometry 0 _ 4 (by decide) (by decide)
  apply inv.single_room (smallMount_single block placed) sampleContent
  · decide
  · exact Nat.le_refl _
  · exact Or.inl rfl
  · change ((mkfsImage (ByteBuf.zero BLOCK_SIZE) smallRing smallGeometry 0
      (fun _ => ByteBuf.zero BLOCK_SIZE)) (4102 + 4)).get _ ≠ _
    rw [blank, ByteBuf.get_zero]
    decide

/-- The ring the first commit leaves. -/
theorem smallMount_commits (block : Nat) (placed : 2 ≤ block ∧ block < 4102) :
    ∃ after, journalV3Commit (singleWrite block sampleContent smallMount) = (.ok (), after) ∧
      SingleReady after 4111 block ∧ after.sbi.journalRingHead = 4107 ∧
      after.sbi.journalRingTail = 4103 ∧ after.disk block = ByteBuf.zero BLOCK_SIZE ∧
      (journalV3Prepare (singleWrite block sampleContent smallMount)).2.log.length + 1 ≤
        after.log.length ∧
      ∃ home, RingInv after ⟨4102, 9⟩ 4111
        [committing (singleWrite block sampleContent smallMount)] home := by
  have head : smallMount.sbi.journalRingHead = 4103 := rfl
  have tail : smallMount.sbi.journalRingTail = 4103 := rfl
  obtain ⟨after, run, ready, next, kept, _, disk, length, inv⟩ :=
    smallMount_mounted.inv.single_commit (smallMount_single block placed) sampleContent (by decide)
      (by rw [head]; decide) (by rw [head, tail]) (smallMount_room block placed)
      (by decide)
  rw [head] at next kept
  rw [tail, if_pos rfl] at kept
  have blank : smallMount.disk block = ByteBuf.zero BLOCK_SIZE :=
    mkfsImage_other (ByteBuf.zero BLOCK_SIZE) 0 (fun _ => ByteBuf.zero BLOCK_SIZE)
      smallGeometry_accepted rfl block (by omega) placed.2
  refine ⟨after, run, ready block (smallMount_single block placed), next, kept, ?_, length, _,
    inv⟩
  rw [disk block (show block ≠ 4102 by omega) (Or.inl (by rw [head]; omega)), blank]

/-- A ring of fifteen blocks, so that three of the smallest transactions fit. -/
def wideGeometry : MkfsGeometry :=
  { smallGeometry with blocksCount := 4118, journalBlocks := 16 }

theorem wideGeometry_accepted :
    mkfsGeometry smallRing (4118 * BLOCK_SIZE) = some wideGeometry := by decide

def wideMount : World :=
  let image := mkfsImage (ByteBuf.zero BLOCK_SIZE) smallRing wideGeometry 0
    fun _ => ByteBuf.zero BLOCK_SIZE
  { mounting image 4118 with sbi := cleanSbi (loadSuper image) 0 4103 }

theorem wideMount_mounted : RingMounted wideMount ⟨4102, 16⟩ 4118 :=
  mkfsImage_mounted _ 0 _ wideGeometry_accepted rfl (by decide) rfl

/-- A run on that volume that has not come round to the start of the ring. -/
structure WideRun (w : World) (history : List (Transaction × Nat)) (pending : List Transaction)
    (tail head : Nat) : Prop where
  run : RingRun CommitRoom 4118 wideMount w history
  inv : ∃ home, RingInv w ⟨4102, 16⟩ 4118 pending home
  ready : ∀ block, 2 ≤ block ∧ block < 4102 → SingleReady w 4118 block
  headAt : w.sbi.journalRingHead = head
  tailAt : w.sbi.journalRingTail = tail
  order : tail ≤ head
  sequence : w.sbi.journalSequence ≤ head
  blank : ∀ block, head < block → block < 4117 → w.disk block = ByteBuf.zero BLOCK_SIZE

theorem wideMount_run : WideRun wideMount [] [] 4103 4103 := by
  have mounted := wideMount_mounted
  have table := mkfsImage_table (ByteBuf.zero BLOCK_SIZE) 0 (fun _ => ByteBuf.zero BLOCK_SIZE)
    wideGeometry_accepted rfl (by decide)
  have area := mounted.ready.sameArea
  constructor
  case run => exact RingRun.mounted
  case inv => exact ⟨_, mounted.inv⟩
  case ready =>
    intro block home
    refine ⟨mounted.mode, rfl, by decide, ?_, mounted.describes, by omega, by omega, ?_, ?_⟩
    · rw [area]
      decide
    · rw [area]
      simp only [JournalArea.Inside]
      omega
    · intro index before
      change index < (mkfsImage _ _ _ _ _ 0).get Super.groupDescTableBlocks at before
      change block ≠ (mkfsImage _ _ _ _ _ 0).get Super.groupDescTableStart + index
      rw [table.2] at before
      rw [table.1]
      simp only [wideGeometry, smallGeometry, GDT_START_BLOCK] at before ⊢
      omega
  case headAt => rfl
  case tailAt => rfl
  case order => exact Nat.le_refl _
  case sequence => exact Nat.zero_le _
  case blank =>
    intro block low high
    have blank := @mkfsImage_blank (ByteBuf.zero BLOCK_SIZE) smallRing wideGeometry 0
      (fun _ => ByteBuf.zero BLOCK_SIZE) (block - 4102) (by omega)
      (by
        change block - 4102 + 1 < 16
        omega)
    have place : wideGeometry.journalBlock + (block - 4102) = block := by
      change 4102 + (block - 4102) = block
      omega
    rw [place] at blank
    exact blank

/-- One more commit of the smallest operation. -/
theorem WideRun.commit {w : World} {history : List (Transaction × Nat)}
    {pending : List Transaction} {tail head : Nat} (wide : WideRun w history pending tail head)
    (block : Nat) (content : Block) (place : 2 ≤ block ∧ block < 4102) (low : 4103 ≤ head)
    (high : head + 4 < 4118) :
    ∃ after point, point ≤ after.log.length ∧ WideRun after
      (history ++ [(committing (singleWrite block content w), point)])
      (pending ++ [committing (singleWrite block content w)]) tail (head + 4) := by
  obtain ⟨home, inv⟩ := wide.inv
  have ready := wide.ready block place
  have here := wide.headAt
  have tailAt := wide.tailAt
  have order := wide.order
  have sequence := wide.sequence
  have stop : (⟨4102, 16⟩ : JournalArea).ringEnd = 4118 := rfl
  have room : CommitRoom (singleWrite block content w) := by
    apply inv.single_room ready content
    · omega
    · omega
    · omega
    · rw [here, wide.blank _ (by omega) (by omega), ByteBuf.get_zero]
      decide
  obtain ⟨after, success, next, moved, kept, counted, disk, length, held⟩ :=
    inv.single_commit ready content (by decide) (by omega) (by omega) room (by omega)
  have opened : (singleWrite block content w).sbi.journalActiveSequence ≠ 0 := by
    rw [ready.run]
    exact Nat.succ_ne_zero _
  have run := RingRun.commit (wide.run.single content ready.apart ready.outside) opened room success
  refine ⟨after, _, length, run, ⟨_, held⟩, ?_, ?_, ?_, ?_, ?_, ?_⟩
  · intro other home
    exact next other (wide.ready other home)
  · rw [moved, here]
    simp only [SegmentRing.wrap, JournalArea.ringStart, stop]
    rw [if_neg (by omega)]
  · rw [kept]
    split <;> omega
  · omega
  · omega
  · intro other above below
    rw [disk other (by change other ≠ 4102; omega) (by omega)]
    exact wide.blank other (by omega) below

/-- A checkpoint of the only transaction in the ring. -/
theorem WideRun.checkpoint {w : World} {history : List (Transaction × Nat)} {t : Transaction}
    {tail head : Nat} (wide : WideRun w history [t] tail head) (low : 4103 ≤ head) :
    WideRun (journalV3CheckpointOne w).2 history [] head head := by
  obtain ⟨home, inv⟩ := wide.inv
  obtain ⟨_, _, _, next⟩ := inv.checkpointStep
  have after : (journalV3CheckpointOne w).2 =
      { w.writtenAll (checkpointAll w t) with sbi := checkpointedSbi w.sbi t } := by
    rw [inv.checkpointRun]
  have headAt : (journalV3CheckpointOne w).2.sbi.journalRingHead = head := by
    rw [after]
    exact wide.headAt
  have drained : (journalV3CheckpointOne w).2.sbi.journalRingTail = head := by
    have chain := next.chain
    rw [headAt] at chain
    exact chain
  refine ⟨RingRun.checkpoint wide.run, ⟨_, next⟩, ?_, headAt, drained, Nat.le_refl _, ?_, ?_⟩
  · intro block home
    have ready := wide.ready block home
    refine ⟨next.mode, ?_, ?_, ?_, next.describes, ready.apart, ready.inside, ?_, ?_⟩
    · rw [after]
      exact ready.closed
    · rw [after]
      exact ready.sequence
    · rw [after]
      exact ready.capacity
    · rw [after]
      exact ready.outside
    · rw [after]
      exact ready.table
  · rw [after]
    exact wide.sequence
  · intro block above below
    have disk : (journalV3CheckpointOne w).2.disk = applyWrites w.disk (checkpointAll w t) := by
      rw [after]
      exact World.writtenAll_disk _ _
    rw [disk, WriteLog.applyWrites_other]
    · exact wide.blank block above below
    · intro write member
      have control : w.sbi.journalBlock = 4102 := congrArg JournalArea.first inv.ready.sameArea
      rcases mem_checkpointAll w t write member with here | image | super
      · omega
      · have outside := ((inv.held.valid t List.mem_cons_self).home write image).2
        simp only [JournalArea.Inside] at outside
        omega
      · omega

private theorem two_points (s t : Transaction) {p q written : Nat} (early : p ≤ written)
    (late : q ≤ written) : ∀ entry, entry ∈ [(s, p)] ++ [(t, q)] → entry.2 ≤ written := by
  intro entry member
  simp only [List.mem_append, List.mem_singleton] at member
  rcases member with rfl | rfl
  · exact early
  · exact late

/-- The theorem behind a commit, its checkpoint and a second commit, crashed at the last write:
the one is home, the other is replayed. -/
theorem ringCommit_crash_atomic_small :
    ∃ (w : World) (history : List (Transaction × Nat)),
    RingRun CommitRoom 4118 wideMount w history ∧ history.length = 2 ∧
    w.sbi.journalRingTail = 4107 ∧ w.sbi.journalRingHead = 4111 ∧
    ∃ after, journalV3ReplayRing (mounting (w.crashAt w.log.length) w.size) = (.ok (), after) ∧
      SameHome ⟨4102, 16⟩ after.disk (owed wideMount history w.log.length) ∧
      (Restored ⟨4102, 16⟩ after.disk (owed wideMount history w.log.length) ↔
        superCursors (w.crashAt w.log.length 0) =
          superCursors (owed wideMount history w.log.length 0)) := by
  obtain ⟨first, early, _, one⟩ :=
    wideMount_run.commit 9 sampleContent (by decide) (by decide) (by decide)
  obtain ⟨last, late, _, two⟩ :=
    (one.checkpoint (by decide)).commit 4 sampleContent (by decide) (by decide) (by decide)
  exact ⟨last, _, two.run, rfl, two.tailAt, two.headAt,
    ringCommit_crash_atomic wideMount_mounted two.run last.log.length (Nat.zero_le _)
      (Nat.le_refl _)⟩

/-- The history of the two commits that fill the ring of the examples. -/
def fullHistory (w : World) : List (Transaction × Nat) :=
  [(committing (singleWrite 8 sampleContent smallMount),
      (journalV3Prepare (singleWrite 8 sampleContent smallMount)).2.log.length + 1)] ++
    [(committing (singleWrite 8 sampleContent w),
      (journalV3Prepare (singleWrite 8 sampleContent w)).2.log.length + 1)]

/-- Two commits fill a ring of eight blocks exactly: both commit records are on the device, and
the recorded head is the recorded tail. -/
theorem smallMount_fills :
    ∃ w final, RingRun (fun _ => True) 4111 smallMount final (fullHistory w) ∧
      (∀ entry, entry ∈ fullHistory w → entry.2 ≤ final.log.length) ∧
      SingleReady w 4111 8 ∧ w.disk 8 = ByteBuf.zero BLOCK_SIZE ∧
      (∃ home, RingInv w ⟨4102, 9⟩ 4111
        [committing (singleWrite 8 sampleContent smallMount)] home) ∧
      final.size = w.size ∧ final.disk 0 = w.disk 0 ∧
      final.sbi.journalCheckpointSequence = w.sbi.journalCheckpointSequence ∧
      final.sbi.area = w.sbi.area ∧
      (∃ last checkpoint head, RingControl ⟨4102, 9⟩ (final.disk 4102)
        JOURNAL_V3_STATE_COMMITTED last 0 checkpoint head head) ∧
      RingImage ⟨4102, 9⟩ 4111 final.disk w.disk := by
  obtain ⟨w, success, ready, head, tail, blank, early, home, inv⟩ :=
    smallMount_commits 8 (by decide)
  have allocated := inv.single_allocation ready sampleContent (by decide)
    (by rw [head]; decide) (by rw [head, tail]; decide)
  have homes := ready.atCommit_homes sampleContent
  have single := inv.single ready sampleContent
  have before := ready.quiet sampleContent
  have quiet := before.trans single.mode.worked.toQuiet
  have ring : (atCommit (singleWrite 8 sampleContent w)).sbi.journalRing = true :=
    quiet.ring.trans inv.ring
  obtain ⟨final, second, mount, size, grown, late, super, checkpoint, control, image⟩ :=
    single.exactFill homes.2 allocated (by rw [ready.run]; rfl) (by
      rw [advanced, SbInfo.takeSegment, if_pos ring, quiet.tail, tail, before.head, head]
      simp [SegmentRing.wrap, JournalArea.ringStart, JournalArea.ringEnd])
  have first : RingRun (fun _ => True) 4111 smallMount (singleWrite 8 sampleContent smallMount) [] :=
    (RingRun.mounted).single sampleContent (smallMount_single 8 (by decide)).apart
      (smallMount_single 8 (by decide)).outside
  have once := RingRun.commit first (by
    rw [(smallMount_single 8 (by decide)).run]
    exact Nat.succ_ne_zero _) trivial success
  have twice := RingRun.commit (once.single sampleContent ready.apart ready.outside) (by
    rw [ready.run]
    exact Nat.succ_ne_zero _) trivial second
  rw [before.log] at grown
  refine ⟨w, final, twice, two_points _ _ (early.trans grown) late, ready, blank, ⟨home, inv⟩,
    size.trans before.size, super.trans (congrFun before.disk 0), ?_, ?_, ?_, ?_⟩
  · exact checkpoint.trans before.checkpoint
  · exact mount.area.trans before.area
  · exact ⟨_, _, control⟩
  · rw [before.disk] at image
    exact image

/-- Two commits fill a ring of eight blocks exactly. Both commit records are on the device, yet
the head has come round onto the tail, and the replay drops both. -/
theorem ringCommit_full_ring_lost :
    ∃ (w : World) (history : List (Transaction × Nat)) (after : World),
    RingRun (fun _ => True) 4111 smallMount w history ∧
      (∀ entry, entry ∈ history → entry.2 ≤ w.log.length) ∧
      journalV3ReplayRing (mounting (w.crashAt w.log.length) w.size) = (.ok (), after) ∧
      owed smallMount history w.log.length 8 = sampleContent ∧
      after.disk 8 ≠ sampleContent := by
  obtain ⟨w, final, run, points, ready, blank, ⟨home, inv⟩, size, super, _, _, _, image⟩ :=
    smallMount_fills
  have whole : final.crashAt final.log.length = final.disk := by
    rw [World.crashAt, List.take_length]
    rfl
  have describes : Describes (final.disk 0) w.sbi 4111 := by
    rw [super]
    exact inv.device
  have mount := ringMount_of_describes inv describes
  obtain ⟨after, replayed, recovered⟩ := replayRing_recovers mount _ image
  refine ⟨final, fullHistory w, after, run, points, ?_, ?_, ?_⟩
  · rw [whole, size]
    exact replayed
  · rw [owed, durable_all _ _ points, fullHistory]
    simp only [List.cons_append, List.nil_append, List.map_cons, List.map_nil, imagesOf,
      List.flatMap_cons, List.flatMap_nil, List.append_nil,
      (smallMount_single 8 (by decide)).committing_images, ready.committing_images,
      WriteLog.applyWrites_cons, WriteLog.applyWrites_nil]
    rw [WriteLog.store_other _ _ _ _ (by decide), WriteLog.store_same]
  · rw [recovered.home.blocks 8 (by decide) (by decide), blank]
    exact sampleContent_written.symm

end Cryexts
