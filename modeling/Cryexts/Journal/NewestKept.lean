import Cryexts.Journal.Newest

set_option autoImplicit false

namespace Cryexts

open WriteLog (store applyWrites)

/-- The home blocks a checkpoint step leaves in the buffers. -/
theorem RingInv.checkpoint_agrees {w : World} {area : JournalArea} {count : Nat}
    {t : Transaction} {ts : List Transaction} {home : Nat → Block}
    (inv : RingInv w area count (t :: ts) home) (block : Nat) (outside : ¬ area.Inside block) :
    Agrees block ((journalV3CheckpointOne w).2.cache block) (applyWrites w.cache t.images block) := by
  have cache : (journalV3CheckpointOne w).2.cache = applyWrites w.cache (checkpointAll w t) := by
    rw [inv.checkpoint_world]
    exact World.writtenAll_cache _ _
  rw [cache, Agrees]
  split
  · next zero =>
      rw [zero]
      exact inv.checkpointAll_super
  · next apart => exact inv.checkpointAll_other block apart outside w.cache

/-- `cryexts_journal_checkpoint_sync` empties the ring, and the buffers then hold what it held
over what they held. -/
theorem RingInv.emptied {w : World} {area : JournalArea} {count : Nat}
    {pending : List Transaction} {home : Nat → Block} (inv : RingInv w area count pending home) :
    ∃ after, journalCheckpointSync w = (.ok (), after) ∧ RingInv after area count [] home ∧
      after.sbi.journalRingHead = w.sbi.journalRingHead ∧ ∀ block, ¬ area.Inside block →
        Agrees block (after.cache block) (applyWrites w.cache (imagesOf pending) block) := by
  have entered : ∀ {v : World} {ts : List Transaction}, RingInv v area count ts home →
      journalCheckpointSync v = checkpointLoop v := by
    intro v ts here
    rw [journalCheckpointSync, if_neg]
    simp [here.mode.enabled, here.mode.v3, here.ring]
  induction pending generalizing w with
  | nil =>
      refine ⟨w, ?_, inv, rfl, fun block _ => Agrees.refl _ _⟩
      have meet : w.sbi.journalRingTail = w.sbi.journalRingHead := inv.chain
      rw [entered inv, checkpointLoop, if_pos meet]
  | cons t ts ih =>
      obtain ⟨result, _, _, next⟩ := inv.checkpointStep
      obtain ⟨after, run, empty, head, cells⟩ := ih next
      refine ⟨after, ?_, empty, ?_, ?_⟩
      · have apart : w.sbi.journalRingTail ≠ w.sbi.journalRingHead := by
          have chain := inv.chain
          rw [spans_cons] at chain
          exact chain.tail_ne
        have sequence : (journalV3CheckpointOne w).2.sbi.journalCheckpointSequence =
            t.sequence := by
          rw [inv.checkpoint_world]
          rfl
        have step : journalV3CheckpointOne w = (.ok (), (journalV3CheckpointOne w).2) :=
          Prod.ext result rfl
        have later := inv.held.ascending.1
        have small := (inv.held.valid t List.mem_cons_self).bounded
        rw [entered inv, checkpointLoop, if_neg apart, step]
        dsimp only
        rw [sequence, if_pos ⟨later, small⟩, ← entered next]
        exact run
      · rw [head, inv.checkpoint_world]
        rfl
      · intro block outside
        rw [imagesOf_cons, WriteLog.applyWrites_append]
        exact (cells block outside).trans ((inv.checkpoint_agrees block outside).applyWrites _)

/-- Whatever the order of transactions, slot writes and checkpoints, as long as no slot is
written over a different image still in the ring: a drained ring shows every home block as it
was written last, and replay after a crash restores what a flush or a commit has settled. -/
theorem newest_kept (first w : World) (area : JournalArea) (count : Nat) (ledger : Ledger)
    (mounted : RingMounted first area count) (clean : CleanBuffers first area)
    (run : UpdateRun count first w ledger) :
    (w.sbi.journalActiveSequence = 0 → ∃ after, journalCheckpointSync w = (.ok (), after) ∧
      SameHome area after.live ledger.newest) ∧
    ∀ block since content, HomeBlock w area block → ledger.settled block = some (since, content) →
      ∀ written, since ≤ written → written ≤ w.log.length →
        ∃ after, journalV3ReplayRing (mounting (w.crashAt written) w.size) = (.ok (), after) ∧
          Agrees block (after.disk block) content := by
  have inv := run.inv mounted clean
  obtain ⟨home, ring⟩ := inv.ring
  constructor
  · intro closed
    obtain ⟨after, drained, empty, _, cells⟩ := ring.emptied
    refine ⟨after, drained, ?_⟩
    have positive := ring.mode.first
    rw [ring.ready.sameArea] at positive
    rw [empty.ready.healthy.live]
    apply SameHome.of_agrees positive
    intro block outside
    exact (cells block outside).trans (inv.closed closed block outside)
  · intro block since content here settled written early late
    have begun := (inv.settled block since content here settled).1
    obtain ⟨expected, image, owes⟩ := inv.restores block since content here settled written early late
    obtain ⟨after, replayed, recovered⟩ := replayRing_recovers
      (ringMount_of_describes ring (inv.device written (begun.trans early) late)) _ image
    exact ⟨after, replayed, (recovered.home.agrees block here.2).trans owes⟩

private theorem foldl_store_at (content : Nat → Block) (start count index : Nat)
    (cache : Nat → Block) (before : index < count) :
    (List.range count).foldl (fun cache index => store cache (start + index) (content index)) cache
      (start + index) = content index := by
  induction count with
  | zero => cases before
  | succ count ih =>
      rw [List.range_succ, List.foldl_append]
      simp only [List.foldl_cons, List.foldl_nil]
      by_cases last : index = count
      · rw [last, WriteLog.store_same]
      · rw [WriteLog.store_other _ _ _ _ (by omega)]
        exact ih (by omega)

/-- A group descriptor table as it was loaded is refreshed to what was loaded. -/
theorem gdtPrepareWrite_loaded {w : World} {super : Block} {cells : Nat → Block}
    (storage : w.sbi.gdtStorage = loadGroupDescTable super cells)
    (plain : metadataCsumEnabled (w.cache 0) = false) (version : VERSION_V4 ≤ super.get Super.version)
    (start : w.sbi.groupDescTableStart = super.get Super.groupDescTableStart)
    (blocks : w.sbi.groupDescTableBlocks = super.get Super.groupDescTableBlocks) (block : Nat)
    (member : block ∈ w.sbi.tableBlocks) : (gdtPrepareWrite w).cache block = cells block := by
  obtain ⟨index, inside, rfl⟩ := List.mem_map.mp member
  have before := List.mem_range.mp inside
  unfold gdtPrepareWrite copyGdtToBlocks updateGroupChecksums
  rw [plain, if_neg Bool.false_ne_true]
  change (List.range w.sbi.groupDescTableBlocks).foldl (fun cache index =>
    store cache (w.sbi.groupDescTableStart + index) (gdtBlock w.sbi.gdtStorage index)) w.cache
      (w.sbi.groupDescTableStart + index) = _
  rw [foldl_store_at _ _ _ _ _ before, storage, start]
  apply ByteBuf.ext
  intro offset small
  have positive : 0 < BLOCK_SIZE := by decide
  rw [gdtBlock, ByteBuf.byte_ofBytes _ _ small, loadGroupDescTable, if_neg (by omega),
    Nat.mul_add_div positive, Nat.mul_add_mod, Nat.div_eq_of_lt small, Nat.mod_eq_of_lt small,
    Nat.add_zero, if_pos (by omega)]

/-- Refreshing the group descriptor table of a fresh mount changes no buffer. -/
theorem gdtPrepareWrite_fresh {image : Nat → Block} {last head : Nat}
    (version : VERSION_V5 ≤ (image 0).get Super.version)
    (plain : metadataCsumEnabled (image 0) = false) (w : World)
    (sbi : w.sbi = cleanSbi (loadSuper image) last head) (super : w.cache 0 = image 0)
    (block : Nat) (member : block ∈ w.sbi.tableBlocks) :
    (gdtPrepareWrite w).cache block = image block := by
  have storage : w.sbi.gdtStorage = loadGroupDescTable (image 0) image := by rw [sbi]; rfl
  have start : w.sbi.groupDescTableStart = (image 0).get Super.groupDescTableStart := by
    rw [sbi]
    rfl
  have blocks : w.sbi.groupDescTableBlocks = (image 0).get Super.groupDescTableBlocks := by
    rw [sbi]
    rfl
  rw [← super] at plain
  exact gdtPrepareWrite_loaded storage plain (le_trans (by decide) version) start blocks block member

section Slot

variable {first : World} {area : JournalArea} {count block : Nat}
variable (mounted : RingMounted first area count) (single : SingleReady first count block)
variable (content : Block)
include mounted

/-- A slot written outside a transaction is recorded nowhere. -/
theorem RingMounted.slot : journalRecordBh block (first.dirtyBuffer block content) =
    first.dirtyBuffer block content := by
  have mode := mounted.mode
  rcases journalRecordBh_cases block (first.dirtyBuffer block content) mode.enabled mode.v3
    mode.live with ⟨same, _⟩ | ⟨_, opened, _⟩ | ⟨opened, _⟩
  · exact same
  · exact absurd mounted.closed opened
  · exact absurd mounted.closed opened

include single

/-- The writes of `cryexts_fsync` in a fresh mount. -/
theorem SingleReady.synced (clean : CleanBuffers first area)
    (table : ∀ other, other ∈ first.sbi.tableBlocks →
      (gdtPrepareWrite (first.dirtyBuffer block content)).cache other = first.cache other) :
    ∃ w ledger, UpdateRun count first w ledger ∧ w.sbi.journalActiveSequence = 0 ∧
      w.size = first.size ∧ ledger.settled block = some (w.log.length, content) := by
  have start : UpdateRun count first first ⟨first.cache, [], fun _ => none⟩ := UpdateRun.mounted
  have sound : (FsWork.write block content).Sound first count :=
    ⟨single.outside, fun zero => absurd zero single.apart⟩
  have written := UpdateRun.updated block content start sound
    (fun _ image member => by simp at member)
  rw [mounted.slot content] at written
  obtain ⟨home, ring⟩ := (written.inv mounted clean).ring
  have worked := metadataPrepared_worked ring.mode
  obtain ⟨writes, run, _⟩ := syncMetadata_run ring.mode.healthy
  have flushed := UpdateRun.synced written mounted.closed (by
    intro other member
    have apart : other ≠ block := by
      obtain ⟨index, inside, rfl⟩ := List.mem_map.mp member
      exact (single.table index (List.mem_range.mp inside)).symm
    rw [table other member]
    exact (WriteLog.store_other _ _ _ _ apart).symm)
  refine ⟨_, _, flushed, ?_, ?_, ?_⟩
  · rw [run]
    dsimp only
    rw [World.writtenAll_sbi, worked.active]
    exact mounted.closed
  · rw [run]
    dsimp only
    rw [World.writtenAll_size, worked.toQuiet.size]
    rfl
  · change some (_, store first.cache block content block) = _
    rw [WriteLog.store_same]

end Slot

theorem smallMount_fresh : CleanBuffers smallMount ⟨4102, 9⟩ := fun _ _ _ _ => rfl

theorem smallMount_table (other : Nat) (member : other ∈ smallMount.sbi.tableBlocks) :
    (gdtPrepareWrite (smallMount.dirtyBuffer 4 sampleContent)).cache other =
      smallMount.cache other := by
  have image : smallMount.cache = mkfsImage (ByteBuf.zero BLOCK_SIZE) smallRing smallGeometry 0
      fun _ => ByteBuf.zero BLOCK_SIZE := rfl
  have sbi : smallMount.sbi = cleanSbi (loadSuper smallMount.cache) 0 4103 := rfl
  obtain ⟨version, plain⟩ := mkfsImage_plain (ByteBuf.zero BLOCK_SIZE) 0
    (fun _ => ByteBuf.zero BLOCK_SIZE) smallGeometry_accepted rfl rfl
  rw [← image] at version plain
  generalize smallMount = first at *
  have super : (first.dirtyBuffer 4 sampleContent).cache 0 = first.cache 0 :=
    WriteLog.store_other first.cache 4 0 sampleContent (by decide)
  exact gdtPrepareWrite_fresh version plain (first.dirtyBuffer 4 sampleContent) sbi super other
    member

/-- The theorem at a fresh volume whose slot in block 4 was written by `cryexts_fsync`. -/
theorem newest_kept_small : ∃ w ledger, UpdateRun 4111 smallMount w ledger ∧
    ledger.settled 4 = some (w.log.length, sampleContent) ∧
    (∃ after, journalCheckpointSync w = (.ok (), after) ∧
      SameHome ⟨4102, 9⟩ after.live ledger.newest) ∧
    ∃ after, journalV3ReplayRing (mounting (w.crashAt w.log.length) w.size) = (.ok (), after) ∧
      Agrees 4 (after.disk 4) sampleContent := by
  obtain ⟨w, ledger, run, closed, size, settled⟩ :=
    (smallMount_single 4 (by decide)).synced smallMount_mounted sampleContent smallMount_fresh
      smallMount_table
  obtain ⟨drained, restored⟩ :=
    newest_kept smallMount w _ 4111 ledger smallMount_mounted smallMount_fresh run
  refine ⟨w, ledger, run, settled, drained closed,
    restored 4 _ _ ⟨?_, by decide⟩ settled _ (Nat.le_refl _) (Nat.le_refl _)⟩
  rw [size]
  exact lt_of_lt_of_le (by decide) smallMount_mounted.ready.homes

/-- `cryexts_sync_metadata` leaves the ring and what it holds. -/
theorem RingInv.synced {w : World} {area : JournalArea} {count : Nat}
    {pending : List Transaction} {home : Nat → Block} (inv : RingInv w area count pending home) :
    ∃ after, syncMetadata w = (.ok (), after) ∧ after.size = w.size ∧
      after.cache = (metadataPrepared w).cache ∧
      RingInv after area count pending (applyWrites after.disk (imagesOf pending)) := by
  have worked := metadataPrepared_worked inv.mode
  obtain ⟨writes, run, own, _⟩ := syncMetadata_run inv.mode.healthy
  have prepared : RingInv (metadataPrepared w) area count pending home := by
    apply inv.quiet worked.toQuiet ((metadataPrepared_super inv.mode).describes inv.describes)
    · exact inv.records.of_same worked.area (metadataPrepared_cells w).1
    · rw [worked.active]
      exact inv.opened
    · rw [worked.active]
      exact inv.small
  refine ⟨_, run, ?_, ?_, ?_⟩
  · rw [World.writtenAll_size, worked.toQuiet.size]
  · rw [World.writtenAll_cache]
    exact WriteLog.applyWrites_own _ _ own
  · rw [World.writtenAll_disk]
    apply prepared.writtenAll
    · intro write member inside
      rw [own write member, prepared.journal _ inside]
    · intro write member zero
      rw [own write member, zero]
      exact prepared.describes

/-- A slot in block 4 is written and flushed by `cryexts_fsync` while a commit that recorded the
block is still in the ring. Draining the ring, or replaying it after a crash, puts the older
image back. -/
theorem newest_lost : ∃ (w : World) (history : List (Transaction × Nat))
    (after drained recovered : World), RingRun CommitRoom 4111 smallMount w history ∧
      history.map Prod.fst = [committing (singleWrite 4 sampleContent smallMount)] ∧
      w.sbi.journalActiveSequence = 0 ∧
      syncMetadata (journalRecordBh 4 (w.dirtyBuffer 4 (ByteBuf.zero BLOCK_SIZE))) =
        (.ok (), after) ∧
      journalCheckpointSync after = (.ok (), drained) ∧
      drained.live 4 ≠ ByteBuf.zero BLOCK_SIZE ∧
      journalV3ReplayRing (mounting (after.crashAt after.log.length) after.size) =
        (.ok (), recovered) ∧
      recovered.disk 4 ≠ ByteBuf.zero BLOCK_SIZE := by
  obtain ⟨w, history, home, run, sole, inv, _, closed⟩ := smallMount_pending 4 (by decide)
  have outside : ¬ (⟨4102, 9⟩ : JournalArea).Inside 4 := by decide
  have images : ∀ cells : Nat → Block, applyWrites cells (imagesOf
      [committing (singleWrite 4 sampleContent smallMount)]) 4 = sampleContent := by
    intro cells
    rw [imagesOf_cons, imagesOf_nil, List.append_nil,
      (smallMount_single 4 (by decide)).committing_images, WriteLog.applyWrites_cons, WriteLog.applyWrites_cons, WriteLog.applyWrites_nil,
      WriteLog.store_other _ _ _ _ (by decide), WriteLog.store_same]
  have changed := (inv.work (.write 4 (ByteBuf.zero BLOCK_SIZE))
    ⟨by rw [inv.ready.sameArea]; exact outside, fun zero => absurd zero (by decide)⟩).2
  have slot := (changed.work (.record 4) trivial).2
  obtain ⟨after, synced, size, _, ring⟩ := slot.synced
  obtain ⟨drained, empty, kept, _, cells⟩ := ring.emptied
  have whole : after.crashAt after.log.length = after.disk := by
    rw [World.crashAt, List.take_length]
    rfl
  obtain ⟨recovered, replayed, restored⟩ :=
    replayRing_recovers (ringMount_of_describes ring ring.device) _
      (ring.image after.disk rfl ring.held (SameHome.refl _))
  refine ⟨w, history, after, drained, recovered, run, sole, closed, synced, empty, ?_, ?_, ?_⟩
  · have shown := cells 4 outside
    rw [Agrees, if_neg (by decide), images] at shown
    rw [kept.ready.healthy.live, shown]
    exact sampleContent_written
  · rw [whole]
    exact replayed
  · rw [restored.home.blocks 4 (by decide) outside, images]
    exact sampleContent_written

end Cryexts
