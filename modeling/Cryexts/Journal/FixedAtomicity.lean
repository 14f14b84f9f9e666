import Cryexts.Journal.FixedCrash

set_option autoImplicit false

namespace Cryexts

open WriteLog (store applyWrites)

/-- The home blocks a commit in the fixed layout owes: all of them in their old content, or all
in the new one, and that one from the commit record on. -/
def FixedCommitAtomic (w : World) (area : JournalArea) (written : Nat) : Prop :=
  ∃ after, journalV3Replay (mounting ((journalV3Commit w).2.crashAt (w.log.length + written))
      w.size) = (.ok (), after) ∧
    (Restored area after.disk (applyWrites w.disk (committing w).images) ∨
      written < (committing w).images.length + 3 ∧ Restored area after.disk w.disk)

/-- The crash points from which the recovery of a fixed journal is right. -/
def FixedCrashSafe (w : World) (area : JournalArea) (written : Nat) : Prop :=
  let images := (committing w).images
  written ≤ images.length ∨
    images.length = area.blocks - 3 ∧
      (written = images.length + 2 ∨
        written = images.length + 3 ∧
          superCursors (w.disk 0) = superCursors (applyWrites w.disk images 0) ∨
        images.length + 4 ≤ written ∧
          (0 ∈ (images.take (written - (images.length + 4))).map Prod.fst ∨
            Restored area (applyWrites w.disk (images.take (written - (images.length + 4))))
              (applyWrites w.disk images)))

/-- A commit in the fixed layout is atomic at exactly the crash points that are safe: not
between descriptor and control block, not behind a control block whose length is not the
payload area's, and behind the commit record only where the superblock already asks for
recovery or no other block is missing. -/
theorem fixedCommit_crash_atomic {w : World} {area : JournalArea} {count : Nat}
    (start : FixedStart w area count) (success : (journalV3Commit w).1 = .ok ())
    (written : Nat) : FixedCommitAtomic w area written ↔ FixedCrashSafe w area written := by
  obtain ⟨_, recorded, _⟩ := journalV3Commit_success success
  have whole := start.recorded_super recorded
  have some : (committing w).images.length ≠ 0 := by
    intro none
    rw [List.length_eq_zero_iff.mp none] at whole
    simp at whole
  unfold FixedCommitAtomic FixedCrashSafe
  dsimp only
  rw [start.crashed success]
  have points : written ≤ (committing w).images.length ∨
      written = (committing w).images.length + 1 ∨
      (committing w).images.length + 2 ≤ written := by omega
  rcases points with early | rfl | late
  · rw [Nat.sub_eq_zero_of_le (by omega), Nat.sub_eq_zero_of_le (by omega), List.take_zero,
      List.take_zero, List.append_nil, List.append_nil]
    obtain ⟨after, run, restored⟩ := start.recovers_payload written early
    exact iff_of_true ⟨after, run, Or.inr ⟨by omega, restored⟩⟩ (Or.inl early)
  · rw [Nat.sub_eq_zero_of_le (by omega), Nat.sub_eq_zero_of_le (by omega), List.take_zero,
      List.take_zero, List.append_nil, List.append_nil]
    have failed := start.refuses_descriptor recorded
    refine iff_of_false ?_ (by omega)
    rintro ⟨after, run, _⟩
    rw [run] at failed
    cases failed
  by_cases full : (committing w).images.length = area.blocks - 3
  case neg =>
    have failed := start.fails_short full written
      (written - ((committing w).images.length + 4))
      (written - (2 * (committing w).images.length + 5)) late
    refine iff_of_false ?_ (by omega)
    rintro ⟨after, run, _⟩
    rw [run] at failed
    cases failed
  have points : written = (committing w).images.length + 2 ∨
      written = (committing w).images.length + 3 ∨
      ∃ done, written = (committing w).images.length + 4 + done := by
    by_cases home : (committing w).images.length + 4 ≤ written
    · exact Or.inr (Or.inr (Nat.exists_eq_add_of_le home))
    · omega
  rcases points with rfl | rfl | ⟨done, rfl⟩
  · rw [Nat.sub_eq_zero_of_le (by omega), Nat.sub_eq_zero_of_le (by omega), List.take_zero,
      List.take_zero, List.append_nil, List.append_nil, fixedLog_take]
    obtain ⟨after, run, restored⟩ := start.recovers_prepared full
    exact iff_of_true ⟨after, run, Or.inr ⟨by omega, restored⟩⟩ (Or.inr ⟨full, Or.inl rfl⟩)
  · rw [Nat.sub_eq_zero_of_le (by omega), Nat.sub_eq_zero_of_le (by omega), List.take_zero,
      List.take_zero, List.append_nil, List.append_nil]
    obtain ⟨after, run, home, cursors⟩ := start.recovers_recorded full
    constructor
    · rintro ⟨other, same, atomic⟩
      have here : after = other := (Prod.mk.inj (run.symm.trans same)).2
      subst here
      rcases atomic with restored | ⟨early, _⟩
      · exact Or.inr ⟨full, Or.inr (Or.inl ⟨rfl, cursors.symm.trans restored.cursors⟩)⟩
      · omega
    · rintro (early | ⟨_, point | ⟨_, kept⟩ | ⟨late, _⟩⟩)
      · omega
      · omega
      · exact ⟨after, run, Or.inl ⟨home, cursors.trans kept⟩⟩
      · omega
  · have log : (fixedLog w).take ((committing w).images.length + 4 + done) = fixedLog w := by
      apply List.take_of_length_le
      rw [fixedLog_length]
      omega
    have reset : (committing w).images.length + 4 + done -
        (2 * (committing w).images.length + 5) = done - ((committing w).images.length + 1) := by
      omega
    rw [log, reset, Nat.add_sub_cancel_left]
    obtain ⟨after, run, restored⟩ := start.atomic_home full recorded done
    constructor
    · rintro ⟨other, same, atomic⟩
      have here : after = other := (Prod.mk.inj (run.symm.trans same)).2
      subst here
      rcases atomic with done | ⟨early, _⟩
      · exact Or.inr ⟨full, Or.inr (Or.inr ⟨by omega, restored.mp done⟩)⟩
      · omega
    · rintro (early | ⟨_, point | ⟨point, _⟩ | ⟨_, settled⟩⟩)
      · omega
      · omega
      · omega
      · exact ⟨after, run, Or.inl (restored.mpr settled)⟩

/-- A fixed-layout mount at rest whose device the clean check accepts. -/
structure FixedMounted (w : World) (area : JournalArea) (count : Nat) : Prop where
  mode : JournalMode w
  fixed : w.sbi.journalRing = false
  ready : Ready w area count
  long : JOURNAL_V3_MIN_BLOCKS ≤ area.blocks
  limit : area.first + area.blocks < 2 ^ 64
  describes : Describes (w.cache 0) w.sbi count
  device : Describes (w.disk 0) w.sbi count
  settled : journalNeedsRecovery (mounting w.disk w.size) = false
  accepted : ∃ after, journalV3ValidateClean (mounting w.disk w.size) = (.ok (), after) ∧
    after.sbi.journalSequence = w.sbi.journalSequence
  checkpoint : w.sbi.journalCheckpointSequence = w.sbi.journalSequence

/-- The smallest operation, about to commit. -/
theorem FixedMounted.single {w : World} {area : JournalArea} {count block : Nat}
    (mounted : FixedMounted w area count) (ready : SingleReady w count block) (content : Block) :
    FixedStart (singleWrite block content w) area count := by
  have quiet := ready.quiet content
  have sbi : (singleWrite block content w).sbi = singleSbi w.sbi block := by rw [ready.run]
  have small := ready.sequence
  have area' : (singleWrite block content w).sbi.area = area :=
    quiet.area.trans mounted.ready.sameArea
  have described : Describes ((singleWrite block content w).cache 0)
      (singleWrite block content w).sbi count := by
    rw [ready.super]
    exact quiet.describes mounted.describes
  have inv : FixedInv (singleWrite block content w) area count := by
    constructor
    case mode =>
      exact mounted.mode.of_same (quiet.healthy mounted.mode.healthy) quiet.mount quiet.size
    case fixed => exact quiet.ring.trans mounted.fixed
    case ready =>
      refine ⟨quiet.healthy mounted.ready.healthy, area', described.blocksCount, ?_, ?_, ?_⟩ <;>
        rw [quiet.size]
      · exact mounted.ready.journal
      · exact mounted.ready.homes
      · exact mounted.ready.bounded
    case long => exact mounted.long
    case limit => exact mounted.limit
    case describes => exact described
    case records =>
      rw [sbi]
      refine ⟨by simp [singleSbi], ?_, ?_⟩
      · intro other member
        rw [List.mem_singleton.mp member]
        exact ⟨ready.inside, ready.outside⟩
      · exact Nat.le_of_lt ready.capacity
    case small =>
      rw [sbi]
      exact small
  refine ⟨inv, ?_, ?_, ?_, ?_, ?_⟩
  · rw [quiet.disk]
    exact quiet.describes mounted.device
  · rw [quiet.disk, quiet.size]
    exact mounted.settled
  · rw [quiet.disk, quiet.size, sbi]
    exact mounted.accepted
  · rw [sbi]
    rfl
  · rw [sbi]
    exact mounted.checkpoint

/-- A transaction of two images commits in the fixed layout. -/
theorem FixedMounted.single_commits {w : World} {area : JournalArea} {count block : Nat}
    (mounted : FixedMounted w area count) (ready : SingleReady w count block) (content : Block) :
    (journalV3Commit (singleWrite block content w)).1 = .ok () := by
  have start := mounted.single ready content
  have sound : (singleWrite block content w).sbi.journalError = none := by
    rw [ready.run]
    rfl
  rw [start.commit sound (ready.atCommit_homes content).2]

section Volume

variable (identity : Block) {options : MkfsOptions} {g : MkfsGeometry} {deviceSize : Nat}
variable (now : Nat) (others : Nat → Block)
variable (accepted : mkfsGeometry options deviceSize = some g)
variable (v3 : options.useJournalV3 = true) (fixed : options.journalRing = false)
variable (wide : deviceSize < 2 ^ 64)
include accepted v3 fixed wide

/-- The journal of a device formatted in the fixed layout is empty. -/
theorem mkfsImage_fixedClean (sbi : SbInfo)
    (same : sbi.area = ⟨g.journalBlock, g.journalBlocks⟩) :
    FixedClean sbi ⟨g.journalBlock, g.journalBlocks⟩ (mkfsImage identity options g now others)
      0 := by
  have layout := mkfsImage_journalLayout identity now others accepted v3 wide
  obtain ⟨_, long, _, _, ends, _⟩ := mkfsGeometry_journal accepted v3
  obtain ⟨journalBlock, journalBlocks, blocksCount⟩ :=
    mkfsImage_journal identity now others accepted v3 wide
  have limit : g.journalBlock + g.journalBlocks < 2 ^ 64 := by
    have bounded := layout.bounded
    omega
  have long' : 4 ≤ g.journalBlocks := long
  have empty := reset_clean (show 0 < 2 ^ 64 by decide) sbi (by rw [same]; exact long')
    (by rw [same]; exact limit) 0
  have descriptor : mkfsImage identity options g now others (g.journalBlock + 1) =
      journalV3EmptyDescriptor 0 (sbi.area.fixedPlaces 0) := by
    rw [mkfsImage_descriptor identity now others accepted v3, same]
    rfl
  have commit : mkfsImage identity options g now others (g.journalBlock + g.journalBlocks - 1) =
      journalV3EmptyCommit 0 (sbi.area.fixedPlaces 0) := by
    rw [mkfsImage_commit, same]
    rfl
  have read := JournalV3Control.ofBlock_sealMembers
    (mkfsControlFields g.journalBlock g.journalBlocks false)
    (mkfsControlFields_fit _ _ _ long limit)
  constructor
  case control =>
    rw [mkfsImage_control identity now others accepted v3, fixed, setJournalV3Control]
    constructor
    case valid => exact sealMembers_valid _
    all_goals
      rw [read]
      rfl
  case descriptor =>
    rw [descriptor]
    exact empty.1
  case commit =>
    rw [descriptor, commit]
    exact empty.2.1
  case described =>
    rw [descriptor]
    exact empty.2.2.1
  case recorded =>
    rw [commit]
    exact empty.2.2.2

/-- The first mount of a device formatted in the fixed layout. -/
theorem mkfsImage_fixedMounted :
    FixedMounted
      { mounting (mkfsImage identity options g now others) g.blocksCount with
        sbi := fixedCleanSbi (loadSuper (mkfsImage identity options g now others)) 0 }
      ⟨g.journalBlock, g.journalBlocks⟩ g.blocksCount := by
  have layout := mkfsImage_journalLayout identity now others accepted v3 wide
  obtain ⟨_, long, _, positive, ends, _⟩ := mkfsGeometry_journal accepted v3
  obtain ⟨journalBlock, journalBlocks, blocksCount⟩ :=
    mkfsImage_journal identity now others accepted v3 wide
  have incompat := mkfsImage_incompat identity now others accepted v3
  have absent := mkfsFeaturesIncompat_absent options
  have state : (mkfsImage identity options g now others 0).get Super.state = FS_STATE_CLEAN := by
    rw [mkfsImage_super identity now others accepted v3]
    exact mkfsSuper_get identity (by simp [mkfsSuperMembers]) (by decide) (by decide)
  have small := layout.bounded
  generalize imageIs : mkfsImage identity options g now others = image at *
  have area : (loadSuper image).area = ⟨g.journalBlock, g.journalBlocks⟩ := by
    rw [← journalBlock, ← journalBlocks]
    rfl
  have clean : FixedClean (loadSuper image) ⟨g.journalBlock, g.journalBlocks⟩ image 0 := by
    rw [← imageIs]
    exact mkfsImage_fixedClean identity now others accepted v3 fixed wide _
      (by rw [imageIs]; exact area)
  have plain : (loadSuper image).journalRing = false := by
    change (_ &&& FEATURE_INCOMPAT_JOURNAL_RING != 0) = false
    rw [incompat]
    exact absent.2 fixed
  have ready : Ready (mounting image g.blocksCount) ⟨g.journalBlock, g.journalBlocks⟩
      g.blocksCount :=
    ⟨mounting_healthy image _, area, blocksCount, Nat.le_of_eq ends, Nat.le_refl _,
      Nat.le_of_lt small⟩
  have mount := mounting_fixed ready plain positive long (by
    rw [ends]
    exact small)
  have settled : journalNeedsRecovery (mounting image g.blocksCount) = false := by
    have here : (mounting image g.blocksCount).super Super.state = FS_STATE_CLEAN := state
    have flags : (mounting image g.blocksCount).super Super.featuresIncompat =
        mkfsFeaturesIncompat options := incompat
    rw [journalNeedsRecovery, here, flags, absent.1]
    decide
  have same : SameMount (fixedCleanSbi (loadSuper image) 0) (loadSuper image) :=
    ⟨rfl, rfl, rfl, rfl, rfl, rfl, rfl, rfl⟩
  have described : Describes (image 0) (fixedCleanSbi (loadSuper image) 0) g.blocksCount := by
    have loaded := (loadSuper_describes image).of_same same
    rw [blocksCount] at loaded
    exact loaded
  have mode : JournalMode (mounting image g.blocksCount) := by
    refine ⟨mounting_healthy image _, layout.enabled, layout.v3, rfl, layout.first, layout.table,
      ?_⟩
    have room : (loadSuper image).area.first + (loadSuper image).area.blocks ≤
        g.blocksCount := by
      rw [area]
      exact Nat.le_of_eq ends
    exact room
  constructor
  case mode => exact mode.of_same ⟨rfl, rfl⟩ same rfl
  case fixed => exact plain
  case ready =>
    exact ⟨⟨rfl, rfl⟩, same.area.trans area, blocksCount, ready.journal, ready.homes,
      ready.bounded⟩
  case long => exact long
  case limit =>
    rw [ends]
    exact small
  case describes => exact described
  case device => exact described
  case settled => exact settled
  case accepted => exact ⟨_, mount.validate_clean clean, rfl⟩
  case checkpoint => rfl

end Volume

/-- The volume of the examples, formatted in the fixed layout. -/
def smallFixed : MkfsOptions := { smallRing with journalV3 := true, journalRing := false }

theorem smallFixed_accepted :
    mkfsGeometry smallFixed (4111 * BLOCK_SIZE) = some smallGeometry := by decide

/-- Its first mount. -/
def smallFixedMount : World :=
  let image := mkfsImage (ByteBuf.zero BLOCK_SIZE) smallFixed smallGeometry 0
    fun _ => ByteBuf.zero BLOCK_SIZE
  { mounting image 4111 with sbi := fixedCleanSbi (loadSuper image) 0 }

theorem smallFixedMount_mounted : FixedMounted smallFixedMount ⟨4102, 9⟩ 4111 :=
  mkfsImage_fixedMounted _ 0 _ smallFixed_accepted rfl rfl (by decide)

theorem smallFixedMount_single : SingleReady smallFixedMount 4111 8 := by
  have mounted := smallFixedMount_mounted
  have area := mounted.ready.sameArea
  have table := mkfsImage_table (ByteBuf.zero BLOCK_SIZE) 0 (fun _ => ByteBuf.zero BLOCK_SIZE)
    smallFixed_accepted rfl (by decide)
  refine ⟨mounted.mode, rfl, by decide, ?_, mounted.describes, by decide, by decide, ?_, ?_⟩
  · rw [area]
    decide
  · rw [area]
    decide
  · intro index before
    change index < (mkfsImage _ _ _ _ _ 0).get Super.groupDescTableBlocks at before
    change 8 ≠ (mkfsImage _ _ _ _ _ 0).get Super.groupDescTableStart + index
    rw [table.2] at before
    rw [table.1]
    simp only [smallGeometry, GDT_START_BLOCK] at before ⊢
    omega

theorem smallFixedMount_length :
    (committing (singleWrite 8 sampleContent smallFixedMount)).images.length = 2 := by
  rw [smallFixedMount_single.committing_images]
  rfl

/-- The theorem at the first commit of a fresh volume, crashed behind its payload. -/
theorem fixedCommit_crash_atomic_small :
    FixedCommitAtomic (singleWrite 8 sampleContent smallFixedMount) ⟨4102, 9⟩ 2 :=
  (fixedCommit_crash_atomic (smallFixedMount_mounted.single smallFixedMount_single sampleContent)
    (smallFixedMount_mounted.single_commits smallFixedMount_single sampleContent) 2).mpr
    (Or.inl (Nat.le_of_eq smallFixedMount_length.symm))

/-- The first commit of a fresh volume, crashed between its descriptor and its control block:
the next mount is refused. -/
theorem fixedCommit_refused :
    FixedStart (singleWrite 8 sampleContent smallFixedMount) ⟨4102, 9⟩ 4111 ∧
      (journalV3Commit (singleWrite 8 sampleContent smallFixedMount)).1 = .ok () ∧
      3 < (fixedLog (singleWrite 8 sampleContent smallFixedMount)).length ∧
      (journalV3Replay (mounting
        ((journalV3Commit (singleWrite 8 sampleContent smallFixedMount)).2.crashAt
          ((singleWrite 8 sampleContent smallFixedMount).log.length + 3))
        (singleWrite 8 sampleContent smallFixedMount).size)).1 = .error .euclean := by
  have start := smallFixedMount_mounted.single smallFixedMount_single sampleContent
  have success := smallFixedMount_mounted.single_commits smallFixedMount_single sampleContent
  have length := smallFixedMount_length
  obtain ⟨_, recorded, _⟩ := journalV3Commit_success success
  have refused := start.refuses_descriptor recorded
  refine ⟨start, success, ?_, ?_⟩
  · rw [fixedLog_length, length]
    decide
  · rw [start.crashed success, length, List.take_zero, List.take_zero, List.append_nil,
      List.append_nil]
    rw [length] at refused
    exact refused

end Cryexts
