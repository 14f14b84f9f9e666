import Cryexts.Journal.FixedRecovery
import Cryexts.Journal.RingAtomicity

set_option autoImplicit false

namespace Cryexts

open WriteLog (store applyWrites)

namespace Restored

variable {area : JournalArea} {first second third : Nat → Block}

theorem symm (restored : Restored area first second) : Restored area second first :=
  ⟨restored.home.symm, restored.cursors.symm⟩

theorem trans (left : Restored area first second) (right : Restored area second third) :
    Restored area first third :=
  ⟨left.home.trans right.home, left.cursors.trans right.cursors⟩

end Restored

/-- A live fixed-layout mount about to commit, over a device the clean check accepts. -/
structure FixedStart (w : World) (area : JournalArea) (count : Nat) : Prop
    extends FixedInv w area count where
  device : Describes (w.disk 0) w.sbi count
  settled : journalNeedsRecovery (mounting w.disk w.size) = false
  accepted : ∃ after, journalV3ValidateClean (mounting w.disk w.size) = (.ok (), after) ∧
    after.sbi.journalSequence = w.sbi.journalSequence
  opened : w.sbi.journalActiveSequence = w.sbi.journalSequence + 1
  checkpoint : w.sbi.journalCheckpointSequence = w.sbi.journalSequence

/-- The mount of a device with a fixed journal is one its recovery can run in. -/
theorem mounting_fixed {cells : Nat → Block} {size count : Nat} {area : JournalArea}
    (ready : Ready (mounting cells size) area count)
    (fixed : (loadSuper cells).journalRing = false) (first : 0 < area.first)
    (long : JOURNAL_V3_MIN_BLOCKS ≤ area.blocks) (limit : area.first + area.blocks < 2 ^ 64) :
    FixedMount (mounting cells size) area count := by
  constructor
  case toReady => exact ready
  case fresh => rfl
  case fixed => exact fixed
  case idle => rfl
  case first => exact first
  case long => exact long
  case limit => exact limit
  case cursors =>
    have wide : ∀ field : ByteBuf.Field, field.width = 8 →
        u64 ((cells 0).get field) = (cells 0).get field := by
      intro field width
      apply u64_of_lt
      have bound := ByteBuf.get_lt (cells 0) field
      rw [width] at bound
      exact bound
    change superCursors (cells 0) = (u64 ((cells 0).get Super.nextIno),
      u64 ((cells 0).get Super.nextDataBlock))
    rw [wide _ rfl, wide _ rfl]
    rfl

/-- The mount of a device that describes the crashed one's journal. -/
theorem FixedInv.mount {w : World} {area : JournalArea} {count : Nat}
    (inv : FixedInv w area count) {cells : Nat → Block}
    (describes : Describes (cells 0) w.sbi count) :
    FixedMount (mounting cells w.size) area count := by
  have loaded := describes.loaded
  have first := inv.mode.first
  have same : (mounting cells w.size).sbi.area = area := loaded.1.trans inv.ready.sameArea
  have blocks : blocksCount (mounting cells w.size) = count := describes.blocksCount
  have size : (mounting cells w.size).size = w.size := rfl
  rw [inv.ready.sameArea] at first
  refine mounting_fixed ?_ (loaded.2.2.2.2.trans inv.fixed) first inv.long inv.limit
  refine ⟨mounting_healthy cells w.size, same, blocks, ?_, ?_, ?_⟩ <;> rw [size]
  · exact inv.ready.journal
  · exact inv.ready.homes
  · exact inv.ready.bounded

section Cells

variable {area : JournalArea} (first : 0 < area.first)
variable (cells : Nat → Block) {log homes : List (Nat × Block)}
variable (inside : ∀ write, write ∈ log → area.Inside write.1)
variable (outside : OutsideJournal area homes)

include outside in
/-- Home writes behind journal writes leave the journal as those have left it. -/
theorem journalThenHome_journal (block : Nat) (member : area.Inside block) :
    applyWrites cells (log ++ homes) block = applyWrites cells log block := by
  rw [WriteLog.applyWrites_append]
  exact outside.cell _ _ member

include first inside

/-- Journal writes in front of home writes do not show in the home blocks. -/
theorem journalThenHome_home :
    SameHome area (applyWrites cells (log ++ homes)) (applyWrites cells homes) := by
  rw [WriteLog.applyWrites_append]
  exact (SameHome.journalWrites cells log first inside).applyWrites homes

theorem journalThenHome_super :
    applyWrites cells (log ++ homes) 0 = applyWrites cells homes 0 := by
  rw [WriteLog.applyWrites_append]
  apply WriteLog.applyWrites_congr_at
  apply WriteLog.applyWrites_other
  intro write member zero
  have low := (inside write member).1
  omega

end Cells

/-- What a commit in the fixed layout writes into the journal before its first home write. -/
def fixedLog (w : World) : List (Nat × Block) :=
  let places := (fixedAllocation w).segment
  prepareWrites w (fixedAllocation w) ++
    [(places.commitBlock, (committing w).commitRecord places),
      (w.sbi.journalBlock, journalV3PrepareControl (atCommit w).sbi JOURNAL_V3_STATE_CHECKPOINTING
        w.sbi.journalActiveSequence w.sbi.journalActiveSequence w.sbi.journalSequence places)]

/-- The superblock its checkpoint ends with. -/
def fixedCleanSuper (w : World) : Block :=
  recoveredSuper false (commitSuper w) (atCommit w).sbi.nextIno (atCommit w).sbi.nextDataBlock

/-- Its home writes, the last of them the cleared superblock. -/
def fixedHome (w : World) : List (Nat × Block) :=
  (committing w).images ++ [(0, fixedCleanSuper w)]

/-- The journal writes that empty the journal again. -/
def fixedReset (w : World) : List (Nat × Block) :=
  let places := (fixedAllocation w).segment
  [(places.descriptorBlock, journalV3EmptyDescriptor w.sbi.journalActiveSequence places),
    (places.commitBlock, journalV3EmptyCommit w.sbi.journalActiveSequence places),
    (w.sbi.journalBlock, journalV3PrepareControl (atCommit w).sbi JOURNAL_V3_STATE_IDLE
      w.sbi.journalActiveSequence 0 w.sbi.journalActiveSequence places)]

theorem fixedLog_length (w : World) :
    (fixedLog w).length = (committing w).images.length + 4 := by
  simp only [fixedLog, prepareWrites, List.length_append, payloadWrites_length, List.length_cons,
    List.length_nil]

theorem fixedHome_length (w : World) :
    (fixedHome w).length = (committing w).images.length + 1 := by
  simp only [fixedHome, List.length_append, List.length_cons, List.length_nil]

theorem fixedLog_take (w : World) :
    (fixedLog w).take ((committing w).images.length + 2) = prepareWrites w (fixedAllocation w) := by
  have length : (prepareWrites w (fixedAllocation w)).length =
      (committing w).images.length + 2 := by
    simp only [prepareWrites, List.length_append, payloadWrites_length, List.length_cons,
      List.length_nil]
  rw [← length, fixedLog, List.take_left]

/-- What is on the device behind `written` of the commit's writes. -/
theorem fixedWrites_part (w : World) (written home reset : Nat) (write : Nat × Block)
    (member : write ∈ (fixedLog w).take written ++
      ((fixedHome w).take home ++ (fixedReset w).take reset)) :
    write ∈ fixedLog w ++ (fixedHome w ++ fixedReset w) := by
  simp only [List.mem_append] at member ⊢
  rcases member with log | image | empty
  · exact Or.inl (List.mem_of_mem_take log)
  · exact Or.inr (Or.inl (List.mem_of_mem_take image))
  · exact Or.inr (Or.inr (List.mem_of_mem_take empty))

namespace FixedInv

variable {w : World} {area : JournalArea} {count : Nat} (inv : FixedInv w area count)
include inv

theorem places_eq : (fixedAllocation w).segment =
    area.fixedPlaces (committing w).images.length := by
  rw [fixedAllocation, inv.ready.sameArea]

theorem journalBlock : w.sbi.journalBlock = area.first :=
  congrArg JournalArea.first inv.ready.sameArea

theorem positive : 0 < area.first := by
  rw [← inv.ready.sameArea]
  exact inv.mode.first

theorem writes_eq : prepareWrites w (fixedAllocation w) ++ fixedFinishWrites w =
    fixedLog w ++ (fixedHome w ++ fixedReset w) := by
  have worked := inv.mode.worked
  have block : (atCommit w).sbi.journalBlock = w.sbi.journalBlock :=
    congrArg JournalArea.first worked.area
  have sequence : (committing w).sequence = w.sbi.journalActiveSequence := rfl
  rw [fixedFinishWrites, finishFixedWrites, fixedLog, fixedHome, fixedReset, block, sequence,
    fixedCleanSuper]
  simp only [List.append_assoc, List.cons_append, List.nil_append]

theorem fixedLog_inside (write : Nat × Block) (member : write ∈ fixedLog w) :
    area.Inside write.1 := by
  have fits := inv.fits
  rcases List.mem_append.mp member with early | late
  · exact inv.prepareWrites_inside write early
  · rw [inv.places_eq, inv.journalBlock] at late
    simp only [List.mem_cons, List.not_mem_nil, or_false] at late
    rcases late with rfl | rfl <;> simp only [JournalArea.fixedPlaces, JournalArea.Inside] <;> omega

theorem fixedReset_inside (write : Nat × Block) (member : write ∈ fixedReset w) :
    area.Inside write.1 := by
  have fits := inv.fits
  rw [fixedReset, inv.places_eq, inv.journalBlock] at member
  simp only [List.mem_cons, List.not_mem_nil, or_false] at member
  rcases member with rfl | rfl | rfl <;>
    simp only [JournalArea.fixedPlaces, JournalArea.Inside] <;> omega

theorem fixedHome_outside : OutsideJournal area (fixedHome w) := by
  have first := inv.positive
  intro write member
  rcases List.mem_append.mp member with image | super
  · exact inv.valid.outside write image
  · rw [List.mem_singleton.mp super]
    unfold JournalArea.Inside
    omega

/-- What a commit in the fixed layout writes, in order. -/
theorem commit_log (success : (journalV3Commit w).1 = .ok ()) :
    (journalV3Commit w).2.base = w.base ∧
      (journalV3Commit w).2.log = w.log ++ (fixedLog w ++ (fixedHome w ++ fixedReset w)) := by
  obtain ⟨sound, recorded, _⟩ := journalV3Commit_success success
  have worked := inv.mode.worked
  rw [inv.commit sound recorded, ← inv.writes_eq, ← worked.log]
  exact ⟨(World.writtenAll_base _ _).trans worked.base, World.writtenAll_log _ _⟩

/-- The device after a crash behind `written` of the commit's writes. -/
theorem crashed (success : (journalV3Commit w).1 = .ok ()) (written : Nat) :
    (journalV3Commit w).2.crashAt (w.log.length + written) =
      applyWrites w.disk ((fixedLog w).take written ++
        ((fixedHome w).take (written - ((committing w).images.length + 4)) ++
          (fixedReset w).take (written - (2 * (committing w).images.length + 5)))) := by
  obtain ⟨base, log⟩ := inv.commit_log success
  have early : written - (2 * (committing w).images.length + 5) =
      written - ((committing w).images.length + 4) - ((committing w).images.length + 1) := by
    omega
  rw [World.crashAt, base, log, List.take_append, List.take_of_length_le (by omega),
    Nat.add_sub_cancel_left, WriteLog.applyWrites_append, List.take_append, List.take_append,
    fixedLog_length, fixedHome_length, early]
  rfl

/-- A control block of the commit. -/
theorem control {state last active checkpoint : Nat}
    (known : state ≤ JOURNAL_V3_STATE_CHECKPOINTING) (lastSmall : last < 2 ^ 64)
    (activeSmall : active < 2 ^ 64) (checkpointSmall : checkpoint < 2 ^ 64) :
    FixedControl area (journalV3PrepareControl (atCommit w).sbi state last active checkpoint
      (fixedAllocation w).segment) state last active checkpoint
      (committing w).images.length := by
  have worked := inv.mode.worked
  have same : (atCommit w).sbi.area = area := worked.area.trans inv.ready.sameArea
  have fixed := worked.ring.trans inv.fixed
  have fits := inv.fits
  have long := inv.long
  have limit := inv.limit
  unfold JOURNAL_V3_MIN_BLOCKS at long
  rw [inv.places_eq]
  subst same
  exact FixedControl.prepared _ fixed known lastSmall activeSmall checkpointSmall long limit
    (by omega)

theorem fixedLog_committed (cells : Nat → Block) :
    (committing w).Committed (applyWrites cells (fixedLog w)) (fixedAllocation w).segment := by
  have fits := inv.fits
  have logged := inv.logged cells
  rw [fixedLog, WriteLog.applyWrites_append]
  simp only [WriteLog.applyWrites_cons, WriteLog.applyWrites_nil]
  rw [inv.places_eq, inv.journalBlock] at *
  constructor
  case toLogged =>
    refine logged.congr ?_ ?_
    · rw [WriteLog.store_other, WriteLog.store_other]
      · simp only [JournalArea.fixedPlaces]
        omega
      · simp only [JournalArea.fixedPlaces]
        omega
    · intro index before
      rw [WriteLog.store_other, WriteLog.store_other]
      · simp only [JournalArea.fixedPlaces]
        omega
      · simp only [JournalArea.fixedPlaces]
        omega
  case commitRecord =>
    rw [WriteLog.store_other, WriteLog.store_same]
    simp only [JournalArea.fixedPlaces]
    omega

theorem fixedLog_control (cells : Nat → Block) (checkpoint : w.sbi.journalSequence < 2 ^ 64) :
    FixedControl area (applyWrites cells (fixedLog w) area.first)
      JOURNAL_V3_STATE_CHECKPOINTING w.sbi.journalActiveSequence w.sbi.journalActiveSequence
      w.sbi.journalSequence (committing w).images.length := by
  have found : applyWrites cells (fixedLog w) area.first =
      journalV3PrepareControl (atCommit w).sbi JOURNAL_V3_STATE_CHECKPOINTING
        w.sbi.journalActiveSequence w.sbi.journalActiveSequence w.sbi.journalSequence
        (fixedAllocation w).segment := by
    rw [fixedLog, WriteLog.applyWrites_append]
    simp only [WriteLog.applyWrites_cons, WriteLog.applyWrites_nil]
    rw [inv.journalBlock, WriteLog.store_same]
  rw [found]
  exact inv.control (Nat.le_refl _) inv.small inv.small checkpoint

/-- A commit writes two superblocks, the journalled one and the cleared one. -/
theorem supers (write : Nat × Block)
    (member : write ∈ fixedLog w ++ (fixedHome w ++ fixedReset w)) (zero : write.1 = 0) :
    write.2 = commitSuper w ∨ write.2 = fixedCleanSuper w := by
  have positive := inv.positive
  rcases List.mem_append.mp member with log | later
  · have low := (inv.fixedLog_inside write log).1
    omega
  · rcases List.mem_append.mp later with home | reset
    · rcases List.mem_append.mp home with image | super
      · exact Or.inl (committing_super inv.mode write image zero)
      · exact Or.inr (congrArg Prod.snd (List.mem_singleton.mp super))
    · have low := (inv.fixedReset_inside write reset).1
      omega

/-- The journal is empty again. -/
theorem reset_cells (cells : Nat → Block) :
    applyWrites cells (fixedReset w) (area.first + 1) = journalV3EmptyDescriptor
        w.sbi.journalActiveSequence (area.fixedPlaces (committing w).images.length) ∧
      applyWrites cells (fixedReset w) (area.first + area.blocks - 1) = journalV3EmptyCommit
        w.sbi.journalActiveSequence (area.fixedPlaces (committing w).images.length) ∧
      FixedControl area (applyWrites cells (fixedReset w) area.first) JOURNAL_V3_STATE_IDLE
        w.sbi.journalActiveSequence 0 w.sbi.journalActiveSequence
        (committing w).images.length := by
  have fits := inv.fits
  have long := inv.long
  unfold JOURNAL_V3_MIN_BLOCKS at long
  have control : FixedControl area (journalV3PrepareControl (atCommit w).sbi JOURNAL_V3_STATE_IDLE
      w.sbi.journalActiveSequence 0 w.sbi.journalActiveSequence (fixedAllocation w).segment)
      JOURNAL_V3_STATE_IDLE w.sbi.journalActiveSequence 0 w.sbi.journalActiveSequence
      (committing w).images.length :=
    inv.control (by decide) inv.small (by decide) inv.small
  rw [fixedReset]
  simp only [WriteLog.applyWrites_cons, WriteLog.applyWrites_nil]
  rw [inv.journalBlock]
  refine ⟨?_, ?_, ?_⟩
  · rw [WriteLog.store_other _ _ _ _ (by omega), inv.places_eq,
      WriteLog.store_other _ _ _ _ (by simp only [JournalArea.fixedPlaces]; omega)]
    exact WriteLog.store_same _ _ _
  · rw [WriteLog.store_other _ _ _ _ (by omega), inv.places_eq]
    exact WriteLog.store_same _ _ _
  · rw [WriteLog.store_same]
    exact control

/-- The last superblock a commit writes is the cleared one. -/
theorem settled_super (cells : Nat → Block) (done : Nat) :
    applyWrites cells (fixedLog w ++ (fixedHome w ++ (fixedReset w).take done)) 0 =
      fixedCleanSuper w := by
  have positive := inv.positive
  rw [← List.append_assoc, WriteLog.applyWrites_append, WriteLog.applyWrites_other,
    journalThenHome_super positive cells inv.fixedLog_inside, fixedHome,
    WriteLog.applyWrites_concat, WriteLog.store_same]
  intro write member zero
  have low := (inv.fixedReset_inside write (List.mem_of_mem_take member)).1
  omega

theorem settled_describes {cells : Nat → Block} (super : cells 0 = fixedCleanSuper w) :
    Describes (cells 0) w.sbi count := by
  rw [super]
  exact ((recoveredSuper_same _ _ _ _).trans (commitSuper_same w)).describes inv.describes

/-- Whatever part of the commit is written, the superblock describes the journal. -/
theorem written_describes {cells : Nat → Block} (before : Describes (cells 0) w.sbi count)
    (writes : List (Nat × Block))
    (part : ∀ write, write ∈ writes → write ∈ fixedLog w ++ (fixedHome w ++ fixedReset w)) :
    Describes (applyWrites cells writes 0) w.sbi count := by
  apply WriteLog.Along.last
    (WriteLog.along_cell (fun super => Describes super w.sbi count) before _)
  intro write member zero
  rcases inv.supers write (part write member) zero with journalled | cleared
  · rw [journalled]
    exact (commitSuper_same w).describes inv.describes
  · rw [cleared]
    exact ((recoveredSuper_same _ _ _ _).trans (commitSuper_same w)).describes inv.describes

end FixedInv

theorem needsRecovery_congr {first second : Nat → Block} (same : first 0 = second 0) (size : Nat) :
    journalNeedsRecovery (mounting first size) = journalNeedsRecovery (mounting second size) := by
  have state : (mounting first size).super Super.state =
      (mounting second size).super Super.state := congrArg (ByteBuf.get · Super.state) same
  have incompat : (mounting first size).super Super.featuresIncompat =
      (mounting second size).super Super.featuresIncompat :=
    congrArg (ByteBuf.get · Super.featuresIncompat) same
  rw [journalNeedsRecovery, journalNeedsRecovery, state, incompat]

private theorem flagged_ne_zero (value flag : Nat) (some : 0 < flag) :
    ((value ||| flag) &&& flag != 0) = true := by
  have kept : flag ≤ (value ||| flag) &&& flag := by
    rw [Nat.and_comm, Nat.and_or_distrib_left, Nat.and_self]
    exact Nat.right_le_or
  simp only [bne_iff_ne, ne_eq]
  omega

private theorem cleared_eq_zero (value mask flag : Nat) (clears : mask &&& flag = 0) :
    (value &&& mask &&& flag != 0) = false := by
  rw [Nat.and_assoc, clears, Nat.and_zero]
  rfl

/-- The commit's superblock asks for recovery. -/
theorem commitSuper_flagged {cells : Nat → Block} {w : World} (super : cells 0 = commitSuper w)
    (size : Nat) : journalNeedsRecovery (mounting cells size) = true := by
  have state : (mounting cells size).super Super.state = (commitSuper w).get Super.state :=
    congrArg (ByteBuf.get · Super.state) super
  rw [journalNeedsRecovery, state, commitSuper, recoveredSuper_state, if_pos rfl,
    flagged_ne_zero _ _ (by decide), Bool.true_or]

/-- The superblock at the end of its checkpoint does not. -/
theorem fixedCleanSuper_cleared {cells : Nat → Block} {w : World}
    (super : cells 0 = fixedCleanSuper w) (size : Nat) :
    journalNeedsRecovery (mounting cells size) = false := by
  have state : (mounting cells size).super Super.state = (fixedCleanSuper w).get Super.state :=
    congrArg (ByteBuf.get · Super.state) super
  have incompat : (mounting cells size).super Super.featuresIncompat =
      (fixedCleanSuper w).get Super.featuresIncompat :=
    congrArg (ByteBuf.get · Super.featuresIncompat) super
  rw [journalNeedsRecovery, state, incompat, fixedCleanSuper, recoveredSuper_state,
    recoveredSuper_incompat, if_neg Bool.false_ne_true, if_neg Bool.false_ne_true,
    clearRecoveryState, clearRecoveryIncompat, cleared_eq_zero _ _ _ (by decide),
    cleared_eq_zero _ _ _ (by decide)]
  rfl

theorem FixedClean.of_area {sbi other : SbInfo} {area : JournalArea} {cells : Nat → Block}
    {last : Nat} (clean : FixedClean sbi area cells last) (same : other.area = sbi.area) :
    FixedClean other area cells last := by
  have block : other.journalBlock = sbi.journalBlock := congrArg JournalArea.first same
  have blocks : other.journalBlocks = sbi.journalBlocks := congrArg JournalArea.blocks same
  obtain ⟨control, descriptor, commit, described, recorded⟩ := clean
  unfold CleanDescriptor at descriptor
  unfold CleanCommit at commit
  refine ⟨control, ?_, ?_, described, recorded⟩
  · unfold CleanDescriptor
    rw [block, blocks]
    exact descriptor
  · unfold CleanCommit
    rw [block]
    exact commit

theorem FixedClean.congr {sbi : SbInfo} {area : JournalArea} {first second : Nat → Block}
    {last : Nat} (clean : FixedClean sbi area first last)
    (control : second area.first = first area.first)
    (descriptor : second (area.first + 1) = first (area.first + 1))
    (commit : second (area.first + area.blocks - 1) = first (area.first + area.blocks - 1)) :
    FixedClean sbi area second last := by
  constructor
  · rw [control]
    exact clean.control
  · rw [descriptor]
    exact clean.descriptor
  · rw [descriptor, commit]
    exact clean.commit
  · rw [descriptor]
    exact clean.described
  · rw [commit]
    exact clean.recorded

namespace FixedInv

variable {w : World} {area : JournalArea} {count : Nat} (inv : FixedInv w area count)
variable {cells : Nat → Block} (describes : Describes (cells 0) w.sbi count)
include inv describes

theorem replay_eq : journalV3Replay (mounting cells w.size) =
    journalV3ReplayFixed (mounting cells w.size) :=
  journalV3Replay_fixed (inv.mount describes).fixed

theorem area_eq : (loadSuper cells).area = area :=
  describes.loaded.1.trans inv.ready.sameArea

/-- An empty journal under a clean superblock is left alone. -/
theorem recovers_clean {sbi : SbInfo} {last : Nat} (same : sbi.area = area)
    (clean : FixedClean sbi area cells last)
    (unmarked : journalNeedsRecovery (mounting cells w.size) = false) :
    ∃ after, journalV3Replay (mounting cells w.size) = (.ok (), after) ∧
      FixedRecovered area cells after.disk cells := by
  have mount := inv.mount describes
  have found := clean.of_area ((inv.area_eq describes).trans same.symm)
  refine ⟨_, (inv.replay_eq describes).trans
    ((mount.replay_idle found.control unmarked).trans (mount.validate_clean found)), ?_⟩
  exact ⟨SameHome.refl _, rfl⟩

/-- A control block of another length than the payload area's is refused. -/
theorem refused {state last active checkpoint : Nat}
    (control : FixedControl area (cells area.first) state last active checkpoint
      (committing w).images.length) (short : (committing w).images.length ≠ area.blocks - 3) :
    (journalV3Replay (mounting cells w.size)).1 = .error .euclean := by
  rw [inv.replay_eq describes]
  exact (inv.mount describes).refuses_length control short

end FixedInv

theorem gdtPrepareWrite_cursors (w : World) :
    (gdtPrepareWrite w).sbi.nextIno = w.sbi.nextIno ∧
      (gdtPrepareWrite w).sbi.nextDataBlock = w.sbi.nextDataBlock := by
  rw [gdtPrepareWrite_sbi]
  exact ⟨rfl, rfl⟩

theorem journalRecordBh_cursors (block : Nat) (w : World) (enabled : w.sbi.journalEnabled = true)
    (v3 : w.sbi.journalV3 = true) (live : w.sbi.journalReplaying = false) :
    (journalRecordBh block w).sbi.nextIno = w.sbi.nextIno ∧
      (journalRecordBh block w).sbi.nextDataBlock = w.sbi.nextDataBlock := by
  rcases journalRecordBh_cases block w enabled v3 live with
    ⟨kept, _⟩ | ⟨err, _, poisoned⟩ | ⟨_, _, _, _, _, _, recorded⟩
  · rw [kept]
    exact ⟨rfl, rfl⟩
  · rw [poisoned]
    exact ⟨rfl, rfl⟩
  · rw [recorded]
    exact ⟨rfl, rfl⟩

/-- A commit does not move the allocation cursors. -/
theorem atCommit_cursors {w : World} (mode : JournalMode w) :
    (atCommit w).sbi.nextIno = w.sbi.nextIno ∧
      (atCommit w).sbi.nextDataBlock = w.sbi.nextDataBlock := by
  have sequenced := setDiskJournalSequence_worked mode.first w.sbi.journalActiveSequence
  have table : TableApart (setDiskJournalSequence w.sbi.journalActiveSequence w).sbi := mode.table
  have copied := sequenced.trans (gdtPrepareWrite_worked table)
  have same := gdtPrepareWrite_cursors (setDiskJournalSequence w.sbi.journalActiveSequence w)
  rw [setDiskJournalSequence_sbi] at same
  rw [atCommit, superSetRecovery_eq]
  generalize recoveredSuper true _ _ _ = super
  have marked := copied.trans
    (dirtyBuffer_super_worked (by rw [copied.area]; exact mode.first) super)
  have kept := journalRecordBh_cursors 0 _ (marked.enabled.trans mode.enabled)
    (marked.v3.trans mode.v3) (marked.replaying.trans mode.live)
  rw [World.dirtyBuffer_sbi] at kept
  exact ⟨kept.1.trans same.1, kept.2.trans same.2⟩

namespace FixedStart

variable {w : World} {area : JournalArea} {count : Nat} (start : FixedStart w area count)
include start

theorem sequence_lt : w.sbi.journalSequence < 2 ^ 64 := by
  have small := start.small
  have opened := start.opened
  omega

theorem clean : FixedClean (loadSuper w.disk) area w.disk w.sbi.journalSequence := by
  obtain ⟨after, accepted, sequence⟩ := start.accepted
  obtain ⟨last, clean, left⟩ := (start.mount start.device).of_validate accepted
  have same : after.sbi.journalSequence = last := by
    rw [left]
    rfl
  rw [← sequence, same]
  exact clean

theorem recorded_super (recorded : (atCommit w).sbi.journalError = none) :
    0 ∈ (committing w).images.map Prod.fst := by
  have mode := start.mode
  rw [committing_homes]
  apply atCommit_mem mode.first mode.table mode.enabled mode.v3 mode.live _ recorded
  rw [start.opened]
  exact Nat.succ_ne_zero _

/-- A superblock buffer that is still the device's asks for no recovery. -/
theorem unmarked {cells : Nat → Block} (same : cells 0 = w.disk 0) :
    journalNeedsRecovery (mounting cells w.size) = false := by
  rw [needsRecovery_congr same]
  exact start.settled

theorem described {cells : Nat → Block} (same : cells 0 = w.disk 0) :
    Describes (cells 0) w.sbi count := by
  rw [same]
  exact start.device

/-- Journal writes leave the superblock of the device. -/
theorem log_super (writes : List (Nat × Block))
    (inside : ∀ write, write ∈ writes → area.Inside write.1) :
    applyWrites w.disk writes 0 = w.disk 0 := by
  have first := start.positive
  apply WriteLog.applyWrites_other
  intro write member zero
  have low := (inside write member).1
  omega

/-- Payload images on their own change nothing a mount looks at. -/
theorem recovers_payload (written : Nat) (early : written ≤ (committing w).images.length) :
    ∃ after, journalV3Replay (mounting (applyWrites w.disk ((fixedLog w).take written)) w.size) =
        (.ok (), after) ∧ Restored area after.disk w.disk := by
  have fits := start.fits
  have inside : ∀ write, write ∈ (fixedLog w).take written → area.Inside write.1 :=
    fun write member => start.fixedLog_inside write (List.mem_of_mem_take member)
  have place : ∀ write, write ∈ (fixedLog w).take written →
      area.first + 2 ≤ write.1 ∧ write.1 < area.first + 2 + (committing w).images.length := by
    intro write member
    have here : (fixedLog w).take written = (payloadWrites
        (fixedAllocation w).segment.payloadStart (committing w).images).take written := by
      rw [fixedLog, prepareWrites, List.append_assoc, List.take_append_of_le_length]
      rw [payloadWrites_length]
      exact early
    rw [here] at member
    have place := payloadWrites_place _ _ _ (List.mem_of_mem_take member)
    rw [start.places_eq] at place
    exact place
  have kept : ∀ block, block < area.first + 2 ∨
      area.first + 2 + (committing w).images.length ≤ block →
      applyWrites w.disk ((fixedLog w).take written) block = w.disk block := by
    intro block away
    apply WriteLog.applyWrites_other
    intro write member same
    have between := place write member
    omega
  have super := start.log_super _ inside
  have clean := start.clean.congr (kept area.first (by omega)) (kept (area.first + 1) (by omega))
    (kept (area.first + area.blocks - 1) (by omega))
  obtain ⟨after, run, recovered⟩ := start.recovers_clean (start.described super)
    (start.area_eq start.device) clean (start.unmarked super)
  have home := SameHome.journalWrites w.disk _ start.positive inside
  exact ⟨after, run, recovered.home.trans home, by rw [recovered.cursors, super]⟩

/-- A descriptor without its control block makes the clean check fail. -/
theorem refuses_descriptor (recorded : (atCommit w).sbi.journalError = none) :
    (journalV3Replay (mounting (applyWrites w.disk
      ((fixedLog w).take ((committing w).images.length + 1))) w.size)).1 = .error .euclean := by
  have fits := start.fits
  have long := start.long
  have inside : ∀ write, write ∈ (fixedLog w).take ((committing w).images.length + 1) →
      area.Inside write.1 :=
    fun write member => start.fixedLog_inside write (List.mem_of_mem_take member)
  have super := start.log_super _ inside
  have mount := start.mount (start.described super)
  have taken : (fixedLog w).take ((committing w).images.length + 1) =
      payloadWrites (area.first + 2) (committing w).images ++
        [(area.first + 1, (committing w).descriptor
          (area.fixedPlaces (committing w).images.length))] := by
    have length := payloadWrites_length (area.first + 2) (committing w).images
    rw [fixedLog, prepareWrites, start.places_eq, List.append_assoc]
    simp only [JournalArea.fixedPlaces]
    rw [← length, List.take_length_add_append]
    rfl
  have control : applyWrites w.disk ((fixedLog w).take ((committing w).images.length + 1))
      area.first = w.disk area.first := by
    rw [taken]
    apply WriteLog.applyWrites_other
    intro write member same
    rcases List.mem_append.mp member with payload | descriptor
    · have place := payloadWrites_place _ _ _ payload
      omega
    · rw [List.mem_singleton.mp descriptor] at same
      dsimp only at same
      omega
  have descriptor : applyWrites w.disk ((fixedLog w).take ((committing w).images.length + 1))
      (area.first + 1) = (committing w).descriptor
        (area.fixedPlaces (committing w).images.length) := by
    rw [taken, WriteLog.applyWrites_concat, WriteLog.store_same]
  have bounded := start.bounded
  rw [start.places_eq] at bounded
  have entries : (JournalV3Descriptor.ofBlock ((committing w).descriptor
      (area.fixedPlaces (committing w).images.length))).entryCount =
        (committing w).images.length := by
    rw [(committing w).ofBlock_descriptor _ area count start.valid bounded mount.small]
    rfl
  have some : (committing w).images.length ≠ 0 := by
    intro none
    have super := start.recorded_super recorded
    rw [List.length_eq_zero_iff.mp none] at super
    simp at super
  have idle := start.clean.control
  rw [start.replay_eq (start.described super)]
  generalize applyWrites w.disk ((fixedLog w).take ((committing w).images.length + 1)) = cells at *
  rw [← control] at idle
  rw [mount.replay_idle idle (start.unmarked super)]
  apply mount.refuses_descriptor idle
  intro clean
  have blank : (JournalV3Descriptor.ofBlock (cells (area.first + 1))).entryCount = 0 :=
    clean.2.2.2.2.1
  rw [descriptor, entries] at blank
  exact some blank

theorem control_inside : area.Inside area.first := by
  have fits := start.fits
  unfold JournalArea.Inside
  omega

theorem prepared_control (cells : Nat → Block) :
    FixedControl area (applyWrites cells (prepareWrites w (fixedAllocation w)) area.first)
      JOURNAL_V3_STATE_PREPARED w.sbi.journalSequence w.sbi.journalActiveSequence
      w.sbi.journalSequence (committing w).images.length := by
  have found : applyWrites cells (prepareWrites w (fixedAllocation w)) area.first =
      journalV3PrepareControl (atCommit w).sbi JOURNAL_V3_STATE_PREPARED w.sbi.journalSequence
        w.sbi.journalActiveSequence w.sbi.journalSequence (fixedAllocation w).segment := by
    rw [prepareWrites, WriteLog.applyWrites_append]
    simp only [WriteLog.applyWrites_cons, WriteLog.applyWrites_nil]
    rw [start.journalBlock, WriteLog.store_same, start.advanced_eq, start.checkpoint]
  rw [found]
  exact start.control (by decide) start.sequence_lt start.small start.sequence_lt

/-- The sequences of a control block that names the commit under way. -/
theorem prepared_sequences {buf : Block} {entries : Nat}
    (control : FixedControl area buf JOURNAL_V3_STATE_PREPARED w.sbi.journalSequence
      w.sbi.journalActiveSequence w.sbi.journalSequence entries) :
    ControlSequencesValid (JournalV3Control.ofBlock buf) := by
  have small := start.small
  have opened := start.opened
  unfold ControlSequencesValid
  rw [control.activeIs, control.lastIs, control.checkpointIs, control.stateIs,
    if_neg (by decide), opened]
  refine ⟨Nat.succ_ne_zero _, Nat.le_refl _, ?_⟩
  rw [u64_of_lt]
  omega

theorem checkpointing_sequences {buf : Block} {entries : Nat}
    (control : FixedControl area buf JOURNAL_V3_STATE_CHECKPOINTING w.sbi.journalActiveSequence
      w.sbi.journalActiveSequence w.sbi.journalSequence entries) :
    ControlSequencesValid (JournalV3Control.ofBlock buf) := by
  have opened := start.opened
  unfold ControlSequencesValid
  rw [control.activeIs, control.lastIs, control.checkpointIs, if_pos control.stateIs]
  exact ⟨by omega, by omega, rfl⟩

/-- The control block names the transaction, the commit block does not: it is dropped. -/
theorem recovers_prepared (full : (committing w).images.length = area.blocks - 3) :
    ∃ after, journalV3Replay (mounting (applyWrites w.disk (prepareWrites w (fixedAllocation w)))
        w.size) = (.ok (), after) ∧ Restored area after.disk w.disk := by
  have fits := start.fits
  have inside := start.prepareWrites_inside
  have super := start.log_super _ inside
  have mount := start.mount (start.described super)
  have control := start.prepared_control w.disk
  have logged := start.logged w.disk
  rw [start.places_eq, full] at logged
  rw [full] at control
  have sequences := start.prepared_sequences control
  have commit : applyWrites w.disk (prepareWrites w (fixedAllocation w))
      (area.first + area.blocks - 1) = w.disk (area.first + area.blocks - 1) := by
    apply WriteLog.applyWrites_other
    intro write member same
    rw [prepareWrites, start.places_eq, start.journalBlock] at member
    rcases List.mem_append.mp member with payload | rest
    · have place := payloadWrites_place _ _ _ payload
      simp only [JournalArea.fixedPlaces] at place
      omega
    · simp only [List.mem_cons, List.not_mem_nil, or_false, JournalArea.fixedPlaces] at rest
      rcases rest with rfl | rfl <;> dsimp only at same <;> omega
  have blank : (JournalV3Commit.ofBlock (w.disk (area.first + area.blocks - 1))).flags = 0 :=
    start.clean.commit.2.2.2.1
  have home := SameHome.journalWrites w.disk _ start.positive inside
  rw [start.replay_eq (start.described super)]
  generalize applyWrites w.disk (prepareWrites w (fixedAllocation w)) = cells at *
  obtain ⟨after, run, recovered⟩ := mount.replay_unrecorded start.valid control sequences
    (Or.inl rfl) rfl logged.descriptor rfl (by
      change (JournalV3Commit.ofBlock (cells (area.first + area.blocks - 1))).flags = 0
      rw [commit]
      exact blank)
  refine ⟨after, run, recovered.home.trans home, ?_⟩
  rw [recovered.cursors]
  change superCursors (cells 0) = _
  rw [super]

/-- From its commit record on the transaction is applied. -/
theorem recovers_recorded (full : (committing w).images.length = area.blocks - 3) :
    ∃ after, journalV3Replay (mounting (applyWrites w.disk
        ((fixedLog w).take ((committing w).images.length + 3))) w.size) = (.ok (), after) ∧
      SameHome area after.disk (applyWrites w.disk (committing w).images) ∧
      superCursors (after.disk 0) = superCursors (w.disk 0) := by
  have fits := start.fits
  have taken : (fixedLog w).take ((committing w).images.length + 3) =
      prepareWrites w (fixedAllocation w) ++ [(area.first + area.blocks - 1,
        (committing w).commitRecord (area.fixedPlaces (committing w).images.length))] := by
    have length : (prepareWrites w (fixedAllocation w)).length =
        (committing w).images.length + 2 := by
      simp only [prepareWrites, List.length_append, payloadWrites_length, List.length_cons,
        List.length_nil]
    have last : (committing w).images.length + 3 =
        (prepareWrites w (fixedAllocation w)).length + 1 := by omega
    rw [last, fixedLog, List.take_length_add_append, start.places_eq]
    rfl
  have inside : ∀ write, write ∈ (fixedLog w).take ((committing w).images.length + 3) →
      area.Inside write.1 :=
    fun write member => start.fixedLog_inside write (List.mem_of_mem_take member)
  have super := start.log_super _ inside
  have mount := start.mount (start.described super)
  have control := start.prepared_control w.disk
  have logged := start.logged w.disk
  have home := SameHome.journalWrites w.disk _ start.positive inside
  have cellsAre : applyWrites w.disk ((fixedLog w).take ((committing w).images.length + 3)) =
      store (applyWrites w.disk (prepareWrites w (fixedAllocation w)))
        (area.first + area.blocks - 1)
        ((committing w).commitRecord (area.fixedPlaces (committing w).images.length)) := by
    rw [taken, WriteLog.applyWrites_concat]
  rw [start.places_eq] at logged
  rw [start.replay_eq (start.described super)]
  have controlKept : applyWrites w.disk ((fixedLog w).take ((committing w).images.length + 3))
      area.first = applyWrites w.disk (prepareWrites w (fixedAllocation w)) area.first := by
    rw [cellsAre, WriteLog.store_other]
    omega
  have loggedKept : (committing w).Logged
      (applyWrites w.disk ((fixedLog w).take ((committing w).images.length + 3)))
      (area.fixedPlaces (committing w).images.length) := by
    refine logged.congr ?_ ?_
    · rw [cellsAre, WriteLog.store_other]
      simp only [JournalArea.fixedPlaces]
      omega
    · intro index before
      rw [cellsAre, WriteLog.store_other]
      simp only [JournalArea.fixedPlaces]
      omega
  have recorded : applyWrites w.disk ((fixedLog w).take ((committing w).images.length + 3))
      (area.first + area.blocks - 1) =
        (committing w).commitRecord (area.fixedPlaces (committing w).images.length) := by
    rw [cellsAre, WriteLog.store_same]
  rw [← controlKept] at control
  generalize applyWrites w.disk ((fixedLog w).take ((committing w).images.length + 3)) = cells at *
  rw [full] at control loggedKept recorded
  obtain ⟨after, run, recovered⟩ := mount.replay_committed start.valid control
    (start.prepared_sequences control) (Or.inl rfl) rfl loggedKept.descriptor start.keeps
    loggedKept.payload recorded
  refine ⟨after, run, recovered.home.trans (home.applyWrites _), ?_⟩
  rw [recovered.cursors]
  change superCursors (cells 0) = _
  rw [super]

/-- The device in the middle of the home writes. -/
theorem partial_cells (homes : List (Nat × Block)) (outside : OutsideJournal area homes) :
    FixedControl area (applyWrites w.disk (fixedLog w ++ homes) area.first)
        JOURNAL_V3_STATE_CHECKPOINTING w.sbi.journalActiveSequence w.sbi.journalActiveSequence
        w.sbi.journalSequence (committing w).images.length ∧
      (committing w).Committed (applyWrites w.disk (fixedLog w ++ homes))
        (area.fixedPlaces (committing w).images.length) := by
  have fits := start.fits
  have committed := start.fixedLog_committed w.disk
  have kept : ∀ block, area.Inside block →
      applyWrites w.disk (fixedLog w ++ homes) block = applyWrites w.disk (fixedLog w) block :=
    journalThenHome_journal w.disk outside
  rw [start.places_eq] at committed
  constructor
  · rw [kept _ (by
      unfold JournalArea.Inside
      omega)]
    exact start.fixedLog_control w.disk start.sequence_lt
  · constructor
    case toLogged =>
      refine committed.toLogged.congr ?_ ?_
      · apply kept
        simp only [JournalArea.fixedPlaces, JournalArea.Inside]
        omega
      · intro index before
        apply kept
        simp only [JournalArea.fixedPlaces, JournalArea.Inside]
        omega
    case commitRecord =>
      rw [kept, committed.commitRecord]
      simp only [JournalArea.fixedPlaces, JournalArea.Inside]
      omega

theorem partial_super (done : Nat) :
    applyWrites w.disk ((committing w).images.take done) 0 =
      if 0 ∈ ((committing w).images.take done).map Prod.fst then commitSuper w
      else w.disk 0 := by
  split
  case isTrue written =>
    rw [WriteLog.applyWrites_written _ (fun _ => commitSuper w) _ _ written]
    apply WriteLog.applyWrites_settled _ _ _ _ rfl
    intro image member zero
    exact committing_super start.mode image (List.mem_of_mem_take member) zero
  case isFalse absent =>
    apply WriteLog.applyWrites_other
    intro image member zero
    exact absent (zero ▸ List.mem_map_of_mem member)

/-- A crash behind the superblock's home write: the rest is replayed. -/
theorem recovers_marked (full : (committing w).images.length = area.blocks - 3) (done : Nat)
    (written : 0 ∈ ((committing w).images.take done).map Prod.fst) :
    ∃ after, journalV3Replay (mounting (applyWrites w.disk
        (fixedLog w ++ (committing w).images.take done)) w.size) = (.ok (), after) ∧
      Restored area after.disk (applyWrites w.disk (committing w).images) := by
  have outside : OutsideJournal area ((committing w).images.take done) :=
    fun write member => start.valid.outside write (List.mem_of_mem_take member)
  have inside := start.fixedLog_inside
  obtain ⟨control, committed⟩ := start.partial_cells _ outside
  have super : applyWrites w.disk (fixedLog w ++ (committing w).images.take done) 0 =
      commitSuper w := by
    rw [journalThenHome_super start.positive w.disk inside, start.partial_super, if_pos written]
  have home : SameHome area
      (applyWrites w.disk (fixedLog w ++ (committing w).images.take done))
      (applyWrites w.disk ((committing w).images.take done)) :=
    journalThenHome_home start.positive w.disk inside
  have all := home.applyWrites (committing w).images
  rw [WriteLog.applyWrites_take_then_all] at all
  have describes : Describes
      (applyWrites w.disk (fixedLog w ++ (committing w).images.take done) 0) w.sbi count := by
    rw [super]
    exact (commitSuper_same w).describes start.describes
  have final : applyWrites w.disk (committing w).images 0 = commitSuper w := by
    rw [← List.take_length (l := (committing w).images), start.partial_super, if_pos]
    rw [List.take_length]
    obtain ⟨image, member, zero⟩ := List.mem_map.mp written
    exact List.mem_map.mpr ⟨image, List.mem_of_mem_take member, zero⟩
  have mount := start.mount describes
  rw [start.replay_eq describes]
  generalize applyWrites w.disk (fixedLog w ++ (committing w).images.take done) = cells at *
  rw [full] at control committed
  obtain ⟨after, run, recovered⟩ := mount.replay_committed start.valid control
    (start.checkpointing_sequences control) (Or.inr ⟨rfl, commitSuper_flagged super w.size⟩) rfl
    committed.descriptor start.keeps committed.payload committed.commitRecord
  refine ⟨after, run, recovered.home.trans all, ?_⟩
  rw [recovered.cursors, final]
  change superCursors (cells 0) = _
  rw [super]

/-- Without the mark the replay takes the checkpoint for done. -/
theorem recovers_unmarked (full : (committing w).images.length = area.blocks - 3)
    (cells : Nat → Block) (describes : Describes (cells 0) w.sbi count)
    (control : FixedControl area (cells area.first) JOURNAL_V3_STATE_CHECKPOINTING
      w.sbi.journalActiveSequence w.sbi.journalActiveSequence w.sbi.journalSequence
      (committing w).images.length)
    (clean : journalNeedsRecovery (mounting cells w.size) = false) :
    ∃ after, journalV3Replay (mounting cells w.size) = (.ok (), after) ∧
      Restored area after.disk cells := by
  have opened := start.opened
  rw [full] at control
  obtain ⟨after, run, recovered⟩ := (start.mount describes).replay_settled control (by omega)
    (by omega) clean
  rw [start.replay_eq describes]
  exact ⟨after, run, recovered.home, recovered.cursors⟩

theorem final_super (recorded : (atCommit w).sbi.journalError = none) :
    applyWrites w.disk (committing w).images 0 = commitSuper w := by
  have super := start.partial_super (committing w).images.length
  rw [List.take_length, if_pos (start.recorded_super recorded)] at super
  exact super

/-- The device once the cleared superblock is on it. -/
theorem settled_cells (recorded : (atCommit w).sbi.journalError = none) (done : Nat) :
    applyWrites w.disk (fixedLog w ++ (fixedHome w ++ (fixedReset w).take done)) 0 =
        fixedCleanSuper w ∧
      Restored area (applyWrites w.disk (fixedLog w ++ (fixedHome w ++ (fixedReset w).take done)))
        (applyWrites w.disk (committing w).images) := by
  have inside : ∀ write, write ∈ (fixedReset w).take done → area.Inside write.1 :=
    fun write member => start.fixedReset_inside write (List.mem_of_mem_take member)
  have final := start.final_super recorded
  have reset := SameHome.journalWrites (applyWrites w.disk (fixedLog w ++ fixedHome w)) _
    start.positive inside
  have log : SameHome area (applyWrites w.disk (fixedLog w ++ fixedHome w))
      (applyWrites w.disk (fixedHome w)) :=
    journalThenHome_home start.positive w.disk start.fixedLog_inside
  have cleared : SameHome area (applyWrites w.disk (fixedHome w))
      (applyWrites w.disk (committing w).images) := by
    rw [fixedHome, WriteLog.applyWrites_concat]
    apply SameHome.storeSuper
    rw [final]
    exact recoveredSuper_same _ _ _ _
  have super := start.settled_super w.disk done
  refine ⟨super, ?_, ?_⟩
  · rw [← List.append_assoc, WriteLog.applyWrites_append]
    exact (reset.trans log).trans cleared
  · rw [super, final, fixedCleanSuper, commitSuper, recoveredSuper_cursors, recoveredSuper_cursors,
      (atCommit_cursors start.mode).1, (atCommit_cursors start.mode).2]

/-- Behind the cleared superblock nothing is left to do, until the journal is empty again. -/
theorem recovers_settled (full : (committing w).images.length = area.blocks - 3)
    (recorded : (atCommit w).sbi.journalError = none) (done : Nat) (busy : done < 3) :
    ∃ after, journalV3Replay (mounting (applyWrites w.disk
        (fixedLog w ++ (fixedHome w ++ (fixedReset w).take done))) w.size) = (.ok (), after) ∧
      Restored area after.disk (applyWrites w.disk (committing w).images) := by
  have fits := start.fits
  obtain ⟨super, restored⟩ := start.settled_cells recorded done
  have control := (start.partial_cells (fixedHome w) start.fixedHome_outside).1
  have kept : applyWrites w.disk (fixedLog w ++ (fixedHome w ++ (fixedReset w).take done))
      area.first = applyWrites w.disk (fixedLog w ++ fixedHome w) area.first := by
    have two : (fixedReset w).take done = ((fixedReset w).take 2).take done := by
      rw [List.take_take, Nat.min_eq_left (by omega)]
    rw [← List.append_assoc, WriteLog.applyWrites_append]
    apply WriteLog.applyWrites_other
    intro write member same
    rw [two] at member
    have early := List.mem_of_mem_take member
    rw [fixedReset, start.places_eq] at early
    simp only [List.take_succ_cons, List.take_zero, List.mem_cons, List.not_mem_nil, or_false,
      JournalArea.fixedPlaces] at early
    rcases early with rfl | rfl <;> dsimp only at same <;> omega
  rw [← kept] at control
  obtain ⟨after, run, left⟩ := start.recovers_unmarked full _ (start.settled_describes super)
    control (fixedCleanSuper_cleared super w.size)
  exact ⟨after, run, left.trans restored⟩

theorem recovers_idle (full : (committing w).images.length = area.blocks - 3)
    (recorded : (atCommit w).sbi.journalError = none) :
    ∃ after, journalV3Replay (mounting (applyWrites w.disk
        (fixedLog w ++ (fixedHome w ++ fixedReset w))) w.size) = (.ok (), after) ∧
      Restored area after.disk (applyWrites w.disk (committing w).images) := by
  have long := start.long
  have limit := start.limit
  unfold JOURNAL_V3_MIN_BLOCKS at long
  have same : (atCommit w).sbi.area = area :=
    start.mode.worked.area.trans start.ready.sameArea
  obtain ⟨super, restored⟩ := start.settled_cells recorded 3
  have whole : (fixedReset w).take 3 = fixedReset w := rfl
  rw [whole] at super restored
  have cells := start.reset_cells (applyWrites w.disk (fixedLog w ++ fixedHome w))
  rw [← WriteLog.applyWrites_append, List.append_assoc] at cells
  obtain ⟨descriptor, commit, control⟩ := cells
  have empty := reset_clean start.small (atCommit w).sbi (by rw [same]; exact long)
    (by rw [same]; exact limit) (committing w).images.length
  rw [same] at empty
  have clean : FixedClean (atCommit w).sbi area (applyWrites w.disk
      (fixedLog w ++ (fixedHome w ++ fixedReset w))) w.sbi.journalActiveSequence := by
    rw [full] at control
    constructor
    · exact control
    · rw [descriptor]
      exact empty.1
    · rw [descriptor, commit]
      exact empty.2.1
    · rw [descriptor]
      exact empty.2.2.1
    · rw [commit]
      exact empty.2.2.2
  obtain ⟨after, run, left⟩ := start.recovers_clean (start.settled_describes super) same clean
    (fixedCleanSuper_cleared super w.size)
  have kept : Restored area after.disk (applyWrites w.disk
      (fixedLog w ++ (fixedHome w ++ fixedReset w))) := ⟨left.home, left.cursors⟩
  exact ⟨after, run, kept.trans restored⟩

/-- Every control block of the commit states the transaction's own length. -/
theorem controls (write : Nat × Block)
    (member : write ∈ fixedLog w ++ (fixedHome w ++ fixedReset w)) (place : write.1 = area.first) :
    ∃ state last active checkpoint, FixedControl area write.2 state last active checkpoint
      (committing w).images.length := by
  have fits := start.fits
  have payloadStart : (fixedAllocation w).segment.payloadStart = area.first + 2 := by
    rw [start.places_eq]
    rfl
  have descriptorBlock : (fixedAllocation w).segment.descriptorBlock = area.first + 1 := by
    rw [start.places_eq]
    rfl
  have commitBlock : (fixedAllocation w).segment.commitBlock =
      area.first + area.blocks - 1 := by
    rw [start.places_eq]
    rfl
  have prepared : FixedControl area (journalV3PrepareControl (advanced w (fixedAllocation w))
      JOURNAL_V3_STATE_PREPARED w.sbi.journalSequence w.sbi.journalActiveSequence
      w.sbi.journalCheckpointSequence (fixedAllocation w).segment) JOURNAL_V3_STATE_PREPARED
      w.sbi.journalSequence w.sbi.journalActiveSequence w.sbi.journalSequence
      (committing w).images.length := by
    rw [start.advanced_eq, start.checkpoint]
    exact start.control (by decide) start.sequence_lt start.small start.sequence_lt
  have checkpointing : FixedControl area (journalV3PrepareControl (atCommit w).sbi
      JOURNAL_V3_STATE_CHECKPOINTING w.sbi.journalActiveSequence w.sbi.journalActiveSequence
      w.sbi.journalSequence (fixedAllocation w).segment) JOURNAL_V3_STATE_CHECKPOINTING
      w.sbi.journalActiveSequence w.sbi.journalActiveSequence w.sbi.journalSequence
      (committing w).images.length :=
    start.control (Nat.le_refl _) start.small start.small start.sequence_lt
  have idle : FixedControl area (journalV3PrepareControl (atCommit w).sbi
      JOURNAL_V3_STATE_IDLE w.sbi.journalActiveSequence 0 w.sbi.journalActiveSequence
      (fixedAllocation w).segment) JOURNAL_V3_STATE_IDLE w.sbi.journalActiveSequence 0
      w.sbi.journalActiveSequence (committing w).images.length :=
    start.control (by decide) start.small (by decide) start.small
  rcases List.mem_append.mp member with log | later
  · rcases List.mem_append.mp log with early | late
    · rcases List.mem_append.mp early with payload | rest
      · have low := (payloadWrites_place _ _ _ payload).1
        omega
      · simp only [List.mem_cons, List.not_mem_nil, or_false] at rest
        rcases rest with rfl | rfl
        · dsimp only at place
          omega
        · exact ⟨_, _, _, _, prepared⟩
    · simp only [List.mem_cons, List.not_mem_nil, or_false] at late
      rcases late with rfl | rfl
      · dsimp only at place
        omega
      · exact ⟨_, _, _, _, checkpointing⟩
  · rcases List.mem_append.mp later with home | reset
    · exact absurd (place ▸ start.control_inside) (start.fixedHome_outside write home)
    · simp only [fixedReset, List.mem_cons, List.not_mem_nil, or_false] at reset
      rcases reset with rfl | rfl | rfl
      · dsimp only at place
        omega
      · dsimp only at place
        omega
      · exact ⟨_, _, _, _, idle⟩

/-- A transaction that does not fill the payload area is refused once its control block is
written. -/
theorem refuses_short (short : (committing w).images.length ≠ area.blocks - 3)
    (writes : List (Nat × Block))
    (part : ∀ write, write ∈ writes → write ∈ fixedLog w ++ (fixedHome w ++ fixedReset w))
    (named : area.first ∈ writes.map Prod.fst) :
    (journalV3Replay (mounting (applyWrites w.disk writes) w.size)).1 = .error .euclean := by
  obtain ⟨write, member, place⟩ := List.mem_map.mp named
  have found : (area.first, applyWrites w.disk writes area.first) ∈ writes := by
    rw [WriteLog.applyWrites_written w.disk (fun _ => write.2) writes area.first named]
    rcases WriteLog.applyWrites_mem_or_other (fun _ => write.2) writes area.first with same | here
    · rw [same, ← place]
      exact member
    · exact here
  obtain ⟨state, last, active, checkpoint, control⟩ := start.controls _ (part _ found) rfl
  exact start.refused (start.written_describes start.device writes part) control short

/-- The device behind `done` home writes, the superblock not among them: the checkpoint is
taken for done. -/
theorem recovers_partial (full : (committing w).images.length = area.blocks - 3) (done : Nat)
    (absent : 0 ∉ ((committing w).images.take done).map Prod.fst) :
    ∃ after, journalV3Replay (mounting (applyWrites w.disk
        (fixedLog w ++ (committing w).images.take done)) w.size) = (.ok (), after) ∧
      Restored area after.disk (applyWrites w.disk ((committing w).images.take done)) := by
  have outside : OutsideJournal area ((committing w).images.take done) :=
    fun write member => start.valid.outside write (List.mem_of_mem_take member)
  have same : applyWrites w.disk (fixedLog w ++ (committing w).images.take done) 0 =
      applyWrites w.disk ((committing w).images.take done) 0 :=
    journalThenHome_super start.positive w.disk start.fixedLog_inside
  have super := start.partial_super done
  rw [if_neg absent] at super
  have home : SameHome area
      (applyWrites w.disk (fixedLog w ++ (committing w).images.take done))
      (applyWrites w.disk ((committing w).images.take done)) :=
    journalThenHome_home start.positive w.disk start.fixedLog_inside
  obtain ⟨after, run, restored⟩ := start.recovers_unmarked full _
    (start.described (same.trans super)) (start.partial_cells _ outside).1
    (start.unmarked (same.trans super))
  exact ⟨after, run, restored.trans ⟨home, congrArg superCursors same⟩⟩

theorem fails_short (short : (committing w).images.length ≠ area.blocks - 3)
    (written home reset : Nat) (late : (committing w).images.length + 2 ≤ written) :
    (journalV3Replay (mounting (applyWrites w.disk ((fixedLog w).take written ++
      ((fixedHome w).take home ++ (fixedReset w).take reset))) w.size)).1 = .error .euclean := by
  apply start.refuses_short short _ (fixedWrites_part w written home reset)
  have named : area.first ∈ ((fixedLog w).take
      ((committing w).images.length + 2)).map Prod.fst := by
    rw [fixedLog_take, prepareWrites, start.journalBlock]
    simp only [List.map_append, List.map_cons, List.mem_append, List.mem_cons, true_or,
      or_true]
  rw [List.map_append]
  apply List.mem_append_left
  exact List.map_subset Prod.fst (List.take_subset_take_left (fixedLog w) late) named

/-- The home writes of a commit that is wholly logged, and what follows them. -/
theorem atomic_home (full : (committing w).images.length = area.blocks - 3)
    (recorded : (atCommit w).sbi.journalError = none) (done : Nat) :
    ∃ after, journalV3Replay (mounting (applyWrites w.disk (fixedLog w ++
        ((fixedHome w).take done ++
          (fixedReset w).take (done - ((committing w).images.length + 1))))) w.size) =
        (.ok (), after) ∧
      (Restored area after.disk (applyWrites w.disk (committing w).images) ↔
        0 ∈ ((committing w).images.take done).map Prod.fst ∨
          Restored area (applyWrites w.disk ((committing w).images.take done))
            (applyWrites w.disk (committing w).images)) := by
  rcases Nat.lt_or_ge (committing w).images.length done with past | early
  case inl =>
    have whole : (committing w).images.take done = (committing w).images :=
      List.take_of_length_le (by omega)
    have home : (fixedHome w).take done = fixedHome w := by
      apply List.take_of_length_le
      rw [fixedHome_length]
      omega
    have super := start.recorded_super recorded
    rw [whole, home]
    rcases Nat.lt_or_ge (done - ((committing w).images.length + 1)) 3 with busy | after
    · obtain ⟨after, run, restored⟩ := start.recovers_settled full recorded _ busy
      exact ⟨after, run, iff_of_true restored (Or.inl super)⟩
    · have reset : (fixedReset w).take (done - ((committing w).images.length + 1)) =
          fixedReset w := List.take_of_length_le after
      rw [reset]
      obtain ⟨after, run, restored⟩ := start.recovers_idle full recorded
      exact ⟨after, run, iff_of_true restored (Or.inl super)⟩
  case inr =>
    have home : (fixedHome w).take done = (committing w).images.take done :=
      List.take_append_of_le_length early
    rw [home, Nat.sub_eq_zero_of_le (by omega), List.take_zero, List.append_nil]
    by_cases written : 0 ∈ ((committing w).images.take done).map Prod.fst
    case pos =>
      obtain ⟨after, run, restored⟩ := start.recovers_marked full done written
      exact ⟨after, run, iff_of_true restored (Or.inl written)⟩
    case neg =>
      obtain ⟨after, run, left⟩ := start.recovers_partial full done written
      refine ⟨after, run, ?_, ?_⟩
      · intro restored
        exact Or.inr (left.symm.trans restored)
      · intro settled
        exact left.trans (settled.resolve_left written)

end FixedStart

end Cryexts
