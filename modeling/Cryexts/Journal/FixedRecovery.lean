import Cryexts.Journal.FixedCommit

set_option autoImplicit false

namespace Cryexts

open WriteLog (store applyWrites)

/-- What a fixed journal's control block says, all its checks passed but the one of its
payload length. -/
structure FixedControl (area : JournalArea) (buf : Block)
    (state last active checkpoint entries : Nat) : Prop where
  magic : (JournalV3Control.ofBlock buf).magic = JOURNAL_V3_MAGIC
  layoutVersion : (JournalV3Control.ofBlock buf).layoutVersion = JOURNAL_V3_LAYOUT_VERSION
  blockType : (JournalV3Control.ofBlock buf).blockType = JOURNAL_V3_BLOCK_CONTROL
  features : (JournalV3Control.ofBlock buf).features = JOURNAL_V3_FEATURE_REDO
  stateIs : (JournalV3Control.ofBlock buf).state = state
  lastIs : (JournalV3Control.ofBlock buf).lastSequence = last
  activeIs : (JournalV3Control.ofBlock buf).activeSequence = active
  checkpointIs : (JournalV3Control.ofBlock buf).checkpointSequence = checkpoint
  descriptorBlock : (JournalV3Control.ofBlock buf).descriptorBlock = area.first + 1
  payloadStart : (JournalV3Control.ofBlock buf).payloadStart = area.first + 2
  payloadBlocks : (JournalV3Control.ofBlock buf).payloadBlocks = entries
  commitBlock : (JournalV3Control.ofBlock buf).commitBlock = area.first + area.blocks - 1
  ringHead : (JournalV3Control.ofBlock buf).ringHead = 0
  ringTail : (JournalV3Control.ofBlock buf).ringTail = 0
  ringStart : (JournalV3Control.ofBlock buf).ringStart = 0
  ringEnd : (JournalV3Control.ofBlock buf).ringEnd = 0
  valid : ChecksumValid buf

namespace FixedControl

/-- The control block the fixed layout writes itself. -/
theorem prepared (sbi : SbInfo) (fixed : sbi.journalRing = false)
    {state last active checkpoint entries : Nat} (known : state ≤ JOURNAL_V3_STATE_CHECKPOINTING)
    (lastSmall : last < 2 ^ 64) (activeSmall : active < 2 ^ 64) (checkpointSmall : checkpoint < 2 ^ 64)
    (long : 4 ≤ sbi.area.blocks) (limit : sbi.area.first + sbi.area.blocks < 2 ^ 64)
    (fits : entries ≤ sbi.area.blocks) :
    FixedControl sbi.area (journalV3PrepareControl sbi state last active checkpoint
      (sbi.area.fixedPlaces entries)) state last active checkpoint entries := by
  have bounded : ControlFits sbi state last active checkpoint (sbi.area.fixedPlaces entries) := by
    refine ⟨known, lastSmall, activeSmall, checkpointSmall, ⟨?_, ?_, ?_⟩, ?_, limit, ?_⟩
    · simp only [JournalArea.fixedPlaces]
      omega
    · simp only [JournalArea.fixedPlaces]
      omega
    · simp only [JournalArea.fixedPlaces]
      omega
    · simp only [JournalArea.fixedPlaces]
      omega
    · intro ring
      rw [fixed] at ring
      exact absurd ring Bool.false_ne_true
  have read := ofBlock_prepareControl bounded
  constructor
  case valid => exact sealMembers_valid _
  all_goals
    rw [read]
    simp only [journalV3ControlFields, SbInfo.journalV3Features, fixed]
  all_goals rfl

theorem accepted {area : JournalArea} {buf : Block} {state last active checkpoint entries : Nat}
    (control : FixedControl area buf state last active checkpoint entries) (sbi : SbInfo)
    (fixed : sbi.journalRing = false) (same : sbi.area = area) :
    ControlHeaderValid sbi (JournalV3Control.ofBlock buf) ∧
      sbi.RingValid (JournalV3Control.ofBlock buf) ∧
      ∀ payloadBlocks, ControlPlacesFixed sbi (JournalV3Control.ofBlock buf) payloadBlocks ↔
        entries = payloadBlocks := by
  subst same
  refine ⟨⟨control.magic, control.layoutVersion, control.blockType, ?_⟩, ?_, ?_⟩
  · rw [control.features, SbInfo.journalV3Features, fixed]
    rfl
  · unfold SbInfo.RingValid
    rw [fixed, if_neg Bool.false_ne_true]
    exact ⟨control.ringHead, control.ringTail, control.ringStart, control.ringEnd⟩
  · intro payloadBlocks
    constructor
    · intro places
      rw [← control.payloadBlocks]
      exact places.2.2.1
    · rintro rfl
      exact ⟨control.descriptorBlock, control.payloadStart, control.payloadBlocks,
        control.commitBlock⟩

end FixedControl

/-- The mount a fixed journal's recovery runs in: its buffers are the device. -/
structure FixedMount (v : World) (area : JournalArea) (count : Nat) : Prop
    extends Ready v area count where
  fresh : v.disk = v.cache
  fixed : v.sbi.journalRing = false
  idle : v.sbi.journalReplaying = false
  first : 0 < area.first
  long : 4 ≤ area.blocks
  limit : area.first + area.blocks < 2 ^ 64
  cursors : superCursors (v.cache 0) = (u64 v.sbi.nextIno, u64 v.sbi.nextDataBlock)

/-- A recovered device: the home content it owes, and the allocation cursors it had. -/
structure FixedRecovered (area : JournalArea) (before after expected : Nat → Block) : Prop where
  home : SameHome area after expected
  cursors : superCursors (after 0) = superCursors (before 0)

theorem journalV3Replay_fixed {v : World} (fixed : v.sbi.journalRing = false) :
    journalV3Replay v = journalV3ReplayFixed v := by
  rw [journalV3Replay, Routine.read_bind, fixed, if_neg Bool.false_ne_true]

namespace FixedMount

variable {v : World} {area : JournalArea} {count : Nat} (mount : FixedMount v area count)
include mount

theorem journalBlock : v.sbi.journalBlock = area.first :=
  congrArg JournalArea.first mount.sameArea

theorem journalBlocks : v.sbi.journalBlocks = area.blocks :=
  congrArg JournalArea.blocks mount.sameArea

theorem areaBlocks : v.sbi.journalV2PayloadAreaBlocks = area.blocks - 3 := by
  have long := mount.long
  rw [SbInfo.journalV2PayloadAreaBlocks, mount.journalBlocks, if_neg]
  exact Nat.not_lt.mpr long

theorem inside (block : Nat) (member : area.Inside block) : block < v.size :=
  lt_of_lt_of_le member.2 mount.journal

/-- The replay up to its look at the control block. -/
theorem replay_start : journalV3ReplayFixed v = (do
    let controlBuf : Block := v.cache area.first
    let control := JournalV3Control.ofBlock controlBuf
    let places := area.fixedPlaces (area.blocks - 3)
    Routine.require (ControlHeaderValid v.sbi control ∧
      ControlPlacesFixed v.sbi control (area.blocks - 3) ∧ v.sbi.RingValid control ∧
      ChecksumValid controlBuf) .euclean
    if control.state = JOURNAL_V3_STATE_IDLE then
      if journalNeedsRecovery v = false then journalV3ValidateClean
      else do
        Routine.require (control.activeSequence = 0 ∧
          control.checkpointSequence = control.lastSequence) .euclean
        replayDiscard control.lastSequence places
    else do
      Routine.require (control.state ≤ JOURNAL_V3_STATE_CHECKPOINTING) .euclean
      Routine.require (ControlSequencesValid control) .euclean
      if control.state = JOURNAL_V3_STATE_CHECKPOINTING ∧ journalNeedsRecovery v = false then
        replayDiscard control.lastSequence places
      else if control.state = JOURNAL_V3_STATE_ACTIVE then
        replayDiscard control.lastSequence places
      else do
        let descriptorBuf ← readFileBlock places.descriptorBlock
        let commitBuf ← readFileBlock places.commitBlock
        Routine.require (ReplayDescriptorValid v.sbi control.activeSequence descriptorBuf) .euclean
        if ReplayCommitReadable v.sbi commitBuf ∧ (JournalV3Commit.ofBlock commitBuf).flags ≠ 0 then
          replayTransaction control descriptorBuf commitBuf places
        else if control.state = JOURNAL_V3_STATE_PREPARED then
          replayDiscard control.lastSequence places
        else Routine.fail .euclean : Kernel Unit) v := by
  have long := mount.long
  have places : (⟨v.sbi.journalV2DescriptorBlock, v.sbi.journalV2PayloadStart,
      v.sbi.journalV2PayloadAreaBlocks, v.sbi.journalV2CommitBlock⟩ : JournalV3Segment) =
        area.fixedPlaces (area.blocks - 3) := by
    rw [mount.areaBlocks, SbInfo.journalV2DescriptorBlock, SbInfo.journalV2PayloadStart,
      SbInfo.journalV2CommitBlock, mount.journalBlock, mount.journalBlocks]
    rfl
  have here : area.Inside area.first := by
    unfold JournalArea.Inside
    omega
  rw [journalV3ReplayFixed, kmalloc_bind v mount.healthy, Routine.read_bind, mount.journalBlock,
    readFileBlock_bind v mount.healthy _ _ (mount.inside _ here), places, mount.areaBlocks]

/-- A control block that names a payload area of another length is refused. -/
theorem refuses_length {state last active checkpoint entries : Nat}
    (control : FixedControl area (v.cache area.first) state last active checkpoint entries)
    (short : entries ≠ area.blocks - 3) : (journalV3ReplayFixed v).1 = .error .euclean := by
  have accepted := control.accepted v.sbi mount.fixed mount.sameArea
  rw [mount.replay_start]
  dsimp only
  rw [Routine.bind_error _ _ _ v .euclean]
  rw [Routine.require, if_neg]
  · rfl
  · intro valid
    exact short ((accepted.2.2 _).mp valid.2.1)

/-- A clean control block without a recovery mark leads to the clean check. -/
theorem replay_idle {last : Nat}
    (control : FixedControl area (v.cache area.first) JOURNAL_V3_STATE_IDLE last 0 last
      (area.blocks - 3)) (clean : journalNeedsRecovery v = false) :
    journalV3ReplayFixed v = journalV3ValidateClean v := by
  have accepted := control.accepted v.sbi mount.fixed mount.sameArea
  rw [mount.replay_start]
  dsimp only
  rw [Routine.require_bind _ _ _ _ ⟨accepted.1, (accepted.2.2 _).mpr rfl, accepted.2.1,
    control.valid⟩, if_pos control.stateIs, if_pos clean]

/-- The clean check reads three blocks. -/
theorem validate_start : journalV3ValidateClean v = (do
    let control := JournalV3Control.ofBlock (v.cache area.first)
    Routine.require (ControlHeaderValid v.sbi control ∧
      ControlPlacesFixed v.sbi control (area.blocks - 3)) .euclean
    Routine.require (v.sbi.RingValid control) .euclean
    let descriptorBuf ← readFileBlock (area.first + 1)
    let commitBuf ← readFileBlock (area.first + area.blocks - 1)
    Routine.require (ChecksumValid (v.cache area.first)) .euclean
    Routine.require (control.state ≤ JOURNAL_V3_STATE_CHECKPOINTING) .euclean
    Routine.require (control.state = JOURNAL_V3_STATE_IDLE) .eopnotsupp
    Routine.require (CleanDescriptor v.sbi descriptorBuf) .euclean
    Routine.require (CleanCommit v.sbi descriptorBuf commitBuf) .euclean
    Routine.require (control.activeSequence = 0 ∧
      control.checkpointSequence = control.lastSequence ∧
      (JournalV3Descriptor.ofBlock descriptorBuf).sequence = control.lastSequence ∧
      (JournalV3Commit.ofBlock commitBuf).sequence = control.lastSequence) .euclean
    Routine.modify fun w =>
      { w with sbi := { setSequences control.lastSequence w.sbi with
          journalActiveSequence := 0
          journalRingHead := control.ringHead
          journalRingTail := control.ringTail } } : Kernel Unit) v := by
  have long := mount.long
  have here : area.Inside area.first := by
    unfold JournalArea.Inside
    omega
  rw [journalV3ValidateClean, kmalloc_bind v mount.healthy, Routine.read_bind, mount.journalBlock,
    readFileBlock_bind v mount.healthy _ _ (mount.inside _ here), mount.journalBlocks]
  simp only [mount.fixed, Bool.false_eq_true, ↓reduceIte]

/-- The rest of the clean check over a control block that passed. -/
theorem validate_idle {last : Nat}
    (control : FixedControl area (v.cache area.first) JOURNAL_V3_STATE_IDLE last 0 last
      (area.blocks - 3)) : journalV3ValidateClean v = (do
    let descriptorBuf : Block := v.cache (area.first + 1)
    let commitBuf : Block := v.cache (area.first + area.blocks - 1)
    Routine.require (CleanDescriptor v.sbi descriptorBuf) .euclean
    Routine.require (CleanCommit v.sbi descriptorBuf commitBuf) .euclean
    Routine.require (0 = 0 ∧ last = last ∧
      (JournalV3Descriptor.ofBlock descriptorBuf).sequence = last ∧
      (JournalV3Commit.ofBlock commitBuf).sequence = last) .euclean
    Routine.modify fun w =>
      { w with sbi := { setSequences last w.sbi with
          journalActiveSequence := 0
          journalRingHead := 0
          journalRingTail := 0 } } : Kernel Unit) v := by
  have accepted := control.accepted v.sbi mount.fixed mount.sameArea
  have long := mount.long
  have second : area.first + 1 < v.size := by
    apply mount.inside
    unfold JournalArea.Inside
    omega
  have final : area.first + area.blocks - 1 < v.size := by
    apply mount.inside
    unfold JournalArea.Inside
    omega
  rw [mount.validate_start]
  dsimp only
  rw [Routine.require_bind _ _ _ _ ⟨accepted.1, (accepted.2.2 _).mpr rfl⟩,
    Routine.require_bind _ _ _ _ accepted.2.1, readFileBlock_bind v mount.healthy _ _ second,
    readFileBlock_bind v mount.healthy _ _ final, Routine.require_bind _ _ _ _ control.valid,
    Routine.require_bind _ _ _ _ (by rw [control.stateIs]; decide),
    Routine.require_bind _ _ _ _ control.stateIs, control.activeIs, control.checkpointIs,
    control.lastIs, control.ringHead, control.ringTail]

end FixedMount

/-- An empty fixed journal: its three blocks pass the clean check. -/
structure FixedClean (sbi : SbInfo) (area : JournalArea) (cells : Nat → Block) (last : Nat) :
    Prop where
  control : FixedControl area (cells area.first) JOURNAL_V3_STATE_IDLE last 0 last
    (area.blocks - 3)
  descriptor : CleanDescriptor sbi (cells (area.first + 1))
  commit : CleanCommit sbi (cells (area.first + 1)) (cells (area.first + area.blocks - 1))
  described : (JournalV3Descriptor.ofBlock (cells (area.first + 1))).sequence = last
  recorded : (JournalV3Commit.ofBlock (cells (area.first + area.blocks - 1))).sequence = last

/-- A transaction without images. -/
def emptyTransaction (sequence : Nat) : Transaction := ⟨sequence, []⟩

theorem emptyTransaction_valid {sequence : Nat} (small : sequence < 2 ^ 64) (area : JournalArea)
    (count : Nat) : (emptyTransaction sequence).Valid area count where
  fits := Nat.zero_le _
  bounded := small
  home := fun _ member => absurd member List.not_mem_nil
  distinct := List.nodup_nil

theorem journalV3EmptyDescriptor_eq (sequence : Nat) (places : JournalV3Segment) :
    journalV3EmptyDescriptor sequence places =
      (emptyTransaction sequence).descriptor places := by
  rw [journalV3EmptyDescriptor, ← (emptyTransaction sequence).descriptor_eq places]
  simp only [emptyTransaction, Transaction.entries, List.map_nil, JournalV3Entry.allMembers,
    ByteBuf.setAll_nil, List.length_nil]

theorem ofBlock_emptyCommit {sequence : Nat} (small : sequence < 2 ^ 64)
    (places : JournalV3Segment) (bounded : places.Bounded) :
    JournalV3Commit.ofBlock (journalV3EmptyCommit sequence places) =
      { magic := JOURNAL_V3_MAGIC
        layoutVersion := JOURNAL_V3_LAYOUT_VERSION
        blockType := JOURNAL_V3_BLOCK_COMMIT
        flags := 0
        entryCount := 0
        checksum := (journalV3EmptyCommit sequence places).get journalChecksum
        descriptorChecksum := (journalV3EmptyDescriptor sequence places).get journalChecksum
        payloadChecksum := 0
        sequence := sequence
        descriptorBlock := places.descriptorBlock } := by
  have sum := ByteBuf.get_lt (journalV3EmptyDescriptor sequence places) journalChecksum
  have width : journalChecksum.width = 4 := rfl
  have place := bounded.descriptorBlock
  rw [width] at sum
  rw [journalV3EmptyCommit, journalV3PrepareCommit, JournalV3Commit.ofBlock_sealMembers]
  · rw [sealMembers, get_sealBlock_checksum]
    rfl
  · intro member inside
    simp only [JournalV3Commit.members, List.mem_cons, List.not_mem_nil, or_false] at inside
    rcases inside with rfl | rfl | rfl | rfl | rfl | rfl | rfl | rfl | rfl <;>
      simp only [JOURNAL_V3_MAGIC, JOURNAL_V3_LAYOUT_VERSION, JOURNAL_V3_BLOCK_COMMIT,
        Bool.false_eq_true, ↓reduceIte] <;> omega

/-- The two blocks a reset writes are those of an empty journal. -/
theorem reset_clean {sequence : Nat} (small : sequence < 2 ^ 64) (sbi : SbInfo)
    (long : 4 ≤ sbi.area.blocks) (limit : sbi.area.first + sbi.area.blocks < 2 ^ 64)
    (entries : Nat) :
    CleanDescriptor sbi (journalV3EmptyDescriptor sequence (sbi.area.fixedPlaces entries)) ∧
      CleanCommit sbi (journalV3EmptyDescriptor sequence (sbi.area.fixedPlaces entries))
        (journalV3EmptyCommit sequence (sbi.area.fixedPlaces entries)) ∧
      (JournalV3Descriptor.ofBlock
        (journalV3EmptyDescriptor sequence (sbi.area.fixedPlaces entries))).sequence = sequence ∧
      (JournalV3Commit.ofBlock
        (journalV3EmptyCommit sequence (sbi.area.fixedPlaces entries))).sequence = sequence := by
  have bounded : (sbi.area.fixedPlaces entries).Bounded := by
    constructor <;> simp only [JournalArea.fixedPlaces] <;> omega
  have valid := emptyTransaction_valid small sbi.area 0
  have descriptor := (emptyTransaction sequence).ofBlock_descriptor (sbi.area.fixedPlaces entries)
    sbi.area 0 valid bounded (Nat.zero_le _)
  have commit := ofBlock_emptyCommit small (sbi.area.fixedPlaces entries) bounded
  rw [← journalV3EmptyDescriptor_eq] at descriptor
  refine ⟨?_, ?_, ?_, ?_⟩
  · unfold CleanDescriptor
    rw [descriptor]
    refine ⟨rfl, rfl, rfl, rfl, rfl, rfl, rfl, ?_, ?_⟩
    · rw [journalV3EmptyDescriptor_eq]
      exact (emptyTransaction sequence).descriptor_valid _
    · intro index before past
      rw [journalV3EmptyDescriptor_eq]
      exact JournalV3Descriptor.entry_sealMembers_blank _ _ _ before past
  · unfold CleanCommit
    rw [commit, descriptor]
    exact ⟨rfl, rfl, rfl, rfl, rfl, rfl, rfl, rfl, sealMembers_valid _⟩
  · rw [descriptor]
    rfl
  · rw [commit]

/-- The mount's journal state after the clean check. -/
def fixedCleanSbi (sbi : SbInfo) (last : Nat) : SbInfo :=
  { setSequences last sbi with
    journalActiveSequence := 0
    journalRingHead := 0
    journalRingTail := 0 }

namespace FixedMount

variable {v : World} {area : JournalArea} {count : Nat} (mount : FixedMount v area count)
include mount

theorem validate_clean {last : Nat} (clean : FixedClean v.sbi area v.cache last) :
    journalV3ValidateClean v = (.ok (), { v with sbi := fixedCleanSbi v.sbi last }) := by
  rw [mount.validate_idle clean.control]
  dsimp only
  rw [Routine.require_bind _ _ _ _ clean.descriptor, Routine.require_bind _ _ _ _ clean.commit,
    Routine.require_bind _ _ _ _ ⟨rfl, rfl, clean.described, clean.recorded⟩]
  rfl

/-- A descriptor that still names images is refused by the clean check. -/
theorem refuses_descriptor {last : Nat}
    (control : FixedControl area (v.cache area.first) JOURNAL_V3_STATE_IDLE last 0 last
      (area.blocks - 3)) (logged : ¬ CleanDescriptor v.sbi (v.cache (area.first + 1))) :
    (journalV3ValidateClean v).1 = .error .euclean := by
  rw [mount.validate_idle control]
  dsimp only
  rw [Routine.bind_error _ _ _ v .euclean]
  rw [Routine.require, if_neg logged]
  rfl

/-- Whatever the clean check accepts is an empty journal. -/
theorem of_validate {after : World} (accepted : journalV3ValidateClean v = (.ok (), after)) :
    ∃ last, FixedClean v.sbi area v.cache last ∧
      after = { v with sbi := fixedCleanSbi v.sbi last } := by
  have long := mount.long
  have block := mount.journalBlock
  have blocks := mount.journalBlocks
  have second : area.first + 1 < v.size := by
    apply mount.inside
    unfold JournalArea.Inside
    omega
  have final : area.first + area.blocks - 1 < v.size := by
    apply mount.inside
    unfold JournalArea.Inside
    omega
  have start := accepted
  rw [mount.validate_start] at start
  dsimp only at start
  obtain ⟨⟨header, places⟩, start⟩ := Routine.of_require_bind_ok _ _ _ _ _ _ start
  obtain ⟨legacy, start⟩ := Routine.of_require_bind_ok _ _ _ _ _ _ start
  rw [readFileBlock_bind v mount.healthy _ _ second, readFileBlock_bind v mount.healthy _ _ final]
    at start
  obtain ⟨valid, start⟩ := Routine.of_require_bind_ok _ _ _ _ _ _ start
  obtain ⟨_, start⟩ := Routine.of_require_bind_ok _ _ _ _ _ _ start
  obtain ⟨idle, start⟩ := Routine.of_require_bind_ok _ _ _ _ _ _ start
  obtain ⟨descriptor, start⟩ := Routine.of_require_bind_ok _ _ _ _ _ _ start
  obtain ⟨commit, start⟩ := Routine.of_require_bind_ok _ _ _ _ _ _ start
  obtain ⟨⟨active, checkpoint, described, recorded⟩, _⟩ :=
    Routine.of_require_bind_ok _ _ _ _ _ _ start
  obtain ⟨magic, layoutVersion, blockType, features⟩ := header
  obtain ⟨descriptorBlock, payloadStart, payloadBlocks, commitBlock⟩ := places
  rw [block] at descriptorBlock payloadStart
  rw [block, blocks] at commitBlock
  unfold SbInfo.RingValid at legacy
  rw [mount.fixed, if_neg Bool.false_ne_true] at legacy
  rw [SbInfo.journalV3Features, mount.fixed] at features
  have clean : FixedClean v.sbi area v.cache
      (JournalV3Control.ofBlock (v.cache area.first)).lastSequence :=
    ⟨⟨magic, layoutVersion, blockType, features, idle, rfl, active, checkpoint, descriptorBlock,
      payloadStart, payloadBlocks, commitBlock, legacy.1, legacy.2.1, legacy.2.2.1, legacy.2.2.2,
      valid⟩, descriptor, commit, described, recorded⟩
  refine ⟨_, clean, ?_⟩
  rw [mount.validate_clean clean] at accepted
  exact (Prod.mk.inj accepted).2.symm

end FixedMount

section Finish

variable {area : JournalArea} (sbi : SbInfo) (first : 0 < area.first) (cells : Nat → Block)
variable (last : Nat) (places : JournalV3Segment)
variable (inside : ∀ write, write ∈ resetWrites sbi last places → area.Inside write.1)
include first inside

/-- What every replay ends with leaves the home blocks as they are. -/
theorem finishWrites_home :
    SameHome area (applyWrites cells (finishWrites sbi (cells 0) last places)) cells := by
  rw [finishWrites, WriteLog.applyWrites_cons]
  refine (SameHome.journalWrites _ _ first inside).trans (SameHome.storeSuper _ _ ?_)
  exact (recoveredSuper_same _ _ _ _).trans (setJournalSequence_same _ _)

/-- The superblock every replay ends with. -/
theorem finishWrites_super (super : Block) :
    applyWrites cells (finishWrites sbi super last places) 0 =
      recoveredSuper false (super.set Super.journalSequence last) sbi.nextIno
        sbi.nextDataBlock := by
  rw [finishWrites, WriteLog.applyWrites_cons, WriteLog.applyWrites_other, WriteLog.store_same]
  intro write member zero
  have low := (inside write member).1
  omega

/-- The allocation cursors become the mount's. -/
theorem finishWrites_cursors :
    superCursors (applyWrites cells (finishWrites sbi (cells 0) last places) 0) =
      (u64 sbi.nextIno, u64 sbi.nextDataBlock) := by
  rw [finishWrites_super sbi first cells last places inside, recoveredSuper_cursors]

end Finish

/-- The fixed layout resets the places of an empty journal, whatever it is given. -/
theorem resetPlaces_fixed {sbi : SbInfo} {area : JournalArea} (same : sbi.area = area)
    (fixed : sbi.journalRing = false) (long : 4 ≤ area.blocks) (places : JournalV3Segment) :
    sbi.resetPlaces places = area.fixedPlaces (area.blocks - 3) := by
  subst same
  have short : ¬ sbi.journalBlocks < JOURNAL_V2_MIN_BLOCKS := Nat.not_lt.mpr long
  rw [SbInfo.resetPlaces, fixed, if_neg Bool.false_ne_true, SbInfo.journalV2PayloadAreaBlocks,
    if_neg short]
  rfl

/-- `discard` of the fixed layout where nothing fails. -/
theorem resetWrites_fixed {sbi : SbInfo} {area : JournalArea} (same : sbi.area = area)
    (fixed : sbi.journalRing = false) (long : 4 ≤ area.blocks) (last : Nat)
    (places : JournalV3Segment) (write : Nat × Block) (member : write ∈ resetWrites sbi last places) :
    area.Inside write.1 := by
  have block : sbi.journalBlock = area.first := congrArg JournalArea.first same
  simp only [resetWrites, resetPlaces_fixed same fixed long places, List.mem_cons,
    List.not_mem_nil, or_false] at member
  rcases member with rfl | rfl | rfl
  · simp only [JournalArea.fixedPlaces, JournalArea.Inside]
    omega
  · simp only [JournalArea.fixedPlaces, JournalArea.Inside]
    omega
  · simp only [JournalArea.Inside]
    omega

theorem replayDiscard_run {w : World} {area : JournalArea} (healthy : w.Healthy)
    (idle : w.sbi.journalReplaying = false) (same : w.sbi.area = area)
    (fixed : w.sbi.journalRing = false) (long : 4 ≤ area.blocks)
    (room : area.first + area.blocks ≤ w.size) (last : Nat) (places : JournalV3Segment) :
    replayDiscard last places w = (.ok (),
      { w.writtenAll (finishWrites (setSequences last w.sbi) (w.cache 0) last places) with
        sbi := (setSequences last w.sbi).journalV3ClearRuntime }) := by
  have reset : (setSequences last w.sbi).resetPlaces places =
      area.fixedPlaces (area.blocks - 3) := resetPlaces_fixed same fixed long places
  have block : w.sbi.journalBlock = area.first := congrArg JournalArea.first same
  have finish := finishReplay_run { w with sbi := setSequences last w.sbi }
    ⟨healthy.noFaults, healthy.current⟩ idle last places
    (by
      change w.sbi.journalBlock < w.size
      omega)
    (by
      rw [reset]
      change area.first + 1 < w.size
      omega)
    (by
      rw [reset]
      change area.first + area.blocks - 1 < w.size
      omega)
  simp only [World.writtenAll_with_sbi] at finish
  rw [replayDiscard, Routine.modify_bind]
  exact finish

namespace FixedMount

variable {v : World} {area : JournalArea} {count : Nat} (mount : FixedMount v area count)
include mount

/-- `discard` behind further writes leaves the home blocks those writes have left. -/
theorem discards (writes : List (Nat × Block)) (keeps : KeepsCount count writes)
    (last : Nat) (places : JournalV3Segment) :
    ∃ after, replayDiscard last places (v.writtenAll writes) = (.ok (), after) ∧
      FixedRecovered area v.cache after.disk (applyWrites v.cache writes) := by
  have ready := mount.toReady.written writes keeps
  have sbi : (v.writtenAll writes).sbi = v.sbi := World.writtenAll_sbi _ _
  have cache : (v.writtenAll writes).cache = applyWrites v.cache writes :=
    World.writtenAll_cache _ _
  have disk : (v.writtenAll writes).disk = applyWrites v.cache writes := by
    rw [World.writtenAll_disk, mount.fresh]
  have long := mount.long
  generalize v.writtenAll writes = w at *
  have fixed : w.sbi.journalRing = false := by
    rw [sbi]
    exact mount.fixed
  have run := replayDiscard_run ready.healthy (by rw [sbi]; exact mount.idle) ready.sameArea fixed
    long ready.journal last places
  refine ⟨_, run, ?_⟩
  have written := resetWrites_fixed (show (setSequences last w.sbi).area = area from
    ready.sameArea) fixed long last places
  have left : (w.writtenAll (finishWrites (setSequences last w.sbi) (w.cache 0) last places)).disk =
      applyWrites w.cache (finishWrites (setSequences last w.sbi) (w.cache 0) last places) := by
    rw [World.writtenAll_disk, disk, ← cache]
  constructor
  · change SameHome area (w.writtenAll _).disk _
    rw [left, ← cache]
    exact finishWrites_home _ mount.first _ _ _ written
  · change superCursors ((w.writtenAll _).disk 0) = _
    rw [left, finishWrites_cursors _ mount.first _ _ _ written, mount.cursors, ← sbi]
    rfl

/-- The checkpoint was over: a control block that says so, under a clean superblock. -/
theorem replay_settled {last checkpoint : Nat}
    (control : FixedControl area (v.cache area.first) JOURNAL_V3_STATE_CHECKPOINTING last last
      checkpoint (area.blocks - 3)) (opened : last ≠ 0) (order : checkpoint ≤ last)
    (clean : journalNeedsRecovery v = false) :
    ∃ after, journalV3ReplayFixed v = (.ok (), after) ∧
      FixedRecovered area v.cache after.disk v.cache := by
  have accepted := control.accepted v.sbi mount.fixed mount.sameArea
  have sequences : ControlSequencesValid (JournalV3Control.ofBlock (v.cache area.first)) := by
    unfold ControlSequencesValid
    rw [control.activeIs, control.lastIs, control.checkpointIs, if_pos control.stateIs]
    exact ⟨opened, order, rfl⟩
  rw [mount.replay_start]
  dsimp only
  rw [Routine.require_bind _ _ _ _ ⟨accepted.1, (accepted.2.2 _).mpr rfl, accepted.2.1,
      control.valid⟩, if_neg (by rw [control.stateIs]; decide),
    Routine.require_bind _ _ _ _ (by rw [control.stateIs]), Routine.require_bind _ _ _ _ sequences,
    if_pos ⟨control.stateIs, clean⟩]
  exact mount.discards [] (fun write member => by simp at member) _ _

theorem fixedPlaces_bounded : (area.fixedPlaces (area.blocks - 3)).Bounded := by
  have limit := mount.limit
  have long := mount.long
  constructor <;> simp only [JournalArea.fixedPlaces] <;> omega

theorem small : count ≤ 2 ^ 64 := mount.homes.trans mount.bounded

section Logged

variable {t : Transaction} (valid : t.Valid area count)
variable {state last active checkpoint : Nat}
variable (control : FixedControl area (v.cache area.first) state last active checkpoint
  (area.blocks - 3))
variable (sequences : ControlSequencesValid (JournalV3Control.ofBlock (v.cache area.first)))
variable (pending : state = JOURNAL_V3_STATE_PREPARED ∨
  state = JOURNAL_V3_STATE_CHECKPOINTING ∧ journalNeedsRecovery v = true)
variable (sequence : t.sequence = active)
variable (described : v.cache (area.first + 1) = t.descriptor (area.fixedPlaces (area.blocks - 3)))
include valid

theorem described_valid : ReplayDescriptorValid v.sbi t.sequence
    (t.descriptor (area.fixedPlaces (area.blocks - 3))) := by
  have block := mount.journalBlock
  have blocks := mount.journalBlocks
  have capacity : v.sbi.journalV3PayloadCapacity = area.capacity := by
    rw [SbInfo.journalV3PayloadCapacity_eq, mount.sameArea]
  unfold ReplayDescriptorValid
  rw [t.ofBlock_descriptor _ area count valid mount.fixedPlaces_bounded
    mount.small, SbInfo.journalV2PayloadStart, SbInfo.journalV2CommitBlock, block, blocks,
    capacity]
  refine ⟨rfl, rfl, rfl, rfl, rfl, rfl, rfl, valid.fits, t.descriptor_valid _, ?_⟩
  intro index before past
  apply JournalV3Descriptor.entry_sealMembers_blank _ _ _ before
  rw [Transaction.entries, List.length_map]
  exact past

include control sequences pending sequence described

/-- A replay that reads a logged transaction goes by its commit block. -/
theorem replay_logged : journalV3ReplayFixed v = (do
    let control := JournalV3Control.ofBlock (v.cache area.first)
    let places := area.fixedPlaces (area.blocks - 3)
    let commitBuf : Block := v.cache (area.first + area.blocks - 1)
    if ReplayCommitReadable v.sbi commitBuf ∧ (JournalV3Commit.ofBlock commitBuf).flags ≠ 0 then
      replayTransaction control (t.descriptor places) commitBuf places
    else if control.state = JOURNAL_V3_STATE_PREPARED then
      replayDiscard control.lastSequence places
    else Routine.fail .euclean : Kernel Unit) v := by
  have accepted := control.accepted v.sbi mount.fixed mount.sameArea
  have long := mount.long
  have second : area.first + 1 < v.size := by
    apply mount.inside
    unfold JournalArea.Inside
    omega
  have final : area.first + area.blocks - 1 < v.size := by
    apply mount.inside
    unfold JournalArea.Inside
    omega
  have busy : state ≠ JOURNAL_V3_STATE_IDLE ∧ state ≤ JOURNAL_V3_STATE_CHECKPOINTING ∧
      ¬ (state = JOURNAL_V3_STATE_CHECKPOINTING ∧ journalNeedsRecovery v = false) ∧
      state ≠ JOURNAL_V3_STATE_ACTIVE := by
    rcases pending with rfl | ⟨rfl, marked⟩
    · exact ⟨by decide, by decide, fun both => absurd both.1 (by decide), by decide⟩
    · rw [marked]
      decide
  have descriptor : (readFileBlock (area.fixedPlaces (area.blocks - 3)).descriptorBlock) v =
      (.ok (t.descriptor (area.fixedPlaces (area.blocks - 3))), v) := by
    rw [← described]
    exact readFileBlock_run v mount.healthy _ second
  have commit : (readFileBlock (area.fixedPlaces (area.blocks - 3)).commitBlock) v =
      (.ok (v.cache (area.first + area.blocks - 1)), v) :=
    readFileBlock_run v mount.healthy _ final
  have expected : ReplayDescriptorValid v.sbi
      (JournalV3Control.ofBlock (v.cache area.first)).activeSequence
      (t.descriptor (area.fixedPlaces (area.blocks - 3))) := by
    rw [control.activeIs, ← sequence]
    exact mount.described_valid valid
  have stateIs := control.stateIs
  rw [mount.replay_start]
  dsimp only
  rw [Routine.require_bind _ _ _ _ ⟨accepted.1, (accepted.2.2 _).mpr rfl, accepted.2.1,
      control.valid⟩]
  generalize JournalV3Control.ofBlock (v.cache area.first) = read at *
  subst stateIs
  rw [if_neg busy.1, Routine.require_bind _ _ _ _ busy.2.1,
    Routine.require_bind _ _ _ _ sequences, if_neg busy.2.2.1, if_neg busy.2.2.2,
    Routine.bind_ok _ _ _ _ _ descriptor, Routine.bind_ok _ _ _ _ _ commit,
    Routine.require_bind _ _ _ _ expected]

/-- Without a commit record the transaction is dropped. -/
theorem replay_unrecorded (prepared : state = JOURNAL_V3_STATE_PREPARED)
    (blank : (JournalV3Commit.ofBlock (v.cache (area.first + area.blocks - 1))).flags = 0) :
    ∃ after, journalV3ReplayFixed v = (.ok (), after) ∧
      FixedRecovered area v.cache after.disk v.cache := by
  rw [mount.replay_logged valid control sequences pending sequence described]
  dsimp only
  rw [if_neg (fun both => both.2 blank), if_pos (control.stateIs.trans prepared)]
  exact mount.discards [] (fun write member => by simp at member) _ _

/-- With its commit record the transaction is applied. -/
theorem replay_committed (keeps : KeepsCount count t.images)
    (payload : ∀ index image, t.images[index]? = some image →
      v.cache (area.first + 2 + index) = image.2)
    (recorded : v.cache (area.first + area.blocks - 1) =
      t.commitRecord (area.fixedPlaces (area.blocks - 3))) :
    ∃ after, journalV3ReplayFixed v = (.ok (), after) ∧
      FixedRecovered area v.cache after.disk (applyWrites v.cache t.images) := by
  have long := mount.long
  have bounded := mount.fixedPlaces_bounded
  have fields := t.ofBlock_descriptor _ area count valid bounded mount.small
  have record := t.ofBlock_commitRecord _ area count valid bounded
  have fits : t.images.length ≤ area.blocks - 3 := by
    have capacity := valid.fits
    unfold JournalArea.capacity at capacity
    split at capacity <;> omega
  have block := mount.journalBlock
  have here : area.first < v.size := by
    apply mount.inside
    unfold JournalArea.Inside
    omega
  have logged : t.Logged v.cache (area.fixedPlaces (area.blocks - 3)) := ⟨described, payload⟩
  have journal : ∀ index, index < t.images.length →
      area.Inside ((area.fixedPlaces (area.blocks - 3)).payloadStart + index) := by
    intro index before
    simp only [JournalArea.fixedPlaces, JournalArea.Inside]
    omega
  have room : (area.fixedPlaces (area.blocks - 3)).payloadStart + t.images.length ≤ v.size := by
    have room := mount.journal
    simp only [JournalArea.fixedPlaces]
    omega
  have checks := verifyPayloads_run mount.toReady valid bounded true logged room FNV_OFFSET
  have readable : ReplayCommitReadable v.sbi
      (t.commitRecord (area.fixedPlaces (area.blocks - 3))) := by
    unfold ReplayCommitReadable
    rw [record, SbInfo.journalV2DescriptorBlock, block]
    exact ⟨rfl, rfl, rfl, rfl, t.commitRecord_valid _⟩
  have flags : (JournalV3Commit.ofBlock
      (t.commitRecord (area.fixedPlaces (area.blocks - 3)))).flags = JOURNAL_V3_FLAG_COMMITTED := by
    rw [record]
  have entries : (JournalV3Descriptor.ofBlock
      (t.descriptor (area.fixedPlaces (area.blocks - 3)))).entryCount = t.images.length := by
    rw [fields]
    rfl
  have matched : (JournalV3Commit.ofBlock (t.commitRecord (area.fixedPlaces
      (area.blocks - 3)))).flags = JOURNAL_V3_FLAG_COMMITTED ∧
      (JournalV3Commit.ofBlock (t.commitRecord (area.fixedPlaces (area.blocks - 3)))).entryCount =
        t.images.length ∧
      (JournalV3Commit.ofBlock (t.commitRecord (area.fixedPlaces (area.blocks - 3)))).sequence =
        (JournalV3Control.ofBlock (v.cache area.first)).activeSequence ∧
      (JournalV3Commit.ofBlock
        (t.commitRecord (area.fixedPlaces (area.blocks - 3)))).descriptorChecksum =
        (JournalV3Descriptor.ofBlock
          (t.descriptor (area.fixedPlaces (area.blocks - 3)))).checksum := by
    rw [record, fields, control.activeIs]
    exact ⟨rfl, rfl, sequence, rfl⟩
  have total : (JournalV3Commit.ofBlock (t.commitRecord (area.fixedPlaces
      (area.blocks - 3)))).payloadChecksum = if t.images.length = 0 then 0 else
        t.images.foldl (fun sum image => fnv1aUpdate sum image.2) FNV_OFFSET := by
    rw [record]
    rfl
  rw [mount.replay_logged valid control sequences pending sequence described]
  dsimp only
  rw [recorded, if_pos ⟨readable, by rw [flags]; decide⟩, replayTransaction]
  dsimp only
  rw [entries, Routine.require_bind _ _ _ _ matched, Routine.bind_ok _ _ _ _ _ checks,
    Routine.require_bind _ _ _ _ total, Routine.read_bind, block]
  generalize markedIs : journalV3PrepareControl v.sbi JOURNAL_V3_STATE_CHECKPOINTING _ _ _ _ =
    marked
  have inside : ∀ write, write ∈ [(area.first, marked)] → area.Inside write.1 := by
    intro write member
    rw [List.mem_singleton.mp member]
    unfold JournalArea.Inside
    omega
  have keepsMark : KeepsCount count [(area.first, marked)] :=
    KeepsCount.journal mount.first inside
  have markedReady := mount.toReady.written _ keepsMark
  rw [World.writtenAll_cons, World.writtenAll_nil] at markedReady
  have kept : t.Logged (v.written area.first marked).cache
      (area.fixedPlaces (area.blocks - 3)) := by
    refine logged.congr ?_ ?_
    · apply WriteLog.store_other
      simp only [JournalArea.fixedPlaces]
      omega
    · intro index _
      apply WriteLog.store_other
      simp only [JournalArea.fixedPlaces]
      omega
  have home := replayHome_run markedReady valid bounded kept journal mount.idle
  rw [writeSync_bind v mount.healthy _ _ _ here, Routine.bind_ok _ _ _ _ _ home]
  obtain ⟨after, run, same⟩ := mount.discards ((area.first, marked) :: t.images)
    (by
      intro write member
      rcases List.mem_cons.mp member with rfl | image
      · exact keepsMark _ List.mem_cons_self
      · exact keeps write image)
    (JournalV3Control.ofBlock (v.cache area.first)).activeSequence
    (area.fixedPlaces (area.blocks - 3))
  refine ⟨after, run, same.home.trans ?_, same.cursors⟩
  rw [WriteLog.applyWrites_cons]
  exact (SameHome.journalWrites _ [(area.first, marked)] mount.first inside).applyWrites t.images

end Logged

end FixedMount

end Cryexts
