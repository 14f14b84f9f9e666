import Cryexts.Journal.Lifetime

set_option autoImplicit false

namespace Cryexts

open WriteLog (store applyWrites)

namespace Fsck

/-- A check of the tool: what it goes on with, or the text it reports. -/
abbrev Check (α : Type) : Type := Except String α

def ensure (holds : Prop) [Decidable holds] (report : String) : Check Unit :=
  if holds then .ok () else .error report

/-- Where the tool reads a block, whose byte offset is computed in 64 bits. -/
def readPlace (block : Nat) : Nat := u64 (block * BLOCK_SIZE) / BLOCK_SIZE

/-- `read_full` of one block. The offset is an `off_t`, and reads at a negative one fail. -/
def readFull (image : Nat → Block) (size block : Nat) (report : String) : Check Block :=
  if u64 (block * BLOCK_SIZE) < 2 ^ 63 ∧ readPlace block < size then .ok (image (readPlace block))
  else .error report

section Super

variable (super : Block)

def hasJournal : Bool := super.get Super.featuresCompat &&& FEATURE_COMPAT_HAS_JOURNAL != 0

def hasJournalV3 : Bool :=
  hasJournal super && super.get Super.featuresIncompat &&& FEATURE_INCOMPAT_JOURNAL_V3 != 0

def hasJournalRing : Bool :=
  hasJournalV3 super && super.get Super.featuresIncompat &&& FEATURE_INCOMPAT_JOURNAL_RING != 0

def ringStart : Nat := super.get Super.journalBlock + 1

def ringEnd : Nat := super.get Super.journalBlock + super.get Super.journalBlocks

/-- The places a fixed journal has. -/
def fixedPlaces : JournalV3Segment :=
  ⟨super.get Super.journalBlock + 1, super.get Super.journalBlock + 2,
    super.get Super.journalBlocks - 3,
    super.get Super.journalBlock + super.get Super.journalBlocks - 1⟩

end Super

def validateRingPlaces (super : Block) (control : JournalV3Control) : Check Unit := do
  ensure (control.ringStart = ringStart super ∧ control.ringEnd = ringEnd super ∧
    ringStart super ≤ control.ringHead ∧ control.ringHead < control.ringEnd ∧
    ringStart super ≤ control.ringTail ∧ control.ringTail < control.ringEnd ∧
    (control.state = JOURNAL_V3_STATE_IDLE → control.ringHead = control.ringTail))
    "journal ring control state is invalid"
  ensure (ringStart super ≤ control.descriptorBlock ∧
    control.payloadStart = u64 (control.descriptorBlock + 1) ∧
    control.commitBlock = u64 (control.payloadStart + control.payloadBlocks) ∧
    control.commitBlock < control.ringEnd)
    "journal ring transaction layout is invalid"

def validatePlaces (super : Block) (control : JournalV3Control) : Check Unit :=
  if hasJournalRing super then validateRingPlaces super control
  else ensure (control.ringStart = 0 ∧ control.ringEnd = 0 ∧ control.ringHead = 0 ∧
    control.ringTail = 0) "legacy journal v3 has unexpected ring state"

def validateControl (super headerBlock : Block) : Check Unit := do
  let control := JournalV3Control.ofBlock headerBlock
  ensure (control.magic = JOURNAL_V3_MAGIC ∧
    control.layoutVersion = JOURNAL_V3_LAYOUT_VERSION ∧
    control.blockType = JOURNAL_V3_BLOCK_CONTROL) "journal v3 control header is invalid"
  ensure (control.features = JOURNAL_V3_FEATURE_REDO |||
    (if hasJournalRing super then JOURNAL_V3_FEATURE_RING else 0))
    "journal v3 control features are invalid"
  ensure (control.state ≤ JOURNAL_V3_STATE_CHECKPOINTING) "journal v3 control state is invalid"
  ensure (hasJournalRing super = true ∨ namedPlaces control = fixedPlaces super)
    "journal v3 control layout does not match journal area"
  validatePlaces super control
  ensure (ChecksumValid headerBlock) "journal v3 control checksum mismatch"

def validateDescriptor (places : JournalV3Segment) (buf : Block) : Check Unit := do
  let descriptor := JournalV3Descriptor.ofBlock buf
  ensure (descriptor.magic = JOURNAL_V3_MAGIC ∧
    descriptor.layoutVersion = JOURNAL_V3_LAYOUT_VERSION ∧
    descriptor.blockType = JOURNAL_V3_BLOCK_DESCRIPTOR) "journal v3 descriptor header is invalid"
  ensure (descriptor.entryCount ≤ JOURNAL_V3_MAX_ENTRIES ∧
    descriptor.entryCount ≤ places.payloadBlocks) "journal v3 descriptor entry count is invalid"
  ensure (descriptor.payloadStart = places.payloadStart ∧
    descriptor.commitBlock = places.commitBlock) "journal v3 descriptor layout is invalid"
  ensure (ChecksumValid buf) "journal v3 descriptor checksum mismatch"

def validateCommit (places : JournalV3Segment) (buf : Block) : Check Unit := do
  let commit := JournalV3Commit.ofBlock buf
  ensure (commit.magic = JOURNAL_V3_MAGIC ∧ commit.layoutVersion = JOURNAL_V3_LAYOUT_VERSION ∧
    commit.blockType = JOURNAL_V3_BLOCK_COMMIT) "journal v3 commit header is invalid"
  ensure (commit.descriptorBlock = places.descriptorBlock)
    "journal v3 commit descriptor pointer is invalid"
  ensure (ChecksumValid buf) "journal v3 commit checksum mismatch"

/-- Entry `index` of a pending transaction and its payload; the aggregate checksum goes on. -/
def validatePayload (image : Nat → Block) (size : Nat) (descriptorBuf : Block)
    (payloadStart aggregate index : Nat) : Check Nat := do
  let super := image 0
  let entry := JournalV3Entry.ofBlock descriptorBuf index
  ensure (entry.homeBlock < super.get Super.blocksCount ∧
    ¬ (super.get Super.journalBlock ≤ entry.homeBlock ∧ entry.homeBlock < ringEnd super))
    "journal v3 home block is invalid"
  ensure (entry.flags = 0) "journal v3 entry flags are invalid"
  ensure (∀ earlier, earlier < index →
    (JournalV3Entry.ofBlock descriptorBuf earlier).homeBlock ≠ entry.homeBlock)
    "journal v3 duplicate home block"
  let payload ← readFull image size (u64 (payloadStart + index)) "read journal v3 payload"
  ensure (entry.payloadChecksum = fnv1aUpdate FNV_OFFSET payload)
    "journal v3 payload checksum mismatch"
  return fnv1aUpdate aggregate payload

/-- The checks of a transaction that is not checkpointed yet: even a sound one is reported. -/
def validatePending (image : Nat → Block) (size : Nat) (control : JournalV3Control)
    (places : JournalV3Segment) (descriptorBuf commitBuf : Block) : Check Unit := do
  let descriptor := JournalV3Descriptor.ofBlock descriptorBuf
  let commit := JournalV3Commit.ofBlock commitBuf
  ensure (control.activeSequence ≠ 0 ∧ descriptor.sequence = control.activeSequence)
    "journal v3 active sequence is inconsistent"
  ensure (control.checkpointSequence ≤ control.lastSequence ∧
    control.activeSequence ≤ u64 (control.lastSequence + 1) ∧
    (control.state = JOURNAL_V3_STATE_PREPARED →
      control.activeSequence = u64 (control.lastSequence + 1)) ∧
    (control.state = JOURNAL_V3_STATE_CHECKPOINTING →
      control.activeSequence = control.lastSequence))
    "journal v3 control sequence window is invalid"
  ensure (descriptor.flags = 0) "journal v3 descriptor flags are invalid"
  ensure (EntriesBlankFrom descriptorBuf descriptor.entryCount)
    "journal v3 descriptor has non-zero trailing entries"
  ensure (commit.flags &&& JOURNAL_V3_FLAG_COMMITTED ≠ 0)
    "journal v3 uncommitted transaction pending"
  ensure (control.state ≠ JOURNAL_V3_STATE_ACTIVE ∧ commit.flags = JOURNAL_V3_FLAG_COMMITTED ∧
    commit.entryCount = descriptor.entryCount ∧ commit.sequence = control.activeSequence ∧
    commit.descriptorChecksum = descriptor.checksum)
    "journal v3 committed transaction is inconsistent"
  let aggregate ← (List.range descriptor.entryCount).foldlM
    (validatePayload image size descriptorBuf places.payloadStart) FNV_OFFSET
  ensure (commit.payloadChecksum = if descriptor.entryCount = 0 then 0 else aggregate)
    "journal v3 aggregate payload checksum mismatch"
  .error "journal v3 committed transaction replay pending"

def validateIdle (super : Block) (control : JournalV3Control) (descriptorBuf commitBuf : Block) :
    Check Unit := do
  let descriptor := JournalV3Descriptor.ofBlock descriptorBuf
  let commit := JournalV3Commit.ofBlock commitBuf
  ensure (control.activeSequence = 0 ∧ control.checkpointSequence = control.lastSequence ∧
    super.get Super.state &&& FS_STATE_NEEDS_RECOVERY = 0)
    "journal v3 idle control state is inconsistent"
  if hasJournalRing super then .ok ()
  else do
    ensure (descriptor.flags = 0 ∧ descriptor.entryCount = 0 ∧
      descriptor.sequence = control.lastSequence) "journal v3 idle descriptor is not empty"
    ensure (EntriesBlankFrom descriptorBuf 0) "journal v3 descriptor has non-zero trailing entries"
    ensure (commit.flags = 0 ∧ commit.entryCount = 0 ∧ commit.sequence = control.lastSequence ∧
      commit.descriptorChecksum = descriptor.checksum ∧ commit.payloadChecksum = 0)
      "journal v3 idle commit is inconsistent"

/-- `validate_journal_header` of a volume with a version 3 journal. -/
def validateJournalHeader (image : Nat → Block) (size : Nat) (headerBlock : Block) :
    Check Unit := do
  let super := image 0
  let control := JournalV3Control.ofBlock headerBlock
  validateControl super headerBlock
  let places := if hasJournalRing super then namedPlaces control else fixedPlaces super
  let descriptorBuf ← readFull image size places.descriptorBlock "read journal v3 descriptor"
  let commitBuf ← readFull image size places.commitBlock "read journal v3 commit"
  validateDescriptor places descriptorBuf
  validateCommit places commitBuf
  if control.state = JOURNAL_V3_STATE_IDLE then validateIdle super control descriptorBuf commitBuf
  else validatePending image size control places descriptorBuf commitBuf

theorem ensure_ok (holds : Prop) {decided : Decidable holds} (report : String) :
    ensure holds report = .ok () ↔ holds := by
  unfold ensure
  by_cases here : holds
  · simp [here]
  · simp [here]

theorem bind_ok {α β : Type} (first : Check α) (next : α → Check β) (value : β) :
    (first >>= next) = .ok value ↔ ∃ middle, first = .ok middle ∧ next middle = .ok value := by
  cases first with
  | error report => simp [bind, Except.bind]
  | ok middle => simp [bind, Except.bind]

theorem then_ok {β : Type} (first : Check Unit) (next : Unit → Check β) (value : β) :
    (first >>= next) = .ok value ↔ first = .ok () ∧ next () = .ok value := by
  cases first with
  | error report => simp [bind, Except.bind]
  | ok middle => simp [bind, Except.bind]

theorem read_ok {β : Type} (image : Nat → Block) (size block : Nat) (report : String)
    (next : Block → Check β) (value : β) :
    (readFull image size block report >>= next) = .ok value ↔
      ∃ buf, readFull image size block report = .ok buf ∧ next buf = .ok value := by
  rw [bind_ok]

theorem require_succeeds {σ ε β : Type} (condition : Prop) [Decidable condition] (reason : ε)
    (next : Unit → Routine σ ε β) (state : σ) (result : β) :
    ((((Routine.require condition reason : Routine σ ε Unit) >>= next) state).1 = .ok result) ↔
      condition ∧ (next () state).1 = .ok result := by
  by_cases holds : condition
  · rw [Routine.require_bind _ _ _ _ holds]
    simp only [holds, true_and]
  · have failed : (Routine.require condition reason : Routine σ ε Unit) state =
        (.error reason, state) := by
      rw [Routine.require, if_neg holds]
      rfl
    rw [Routine.bind_error _ _ _ _ _ failed]
    simp only [reduceCtorEq, holds, false_and]

/-- No pending transaction is accepted. -/
theorem validatePending_refuses (image : Nat → Block) (size : Nat) (control : JournalV3Control)
    (places : JournalV3Segment) (descriptorBuf commitBuf : Block) :
    validatePending image size control places descriptorBuf commitBuf ≠ .ok () := by
  intro accepted
  simp only [validatePending, then_ok] at accepted
  rw [bind_ok] at accepted
  obtain ⟨_, _, _, _, _, _, _, _, wrong⟩ := accepted
  rw [then_ok] at wrong
  cases wrong.2

/-- The volume a journal check is about, as far as its superblock tells. -/
structure JournalVolume (image : Nat → Block) (size : Nat) : Prop where
  enabled : (loadSuper image).journalEnabled = true
  v3 : (loadSuper image).journalV3 = true
  long : JOURNAL_V3_MIN_BLOCKS ≤ (loadSuper image).journalBlocks
  room : (loadSuper image).journalBlock + (loadSuper image).journalBlocks ≤ size
  bounded : size * BLOCK_SIZE < 2 ^ 63

/-- The control block of a journal. -/
def controlOf (image : Nat → Block) : JournalV3Control :=
  JournalV3Control.ofBlock (image (loadSuper image).journalBlock)

/-- The mount finds an idle control block and no recovery flag, and the clean check passes. -/
structure NoReplay (image : Nat → Block) (size : Nat) : Prop where
  idle : (controlOf image).state = JOURNAL_V3_STATE_IDLE
  settled : journalNeedsRecovery (mounting image size) = false
  clean : (journalV3ValidateClean (mounting image size)).1 = .ok ()

/-- The three blocks of an empty fixed journal, as both sides want them. -/
structure FixedIdle (image : Nat → Block) : Prop where
  places : ControlPlacesFixed (loadSuper image) (controlOf image)
    ((loadSuper image).journalBlocks - 3)
  descriptor : CleanDescriptor (loadSuper image) (image ((loadSuper image).journalBlock + 1))
  commit : CleanCommit (loadSuper image) (image ((loadSuper image).journalBlock + 1))
    (image ((loadSuper image).journalBlock + (loadSuper image).journalBlocks - 1))
  described : (JournalV3Descriptor.ofBlock
    (image ((loadSuper image).journalBlock + 1))).sequence = (controlOf image).lastSequence
  recorded : (JournalV3Commit.ofBlock
    (image ((loadSuper image).journalBlock + (loadSuper image).journalBlocks - 1))).sequence =
      (controlOf image).lastSequence

/-- An idle journal as far as the control block tells, and in the fixed layout altogether. -/
structure IdleJournal (image : Nat → Block) : Prop where
  header : ControlHeaderValid (loadSuper image) (controlOf image)
  ring : (loadSuper image).RingValid (controlOf image)
  valid : ChecksumValid (image (loadSuper image).journalBlock)
  idle : (controlOf image).state = JOURNAL_V3_STATE_IDLE
  closed : (controlOf image).activeSequence = 0
  checkpointed : (controlOf image).checkpointSequence = (controlOf image).lastSequence
  fixed : (loadSuper image).journalRing = false → FixedIdle image

/-- A descriptor of the segment at `places`, whatever transaction it belongs to. -/
structure DescriptorReads (places : JournalV3Segment) (buf : Block) : Prop where
  magic : (JournalV3Descriptor.ofBlock buf).magic = JOURNAL_V3_MAGIC
  layoutVersion : (JournalV3Descriptor.ofBlock buf).layoutVersion = JOURNAL_V3_LAYOUT_VERSION
  blockType : (JournalV3Descriptor.ofBlock buf).blockType = JOURNAL_V3_BLOCK_DESCRIPTOR
  entries : (JournalV3Descriptor.ofBlock buf).entryCount ≤ JOURNAL_V3_MAX_ENTRIES
  fits : (JournalV3Descriptor.ofBlock buf).entryCount ≤ places.payloadBlocks
  payloadStart : (JournalV3Descriptor.ofBlock buf).payloadStart = places.payloadStart
  commitBlock : (JournalV3Descriptor.ofBlock buf).commitBlock = places.commitBlock
  valid : ChecksumValid buf

/-- A commit record of the segment at `places`, whatever transaction it belongs to. -/
structure CommitReads (places : JournalV3Segment) (buf : Block) : Prop where
  magic : (JournalV3Commit.ofBlock buf).magic = JOURNAL_V3_MAGIC
  layoutVersion : (JournalV3Commit.ofBlock buf).layoutVersion = JOURNAL_V3_LAYOUT_VERSION
  blockType : (JournalV3Commit.ofBlock buf).blockType = JOURNAL_V3_BLOCK_COMMIT
  descriptorBlock : (JournalV3Commit.ofBlock buf).descriptorBlock = places.descriptorBlock
  valid : ChecksumValid buf

/-- The segment a ring's control block names lies in the ring, and its descriptor and commit
record are there. -/
structure NamedIntact (image : Nat → Block) (size : Nat) : Prop where
  low : ringStart (image 0) ≤ (controlOf image).descriptorBlock
  payload : (controlOf image).payloadStart = u64 ((controlOf image).descriptorBlock + 1)
  commit : (controlOf image).commitBlock =
    u64 ((controlOf image).payloadStart + (controlOf image).payloadBlocks)
  high : (controlOf image).commitBlock < (controlOf image).ringEnd
  descriptorPlace : readPlace (controlOf image).descriptorBlock < size
  commitPlace : readPlace (controlOf image).commitBlock < size
  descriptor : DescriptorReads (namedPlaces (controlOf image))
    (image (readPlace (controlOf image).descriptorBlock))
  record : CommitReads (namedPlaces (controlOf image))
    (image (readPlace (controlOf image).commitBlock))

theorem validateDescriptor_ok (places : JournalV3Segment) (buf : Block) :
    validateDescriptor places buf = .ok () ↔ DescriptorReads places buf := by
  simp only [validateDescriptor, then_ok, ensure_ok]
  constructor
  · rintro ⟨⟨magic, layout, type⟩, ⟨entries, fits⟩, ⟨payload, commit⟩, sum⟩
    exact ⟨magic, layout, type, entries, fits, payload, commit, sum⟩
  · intro reads
    exact ⟨⟨reads.magic, reads.layoutVersion, reads.blockType⟩, ⟨reads.entries, reads.fits⟩,
      ⟨reads.payloadStart, reads.commitBlock⟩, reads.valid⟩

theorem validateCommit_ok (places : JournalV3Segment) (buf : Block) :
    validateCommit places buf = .ok () ↔ CommitReads places buf := by
  simp only [validateCommit, then_ok, ensure_ok]
  constructor
  · rintro ⟨⟨magic, layout, type⟩, named, sum⟩
    exact ⟨magic, layout, type, named, sum⟩
  · intro reads
    exact ⟨⟨reads.magic, reads.layoutVersion, reads.blockType⟩, reads.descriptorBlock, reads.valid⟩

theorem journalNeedsRecovery_mounting (image : Nat → Block) (size : Nat) :
    journalNeedsRecovery (mounting image size) = false ↔
      (image 0).get Super.state &&& FS_STATE_NEEDS_RECOVERY = 0 ∧
      (image 0).get Super.featuresIncompat &&& FEATURE_INCOMPAT_NEEDS_RECOVERY = 0 := by
  have super (field : ByteBuf.Field) : (mounting image size).super field = (image 0).get field :=
    rfl
  rw [journalNeedsRecovery, super, super]
  simp

theorem ringStart_eq (image : Nat → Block) :
    ringStart (image 0) = (loadSuper image).ringStart := rfl

theorem ringEnd_eq (image : Nat → Block) : ringEnd (image 0) = (loadSuper image).ringEnd := rfl

theorem fixedPlaces_eq (image : Nat → Block) : fixedPlaces (image 0) =
    ⟨(loadSuper image).journalBlock + 1, (loadSuper image).journalBlock + 2,
      (loadSuper image).journalBlocks - 3,
      (loadSuper image).journalBlock + (loadSuper image).journalBlocks - 1⟩ := rfl

theorem fixedPlaces_iff (image : Nat → Block) :
    namedPlaces (controlOf image) = fixedPlaces (image 0) ↔
    ControlPlacesFixed (loadSuper image) (controlOf image)
      ((loadSuper image).journalBlocks - 3) := by
  simp only [namedPlaces, fixedPlaces, JournalV3Segment.mk.injEq]
  exact Iff.rfl

section Volume

variable {image : Nat → Block} {size : Nat} (volume : JournalVolume image size)

include volume

theorem JournalVolume.ring : hasJournalRing (image 0) = (loadSuper image).journalRing := by
  have enabled := volume.enabled
  have v3 := volume.v3
  change ((image 0).get Super.featuresCompat &&& FEATURE_COMPAT_HAS_JOURNAL != 0) = true at enabled
  change ((image 0).get Super.featuresIncompat &&& FEATURE_INCOMPAT_JOURNAL_V3 != 0) = true at v3
  rw [hasJournalRing, hasJournalV3, hasJournal, enabled, v3, Bool.true_and, Bool.true_and]
  rfl

/-- On a device no `off_t` overflows for, a read finds what is at its place. -/
theorem JournalVolume.read_iff (block : Nat) (report : String) (buf : Block) :
    readFull image size block report = .ok buf ↔
      readPlace block < size ∧ image (readPlace block) = buf := by
  have bounded := volume.bounded
  unfold readFull
  by_cases inside : readPlace block < size
  · have small : u64 (block * BLOCK_SIZE) < 2 ^ 63 := by
      have whole := (Nat.div_lt_iff_lt_mul (by decide)).mp inside
      omega
    rw [if_pos ⟨small, inside⟩, Except.ok.injEq]
    exact (and_iff_right inside).symm
  · rw [if_neg fun both => inside both.2]
    exact iff_of_false nofun fun both => inside both.1

theorem JournalVolume.readPlace_inside {block : Nat} (below : block < size) :
    readPlace block = block := by
  have bounded := volume.bounded
  have small : block * BLOCK_SIZE < 2 ^ 64 := by
    have scaled := Nat.mul_le_mul_right BLOCK_SIZE (Nat.le_of_lt below)
    omega
  rw [readPlace, u64_of_lt _ small, Nat.mul_div_cancel _ (by decide)]

theorem JournalVolume.read_inside (block : Nat) (below : block < size) (report : String) :
    readFull image size block report = .ok (image block) := by
  have place := volume.readPlace_inside below
  rw [volume.read_iff, place]
  exact ⟨below, rfl⟩

/-- The clean check of the mount asks for an idle journal and no more. -/
theorem JournalVolume.validateClean_iff :
    (journalV3ValidateClean (mounting image size)).1 = .ok () ↔ IdleJournal image := by
  have healthy := mounting_healthy image size
  have long := volume.long
  have room := volume.room
  unfold JOURNAL_V3_MIN_BLOCKS at long
  have sbi : (mounting image size).sbi = loadSuper image := rfl
  have cells : (mounting image size).cache = image := rfl
  have extent : (mounting image size).size = size := rfl
  have first : (loadSuper image).journalBlock < (mounting image size).size := by omega
  have second : (loadSuper image).journalBlock + 1 < (mounting image size).size := by omega
  have last : (loadSuper image).journalBlock + (loadSuper image).journalBlocks - 1 <
      (mounting image size).size := by omega
  rw [journalV3ValidateClean, kmalloc_bind _ healthy, Routine.read_bind, sbi,
    readFileBlock_bind _ healthy _ _ first, cells]
  by_cases ring : (loadSuper image).journalRing = true
  · simp only [ring, ↓reduceIte, require_succeeds, Routine.modify_run, and_true]
    constructor
    · rintro ⟨header, valid, sum, idle, closed, same⟩
      refine ⟨header, valid, sum, idle, closed, same, ?_⟩
      intro fixed
      rw [ring] at fixed
      cases fixed
    · intro idle
      exact ⟨idle.header, idle.ring, idle.valid, idle.idle, idle.closed, idle.checkpointed⟩
  · have fixed : (loadSuper image).journalRing = false := by simpa using ring
    simp only [fixed, Bool.false_eq_true, ↓reduceIte]
    rw [require_succeeds, require_succeeds, readFileBlock_bind _ healthy _ _ second,
      readFileBlock_bind _ healthy _ _ last, cells]
    simp only [require_succeeds, Routine.modify_run, and_true]
    constructor
    · rintro ⟨⟨header, places⟩, valid, sum, _, idle, descriptor, commit, closed, same, described,
        recorded⟩
      exact ⟨header, valid, sum, idle, closed, same,
        fun _ => ⟨places, descriptor, commit, described, recorded⟩⟩
    · intro idle
      have rest := idle.fixed fixed
      have known : (controlOf image).state ≤ JOURNAL_V3_STATE_CHECKPOINTING := by
        rw [idle.idle]
        decide
      exact ⟨⟨idle.header, rest.places⟩, idle.ring, idle.valid, known, idle.idle, rest.descriptor,
        rest.commit, idle.closed, idle.checkpointed, rest.described, rest.recorded⟩

/-- What the mount finds when it takes the journal as it is. -/
theorem JournalVolume.noReplay_iff : NoReplay image size ↔ IdleJournal image ∧
    (image 0).get Super.state &&& FS_STATE_NEEDS_RECOVERY = 0 ∧
    (image 0).get Super.featuresIncompat &&& FEATURE_INCOMPAT_NEEDS_RECOVERY = 0 := by
  have flags := journalNeedsRecovery_mounting image size
  constructor
  · intro quiet
    exact ⟨volume.validateClean_iff.mp quiet.clean, flags.mp quiet.settled⟩
  · intro idle
    exact ⟨idle.1.idle, flags.mpr idle.2, volume.validateClean_iff.mpr idle.1⟩

/-- The tool's check of the control block, and of the state it is in. -/
theorem JournalVolume.control_iff :
    (validateControl (image 0) (image (loadSuper image).journalBlock) = .ok () ∧
      (controlOf image).state = JOURNAL_V3_STATE_IDLE) ↔
    ControlHeaderValid (loadSuper image) (controlOf image) ∧
      (loadSuper image).RingValid (controlOf image) ∧
      ChecksumValid (image (loadSuper image).journalBlock) ∧
      (controlOf image).state = JOURNAL_V3_STATE_IDLE ∧
      ((loadSuper image).journalRing = false → ControlPlacesFixed (loadSuper image)
        (controlOf image) ((loadSuper image).journalBlocks - 3)) ∧
      ((loadSuper image).journalRing = true →
        ringStart (image 0) ≤ (controlOf image).descriptorBlock ∧
        (controlOf image).payloadStart = u64 ((controlOf image).descriptorBlock + 1) ∧
        (controlOf image).commitBlock =
          u64 ((controlOf image).payloadStart + (controlOf image).payloadBlocks) ∧
        (controlOf image).commitBlock < (controlOf image).ringEnd) := by
  have control : JournalV3Control.ofBlock (image (loadSuper image).journalBlock) =
      controlOf image := rfl
  have idle : JOURNAL_V3_STATE_IDLE ≤ JOURNAL_V3_STATE_CHECKPOINTING := by decide
  simp only [validateControl, then_ok, ensure_ok, control, validatePlaces,
    volume.ring, fixedPlaces_iff, ControlHeaderValid, SbInfo.RingValid, SbInfo.journalV3Features]
  generalize controlOf image = found
  cases ring : (loadSuper image).journalRing with
  | true =>
      simp only [↓reduceIte, validateRingPlaces, then_ok, ensure_ok]
      simp only [ringStart_eq, ringEnd_eq]
      constructor
      · rintro ⟨⟨⟨magic, layout, type⟩, features, _, _,
          ⟨⟨start, stop, low, high, tailLow, tailHigh, meet⟩, named⟩, sum⟩, state⟩
        rw [stop] at high tailHigh
        exact ⟨⟨magic, layout, type, features⟩,
          ⟨start, stop, low, high, tailLow, tailHigh, Or.inr (meet state)⟩, sum, state,
          fun other => Bool.noConfusion other, fun _ => named⟩
      · rintro ⟨⟨magic, layout, type, features⟩,
          ⟨start, stop, low, high, tailLow, tailHigh, meet⟩, sum, state, _, named⟩
        rw [← stop] at high tailHigh
        exact ⟨⟨⟨magic, layout, type⟩, features, by rw [state]; exact idle, Or.inl trivial,
          ⟨⟨start, stop, low, high, tailLow, tailHigh, fun _ => meet.resolve_left (absurd state)⟩,
            named trivial⟩, sum⟩, state⟩
  | false =>
      simp only [Bool.false_eq_true, ↓reduceIte, ensure_ok]
      constructor
      · rintro ⟨⟨⟨magic, layout, type⟩, features, _, places, ⟨start, stop, head, tail⟩, sum⟩, state⟩
        exact ⟨⟨magic, layout, type, features⟩, ⟨head, tail, start, stop⟩, sum, state,
          fun _ => places.resolve_left id, False.elim⟩
      · rintro ⟨⟨magic, layout, type, features⟩, ⟨head, tail, start, stop⟩, sum, state, places, _⟩
        exact ⟨⟨⟨magic, layout, type⟩, features, by rw [state]; exact idle, Or.inr (places trivial),
          ⟨start, stop, head, tail⟩, sum⟩, state⟩

theorem JournalVolume.idle_ring (ring : (loadSuper image).journalRing = true)
    (descriptorBuf commitBuf : Block) :
    validateIdle (image 0) (controlOf image) descriptorBuf commitBuf = .ok () ↔
      (controlOf image).activeSequence = 0 ∧
      (controlOf image).checkpointSequence = (controlOf image).lastSequence ∧
      (image 0).get Super.state &&& FS_STATE_NEEDS_RECOVERY = 0 := by
  simp only [validateIdle, then_ok, ensure_ok, volume.ring, ring, ↓reduceIte, and_true]

/-- The rest of the checks of a fixed journal. -/
theorem JournalVolume.idle_fixed (fixed : (loadSuper image).journalRing = false)
    (places : ControlPlacesFixed (loadSuper image) (controlOf image)
      ((loadSuper image).journalBlocks - 3)) :
    (∃ descriptorBuf, readFull image size (fixedPlaces (image 0)).descriptorBlock
        "read journal v3 descriptor" = .ok descriptorBuf ∧
      ∃ commitBuf, readFull image size (fixedPlaces (image 0)).commitBlock
          "read journal v3 commit" = .ok commitBuf ∧
        validateDescriptor (fixedPlaces (image 0)) descriptorBuf = .ok () ∧
        validateCommit (fixedPlaces (image 0)) commitBuf = .ok () ∧
        validateIdle (image 0) (controlOf image) descriptorBuf commitBuf = .ok ()) ↔
      FixedIdle image ∧ (controlOf image).activeSequence = 0 ∧
      (controlOf image).checkpointSequence = (controlOf image).lastSequence ∧
      (image 0).get Super.state &&& FS_STATE_NEEDS_RECOVERY = 0 := by
  have long := volume.long
  have room := volume.room
  unfold JOURNAL_V3_MIN_BLOCKS at long
  have second := volume.read_inside ((loadSuper image).journalBlock + 1) (by omega)
    "read journal v3 descriptor"
  have last := volume.read_inside
    ((loadSuper image).journalBlock + (loadSuper image).journalBlocks - 1) (by omega)
    "read journal v3 commit"
  rw [fixedPlaces_eq]
  simp only [second, last, Except.ok.injEq, exists_eq_left']
  simp only [validateDescriptor, validateCommit, validateIdle, then_ok, ensure_ok, volume.ring,
    fixed, Bool.false_eq_true, ↓reduceIte]
  constructor
  · rintro ⟨⟨⟨magic, layout, type⟩, _, ⟨payload, commit⟩, sum⟩,
      ⟨⟨recordMagic, recordLayout, recordType⟩, named, recordSum⟩, closed, ⟨flags, none, sequence⟩,
      blank, recordFlags, recordNone, recordSequence, descriptorSum, payloadSum⟩
    exact ⟨⟨places, ⟨magic, layout, type, flags, none, payload, commit, sum, blank⟩,
      ⟨recordMagic, recordLayout, recordType, recordFlags, recordNone, named, descriptorSum,
        payloadSum, recordSum⟩, sequence, recordSequence⟩, closed⟩
  · rintro ⟨⟨_, ⟨magic, layout, type, flags, none, payload, commit, sum, blank⟩,
      ⟨recordMagic, recordLayout, recordType, recordFlags, recordNone, named, descriptorSum,
        payloadSum, recordSum⟩, sequence, recordSequence⟩, closed⟩
    have few (bound : Nat) : (JournalV3Descriptor.ofBlock
        (image ((loadSuper image).journalBlock + 1))).entryCount ≤ bound := by
      rw [none]
      exact Nat.zero_le bound
    exact ⟨⟨⟨magic, layout, type⟩, ⟨few _, few _⟩, ⟨payload, commit⟩, sum⟩,
      ⟨⟨recordMagic, recordLayout, recordType⟩, named, recordSum⟩, closed, ⟨flags, none, sequence⟩,
      blank, recordFlags, recordNone, recordSequence, descriptorSum, payloadSum⟩

/-- What the tool accepts. -/
theorem JournalVolume.accepts_iff :
    validateJournalHeader image size (image (loadSuper image).journalBlock) = .ok () ↔
      IdleJournal image ∧ (image 0).get Super.state &&& FS_STATE_NEEDS_RECOVERY = 0 ∧
      ((loadSuper image).journalRing = true → NamedIntact image size) := by
  have control : JournalV3Control.ofBlock (image (loadSuper image).journalBlock) =
      controlOf image := rfl
  have control_iff := volume.control_iff
  rw [validateJournalHeader, control]
  simp only [then_ok, read_ok, volume.ring]
  by_cases idle : (controlOf image).state = JOURNAL_V3_STATE_IDLE
  case neg =>
    simp only [idle, ↓reduceIte]
    constructor
    · rintro ⟨_, _, _, _, _, _, _, pending⟩
      exact absurd pending (validatePending_refuses _ _ _ _ _ _)
    · rintro ⟨journal, _⟩
      exact absurd journal.idle idle
  simp only [idle, and_true, ↓reduceIte, true_and] at control_iff ⊢
  rw [control_iff]
  cases ring : (loadSuper image).journalRing with
  | true =>
      simp only [↓reduceIte, volume.idle_ring ring, volume.read_iff, validateDescriptor_ok,
        validateCommit_ok]
      constructor
      · rintro ⟨⟨header, valid, sum, _, named⟩, _, ⟨place, rfl⟩, _, ⟨place', rfl⟩, descriptor,
          record, closed, same, clear⟩
        obtain ⟨low, payload, commit, high⟩ := named trivial
        refine ⟨⟨header, valid, sum, idle, closed, same, ?_⟩, clear, ?_⟩
        · intro fixed
          rw [ring] at fixed
          cases fixed
        · exact fun _ => ⟨low, payload, commit, high, place, place', descriptor, record⟩
      · rintro ⟨journal, clear, named⟩
        have segment := named trivial
        exact ⟨⟨journal.header, journal.ring, journal.valid, nofun,
          fun _ => ⟨segment.low, segment.payload, segment.commit, segment.high⟩⟩, _,
          ⟨segment.descriptorPlace, rfl⟩, _, ⟨segment.commitPlace, rfl⟩, segment.descriptor,
          segment.record, journal.closed, journal.checkpointed, clear⟩
  | false =>
      simp only [Bool.false_eq_true, ↓reduceIte]
      constructor
      · rintro ⟨⟨header, valid, sum, places, _⟩, rest⟩
        have found := (volume.idle_fixed ring (places trivial)).mp rest
        exact ⟨⟨header, valid, sum, idle, found.2.1, found.2.2.1, fun _ => found.1⟩, found.2.2.2,
          False.elim⟩
      · rintro ⟨journal, clear, _⟩
        have fixed := journal.fixed ring
        exact ⟨⟨journal.header, journal.ring, journal.valid, fun _ => fixed.places, False.elim⟩,
          (volume.idle_fixed ring fixed.places).mpr
            ⟨fixed, journal.closed, journal.checkpointed, clear⟩⟩

end Volume

/-- An empty ring is idle. -/
theorem IdleJournal.of_ring {image : Nat → Block} {area : JournalArea} {last head : Nat}
    (ring : (loadSuper image).journalRing = true) (same : (loadSuper image).area = area)
    (control : RingControl area (image area.first) JOURNAL_V3_STATE_IDLE last 0 last head head) :
    IdleJournal image := by
  have place : (loadSuper image).journalBlock = area.first := congrArg JournalArea.first same
  have found : controlOf image = JournalV3Control.ofBlock (image area.first) := by
    rw [controlOf, place]
  have accepted := control.accepted (loadSuper image) ring same
  constructor
  case header =>
    rw [found]
    exact accepted.1
  case ring =>
    rw [found]
    exact accepted.2.1
  case valid =>
    rw [place]
    exact accepted.2.2
  case idle => rw [found, control.stateIs]
  case closed => rw [found, control.activeIs]
  case checkpointed => rw [found, control.checkpointIs, control.lastIs]
  case fixed =>
    intro fixed
    rw [ring] at fixed
    cases fixed

/-- So is an empty fixed journal. -/
theorem IdleJournal.of_fixed {image : Nat → Block} {last : Nat}
    (fixed : (loadSuper image).journalRing = false)
    (clean : FixedClean (loadSuper image) (loadSuper image).area image last) :
    IdleJournal image := by
  have control := clean.control
  obtain ⟨header, valid, places⟩ := control.accepted (loadSuper image) fixed rfl
  constructor
  case header => exact header
  case ring => exact valid
  case valid => exact control.valid
  case idle => exact control.stateIs
  case closed => exact control.activeIs
  case checkpointed => exact control.checkpointIs.trans control.lastIs.symm
  case fixed =>
    intro _
    exact ⟨(places _).mpr rfl, clean.descriptor, clean.commit,
      clean.described.trans control.lastIs.symm, clean.recorded.trans control.lastIs.symm⟩

/-- A device between mounts is a volume to check. -/
theorem checkedVolume {image : Nat → Block} {size : Nat}
    (volume : VolumeSettled image size) : JournalVolume image size where
  enabled := volume.layout.enabled
  v3 := volume.layout.v3
  long := volume.layout.long
  room := volume.layout.room.trans volume.layout.homes
  bounded := volume.bytes

/-- The device behind the payload and the descriptor of a ring commit. -/
theorem RingInv.logged_crash {w : World} {area : JournalArea} {count : Nat}
    {pending : List Transaction} {home : Nat → Block} (inv : RingInv w area count pending home)
    (success : (journalV3Commit w).1 = .ok ()) (opened : w.sbi.journalActiveSequence ≠ 0)
    (room : RingRoom w) :
    (journalV3Commit w).2.crashAt (w.log.length + ((committing w).images.length + 1)) =
      applyWrites w.disk (logWrites (committing w) (ringPosition w.sbi (committing w).span)) := by
  obtain ⟨allocation, position, first, second, logged⟩ := inv.commitLogged success opened room
  have quiet := inv.mode.worked.toQuiet
  have length := logWrites_length (committing w) position
  have base : (journalV3Commit w).2.base = w.base := by
    rw [logged.after]
    exact (World.writtenAll_base _ _).trans quiet.base
  have log : (journalV3Commit w).2.log =
      w.log ++ commitWrites (committing w) position area.first first second := by
    rw [logged.after, ← quiet.log]
    exact World.writtenAll_log _ _
  rcases crashAt_append base log (w.log.length + ((committing w).images.length + 1)) with
    ⟨early, _⟩ | ⟨_, crash⟩
  · omega
  · rw [crash, Nat.add_sub_cancel_left, ← logged.place]
    rcases commitWrites_take (committing w) position area.first first second
      ((committing w).images.length + 1) with ⟨_, taken⟩ | ⟨wrong, _⟩ | ⟨wrong, _⟩ | ⟨wrong, _⟩
    · rw [taken, List.take_of_length_le (by omega)]
    · omega
    · omega
    · omega

theorem journalBlock_of_area {sbi : SbInfo} {area : JournalArea} (same : sbi.area = area) :
    sbi.journalBlock = area.first := congrArg JournalArea.first same

theorem ringEnd_of_area {sbi : SbInfo} {area : JournalArea} (same : sbi.area = area) :
    sbi.ringEnd = area.ringEnd := by
  rw [← same]
  rfl

/-- What is on a device when only a transaction's payload and descriptor have been logged. -/
theorem descriptorCommit_logged (cells : Nat → Block) {t : Transaction} {area : JournalArea}
    {count position limit : Nat} (valid : t.Valid area count)
    (inside : position + t.span ≤ limit) (small : limit ≤ 2 ^ 64) (counted : count ≤ 2 ^ 64) :
    (JournalV3Descriptor.ofBlock (applyWrites cells (logWrites t position) position)).commitBlock =
      position + 1 + t.images.length := by
  have placed : applyWrites cells (logWrites t position) position =
      t.descriptor (t.placesAt position) := (logWrites_logged cells t position).descriptor
  rw [placed, t.ofBlock_descriptor _ area count valid
    (placesAt_bounded t position limit inside small) counted]
  rfl

/-- Four blocks of a transaction logged behind a control block at 4102. -/
theorem logged_fields (cells : Nat → Block) {t : Transaction} {area : JournalArea} {count : Nat}
    (valid : t.Valid area count) (span : t.span = 4) (counted : count ≤ 2 ^ 64) :
    applyWrites cells (logWrites t 4103) 0 = cells 0 ∧
      applyWrites cells (logWrites t 4103) 4102 = cells 4102 ∧
      (JournalV3Descriptor.ofBlock (applyWrites cells (logWrites t 4103) 4103)).commitBlock =
        4106 := by
  have outside (block : Nat) (before : block < 4103) :
      applyWrites cells (logWrites t 4103) block = cells block := by
    have kept := logWrites_outside cells t 4103 (logWrites t 4103).length block (by omega)
    rwa [List.take_length] at kept
  have fits : 4103 + t.span ≤ 4107 := by omega
  have ends := descriptorCommit_logged cells valid fits (by decide) counted
  have length : t.images.length = 2 := by
    unfold Transaction.span at span
    omega
  rw [length] at ends
  exact ⟨outside 0 (by omega), outside 4102 (by omega), ends⟩

/-- The fresh ring volume of the examples. -/
def smallImage : Nat → Block :=
  mkfsImage (ByteBuf.zero BLOCK_SIZE) smallRing smallGeometry 0 fun _ => ByteBuf.zero BLOCK_SIZE

theorem smallImage_reached : Reached 4111 smallImage :=
  Reached.formatted _ 0 _ smallGeometry_accepted rfl (by decide) rfl

theorem smallImage_eq : smallImage = mkfsImage (ByteBuf.zero BLOCK_SIZE) smallRing smallGeometry 0
    fun _ => ByteBuf.zero BLOCK_SIZE := rfl

/-- It asks for no recovery. -/
theorem smallImage_unflagged :
    (smallImage 0).get Super.state &&& FS_STATE_NEEDS_RECOVERY = 0 ∧
      (smallImage 0).get Super.featuresIncompat &&& FEATURE_INCOMPAT_NEEDS_RECOVERY = 0 := by
  rw [smallImage_eq, mkfsImage_state _ 0 _ smallGeometry_accepted rfl,
    mkfsImage_incompat _ 0 _ smallGeometry_accepted rfl]
  exact ⟨by decide, by decide⟩

/-- Its control block names the whole ring. -/
theorem smallImage_named :
    (JournalV3Control.ofBlock (smallImage 4102)).descriptorBlock = 4103 ∧
      (JournalV3Control.ofBlock (smallImage 4102)).commitBlock = 4110 := by
  have control := mkfsImage_control (ByteBuf.zero BLOCK_SIZE) 0
    (fun _ => ByteBuf.zero BLOCK_SIZE) smallGeometry_accepted rfl
  have read := JournalV3Control.ofBlock_sealMembers (mkfsControlFields 4102 9 true)
    (mkfsControlFields_fit _ _ _ (by decide) (by decide))
  have place : smallGeometry.journalBlock = 4102 := rfl
  have extent : smallGeometry.journalBlocks = 9 := rfl
  have ring : smallRing.journalRing = true := rfl
  rw [place, extent, ring, setJournalV3Control, ← smallImage_eq] at control
  rw [control, read]
  exact ⟨rfl, rfl⟩

theorem smallMount_disk : smallMount.disk = smallImage := rfl

theorem smallMount_sbi : smallMount.sbi = cleanSbi (loadSuper smallImage) 0 4103 := by
  rw [smallImage_eq]
  rfl

theorem smallMount_mount : SameMount (loadSuper smallImage) smallMount.sbi := by
  rw [smallMount_sbi]
  exact (cleanSbi_mount (loadSuper smallImage) 0 4103).symm

/-- Its first mount takes the journal as it is. -/
theorem smallImage_mounts : journalV3Replay (mounting smallImage 4111) = (.ok (), smallMount) := by
  have mounted := smallMount_mounted
  have area := smallMount_mount.area.trans mounted.ready.sameArea
  have place := journalBlock_of_area area
  have control : RingControl ⟨4102, 9⟩ (smallImage 4102) JOURNAL_V3_STATE_IDLE 0 0 0 4103 4103 :=
    mounted.control
  have unflagged := (journalNeedsRecovery_mounting smallImage 4111).mpr smallImage_unflagged
  have ring := smallMount_mount.ring.trans mounted.ring
  apply smallImage_reached.settled.layout.ring_idle ring _ unflagged
  rw [area, place]
  exact control

theorem smallMount_opened :
    (singleWrite 8 sampleContent smallMount).sbi.journalActiveSequence ≠ 0 := by
  rw [(smallMount_single 8 (by decide)).run]
  exact Nat.succ_ne_zero _

/-- The smallest operation and its commit are a run of it. -/
theorem smallMount_run : ∃ after,
    journalV3Commit (singleWrite 8 sampleContent smallMount) = (.ok (), after) ∧
      MountRun ((smallImage 0).get Super.blocksCount) smallMount
        [committing (singleWrite 8 sampleContent smallMount)] after := by
  have ready := smallMount_single 8 (by decide)
  obtain ⟨after, ran, _⟩ := smallMount_commits 8 (by decide)
  have begun : MountRun ((smallImage 0).get Super.blocksCount) smallMount [] smallMount :=
    MountRun.mounted
  have single := begun.single sampleContent ready.apart ready.outside
  have room := (smallMount_room 8 (by decide)).room
  exact ⟨after, ran, single.commit smallMount_opened (fun _ => room) ran⟩

/-- The commit of the smallest operation, crashed behind its descriptor. -/
theorem smallMount_reached : Reached 4111 (applyWrites smallImage
    (logWrites (committing (singleWrite 8 sampleContent smallMount)) 4103)) := by
  have ready := smallMount_single 8 (by decide)
  have inv := smallMount_mounted.inv.single ready sampleContent
  obtain ⟨after, ran, run⟩ := smallMount_run
  have quiet := ready.quiet sampleContent
  have opened := smallMount_opened
  have span : (committing (singleWrite 8 sampleContent smallMount)).span = 4 :=
    ready.span sampleContent
  have room := (smallMount_room 8 (by decide)).room
  have position : ringPosition (singleWrite 8 sampleContent smallMount).sbi
      (committing (singleWrite 8 sampleContent smallMount)).span = 4103 := by
    have stop := ringEnd_of_area inv.ready.sameArea
    have head : smallMount.sbi.journalRingHead = 4103 := rfl
    unfold ringPosition
    rw [span, stop, quiet.head, head, if_neg (by decide)]
  have done : (journalV3Commit (singleWrite 8 sampleContent smallMount)).1 = .ok () := by rw [ran]
  have crash := RingInv.logged_crash inv done opened room
  have volume : OfVolume (smallMount.disk 0) (loadSuper smallImage)
      ((smallImage 0).get Super.blocksCount) := by
    rw [smallMount_disk]
    exact loadSuper_ofVolume smallImage
  have since : smallMount.log.length ≤ (singleWrite 8 sampleContent smallMount).log.length +
      ((committing (singleWrite 8 sampleContent smallMount)).images.length + 1) :=
    Nat.zero_le _
  have reached := Reached.crash smallImage_reached smallImage_mounts volume run _ since
  have whole : (journalV3Commit (singleWrite 8 sampleContent smallMount)).2 = after := by rw [ran]
  rw [← whole, crash, position, quiet.disk, smallMount_disk] at reached
  exact reached

theorem smallMount_logged : ∃ image, Reached 4111 image ∧ image 0 = smallImage 0 ∧
    image 4102 = smallImage 4102 ∧
    (JournalV3Descriptor.ofBlock (image 4103)).commitBlock = 4106 := by
  obtain ⟨after, _, _, _, _, _, _, _, committed⟩ := smallMount_commits 8 (by decide)
  have span : (committing (singleWrite 8 sampleContent smallMount)).span = 4 :=
    (smallMount_single 8 (by decide)).span sampleContent
  have valid := committed.held.valid _ List.mem_cons_self
  obtain ⟨super, control, ends⟩ := logged_fields smallImage valid span (by decide)
  exact ⟨_, smallMount_reached, super, control, ends⟩

end Fsck

end Cryexts
