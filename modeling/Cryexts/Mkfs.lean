import Cryexts.Journal.RingMount

set_option autoImplicit false

namespace Cryexts

open ByteBuf (Field)
open WriteLog (store applyWrites)

/-- The switches of `mkfs.cryexts`. -/
structure MkfsOptions where
  blockGroups : Bool
  extents : Bool
  xattrs : Bool
  dirIndex : Bool
  orphanList : Bool
  policyTable : Bool
  metadataCsum : Bool
  journalV2 : Bool
  journalV3 : Bool
  journalRing : Bool
  policy : Option Nat
  deriving DecidableEq, Repr

namespace MkfsOptions

def useJournalV3 (options : MkfsOptions) : Bool := options.journalV3 || options.journalRing

def useBlockGroups (options : MkfsOptions) : Bool :=
  options.blockGroups || options.journalV2 || options.useJournalV3

def useXattrs (options : MkfsOptions) : Bool := options.xattrs || options.policy.isSome

def usePolicyTable (options : MkfsOptions) : Bool := options.policyTable || options.policy.isSome

def defaultPolicyId (options : MkfsOptions) : Nat := options.policy.getD 0

def fsVersion (options : MkfsOptions) : Nat :=
  if options.journalV2 || options.useJournalV3 then VERSION_V6 else VERSION_V5

end MkfsOptions

/-- What `main` computes before it writes anything. -/
structure MkfsGeometry where
  blocksCount : Nat
  inodesCount : Nat
  groupCount : Nat
  blocksPerGroup : Nat
  gdtBlocks : Nat
  rootBlockBitmapBlock : Nat
  rootInodeBitmapBlock : Nat
  rootInodeTableStart : Nat
  rootDirBlock : Nat
  policyTableBlock : Nat
  journalBlock : Nat
  journalBlocks : Nat
  deriving DecidableEq, Repr

def divRoundUp (value unit : Nat) : Nat := (value + unit - 1) / unit

/-- Geometry and journal placement of `main`. -/
def mkfsLayout (options : MkfsOptions) (deviceSize : Nat) : MkfsGeometry :=
  let useBlockGroups := options.useBlockGroups
  let blocksCount := deviceSize / BLOCK_SIZE
  let blocksPerGroup := if useBlockGroups then min blocksCount DEFAULT_BLOCKS_PER_GROUP else 0
  let groupCount := if useBlockGroups then divRoundUp blocksCount blocksPerGroup else 1
  let inodesCount :=
    if useBlockGroups then groupCount * DEFAULT_INODES_PER_GROUP
    else INODE_TABLE_BLOCKS * (BLOCK_SIZE / INODE_SIZE)
  let gdtBlocks :=
    if useBlockGroups then divRoundUp (groupCount * GROUP_DESC_SIZE) BLOCK_SIZE else 1
  let rootBlockBitmapBlock :=
    if useBlockGroups then GDT_START_BLOCK + gdtBlocks else BLOCK_BITMAP_BLOCK
  let rootInodeBitmapBlock :=
    if useBlockGroups then rootBlockBitmapBlock + 1 else INODE_BITMAP_BLOCK
  let rootInodeTableStart :=
    if useBlockGroups then rootInodeBitmapBlock + 1 else INODE_TABLE_START
  let rootDirBlock :=
    if useBlockGroups then rootInodeTableStart + DEFAULT_INODE_TABLE_BLOCKS_PER_GROUP
    else ROOT_DIR_BLOCK
  let policyTableBlock := if options.usePolicyTable then rootDirBlock + 1 else 0
  let tailGroupStart := (groupCount - 1) * blocksPerGroup
  let tailGroupBlocks := min blocksPerGroup (blocksCount - tailGroupStart)
  let journalRoom := tailGroupBlocks - (2 + DEFAULT_INODE_TABLE_BLOCKS_PER_GROUP)
  let journalBlocks := if useBlockGroups then min journalRoom DEFAULT_JOURNAL_BLOCKS else 0
  let journalBlock :=
    if 0 < journalBlocks then tailGroupStart + tailGroupBlocks - journalBlocks else 0
  { blocksCount, inodesCount, groupCount, blocksPerGroup, gdtBlocks, rootBlockBitmapBlock
    rootInodeBitmapBlock, rootInodeTableStart, rootDirBlock, policyTableBlock, journalBlock
    journalBlocks }

/-- The checks of `main`, in order. -/
structure MkfsAccepts (options : MkfsOptions) (deviceSize : Nat) (g : MkfsGeometry) : Prop where
  oneJournal : ¬ (options.journalV2 = true ∧ options.useJournalV3 = true)
  large : BLOCK_SIZE * FIRST_FREE_DATA_BLOCK ≤ deviceSize
  bitmap : options.useBlockGroups = true ∨ g.blocksCount ≤ BLOCK_SIZE * 8
  rootGroup : options.useBlockGroups = false ∨ GDT_START_BLOCK + g.gdtBlocks + 1 + 1 +
    DEFAULT_INODE_TABLE_BLOCKS_PER_GROUP < g.blocksPerGroup
  policy : options.usePolicyTable = false ∨
    options.defaultPolicyId < POLICY_TABLE_MAX_ENTRIES ∧ g.policyTableBlock < g.blocksCount ∧
      (options.useBlockGroups = false ∨ g.policyTableBlock < g.blocksPerGroup)
  journalV2 : options.journalV2 = false ∨
    g.journalBlock ≠ 0 ∧ JOURNAL_V2_MIN_BLOCKS ≤ g.journalBlocks
  journalV3 : options.useJournalV3 = false ∨
    g.journalBlock ≠ 0 ∧ JOURNAL_V3_MIN_BLOCKS ≤ g.journalBlocks

instance (options : MkfsOptions) (deviceSize : Nat) (g : MkfsGeometry) :
    Decidable (MkfsAccepts options deviceSize g) :=
  decidable_of_iff
    (¬ (options.journalV2 = true ∧ options.useJournalV3 = true) ∧
      BLOCK_SIZE * FIRST_FREE_DATA_BLOCK ≤ deviceSize ∧
      (options.useBlockGroups = true ∨ g.blocksCount ≤ BLOCK_SIZE * 8) ∧
      (options.useBlockGroups = false ∨ GDT_START_BLOCK + g.gdtBlocks + 1 + 1 +
        DEFAULT_INODE_TABLE_BLOCKS_PER_GROUP < g.blocksPerGroup) ∧
      (options.usePolicyTable = false ∨
        options.defaultPolicyId < POLICY_TABLE_MAX_ENTRIES ∧ g.policyTableBlock < g.blocksCount ∧
          (options.useBlockGroups = false ∨ g.policyTableBlock < g.blocksPerGroup)) ∧
      (options.journalV2 = false ∨
        g.journalBlock ≠ 0 ∧ JOURNAL_V2_MIN_BLOCKS ≤ g.journalBlocks) ∧
      (options.useJournalV3 = false ∨
        g.journalBlock ≠ 0 ∧ JOURNAL_V3_MIN_BLOCKS ≤ g.journalBlocks))
    ⟨fun ⟨a, b, c, d, e, f, g⟩ => ⟨a, b, c, d, e, f, g⟩,
      fun ⟨a, b, c, d, e, f, g⟩ => ⟨a, b, c, d, e, f, g⟩⟩

/-- The geometry of a device `main` formats. -/
def mkfsGeometry (options : MkfsOptions) (deviceSize : Nat) : Option MkfsGeometry :=
  let g := mkfsLayout options deviceSize
  if MkfsAccepts options deviceSize g then some g else none

theorem divRoundUp_bounds (value unit : Nat) (positive : 0 < unit) (some_ : 0 < value) :
    0 < divRoundUp value unit ∧ (divRoundUp value unit - 1) * unit < value ∧
      value ≤ divRoundUp value unit * unit := by
  have below := Nat.div_mul_le_self (value + unit - 1) unit
  have above := Nat.lt_div_mul_add (a := value + unit - 1) positive
  have least : 0 < divRoundUp value unit := Nat.div_pos (by omega) positive
  rw [Nat.sub_one_mul]
  unfold divRoundUp at *
  have once := Nat.le_mul_of_pos_left unit least
  omega

/-- An accepted version 3 journal ends the device, and it lies behind the group descriptor
table. -/
theorem mkfsGeometry_journal {options : MkfsOptions} {deviceSize : Nat} {g : MkfsGeometry}
    (accepted : mkfsGeometry options deviceSize = some g) (v3 : options.useJournalV3 = true) :
    g.blocksCount = deviceSize / BLOCK_SIZE ∧ JOURNAL_V3_MIN_BLOCKS ≤ g.journalBlocks ∧
      g.journalBlocks ≤ DEFAULT_JOURNAL_BLOCKS ∧ 0 < g.journalBlock ∧
      g.journalBlock + g.journalBlocks = g.blocksCount ∧
      GDT_START_BLOCK + g.gdtBlocks ≤ g.journalBlock := by
  have groups : options.useBlockGroups = true := by
    simp [MkfsOptions.useBlockGroups, v3]
  unfold mkfsGeometry at accepted
  dsimp only at accepted
  split at accepted
  case isFalse => cases accepted
  case isTrue accepts =>
    injection accepted with same
    subst same
    have large := accepts.large
    have root := accepts.rootGroup.resolve_left (by rw [groups]; decide)
    have journal := accepts.journalV3.resolve_left (by rw [v3]; decide)
    simp only [mkfsLayout, groups, ↓reduceIte] at large root journal ⊢
    have some_ : 0 < deviceSize / BLOCK_SIZE := by
      apply Nat.div_pos _ (by decide)
      exact le_trans (by decide) large
    generalize deviceSize / BLOCK_SIZE = blocks at *
    have unit : 0 < min blocks DEFAULT_BLOCKS_PER_GROUP := by
      unfold DEFAULT_BLOCKS_PER_GROUP
      omega
    have bounds := divRoundUp_bounds blocks _ unit some_
    generalize divRoundUp blocks (min blocks DEFAULT_BLOCKS_PER_GROUP) = count at *
    have alone : count = 1 → divRoundUp (count * GROUP_DESC_SIZE) BLOCK_SIZE = 1 := by
      rintro rfl
      rfl
    generalize divRoundUp (count * GROUP_DESC_SIZE) BLOCK_SIZE = table at *
    generalize unitIs : min blocks DEFAULT_BLOCKS_PER_GROUP = per at *
    have tail : (count - 1) * per + per = count * per := by
      rw [← Nat.succ_mul]
      congr 1
      omega
    have second : 2 ≤ count → per ≤ (count - 1) * per := by
      intro two
      exact Nat.le_mul_of_pos_left per (by omega)
    generalize (count - 1) * per = start at *
    rw [← tail] at bounds
    have last : min per (blocks - start) = blocks - start := Nat.min_eq_right (by omega)
    rw [last] at journal ⊢
    unfold JOURNAL_V3_MIN_BLOCKS DEFAULT_JOURNAL_BLOCKS DEFAULT_INODE_TABLE_BLOCKS_PER_GROUP
      GDT_START_BLOCK at *
    have room : 0 < min (blocks - start - (2 + 4)) 512 := by omega
    rw [if_pos room] at journal ⊢
    refine ⟨trivial, journal.2, Nat.min_le_right _ _, ?_, ?_, ?_⟩
    · omega
    · omega
    · by_cases two : 2 ≤ count
      · have behind := second two
        omega
      · have table := alone (by omega)
        omega

def mkfsFeaturesCompat (g : MkfsGeometry) : Nat :=
  FEATURE_COMPAT_PREALLOC ||| (if 0 < g.journalBlocks then FEATURE_COMPAT_HAS_JOURNAL else 0)

def mkfsFeaturesRoCompat (options : MkfsOptions) : Nat :=
  (if options.metadataCsum then FEATURE_RO_COMPAT_METADATA_CSUM else 0) |||
    (if VERSION_V6 ≤ options.fsVersion ∧ options.useXattrs then FEATURE_RO_COMPAT_LARGE_XATTR
      else 0)

def mkfsFeaturesIncompat (options : MkfsOptions) : Nat :=
  (if options.extents then FEATURE_INCOMPAT_EXTENTS else FEATURE_INCOMPAT_SINGLE_INDIRECT) |||
    (if options.useBlockGroups then FEATURE_INCOMPAT_BLOCK_GROUPS else 0) |||
    (if options.dirIndex then FEATURE_INCOMPAT_DIR_INDEX else 0) |||
    (if options.orphanList then FEATURE_INCOMPAT_ORPHAN_LIST else 0) |||
    (if options.usePolicyTable then FEATURE_INCOMPAT_POLICY_TABLE else 0) |||
    (if options.extents then FEATURE_INCOMPAT_EXTENT_TREE else 0) |||
    (if options.journalV2 then FEATURE_INCOMPAT_JOURNAL_V2 else 0) |||
    (if options.useJournalV3 then FEATURE_INCOMPAT_JOURNAL_V3 else 0) |||
    (if options.journalRing then FEATURE_INCOMPAT_JOURNAL_RING else 0) |||
    (if options.useXattrs then FEATURE_INCOMPAT_XATTR ||| FEATURE_INCOMPAT_ENCRYPTION_POLICY
      else 0)

/-- The first data block behind the metadata of a group. -/
def mkfsDataStart (g : MkfsGeometry) (group : Nat) : Nat :=
  if group = 0 then g.rootDirBlock
  else group * g.blocksPerGroup + 2 + DEFAULT_INODE_TABLE_BLOCKS_PER_GROUP

def mkfsTotalUsedBlocks (options : MkfsOptions) (g : MkfsGeometry) : Nat :=
  let policy := if g.policyTableBlock = 0 then 0 else 1
  if options.useBlockGroups then
    (List.range g.groupCount).foldl (fun total group =>
      total + (mkfsDataStart g group - group * g.blocksPerGroup)) (1 + policy) + g.journalBlocks
  else g.rootDirBlock + 1 + policy

/-- `blocks_count - total_used_blocks`, which wraps. -/
def mkfsFreeBlocks (options : MkfsOptions) (g : MkfsGeometry) : Nat :=
  if mkfsTotalUsedBlocks options g ≤ g.blocksCount then
    g.blocksCount - mkfsTotalUsedBlocks options g
  else g.blocksCount + 2 ^ 64 - mkfsTotalUsedBlocks options g

/-- The numbers `main` stores in the superblock, with their places. -/
def mkfsSuperMembers (options : MkfsOptions) (g : MkfsGeometry) (now : Nat) :
    List (Field × Nat) :=
  [(Super.magic, MAGIC), (Super.version, options.fsVersion), (Super.blockSize, BLOCK_SIZE),
    (Super.inodeSize, INODE_SIZE), (Super.blocksCount, g.blocksCount),
    (Super.inodesCount, g.inodesCount), (Super.freeInodesCount, g.inodesCount - 1),
    (Super.blockBitmapBlock, g.rootBlockBitmapBlock),
    (Super.inodeBitmapBlock, g.rootInodeBitmapBlock),
    (Super.inodeTableStart, g.rootInodeTableStart),
    (Super.inodeTableBlocks,
      if options.useBlockGroups then DEFAULT_INODE_TABLE_BLOCKS_PER_GROUP
      else INODE_TABLE_BLOCKS),
    (Super.rootInodeBlock, g.rootInodeTableStart), (Super.rootDirBlock, g.rootDirBlock),
    (Super.firstDataBlock, g.rootDirBlock), (Super.nextIno, ROOT_INO + 1),
    (Super.nextDataBlock, g.rootDirBlock + 1 + (if g.policyTableBlock = 0 then 0 else 1)),
    (Super.featuresCompat, mkfsFeaturesCompat g),
    (Super.featuresRoCompat, mkfsFeaturesRoCompat options),
    (Super.featuresIncompat, mkfsFeaturesIncompat options), (Super.state, FS_STATE_CLEAN),
    (Super.mountCount, 0), (Super.maxMountCount, 50),
    (Super.defaultEncryptionPolicy, options.defaultPolicyId), (Super.lastMountTime, 0),
    (Super.lastWriteTime, now), (Super.lastCheckTime, now),
    (Super.journalBlock, g.journalBlock), (Super.journalBlocks, g.journalBlocks),
    (Super.groupCount, g.groupCount), (Super.blocksPerGroup, g.blocksPerGroup),
    (Super.inodesPerGroup,
      if options.useBlockGroups then DEFAULT_INODES_PER_GROUP else g.inodesCount),
    (Super.groupDescTableStart, if options.useBlockGroups then GDT_START_BLOCK else 0),
    (Super.groupDescTableBlocks, if options.useBlockGroups then g.gdtBlocks else 0),
    (Super.orphanHead, 0), (Super.policyTableBlock, g.policyTableBlock),
    (Super.dirIndexSeed, if options.dirIndex then now else 0),
    (Super.metadataCsumType, if options.metadataCsum then METADATA_CSUM_FNV1A32 else 0),
    (Super.journalSequence, 0), (Super.fsGeneration, 1),
    (Super.freeBlocksCount, mkfsFreeBlocks options g)]

/-- `set_super_checksum`. -/
def setSuperChecksum (super : Block) : Block :=
  if super.get Super.metadataCsumType = METADATA_CSUM_FNV1A32 then
    super.set Super.checksum (superExpectedChecksum super)
  else super

/-- Block 0. `identity` holds what names and keys the volume: labels, UUID, salt and the
encryption members. -/
def mkfsSuper (identity : Block) (options : MkfsOptions) (g : MkfsGeometry) (now : Nat) : Block :=
  setSuperChecksum (identity.setAll (mkfsSuperMembers options g now))

/-- The members `set_journal_v3_control` assigns. -/
def mkfsControlFields (journalBlock journalBlocks : Nat) (useRing : Bool) : JournalV3Control where
  magic := JOURNAL_V3_MAGIC
  layoutVersion := JOURNAL_V3_LAYOUT_VERSION
  blockType := JOURNAL_V3_BLOCK_CONTROL
  state := JOURNAL_V3_STATE_IDLE
  features := JOURNAL_V3_FEATURE_REDO ||| (if useRing then JOURNAL_V3_FEATURE_RING else 0)
  checksum := 0
  lastSequence := 0
  activeSequence := 0
  checkpointSequence := 0
  descriptorBlock := journalBlock + 1
  payloadStart := journalBlock + 2
  payloadBlocks := journalBlocks - 3
  commitBlock := journalBlock + journalBlocks - 1
  ringHead := if useRing then journalBlock + 1 else 0
  ringTail := if useRing then journalBlock + 1 else 0
  ringStart := if useRing then journalBlock + 1 else 0
  ringEnd := if useRing then journalBlock + journalBlocks else 0

/-- `set_journal_v3_control`. -/
def setJournalV3Control (journalBlock journalBlocks : Nat) (useRing : Bool) : Block :=
  sealMembers (mkfsControlFields journalBlock journalBlocks useRing).members

theorem mkfsControlFields_fit (journalBlock journalBlocks : Nat) (useRing : Bool)
    (long : JOURNAL_V3_MIN_BLOCKS ≤ journalBlocks)
    (limit : journalBlock + journalBlocks < 2 ^ 64) :
    Fit (mkfsControlFields journalBlock journalBlocks useRing).members := by
  unfold JOURNAL_V3_MIN_BLOCKS at long
  have fits : ∀ value, value < 2 ^ 64 → value < 256 ^ 8 := fun _ bound => bound
  intro member inside
  simp only [JournalV3Control.members, mkfsControlFields, List.mem_cons, List.not_mem_nil,
    or_false] at inside
  rcases inside with rfl | rfl | rfl | rfl | rfl | rfl | rfl | rfl | rfl | rfl | rfl | rfl |
    rfl | rfl | rfl | rfl
  all_goals cases useRing
  all_goals first
    | decide
    | exact fits _ (by simp only [↓reduceIte, Bool.false_eq_true]; omega)

/-- `set_journal_v3_descriptor_empty`. -/
def setJournalV3DescriptorEmpty (payloadStart commitBlock : Nat) : Block :=
  sealMembers (JournalV3Descriptor.members {
    magic := JOURNAL_V3_MAGIC
    layoutVersion := JOURNAL_V3_LAYOUT_VERSION
    blockType := JOURNAL_V3_BLOCK_DESCRIPTOR
    flags := 0
    entryCount := 0
    checksum := 0
    sequence := 0
    payloadStart := payloadStart
    commitBlock := commitBlock })

/-- `set_journal_v3_commit_empty`. -/
def setJournalV3CommitEmpty (descriptorBlock descriptorChecksum : Nat) : Block :=
  sealMembers (JournalV3Commit.members {
    magic := JOURNAL_V3_MAGIC
    layoutVersion := JOURNAL_V3_LAYOUT_VERSION
    blockType := JOURNAL_V3_BLOCK_COMMIT
    flags := 0
    entryCount := 0
    checksum := 0
    descriptorChecksum := descriptorChecksum
    payloadChecksum := 0
    sequence := 0
    descriptorBlock := descriptorBlock })

/-- The writes of `main` into the area of a version 3 journal. -/
def mkfsJournalV3 (options : MkfsOptions) (g : MkfsGeometry) : List (Nat × Block) :=
  let descriptor :=
    setJournalV3DescriptorEmpty (g.journalBlock + 2) (g.journalBlock + g.journalBlocks - 1)
  (List.range g.journalBlocks).map (fun index =>
      (g.journalBlock + index, ByteBuf.zero BLOCK_SIZE)) ++
    [(g.journalBlock, setJournalV3Control g.journalBlock g.journalBlocks options.journalRing),
      (g.journalBlock + 1, descriptor),
      (g.journalBlock + g.journalBlocks - 1,
        setJournalV3CommitEmpty (g.journalBlock + 1) (descriptor.get journalChecksum))]

/-- A formatted device with a version 3 journal. `others` is what `main` leaves in the
remaining blocks. -/
def mkfsImage (identity : Block) (options : MkfsOptions) (g : MkfsGeometry) (now : Nat)
    (others : Nat → Block) : Nat → Block :=
  applyWrites (store others 0 (mkfsSuper identity options g now)) (mkfsJournalV3 options g)

private theorem mkfsSuperMembers_separate (options : MkfsOptions) (g : MkfsGeometry) (now : Nat) :
    (mkfsSuperMembers options g now).Pairwise (fun first second => first.1.Apart second.1) := by
  have fields : ((mkfsSuperMembers options g now).map Prod.fst).Pairwise Field.Apart := by
    simp only [mkfsSuperMembers, List.map_cons, List.map_nil]
    decide
  exact List.pairwise_map.mp fields

/-- A number `main` stored reads back. -/
theorem mkfsSuper_get (identity : Block) {options : MkfsOptions} {g : MkfsGeometry} {now : Nat}
    {field : Field} {value : Nat} (member : (field, value) ∈ mkfsSuperMembers options g now)
    (place : field.stop ≤ BLOCK_SIZE ∧ field.Apart Super.checksum)
    (fit : value < 256 ^ field.width) :
    (mkfsSuper identity options g now).get field = value := by
  have stored : (identity.setAll (mkfsSuperMembers options g now)).get field = value := by
    rw [ByteBuf.get_setAll_member _ _ _ _ (mkfsSuperMembers_separate options g now) member place.1]
    exact Nat.mod_eq_of_lt fit
  unfold mkfsSuper setSuperChecksum
  split
  · rw [ByteBuf.get_set_apart _ _ _ _ place.2, stored]
  · exact stored

private theorem flag_set (value bit : Nat) (here : value.testBit bit = true) :
    (value &&& 2 ^ bit != 0) = true := by
  rw [Nat.and_two_pow, here]
  have positive := Nat.two_pow_pos bit
  simp

theorem mkfsFeaturesIncompat_lt (options : MkfsOptions) :
    mkfsFeaturesIncompat options < 2 ^ 32 := by
  have choice : ∀ (flag : Bool) (first second : Nat), first < 2 ^ 32 → second < 2 ^ 32 →
      (if flag then first else second) < 2 ^ 32 := by
    intro flag first second small also
    cases flag
    · exact also
    · exact small
  unfold mkfsFeaturesIncompat
  repeat' apply Nat.or_lt_two_pow
  all_goals exact choice _ _ _ (by decide) (by decide)

theorem mkfsFeaturesIncompat_v3 {options : MkfsOptions} (v3 : options.useJournalV3 = true) :
    (mkfsFeaturesIncompat options &&& FEATURE_INCOMPAT_JOURNAL_V3 != 0) = true := by
  have here : FEATURE_INCOMPAT_JOURNAL_V3.testBit 11 = true := by decide
  apply flag_set _ 11
  simp [mkfsFeaturesIncompat, v3, here, Nat.testBit_or]

theorem mkfsFeaturesIncompat_ring {options : MkfsOptions} (ring : options.journalRing = true) :
    (mkfsFeaturesIncompat options &&& FEATURE_INCOMPAT_JOURNAL_RING != 0) = true := by
  have here : FEATURE_INCOMPAT_JOURNAL_RING.testBit 12 = true := by decide
  apply flag_set _ 12
  simp [mkfsFeaturesIncompat, ring, here, Nat.testBit_or]

private theorem flag_unset (value bit : Nat) (absent : value.testBit bit = false) :
    (value &&& 2 ^ bit != 0) = false := by
  rw [Nat.and_two_pow, absent]
  simp

private theorem choice_testBit (flag : Bool) (value bit : Nat) (absent : value.testBit bit = false) :
    (if flag then value else 0).testBit bit = false := by
  cases flag
  · simp
  · exact absent

/-- A formatted device asks for no recovery, and has a ring only when told to. -/
theorem mkfsFeaturesIncompat_absent (options : MkfsOptions) :
    (mkfsFeaturesIncompat options &&& FEATURE_INCOMPAT_NEEDS_RECOVERY != 0) = false ∧
      (options.journalRing = false →
        (mkfsFeaturesIncompat options &&& FEATURE_INCOMPAT_JOURNAL_RING != 0) = false) := by
  have extents : ∀ bit, FEATURE_INCOMPAT_EXTENTS.testBit bit = false →
      FEATURE_INCOMPAT_SINGLE_INDIRECT.testBit bit = false →
      (if options.extents then FEATURE_INCOMPAT_EXTENTS
        else FEATURE_INCOMPAT_SINGLE_INDIRECT).testBit bit = false := by
    intro bit first second
    cases options.extents
    · exact second
    · exact first
  constructor
  · apply flag_unset _ 2
    simp only [mkfsFeaturesIncompat, Nat.testBit_or, Bool.or_eq_false_iff, and_assoc]
    refine ⟨extents 2 (by decide) (by decide), ?_, ?_, ?_, ?_, ?_, ?_, ?_, ?_, ?_⟩ <;>
      exact choice_testBit _ _ _ (by decide)
  · intro ring
    apply flag_unset _ 12
    rw [mkfsFeaturesIncompat, ring]
    simp only [Nat.testBit_or, Bool.or_eq_false_iff, and_assoc]
    refine ⟨extents 12 (by decide) (by decide), ?_, ?_, ?_, ?_, ?_, ?_, ?_, ?_, ?_⟩
    case refine_8 => rfl
    all_goals exact choice_testBit _ _ _ (by decide)

/-- A device with a version 3 journal of either layout, as far as its superblock tells. -/
structure JournalLayout (image : Nat → Block) (size : Nat) : Prop where
  enabled : (loadSuper image).journalEnabled = true
  v3 : (loadSuper image).journalV3 = true
  first : 0 < (loadSuper image).journalBlock
  long : JOURNAL_V3_MIN_BLOCKS ≤ (loadSuper image).journalBlocks
  room : (loadSuper image).journalBlock + (loadSuper image).journalBlocks ≤
    (image 0).get Super.blocksCount
  homes : (image 0).get Super.blocksCount ≤ size
  bounded : size < 2 ^ 64
  table : TableApart (loadSuper image)

section Image

variable (identity : Block) {options : MkfsOptions} {g : MkfsGeometry} {deviceSize : Nat}
variable (now : Nat) (others : Nat → Block)
variable (accepted : mkfsGeometry options deviceSize = some g)
variable (v3 : options.useJournalV3 = true)
include accepted v3

private theorem mkfsJournalV3_inside (write : Nat × Block)
    (member : write ∈ mkfsJournalV3 options g) :
    g.journalBlock ≤ write.1 ∧ write.1 < g.journalBlock + g.journalBlocks := by
  obtain ⟨_, long, _⟩ := mkfsGeometry_journal accepted v3
  unfold JOURNAL_V3_MIN_BLOCKS at long
  simp only [mkfsJournalV3, List.mem_append, List.mem_map, List.mem_range, List.mem_cons,
    List.not_mem_nil, or_false] at member
  rcases member with ⟨index, before, rfl⟩ | rfl | rfl | rfl <;> dsimp only <;> omega

theorem mkfsImage_super :
    mkfsImage identity options g now others 0 = mkfsSuper identity options g now := by
  obtain ⟨_, _, _, positive, _⟩ := mkfsGeometry_journal accepted v3
  rw [mkfsImage, WriteLog.applyWrites_other, WriteLog.store_same]
  intro write member
  have inside := mkfsJournalV3_inside accepted v3 write member
  omega

/-- A formatted device is marked clean. -/
theorem mkfsImage_state :
    (mkfsImage identity options g now others 0).get Super.state = FS_STATE_CLEAN := by
  rw [mkfsImage_super identity now others accepted v3]
  exact mkfsSuper_get identity (by simp [mkfsSuperMembers]) (by decide) (by decide)

/-- The version, and a volume formatted without metadata checksums. -/
theorem mkfsImage_plain (unchecked : options.metadataCsum = false) :
    VERSION_V5 ≤ (mkfsImage identity options g now others 0).get Super.version ∧
      metadataCsumEnabled (mkfsImage identity options g now others 0) = false := by
  rw [mkfsImage_super identity now others accepted v3]
  have version : (mkfsSuper identity options g now).get Super.version = options.fsVersion := by
    apply mkfsSuper_get identity (by simp [mkfsSuperMembers]) (by decide)
    unfold MkfsOptions.fsVersion
    split <;> decide
  have type : (mkfsSuper identity options g now).get Super.metadataCsumType = 0 :=
    mkfsSuper_get identity (by simp [mkfsSuperMembers, unchecked]) (by decide) (by decide)
  constructor
  · rw [version, MkfsOptions.fsVersion]
    split <;> decide
  · simp [metadataCsumEnabled, type, METADATA_CSUM_FNV1A32]

theorem mkfsImage_control :
    mkfsImage identity options g now others g.journalBlock =
      setJournalV3Control g.journalBlock g.journalBlocks options.journalRing := by
  obtain ⟨_, long, _⟩ := mkfsGeometry_journal accepted v3
  unfold JOURNAL_V3_MIN_BLOCKS at long
  simp only [mkfsImage, mkfsJournalV3, WriteLog.applyWrites_append, WriteLog.applyWrites_cons,
    WriteLog.applyWrites_nil]
  rw [WriteLog.store_other _ _ _ _ (by omega), WriteLog.store_other _ _ _ _ (by omega),
    WriteLog.store_same]

theorem mkfsImage_incompat :
    (mkfsImage identity options g now others 0).get Super.featuresIncompat =
      mkfsFeaturesIncompat options := by
  rw [mkfsImage_super identity now others accepted v3]
  exact mkfsSuper_get identity (by simp [mkfsSuperMembers]) (by decide)
    (mkfsFeaturesIncompat_lt options)

theorem mkfsImage_descriptor :
    mkfsImage identity options g now others (g.journalBlock + 1) =
      setJournalV3DescriptorEmpty (g.journalBlock + 2) (g.journalBlock + g.journalBlocks - 1) := by
  obtain ⟨_, long, _⟩ := mkfsGeometry_journal accepted v3
  unfold JOURNAL_V3_MIN_BLOCKS at long
  simp only [mkfsImage, mkfsJournalV3, WriteLog.applyWrites_append, WriteLog.applyWrites_cons,
    WriteLog.applyWrites_nil]
  rw [WriteLog.store_other _ _ _ _ (by omega), WriteLog.store_same]

omit accepted v3 in
theorem mkfsImage_commit :
    mkfsImage identity options g now others (g.journalBlock + g.journalBlocks - 1) =
      setJournalV3CommitEmpty (g.journalBlock + 1) ((setJournalV3DescriptorEmpty
        (g.journalBlock + 2) (g.journalBlock + g.journalBlocks - 1)).get journalChecksum) := by
  simp only [mkfsImage, mkfsJournalV3, WriteLog.applyWrites_append, WriteLog.applyWrites_cons,
    WriteLog.applyWrites_nil]
  rw [WriteLog.store_same]

variable (wide : deviceSize < 2 ^ 64)
include wide

private theorem mkfsGeometry_fit : g.journalBlock + g.journalBlocks < 2 ^ 64 ∧
    g.blocksCount < 2 ^ 64 := by
  obtain ⟨blocks, _, _, _, ends, _⟩ := mkfsGeometry_journal accepted v3
  have fit : g.blocksCount < 2 ^ 64 := by
    rw [blocks]
    exact lt_of_le_of_lt (Nat.div_le_self _ _) wide
  exact ⟨ends ▸ fit, fit⟩

/-- What the superblock says about the journal. -/
theorem mkfsImage_journal :
    (mkfsImage identity options g now others 0).get Super.journalBlock = g.journalBlock ∧
      (mkfsImage identity options g now others 0).get Super.journalBlocks = g.journalBlocks ∧
      (mkfsImage identity options g now others 0).get Super.blocksCount = g.blocksCount := by
  obtain ⟨limit, fit⟩ := mkfsGeometry_fit accepted v3 wide
  have small : ∀ value, value < 2 ^ 64 → value < 256 ^ 8 := fun _ bound => bound
  rw [mkfsImage_super identity now others accepted v3]
  refine ⟨mkfsSuper_get identity (by simp [mkfsSuperMembers]) (by decide) (small _ (by omega)),
    mkfsSuper_get identity (by simp [mkfsSuperMembers]) (by decide) (small _ (by omega)),
    mkfsSuper_get identity (by simp [mkfsSuperMembers]) (by decide) (small _ fit)⟩

/-- What the superblock says about the group descriptor table. -/
theorem mkfsImage_table :
    (mkfsImage identity options g now others 0).get Super.groupDescTableStart = GDT_START_BLOCK ∧
      (mkfsImage identity options g now others 0).get Super.groupDescTableBlocks =
        g.gdtBlocks := by
  obtain ⟨_, _, _, _, _, table⟩ := mkfsGeometry_journal accepted v3
  obtain ⟨limit, _⟩ := mkfsGeometry_fit accepted v3 wide
  have grouped : options.useBlockGroups = true := by simp [MkfsOptions.useBlockGroups, v3]
  have small : ∀ value, value < 2 ^ 64 → value < 256 ^ 8 := fun _ bound => bound
  rw [mkfsImage_super identity now others accepted v3]
  refine ⟨mkfsSuper_get identity (by simp [mkfsSuperMembers, grouped]) (by decide) (by decide),
    mkfsSuper_get identity (by simp [mkfsSuperMembers, grouped]) (by decide)
      (small _ (by omega))⟩

/-- A device formatted with a version 3 journal is laid out as the journal needs it. -/
theorem mkfsImage_journalLayout :
    JournalLayout (mkfsImage identity options g now others) g.blocksCount := by
  obtain ⟨_, long, _, positive, ends, table⟩ := mkfsGeometry_journal accepted v3
  obtain ⟨_, fit⟩ := mkfsGeometry_fit accepted v3 wide
  have super := mkfsImage_super identity now others accepted v3
  have incompat := mkfsImage_incompat identity now others accepted v3
  obtain ⟨journalBlock, journalBlocks, blocksCount⟩ :=
    mkfsImage_journal identity now others accepted v3 wide
  obtain ⟨tableStart, tableBlocks⟩ := mkfsImage_table identity now others accepted v3 wide
  have some_ : 0 < g.journalBlocks := lt_of_lt_of_le (by decide) long
  have compat : (mkfsImage identity options g now others 0).get Super.featuresCompat = 3 := by
    rw [super]
    exact mkfsSuper_get identity (by simp [mkfsSuperMembers, mkfsFeaturesCompat, some_,
      FEATURE_COMPAT_PREALLOC, FEATURE_COMPAT_HAS_JOURNAL]) (by decide) (by decide)
  constructor
  case enabled =>
    change ((mkfsImage identity options g now others 0).get Super.featuresCompat &&&
      FEATURE_COMPAT_HAS_JOURNAL != 0) = true
    rw [compat]
    rfl
  case v3 =>
    change ((mkfsImage identity options g now others 0).get Super.featuresIncompat &&&
      FEATURE_INCOMPAT_JOURNAL_V3 != 0) = true
    rw [incompat]
    exact mkfsFeaturesIncompat_v3 v3
  case first => exact lt_of_lt_of_eq positive journalBlock.symm
  case long => exact le_of_le_of_eq long journalBlocks.symm
  case room =>
    change (mkfsImage identity options g now others 0).get Super.journalBlock +
      (mkfsImage identity options g now others 0).get Super.journalBlocks ≤ _
    rw [journalBlock, journalBlocks, blocksCount]
    exact Nat.le_of_eq ends
  case homes => exact Nat.le_of_eq blocksCount
  case bounded => exact fit
  case table =>
    constructor
    · exact lt_of_lt_of_eq (by decide) tableStart.symm
    · intro index before inside
      have low := inside.1
      change index < (mkfsImage identity options g now others 0).get _ at before
      change (mkfsImage identity options g now others 0).get _ ≤
        (mkfsImage identity options g now others 0).get _ + index at low
      rw [tableBlocks] at before
      rw [journalBlock, tableStart] at low
      omega

/-- A device formatted with a ring journal is laid out as the ring needs it. -/
theorem mkfsImage_layout (ring : options.journalRing = true) :
    RingLayout (mkfsImage identity options g now others) g.blocksCount := by
  obtain ⟨enabled, v3', first, long, room, homes, bounded, table⟩ :=
    mkfsImage_journalLayout identity now others accepted v3 wide
  have incompat := mkfsImage_incompat identity now others accepted v3
  refine ⟨enabled, v3', ?_, first, long, room, homes, bounded, table⟩
  change ((mkfsImage identity options g now others 0).get Super.featuresIncompat &&&
    FEATURE_INCOMPAT_JOURNAL_RING != 0) = true
  rw [incompat]
  exact mkfsFeaturesIncompat_ring ring

/-- The control block of a fresh ring: empty, at its start. -/
theorem mkfsImage_ring (ring : options.journalRing = true) :
    RingControl ⟨g.journalBlock, g.journalBlocks⟩
      (mkfsImage identity options g now others g.journalBlock) JOURNAL_V3_STATE_IDLE 0 0 0
      (g.journalBlock + 1) (g.journalBlock + 1) := by
  obtain ⟨_, long, _⟩ := mkfsGeometry_journal accepted v3
  obtain ⟨limit, _⟩ := mkfsGeometry_fit accepted v3 wide
  have read := JournalV3Control.ofBlock_sealMembers
    (mkfsControlFields g.journalBlock g.journalBlocks true)
    (mkfsControlFields_fit _ _ _ long limit)
  rw [mkfsImage_control identity now others accepted v3, ring, setJournalV3Control]
  constructor
  case valid => exact sealMembers_valid _
  case headLow => exact Nat.le_refl _
  case tailLow => exact Nat.le_refl _
  case headHigh =>
    unfold JOURNAL_V3_MIN_BLOCKS at long
    change g.journalBlock + 1 < g.journalBlock + g.journalBlocks
    omega
  case tailHigh =>
    unfold JOURNAL_V3_MIN_BLOCKS at long
    change g.journalBlock + 1 < g.journalBlock + g.journalBlocks
    omega
  case idle => exact fun _ => rfl
  all_goals
    rw [read]
    rfl

/-- The first mount of a fresh ring volume passes the clean check and may run. -/
theorem mkfsImage_mounted (ring : options.journalRing = true) :
    RingMounted
      { mounting (mkfsImage identity options g now others) g.blocksCount with
        sbi := cleanSbi (loadSuper (mkfsImage identity options g now others)) 0
          (g.journalBlock + 1) } ⟨g.journalBlock, g.journalBlocks⟩ g.blocksCount := by
  have layout := mkfsImage_layout identity now others accepted v3 wide ring
  have control := mkfsImage_ring identity now others accepted v3 wide ring
  obtain ⟨journalBlock, journalBlocks, blocksCount⟩ :=
    mkfsImage_journal identity now others accepted v3 wide
  have area : (loadSuper (mkfsImage identity options g now others)).area =
      ⟨g.journalBlock, g.journalBlocks⟩ := by
    rw [← journalBlock, ← journalBlocks]
    rfl
  have clean := validateClean_ring layout.ready layout.ring layout.long 0 (g.journalBlock + 1)
    (by
      rw [area]
      exact control)
  have mounted := layout.mounted clean
  rw [area, blocksCount] at mounted
  exact mounted

omit wide

/-- Outside the superblock and the journal a formatted device is what `others` says. -/
theorem mkfsImage_other (block : Nat) (home : block ≠ 0) (outside : block < g.journalBlock) :
    mkfsImage identity options g now others block = others block := by
  rw [mkfsImage, WriteLog.applyWrites_other, WriteLog.store_other _ _ _ _ home]
  intro write member
  have inside := mkfsJournalV3_inside accepted v3 write member
  omega

omit accepted v3

/-- Between its first two blocks and its last one a fresh journal is blank. -/
theorem mkfsImage_blank (index : Nat) (low : 2 ≤ index) (high : index + 1 < g.journalBlocks) :
    mkfsImage identity options g now others (g.journalBlock + index) =
      ByteBuf.zero BLOCK_SIZE := by
  simp only [mkfsImage, mkfsJournalV3, WriteLog.applyWrites_append, WriteLog.applyWrites_cons,
    WriteLog.applyWrites_nil]
  rw [WriteLog.store_other _ _ _ _ (by omega), WriteLog.store_other _ _ _ _ (by omega),
    WriteLog.store_other _ _ _ _ (by omega)]
  apply WriteLog.applyWrites_nodup
  · rw [List.map_map]
    apply List.Nodup.map
    · intro first second same
      simpa using same
    · exact List.nodup_range
  · exact List.mem_map.mpr ⟨index, List.mem_range.mpr (by omega), rfl⟩

end Image

/-- A ring volume of two groups, the second just large enough for a journal of nine blocks. -/
def smallRing : MkfsOptions where
  blockGroups := false
  extents := false
  xattrs := false
  dirIndex := false
  orphanList := false
  policyTable := false
  metadataCsum := false
  journalV2 := false
  journalV3 := false
  journalRing := true
  policy := none

def smallGeometry : MkfsGeometry where
  blocksCount := 4111
  inodesCount := 112
  groupCount := 2
  blocksPerGroup := 4096
  gdtBlocks := 1
  rootBlockBitmapBlock := 2
  rootInodeBitmapBlock := 3
  rootInodeTableStart := 4
  rootDirBlock := 8
  policyTableBlock := 0
  journalBlock := 4102
  journalBlocks := 9

theorem smallGeometry_accepted :
    mkfsGeometry smallRing (4111 * BLOCK_SIZE) = some smallGeometry := by decide

/-- Its first mount. -/
def smallMount : World :=
  let image := mkfsImage (ByteBuf.zero BLOCK_SIZE) smallRing smallGeometry 0
    fun _ => ByteBuf.zero BLOCK_SIZE
  { mounting image 4111 with sbi := cleanSbi (loadSuper image) 0 4103 }

theorem smallMount_mounted : RingMounted smallMount ⟨4102, 9⟩ 4111 :=
  mkfsImage_mounted _ 0 _ smallGeometry_accepted rfl (by decide) rfl

end Cryexts
