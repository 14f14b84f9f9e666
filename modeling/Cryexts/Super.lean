import Cryexts.World

set_option autoImplicit false

namespace Cryexts

open WriteLog (store)

def META_TAG_SUPER : Nat := 0x53555052
def META_TAG_GROUP : Nat := 0x47525044

def leBytes (value width : Nat) : List UInt8 :=
  (List.range width).map fun index => UInt8.ofNat (value / 256 ^ index)

def metadataSeed (fsGeneration block tag : Nat) : Nat :=
  (leBytes fsGeneration 8 ++ leBytes block 8 ++ leBytes tag 4).foldl fnv1aStep FNV_OFFSET

theorem metadataSeed_lt (fsGeneration block tag : Nat) :
    metadataSeed fsGeneration block tag < 2 ^ 32 := fnv1a_bytes_lt _ _ (by decide)

def metadataCsumEnabled (super : Block) : Bool :=
  decide (VERSION_V5 ≤ super.get Super.version) &&
    super.get Super.featuresRoCompat &&& FEATURE_RO_COMPAT_METADATA_CSUM != 0 &&
    super.get Super.metadataCsumType == METADATA_CSUM_FNV1A32

def superExpectedChecksum (super : Block) : Nat :=
  checksumSkip (fun index => super.byte (SUPER_OFFSET + index)) Super.SIZE
    (Super.checksum.offset - SUPER_OFFSET) Super.checksum.width
    (metadataSeed (super.get Super.fsGeneration) 0 META_TAG_SUPER)

/-- `cryexts_update_super_checksum`. -/
def updateSuperChecksum (super : Block) : Block :=
  if metadataCsumEnabled super then super.set Super.checksum (superExpectedChecksum super)
  else super

/-- `cryexts_group_expected_checksum` of the descriptor at byte `start` of the table. -/
def groupExpectedChecksum (super : Block) (storage : Nat → UInt8) (start : Nat) : Nat :=
  checksumSkip (fun index => storage (start + index)) GROUP_DESC_SIZE GroupDesc.checksum 4
    (metadataSeed (super.get Super.fsGeneration)
      (ByteBuf.readLE storage (start + GroupDesc.groupStart) 8) META_TAG_GROUP)

/-- `cryexts_update_group_checksums`. -/
def updateGroupChecksums (super : Block) (groupCount : Nat) (storage : Nat → UInt8) :
    Nat → UInt8 :=
  if metadataCsumEnabled super then
    (List.range groupCount).foldl (fun current group =>
      ByteBuf.writeLE current (GROUP_DESC_SIZE * group + GroupDesc.checksum) 4
        (groupExpectedChecksum super current (GROUP_DESC_SIZE * group))) storage
  else storage

/-- Block `index` of the group descriptor table held in memory. -/
def gdtBlock (storage : Nat → UInt8) (index : Nat) : Block :=
  ByteBuf.ofBytes BLOCK_SIZE fun offset => storage (BLOCK_SIZE * index + offset)

/-- `cryexts_copy_gdt_to_blocks`. -/
def copyGdtToBlocks (w : World) : World :=
  { w with cache := (List.range w.sbi.groupDescTableBlocks).foldl (fun cache index =>
      store cache (w.sbi.groupDescTableStart + index) (gdtBlock w.sbi.gdtStorage index)) w.cache }

/-- `cryexts_gdt_prepare_write`. -/
def gdtPrepareWrite (w : World) : World :=
  let storage := updateGroupChecksums (w.cache 0) w.sbi.groupCount w.sbi.gdtStorage
  copyGdtToBlocks { w with sbi := { w.sbi with gdtStorage := storage } }

def blocksCount (w : World) : Nat := w.super Super.blocksCount

/-- `cryexts_data_block_valid`. -/
def dataBlockValid (w : World) (block : Nat) : Bool :=
  let firstDataBlock := w.super Super.firstDataBlock
  if block = 0 ∨ blocksCount w ≤ block then false
  else if w.super Super.featuresIncompat &&& FEATURE_INCOMPAT_BLOCK_GROUPS = 0 then
    decide (firstDataBlock ≤ block)
  else
    let group := block / w.sbi.blocksPerGroup
    let start := GROUP_DESC_SIZE * group
    let groupStart := ByteBuf.readLE w.sbi.gdtStorage (start + GroupDesc.groupStart) 8
    let groupBlocks := ByteBuf.readLE w.sbi.gdtStorage (start + GroupDesc.blocksCount) 8
    let groupDataStart :=
      if group = 0 then firstDataBlock
      else u64 (ByteBuf.readLE w.sbi.gdtStorage (start + GroupDesc.inodeTableStart) 8 +
        ByteBuf.readLE w.sbi.gdtStorage (start + GroupDesc.inodeTableBlocks) 4)
    if w.sbi.groupCount ≤ group then false
    else if block < groupStart ∨ u64 (groupStart + groupBlocks) ≤ block then false
    else decide (groupDataStart ≤ block)

/-- `cryexts_journal_needs_recovery`. -/
def journalNeedsRecovery (w : World) : Bool :=
  w.super Super.state &&& FS_STATE_NEEDS_RECOVERY != 0 ||
    w.super Super.featuresIncompat &&& FEATURE_INCOMPAT_NEEDS_RECOVERY != 0

end Cryexts
