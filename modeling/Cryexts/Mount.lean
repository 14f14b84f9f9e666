import Cryexts.Journal.Work

set_option autoImplicit false

namespace Cryexts

open WriteLog (store applyWrites)

/-- `cryexts_load_group_desc_table`: the zeroed storage with the table's blocks copied in. -/
def loadGroupDescTable (super : Block) (cells : Nat → Block) : Nat → UInt8 := fun index =>
  if super.get Super.version < VERSION_V4 then 0
  else if index / BLOCK_SIZE < super.get Super.groupDescTableBlocks then
    (cells (super.get Super.groupDescTableStart + index / BLOCK_SIZE)).byte (index % BLOCK_SIZE)
  else 0

/-- What `cryexts_fill_super` loads before it replays the journal. -/
def loadSuper (cells : Nat → Block) : SbInfo :=
  let super := cells 0
  { groupDescTableStart := super.get Super.groupDescTableStart
    groupDescTableBlocks := super.get Super.groupDescTableBlocks
    groupCount := super.get Super.groupCount
    blocksPerGroup := super.get Super.blocksPerGroup
    inodesPerGroup := super.get Super.inodesPerGroup
    journalBlock := super.get Super.journalBlock
    journalBlocks := super.get Super.journalBlocks
    nextIno := super.get Super.nextIno
    nextDataBlock := super.get Super.nextDataBlock
    journalSequence := super.get Super.journalSequence
    journalLastSequence := super.get Super.journalSequence
    journalActiveSequence := 0
    journalTailSequence := super.get Super.journalSequence
    journalCheckpointSequence := super.get Super.journalSequence
    journalRingHead := super.get Super.journalBlock + 1
    journalRingTail := super.get Super.journalBlock + 1
    journalEnabled := super.get Super.featuresCompat &&& FEATURE_COMPAT_HAS_JOURNAL != 0
    journalV2 := super.get Super.featuresIncompat &&& FEATURE_INCOMPAT_JOURNAL_V2 != 0
    journalV3 := super.get Super.featuresIncompat &&& FEATURE_INCOMPAT_JOURNAL_V3 != 0
    journalRing := super.get Super.featuresIncompat &&& FEATURE_INCOMPAT_JOURNAL_RING != 0
    journalReplaying := false
    journalError := none
    journalHomeBlocks := []
    gdtStorage := loadGroupDescTable super cells }

/-- The mount of a device image as it stands when the journal is about to be replayed. -/
def mounting (image : Nat → Block) (size : Nat) : World where
  sbi := loadSuper image
  cache := image
  dirty := fun _ => false
  uptodate := fun _ => true
  base := image
  log := []
  size := size
  faults := []

theorem mounting_healthy (image : Nat → Block) (size : Nat) : (mounting image size).Healthy :=
  ⟨rfl, rfl⟩

/-- A superblock that describes one mount makes the next one find the same journal. -/
theorem Describes.loaded {image : Nat → Block} {sbi : SbInfo} {count : Nat}
    (describes : Describes (image 0) sbi count) :
    (loadSuper image).area = sbi.area ∧ (loadSuper image).journalEnabled = sbi.journalEnabled ∧
      (loadSuper image).journalV2 = sbi.journalV2 ∧ (loadSuper image).journalV3 = sbi.journalV3 ∧
      (loadSuper image).journalRing = sbi.journalRing := by
  refine ⟨?_, describes.enabled, describes.v2, describes.v3, describes.ring⟩
  rw [SbInfo.area, SbInfo.area, ← describes.journalBlock, ← describes.journalBlocks]
  rfl

end Cryexts
