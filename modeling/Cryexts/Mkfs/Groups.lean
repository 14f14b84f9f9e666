import Cryexts.Lib.Bitmap
import Cryexts.Mkfs

set_option autoImplicit false

namespace Cryexts

/-- One record of the group descriptor table. -/
structure MkfsGroup where
  groupStart : Nat
  blocksCount : Nat
  blockBitmapBlock : Nat
  inodeBitmapBlock : Nat
  inodeTableStart : Nat
  inodeTableBlocks : Nat
  freeBlocksCount : Nat
  freeInodesCount : Nat
  usedDirsCount : Nat
  deriving DecidableEq, Repr

/-- `free_blocks` of one group, a `uint32_t`: what lies behind its structures, less the journal
in the last group and the policy table in the first. -/
def mkfsGroupFree (g : MkfsGeometry) (group groupBlocks dataStart : Nat) : Nat :=
  let used := dataStart - group * g.blocksPerGroup
  let behind := if used < groupBlocks then (groupBlocks - used) % 2 ^ 32 else 0
  let journaled :=
    if 0 < g.journalBlocks ∧ group = g.groupCount - 1 then behind - min g.journalBlocks behind
    else behind
  if group = 0 ∧ g.policyTableBlock ≠ 0 ∧ 0 < journaled then journaled - 1 else journaled

/-- The loop of `main` over the group descriptors. -/
def mkfsGroup (g : MkfsGeometry) (group : Nat) : MkfsGroup :=
  let groupStart := group * g.blocksPerGroup
  let groupBlocks := min g.blocksPerGroup (g.blocksCount - groupStart)
  let inodeTableStart := if group = 0 then g.rootInodeTableStart else groupStart + 2
  let dataStart :=
    if group = 0 then g.rootDirBlock + 1
    else inodeTableStart + DEFAULT_INODE_TABLE_BLOCKS_PER_GROUP
  { groupStart := groupStart
    blocksCount := groupBlocks
    blockBitmapBlock := if group = 0 then g.rootBlockBitmapBlock else groupStart
    inodeBitmapBlock := if group = 0 then g.rootInodeBitmapBlock else groupStart + 1
    inodeTableStart := inodeTableStart
    inodeTableBlocks := DEFAULT_INODE_TABLE_BLOCKS_PER_GROUP
    freeBlocksCount := mkfsGroupFree g group groupBlocks dataStart
    freeInodesCount :=
      if group = 0 then DEFAULT_INODES_PER_GROUP - 1 else DEFAULT_INODES_PER_GROUP
    usedDirsCount := if group = 0 then 1 else 0 }

theorem mkfsGroup_blockBitmapBlock (g : MkfsGeometry) (group : Nat) :
    (mkfsGroup g group).blockBitmapBlock =
      if group = 0 then g.rootBlockBitmapBlock else group * g.blocksPerGroup := rfl

theorem mkfsGroup_inodeBitmapBlock (g : MkfsGeometry) (group : Nat) :
    (mkfsGroup g group).inodeBitmapBlock =
      if group = 0 then g.rootInodeBitmapBlock else group * g.blocksPerGroup + 1 := rfl

theorem mkfsGroup_inodeTableStart (g : MkfsGeometry) (group : Nat) :
    (mkfsGroup g group).inodeTableStart =
      if group = 0 then g.rootInodeTableStart else group * g.blocksPerGroup + 2 := rfl

theorem mkfsGroup_blocksCount (g : MkfsGeometry) (group : Nat) :
    (mkfsGroup g group).blocksCount =
      min g.blocksPerGroup (g.blocksCount - group * g.blocksPerGroup) := rfl

/-- The bits `main` sets in the block bitmap of a group. -/
def mkfsBlockBitmap (options : MkfsOptions) (g : MkfsGeometry) (group : Nat) : Nat → UInt8 :=
  let policy := if g.policyTableBlock = 0 then 0 else 1
  if group = 0 then
    Bitmap.setRange (fun _ => 0) 0
      ((if options.useBlockGroups then g.rootDirBlock + 1 else FIRST_FREE_DATA_BLOCK) + policy)
  else
    let groupStart := group * g.blocksPerGroup
    let lastDataExclusive := groupStart + min g.blocksPerGroup (g.blocksCount - groupStart)
    let structures := Bitmap.setRange (fun _ => 0) 0 (2 + DEFAULT_INODE_TABLE_BLOCKS_PER_GROUP)
    if 0 < g.journalBlocks ∧ group = g.groupCount - 1 then
      Bitmap.setRange structures (g.journalBlock - groupStart)
        (min (g.journalBlock + g.journalBlocks) lastDataExclusive - g.journalBlock)
    else structures

/-- First block and number of blocks of a group; without block groups the device is one. -/
def groupExtent (options : MkfsOptions) (g : MkfsGeometry) (group : Nat) : Nat × Nat :=
  if options.useBlockGroups then ((mkfsGroup g group).groupStart, (mkfsGroup g group).blocksCount)
  else (0, g.blocksCount)

/-- What a formatted device has blocks for. -/
inductive Region where
  | superblock
  | groupTable
  | blockBitmap (group : Nat)
  | inodeBitmap (group : Nat)
  | inodeTable (group : Nat)
  | rootDir
  | policyTable
  | journal
  deriving DecidableEq

/-- First block and number of blocks of a region; a region the device lacks has none. -/
def Region.extent (options : MkfsOptions) (g : MkfsGeometry) : Region → Nat × Nat
  | .superblock => (0, 1)
  | .groupTable => (GDT_START_BLOCK, if options.useBlockGroups then g.gdtBlocks else 0)
  | .blockBitmap group =>
      ((mkfsGroup g group).blockBitmapBlock, if group < g.groupCount then 1 else 0)
  | .inodeBitmap group =>
      ((mkfsGroup g group).inodeBitmapBlock, if group < g.groupCount then 1 else 0)
  | .inodeTable group => ((mkfsGroup g group).inodeTableStart,
      if group < g.groupCount then
        if options.useBlockGroups then DEFAULT_INODE_TABLE_BLOCKS_PER_GROUP else INODE_TABLE_BLOCKS
      else 0)
  | .rootDir => (g.rootDirBlock, 1)
  | .policyTable => (g.policyTableBlock, if g.policyTableBlock = 0 then 0 else 1)
  | .journal => (g.journalBlock, g.journalBlocks)

def Region.Covers (options : MkfsOptions) (g : MkfsGeometry) (region : Region) (block : Nat) :
    Prop :=
  (region.extent options g).1 ≤ block ∧
    block < (region.extent options g).1 + (region.extent options g).2

instance (options : MkfsOptions) (g : MkfsGeometry) (region : Region) (block : Nat) :
    Decidable (region.Covers options g block) := inferInstanceAs (Decidable (_ ∧ _))

/-- The group a region belongs to. -/
def Region.group : Region → Option Nat
  | .blockBitmap group => some group
  | .inodeBitmap group => some group
  | .inodeTable group => some group
  | _ => none

/-- The clear bits of a group's block bitmap. -/
def clearBits (options : MkfsOptions) (g : MkfsGeometry) (group : Nat) : Finset Nat :=
  Bitmap.zeros (mkfsBlockBitmap options g group) (Finset.range (groupExtent options g group).2)

/-- Regions that do not meet, and bitmaps and counters that say so. -/
structure LaidOut (options : MkfsOptions) (g : MkfsGeometry) : Prop where
  disjoint : ∀ first second block, Region.Covers options g first block →
    Region.Covers options g second block → first = second
  inside : ∀ region group block, region.group = some group →
    Region.Covers options g region block → (groupExtent options g group).1 ≤ block ∧
      block < (groupExtent options g group).1 + (groupExtent options g group).2
  bitmaps : ∀ group bit, group < g.groupCount → bit < (groupExtent options g group).2 →
    (Bitmap.test (mkfsBlockBitmap options g group) bit = true ↔
      ∃ region, Region.Covers options g region ((groupExtent options g group).1 + bit))
  freeGroups : options.useBlockGroups = true → mkfsFreeBlocks options g =
    ∑ group ∈ Finset.range g.groupCount, (mkfsGroup g group).freeBlocksCount
  freeBits : mkfsFreeBlocks options g =
    ∑ group ∈ Finset.range g.groupCount, (clearBits options g group).card

end Cryexts
