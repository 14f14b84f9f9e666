import Cryexts.Lib.ByteBuf

set_option autoImplicit false

namespace Cryexts

open ByteBuf (Field)

def BLOCK_SIZE : Nat := 4096

abbrev Block : Type := ByteBuf BLOCK_SIZE

/-- A `u64` result, which wraps. -/
def u64 (value : Nat) : Nat := value % 2 ^ 64

theorem u64_of_lt (value : Nat) (bound : value < 2 ^ 64) : u64 value = value :=
  Nat.mod_eq_of_lt bound

theorem u64_lt (value : Nat) : u64 value < 2 ^ 64 := Nat.mod_lt _ (by decide)

/-- A `u32` result, which wraps. -/
def u32 (value : Nat) : Nat := value % 2 ^ 32

theorem u32_of_lt (value : Nat) (bound : value < 2 ^ 32) : u32 value = value :=
  Nat.mod_eq_of_lt bound

def MAGIC : Nat := 0x43525853

def VERSION_V4 : Nat := 4
def VERSION_V5 : Nat := 5
def VERSION_V6 : Nat := 6
def SUPER_OFFSET : Nat := 1024
def ROOT_INO : Nat := 1
def GDT_START_BLOCK : Nat := 1
def BLOCK_BITMAP_BLOCK : Nat := 1
def INODE_BITMAP_BLOCK : Nat := 2
def INODE_TABLE_START : Nat := 3
def INODE_TABLE_BLOCKS : Nat := 16
def ROOT_DIR_BLOCK : Nat := INODE_TABLE_START + INODE_TABLE_BLOCKS
def FIRST_FREE_DATA_BLOCK : Nat := ROOT_DIR_BLOCK + 1
def DEFAULT_JOURNAL_BLOCKS : Nat := 512
def DEFAULT_BLOCKS_PER_GROUP : Nat := 4096
def DEFAULT_INODE_TABLE_BLOCKS_PER_GROUP : Nat := 4
/-- `sizeof(struct cryexts_inode)`. -/
def INODE_SIZE : Nat := 276
def DEFAULT_INODES_PER_GROUP : Nat :=
  DEFAULT_INODE_TABLE_BLOCKS_PER_GROUP * (BLOCK_SIZE / INODE_SIZE)
def POLICY_TABLE_MAX_ENTRIES : Nat := (BLOCK_SIZE - 32) / 16

def FS_STATE_CLEAN : Nat := 1
def FS_STATE_NEEDS_RECOVERY : Nat := 2

def FEATURE_COMPAT_HAS_JOURNAL : Nat := 1
def FEATURE_COMPAT_PREALLOC : Nat := 2
def FEATURE_INCOMPAT_SINGLE_INDIRECT : Nat := 0x1
def FEATURE_INCOMPAT_BLOCK_GROUPS : Nat := 0x2
def FEATURE_INCOMPAT_NEEDS_RECOVERY : Nat := 0x4
def FEATURE_INCOMPAT_EXTENTS : Nat := 0x8
def FEATURE_INCOMPAT_XATTR : Nat := 0x10
def FEATURE_INCOMPAT_ENCRYPTION_POLICY : Nat := 0x20
def FEATURE_INCOMPAT_DIR_INDEX : Nat := 0x40
def FEATURE_INCOMPAT_ORPHAN_LIST : Nat := 0x80
def FEATURE_INCOMPAT_POLICY_TABLE : Nat := 0x100
def FEATURE_INCOMPAT_EXTENT_TREE : Nat := 0x200
def FEATURE_INCOMPAT_JOURNAL_V2 : Nat := 0x400
def FEATURE_INCOMPAT_JOURNAL_V3 : Nat := 0x800
def FEATURE_INCOMPAT_JOURNAL_RING : Nat := 0x1000
def FEATURE_RO_COMPAT_METADATA_CSUM : Nat := 1
def FEATURE_RO_COMPAT_LARGE_XATTR : Nat := 2
def METADATA_CSUM_FNV1A32 : Nat := 1

-- Members of `struct cryexts_super_block`, as offsets in block 0.
namespace Super

def at_ (offset width : Nat) : Field := ⟨SUPER_OFFSET + offset, width⟩

def magic : Field := at_ 0 4
def version : Field := at_ 4 4
def blockSize : Field := at_ 8 4
def inodeSize : Field := at_ 12 4
def blocksCount : Field := at_ 16 8
def inodesCount : Field := at_ 24 8
def freeBlocksCount : Field := at_ 32 8
def freeInodesCount : Field := at_ 40 8
def blockBitmapBlock : Field := at_ 48 8
def inodeBitmapBlock : Field := at_ 56 8
def inodeTableStart : Field := at_ 64 8
def inodeTableBlocks : Field := at_ 72 8
def rootInodeBlock : Field := at_ 80 8
def rootDirBlock : Field := at_ 88 8
def firstDataBlock : Field := at_ 96 8
def nextIno : Field := at_ 104 8
def nextDataBlock : Field := at_ 112 8
def keyHash : Field := at_ 140 4
def featuresCompat : Field := at_ 144 4
def featuresIncompat : Field := at_ 148 4
def featuresRoCompat : Field := at_ 152 4
def state : Field := at_ 184 4
def mountCount : Field := at_ 188 4
def maxMountCount : Field := at_ 192 4
def defaultEncryptionPolicy : Field := at_ 196 4
def lastMountTime : Field := at_ 200 8
def lastWriteTime : Field := at_ 208 8
def lastCheckTime : Field := at_ 216 8
def journalBlock : Field := at_ 224 8
def journalBlocks : Field := at_ 232 8
def groupCount : Field := at_ 240 8
def blocksPerGroup : Field := at_ 248 8
def inodesPerGroup : Field := at_ 256 8
def groupDescTableStart : Field := at_ 264 8
def groupDescTableBlocks : Field := at_ 272 8
def orphanHead : Field := at_ 312 8
def policyTableBlock : Field := at_ 320 8
def dirIndexSeed : Field := at_ 328 8
def metadataCsumType : Field := at_ 336 8
def journalSequence : Field := at_ 344 8
def fsGeneration : Field := at_ 352 8
/-- The first word of `reserved`. -/
def checksum : Field := at_ 360 4

def SIZE : Nat := 456

end Super

/-- `sizeof(struct cryexts_group_desc)`. -/
def GROUP_DESC_SIZE : Nat := 76

-- Members of one group descriptor, as offsets in the descriptor.
namespace GroupDesc

def groupStart : Nat := 0
def blocksCount : Nat := 8
def blockBitmapBlock : Nat := 16
def inodeBitmapBlock : Nat := 24
def inodeTableStart : Nat := 32
def inodeTableBlocks : Nat := 40
def checksum : Nat := 60

end GroupDesc

-- Members of `struct cryexts_inode`; `struct cryexts_inode_extra` ends its reserved area.
namespace DiskInode

def mode : Field := ⟨0, 2⟩
def linksCount : Field := ⟨2, 2⟩
def size : Field := ⟨12, 8⟩
def blocks : Field := ⟨20, 8⟩
def block (index : Nat) : Field := ⟨52 + 8 * index, 8⟩
def indirectBlock : Field := ⟨148, 8⟩
def inodeFlags : Field := ⟨156, 4⟩
/-- Where `reserved` starts. -/
def RESERVED : Nat := 160
def xattrBlock : Field := ⟨256, 8⟩
def encryptionPolicyId : Field := ⟨264, 4⟩
def nextOrphan : Field := ⟨268, 8⟩

end DiskInode

end Cryexts
