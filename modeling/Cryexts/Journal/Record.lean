import Cryexts.Super
import Cryexts.Journal.Layout

set_option autoImplicit false

namespace Cryexts

open ByteBuf (Field)
open WriteLog (store)

def JOURNAL_MAGIC : Nat := 0x4a4e4c31
def JOURNAL_FLAG_VALID : Nat := 1
def JOURNAL_HEADER_BYTES : Nat := 64
def JOURNAL_MAX_ENTRIES : Nat := (BLOCK_SIZE - JOURNAL_HEADER_BYTES) / 8
def JOURNAL_V2_MIN_BLOCKS : Nat := 4
def JOURNAL_V2_MAGIC : Nat := 0x4a4e4c32
def JOURNAL_V2_LAYOUT_VERSION : Nat := 2
def JOURNAL_V2_FLAG_ACTIVE : Nat := 1
def JOURNAL_V2_FLAG_COMMITTED : Nat := 2
def JOURNAL_V2_BLOCK_DESCRIPTOR : Nat := 2
def JOURNAL_V2_BLOCK_COMMIT : Nat := 3
def JOURNAL_V2_DESCRIPTOR_BYTES : Nat := 72
def JOURNAL_V2_MAX_ENTRIES : Nat := (BLOCK_SIZE - JOURNAL_V2_DESCRIPTOR_BYTES) / 8

namespace SbInfo

def journalV2DescriptorBlock (sbi : SbInfo) : Nat := sbi.journalBlock + 1

def journalV2PayloadStart (sbi : SbInfo) : Nat := sbi.journalBlock + 2

def journalV2PayloadAreaBlocks (sbi : SbInfo) : Nat :=
  if sbi.journalBlocks < JOURNAL_V2_MIN_BLOCKS then 0 else sbi.journalBlocks - 3

def journalV2CommitBlock (sbi : SbInfo) : Nat := sbi.journalBlock + sbi.journalBlocks - 1

def journalV2PayloadCapacity (sbi : SbInfo) : Nat :=
  if sbi.journalBlocks < JOURNAL_V2_MIN_BLOCKS then 0
  else min JOURNAL_V2_MAX_ENTRIES (sbi.journalBlocks - 3)

def journalV3PayloadCapacity (sbi : SbInfo) : Nat :=
  if sbi.journalBlocks < JOURNAL_V3_MIN_BLOCKS then 0
  else min JOURNAL_V3_MAX_ENTRIES (sbi.journalBlocks - 3)

/-- `cryexts_journal_block_is_internal`. -/
def JournalBlockIsInternal (sbi : SbInfo) (block : Nat) : Prop :=
  sbi.journalBlock ≤ block ∧ block < sbi.journalBlock + sbi.journalBlocks

instance (sbi : SbInfo) (block : Nat) : Decidable (sbi.JournalBlockIsInternal block) :=
  inferInstanceAs (Decidable (_ ∧ _))

end SbInfo

/-- `home_blocks` of a version 2 descriptor or, at its own offset, of a version 1 header. -/
def homeBlockMembers (offset : Nat) (homeBlocks : List Nat) : List (Field × Nat) :=
  homeBlocks.mapIdx fun index homeBlock => (⟨offset + 8 * index, 8⟩, homeBlock)

/-- `cryexts_journal_v2_prepare_descriptor`. -/
def journalV2PrepareDescriptor (sbi : SbInfo) (homeBlocks : List Nat) (sequence : Nat) : Block :=
  sealMembers ([(⟨0, 4⟩, JOURNAL_V2_MAGIC), (⟨4, 2⟩, JOURNAL_V2_LAYOUT_VERSION),
    (⟨6, 2⟩, JOURNAL_V2_BLOCK_DESCRIPTOR), (⟨8, 4⟩, JOURNAL_V2_FLAG_ACTIVE),
    (⟨12, 4⟩, homeBlocks.length), (⟨24, 8⟩, sequence),
    (⟨32, 8⟩, sbi.journalV2PayloadStart), (⟨40, 8⟩, sbi.journalV2CommitBlock)] ++
    homeBlockMembers JOURNAL_V2_DESCRIPTOR_BYTES homeBlocks)

/-- `cryexts_journal_v2_prepare_commit`; the empty form has no flag and no entry. -/
def journalV2PrepareCommit (sbi : SbInfo) (flags entries sequence : Nat) : Block :=
  sealMembers [(⟨0, 4⟩, JOURNAL_V2_MAGIC), (⟨4, 2⟩, JOURNAL_V2_LAYOUT_VERSION),
    (⟨6, 2⟩, JOURNAL_V2_BLOCK_COMMIT), (⟨8, 4⟩, flags), (⟨12, 4⟩, entries),
    (⟨24, 8⟩, sequence), (⟨32, 8⟩, sbi.journalV2DescriptorBlock)]

/-- `cryexts_journal_v2_record_block`. -/
def journalV2RecordBlock (homeBlock : Nat) : Kernel Unit := do
  let w ← Routine.read
  let entries := w.sbi.journalHomeBlocks
  if blocksCount w ≤ homeBlock ∨ dataBlockValid w homeBlock = false ∨
      w.sbi.JournalBlockIsInternal homeBlock then
    Routine.fail .einval
  else if homeBlock ∈ entries then return ()
  else if w.sbi.journalV2PayloadCapacity ≤ entries.length ∨
      JOURNAL_V2_MAX_ENTRIES ≤ entries.length then
    Routine.fail .enospc
  else do
    kmalloc
    let block ← readFileBlock homeBlock
    journalV3WriteSync (w.sbi.journalV2PayloadStart + entries.length) block
    journalV3WriteSync w.sbi.journalV2DescriptorBlock
      (journalV2PrepareDescriptor w.sbi (entries ++ [homeBlock]) w.sbi.journalSequence)
    journalV3WriteSync w.sbi.journalV2CommitBlock
      (journalV2PrepareCommit w.sbi JOURNAL_V2_FLAG_COMMITTED (entries.length + 1)
        w.sbi.journalSequence)
    Routine.modify fun w =>
      { w with sbi := { w.sbi with journalHomeBlocks := entries ++ [homeBlock] } }

/-- `cryexts_journal_v3_record_block`: a refused block poisons the transaction. -/
def journalV3RecordBlock (homeBlock : Nat) : Kernel Unit := do
  let w ← Routine.read
  let refuse (err : Errno) : Kernel Unit := do
    Routine.modify fun w => { w with sbi := { w.sbi with journalError := some err } }
    Routine.fail err
  if w.sbi.journalActiveSequence = 0 then Routine.fail .einval
  else match w.sbi.journalError with
    | some err => Routine.fail err
    | none =>
      if blocksCount w ≤ homeBlock ∨ w.sbi.JournalBlockIsInternal homeBlock then refuse .einval
      else if homeBlock ∈ w.sbi.journalHomeBlocks then return ()
      else if w.sbi.journalV3PayloadCapacity ≤ w.sbi.journalHomeBlocks.length then
        refuse .enospc
      else Routine.modify fun w =>
        { w with sbi := { w.sbi with
            journalHomeBlocks := w.sbi.journalHomeBlocks ++ [homeBlock] } }

/-- The superblock's share of `cryexts_mark_super_dirty`. -/
def superDirtied (w : World) : World :=
  w.dirtyBuffer 0 (updateSuperChecksum
    (((w.cache 0).set Super.nextIno w.sbi.nextIno).set Super.nextDataBlock w.sbi.nextDataBlock))

/-- The checksum of a version 1 header sits at offset 12. -/
def journalHeaderChecksum (buf : Block) : Nat :=
  checksumSkip buf.byte BLOCK_SIZE 12 4 FNV_OFFSET

/-- `cryexts_journal_header_valid`. -/
def journalHeaderValid (sbi : SbInfo) (header : Block) : Bool :=
  let entries := header.get ⟨8, 4⟩
  header.get ⟨0, 4⟩ == JOURNAL_MAGIC && decide (entries ≤ JOURNAL_MAX_ENTRIES) &&
    decide (entries + 1 ≤ sbi.journalBlocks) &&
    header.get ⟨12, 4⟩ == journalHeaderChecksum header &&
    ((List.range JOURNAL_MAX_ENTRIES).drop entries).all fun index =>
      header.get ⟨JOURNAL_HEADER_BYTES + 8 * index, 8⟩ == 0

/-- The header the version 1 record path writes over what it read: a block it
cannot read counts as empty. -/
def journalV1Header (sbi : SbInfo) (found : Block) (homeBlock : Nat) : Block :=
  let entries := sbi.journalHomeBlocks.length
  let header := if journalHeaderValid sbi found then found else ByteBuf.zero BLOCK_SIZE
  let header := header.setAll [(⟨0, 4⟩, JOURNAL_MAGIC), (⟨4, 4⟩, JOURNAL_FLAG_VALID),
    (⟨8, 4⟩, entries + 1), (⟨16, 8⟩, sbi.journalSequence + 1),
    (⟨JOURNAL_HEADER_BYTES + 8 * entries, 8⟩, homeBlock)]
  header.set ⟨12, 4⟩ (journalHeaderChecksum header)

/-- The version 1 body of `cryexts_journal_record_block`. Its own
`cryexts_mark_super_dirty` asks for block 0, which no version 1 transaction
records since block 0 is not a data block. -/
def journalV1RecordBlock (homeBlock : Nat) : Kernel Unit := do
  let w ← Routine.read
  let entries := w.sbi.journalHomeBlocks
  if w.sbi.journalBlocks = 0 then Routine.fail .eopnotsupp
  else if blocksCount w ≤ homeBlock ∨ dataBlockValid w homeBlock = false ∨
      w.sbi.JournalBlockIsInternal homeBlock then
    Routine.fail .einval
  else if homeBlock ∈ entries then return ()
  else if JOURNAL_MAX_ENTRIES ≤ entries.length ∨ w.sbi.journalBlocks ≤ entries.length + 1 then
    Routine.fail .enospc
  else do
    kmalloc
    let block ← readFileBlock homeBlock
    journalV3WriteSync (w.sbi.journalBlock + 1 + entries.length) block
    let found : Block ← fun w =>
      match readFileBlock w.sbi.journalBlock w with
      | (.ok found, after) => (.ok found, after)
      | (.error _, after) => (.ok (ByteBuf.zero BLOCK_SIZE), after)
    let header := journalV1Header w.sbi found homeBlock
    Routine.modify fun w =>
      let sequence := u64 (w.sbi.journalSequence + 1)
      superDirtied
        { w with
          sbi := { w.sbi with
            journalSequence := sequence
            journalHomeBlocks := entries ++ [homeBlock] }
          cache := store w.cache 0 ((w.cache 0).set Super.journalSequence sequence) }
    journalV3WriteSync w.sbi.journalBlock header

/-- `cryexts_journal_record_block`. -/
def journalRecordBlock (homeBlock : Nat) : Kernel Unit := do
  let w ← Routine.read
  if w.sbi.journalEnabled = false ∨ w.sbi.journalReplaying = true then return ()
  else if w.sbi.journalV3 then journalV3RecordBlock homeBlock
  else if w.sbi.journalV2 then journalV2RecordBlock homeBlock
  else journalV1RecordBlock homeBlock

/-- `cryexts_journal_record_bh` where the caller drops the result. -/
def journalRecordBh (homeBlock : Nat) (w : World) : World := (journalRecordBlock homeBlock w).2

/-- `cryexts_mark_super_dirty`. -/
def markSuperDirty (w : World) : World := journalRecordBh 0 (superDirtied w)

/-- `cryexts_super_set_recovery`. -/
def superSetRecovery (needed : Bool) (w : World) : World :=
  let state := w.super Super.state
  let incompat := w.super Super.featuresIncompat
  let state :=
    if needed then state ||| FS_STATE_NEEDS_RECOVERY
    else state &&& (0xffffffff - FS_STATE_NEEDS_RECOVERY)
  let incompat :=
    if needed then incompat ||| FEATURE_INCOMPAT_NEEDS_RECOVERY
    else incompat &&& (0xffffffff - FEATURE_INCOMPAT_NEEDS_RECOVERY)
  let marked := ((w.cache 0).set Super.state state).set Super.featuresIncompat incompat
  markSuperDirty { w with cache := store w.cache 0 marked }

end Cryexts
