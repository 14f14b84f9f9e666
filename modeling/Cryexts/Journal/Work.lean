import Cryexts.Journal.SuperState
import Cryexts.Journal.Transaction

set_option autoImplicit false

namespace Cryexts

open WriteLog (store applyWrites)

/-- The superblock block describes the mount: its journal, its size and its features. -/
structure Describes (super : Block) (sbi : SbInfo) (count : Nat) : Prop where
  journalBlock : super.get Super.journalBlock = sbi.journalBlock
  journalBlocks : super.get Super.journalBlocks = sbi.journalBlocks
  blocksCount : super.get Super.blocksCount = count
  enabled : (super.get Super.featuresCompat &&& FEATURE_COMPAT_HAS_JOURNAL != 0) =
    sbi.journalEnabled
  v2 : (super.get Super.featuresIncompat &&& FEATURE_INCOMPAT_JOURNAL_V2 != 0) = sbi.journalV2
  v3 : (super.get Super.featuresIncompat &&& FEATURE_INCOMPAT_JOURNAL_V3 != 0) = sbi.journalV3
  ring : (super.get Super.featuresIncompat &&& FEATURE_INCOMPAT_JOURNAL_RING != 0) =
    sbi.journalRing

private theorem clearRecoveryIncompat_and (incompat flag : Nat)
    (apart : (0xffffffff - FEATURE_INCOMPAT_NEEDS_RECOVERY) &&& flag = flag) :
    clearRecoveryIncompat incompat &&& flag = incompat &&& flag := by
  rw [clearRecoveryIncompat, Nat.and_assoc, apart]

/-- Recovery's own rewriting of the superblock leaves what it describes. -/
theorem SameSuper.describes {first second : Block} (same : SameSuper first second) {sbi : SbInfo}
    {count : Nat} (describes : Describes second sbi count) : Describes first sbi count := by
  have flag : ∀ bit, (0xffffffff - FEATURE_INCOMPAT_NEEDS_RECOVERY) &&& bit = bit →
      first.get Super.featuresIncompat &&& bit = second.get Super.featuresIncompat &&& bit := by
    intro bit apart
    rw [← clearRecoveryIncompat_and _ bit apart, same.incompat, clearRecoveryIncompat_and _ _ apart]
  constructor
  · rw [same.get _ (by decide), describes.journalBlock]
  · rw [same.get _ (by decide), describes.journalBlocks]
  · rw [same.get _ (by decide), describes.blocksCount]
  · rw [same.get _ (by decide), describes.enabled]
  · rw [flag _ (by decide), describes.v2]
  · rw [flag _ (by decide), describes.v3]
  · rw [flag _ (by decide), describes.ring]

/-- Two states of one mount: the members that never change while it lasts. -/
structure SameMount (first second : SbInfo) : Prop where
  area : first.area = second.area
  tableStart : first.groupDescTableStart = second.groupDescTableStart
  tableBlocks : first.groupDescTableBlocks = second.groupDescTableBlocks
  enabled : first.journalEnabled = second.journalEnabled
  v2 : first.journalV2 = second.journalV2
  v3 : first.journalV3 = second.journalV3
  ring : first.journalRing = second.journalRing
  replaying : first.journalReplaying = second.journalReplaying

theorem SameMount.trans {first second third : SbInfo} (left : SameMount first second)
    (right : SameMount second third) : SameMount first third :=
  ⟨left.area.trans right.area, left.tableStart.trans right.tableStart,
    left.tableBlocks.trans right.tableBlocks, left.enabled.trans right.enabled,
    left.v2.trans right.v2, left.v3.trans right.v3, left.ring.trans right.ring,
    left.replaying.trans right.replaying⟩

theorem SameMount.refl (sbi : SbInfo) : SameMount sbi sbi :=
  ⟨rfl, rfl, rfl, rfl, rfl, rfl, rfl, rfl⟩

theorem SameMount.symm {first second : SbInfo} (same : SameMount first second) :
    SameMount second first :=
  ⟨same.area.symm, same.tableStart.symm, same.tableBlocks.symm, same.enabled.symm, same.v2.symm,
    same.v3.symm, same.ring.symm, same.replaying.symm⟩

theorem Describes.of_same {super : Block} {first second : SbInfo} {count : Nat}
    (describes : Describes super second count) (same : SameMount first second) :
    Describes super first count where
  journalBlock := describes.journalBlock.trans (congrArg JournalArea.first same.area).symm
  journalBlocks := describes.journalBlocks.trans (congrArg JournalArea.blocks same.area).symm
  blocksCount := describes.blocksCount
  enabled := describes.enabled.trans same.enabled.symm
  v2 := describes.v2.trans same.v2.symm
  v3 := describes.v3.trans same.v3.symm
  ring := describes.ring.trans same.ring.symm

/-- The group descriptor table lies behind block 0 and outside the journal. -/
structure TableApart (sbi : SbInfo) : Prop where
  start : 0 < sbi.groupDescTableStart
  outside : ∀ index, index < sbi.groupDescTableBlocks →
    ¬ sbi.area.Inside (sbi.groupDescTableStart + index)

theorem TableApart.of_same {first second : SbInfo} (table : TableApart second)
    (same : SameMount first second) : TableApart first where
  start := by
    rw [same.tableStart]
    exact table.start
  outside index before := by
    rw [same.tableStart, same.area]
    exact table.outside index (same.tableBlocks ▸ before)

/-- What happens between commits: buffers outside the journal, the allocation cursors,
the group storage and the open transaction change, and nothing reaches the device. -/
structure Quiet (w after : World) : Prop where
  log : after.log = w.log
  base : after.base = w.base
  size : after.size = w.size
  faults : after.faults = w.faults
  uptodate : after.uptodate = w.uptodate
  journal : ∀ block, w.sbi.area.Inside block → after.cache block = w.cache block
  sbi : after.sbi = { w.sbi with
    nextIno := after.sbi.nextIno
    nextDataBlock := after.sbi.nextDataBlock
    journalActiveSequence := after.sbi.journalActiveSequence
    journalError := after.sbi.journalError
    journalHomeBlocks := after.sbi.journalHomeBlocks
    gdtStorage := after.sbi.gdtStorage }

namespace Quiet

variable {w middle after : World}

theorem mount (quiet : Quiet w after) : SameMount after.sbi w.sbi := by
  rw [quiet.sbi]
  exact ⟨rfl, rfl, rfl, rfl, rfl, rfl, rfl, rfl⟩

theorem area (quiet : Quiet w after) : after.sbi.area = w.sbi.area := quiet.mount.area

theorem enabled (quiet : Quiet w after) :
    after.sbi.journalEnabled = w.sbi.journalEnabled := quiet.mount.enabled

theorem v3 (quiet : Quiet w after) : after.sbi.journalV3 = w.sbi.journalV3 := quiet.mount.v3

theorem ring (quiet : Quiet w after) : after.sbi.journalRing = w.sbi.journalRing :=
  quiet.mount.ring

theorem replaying (quiet : Quiet w after) :
    after.sbi.journalReplaying = w.sbi.journalReplaying := quiet.mount.replaying

theorem head (quiet : Quiet w after) :
    after.sbi.journalRingHead = w.sbi.journalRingHead := by rw [quiet.sbi]

theorem tail (quiet : Quiet w after) :
    after.sbi.journalRingTail = w.sbi.journalRingTail := by rw [quiet.sbi]

theorem checkpoint (quiet : Quiet w after) :
    after.sbi.journalCheckpointSequence = w.sbi.journalCheckpointSequence := by rw [quiet.sbi]

theorem last (quiet : Quiet w after) :
    after.sbi.journalLastSequence = w.sbi.journalLastSequence := by rw [quiet.sbi]

theorem sequence (quiet : Quiet w after) :
    after.sbi.journalSequence = w.sbi.journalSequence := by rw [quiet.sbi]

theorem describes (quiet : Quiet w after) {super : Block} {count : Nat}
    (describes : Describes super w.sbi count) : Describes super after.sbi count :=
  describes.of_same quiet.mount

theorem trans (first : Quiet w middle) (second : Quiet middle after) : Quiet w after where
  log := second.log.trans first.log
  base := second.base.trans first.base
  size := second.size.trans first.size
  faults := second.faults.trans first.faults
  uptodate := second.uptodate.trans first.uptodate
  journal block inside := by
    rw [second.journal block (by rw [first.area]; exact inside), first.journal block inside]
  sbi := by
    rw [second.sbi, first.sbi]

theorem disk (quiet : Quiet w after) : after.disk = w.disk := by
  rw [World.disk, quiet.base, quiet.log]
  rfl

theorem healthy (quiet : Quiet w after) (healthy : w.Healthy) : after.Healthy :=
  ⟨by rw [quiet.faults, healthy.noFaults], by rw [quiet.uptodate, healthy.current]⟩

end Quiet

/-- Quiet work inside one transaction, or outside any. -/
structure Worked (w after : World) : Prop extends Quiet w after where
  active : after.sbi.journalActiveSequence = w.sbi.journalActiveSequence

namespace Worked

theorem refl (w : World) : Worked w w :=
  ⟨⟨rfl, rfl, rfl, rfl, rfl, fun _ _ => rfl, rfl⟩, rfl⟩

theorem trans {w middle after : World} (first : Worked w middle) (second : Worked middle after) :
    Worked w after :=
  ⟨first.toQuiet.trans second.toQuiet, second.active.trans first.active⟩

end Worked

/-- The record set of an open transaction, as the checks of the record path leave it. -/
structure RecordSet (sbi : SbInfo) (count : Nat) : Prop where
  distinct : sbi.journalHomeBlocks.Nodup
  home : ∀ block, block ∈ sbi.journalHomeBlocks →
    block < count ∧ ¬ sbi.JournalBlockIsInternal block
  fits : sbi.journalHomeBlocks.length ≤ sbi.journalV3PayloadCapacity

theorem RecordSet.of_same {sbi other : SbInfo} {count : Nat} (records : RecordSet sbi count)
    (area : other.area = sbi.area) (homes : other.journalHomeBlocks = sbi.journalHomeBlocks) :
    RecordSet other count where
  distinct := by rw [homes]; exact records.distinct
  home block member := by
    have home := records.home block (homes ▸ member)
    refine ⟨home.1, ?_⟩
    change ¬ other.area.Inside block
    rw [area]
    exact home.2
  fits := by
    rw [homes, SbInfo.journalV3PayloadCapacity_eq, area]
    exact records.fits

/-- What `cryexts_journal_record_bh` can do under version 3: nothing, poison the
transaction, or append the block. -/
theorem journalRecordBh_cases (block : Nat) (w : World) (enabled : w.sbi.journalEnabled = true)
    (v3 : w.sbi.journalV3 = true) (live : w.sbi.journalReplaying = false) :
    (journalRecordBh block w = w ∧ (w.sbi.journalActiveSequence = 0 ∨
        w.sbi.journalError ≠ none ∨ block ∈ w.sbi.journalHomeBlocks)) ∨
      (∃ err, w.sbi.journalActiveSequence ≠ 0 ∧
        journalRecordBh block w = { w with sbi := { w.sbi with journalError := some err } }) ∨
      (w.sbi.journalActiveSequence ≠ 0 ∧ w.sbi.journalError = none ∧ block < blocksCount w ∧
        ¬ w.sbi.JournalBlockIsInternal block ∧ block ∉ w.sbi.journalHomeBlocks ∧
        w.sbi.journalHomeBlocks.length < w.sbi.journalV3PayloadCapacity ∧
        journalRecordBh block w = { w with sbi := { w.sbi with
          journalHomeBlocks := w.sbi.journalHomeBlocks ++ [block] } }) := by
  have unfolded : journalRecordBh block w = (journalV3RecordBlock block w).2 := by
    simp [journalRecordBh, journalRecordBlock, enabled, v3, live]
  rw [unfolded]
  by_cases closed : w.sbi.journalActiveSequence = 0
  · left
    exact ⟨by simp [journalV3RecordBlock, closed], Or.inl closed⟩
  · cases poisoned : w.sbi.journalError with
    | some err =>
        left
        exact ⟨by simp [journalV3RecordBlock, closed, poisoned], Or.inr (Or.inl (by simp))⟩
    | none =>
        by_cases refused : blocksCount w ≤ block ∨ w.sbi.JournalBlockIsInternal block
        · right; left
          exact ⟨.einval, closed, by
            simp [journalV3RecordBlock, closed, poisoned, refused]⟩
        · by_cases present : block ∈ w.sbi.journalHomeBlocks
          · left
            exact ⟨by simp [journalV3RecordBlock, closed, poisoned, refused, present],
              Or.inr (Or.inr present)⟩
          · by_cases full : w.sbi.journalV3PayloadCapacity ≤ w.sbi.journalHomeBlocks.length
            · right; left
              exact ⟨.enospc, closed, by
                simp [journalV3RecordBlock, closed, poisoned, refused, present, full]⟩
            · right; right
              obtain ⟨inside, outside⟩ := not_or.mp refused
              exact ⟨closed, rfl, Nat.lt_of_not_le inside, outside, present,
                Nat.lt_of_not_le full, by
                  simp [journalV3RecordBlock, closed, poisoned, refused, present, full]⟩

section Record

variable {w : World} (block : Nat) (enabled : w.sbi.journalEnabled = true)
variable (v3 : w.sbi.journalV3 = true) (live : w.sbi.journalReplaying = false)
include enabled v3 live

theorem journalRecordBh_cache : (journalRecordBh block w).cache = w.cache ∧
    (journalRecordBh block w).dirty = w.dirty := by
  rcases journalRecordBh_cases block w enabled v3 live with
    ⟨same, _⟩ | ⟨_, _, same⟩ | ⟨_, _, _, _, _, _, same⟩ <;> rw [same] <;> exact ⟨rfl, rfl⟩

theorem journalRecordBh_worked : Worked w (journalRecordBh block w) := by
  rcases journalRecordBh_cases block w enabled v3 live with
    ⟨same, _⟩ | ⟨_, _, same⟩ | ⟨_, _, _, _, _, _, same⟩ <;> rw [same]
  · exact Worked.refl w
  · exact ⟨⟨rfl, rfl, rfl, rfl, rfl, fun _ _ => rfl, rfl⟩, rfl⟩
  · exact ⟨⟨rfl, rfl, rfl, rfl, rfl, fun _ _ => rfl, rfl⟩, rfl⟩

theorem journalRecordBh_recordSet {count : Nat} (size : blocksCount w = count)
    (records : RecordSet w.sbi count) : RecordSet (journalRecordBh block w).sbi count := by
  rcases journalRecordBh_cases block w enabled v3 live with
    ⟨same, _⟩ | ⟨_, _, same⟩ | ⟨_, _, inside, outside, absent, room, same⟩ <;> rw [same]
  · exact records
  · exact ⟨records.distinct, records.home, records.fits⟩
  · refine ⟨?_, ?_, ?_⟩
    · have fresh : ∀ other, other ∈ w.sbi.journalHomeBlocks → other ≠ block := by
        intro other member here
        exact absent (here ▸ member)
      simpa [List.nodup_append, records.distinct] using fresh
    · intro other member
      rcases List.mem_append.mp member with earlier | here
      · exact records.home other earlier
      · rw [List.mem_singleton.mp here]
        exact ⟨size ▸ inside, outside⟩
    · simp only [List.length_append, List.length_singleton]
      exact room

/-- A home block the transaction does not hold yet, and has room for, is appended. -/
theorem journalRecordBh_fresh (opened : w.sbi.journalActiveSequence ≠ 0)
    (sound : w.sbi.journalError = none) (inside : block < blocksCount w)
    (outside : ¬ w.sbi.area.Inside block) (absent : block ∉ w.sbi.journalHomeBlocks)
    (room : w.sbi.journalHomeBlocks.length < w.sbi.area.capacity) :
    journalRecordBh block w = { w with sbi := { w.sbi with
      journalHomeBlocks := w.sbi.journalHomeBlocks ++ [block] } } := by
  have accepted : ¬ (blocksCount w ≤ block ∨ w.sbi.JournalBlockIsInternal block) :=
    not_or.mpr ⟨Nat.not_le.mpr inside, outside⟩
  have fits : ¬ w.sbi.journalV3PayloadCapacity ≤ w.sbi.journalHomeBlocks.length :=
    Nat.not_le.mpr room
  simp [journalRecordBh, journalRecordBlock, journalV3RecordBlock, enabled, v3, live, opened,
    sound, accepted, absent, fits]

/-- A block asked for in an open, unpoisoned transaction is in its record set. -/
theorem journalRecordBh_mem (opened : w.sbi.journalActiveSequence ≠ 0)
    (sound : (journalRecordBh block w).sbi.journalError = none) :
    block ∈ (journalRecordBh block w).sbi.journalHomeBlocks := by
  rcases journalRecordBh_cases block w enabled v3 live with
    ⟨same, closed | poisoned | present⟩ | ⟨_, _, same⟩ | ⟨_, _, _, _, _, _, same⟩ <;>
    rw [same] at sound ⊢
  · exact absurd closed opened
  · exact absurd sound poisoned
  · exact present
  · simp at sound
  · simp

end Record

private theorem foldl_store_other (content : Nat → Block) (start : Nat) (indices : List Nat)
    (cache : Nat → Block) (block : Nat)
    (apart : ∀ index, index ∈ indices → block ≠ start + index) :
    indices.foldl (fun cache index => store cache (start + index) (content index)) cache block =
      cache block := by
  induction indices generalizing cache with
  | nil => rfl
  | cons index rest ih =>
      rw [List.foldl_cons, ih _ (fun other member => apart other (List.mem_cons_of_mem _ member))]
      exact WriteLog.store_other _ _ _ _ (apart index List.mem_cons_self)

/-- `cryexts_gdt_prepare_write` changes the table's buffers and storage only. -/
theorem gdtPrepareWrite_cache (w : World) (block : Nat)
    (apart : ∀ index, index < w.sbi.groupDescTableBlocks →
      block ≠ w.sbi.groupDescTableStart + index) :
    (gdtPrepareWrite w).cache block = w.cache block := by
  unfold gdtPrepareWrite copyGdtToBlocks
  apply foldl_store_other
  intro index member
  exact apart index (List.mem_range.mp member)

theorem gdtPrepareWrite_sbi (w : World) :
    (gdtPrepareWrite w).sbi = { w.sbi with gdtStorage := (gdtPrepareWrite w).sbi.gdtStorage } := rfl

theorem gdtPrepareWrite_worked {w : World} (table : TableApart w.sbi) :
    Worked w (gdtPrepareWrite w) := by
  refine ⟨⟨rfl, rfl, rfl, rfl, rfl, ?_, gdtPrepareWrite_sbi w⟩, rfl⟩
  intro block inside
  apply gdtPrepareWrite_cache
  intro index before here
  exact table.outside index before (here ▸ inside)

theorem gdtPrepareWrite_super {w : World} (table : TableApart w.sbi) :
    (gdtPrepareWrite w).cache 0 = w.cache 0 := by
  apply gdtPrepareWrite_cache
  intro index _
  have start := table.start
  omega

section Super

variable {w : World} (apart : 0 < w.sbi.area.first)
include apart

private theorem store_super_journal (content : Block) (block : Nat)
    (inside : w.sbi.area.Inside block) : store w.cache 0 content block = w.cache block := by
  apply WriteLog.store_other
  have low := inside.1
  omega

/-- A change of the superblock buffer is ordinary work. -/
theorem dirtyBuffer_super_worked (content : Block) : Worked w (w.dirtyBuffer 0 content) :=
  ⟨⟨rfl, rfl, rfl, rfl, rfl,
    fun block inside => store_super_journal apart content block inside, rfl⟩, rfl⟩

theorem setDiskJournalSequence_worked (sequence : Nat) :
    Worked w (setDiskJournalSequence sequence w) :=
  ⟨⟨rfl, rfl, rfl, rfl, rfl,
    fun block inside => store_super_journal apart _ block inside, rfl⟩, rfl⟩

end Super

@[simp] theorem setDiskJournalSequence_sbi (sequence : Nat) (w : World) :
    (setDiskJournalSequence sequence w).sbi = w.sbi := rfl

@[simp] theorem setDiskJournalSequence_super (sequence : Nat) (w : World) :
    (setDiskJournalSequence sequence w).cache 0 = (w.cache 0).set Super.journalSequence sequence :=
  WriteLog.store_same w.cache 0 _

/-- The buffers a commit takes its images from. -/
def atCommit (w : World) : World :=
  superSetRecovery true
    (gdtPrepareWrite (setDiskJournalSequence w.sbi.journalActiveSequence w))

/-- The superblock buffer of a commit. -/
def commitSuper (w : World) : Block :=
  recoveredSuper true ((w.cache 0).set Super.journalSequence w.sbi.journalActiveSequence)
    w.sbi.nextIno w.sbi.nextDataBlock

theorem commitSuper_same (w : World) : SameSuper (commitSuper w) (w.cache 0) :=
  (recoveredSuper_same _ _ _ _).trans (setJournalSequence_same _ _)

/-- What the commit has buffered when it records the superblock. -/
theorem atCommit_before {w : World} (apart : 0 < w.sbi.area.first)
    (table : TableApart w.sbi) :
    ∃ before, atCommit w = journalRecordBh 0 before ∧ Worked w before ∧
      before.cache 0 = commitSuper w ∧
      before.sbi.journalHomeBlocks = w.sbi.journalHomeBlocks ∧
      before.sbi.journalError = w.sbi.journalError := by
  have sequenced := setDiskJournalSequence_worked apart w.sbi.journalActiveSequence
  have table' : TableApart (setDiskJournalSequence w.sbi.journalActiveSequence w).sbi := table
  have copied := sequenced.trans (gdtPrepareWrite_worked table')
  have super := gdtPrepareWrite_super table'
  refine ⟨_, superSetRecovery_eq true _, copied.trans (dirtyBuffer_super_worked ?_ _), ?_, ?_, ?_⟩
  · rw [copied.area]
    exact apart
  · rw [World.dirtyBuffer_cache, WriteLog.store_same, super, setDiskJournalSequence_super,
      gdtPrepareWrite_sbi]
    rfl
  · rw [World.dirtyBuffer_sbi, gdtPrepareWrite_sbi, setDiskJournalSequence_sbi]
  · rw [World.dirtyBuffer_sbi, gdtPrepareWrite_sbi, setDiskJournalSequence_sbi]

section AtCommit

variable {w : World} (apart : 0 < w.sbi.area.first) (table : TableApart w.sbi)
variable (enabled : w.sbi.journalEnabled = true)
variable (v3 : w.sbi.journalV3 = true) (live : w.sbi.journalReplaying = false)
include apart table enabled v3 live

theorem atCommit_worked : Worked w (atCommit w) := by
  obtain ⟨before, same, worked, _⟩ := atCommit_before apart table
  rw [same]
  exact worked.trans (journalRecordBh_worked 0 (worked.enabled.trans enabled)
    (worked.v3.trans v3) (worked.replaying.trans live))

theorem atCommit_super : (atCommit w).cache 0 = commitSuper w := by
  obtain ⟨before, same, worked, super, _⟩ := atCommit_before apart table
  rw [same, (journalRecordBh_cache 0 (worked.enabled.trans enabled) (worked.v3.trans v3)
    (worked.replaying.trans live)).1, super]

/-- A commit's own buffer changes stay in the superblock and the group descriptor table. -/
theorem atCommit_cache (block : Nat) (home : block ≠ 0)
    (other : ∀ index, index < w.sbi.groupDescTableBlocks →
      block ≠ w.sbi.groupDescTableStart + index) : (atCommit w).cache block = w.cache block := by
  have sequenced := setDiskJournalSequence_worked apart w.sbi.journalActiveSequence
  have table' : TableApart (setDiskJournalSequence w.sbi.journalActiveSequence w).sbi := table
  have copied := sequenced.trans (gdtPrepareWrite_worked table')
  rw [atCommit, superSetRecovery_eq]
  generalize recoveredSuper true _ _ _ = super
  have marked := copied.trans (dirtyBuffer_super_worked (by rw [copied.area]; exact apart) super)
  have buffered := gdtPrepareWrite_cache
    (setDiskJournalSequence w.sbi.journalActiveSequence w) block other
  rw [(journalRecordBh_cache 0 (marked.enabled.trans enabled) (marked.v3.trans v3)
    (marked.replaying.trans live)).1, World.dirtyBuffer_cache,
    WriteLog.store_other _ _ _ _ home, buffered]
  exact WriteLog.store_other _ _ _ _ home

theorem atCommit_recordSet {count : Nat} (describes : Describes (w.cache 0) w.sbi count)
    (records : RecordSet w.sbi count) : RecordSet (atCommit w).sbi count := by
  obtain ⟨before, same, worked, super, homes, _⟩ := atCommit_before apart table
  rw [same]
  refine journalRecordBh_recordSet 0 (worked.enabled.trans enabled) (worked.v3.trans v3)
    (worked.replaying.trans live) ?_ (records.of_same worked.area homes)
  rw [blocksCount, World.super, super]
  exact ((commitSuper_same w).describes describes).blocksCount

theorem atCommit_mem (opened : w.sbi.journalActiveSequence ≠ 0)
    (sound : (atCommit w).sbi.journalError = none) : 0 ∈ (atCommit w).sbi.journalHomeBlocks := by
  obtain ⟨before, same, worked, _⟩ := atCommit_before apart table
  rw [same] at sound ⊢
  exact journalRecordBh_mem 0 (worked.enabled.trans enabled) (worked.v3.trans v3)
    (worked.replaying.trans live) (by rw [worked.active]; exact opened) sound

end AtCommit

end Cryexts
