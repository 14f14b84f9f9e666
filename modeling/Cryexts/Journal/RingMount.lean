import Cryexts.Journal.RingRun

set_option autoImplicit false

namespace Cryexts

open WriteLog (store applyWrites)

/-- A device with a ring journal, as far as the superblock tells before the journal itself
is looked at. -/
structure RingLayout (image : Nat → Block) (size : Nat) : Prop where
  enabled : (loadSuper image).journalEnabled = true
  v3 : (loadSuper image).journalV3 = true
  ring : (loadSuper image).journalRing = true
  first : 0 < (loadSuper image).journalBlock
  long : JOURNAL_V3_MIN_BLOCKS ≤ (loadSuper image).journalBlocks
  room : (loadSuper image).journalBlock + (loadSuper image).journalBlocks ≤
    (image 0).get Super.blocksCount
  homes : (image 0).get Super.blocksCount ≤ size
  bounded : size < 2 ^ 64
  table : TableApart (loadSuper image)

theorem loadSuper_describes (image : Nat → Block) :
    Describes (image 0) (loadSuper image) ((image 0).get Super.blocksCount) :=
  ⟨rfl, rfl, rfl, rfl, rfl, rfl, rfl⟩

/-- The mount's journal state after a clean check of a ring. -/
def cleanSbi (sbi : SbInfo) (last head : Nat) : SbInfo :=
  { setSequences last sbi with
    journalActiveSequence := 0
    journalRingHead := head
    journalRingTail := head }

theorem cleanSbi_mount (sbi : SbInfo) (last head : Nat) : SameMount (cleanSbi sbi last head) sbi :=
  ⟨rfl, rfl, rfl, rfl, rfl, rfl, rfl, rfl⟩

section Layout

variable {image : Nat → Block} {size : Nat} (layout : RingLayout image size)
include layout

theorem RingLayout.ready : Ready (mounting image size) (loadSuper image).area
    ((image 0).get Super.blocksCount) where
  healthy := mounting_healthy image size
  sameArea := rfl
  sameCount := rfl
  journal := layout.room.trans layout.homes
  homes := layout.homes
  bounded := Nat.le_of_lt layout.bounded

/-- A ring the clean check accepts is empty, and the check loads its position. -/
theorem RingLayout.of_validateClean {w : World}
    (clean : journalV3ValidateClean (mounting image size) = (.ok (), w)) :
    ∃ last head, RingControl (loadSuper image).area (image (loadSuper image).journalBlock)
        JOURNAL_V3_STATE_IDLE last 0 last head head ∧
      w = { mounting image size with sbi := cleanSbi (loadSuper image) last head } := by
  have ready := layout.ready
  have place : (mounting image size).sbi.journalBlock < (mounting image size).size := by
    have room := ready.journal
    have long := layout.long
    change (loadSuper image).journalBlock < (mounting image size).size
    unfold JOURNAL_V3_MIN_BLOCKS at long
    simp only [SbInfo.area] at room
    omega
  have ring := layout.ring
  rw [journalV3ValidateClean, kmalloc_bind _ ready.healthy, Routine.read_bind,
    readFileBlock_bind _ ready.healthy _ _ place] at clean
  have sbi : (mounting image size).sbi = loadSuper image := rfl
  have found : (mounting image size).cache (loadSuper image).journalBlock =
      image (loadSuper image).journalBlock := rfl
  rw [sbi, found] at clean
  simp only [ring, ↓reduceIte] at clean
  obtain ⟨_, _, first, clean⟩ := Routine.of_bind_ok _ _ _ _ _ clean
  obtain ⟨header, rfl⟩ := Routine.of_require_ok _ _ _ _ first
  obtain ⟨_, _, second, clean⟩ := Routine.of_bind_ok _ _ _ _ _ clean
  obtain ⟨valid, rfl⟩ := Routine.of_require_ok _ _ _ _ second
  obtain ⟨_, _, third, clean⟩ := Routine.of_bind_ok _ _ _ _ _ clean
  obtain ⟨sum, rfl⟩ := Routine.of_require_ok _ _ _ _ third
  obtain ⟨_, _, fourth, clean⟩ := Routine.of_bind_ok _ _ _ _ _ clean
  obtain ⟨⟨idle, active, checkpoint⟩, rfl⟩ := Routine.of_require_ok _ _ _ _ fourth
  obtain ⟨magic, layoutVersion, blockType, features⟩ := header
  unfold SbInfo.RingValid at valid
  rw [if_pos ring] at valid
  obtain ⟨ringStart, ringEnd, headLow, headHigh, tailLow, tailHigh, meet⟩ := valid
  have same := meet.resolve_left (fun busy => busy idle)
  refine ⟨_, (JournalV3Control.ofBlock (image (loadSuper image).journalBlock)).ringHead,
    ⟨magic, layoutVersion, blockType, ?_, idle, rfl, active, checkpoint, rfl, same.symm, ringStart,
      ringEnd, headLow, headHigh, headLow, headHigh, fun _ => rfl, sum⟩, ?_⟩
  · rw [features, SbInfo.journalV3Features, if_pos ring]
  · rw [Routine.modify_run] at clean
    rw [← (Prod.mk.inj clean).2, ← same]
    rfl

/-- Whatever the clean check accepts is a ring mount every run may start from. -/
theorem RingLayout.mounted {w : World}
    (clean : journalV3ValidateClean (mounting image size) = (.ok (), w)) :
    RingMounted w (loadSuper image).area ((image 0).get Super.blocksCount) := by
  obtain ⟨last, head, control, rfl⟩ := layout.of_validateClean clean
  have ready := layout.ready
  have same := cleanSbi_mount (loadSuper image) last head
  have limit := lt_of_le_of_lt (layout.room.trans layout.homes) layout.bounded
  have described := (loadSuper_describes image).of_same same
  have mode : JournalMode (mounting image size) :=
    ⟨mounting_healthy image size, layout.enabled, layout.v3, rfl, layout.first, layout.table,
      ready.journal⟩
  constructor
  case mode => exact mode.of_same ⟨rfl, rfl⟩ same rfl
  case ring => exact layout.ring
  case ready => exact ⟨⟨rfl, rfl⟩, same.area, rfl, ready.journal, ready.homes, ready.bounded⟩
  case long => exact layout.long
  case limit => exact limit
  case describes => exact described
  case device => exact described
  case journal => exact fun _ _ => rfl
  case closed => rfl
  case recorded => rfl
  case sequence => rfl
  case checkpoint => rfl
  case empty => rfl
  case control => exact control

end Layout

end Cryexts
