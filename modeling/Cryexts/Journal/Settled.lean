import Cryexts.Journal.FixedAtomicity
import Cryexts.Journal.ReplayBounds
import Cryexts.Journal.RingMount

set_option autoImplicit false

namespace Cryexts

open WriteLog (store applyWrites Along along_nil along_cons along_append)

/-- The superblock's two recovery marks say the same. -/
def Paired (super : Block) : Prop :=
  super.get Super.state &&& FS_STATE_NEEDS_RECOVERY = 0 ↔
    super.get Super.featuresIncompat &&& FEATURE_INCOMPAT_NEEDS_RECOVERY = 0

/-- The control block names a journal that is in use. -/
def Busy (area : JournalArea) (cells : Nat → Block) : Prop :=
  (JournalV3Control.ofBlock (cells area.first)).state ≠ JOURNAL_V3_STATE_IDLE

/-- Over an idle journal the superblock's recovery marks say the same. -/
def Settled (area : JournalArea) (cells : Nat → Block) : Prop :=
  Busy area cells ∨ Paired (cells 0)

theorem recoveredSuper_paired (needed : Bool) (super : Block) (nextIno nextDataBlock : Nat) :
    Paired (recoveredSuper needed super nextIno nextDataBlock) := by
  have cleared (value mask flag : Nat) (clears : mask &&& flag = 0) :
      value &&& mask &&& flag = 0 := by
    rw [Nat.and_assoc, clears, Nat.and_zero]
  have marked (value flag : Nat) (positive : flag ≠ 0) : (value ||| flag) &&& flag ≠ 0 := by
    rw [Nat.and_comm, Nat.and_or_distrib_left, Nat.and_self]
    exact fun none => positive (Nat.or_eq_zero_iff.mp none).2
  unfold Paired
  rw [recoveredSuper_state, recoveredSuper_incompat]
  cases needed with
  | true => exact iff_of_false (marked _ _ (by decide)) (marked _ _ (by decide))
  | false => exact iff_of_true (cleared _ _ _ (by decide)) (cleared _ _ _ (by decide))

/-- A control block reads back in the state it was written in. -/
theorem journalV3PrepareControl_state (sbi : SbInfo) {state : Nat} (last active checkpoint : Nat)
    (segment : JournalV3Segment) (known : state ≤ JOURNAL_V3_STATE_CHECKPOINTING) :
    (JournalV3Control.ofBlock
      (journalV3PrepareControl sbi state last active checkpoint segment)).state = state := by
  unfold JOURNAL_V3_STATE_CHECKPOINTING at known
  have separate : (journalV3ControlFields sbi state last active checkpoint
      segment).members.Pairwise (fun first second => first.1.Apart second.1) := by
    simp [JournalV3Control.members, ByteBuf.Field.Apart, ByteBuf.Field.stop]
  rw [journalV3PrepareControl, sealMembers, JournalV3Control.ofBlock]
  dsimp only
  rw [get_sealBlock _ _ (by decide), ByteBuf.get_setAll_member _ _ _ state separate
    (by simp [JournalV3Control.members, journalV3ControlFields]) (by decide)]
  exact Nat.mod_eq_of_lt (by dsimp only; omega)

theorem journalV3PrepareControl_marks (sbi : SbInfo) {state : Nat} (last active checkpoint : Nat)
    (segment : JournalV3Segment) (known : state ≤ JOURNAL_V3_STATE_CHECKPOINTING)
    (live : state ≠ JOURNAL_V3_STATE_IDLE) : (JournalV3Control.ofBlock
      (journalV3PrepareControl sbi state last active checkpoint segment)).state ≠
        JOURNAL_V3_STATE_IDLE := by
  rw [journalV3PrepareControl_state _ _ _ _ _ known]
  exact live

section Along

variable {area : JournalArea} {cells : Nat → Block} {writes : List (Nat × Block)}

theorem Busy.written (busy : Busy area cells)
    (apart : ∀ write, write ∈ writes → write.1 ≠ area.first) :
    Busy area (applyWrites cells writes) := by
  unfold Busy
  rw [WriteLog.applyWrites_other _ _ _ apart]
  exact busy

theorem busy_mark {control : Block} (cells : Nat → Block)
    (marks : (JournalV3Control.ofBlock control).state ≠ JOURNAL_V3_STATE_IDLE) :
    Busy area (store cells area.first control) := by
  unfold Busy
  rw [WriteLog.store_same]
  exact marks

theorem Settled.mark (settled : Settled area cells) {control : Block}
    (marks : (JournalV3Control.ofBlock control).state ≠ JOURNAL_V3_STATE_IDLE) :
    Along (Settled area) cells [(area.first, control)] := by
  rw [along_cons, along_nil]
  exact ⟨settled, Or.inl (busy_mark cells marks)⟩

/-- Behind a superblock whose marks say the same the journal may be closed. -/
theorem Settled.closed (settled : Settled area cells) {super : Block} (paired : Paired super)
    (apart : ∀ write, write ∈ writes → write.1 ≠ 0) :
    Along (Settled area) cells ((0, super) :: writes) := by
  rw [along_cons]
  refine ⟨settled, WriteLog.along_of_apart (fun block => block = 0) ?_ apart⟩
  intro other same
  apply Or.inr
  rw [same 0 rfl, WriteLog.store_same]
  exact paired

end Along

/-- From one state of a mount to a later one, every crash point keeps a property of the device. -/
structure KeepsAlong (holds : (Nat → Block) → Prop) (w after : World) : Prop where
  base : after.base = w.base
  log : ∃ writes, after.log = w.log ++ writes ∧ (holds w.disk → Along holds w.disk writes)

section KeepsAlong

variable {holds : (Nat → Block) → Prop} {w after : World}

theorem disk_append {writes : List (Nat × Block)} (base : after.base = w.base)
    (log : after.log = w.log ++ writes) : after.disk = applyWrites w.disk writes := by
  rw [World.disk, World.disk, base, log, WriteLog.applyWrites_append]

theorem KeepsAlong.now (keeps : KeepsAlong holds w after) (start : holds w.disk) :
    holds after.disk := by
  obtain ⟨writes, log, along⟩ := keeps.log
  rw [disk_append keeps.base log]
  exact (along start).last

/-- Whatever crash point a mount comes to. -/
theorem KeepsAlong.crash (keeps : KeepsAlong holds w after) (start : holds w.disk)
    (written : Nat) (since : w.log.length ≤ written) : holds (after.crashAt written) := by
  obtain ⟨writes, log, along⟩ := keeps.log
  rcases crashAt_append keeps.base log written with ⟨early, crash⟩ | ⟨_, crash⟩
  · rw [crash, World.crashAt, List.take_of_length_le since]
    exact start
  · rw [crash]
    exact along start _

theorem KeepsAlong.silent (base : after.base = w.base) (log : after.log = w.log) :
    KeepsAlong holds w after := by
  refine ⟨base, [], by rw [log, List.append_nil], ?_⟩
  rw [along_nil]
  exact id

theorem KeepsAlong.written (writes : List (Nat × Block)) (base : after.base = w.base)
    (log : after.log = w.log ++ writes) (along : holds w.disk → Along holds w.disk writes) :
    KeepsAlong holds w after := ⟨base, writes, log, along⟩

theorem KeepsAlong.trans {middle : World} (first : KeepsAlong holds w middle)
    (second : KeepsAlong holds middle after) : KeepsAlong holds w after := by
  obtain ⟨early, log, along⟩ := first.log
  obtain ⟨late, log', along'⟩ := second.log
  rw [disk_append first.base log] at along'
  refine ⟨second.base.trans first.base, early ++ late, ?_, ?_⟩
  · rw [log', log, List.append_assoc]
  · intro start
    exact along_append.mpr ⟨along start, along' (along start).last⟩

instance (holds : (Nat → Block) → Prop) : IsPreorder World (KeepsAlong holds) where
  refl _ := KeepsAlong.silent rfl rfl
  trans _ _ _ first second := first.trans second

end KeepsAlong

section Fixed

variable {w : World} {area : JournalArea} {count : Nat} (inv : FixedInv w area count)
include inv

/-- Quiet work keeps a fixed journal's mount as it is. -/
theorem FixedInv.work (work : FsWork) (sound : work.Sound w count) :
    Quiet w (work.run w) ∧ FixedInv (work.run w) area count := by
  have kept := FsWork.kept inv.mode inv.ready.sameCount inv.describes inv.records work sound
  have quiet := kept.quiet
  refine ⟨quiet, ?_⟩
  constructor
  case mode => exact inv.mode.of_same (quiet.healthy inv.mode.healthy) quiet.mount quiet.size
  case fixed => exact quiet.ring.trans inv.fixed
  case ready =>
    refine ⟨quiet.healthy inv.ready.healthy, quiet.area.trans inv.ready.sameArea,
      kept.describes.blocksCount, ?_, ?_, ?_⟩ <;> rw [quiet.size]
    · exact inv.ready.journal
    · exact inv.ready.homes
    · exact inv.ready.bounded
  case long => exact inv.long
  case limit => exact inv.limit
  case describes => exact quiet.describes kept.describes
  case records => exact kept.records
  case small =>
    rcases kept.active with same | none | begun
    · rw [same]
      exact inv.small
    · rw [none]
      exact Nat.two_pow_pos 64
    · rw [begun]
      exact u64_lt _

/-- A commit leaves a mount like the one before it. -/
theorem FixedInv.committed (success : (journalV3Commit w).1 = .ok ()) :
    FixedInv (journalV3Commit w).2 area count := by
  obtain ⟨sound, recorded, _⟩ := journalV3Commit_success success
  have quiet := inv.mode.worked.toQuiet
  have super := atCommit_super inv.mode.first inv.mode.table inv.mode.enabled inv.mode.v3
    inv.mode.live
  have before : Describes ((atCommit w).cache 0) w.sbi count := by
    rw [super]
    exact (commitSuper_same w).describes inv.describes
  have described := inv.written_describes before _ fun _ member => member
  rw [inv.commit sound recorded, inv.writes_eq]
  have settled : SameMount (settledSbi (atCommit w).sbi w.sbi.journalActiveSequence)
      (atCommit w).sbi := ⟨rfl, rfl, rfl, rfl, rfl, rfl, rfl, rfl⟩
  have mount := settled.trans quiet.mount
  generalize fixedLog w ++ (fixedHome w ++ fixedReset w) = writes at described
  have size : ((atCommit w).writtenAll writes).size = w.size :=
    (World.writtenAll_size _ _).trans quiet.size
  have healthy : ((atCommit w).writtenAll writes).Healthy :=
    World.writtenAll_healthy _ _ (quiet.healthy inv.mode.healthy)
  have cache : ((atCommit w).writtenAll writes).cache = applyWrites (atCommit w).cache writes :=
    World.writtenAll_cache _ _
  generalize (atCommit w).writtenAll writes = written at size healthy cache
  rw [← cache] at described
  constructor
  case mode => exact inv.mode.of_same ⟨healthy.noFaults, healthy.current⟩ mount size
  case fixed => exact mount.ring.trans inv.fixed
  case ready =>
    refine ⟨⟨healthy.noFaults, healthy.current⟩, mount.area.trans inv.ready.sameArea,
      described.blocksCount, ?_, ?_, ?_⟩
    · exact inv.ready.journal.trans (Nat.le_of_eq size.symm)
    · exact inv.ready.homes.trans (Nat.le_of_eq size.symm)
    · exact (Nat.le_of_eq size).trans inv.ready.bounded
  case long => exact inv.long
  case limit => exact inv.limit
  case describes => exact described.of_same mount
  case records => refine ⟨?_, ?_, ?_⟩ <;> simp [settledSbi, SbInfo.journalV3ClearRuntime]
  case small => exact Nat.two_pow_pos 64

end Fixed

end Cryexts
