import Cryexts.Journal.RingCommit
import Cryexts.Journal.RingCheckpoint

set_option autoImplicit false

namespace Cryexts

open Routine (Moves)
open WriteLog (store)

/-- Further writes on the device, all of them at blocks in `places`. -/
def Grows (places : Nat → Prop) (w after : World) : Prop :=
  ∃ writes, after.log = w.log ++ writes ∧ ∀ write, write ∈ writes → places write.1

theorem Grows.silent {places : Nat → Prop} {w after : World} (log : after.log = w.log) :
    Grows places w after :=
  ⟨[], by rw [log, List.append_nil], by simp⟩

theorem Grows.trans {places : Nat → Prop} {w middle after : World} (first : Grows places w middle)
    (second : Grows places middle after) : Grows places w after := by
  obtain ⟨early, log, inside⟩ := first
  obtain ⟨late, log', inside'⟩ := second
  refine ⟨early ++ late, by rw [log', log, List.append_assoc], ?_⟩
  intro write member
  rcases List.mem_append.mp member with here | there
  · exact inside write here
  · exact inside' write there

/-- Block input and output, whatever fails in it, touches buffers and the device only. -/
structure BlockIo (places : Nat → Prop) (w after : World) : Prop where
  sbi : after.sbi = w.sbi
  size : after.size = w.size
  base : after.base = w.base
  log : Grows places w after

theorem BlockIo.silent {places : Nat → Prop} {w after : World} (sbi : after.sbi = w.sbi)
    (size : after.size = w.size) (base : after.base = w.base) (log : after.log = w.log) :
    BlockIo places w after :=
  ⟨sbi, size, base, Grows.silent log⟩

instance (places : Nat → Prop) : IsPreorder World (BlockIo places) where
  refl _ := BlockIo.silent rfl rfl rfl rfl
  trans _ _ _ first second :=
    ⟨second.sbi.trans first.sbi, second.size.trans first.size, second.base.trans first.base,
      first.log.trans second.log⟩

section BlockIo

variable {places : Nat → Prop}

theorem faulty_moves : Moves (BlockIo places) faulty := by
  intro w
  unfold faulty
  cases w.faults with
  | nil => exact BlockIo.silent rfl rfl rfl rfl
  | cons fault rest => exact BlockIo.silent rfl rfl rfl rfl

theorem kmalloc_moves : Moves (BlockIo places) kmalloc := by
  refine Moves.bind faulty_moves fun failed => ?_
  cases failed with
  | true => exact Moves.fail _
  | false => exact Moves.pure _

theorem readFileBlock_moves (block : Nat) : Moves (BlockIo places) (readFileBlock block) := by
  refine Moves.bind faulty_moves fun failed => ?_
  cases failed with
  | true => exact Moves.fail _
  | false =>
      refine Moves.bind Moves.read fun w => ?_
      by_cases outside : w.size ≤ block
      · rw [if_pos outside]
        exact Moves.fail _
      · rw [if_neg outside]
        by_cases current : w.uptodate block = true
        · rw [if_pos current]
          exact Moves.pure _
        · rw [if_neg current]
          refine Moves.bind (Moves.modify fun _ => ?_) fun _ => Moves.pure _
          exact BlockIo.silent rfl rfl rfl rfl

theorem writeFileBlock_moves (block : Nat) (content : Block) :
    Moves (BlockIo places) (writeFileBlock block content) := by
  refine Moves.bind faulty_moves fun failed => ?_
  cases failed with
  | true => exact Moves.fail _
  | false =>
      refine Moves.bind Moves.read fun w => ?_
      by_cases outside : w.size ≤ block
      · rw [if_pos outside]
        exact Moves.fail _
      · rw [if_neg outside]
        exact Moves.modify fun _ => BlockIo.silent rfl rfl rfl rfl

theorem syncDirtyBuffer_moves (block : Nat) (place : places block) :
    Moves (BlockIo places) (syncDirtyBuffer block) := by
  refine Moves.bind Moves.read fun w => ?_
  by_cases pending : w.dirty block = true
  · rw [if_pos pending]
    refine Moves.bind faulty_moves fun failed => ?_
    cases failed with
    | true =>
        refine Moves.bind (Moves.modify fun _ => ?_) fun _ => Moves.fail _
        exact BlockIo.silent rfl rfl rfl rfl
    | false =>
        refine Moves.modify fun v => ⟨rfl, rfl, rfl, [(block, v.cache block)], rfl, ?_⟩
        intro write member
        rw [List.mem_singleton.mp member]
        exact place
  · rw [if_neg pending]
    exact Moves.pure _

theorem syncSingleBlock_moves (block : Nat) (place : places block) :
    Moves (BlockIo places) (syncSingleBlock block) := by
  refine Moves.bind Moves.read fun w => ?_
  by_cases outside : w.size ≤ block
  · rw [if_pos outside]
    exact Moves.fail _
  · rw [if_neg outside]
    exact syncDirtyBuffer_moves block place

theorem syncBlockdev_moves (everywhere : ∀ block, places block) :
    Moves (BlockIo places) syncBlockdev :=
  Moves.bind Moves.read fun _ => Moves.forM fun block _ =>
    syncDirtyBuffer_moves block (everywhere block)

theorem journalV3WriteSync_moves (block : Nat) (content : Block) (place : places block) :
    Moves (BlockIo places) (journalV3WriteSync block content) :=
  Moves.bind (writeFileBlock_moves block content) fun _ => syncSingleBlock_moves block place

theorem logImages_moves (payloadStart : Nat) (homes : List Nat) (index : Nat) (descriptor : Block)
    (sum : Nat)
    (payloads : ∀ later, index ≤ later → later < index + homes.length →
      places (payloadStart + later)) :
    Moves (BlockIo places) (logImages payloadStart homes index descriptor sum) := by
  induction homes generalizing index descriptor sum with
  | nil => exact Moves.pure _
  | cons home rest ih =>
      rw [List.length_cons] at payloads
      have here := payloads index (Nat.le_refl _) (by omega)
      refine Moves.bind (readFileBlock_moves home) fun payload => ?_
      refine Moves.bind (journalV3WriteSync_moves _ payload here) fun _ => ?_
      exact ih _ _ _ fun later low high => payloads later (by omega) (by omega)

theorem checkpointImages_moves (descriptor : Block) (payloadStart : Nat) (homes : List Nat)
    (index : Nat) (targets : ∀ home, home ∈ homes → places home) :
    Moves (BlockIo places) (checkpointImages descriptor payloadStart homes index) := by
  induction homes generalizing index with
  | nil => exact Moves.pure _
  | cons home rest ih =>
      refine Moves.bind (readFileBlock_moves _) fun payload => ?_
      refine Moves.bind (Moves.require _ _) fun _ => ?_
      refine Moves.bind (journalV3WriteSync_moves home payload
        (targets home List.mem_cons_self)) fun _ => ?_
      exact ih _ fun other member => targets other (List.mem_cons_of_mem _ member)

theorem verifyPayloads_moves (distinct : Bool) (descriptor : Block) (payloadStart : Nat)
    (indices : List Nat) (aggregate : Nat) :
    Moves (BlockIo places) (verifyPayloads distinct descriptor payloadStart indices aggregate) := by
  induction indices generalizing aggregate with
  | nil => exact Moves.pure _
  | cons index rest ih =>
      refine Moves.bind Moves.read fun w => ?_
      refine Moves.bind (Moves.require _ _) fun _ => ?_
      refine Moves.bind (Moves.require _ _) fun _ => ?_
      refine Moves.bind (readFileBlock_moves _) fun payload => ?_
      exact Moves.bind (Moves.require _ _) fun _ => ih _

theorem writeHome_moves (descriptor : Block) (payloadStart : Nat) (indices : List Nat)
    (targets : ∀ index, index ∈ indices →
      places (JournalV3Entry.ofBlock descriptor index).homeBlock) :
    Moves (BlockIo places) (writeHome descriptor payloadStart indices) := by
  induction indices with
  | nil => exact Moves.pure _
  | cons index rest ih =>
      refine Moves.bind (readFileBlock_moves _) fun payload => ?_
      refine Moves.bind (journalV3WriteSync_moves _ payload
        (targets index List.mem_cons_self)) fun _ => ?_
      exact ih fun other member => targets other (List.mem_cons_of_mem _ member)

end BlockIo

/-- The version 3 journal is in use and no recovery runs. -/
structure LiveV3 (sbi : SbInfo) : Prop where
  enabled : sbi.journalEnabled = true
  v3 : sbi.journalV3 = true
  live : sbi.journalReplaying = false

theorem LiveV3.of_same {sbi after : SbInfo} (live : LiveV3 sbi) (same : SameMount after sbi) :
    LiveV3 after :=
  ⟨same.enabled.trans live.enabled, same.v3.trans live.v3, same.replaying.trans live.live⟩

/-- The mount stays what it is for as long as it lasts, and the device log only grows. -/
def MountKept (w after : World) : Prop :=
  LiveV3 w.sbi → SameMount after.sbi w.sbi ∧ Grows (fun _ => True) w after

theorem MountKept.silent {w after : World} (log : after.log = w.log)
    (same : SameMount after.sbi w.sbi) : MountKept w after := fun _ => ⟨same, Grows.silent log⟩

instance : IsPreorder World MountKept where
  refl _ := MountKept.silent rfl ⟨rfl, rfl, rfl, rfl, rfl, rfl, rfl, rfl⟩
  trans _ _ _ first second live := by
    obtain ⟨same, log⟩ := first live
    obtain ⟨same', log'⟩ := second (live.of_same same)
    exact ⟨same'.trans same, log.trans log'⟩

theorem BlockIo.mountKept (w after : World) (io : BlockIo (fun _ => True) w after) :
    MountKept w after := by
  intro _
  refine ⟨?_, io.log⟩
  rw [io.sbi]
  exact ⟨rfl, rfl, rfl, rfl, rfl, rfl, rfl, rfl⟩

private theorem io {α : Type} {body : Kernel α} (moves : Moves (BlockIo fun _ => True) body) :
    Moves MountKept body := moves.mono BlockIo.mountKept

theorem journalRecordBh_kept (block : Nat) (w : World) :
    MountKept w (journalRecordBh block w) := by
  intro live
  have worked := journalRecordBh_worked block live.enabled live.v3 live.live
  exact ⟨worked.mount, Grows.silent worked.log⟩

theorem setDiskJournalSequence_kept (sequence : Nat) (w : World) :
    MountKept w (setDiskJournalSequence sequence w) :=
  MountKept.silent rfl ⟨rfl, rfl, rfl, rfl, rfl, rfl, rfl, rfl⟩

theorem gdtPrepareWrite_kept (w : World) : MountKept w (gdtPrepareWrite w) := by
  refine MountKept.silent rfl ?_
  rw [gdtPrepareWrite_sbi]
  exact ⟨rfl, rfl, rfl, rfl, rfl, rfl, rfl, rfl⟩

theorem clearRuntime_mount (sbi : SbInfo) : SameMount sbi.journalV3ClearRuntime sbi :=
  ⟨rfl, rfl, rfl, rfl, rfl, rfl, rfl, rfl⟩

theorem superSetRecovery_kept (needed : Bool) (w : World) :
    MountKept w (superSetRecovery needed w) := by
  intro live
  rw [superSetRecovery_eq]
  exact journalRecordBh_kept 0 (w.dirtyBuffer 0 _) live

theorem superSetRecoveryUnlogged_kept (needed : Bool) (w : World) :
    MountKept w (superSetRecoveryUnlogged needed w) := by
  intro live
  rw [superSetRecoveryUnlogged_eq needed w live.live]
  exact ⟨⟨rfl, rfl, rfl, rfl, rfl, rfl, rfl, rfl⟩, Grows.silent rfl⟩

theorem journalV3Begin_cases (w : World) :
    (∃ err, journalV3Begin w = (.error err, w)) ∨
      journalV3Begin w = (.ok (), { w with sbi := { w.sbi.journalV3ClearRuntime with
        journalActiveSequence := u64 (w.sbi.journalSequence + 1) } }) := by
  by_cases opened : w.sbi.journalActiveSequence ≠ 0
  · left
    exact ⟨_, by rw [journalV3Begin, Routine.read_bind, if_pos opened, Routine.fail_run]⟩
  · by_cases none : w.sbi.journalV3PayloadCapacity = 0
    · left
      exact ⟨_, by
        rw [journalV3Begin, Routine.read_bind, if_neg opened, if_pos none, Routine.fail_run]⟩
    · right
      rw [journalV3Begin, Routine.read_bind, if_neg opened, if_neg none]
      rfl

theorem journalV3Prepare_kept : Moves MountKept journalV3Prepare := by
  refine Moves.bind Moves.read fun start => ?_
  refine Moves.bind (Moves.modify (setDiskJournalSequence_kept _)) fun _ => ?_
  refine Moves.bind (Moves.modify gdtPrepareWrite_kept) fun _ => ?_
  refine Moves.bind (Moves.modify fun w => superSetRecovery_kept true w) fun _ => ?_
  refine Moves.bind Moves.read fun w => ?_
  cases w.sbi.journalError with
  | some err => exact Moves.fail _
  | none =>
      cases journalV3RingAllocate w.sbi w.sbi.journalHomeBlocks.length with
      | error err => exact Moves.fail _
      | ok allocation =>
          refine Moves.bind (Moves.modify fun w =>
            MountKept.silent rfl (takeSegment_mount w.sbi _ allocation)) fun _ => ?_
          refine Moves.bind (io kmalloc_moves) fun _ => ?_
          refine Moves.bind (io (logImages_moves _ _ _ _ _ fun _ _ _ => trivial)) fun logged => ?_
          refine Moves.bind (io (journalV3WriteSync_moves _ _ trivial)) fun _ => ?_
          refine Moves.bind Moves.read fun now => ?_
          exact Moves.bind (io (journalV3WriteSync_moves _ _ trivial)) fun _ => Moves.pure _

theorem journalV3FinishRing_kept (sequence checkpointSequence : Nat) (segment : JournalV3Segment) :
    Moves MountKept (journalV3FinishRing sequence checkpointSequence segment) := by
  refine Moves.bind Moves.read fun w => ?_
  refine Moves.bind (io (journalV3WriteSync_moves _ _ trivial)) fun _ => ?_
  exact Moves.modify fun _ => MountKept.silent rfl ⟨rfl, rfl, rfl, rfl, rfl, rfl, rfl, rfl⟩

theorem journalV3FinishFixed_kept (previousSequence sequence : Nat) (prepared : Prepared) :
    Moves MountKept (journalV3FinishFixed previousSequence sequence prepared) := by
  refine Moves.bind Moves.read fun w => ?_
  refine Moves.bind (io (journalV3WriteSync_moves _ _ trivial)) fun _ => ?_
  refine Moves.bind (io (checkpointImages_moves _ _ _ _ fun _ _ => trivial)) fun _ => ?_
  refine Moves.bind (Moves.modify fun w => superSetRecoveryUnlogged_kept false w) fun _ => ?_
  refine Moves.bind (io (syncSingleBlock_moves 0 trivial)) fun _ => ?_
  refine Moves.bind (io (journalV3WriteSync_moves _ _ trivial)) fun _ => ?_
  refine Moves.bind (io (journalV3WriteSync_moves _ _ trivial)) fun _ => ?_
  refine Moves.bind Moves.read fun now => ?_
  refine Moves.bind (io (journalV3WriteSync_moves _ _ trivial)) fun _ => ?_
  exact Moves.modify fun _ => MountKept.silent rfl ⟨rfl, rfl, rfl, rfl, rfl, rfl, rfl, rfl⟩

theorem journalV3ClearRecovery_kept (start w : World) :
    MountKept w (journalV3ClearRecovery start w) := by
  have cleared : ∀ v : World, MountKept w v →
      MountKept w { superSetRecoveryUnlogged false
        (setDiskJournalSequence start.sbi.journalSequence v) with
          sbi := (superSetRecoveryUnlogged false (setDiskJournalSequence
            start.sbi.journalSequence v)).sbi.journalV3ClearRuntime } := by
    intro v before
    have sequenced := IsTrans.trans _ _ _ before
      (setDiskJournalSequence_kept start.sbi.journalSequence v)
    have marked := IsTrans.trans _ _ _ sequenced (superSetRecoveryUnlogged_kept false _)
    exact IsTrans.trans _ _ _ marked (MountKept.silent rfl (clearRuntime_mount _))
  unfold journalV3ClearRecovery
  by_cases ring : w.sbi.journalRing = true
  · rw [if_pos ring]
    exact cleared _ (MountKept.silent rfl ⟨rfl, rfl, rfl, rfl, rfl, rfl, rfl, rfl⟩)
  · rw [if_neg ring]
    exact cleared w (Std.Refl.refl w)

theorem journalV3Finish_kept (start : World) (prepared : Prepared) (sequence : Nat)
    (record : Block) :
    Moves MountKept (Routine.onFailure (do
      journalV3WriteSync prepared.segment.commitBlock record
      if start.sbi.journalRing then
        journalV3FinishRing sequence start.sbi.journalCheckpointSequence prepared.segment
      else journalV3FinishFixed start.sbi.journalSequence sequence prepared) fun err =>
        Routine.modify fun w => { w with sbi := { w.sbi with journalError := some err } }) := by
  refine Moves.onFailure ?_ fun _ =>
    Moves.modify fun _ => MountKept.silent rfl ⟨rfl, rfl, rfl, rfl, rfl, rfl, rfl, rfl⟩
  refine Moves.bind (io (journalV3WriteSync_moves _ _ trivial)) fun _ => ?_
  by_cases ring : start.sbi.journalRing = true
  · rw [if_pos ring]
    exact journalV3FinishRing_kept _ _ _
  · rw [if_neg ring]
    exact journalV3FinishFixed_kept _ _ _

/-- A commit, whatever fails in it, leaves the mount what it was. -/
theorem journalV3Commit_kept : Moves MountKept journalV3Commit := by
  refine Moves.bind Moves.read fun start => ?_
  cases start.sbi.journalError with
  | some err =>
      refine Moves.bind (Moves.modify fun _ => ?_) fun _ => Moves.fail _
      exact MountKept.silent rfl (clearRuntime_mount _)
  | none =>
      refine Moves.bind (Moves.onFailure journalV3Prepare_kept fun _ =>
        Moves.modify fun w => journalV3ClearRecovery_kept start w) fun prepared => ?_
      exact journalV3Finish_kept start prepared _ _

/-- Behind its first half a commit only adds to the device log. -/
theorem journalV3Commit_grows {w : World} (live : LiveV3 w.sbi) :
    (journalV3Commit w).2.log = w.log ∨
      Grows (fun _ => True) (journalV3Prepare w).2 (journalV3Commit w).2 := by
  cases poisoned : w.sbi.journalError with
  | some err =>
      left
      rw [journalV3Commit, Routine.read_bind, poisoned]
      rfl
  | none =>
      right
      have same := (journalV3Prepare_kept w live).1
      cases ran : journalV3Prepare w with
      | mk outcome after =>
          rw [ran] at same
          have here := live.of_same same
          cases outcome with
          | error err =>
              have result := Routine.onFailure_error journalV3Prepare
                (fun _ => Routine.modify (journalV3ClearRecovery w)) w after err ran
              rw [journalV3Commit, Routine.read_bind, poisoned]
              dsimp only
              rw [Routine.bind_error _ _ _ _ _ result]
              exact (journalV3ClearRecovery_kept w after here).2
          | ok prepared =>
              have result := Routine.onFailure_ok journalV3Prepare
                (fun _ => Routine.modify (journalV3ClearRecovery w)) w after prepared ran
              rw [journalV3Commit, Routine.read_bind, poisoned]
              dsimp only
              rw [Routine.bind_ok _ _ _ _ _ result]
              exact (journalV3Finish_kept w prepared _ _ after here).2

theorem tailAdvanced_mount (sbi : SbInfo) (tail sequence : Nat) :
    SameMount { sbi with
      journalRingTail := tail
      journalTailSequence := sequence
      journalCheckpointSequence := sequence } sbi :=
  ⟨rfl, rfl, rfl, rfl, rfl, rfl, rfl, rfl⟩

theorem journalV3SettleTail_kept (emptied : Bool) (lastSequence sequence : Nat)
    (segment : JournalV3Segment) :
    Moves MountKept (journalV3SettleTail emptied lastSequence sequence segment) := by
  unfold journalV3SettleTail
  cases emptied with
  | true =>
      rw [if_pos rfl]
      refine Moves.bind (Moves.modify fun w => superSetRecoveryUnlogged_kept false w) fun _ => ?_
      refine Moves.bind (io (syncSingleBlock_moves 0 trivial)) fun _ => ?_
      exact Moves.bind Moves.read fun _ => io (journalV3WriteSync_moves _ _ trivial)
  | false =>
      rw [if_neg Bool.false_ne_true]
      exact Moves.bind Moves.read fun _ => io (journalV3WriteSync_moves _ _ trivial)

/-- A checkpoint step, whatever fails in it, leaves the mount what it was. -/
theorem journalV3CheckpointOne_kept : Moves MountKept journalV3CheckpointOne := by
  refine Moves.bind Moves.read fun start => ?_
  by_cases empty : start.sbi.journalRing = false ∨
      start.sbi.journalRingTail = start.sbi.journalRingHead
  · rw [if_pos empty]
    exact Moves.pure _
  · rw [if_neg empty]
    refine Moves.bind (io kmalloc_moves) fun _ => ?_
    refine Moves.bind (io (readFileBlock_moves _)) fun descriptorBuf => ?_
    refine Moves.bind (Moves.require _ _) fun _ => ?_
    refine Moves.bind (io (readFileBlock_moves _)) fun commitBuf => ?_
    refine Moves.bind (Moves.require _ _) fun _ => ?_
    refine Moves.bind (io (journalV3WriteSync_moves _ _ trivial)) fun _ => ?_
    refine Moves.bind (io (verifyPayloads_moves _ _ _ _ _)) fun aggregate => ?_
    refine Moves.bind (Moves.require _ _) fun _ => ?_
    refine Moves.bind (io (writeHome_moves _ _ _ fun _ _ => trivial)) fun _ => ?_
    refine Moves.bind (Moves.modify fun w =>
      MountKept.silent rfl (tailAdvanced_mount w.sbi _ _)) fun _ => ?_
    exact journalV3SettleTail_kept _ _ _ _

end Cryexts
