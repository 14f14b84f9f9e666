import Cryexts.Journal.V3

set_option autoImplicit false

namespace Cryexts

open ByteBuf (Field EqOutside)
open WriteLog (store applyWrites)

/-- Members of the superblock that recovery itself rewrites. -/
def superBookkeeping : List Field :=
  [Super.state, Super.featuresIncompat, Super.journalSequence, Super.checksum, Super.nextIno,
    Super.nextDataBlock]

def clearRecoveryState (state : Nat) : Nat := state &&& (0xffffffff - FS_STATE_NEEDS_RECOVERY)

def clearRecoveryIncompat (incompat : Nat) : Nat :=
  incompat &&& (0xffffffff - FEATURE_INCOMPAT_NEEDS_RECOVERY)

/-- Two superblock blocks with the same content apart from the recovery flags, the
journal sequence, the allocation cursors and the checksum over them. -/
structure SameSuper (first second : Block) : Prop where
  rest : EqOutside superBookkeeping first second
  state : clearRecoveryState (first.get Super.state) =
    clearRecoveryState (second.get Super.state)
  incompat : clearRecoveryIncompat (first.get Super.featuresIncompat) =
    clearRecoveryIncompat (second.get Super.featuresIncompat)

namespace SameSuper

theorem refl (super : Block) : SameSuper super super := ⟨EqOutside.refl _ _, rfl, rfl⟩

theorem symm {first second : Block} (same : SameSuper first second) : SameSuper second first :=
  ⟨same.rest.symm, same.state.symm, same.incompat.symm⟩

theorem trans {first second third : Block} (left : SameSuper first second)
    (right : SameSuper second third) : SameSuper first third :=
  ⟨left.rest.trans right.rest, left.state.trans right.state,
    left.incompat.trans right.incompat⟩

theorem get {first second : Block} (same : SameSuper first second) (field : Field)
    (apart : ∀ other, other ∈ superBookkeeping → field.Apart other) :
    first.get field = second.get field := same.rest.get field apart

end SameSuper

/-- The two allocation cursors of a superblock. -/
def superCursors (super : Block) : Nat × Nat :=
  (super.get Super.nextIno, super.get Super.nextDataBlock)

/-- `disk_sb` after `cryexts_super_set_recovery`. -/
def recoveredSuper (needed : Bool) (super : Block) (nextIno nextDataBlock : Nat) : Block :=
  let state :=
    if needed then super.get Super.state ||| FS_STATE_NEEDS_RECOVERY
    else clearRecoveryState (super.get Super.state)
  let incompat :=
    if needed then super.get Super.featuresIncompat ||| FEATURE_INCOMPAT_NEEDS_RECOVERY
    else clearRecoveryIncompat (super.get Super.featuresIncompat)
  updateSuperChecksum
    ((((super.set Super.state state).set Super.featuresIncompat incompat).set Super.nextIno
      nextIno).set Super.nextDataBlock nextDataBlock)

theorem get_updateSuperChecksum (super : Block) (field : Field)
    (apart : field.Apart Super.checksum) :
    (updateSuperChecksum super).get field = super.get field := by
  unfold updateSuperChecksum
  split
  · exact ByteBuf.get_set_apart _ _ _ _ apart
  · rfl

theorem updateSuperChecksum_same (super : Block) (fields : List Field)
    (member : Super.checksum ∈ fields) : EqOutside fields (updateSuperChecksum super) super := by
  unfold updateSuperChecksum
  split
  · exact (EqOutside.refl _ _).set _ _ member
  · exact EqOutside.refl _ _

private theorem get_lt_32 (super : Block) (field : Field) (width : field.width = 4) :
    super.get field < 2 ^ 32 := by
  have bound := ByteBuf.get_lt super field
  rw [width] at bound
  exact bound

private theorem flagged_lt (needed : Bool) (value flag mask : Nat) (small : value < 2 ^ 32)
    (flagSmall : flag < 2 ^ 32) :
    (if needed then value ||| flag else value &&& mask) < 2 ^ 32 := by
  split
  · exact Nat.or_lt_two_pow small flagSmall
  · exact lt_of_le_of_lt Nat.and_le_left small

section Recovered

variable (needed : Bool) (super : Block) (nextIno nextDataBlock : Nat)

theorem recoveredSuper_state :
    (recoveredSuper needed super nextIno nextDataBlock).get Super.state =
      if needed then super.get Super.state ||| FS_STATE_NEEDS_RECOVERY
      else clearRecoveryState (super.get Super.state) := by
  unfold recoveredSuper
  rw [get_updateSuperChecksum _ _ (by decide), ByteBuf.get_set_apart _ _ _ _ (by decide),
    ByteBuf.get_set_apart _ _ _ _ (by decide), ByteBuf.get_set_apart _ _ _ _ (by decide),
    ByteBuf.get_set_same _ _ _ (by decide)]
  exact Nat.mod_eq_of_lt (flagged_lt needed _ _ _ (get_lt_32 super _ rfl) (by decide))

theorem recoveredSuper_incompat :
    (recoveredSuper needed super nextIno nextDataBlock).get Super.featuresIncompat =
      if needed then super.get Super.featuresIncompat ||| FEATURE_INCOMPAT_NEEDS_RECOVERY
      else clearRecoveryIncompat (super.get Super.featuresIncompat) := by
  unfold recoveredSuper
  rw [get_updateSuperChecksum _ _ (by decide), ByteBuf.get_set_apart _ _ _ _ (by decide),
    ByteBuf.get_set_apart _ _ _ _ (by decide), ByteBuf.get_set_same _ _ _ (by decide)]
  exact Nat.mod_eq_of_lt (flagged_lt needed _ _ _ (get_lt_32 super _ rfl) (by decide))

theorem recoveredSuper_nextIno :
    (recoveredSuper needed super nextIno nextDataBlock).get Super.nextIno = u64 nextIno := by
  unfold recoveredSuper
  rw [get_updateSuperChecksum _ _ (by decide), ByteBuf.get_set_apart _ _ _ _ (by decide),
    ByteBuf.get_set_same _ _ _ (by decide)]
  rfl

theorem recoveredSuper_nextDataBlock :
    (recoveredSuper needed super nextIno nextDataBlock).get Super.nextDataBlock =
      u64 nextDataBlock := by
  unfold recoveredSuper
  rw [get_updateSuperChecksum _ _ (by decide), ByteBuf.get_set_same _ _ _ (by decide)]
  rfl

/-- The cursors a recovered superblock takes are those it is given, kept to 64 bits. -/
theorem recoveredSuper_cursors :
    superCursors (recoveredSuper needed super nextIno nextDataBlock) =
      (u64 nextIno, u64 nextDataBlock) := by
  rw [superCursors, recoveredSuper_nextIno, recoveredSuper_nextDataBlock]

private theorem clear_or (value flag mask : Nat) (clears : flag &&& mask = 0) :
    (value ||| flag) &&& mask = value &&& mask := by
  rw [Nat.and_comm, Nat.and_or_distrib_left, Nat.and_comm mask flag, clears, Nat.or_zero,
    Nat.and_comm]

private theorem clear_twice (value mask : Nat) : value &&& mask &&& mask = value &&& mask := by
  rw [Nat.and_assoc, Nat.and_self]

theorem recoveredSuper_same : SameSuper (recoveredSuper needed super nextIno nextDataBlock)
    super where
  rest := by
    refine (updateSuperChecksum_same _ _ (by decide)).trans ?_
    exact ((((EqOutside.refl _ super).set _ _ (by decide)).set _ _ (by decide)).set _ _
      (by decide)).set _ _ (by decide)
  state := by
    rw [recoveredSuper_state]
    cases needed
    · exact clear_twice _ _
    · exact clear_or _ _ _ (by decide)
  incompat := by
    rw [recoveredSuper_incompat]
    cases needed
    · exact clear_twice _ _
    · exact clear_or _ _ _ (by decide)

theorem setJournalSequence_same (sequence : Nat) :
    SameSuper (super.set Super.journalSequence sequence) super where
  rest := (EqOutside.refl _ super).set _ _ (by decide)
  state := by rw [ByteBuf.get_set_apart _ _ _ _ (by decide)]
  incompat := by rw [ByteBuf.get_set_apart _ _ _ _ (by decide)]

end Recovered

theorem journalRecordBh_replaying (block : Nat) (w : World)
    (replaying : w.sbi.journalReplaying = true) : journalRecordBh block w = w := by
  simp [journalRecordBh, journalRecordBlock, replaying]

/-- The unlogged flag update changes the superblock buffer and nothing else. -/
theorem superSetRecoveryUnlogged_eq (needed : Bool) (w : World)
    (idle : w.sbi.journalReplaying = false) :
    superSetRecoveryUnlogged needed w =
      w.dirtyBuffer 0
        (recoveredSuper needed (w.cache 0) w.sbi.nextIno w.sbi.nextDataBlock) := by
  have same : { w.sbi with journalReplaying := false } = w.sbi := by rw [← idle]
  simp only [superSetRecoveryUnlogged, superSetRecovery, markSuperDirty]
  rw [journalRecordBh_replaying _ _ rfl]
  cases needed <;>
    simp [superDirtied, World.dirtyBuffer, World.super, recoveredSuper, clearRecoveryState,
      clearRecoveryIncompat, same, WriteLog.store_store]

theorem superSetRecovery_eq (needed : Bool) (w : World) :
    superSetRecovery needed w = journalRecordBh 0 (w.dirtyBuffer 0
      (recoveredSuper needed (w.cache 0) w.sbi.nextIno w.sbi.nextDataBlock)) := by
  cases needed <;>
    simp [superSetRecovery, markSuperDirty, superDirtied, World.dirtyBuffer, World.super,
      recoveredSuper, clearRecoveryState, clearRecoveryIncompat, WriteLog.store_store]

-- From here on a recovered superblock is known by the lemmas above.
attribute [irreducible] recoveredSuper

end Cryexts
