import Cryexts.Inode.Freeing

set_option autoImplicit false

namespace Cryexts

namespace Inode

open WriteLog (store store_same store_other)
open Balloc (Allocator Ready Freed Switched Full blockBitmapUsed)

/-- The two inodes differ in their allocation hints at most. -/
def SameButHints (info after : InodeInfo) : Prop := ∃ hints, after = { info with hints := hints }

theorem SameButHints.refl (info : InodeInfo) : SameButHints info info := ⟨info.hints, rfl⟩

theorem SameButHints.trans {first second third : InodeInfo} (start : SameButHints first second)
    (rest : SameButHints second third) : SameButHints first third := by
  obtain ⟨_, rfl⟩ := start
  obtain ⟨hints, rfl⟩ := rest
  exact ⟨hints, rfl⟩

/-- The map of the inode, the set of used blocks and what these hold are as before. -/
structure Unchanged (s after : MapState) : Prop where
  ready : Ready after.allocator
  freed : Freed s.allocator after.allocator []
  info : SameButHints s.info after.info
  buffers : ∀ block, blockBitmapUsed s.allocator block = true →
    after.buffers block = s.buffers block
  mode : after.mode = s.mode

/-- One free block has become a used one full of zeros. -/
structure Taken (s after : MapState) (block : Nat) : Prop where
  ready : Ready after.allocator
  valid : Balloc.dataBlockValid s.allocator block = true
  free : blockBitmapUsed s.allocator block = false
  switched : Switched s.allocator after.allocator block true
  info : SameButHints s.info after.info
  zeroed : after.buffers block = ByteBuf.zero BLOCK_SIZE
  buffers : ∀ other, blockBitmapUsed s.allocator other = true →
    after.buffers other = s.buffers other
  mode : after.mode = s.mode

theorem Unchanged.refl {s : MapState} (ready : Ready s.allocator) : Unchanged s s :=
  ⟨ready, Freed.refl s.allocator, SameButHints.refl s.info, fun _ _ => rfl, rfl⟩

theorem Unchanged.used {s after : MapState} (same : Unchanged s after) (block : Nat) :
    blockBitmapUsed after.allocator block = blockBitmapUsed s.allocator block := by
  rw [same.freed.used]
  simp

theorem Unchanged.trans {s middle after : MapState} (start : Unchanged s middle)
    (rest : Unchanged middle after) : Unchanged s after where
  ready := rest.ready
  freed := start.freed.trans rest.freed
  info := start.info.trans rest.info
  buffers block used := by
    rw [rest.buffers block (by rw [start.used, used]), start.buffers block used]
  mode := rest.mode.trans start.mode

theorem Unchanged.full {s after : MapState} (same : Unchanged s after)
    (full : Full after.allocator) : Full s.allocator := by
  intro block valid
  rw [← same.used]
  apply full
  rw [same.freed.shape.dataBlockValid_eq, valid]

theorem Unchanged.full_of {s after : MapState} (same : Unchanged s after)
    (full : Full s.allocator) : Full after.allocator := by
  intro block valid
  rw [same.used]
  apply full
  rw [← same.freed.shape.dataBlockValid_eq, valid]

/-- What is taken after nothing has changed. -/
theorem Taken.after {s middle after : MapState} {block : Nat} (same : Unchanged s middle)
    (taken : Taken middle after block) : Taken s after block where
  ready := taken.ready
  valid := by rw [← same.freed.shape.dataBlockValid_eq, taken.valid]
  free := by rw [← same.used, taken.free]
  switched := by
    refine ⟨same.freed.shape.trans taken.switched.shape, taken.switched.here, ?_⟩
    intro other apart
    rw [taken.switched.others other apart, same.used]
  info := same.info.trans taken.info
  zeroed := taken.zeroed
  buffers other used := by
    rw [taken.buffers other (by rw [same.used, used]), same.buffers other used]
  mode := taken.mode.trans same.mode

/-- A block taken, and later given back by a run that has changed nothing else. -/
theorem Taken.undone {s middle late : MapState} {block : Nat} (taken : Taken s middle block)
    (same : Unchanged middle late) : Unchanged s (freeBlock block late).2 := by
  have valid : Balloc.dataBlockValid late.allocator block = true := by
    rw [(taken.switched.shape.trans same.freed.shape).dataBlockValid_eq, taken.valid]
  obtain ⟨allocator, ran, ready, freed⟩ := freeBlock_run same.ready block valid
  rw [ran]
  refine ⟨ready, ?_, taken.info.trans same.info, ?_, same.mode.trans taken.mode⟩
  · exact taken.switched.undone taken.free (same.freed.trans freed)
  · intro other used
    have apart : other ≠ block := by
      rintro rfl
      rw [taken.free] at used
      cases used
    rw [release_buffers, same.buffers other (by rw [taken.switched.others other apart, used]),
      taken.buffers other used]

section Calls

variable (s : MapState)

theorem attempt_ok (reason : Errno) (calm : s.faults.head? ≠ some true) :
    attempt reason s = (.ok (), { s with faults := s.faults.tail }) := by
  unfold attempt
  cases faults : s.faults with
  | nil =>
      simp only [List.tail_nil]
      rw [← faults]
  | cons fault rest =>
      cases fault with
      | false => rfl
      | true =>
          rw [faults] at calm
          exact absurd rfl calm

theorem attempt_error (reason : Errno) (fault : s.faults.head? = some true) :
    attempt reason s = (.error reason, { s with faults := s.faults.tail }) := by
  unfold attempt
  cases faults : s.faults with
  | nil =>
      rw [faults] at fault
      cases fault
  | cons first rest =>
      rw [faults] at fault
      have failing : first = true := Option.some.inj fault
      rw [failing]
      rfl

theorem unchanged_faults (ready : Ready s.allocator) (faults : List Bool) :
    Unchanged s { s with faults := faults } :=
  ⟨ready, Freed.refl s.allocator, SameButHints.refl s.info, fun _ _ => rfl, rfl⟩

variable {s} (ready : Ready s.allocator)

include ready

theorem allocBlockGoal_cases (goalBlock goalGroup : Nat) :
    (∃ block allocator, allocBlockGoal goalBlock goalGroup s =
        (.ok block, { s with allocator := allocator }) ∧
      Ready allocator ∧ Balloc.dataBlockValid s.allocator block = true ∧
      blockBitmapUsed s.allocator block = false ∧ Switched s.allocator allocator block true) ∨
    (allocBlockGoal goalBlock goalGroup s = (.error .enospc, s) ∧ Full s.allocator) := by
  rcases ready.allocBlockGoal goalBlock goalGroup with
    ⟨block, allocator, ran, settled, valid, free, switched⟩ | ⟨refused, full⟩
  · left
    refine ⟨block, allocator, ?_, settled, valid, free, switched⟩
    rw [allocBlockGoal, ran]
  · right
    refine ⟨?_, full⟩
    rw [allocBlockGoal, refused]

theorem allocDataBlockForInode_cases :
    (∃ block allocator hints, allocDataBlockForInode s =
        (.ok block, { s with allocator := allocator, info := { s.info with hints := hints } }) ∧
      Ready allocator ∧ Balloc.dataBlockValid s.allocator block = true ∧
      blockBitmapUsed s.allocator block = false ∧ Switched s.allocator allocator block true) ∨
    (allocDataBlockForInode s = (.error .enospc, s) ∧ Full s.allocator) := by
  unfold allocDataBlockForInode
  simp only [Routine.read_bind]
  split
  · rename_i goal
    rcases allocBlockGoal_cases ready (if s.info.hints.reservationNext ≠ 0 ∧
        s.info.hints.reservationNext < s.info.hints.reservationEnd then
        s.info.hints.reservationNext else s.info.hints.allocHintBlock)
      s.info.hints.allocGoalGroup with ⟨block, allocator, ran, rest⟩ | ⟨refused, full⟩
    · left
      refine ⟨block, allocator, reserved allocator block s.info.hints, ?_, rest⟩
      rw [Routine.bind_ok _ _ _ _ _ ran]
      rfl
    · right
      refine ⟨?_, full⟩
      rw [Routine.bind_error _ _ _ _ _ refused]
  · rcases allocBlockGoal_cases ready s.info.hints.allocHintBlock s.info.hints.allocGoalGroup with
      ⟨block, allocator, ran, rest⟩ | ⟨refused, full⟩
    · left
      exact ⟨block, allocator, s.info.hints, ran, rest⟩
    · right
      exact ⟨refused, full⟩

end Calls

/-- A block just allocated is zeroed, or given back when its buffer cannot be had. -/
theorem zeroOrFree_cases {s middle : MapState} {block : Nat} (ready : Ready middle.allocator)
    (valid : Balloc.dataBlockValid s.allocator block = true)
    (free : blockBitmapUsed s.allocator block = false)
    (switched : Switched s.allocator middle.allocator block true)
    (info : SameButHints s.info middle.info) (buffers : middle.buffers = s.buffers)
    (mode : middle.mode = s.mode) :
    (∃ after, zeroOrFree block middle = (.ok (), after) ∧ Taken s after block ∧
      middle.faults.head? ≠ some true ∧ after.faults = middle.faults.tail ∧
      after.info = middle.info) ∨
    (∃ after, zeroOrFree block middle = (.error .eio, after) ∧ Unchanged s after ∧
      middle.faults.head? = some true) := by
  by_cases fault : middle.faults.head? = some true
  · right
    have failed : zeroNewBlock block middle =
        (.error .eio, { middle with faults := middle.faults.tail }) := by
      rw [zeroNewBlock, Routine.bind_error _ _ _ _ _ (attempt_error middle .eio fault)]
    have still : Balloc.dataBlockValid middle.allocator block = true := by
      rw [switched.shape.dataBlockValid_eq, valid]
    obtain ⟨allocator, ran, settled, freed⟩ := freeBlock_run
      (s := { middle with faults := middle.faults.tail }) ready block still
    refine ⟨_, Routine.onFailure_error _ _ _ _ _ failed, ?_, fault⟩
    rw [ran]
    refine ⟨settled, switched.undone free freed, info, ?_, mode⟩
    intro other _
    rw [release_buffers, buffers]
  · left
    have zeroed : zeroNewBlock block middle = (.ok (), { middle with
        faults := middle.faults.tail
        buffers := store middle.buffers block (ByteBuf.zero BLOCK_SIZE) }) := by
      rw [zeroNewBlock, Routine.bind_ok _ _ _ _ _ (attempt_ok middle .eio fault)]
      rfl
    refine ⟨_, Routine.onFailure_ok _ _ _ _ _ zeroed, ?_, fault, rfl, rfl⟩
    refine ⟨ready, valid, free, switched, info, store_same _ _ _, ?_, mode⟩
    intro other used
    have apart : other ≠ block := by
      rintro rfl
      rw [free] at used
      cases used
    show store middle.buffers block _ other = s.buffers other
    rw [store_other _ _ _ _ apart, buffers]

section Fresh

variable {s : MapState} (ready : Ready s.allocator)

include ready

/-- A fresh data block, or nothing has changed. -/
theorem newDataBlock_cases :
    (∃ block after, newDataBlock s = (.ok block, after) ∧ Taken s after block ∧
      s.faults.head? ≠ some true ∧ after.faults = s.faults.tail) ∨
    (∃ after, newDataBlock s = (.error .eio, after) ∧ Unchanged s after ∧
      s.faults.head? = some true ∧ ¬ Full s.allocator) ∨
    (newDataBlock s = (.error .enospc, s) ∧ Full s.allocator) := by
  rcases allocDataBlockForInode_cases ready with
    ⟨block, allocator, hints, ran, settled, valid, free, switched⟩ | ⟨refused, full⟩
  · rcases @zeroOrFree_cases s
      { s with allocator := allocator, info := { s.info with hints := hints } } _
      settled valid free switched ⟨hints, rfl⟩ rfl rfl with
      ⟨after, went, taken, calm, faults, _⟩ | ⟨after, failed, same, fault⟩
    · left
      refine ⟨block, after, ?_, taken, calm, faults⟩
      rw [newDataBlock, Routine.bind_ok _ _ _ _ _ ran, Routine.bind_ok _ _ _ _ _ went]
      rfl
    · right
      left
      refine ⟨after, ?_, same, fault, Balloc.not_full valid free⟩
      rw [newDataBlock, Routine.bind_ok _ _ _ _ _ ran, Routine.bind_error _ _ _ _ _ failed]
  · right
    right
    refine ⟨?_, full⟩
    rw [newDataBlock, Routine.bind_error _ _ _ _ _ refused]

/-- A fresh block for a leaf, or nothing has changed. -/
theorem allocExtentLeafBlock_cases :
    (∃ block after, allocExtentLeafBlock s = (.ok block, after) ∧ Taken s after block ∧
      after.info = s.info ∧ s.faults.head? ≠ some true ∧ after.faults = s.faults.tail) ∨
    (∃ after, allocExtentLeafBlock s = (.error .eio, after) ∧ Unchanged s after ∧
      s.faults.head? = some true ∧ ¬ Full s.allocator) ∨
    (allocExtentLeafBlock s = (.error .enospc, s) ∧ Full s.allocator) := by
  rcases allocBlockGoal_cases ready s.info.hints.allocHintBlock s.info.hints.allocGoalGroup with
    ⟨block, allocator, ran, settled, valid, free, switched⟩ | ⟨refused, full⟩
  · rcases @zeroOrFree_cases s { s with allocator := allocator } _ settled valid free
      switched (SameButHints.refl s.info) rfl rfl with
      ⟨after, went, taken, calm, faults, info⟩ | ⟨after, failed, same, fault⟩
    · left
      refine ⟨block, after, ?_, taken, info, calm, faults⟩
      rw [allocExtentLeafBlock, Routine.read_bind, Routine.bind_ok _ _ _ _ _ ran,
        Routine.bind_ok _ _ _ _ _ went]
      rfl
    · right
      left
      refine ⟨after, ?_, same, fault, Balloc.not_full valid free⟩
      rw [allocExtentLeafBlock, Routine.read_bind, Routine.bind_ok _ _ _ _ _ ran,
        Routine.bind_error _ _ _ _ _ failed]
  · right
    right
    refine ⟨?_, full⟩
    rw [allocExtentLeafBlock, Routine.read_bind, Routine.bind_error _ _ _ _ _ refused]

end Fresh

end Inode

end Cryexts
