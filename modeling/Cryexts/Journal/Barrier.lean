import Cryexts.Journal.Faults

set_option autoImplicit false

namespace Cryexts

open Routine (Moves)
open WriteLog (store)

/-- `cryexts_journal_ordered_barrier`. -/
def journalOrderedBarrier : Kernel Unit := do
  syncBlockdev
  if ← faulty then Routine.fail .eio

theorem journalOrderedBarrier_moves : Moves (BlockIo fun _ => True) journalOrderedBarrier := by
  refine Moves.bind (syncBlockdev_moves fun _ => trivial) fun _ => ?_
  refine Moves.bind faulty_moves fun failed => ?_
  cases failed with
  | true => exact Moves.fail _
  | false => exact Moves.pure _

theorem syncDirtyBuffer_healthy {w : World} (healthy : w.Healthy) (block : Nat) :
    (syncDirtyBuffer block w).1 = .ok () ∧ (syncDirtyBuffer block w).2.Healthy := by
  unfold syncDirtyBuffer
  rw [Routine.read_bind]
  by_cases pending : w.dirty block = true
  · have quiet : faulty w = (.ok false, w) := by simp [faulty, healthy.noFaults]
    rw [if_pos pending, Routine.bind_ok _ _ _ _ _ quiet, if_neg Bool.false_ne_true,
      Routine.modify_run]
    refine ⟨rfl, healthy.noFaults, ?_⟩
    rw [healthy.current]
    exact WriteLog.store_eq_self _ _ _ rfl
  · rw [if_neg pending]
    exact ⟨rfl, healthy⟩

theorem syncBlocks_healthy {w : World} (healthy : w.Healthy) (blocks : List Nat) :
    (blocks.forM syncDirtyBuffer w).1 = .ok () ∧ (blocks.forM syncDirtyBuffer w).2.Healthy := by
  induction blocks generalizing w with
  | nil => exact ⟨rfl, healthy⟩
  | cons block rest ih =>
      obtain ⟨done, sound⟩ := syncDirtyBuffer_healthy healthy block
      have ran : syncDirtyBuffer block w = (.ok (), (syncDirtyBuffer block w).2) :=
        Prod.ext done rfl
      change ((syncDirtyBuffer block >>= fun _ => rest.forM syncDirtyBuffer : Kernel Unit) w).1 = _ ∧
        ((syncDirtyBuffer block >>= fun _ => rest.forM syncDirtyBuffer : Kernel Unit) w).2.Healthy
      rw [Routine.bind_ok _ _ _ _ _ ran]
      exact ih sound

/-- Where nothing fails, the barrier holds. -/
theorem journalOrderedBarrier_healthy {w : World} (healthy : w.Healthy) :
    (journalOrderedBarrier w).1 = .ok () ∧ (journalOrderedBarrier w).2.Healthy := by
  have synced : (syncBlockdev w).1 = .ok () ∧ (syncBlockdev w).2.Healthy :=
    syncBlocks_healthy healthy (List.range w.size)
  have ran : syncBlockdev w = (.ok (), (syncBlockdev w).2) := Prod.ext synced.1 rfl
  have quiet : faulty (syncBlockdev w).2 = (.ok false, (syncBlockdev w).2) := by
    simp [faulty, synced.2.noFaults]
  rw [journalOrderedBarrier, Routine.bind_ok _ _ _ _ _ ran, Routine.bind_ok _ _ _ _ _ quiet,
    if_neg Bool.false_ne_true]
  exact ⟨rfl, synced.2⟩

/-- `!sbi->journal_enabled || sbi->journal_replaying`. -/
def World.Bypassed (w : World) : Prop :=
  w.sbi.journalEnabled = false ∨ w.sbi.journalReplaying = true

instance (w : World) : Decidable w.Bypassed := inferInstanceAs (Decidable (_ ∨ _))

/-- `cryexts_journal_abort` on a version 3 journal. -/
def journalAbort (w : World) : World := if w.Bypassed then w else journalV3Abort w

/-- `cryexts_journal_commit` on a version 3 journal. -/
def journalCommit : Kernel Unit := do
  let w ← Routine.read
  if w.Bypassed then return ()
  else do
    journalOrderedBarrier.onFailure fun _ => Routine.modify journalAbort
    journalV3Commit

/-- A flush writes buffers as they are. -/
structure Flushed (w after : World) : Prop where
  sbi : after.sbi = w.sbi
  cache : after.cache = w.cache
  size : after.size = w.size
  log : ∃ writes, after.log = w.log ++ writes ∧
    ∀ write, write ∈ writes → write.2 = w.cache write.1

instance : IsPreorder World Flushed where
  refl w := ⟨rfl, rfl, rfl, [], by rw [List.append_nil], by simp⟩
  trans w middle after first second := by
    obtain ⟨early, log, same⟩ := first.log
    obtain ⟨late, log', same'⟩ := second.log
    refine ⟨second.sbi.trans first.sbi, second.cache.trans first.cache,
      second.size.trans first.size, early ++ late, ?_, ?_⟩
    · rw [log', log, List.append_assoc]
    · intro write member
      rcases List.mem_append.mp member with here | there
      · exact same write here
      · rw [same' write there, first.cache]

theorem faulty_flushed : Moves Flushed faulty := by
  intro w
  unfold faulty
  cases w.faults with
  | nil => exact ⟨rfl, rfl, rfl, [], by rw [List.append_nil], by simp⟩
  | cons fault rest => exact ⟨rfl, rfl, rfl, [], by rw [List.append_nil], by simp⟩

theorem syncDirtyBuffer_flushed (block : Nat) : Moves Flushed (syncDirtyBuffer block) := by
  refine Moves.bind Moves.read fun w => ?_
  by_cases pending : w.dirty block = true
  · rw [if_pos pending]
    refine Moves.bind faulty_flushed fun failed => ?_
    cases failed with
    | true =>
        refine Moves.bind (Moves.modify fun _ => ?_) fun _ => Moves.fail _
        exact ⟨rfl, rfl, rfl, [], by rw [List.append_nil], by simp⟩
    | false =>
        refine Moves.modify fun v => ⟨rfl, rfl, rfl, [(block, v.cache block)], rfl, ?_⟩
        intro write member
        rw [List.mem_singleton.mp member]
  · rw [if_neg pending]
    exact Moves.pure _

theorem syncBlocks_flushed (blocks : List Nat) :
    Moves Flushed (blocks.forM syncDirtyBuffer : Kernel Unit) :=
  Moves.forM fun block _ => syncDirtyBuffer_flushed block

theorem journalOrderedBarrier_flushed : Moves Flushed journalOrderedBarrier := by
  refine Moves.bind (Moves.bind Moves.read fun _ => syncBlocks_flushed _) fun _ => ?_
  refine Moves.bind faulty_flushed fun failed => ?_
  cases failed with
  | true => exact Moves.fail _
  | false => exact Moves.pure _

theorem syncDirtyBuffer_ok {block : Nat} {w after : World}
    (success : syncDirtyBuffer block w = (.ok (), after)) :
    (w.dirty block = true → after.log = w.log ++ [(block, w.cache block)]) ∧
      ∀ other, other ≠ block → after.dirty other = w.dirty other := by
  unfold syncDirtyBuffer at success
  rw [Routine.read_bind] at success
  by_cases pending : w.dirty block = true
  · rw [if_pos pending] at success
    obtain ⟨failed, middle, tried, later⟩ := Routine.of_bind_ok _ _ _ _ _ success
    have unchanged : middle.dirty = w.dirty ∧ middle.cache = w.cache ∧ middle.log = w.log := by
      have moved : (faulty w).2 = middle := by rw [tried]
      rw [← moved]
      unfold faulty
      cases w.faults <;> exact ⟨rfl, rfl, rfl⟩
    cases failed with
    | true =>
        rw [if_pos rfl, Routine.modify_bind] at later
        cases later
    | false =>
        rw [if_neg Bool.false_ne_true, Routine.modify_run] at later
        obtain rfl := (Prod.mk.inj later).2
        refine ⟨fun _ => ?_, fun other apart => ?_⟩
        · change middle.log ++ [(block, middle.cache block)] = _
          rw [unchanged.2.1, unchanged.2.2]
        · change store middle.dirty block false other = _
          rw [WriteLog.store_other _ _ _ _ apart, unchanged.1]
  · rw [if_neg pending] at success
    obtain rfl := (Prod.mk.inj success).2
    exact ⟨fun here => absurd here pending, fun _ _ => rfl⟩

/-- A flush that succeeds writes every dirty buffer it comes to. -/
theorem syncBlocks_writes {blocks : List Nat} {w after : World}
    (success : (blocks.forM syncDirtyBuffer : Kernel Unit) w = (.ok (), after)) (block : Nat)
    (member : block ∈ blocks) (pending : w.dirty block = true) :
    ∃ writes, after.log = w.log ++ writes ∧ (block, w.cache block) ∈ writes := by
  induction blocks generalizing w with
  | nil => cases member
  | cons first rest ih =>
      change (syncDirtyBuffer first >>= fun _ => rest.forM syncDirtyBuffer : Kernel Unit) w = _
        at success
      obtain ⟨_, middle, start, later⟩ := Routine.of_bind_ok _ _ _ _ _ success
      have flushed : Flushed w middle := by
        have moved := syncDirtyBuffer_flushed first w
        rw [start] at moved
        exact moved
      have finished : Flushed middle after := by
        have moved := syncBlocks_flushed rest middle
        rw [later] at moved
        exact moved
      obtain ⟨early, log, _⟩ := flushed.log
      obtain ⟨late, log', _⟩ := finished.log
      have synced := syncDirtyBuffer_ok start
      by_cases here : block = first
      · subst here
        have written := synced.1 pending
        refine ⟨[(block, w.cache block)] ++ late, by rw [log', written, List.append_assoc], ?_⟩
        exact List.mem_append_left _ List.mem_cons_self
      · have still : middle.dirty block = true := by
          rw [synced.2 block here]
          exact pending
        obtain ⟨more, grown, found⟩ := ih later
          ((List.mem_cons.mp member).resolve_left here) still
        refine ⟨early ++ more, by rw [grown, log, List.append_assoc], ?_⟩
        rw [← flushed.cache]
        exact List.mem_append_right _ found

end Cryexts
