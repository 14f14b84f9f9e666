import Cryexts.Journal.Faults

set_option autoImplicit false

namespace Cryexts

open Routine (Moves)
open WriteLog (store applyWrites)

namespace World

/-- What a reader of a block gets: its buffer, or the device again once a failed write has
left the buffer out of date. -/
def live (w : World) (block : Nat) : Block :=
  if w.uptodate block = true then w.cache block else w.disk block

/-- A buffer loaded by `sb_bread`. -/
def reread (w : World) (block : Nat) : World :=
  { w with cache := store w.cache block (w.live block)
           uptodate := store w.uptodate block true }

/-- A buffer written through to the device. -/
def stored (w : World) (block : Nat) (content : Block) : World :=
  { w.written block content with uptodate := store w.uptodate block true }

/-- A buffer whose write to the device failed. -/
def spoiled (w : World) (block : Nat) (content : Block) : World :=
  { w with cache := store w.cache block content
           dirty := store w.dirty block false
           uptodate := store w.uptodate block false }

section Live

variable (w : World) (block other : Nat) (content : Block)

theorem disk_stored : (w.stored block content).disk = store w.disk block content := by
  change applyWrites w.base (w.log ++ [(block, content)]) = _
  rw [WriteLog.applyWrites_append]
  simp only [WriteLog.applyWrites_cons, WriteLog.applyWrites_nil, disk]

@[simp] theorem live_faults (faults : List Bool) :
    ({ w with faults := faults } : World).live = w.live := rfl

@[simp] theorem live_sbi (sbi : SbInfo) : ({ w with sbi := sbi } : World).live = w.live := rfl

@[simp] theorem live_reread : (w.reread block).live = w.live := by
  funext index
  by_cases here : index = block
  · subst here
    simp [live, reread]
  · simp [live, reread, here, WriteLog.store_other, disk]

theorem live_stored : (w.stored block content).live = store w.live block content := by
  funext index
  by_cases here : index = block
  · subst here
    simp [live, stored, written]
  · have apart : (w.stored block content).disk index = w.disk index := by
      rw [disk_stored, WriteLog.store_other _ _ _ _ here]
    unfold live
    rw [apart]
    simp [stored, written, here, WriteLog.store_other]

theorem live_spoiled_same : (w.spoiled block content).live block = w.disk block := by
  simp [live, spoiled, disk]

theorem live_spoiled_other (apart : other ≠ block) :
    (w.spoiled block content).live other = w.live other := by
  simp [live, spoiled, disk, apart, WriteLog.store_other]

end Live

end World

theorem faulty_eq (w : World) :
    faulty w = (.ok (w.faults.headD false), { w with faults := w.faults.tail }) := by
  cases w with
  | mk sbi cache dirty uptodate base log size faults =>
      cases faults <;> rfl

theorem kmalloc_eq (w : World) : kmalloc w =
    (if w.faults.headD false then .error .enomem else .ok (), { w with faults := w.faults.tail }) := by
  rw [kmalloc, Routine.bind_ok _ _ _ _ _ (faulty_eq w)]
  cases w.faults.headD false <;> rfl

theorem readFileBlock_eq (w : World) (block : Nat) : readFileBlock block w =
    if w.faults.headD false = true ∨ w.size ≤ block then
      (.error .eio, { w with faults := w.faults.tail })
    else (.ok (w.live block), { w.reread block with faults := w.faults.tail }) := by
  rw [readFileBlock, Routine.bind_ok _ _ _ _ _ (faulty_eq w)]
  cases w.faults.headD false with
  | true => simp
  | false =>
      by_cases outside : w.size ≤ block
      · simp [outside]
      · by_cases current : w.uptodate block = true
        · have same : w.reread block = w := by
            simp [World.reread, World.live, current, WriteLog.store_eq_self]
          rw [same]
          simp [outside, current, World.live]
        · simp [outside, current, World.live, World.reread, World.disk]

theorem journalV3WriteSync_eq (w : World) (block : Nat) (content : Block) :
    journalV3WriteSync block content w =
      if w.faults.headD false = true ∨ w.size ≤ block then
        (.error .eio, { w with faults := w.faults.tail })
      else if w.faults.tail.headD false = true then
        (.error .eio, { w.spoiled block content with faults := w.faults.tail.tail })
      else (.ok (), { w.stored block content with faults := w.faults.tail.tail }) := by
  have put : writeFileBlock block content w =
      if w.faults.headD false = true ∨ w.size ≤ block then
        (.error .eio, { w with faults := w.faults.tail })
      else (.ok (), { w.dirtyBuffer block content with
        uptodate := store w.uptodate block true, faults := w.faults.tail }) := by
    rw [writeFileBlock, Routine.bind_ok _ _ _ _ _ (faulty_eq w)]
    cases w.faults.headD false with
    | true => simp
    | false =>
        by_cases outside : w.size ≤ block
        · simp [outside]
        · simp [outside, World.dirtyBuffer]
  by_cases stopped : w.faults.headD false = true ∨ w.size ≤ block
  · rw [if_pos stopped] at put ⊢
    rw [journalV3WriteSync, Routine.bind_error _ _ _ _ _ put]
  · rw [if_neg stopped] at put ⊢
    have inside : ¬ w.size ≤ block := fun outside => stopped (Or.inr outside)
    rw [journalV3WriteSync, Routine.bind_ok _ _ _ _ _ put, syncSingleBlock, Routine.read_bind]
    simp only [World.dirtyBuffer, inside, ↓reduceIte, syncDirtyBuffer, Routine.read_bind,
      WriteLog.store_same]
    rw [Routine.bind_ok _ _ _ _ _ (faulty_eq _)]
    cases w.faults.tail.headD false with
    | true => simp [World.spoiled, WriteLog.store_store]
    | false => simp [World.stored, World.written, WriteLog.store_store]

theorem syncSingleBlock_eq (w : World) (block : Nat) (pending : w.dirty block = true) :
    syncSingleBlock block w =
      if w.size ≤ block then (.error .eio, w)
      else if w.faults.headD false = true then
        (.error .eio, { w.spoiled block (w.cache block) with faults := w.faults.tail })
      else (.ok (), { w.stored block (w.cache block) with faults := w.faults.tail }) := by
  have same : store w.cache block (w.cache block) = w.cache :=
    WriteLog.store_eq_self _ _ _ rfl
  rw [syncSingleBlock, Routine.read_bind]
  split
  · rfl
  · simp only [syncDirtyBuffer, Routine.read_bind, pending, ↓reduceIte]
    rw [Routine.bind_ok _ _ _ _ _ (faulty_eq w)]
    cases w.faults.headD false with
    | true => simp [World.spoiled, same]
    | false => simp [World.stored, World.written, same]

/-- Reads, and writes of the control block: no other block looks different to a reader, and
only buffers in `places` are loaded. -/
structure Rereads (places : Nat → Prop) (control : Nat) (w after : World) : Prop where
  sbi : after.sbi = w.sbi
  size : after.size = w.size
  cache : ∀ block, ¬ places block → after.cache block = w.cache block
  live : ∀ block, block ≠ control → after.live block = w.live block
  disk : ∀ block, block ≠ control → after.disk block = w.disk block

section Rereads

variable {places : Nat → Prop} {control : Nat}

theorem Rereads.faults (w : World) (faults : List Bool) :
    Rereads places control w { w with faults := faults } :=
  ⟨rfl, rfl, fun _ _ => rfl, fun _ _ => rfl, fun _ _ => rfl⟩

instance : IsPreorder World (Rereads places control) where
  refl w := Rereads.faults w w.faults
  trans _ _ _ first second :=
    ⟨second.sbi.trans first.sbi, second.size.trans first.size,
      fun block apart => (second.cache block apart).trans (first.cache block apart),
      fun block apart => (second.live block apart).trans (first.live block apart),
      fun block apart => (second.disk block apart).trans (first.disk block apart)⟩

theorem kmalloc_rereads : Moves (Rereads places control) kmalloc := by
  intro w
  rw [kmalloc_eq]
  exact Rereads.faults w _

theorem readFileBlock_rereads (block : Nat) (place : places block) :
    Moves (Rereads places control) (readFileBlock block) := by
  intro w
  rw [readFileBlock_eq]
  split
  · exact Rereads.faults w _
  · refine ⟨rfl, rfl, ?_, ?_, fun _ _ => rfl⟩
    · intro other apart
      apply WriteLog.store_other
      rintro rfl
      exact apart place
    · intro other _
      change (w.reread block).live other = w.live other
      rw [World.live_reread]

theorem writeSync_rereads (content : Block) (place : places control) :
    Moves (Rereads places control) (journalV3WriteSync control content) := by
  have kept : ∀ block, ¬ places block → block ≠ control := by
    rintro block apart rfl
    exact apart place
  intro w
  rw [journalV3WriteSync_eq]
  split
  · exact Rereads.faults w _
  · split
    · refine ⟨rfl, rfl, ?_, ?_, fun _ _ => rfl⟩
      · intro block apart
        exact WriteLog.store_other _ _ _ _ (kept block apart)
      · intro block apart
        exact w.live_spoiled_other control block content apart
    · refine ⟨rfl, rfl, ?_, ?_, ?_⟩
      · intro block apart
        exact WriteLog.store_other _ _ _ _ (kept block apart)
      · intro block apart
        change (w.stored control content).live block = w.live block
        rw [World.live_stored, WriteLog.store_other _ _ _ _ apart]
      · intro block apart
        change (w.stored control content).disk block = w.disk block
        rw [World.disk_stored, WriteLog.store_other _ _ _ _ apart]

/-- Whatever becomes of a write, readers of the other blocks do not notice. -/
theorem writeSync_live (w : World) (block : Nat) (content : Block) (other : Nat)
    (apart : other ≠ block) :
    (journalV3WriteSync block content w).2.live other = w.live other := by
  have moved : Moves (Rereads (fun _ => True) block) (journalV3WriteSync block content) :=
    writeSync_rereads content trivial
  exact (moved w).live other apart

theorem verifyPayloads_rereads (distinct : Bool) (descriptor : Block) (payloadStart : Nat)
    (indices : List Nat) (aggregate : Nat)
    (cells : ∀ index, index ∈ indices → places (payloadStart + index)) :
    Moves (Rereads places control)
      (verifyPayloads distinct descriptor payloadStart indices aggregate) := by
  induction indices generalizing aggregate with
  | nil => exact Moves.pure _
  | cons index rest ih =>
      refine Moves.bind Moves.read fun w => ?_
      refine Moves.bind (Moves.require _ _) fun _ => ?_
      refine Moves.bind (Moves.require _ _) fun _ => ?_
      refine Moves.bind (readFileBlock_rereads _ (cells index List.mem_cons_self)) fun payload => ?_
      refine Moves.bind (Moves.require _ _) fun _ => ?_
      exact ih _ fun other member => cells other (List.mem_cons_of_mem _ member)

end Rereads

theorem readFileBlock_ok {w after : World} {block : Nat} {content : Block}
    (ran : readFileBlock block w = (.ok content, after)) :
    content = w.live block ∧ after.live = w.live ∧ after.sbi = w.sbi ∧
      (block ≠ 0 → blocksCount after = blocksCount w) := by
  rw [readFileBlock_eq] at ran
  split at ran
  · cases ran
  · obtain ⟨value, state⟩ := Prod.mk.inj ran
    rw [← state]
    refine ⟨(Except.ok.inj value).symm, w.live_reread block, rfl, fun apart => ?_⟩
    change (store w.cache block (w.live block) 0).get _ = _
    rw [WriteLog.store_other _ _ _ _ (Ne.symm apart)]
    rfl

/-- The body gives `value` and leaves `after` when none of its calls fails. -/
def Succeeds {α : Type} (body : Kernel α) (w : World) (value : α) (after : World) : Prop :=
  ∃ calls, ∀ faults : List Bool, (∀ index, index < calls → faults.getD index false = false) →
    body { w with faults := faults } = (.ok value, { after with faults := faults.drop calls })

theorem quiet_drop {faults : List Bool} {early late : Nat}
    (sound : ∀ index, index < early + late → faults.getD index false = false) :
    ∀ index, index < late → (faults.drop early).getD index false = false := by
  intro index low
  have later := sound (early + index) (by omega)
  simpa [List.getD_eq_getElem?_getD, List.getElem?_drop] using later

namespace Succeeds

variable {α β : Type} {w middle after : World} {value : α}

theorem pure (w : World) (value : α) : Succeeds (Pure.pure value) w value w :=
  ⟨0, fun _ _ => rfl⟩

theorem run {body : Kernel α} (done : Succeeds body w value after) :
    body { w with faults := [] } = (.ok value, { after with faults := [] }) := by
  obtain ⟨calls, run⟩ := done
  rw [run [] fun index _ => rfl, List.drop_nil]

theorem bind {first : Kernel α} {next : α → Kernel β} {result : β}
    (done : Succeeds first w value middle) (rest : Succeeds (next value) middle result after) :
    Succeeds (first >>= next) w result after := by
  obtain ⟨early, before⟩ := done
  obtain ⟨late, behind⟩ := rest
  refine ⟨early + late, fun faults sound => ?_⟩
  rw [Routine.bind_ok _ _ _ _ _ (before faults fun index low => sound index (by omega)),
    behind _ (quiet_drop sound), List.drop_drop]

theorem read {next : World → Kernel β} {result : β}
    (blind : ∀ faults : List Bool, next { w with faults := faults } = next w)
    (rest : Succeeds (next w) w result after) : Succeeds (Routine.read >>= next) w result after := by
  obtain ⟨calls, run⟩ := rest
  refine ⟨calls, fun faults sound => ?_⟩
  rw [Routine.read_bind, blind]
  exact run faults sound

theorem require {condition : Prop} [Decidable condition] (reason : Errno) (holds : condition) :
    Succeeds (Routine.require condition reason) w () w :=
  ⟨0, fun _ _ => Routine.require_true _ _ _ holds⟩

private theorem quiet_head {faults : List Bool} {calls : Nat}
    (sound : ∀ index, index < calls → faults.getD index false = false) (positive : 0 < calls) :
    faults.headD false = false := by
  have first := sound 0 positive
  cases faults with
  | nil => rfl
  | cons fault rest => exact first

theorem kmalloc (w : World) : Succeeds Cryexts.kmalloc w () w := by
  refine ⟨1, fun faults sound => ?_⟩
  have quiet := quiet_head sound Nat.zero_lt_one
  rw [kmalloc_eq, quiet, if_neg Bool.false_ne_true, List.drop_one]

theorem readFileBlock (block : Nat) (inside : block < w.size) :
    Succeeds (Cryexts.readFileBlock block) w (w.live block) (w.reread block) := by
  refine ⟨1, fun faults sound => ?_⟩
  have quiet := quiet_head sound Nat.zero_lt_one
  rw [readFileBlock_eq, if_neg, List.drop_one]
  · rfl
  · rw [quiet]
    simpa using inside

theorem writeSync (block : Nat) (content : Block) (inside : block < w.size) :
    Succeeds (journalV3WriteSync block content) w () (w.stored block content) := by
  refine ⟨2, fun faults sound => ?_⟩
  have quiet := quiet_head sound Nat.zero_lt_two
  have quiet' : faults.tail.headD false = false := by
    refine @quiet_head _ 1 ?_ Nat.zero_lt_one
    intro index low
    have later := sound (index + 1) (by omega)
    cases faults with
    | nil => rfl
    | cons fault rest => exact later
  rw [journalV3WriteSync_eq, if_neg, if_neg]
  · rw [← List.drop_one, ← List.drop_one, List.drop_drop]
    rfl
  · rw [quiet']
    exact Bool.false_ne_true
  · rw [quiet]
    simpa using inside

end Succeeds

/-- The body comes to `rest` from `after` when none of its calls fails before that. -/
def Leads (body rest : Kernel Unit) (w after : World) : Prop :=
  ∃ calls, ∀ faults : List Bool, (∀ index, index < calls → faults.getD index false = false) →
    body { w with faults := faults } = rest { after with faults := faults.drop calls }

namespace Leads

variable {w middle after : World} {body rest : Kernel Unit}

theorem refl (body : Kernel Unit) (w : World) : Leads body body w w := ⟨0, fun _ _ => rfl⟩

theorem bind {α : Type} {first : Kernel α} {next : α → Kernel Unit} {value : α}
    (done : Succeeds first w value middle) (later : Leads (next value) rest middle after) :
    Leads (first >>= next) rest w after := by
  obtain ⟨early, before⟩ := done
  obtain ⟨late, behind⟩ := later
  refine ⟨early + late, fun faults sound => ?_⟩
  rw [Routine.bind_ok _ _ _ _ _ (before faults fun index low => sound index (by omega)),
    behind _ (quiet_drop sound), List.drop_drop]

theorem read {next : World → Kernel Unit}
    (blind : ∀ faults : List Bool, next { w with faults := faults } = next w)
    (later : Leads (next w) rest w after) : Leads (Routine.read >>= next) rest w after := by
  obtain ⟨calls, run⟩ := later
  refine ⟨calls, fun faults sound => ?_⟩
  rw [Routine.read_bind, blind]
  exact run faults sound

theorem trans {last : Kernel Unit} {final : World} (first : Leads body rest w middle)
    (second : Leads rest last middle final) : Leads body last w final := by
  obtain ⟨early, before⟩ := first
  obtain ⟨late, behind⟩ := second
  refine ⟨early + late, fun faults sound => ?_⟩
  rw [before faults fun index low => sound index (by omega), behind _ (quiet_drop sound),
    List.drop_drop]

theorem run (leads : Leads body rest w after) :
    body { w with faults := [] } = rest { after with faults := [] } := by
  obtain ⟨calls, run⟩ := leads
  rw [run [] fun index _ => rfl, List.drop_nil]

/-- Any failures may follow. -/
theorem any (leads : Leads body rest w after) (faults : List Bool) :
    ∃ before : List Bool, body { w with faults := before } = rest { after with faults := faults } := by
  obtain ⟨calls, run⟩ := leads
  refine ⟨List.replicate calls false ++ faults, ?_⟩
  rw [run, List.drop_left' List.length_replicate]
  intro index low
  rw [List.getD_append _ _ _ _ (by simpa using low)]
  simp [List.getD_eq_getElem?_getD, low]

end Leads

end Cryexts
