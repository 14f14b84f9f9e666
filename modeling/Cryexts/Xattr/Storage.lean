import Cryexts.Xattr.Values

set_option autoImplicit false

namespace Cryexts

namespace Xattr

open Balloc (Allocator SameShape Switched Freed blockBitmapUsed)

/-- Free blocks taken, each once; the others are as before. -/
structure Takes (a b : Allocator) (blocks : List Nat) : Prop where
  ready : Balloc.Ready b
  shape : SameShape a b
  nodup : blocks.Nodup
  free : ∀ block ∈ blocks, Balloc.dataBlockValid a block = true ∧ blockBitmapUsed a block = false
  used : ∀ block, blockBitmapUsed b block = (blockBitmapUsed a block || decide (block ∈ blocks))

namespace Takes

variable {a b c : Allocator} {blocks : List Nat}

theorem refl (ready : Balloc.Ready a) : Takes a a [] :=
  ⟨ready, SameShape.refl a, List.nodup_nil, by simp, by simp⟩

theorem same (takes : Takes a b []) (block : Nat) :
    blockBitmapUsed b block = blockBitmapUsed a block := by
  rw [takes.used]
  simp

/-- One block more. -/
theorem cons (takes : Takes a b blocks) (block : Nat) (ready : Balloc.Ready c)
    (valid : Balloc.dataBlockValid b block = true) (free : blockBitmapUsed b block = false)
    (switched : Switched b c block true) : Takes a c (block :: blocks) := by
  have before := free
  rw [takes.used, Bool.or_eq_false_iff, decide_eq_false_iff_not] at before
  refine ⟨ready, takes.shape.trans switched.shape, List.nodup_cons.mpr ⟨before.2, takes.nodup⟩,
    ?_, ?_⟩
  · intro other member
    rcases List.mem_cons.mp member with rfl | later
    · exact ⟨by rw [← takes.shape.dataBlockValid_eq, valid], before.1⟩
    · exact takes.free other later
  · intro other
    by_cases here : other = block
    · rw [here, switched.here]
      simp
    · rw [switched.others other here, takes.used]
      simp [here]

/-- The last block taken is given back. -/
theorem tail (block : Nat) (takes : Takes a b (block :: blocks)) (ready : Balloc.Ready c)
    (switched : Switched b c block false) : Takes a c blocks := by
  obtain ⟨fresh, rest⟩ := List.nodup_cons.mp takes.nodup
  refine ⟨ready, takes.shape.trans switched.shape, rest,
    fun other member => takes.free other (List.mem_cons_of_mem _ member), ?_⟩
  intro other
  by_cases here : other = block
  · rw [here, switched.here, (takes.free block List.mem_cons_self).2]
    simp [fresh]
  · rw [switched.others other here, takes.used]
    simp [here]

theorem perm (takes : Takes a b blocks) {others : List Nat} (same : blocks.Perm others) :
    Takes a b others := by
  refine ⟨takes.ready, takes.shape, same.nodup_iff.mp takes.nodup,
    fun block member => takes.free block (same.mem_iff.mpr member), ?_⟩
  intro block
  rw [takes.used]
  simp only [same.mem_iff]

theorem valid (takes : Takes a b blocks) (block : Nat) (member : block ∈ blocks) :
    Balloc.dataBlockValid b block = true := by
  rw [takes.shape.dataBlockValid_eq, (takes.free block member).1]

end Takes

theorem block_small {a : Allocator} (ready : Balloc.Ready a) (block : Nat)
    (valid : Balloc.dataBlockValid a block = true) : block < 2 ^ 64 := by
  rcases ready with sound | flat
  · have bounds := (sound.geometry.dataBlockValid_iff block).mp valid
    have total := sound.geometry.blocksBound
    omega
  · have bounds := (flat.dataBlockValid_iff block).mp valid
    exact Nat.lt_trans bounds.2 flat.blocksBound

section Calls

variable (s : XattrState)

theorem withAllocator_run {α : Type} (call : Routine Allocator Errno α) {after : Allocator}
    {result : Except Errno α} (ran : call s.allocator = (result, after)) :
    withAllocator call s = (result.mapError .error, { s with allocator := after }) := by
  apply Routine.onPart_run
  rw [Routine.mapError, ran]

theorem allocBlock_cases (a : Allocator) (blocks : List Nat) (takes : Takes a s.allocator blocks) :
    (∃ block after, allocBlock s = (.ok block, { s with allocator := after }) ∧
      Takes a after (block :: blocks)) ∨
    allocBlock s = (.error (.error .enospc), s) := by
  rcases takes.ready.allocBlockGoal 0 Balloc.U64_MAX with
    ⟨block, after, ran, ready, valid, free, switched⟩ | ⟨refused, _⟩
  · left
    refine ⟨block, after, ?_, takes.cons block ready valid free switched⟩
    exact withAllocator_run s _ ran
  · right
    exact withAllocator_run s _ refused

theorem freeBlock_cases (ready : Balloc.Ready s.allocator) (block : Nat)
    (valid : Balloc.dataBlockValid s.allocator block = true) :
    ∃ after, freeBlock block s = (.ok (), { s with allocator := after }) ∧ Balloc.Ready after ∧
      Switched s.allocator after block false := by
  obtain ⟨after, ran, still, switched⟩ := ready.freeBlock block valid
  exact ⟨after, withAllocator_run s _ ran, still, switched⟩

/-- The blocks that one call has taken. -/
def takenBlocks (rootNew : Bool) (rootBlock : Nat) (overflowNew : Bool) (overflowBlock : Nat) :
    List Nat :=
  (if rootNew then [rootBlock] else []) ++ (if overflowNew then [overflowBlock] else [])

/-- Freeing the last block taken, with the result ignored or not. -/
theorem freeBlock_taken (a : Allocator) (block : Nat) (blocks : List Nat)
    (takes : Takes a s.allocator (block :: blocks)) :
    ∃ after, freeBlock block s = (.ok (), { s with allocator := after }) ∧
      Takes a after blocks := by
  obtain ⟨after, ran, ready, switched⟩ := freeBlock_cases s takes.ready block
    (takes.valid block List.mem_cons_self)
  exact ⟨after, ran, takes.tail block ready switched⟩

/-- A cleanup of the label `out_free` gives back what has been taken. -/
theorem outFree_run (a : Allocator) (rootNew overflowNew : Bool) (rootBlock overflowBlock : Nat)
    (takes : Takes a s.allocator (takenBlocks rootNew rootBlock overflowNew overflowBlock)) :
    ∃ after, outFree rootNew rootBlock overflowNew overflowBlock s =
      (.ok (), { s with allocator := after }) ∧ Takes a after [] := by
  have second : ∀ t : XattrState, Takes a t.allocator (if overflowNew then [overflowBlock] else []) →
      ∃ after, (if overflowNew then (freeBlock overflowBlock).ignored else pure ()) t =
        (.ok (), { t with allocator := after }) ∧ Takes a after [] := by
    intro t left
    cases overflowNew with
    | true =>
        obtain ⟨after, ran, rest⟩ := freeBlock_taken t a overflowBlock [] left
        refine ⟨after, ?_, rest⟩
        rw [if_pos rfl, Routine.ignored, ran]
    | false => exact ⟨t.allocator, rfl, left⟩
  rw [outFree]
  cases rootNew with
  | true =>
      obtain ⟨middle, ran, left⟩ := freeBlock_taken s a rootBlock _ takes
      obtain ⟨after, last, rest⟩ := second { s with allocator := middle } left
      refine ⟨after, ?_, rest⟩
      rw [if_pos rfl, Routine.ignored_bind, ran]
      exact last
  | false => exact second s takes

end Calls

theorem rootEntries_le (used : Nat) (items : List XattrItem) :
    rootEntries used items ≤ items.length := by
  induction items generalizing used with
  | nil => exact Nat.le_refl 0
  | cons item rest ih =>
      rw [rootEntries]
      split
      · exact Nat.zero_le _
      · exact Nat.succ_le_succ (ih _)

/-- The blocks of a plan hold the attributes: all of them in the root block, or as many as fit
there and the others in the overflow block. -/
structure Plan.Holds (plan : Plan) (sup : XattrSuper) (items : List XattrItem)
    (attributes : List Attribute) : Prop where
  alone : plan.second = none → plan.overflowNew = false ∧
    rootEntries Header.SIZE items = items.length ∧ BlockHeld plan.root 0 attributes
  both : ∀ content, plan.second = some content → sup.largeXattr = true ∧
    rootEntries Header.SIZE items < items.length ∧
    plan.overflowNew = (plan.oldOverflowBlock == 0) ∧
    (plan.oldOverflowBlock ≠ 0 → plan.overflowBlock = plan.oldOverflowBlock) ∧
    plan.overflowBlock ≠ 0 ∧
    BlockHeld plan.root plan.overflowBlock (attributes.take (rootEntries Header.SIZE items)) ∧
    BlockHeld content 0 (attributes.drop (rootEntries Header.SIZE items))

section Packing

variable (sup : XattrSuper) (o : Outcomes) (items : List XattrItem) (attributes : List Attribute)
  (stores : List.Forall₂ Stores items attributes) (few : attributes.length ≤ XATTR_MAX_ITEMS)
  (a : Allocator) (rootBlock : Nat) (rootNew : Bool)

include stores few

theorem packed_cases (start entries overflowBlock : Nat) (wide : overflowBlock < 2 ^ 64)
    (inside : start + entries ≤ attributes.length) (s : XattrState) :
    (∃ buf, packed (packXattrBlock (itemAt items) start entries overflowBlock) s = (.ok buf, s) ∧
      BlockHeld buf overflowBlock ((attributes.drop start).take entries)) ∨
    ∃ reason, packed (packXattrBlock (itemAt items) start entries overflowBlock) s =
      (.error reason, s) := by
  cases ran : packXattrBlock (itemAt items) start entries overflowBlock with
  | ok buf => exact Or.inl ⟨buf, rfl, pack_held stores few _ _ _ wide buf inside ran⟩
  | error reason => exact Or.inr ⟨_, rfl⟩

omit stores few in
/-- A step that fails after blocks have been taken gives them back. -/
theorem undone_cases {α : Type} (body : XattrOp α) (reason : Stop Errno) (s t : XattrState)
    (overflowNew : Bool) (overflowBlock : Nat) (ran : body s = (.error reason, t))
    (takes : Takes a t.allocator (takenBlocks rootNew rootBlock overflowNew overflowBlock)) :
    ∃ after, Routine.onFailure body
        (fun _ => outFree rootNew rootBlock overflowNew overflowBlock) s =
      (.error reason, { t with allocator := after }) ∧ Takes a after [] := by
  obtain ⟨after, cleaned, left⟩ := outFree_run t a rootNew overflowNew rootBlock overflowBlock takes
  refine ⟨after, ?_, left⟩
  rw [Routine.onFailure_error _ _ _ _ _ ran, cleaned]

/-- The plan for both blocks, or the blocks taken are given back. -/
theorem packBoth_cases (t : XattrState) (old overflowBlock : Nat) (large : sup.largeXattr = true)
    (more : rootEntries Header.SIZE items ≠ items.length) (wide : overflowBlock < 2 ^ 64)
    (nonzero : overflowBlock ≠ 0) (kept : old ≠ 0 → overflowBlock = old) :
    (∃ plan, packBoth o items rootBlock rootNew old overflowBlock t = (.ok plan, t) ∧ plan.Holds sup items attributes ∧
      plan.rootBlock = rootBlock ∧ plan.rootNew = rootNew ∧ plan.oldOverflowBlock = old ∧
      plan.overflowBlock = overflowBlock ∧ plan.overflowNew = (old == 0)) ∨
    ∃ reason, packBoth o items rootBlock rootNew old overflowBlock t = (.error reason, t) := by
  have lengths := stores.length_eq
  have fits := rootEntries_le Header.SIZE items
  rw [packBoth, answer_bind]
  cases o.overflowBuffer with
  | some reason => exact Or.inr ⟨_, rfl⟩
  | none =>
      rw [Option.elim]
      rcases packed_cases items attributes stores few (rootEntries Header.SIZE items)
        (items.length - rootEntries Header.SIZE items) 0 (by decide) (by omega) t with
        ⟨second, ran, secondHeld⟩ | ⟨reason, ran⟩
      · rw [Routine.bind_ok _ _ _ _ _ ran]
        rcases packed_cases items attributes stores few 0 (rootEntries Header.SIZE items)
          overflowBlock wide (by omega) t with ⟨root, ran, rootHeld⟩ | ⟨reason, ran⟩
        · rw [Routine.bind_ok _ _ _ _ _ ran]
          refine Or.inl ⟨_, rfl, ⟨by simp, ?_⟩, rfl, rfl, rfl, rfl, rfl⟩
          intro content given
          cases given
          refine ⟨large, Nat.lt_of_le_of_ne fits more, rfl, kept, nonzero, ?_, ?_⟩
          · simpa using rootHeld
          · rw [List.take_of_length_le] at secondHeld
            · exact secondHeld
            · rw [List.length_drop]
              omega
        · rw [Routine.bind_error _ _ _ _ _ ran]
          exact Or.inr ⟨_, rfl⟩
      · rw [Routine.bind_error _ _ _ _ _ ran]
        exact Or.inr ⟨_, rfl⟩

omit stores few in
theorem oldOverflow_cases (s : XattrState) :
    oldOverflow o items rootBlock rootNew s =
      (.ok (if rootNew then 0 else (s.buffers rootBlock).get Header.overflowBlock), s) ∨
    ∃ reason, oldOverflow o items rootBlock rootNew s = (.error reason, s) := by
  rw [oldOverflow, answer_bind]
  cases o.rootBuffer with
  | some reason => exact Or.inr ⟨_, rfl⟩
  | none =>
      rw [Option.elim, Routine.read_bind, answer_bind]
      cases (if rootNew then none else o.reread) with
      | some reason => exact Or.inr ⟨_, rfl⟩
      | none =>
          rw [Option.elim]
          split
          · exact Or.inr ⟨_, rfl⟩
          · exact Or.inl rfl

omit stores few in
theorem overflowFor_cases (old : Nat) (wide : old < 2 ^ 64) (s : XattrState)
    (takes : Takes a s.allocator (takenBlocks rootNew rootBlock false 0)) :
    (∃ block after, overflowFor sup old s = (.ok block, { s with allocator := after }) ∧
      sup.largeXattr = true ∧ block < 2 ^ 64 ∧ block ≠ 0 ∧ (old ≠ 0 → block = old) ∧
      Takes a after (takenBlocks rootNew rootBlock (old == 0) block)) ∨
    ∃ reason, overflowFor sup old s = (.error reason, s) := by
  rw [overflowFor]
  split
  · exact Or.inr ⟨_, rfl⟩
  · rename_i large
    have large : sup.largeXattr = true := by simpa using large
    split
    · rename_i bare
      rcases allocBlock_cases s a _ takes with ⟨block, after, ran, taken⟩ | ran
      · left
        have valid := taken.valid block List.mem_cons_self
        have order : (block :: takenBlocks rootNew rootBlock false 0).Perm
            (takenBlocks rootNew rootBlock (old == 0) block) := by
          rw [takenBlocks, takenBlocks, bare]
          cases rootNew with
          | true => exact List.Perm.swap rootBlock block []
          | false => exact List.Perm.refl _
        refine ⟨block, after, ran, large, block_small taken.ready block valid, ?_,
          fun used => absurd bare used, taken.perm order⟩
        exact (Balloc.valid_positive valid).ne'
      · exact Or.inr ⟨_, ran⟩
    · rename_i used
      left
      have kept : (old == 0) = false := by simpa using used
      refine ⟨old, s.allocator, rfl, large, wide, used, fun _ => rfl, ?_⟩
      rw [kept]
      exact takes

/-- What the packing leaves: a plan for the blocks taken, or everything given back. -/
theorem packBlocks_cases (s : XattrState)
    (takes : Takes a s.allocator (takenBlocks rootNew rootBlock false 0)) :
    (∃ plan after, packBlocks sup o items rootBlock rootNew s =
        (.ok plan, { s with allocator := after }) ∧ plan.Holds sup items attributes ∧
      plan.rootBlock = rootBlock ∧ plan.rootNew = rootNew ∧
      plan.oldOverflowBlock =
        (if rootNew then 0 else (s.buffers rootBlock).get Header.overflowBlock) ∧
      Takes a after
        (takenBlocks plan.rootNew plan.rootBlock plan.overflowNew plan.overflowBlock)) ∨
    ∃ reason after, packBlocks sup o items rootBlock rootNew s =
      (.error reason, { s with allocator := after }) ∧ Takes a after [] := by
  have lengths := stores.length_eq
  rw [packBlocks]
  rcases oldOverflow_cases o items rootBlock rootNew s with ran | ⟨reason, ran⟩
  · generalize oldIs : (if rootNew then 0 else (s.buffers rootBlock).get Header.overflowBlock) = old
      at ran ⊢
    have wide : old < 2 ^ 64 := by
      rw [← oldIs]
      split
      · decide
      · exact (s.buffers rootBlock).get_lt Header.overflowBlock
    rw [Routine.bind_ok _ _ _ _ _ (Routine.onFailure_ok _ _ _ _ _ ran)]
    split
    · rename_i all
      rcases packed_cases items attributes stores few 0 (rootEntries Header.SIZE items) 0 (by decide)
        (by omega) s with ⟨root, packs, held⟩ | ⟨reason, packs⟩
      · left
        refine ⟨⟨rootBlock, rootNew, old, old, false, root, none⟩, s.allocator, ?_, ?_, rfl, rfl, rfl,
          takes⟩
        · apply Routine.onFailure_ok
          rw [Routine.bind_ok _ _ _ _ _ packs]
          rfl
        · refine ⟨fun _ => ⟨rfl, all, ?_⟩, fun content given => nomatch given⟩
          rw [List.drop_zero, List.take_of_length_le (by omega)] at held
          exact held
      · right
        obtain ⟨after, cleaned, left⟩ := undone_cases a rootBlock rootNew _ reason s s false 0
          (Routine.bind_error _ _ _ _ _ packs) takes
        exact ⟨_, after, cleaned, left⟩
    · rename_i more
      rcases overflowFor_cases sup a rootBlock rootNew old wide s takes with
        ⟨block, middle, ran, large, small, nonzero, kept, taken⟩ | ⟨reason, ran⟩
      · rw [Routine.bind_ok _ _ _ _ _ (Routine.onFailure_ok _ _ _ _ _ ran)]
        rcases packBoth_cases sup o items attributes stores few rootBlock rootNew
          { s with allocator := middle } old block large more small nonzero kept with
          ⟨plan, packs, holds, sameRoot, sameNew, sameOld, sameBlock, sameFresh⟩ | ⟨reason, packs⟩
        · left
          refine ⟨plan, middle, Routine.onFailure_ok _ _ _ _ _ packs, holds, sameRoot, sameNew,
            sameOld, ?_⟩
          rw [sameRoot, sameNew, sameBlock, sameFresh]
          exact taken
        · right
          obtain ⟨after, cleaned, left⟩ := undone_cases a rootBlock rootNew _ reason
            { s with allocator := middle } _ (old == 0) block packs taken
          exact ⟨_, after, cleaned, left⟩
      · right
        obtain ⟨after, cleaned, left⟩ := undone_cases a rootBlock rootNew _ reason s s false 0
          ran takes
        refine ⟨reason, after, ?_, left⟩
        rw [Routine.bind_error _ _ _ _ _ cleaned]
  · right
    obtain ⟨after, cleaned, left⟩ := undone_cases a rootBlock rootNew _ reason s s false 0 ran takes
    refine ⟨reason, after, ?_, left⟩
    rw [Routine.bind_error _ _ _ _ _ cleaned]

/-- The same with the root block, which an inode without attributes gets first. -/
theorem prepareXattrs_cases (s : XattrState) (ready : Balloc.Ready s.allocator) :
    (∃ plan after, prepareXattrs sup o items s = (.ok plan, { s with allocator := after }) ∧
      plan.Holds sup items attributes ∧ plan.rootNew = (s.xattrBlock == 0) ∧
      (s.xattrBlock ≠ 0 → plan.rootBlock = s.xattrBlock) ∧
      plan.oldOverflowBlock = (if s.xattrBlock = 0 then 0
        else (s.buffers s.xattrBlock).get Header.overflowBlock) ∧
      Takes s.allocator after
        (takenBlocks plan.rootNew plan.rootBlock plan.overflowNew plan.overflowBlock)) ∨
    ∃ reason after, prepareXattrs sup o items s = (.error reason, { s with allocator := after }) ∧
      Takes s.allocator after [] := by
  rw [prepareXattrs, Routine.read_bind]
  by_cases bare : s.xattrBlock = 0
  · have new : (s.xattrBlock == 0) = true := by simpa using bare
    simp only [new, ↓reduceIte]
    rcases allocBlock_cases s s.allocator [] (Takes.refl ready) with ⟨block, middle, ran, taken⟩ | ran
    · rw [Routine.bind_ok _ _ _ _ _ ran]
      rcases packBlocks_cases sup o items attributes stores few s.allocator block true
        { s with allocator := middle } taken with
        ⟨plan, after, packs, holds, sameRoot, sameNew, sameOld, takes⟩ | ⟨reason, after, packs, left⟩
      · refine Or.inl ⟨plan, after, packs, holds, sameNew, fun used => absurd bare used, ?_, takes⟩
        rw [sameOld, if_pos bare, if_pos rfl]
      · exact Or.inr ⟨reason, after, packs, left⟩
    · right
      rw [Routine.bind_error _ _ _ _ _ ran]
      exact ⟨_, _, rfl, Takes.refl ready⟩
  · have used : (s.xattrBlock == 0) = false := by simpa using bare
    simp only [used, Bool.false_eq_true, ↓reduceIte, Routine.pure_bind]
    rcases packBlocks_cases sup o items attributes stores few s.allocator s.xattrBlock false s
      (Takes.refl ready) with
      ⟨plan, after, packs, holds, sameRoot, sameNew, sameOld, takes⟩ | ⟨reason, after, packs, left⟩
    · refine Or.inl ⟨plan, after, packs, holds, sameNew, fun _ => sameRoot, ?_, takes⟩
      rw [sameOld, if_neg bare]
      simp
    · exact Or.inr ⟨reason, after, packs, left⟩

end Packing

end Xattr

end Cryexts
