import Cryexts.Xattr.Changes

set_option autoImplicit false

namespace Cryexts

namespace Xattr

open Balloc (Allocator SameShape Switched Freed blockBitmapUsed)

section Frames

variable {sup : XattrSuper} {s t : XattrState} {layout : Layout}

theorem sameGets_of_holds (before after : Layout) (first : HoldsXattrs sup s before)
    (second : HoldsXattrs sup t after) (policy : t.policyId = s.policyId)
    (same : SameValues after.items before.items) : SameGets sup s t := by
  apply sameGets_of_values sup s t before.items after.items _ _ policy same
  · rw [first.load]
  · rw [second.load]

theorem values_of_holds (before after : Layout) (first : HoldsXattrs sup s before)
    (second : HoldsXattrs sup t after) (xattr : sup.xattr = true) (same : SameGets sup s t) :
    SameValues after.items before.items := by
  apply values_of_sameGets sup s t before.items after.items xattr _ _ same
  · rw [first.load]
  · rw [second.load]

/-- Blocks taken and writes elsewhere leave the attributes where they are. -/
theorem HoldsXattrs.frame (holds : HoldsXattrs sup s layout) {blocks : List Nat}
    (takes : Takes s.allocator t.allocator blocks) (block : t.xattrBlock = s.xattrBlock)
    (root : s.xattrBlock ≠ 0 → t.buffers s.xattrBlock = s.buffers s.xattrBlock)
    (second : layout.overflowBlock ≠ 0 →
      t.buffers layout.overflowBlock = s.buffers layout.overflowBlock) :
    HoldsXattrs sup t layout := by
  refine ⟨takes.ready, ?_, ?_, ?_, holds.alone, holds.few⟩
  · rw [block]
    exact holds.bare
  · intro used
    rw [block] at used ⊢
    rw [root used]
    exact (holds.root used).imp_left (takes.keeps _)
  · intro behind
    obtain ⟨large, apart, used, held⟩ := holds.second behind
    rw [block, second behind]
    exact ⟨large, apart, takes.keeps _ used, held⟩

theorem HoldsXattrs.unchanged (holds : HoldsXattrs sup s layout)
    (takes : Takes s.allocator t.allocator []) (block : t.xattrBlock = s.xattrBlock)
    (policy : t.policyId = s.policyId)
    (root : s.xattrBlock ≠ 0 → t.buffers s.xattrBlock = s.buffers s.xattrBlock)
    (second : layout.overflowBlock ≠ 0 →
      t.buffers layout.overflowBlock = s.buffers layout.overflowBlock) : Unchanged sup s t :=
  ⟨sameGets_of_holds layout layout holds (holds.frame takes block root second) policy
    fun _ _ _ => rfl, takes.same⟩

theorem Unchanged.refl (sup : XattrSuper) (s : XattrState) : Unchanged sup s s :=
  ⟨fun _ _ => rfl, fun _ => rfl⟩

end Frames

section Freeing

variable {sup : XattrSuper} (o : Outcomes) {s : XattrState} {layout : Layout}
  (holds : HoldsXattrs sup s layout) (used : s.xattrBlock ≠ 0)

include holds used

/-- The storage is freed whole, or nothing happens. -/
theorem freeXattrStorage_cases :
    ((o.rootBuffer.isSome ∨ o.reread.isSome) ∧
      ∃ reason, freeXattrStorage o s = (.error reason, s)) ∨
    (¬ (o.rootBuffer.isSome ∨ o.reread.isSome) ∧ ∃ after,
      freeXattrStorage o s = (.ok (), { s with xattrBlock := 0, allocator := after }) ∧
      Balloc.Ready after ∧ blockBitmapUsed after s.xattrBlock = false) := by
  obtain ⟨rootUsed, root⟩ := holds.root used
  rw [freeXattrStorage, Routine.read_bind, if_neg used, answer_bind]
  cases o.rootBuffer with
  | some reason => exact Or.inl ⟨Or.inl rfl, _, rfl⟩
  | none =>
      rw [Option.elim, answer_bind]
      cases o.reread with
      | some reason => exact Or.inl ⟨Or.inr rfl, _, rfl⟩
      | none =>
          rw [Option.elim]
          refine Or.inr ⟨by simp, ?_⟩
          rw [root.overflow]
          -- The root block goes last, whether there is an overflow block or not.
          have last : ∀ middle : Allocator, Balloc.Ready middle → SameShape s.allocator middle →
              ∃ after, (do
                freeBlock s.xattrBlock
                Routine.modify fun s : XattrState => { s with xattrBlock := 0 } : XattrOp Unit)
                  { s with allocator := middle } =
                (.ok (), { s with xattrBlock := 0, allocator := after }) ∧ Balloc.Ready after ∧
                blockBitmapUsed after s.xattrBlock = false := by
            intro middle ready shape
            obtain ⟨after, ran, still, switched⟩ := freeBlock_cases
              { s with allocator := middle } ready s.xattrBlock
              (by rw [shape.dataBlockValid_eq]; exact Balloc.valid_of_used rootUsed)
            refine ⟨after, ?_, still, switched.here⟩
            rw [Routine.bind_ok _ _ _ _ _ ran]
            rfl
          by_cases behind : layout.overflowBlock = 0
          · rw [if_pos behind]
            exact last s.allocator holds.ready (SameShape.refl _)
          · obtain ⟨_, _, overflowUsed, _⟩ := holds.second behind
            obtain ⟨middle, ran, ready, switched⟩ := freeBlock_cases s holds.ready
              layout.overflowBlock (Balloc.valid_of_used overflowUsed)
            rw [if_neg behind, Routine.bind_ok _ _ _ _ _ ran]
            exact last middle ready switched.shape

end Freeing

section Sets

variable (sup : XattrSuper) (o : Outcomes) (s : XattrState) (layout : Layout) (call : SetCall)

/-- The handler stops before the transaction, or has the changed items. -/
theorem nextItems_cases (holds : HoldsXattrs sup s layout) (named : call.name ≠ []) :
    (∃ reason, nextItems sup o call s = (.error reason, s)) ∨
    (sup.xattr = true ∧ ∃ items changed, nextItems sup o call s = (.ok items, s) ∧
      Changes call layout.attributes changed ∧ List.Forall₂ Stores items changed ∧
      changed.length ≤ XATTR_MAX_ITEMS) := by
  rw [nextItems]
  split
  · exact Or.inl ⟨_, rfl⟩
  · rename_i xattr
    split
    · exact Or.inl ⟨_, rfl⟩
    · rename_i short
      rcases loadXattrs_cases sup o s with ⟨reason, ran⟩ | ran
      · exact Or.inl ⟨reason, Routine.bind_error _ _ _ _ _ ran⟩
      · rw [holds.load] at ran
        rw [Routine.bind_ok _ _ _ _ _ ran]
        rcases changeItems_cases call named (by omega) o (items_store layout.attributes) holds.few s
          with failed | ⟨items, changed, changes⟩
        · exact Or.inl failed
        · exact Or.inr ⟨by simpa using xattr, items, changed, changes⟩

/-- What an overflow block with new content beside the old root block comes to. -/
def MixedSame (items : List XattrItem) : Prop :=
  layout.first.length + (items.length - rootEntries Header.SIZE items) ≤ XATTR_MAX_ITEMS ∧
    SameValues (layout.first.map Attribute.item ++ items.drop (rootEntries Header.SIZE items))
      layout.items

/-- No block has been taken for a plan, and none is given back at its end. -/
def SameBlocks (plan : Plan) : Prop :=
  plan.rootNew = false ∧ plan.overflowNew = false ∧
    (o.writeInode.isSome ∨ plan.second.isSome ∨ plan.oldOverflowBlock = 0)

/-- A failure while a plan is stored does no harm: it comes before a block has been overwritten, or
what is overwritten makes no difference. -/
def PlanHarmless (items : List XattrItem) (plan : Plan) : Prop :=
  OverflowFails o plan ∨
    (RootFails o ∧ (plan.second = none ∨ plan.overflowNew = true ∨ MixedSame layout items)) ∨
    (¬ RootFails o ∧ SameBlocks o plan ∧ SameValues items layout.items)

/-- A failed call of the set handler does no harm. -/
def Harmless : Prop :=
  if call.name = POLICY_NAME then
    ∀ policy, o.items = none → sup.policy = true → o.begins = none →
      policyOf call.value = .ok policy → policy ≠ s.policyId →
      ¬ (sup.policyTable.isSome ∧ policyExists sup policy = false) → sup.hasData = true
  else
    ∀ items, o.items = none → call.name ≠ [] → (nextItems sup o call s).1 = .ok items →
      o.begins = none →
      (items = [] → o.rootBuffer.isSome ∨ o.reread.isSome) ∧
      (items ≠ [] → ∀ plan t, prepareXattrs sup o items s = (.ok plan, t) →
        PlanHarmless o layout items plan)

end Sets

section Plans

variable {sup : XattrSuper} {o : Outcomes} {s : XattrState} {layout : Layout}
  (holds : HoldsXattrs sup s layout) {items : List XattrItem} {changed : List Attribute}
  (stores : List.Forall₂ Stores items changed) (few : changed.length ≤ XATTR_MAX_ITEMS)
  {plan : Plan} {after left : Allocator}
  (prepared : Prepared sup s layout items changed plan after)

include stores in
theorem sameValues_items (other : List XattrItem) :
    SameValues items other ↔ SameValues (changed.map Attribute.item) other := by
  unfold SameValues
  simp only [valueOf_items stores]

include holds stores prepared in
/-- The old overflow block has been overwritten, and the root block has not. -/
theorem mixed_iff (xattr : sup.xattr = true) (content : Block) (second : plan.second = some content)
    (kept : plan.overflowNew = false) (takes : Takes s.allocator left []) :
    Unchanged sup s { s with allocator := left, buffers := overflowWritten plan s.buffers } ↔
      MixedSame layout items := by
  obtain ⟨large, _, fresh, same, nonzero, _, secondHeld⟩ := prepared.holds.both content second
  have lengths := stores.length_eq
  have behind : layout.overflowBlock ≠ 0 := by
    rw [← prepared.old]
    intro bare
    rw [kept, bare] at fresh
    cases fresh
  have block : plan.overflowBlock = layout.overflowBlock := by
    rw [same (by rw [prepared.old]; exact behind), prepared.old]
  obtain ⟨_, apart, overflowUsed, _⟩ := holds.second behind
  have bound : s.xattrBlock ≠ 0 := fun bare => behind (holds.bare bare).2
  have rootSame : overflowWritten plan s.buffers s.xattrBlock = s.buffers s.xattrBlock := by
    rw [overflowWritten, second]
    exact WriteLog.store_other _ _ _ _ (by rw [block]; exact apart.symm)
  have overflowIs : overflowWritten plan s.buffers layout.overflowBlock = content := by
    rw [overflowWritten, second, ← block]
    exact WriteLog.store_same _ _ _
  have rootHeld : BlockHeld (overflowWritten plan s.buffers s.xattrBlock) layout.overflowBlock
      layout.first := by
    rw [rootSame]
    exact (holds.root bound).2
  have overflowHeld : BlockHeld (overflowWritten plan s.buffers layout.overflowBlock) 0
      (changed.drop (rootEntries Header.SIZE items)) := by
    rw [overflowIs]
    exact secondHeld
  have length : (changed.drop (rootEntries Header.SIZE items)).length =
      items.length - rootEntries Header.SIZE items := by
    rw [List.length_drop, lengths]
  by_cases room : layout.first.length + (items.length - rootEntries Header.SIZE items) ≤
      XATTR_MAX_ITEMS
  · -- The load finds the old first part and the new second one.
    have mixed : HoldsXattrs sup
        { s with allocator := left, buffers := overflowWritten plan s.buffers }
        ⟨layout.first, changed.drop (rootEntries Header.SIZE items), layout.overflowBlock⟩ := by
      refine ⟨takes.ready, holds.bare, fun _ => ⟨takes.keeps _ (holds.root bound).1, rootHeld⟩,
        fun _ => ⟨large, apart, takes.keeps _ overflowUsed, overflowHeld⟩,
        fun bare => absurd bare behind, ?_⟩
      rw [Layout.attributes, List.length_append, length]
      exact room
    have storesMixed : List.Forall₂ Stores
        (layout.first.map Attribute.item ++ items.drop (rootEntries Header.SIZE items))
        (layout.first ++ changed.drop (rootEntries Header.SIZE items)) :=
      List.rel_append (items_store _) (List.forall₂_drop _ stores)
    rw [MixedSame, sameValues_items storesMixed]
    constructor
    · rintro ⟨same, _⟩
      exact ⟨room, values_of_holds layout _ holds mixed xattr same⟩
    · rintro ⟨_, same⟩
      exact ⟨sameGets_of_holds layout _ holds mixed rfl same, takes.same⟩
  · constructor
    · rintro ⟨same, _⟩
      refine absurd same (not_sameGets_of_error sup _ _ layout.items xattr ?_ ?_)
      · rw [holds.load]
      · rw [load_many sup
          { s with allocator := left, buffers := overflowWritten plan s.buffers } bound layout.first
          (changed.drop (rootEntries Header.SIZE items)) layout.overflowBlock rootHeld
          holds.first_few large behind overflowHeld (by rw [length]; omega)]
    · exact fun mixed => absurd mixed.1 room

include prepared in
theorem taken_iff : (∀ block, blockBitmapUsed after block = blockBitmapUsed s.allocator block) ↔
    plan.rootNew = false ∧ plan.overflowNew = false := by
  have takes := prepared.takes
  constructor
  · intro same
    have none_taken : ∀ block, block ∉
        takenBlocks plan.rootNew plan.rootBlock plan.overflowNew plan.overflowBlock := by
      intro block member
      have free := (takes.free block member).2
      rw [← same, takes.taken block member] at free
      cases free
    have empty := List.eq_nil_iff_forall_not_mem.mpr none_taken
    rw [takenBlocks, List.append_eq_nil_iff] at empty
    simpa using empty
  · rintro ⟨root, overflow⟩
    rw [takenBlocks, root, overflow] at takes
    exact takes.same

include holds prepared in
/-- Whether a plan takes or gives back a block is what the blocks show at its end. -/
theorem sameBlocks_iff (inode : o.writeInode = none)
    (freed : plan.second = none ∧ plan.oldOverflowBlock ≠ 0 →
      Switched after left plan.oldOverflowBlock false)
    (kept : ¬ (plan.second = none ∧ plan.oldOverflowBlock ≠ 0) → left = after) :
    (∀ block, blockBitmapUsed left block = blockBitmapUsed s.allocator block) ↔
      SameBlocks o plan := by
  have rest : (o.writeInode.isSome ∨ plan.second.isSome ∨ plan.oldOverflowBlock = 0) ↔
      ¬ (plan.second = none ∧ plan.oldOverflowBlock ≠ 0) := by
    rw [inode]
    cases plan.second with
    | none => simp
    | some content => simp
  rw [SameBlocks, rest, ← and_assoc, ← taken_iff prepared]
  by_cases gives : plan.second = none ∧ plan.oldOverflowBlock ≠ 0
  · refine ⟨fun same => absurd (same plan.oldOverflowBlock) ?_, fun both => absurd gives both.2⟩
    have behind := gives.2
    rw [prepared.old] at behind
    rw [(freed gives).here, prepared.old, (holds.second behind).2.2.1]
    simp
  · rw [kept gives]
    exact ⟨fun same => ⟨same, gives⟩, And.left⟩

include holds stores few prepared in
/-- What a run that has stored a plan and then fails has done. -/
theorem stored_unchanged_iff (xattr : sup.xattr = true) (reason : Stop Errno) (t : XattrState)
    (ran : (do
      storeXattrs o plan
      answer o.commits : XattrOp Unit) { s with allocator := after } = (.error reason, t)) :
    Unchanged sup s t ↔ PlanHarmless o layout items plan := by
  have old : plan.oldOverflowBlock ≠ 0 →
      Balloc.dataBlockValid after plan.oldOverflowBlock = true :=
    fun behind => Balloc.valid_of_used (prepared.old_used holds behind).1
  have sameItems : SameValues items layout.items ↔
      SameValues (planLayout plan items changed).items layout.items := by
    rw [sameValues_items stores, Layout.items, Layout.items, planLayout_attributes]
  rcases storeXattrs_cases o plan s after prepared.takes old with
    ⟨fails, reason, left, stops, takes⟩ | ⟨passes, fails, reason, left, stops, takes⟩ |
    ⟨passes, done, inode, reason, stops⟩ | ⟨passes, done, inode, left, stops, ready, freed, kept⟩
  · rw [Routine.bind_error _ _ _ _ _ stops] at ran
    rw [← (Prod.mk.inj ran).2]
    exact ⟨fun _ => Or.inl fails, fun _ => holds.unchanged takes rfl rfl (fun _ => rfl) fun _ => rfl⟩
  · rw [Routine.bind_error _ _ _ _ _ stops] at ran
    rw [← (Prod.mk.inj ran).2]
    have harmless : PlanHarmless o layout items plan ↔
        plan.second = none ∨ plan.overflowNew = true ∨ MixedSame layout items := by
      rw [PlanHarmless]
      tauto
    rw [harmless]
    cases second : plan.second with
    | none =>
        refine ⟨fun _ => Or.inl rfl, fun _ => holds.unchanged takes rfl rfl (fun _ => ?_) fun _ => ?_⟩
        · rw [overflowWritten, second]
          rfl
        · rw [overflowWritten, second]
          rfl
    | some content =>
        obtain ⟨_, _, fresh, _⟩ := prepared.holds.both content second
        cases new : plan.overflowNew with
        | false =>
            rw [mixed_iff holds stores prepared xattr content second new takes]
            simp
        | true =>
            have member := overflow_taken new
            refine ⟨fun _ => Or.inr (Or.inl rfl),
              fun _ => holds.unchanged takes rfl rfl (fun bound => ?_) fun behind => ?_⟩
            · rw [overflowWritten, second]
              exact WriteLog.store_other _ _ _ _
                (prepared.takes.apart _ _ member (holds.root bound).1).symm
            · rw [overflowWritten, second]
              exact WriteLog.store_other _ _ _ _
                (prepared.takes.apart _ _ member (holds.second behind).2.2.1).symm
  · rw [Routine.bind_error _ _ _ _ _ stops] at ran
    rw [← (Prod.mk.inj ran).2]
    have stored := prepared.carriedOut_holds holds few { carriedOut plan s with allocator := after }
      rfl rfl prepared.takes.ready (prepared.root_used holds).2
      fun content second => (prepared.overflow_used holds content second).2
    have harmless : PlanHarmless o layout items plan ↔
        (plan.rootNew = false ∧ plan.overflowNew = false) ∧ SameValues items layout.items := by
      rw [PlanHarmless, SameBlocks]
      tauto
    rw [harmless, sameItems, ← taken_iff prepared]
    constructor
    · rintro ⟨gets, blocks⟩
      exact ⟨blocks, values_of_holds layout _ holds stored xattr gets⟩
    · rintro ⟨blocks, values⟩
      exact ⟨sameGets_of_holds layout _ holds stored rfl values, blocks⟩
  · rw [Routine.bind_ok _ _ _ _ _ stops] at ran
    have last : t = { carriedOut plan s with
        allocator := left
        slotXattrBlock := plan.rootBlock
        slotPolicyId := s.policyId } := by
      cases commits : o.commits with
      | none =>
          rw [commits] at ran
          cases ran
      | some reason =>
          rw [commits] at ran
          exact (Prod.mk.inj ran).2.symm
    have stored := prepared.stored_holds holds few left ready freed kept
    have harmless : PlanHarmless o layout items plan ↔
        SameBlocks o plan ∧ SameValues items layout.items := by
      rw [PlanHarmless]
      tauto
    rw [last, harmless, sameItems, ← sameBlocks_iff holds prepared inode freed kept]
    constructor
    · rintro ⟨gets, blocks⟩
      exact ⟨blocks, values_of_holds layout _ holds stored xattr gets⟩
    · rintro ⟨blocks, values⟩
      exact ⟨sameGets_of_holds layout _ holds stored rfl values, blocks⟩

end Plans

section Failures

variable (sup : XattrSuper) (o : Outcomes) (s : XattrState) (layout : Layout) (call : SetCall)

/-- The policy attribute's part of the set handler. -/
theorem policyXattrSet_cases (s : XattrState) :
    (∃ outcome, policyXattrSet sup o call.value s = (outcome, s) ∧
      ∀ policy, policyOf call.value = .ok policy → policy ≠ s.policyId →
        ¬ (sup.policyTable.isSome ∧ policyExists sup policy = false) → sup.hasData = true) ∨
    ∃ policy outcome after, policyXattrSet sup o call.value s = (outcome, after) ∧
      policyOf call.value = .ok policy ∧ policy ≠ s.policyId ∧
      ¬ (sup.policyTable.isSome ∧ policyExists sup policy = false) ∧ sup.hasData = false ∧
      after.policyId = policy := by
  rw [policyXattrSet]
  cases asked : policyOf call.value with
  | error reason => exact Or.inl ⟨_, rfl, fun policy given => nomatch given⟩
  | ok policy =>
      simp only
      rw [Routine.read_bind]
      split
      · rename_i same
        refine Or.inl ⟨_, rfl, ?_⟩
        intro other given differs
        rw [← Except.ok.inj given] at differs
        exact absurd same differs
      · rename_i differs
        split
        · rename_i refused
          refine Or.inl ⟨_, rfl, ?_⟩
          intro other given _ allowed
          rw [← Except.ok.inj given] at allowed
          exact absurd refused allowed
        · rename_i allowed
          split
          · rename_i data
            exact Or.inl ⟨_, rfl, fun _ _ _ _ => data⟩
          · rename_i empty
            right
            have bare : sup.hasData = false := by simpa using empty
            rw [Routine.modify_bind, writeInodeToDisk, answer_bind]
            cases o.writeInode with
            | some reason => exact ⟨policy, _, _, rfl, rfl, differs, allowed, bare, rfl⟩
            | none => exact ⟨policy, _, _, rfl, rfl, differs, allowed, bare, rfl⟩

theorem bind_answer (op : XattrOp Unit) (outcome : Option Errno) (s : XattrState) :
    ((do op; answer outcome) s).2 = (op s).2 := by
  cases ran : op s with
  | mk result after =>
      cases result with
      | ok done =>
          rw [Routine.bind_ok _ _ _ _ _ ran]
          exact Routine.answer_state _ after
      | error reason => rw [Routine.bind_error _ _ _ _ _ ran]

/-- The policy is kept by a call that does not get as far as changing it. -/
theorem policy_unchanged_iff (named : call.name = POLICY_NAME) :
    Unchanged sup s (userXattrSet sup o call s).2 ↔ Harmless sup o s layout call := by
  have other : call.name ≠ [] := by
    rw [named]
    decide
  rw [Harmless, if_pos named, userXattrSet, answer_bind]
  cases items : o.items with
  | some reason => exact ⟨fun _ _ given => (by cases given), fun _ => .refl sup s⟩
  | none =>
      rw [Option.elim, if_neg other, if_pos named]
      split
      · rename_i feature
        refine ⟨fun _ policy _ given => ?_, fun _ => .refl sup s⟩
        rw [feature] at given
        cases given
      · rename_i feature
        rw [answer_bind]
        cases begins : o.begins with
        | some reason => exact ⟨fun _ _ _ _ given => (nomatch given), fun _ => .refl sup s⟩
        | none =>
            rw [Option.elim, bind_answer]
            rcases policyXattrSet_cases sup o call s with
              ⟨outcome, ran, kept⟩ | ⟨policy, outcome, after, ran, asked, differs, allowed, bare, new⟩
            · rw [ran]
              exact ⟨fun _ policy _ _ _ => kept policy, fun _ => .refl sup s⟩
            · rw [ran]
              constructor
              · intro unchanged
                have same := policy_of_sameGets sup s after (by simpa using feature) unchanged.1
                rw [new] at same
                exact absurd same differs
              · intro harmless
                have data := harmless policy rfl (by simpa using feature) rfl asked differs allowed
                rw [bare] at data
                cases data

/-- What a failed transaction with the changed items has done. -/
theorem written_unchanged_iff (holds : HoldsXattrs sup s layout) {items : List XattrItem}
    {changed : List Attribute} (changes : Changes call layout.attributes changed)
    (stores : List.Forall₂ Stores items changed) (few : changed.length ≤ XATTR_MAX_ITEMS)
    (xattr : sup.xattr = true) (reason : Stop Errno)
    (failed : ((do
      writeXattrs sup o items
      answer o.commits : XattrOp Unit) s).1 = .error reason) :
    Unchanged sup s ((do
      writeXattrs sup o items
      answer o.commits : XattrOp Unit) s).2 ↔
      (items = [] → o.rootBuffer.isSome ∨ o.reread.isSome) ∧
      (items ≠ [] → ∀ plan t, prepareXattrs sup o items s = (.ok plan, t) →
        PlanHarmless o layout items plan) := by
  rw [bind_answer]
  by_cases last : items = []
  · have used : s.xattrBlock ≠ 0 := by
      intro bare
      have lengths := stores.length_eq
      rw [last, List.length_nil] at lengths
      have present := changes.not_nil (List.eq_nil_of_length_eq_zero lengths.symm)
      obtain ⟨first, behind⟩ := holds.bare bare
      rw [Layout.attributes, first, holds.alone behind] at present
      exact present rfl
    rw [writeXattrs, if_pos last]
    rcases freeXattrStorage_cases o holds used with
      ⟨fails, reason, ran⟩ | ⟨passes, after, ran, ready, freed⟩
    · rw [ran]
      exact ⟨fun _ => ⟨fun _ => fails, fun other => absurd last other⟩, fun _ => .refl sup s⟩
    · rw [ran]
      constructor
      · rintro ⟨_, blocks⟩
        have kept := blocks s.xattrBlock
        rw [freed, (holds.root used).1] at kept
        cases kept
      · rintro ⟨fails, _⟩
        exact absurd (fails last) passes
  · rw [writeXattrs, if_neg last] at failed ⊢
    rcases holds.prepared o stores few with ⟨plan, after, ran, prepared⟩ | ⟨reason, after, ran, takes⟩
    · rw [Routine.bind_assoc, Routine.bind_ok _ _ _ _ _ ran] at failed
      rw [Routine.bind_ok _ _ _ _ _ ran, ran]
      cases rest : (do
        storeXattrs o plan
        answer o.commits : XattrOp Unit) { s with allocator := after } with
      | mk outcome t =>
          rw [rest] at failed
          have failed : outcome = .error reason := failed
          have final : (storeXattrs o plan { s with allocator := after }).2 = t := by
            rw [← bind_answer _ o.commits, rest]
          rw [final, stored_unchanged_iff holds stores few prepared xattr reason t (by
            rw [rest, failed])]
          constructor
          · intro harmless
            refine ⟨fun other => absurd other last, fun _ other t given => ?_⟩
            rw [← Except.ok.inj (Prod.mk.inj given).1]
            exact harmless
          · rintro ⟨_, all⟩
            exact all last plan _ rfl
    · rw [Routine.bind_error _ _ _ _ _ ran, ran]
      refine ⟨fun _ => ⟨fun other => absurd other last, fun _ plan t given => (by cases given)⟩,
        fun _ => holds.unchanged takes rfl rfl (fun _ => rfl) fun _ => rfl⟩

/-- An inode without attributes. -/
def bareState : XattrState :=
  ⟨0, 3, 0, 3, Balloc.emptyAllocator, fun _ => .zero BLOCK_SIZE⟩

theorem bareState_holds (sup : XattrSuper) : HoldsXattrs sup bareState ⟨[], [], 0⟩ :=
  ⟨Or.inr Balloc.emptyAllocator_flat, fun _ => ⟨rfl, rfl⟩, fun used => absurd rfl used,
    fun behind => absurd rfl behind, fun _ => rfl, by decide⟩

def smallSuper : XattrSuper := ⟨true, true, true, none, false⟩

theorem shortName_ended : (0 : UInt8) ∉ [0x61] :=
  fun member => absurd (List.mem_singleton.mp member) (by decide)

def setCall : SetCall := ⟨[0x61], shortName_ended, some [0x62], false, false⟩

/-- Setting an attribute on an inode without any gets as far as the write of the inode. -/
def lostWrite : Outcomes := { Outcomes.calm with writeInode := some .eio }

end Failures

end Xattr

end Cryexts
