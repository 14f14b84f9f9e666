import Cryexts.Xattr.Storage

set_option autoImplicit false

namespace Cryexts

namespace Xattr

open Balloc (Allocator SameShape Switched blockBitmapUsed)

/-- The inode's attributes lie in its blocks, which are marked used. -/
structure HoldsXattrs (sup : XattrSuper) (s : XattrState) (layout : Layout) : Prop where
  ready : Balloc.Ready s.allocator
  bare : s.xattrBlock = 0 → layout.first = [] ∧ layout.overflowBlock = 0
  root : s.xattrBlock ≠ 0 → blockBitmapUsed s.allocator s.xattrBlock = true ∧
    BlockHeld (s.buffers s.xattrBlock) layout.overflowBlock layout.first
  second : layout.overflowBlock ≠ 0 → sup.largeXattr = true ∧
    layout.overflowBlock ≠ s.xattrBlock ∧
    blockBitmapUsed s.allocator layout.overflowBlock = true ∧
    BlockHeld (s.buffers layout.overflowBlock) 0 layout.rest
  alone : layout.overflowBlock = 0 → layout.rest = []
  few : layout.attributes.length ≤ XATTR_MAX_ITEMS

namespace HoldsXattrs

variable {sup : XattrSuper} {s : XattrState} {layout : Layout}

theorem first_few (holds : HoldsXattrs sup s layout) :
    layout.first.length ≤ XATTR_MAX_ITEMS := by
  have few := holds.few
  rw [Layout.attributes, List.length_append] at few
  omega

/-- The load returns what lies in the blocks. -/
theorem load (holds : HoldsXattrs sup s layout) :
    loadXattrs sup .calm s = (.ok layout.items, s) := by
  by_cases bare : s.xattrBlock = 0
  · obtain ⟨first, behind⟩ := holds.bare bare
    rw [load_bare sup s bare, Layout.items, Layout.attributes, first, holds.alone behind]
    rfl
  · obtain ⟨_, root⟩ := holds.root bare
    by_cases behind : layout.overflowBlock = 0
    · rw [load_first sup s bare layout.first layout.overflowBlock root holds.first_few behind,
        Layout.items, Layout.attributes, holds.alone behind, List.append_nil]
    · obtain ⟨large, _, _, second⟩ := holds.second behind
      have few := holds.few
      rw [Layout.attributes, List.length_append] at few
      rw [load_both sup s bare layout.first layout.rest layout.overflowBlock root holds.first_few
        large behind second few]
      rfl

/-- The overflow block that the root block names. -/
theorem overflow (holds : HoldsXattrs sup s layout) :
    (if s.xattrBlock = 0 then 0 else (s.buffers s.xattrBlock).get Header.overflowBlock) =
      layout.overflowBlock := by
  split
  · rename_i bare
    exact (holds.bare bare).2.symm
  · rename_i used
    exact (holds.root used).2.overflow

end HoldsXattrs

/-- What a call leaves as it was: every get and every block's state. -/
def Unchanged (sup : XattrSuper) (s t : XattrState) : Prop :=
  SameGets sup s t ∧ ∀ block, blockBitmapUsed t.allocator block = blockBitmapUsed s.allocator block

/-- The blocks after the overflow block of a plan has been written. -/
def overflowWritten (plan : Plan) (buffers : Nat → Block) : Nat → Block :=
  plan.second.elim buffers fun content => WriteLog.store buffers plan.overflowBlock content

/-- The attributes of a plan as they lie in its blocks. -/
def planLayout (plan : Plan) (items : List XattrItem) (attributes : List Attribute) : Layout :=
  plan.second.elim ⟨attributes, [], 0⟩ fun _ =>
    ⟨attributes.take (rootEntries Header.SIZE items), attributes.drop (rootEntries Header.SIZE items),
      plan.overflowBlock⟩

theorem planLayout_attributes (plan : Plan) (items : List XattrItem) (attributes : List Attribute) :
    (planLayout plan items attributes).attributes = attributes := by
  unfold planLayout
  cases plan.second with
  | none => simp [Layout.attributes]
  | some content => simp [Layout.attributes]

section Writes

variable (o : Outcomes)

theorem writeBlock_cases (block : Nat) (content : Block) (records writes : Option Errno)
    (s : XattrState) :
    ((records.isSome ∨ writes.isSome) ∧
      ∃ reason, writeBlock block content records writes s = (.error reason, s)) ∨
    (¬ (records.isSome ∨ writes.isSome) ∧ writeBlock block content records writes s =
      (.ok (), { s with buffers := WriteLog.store s.buffers block content })) := by
  rw [writeBlock, answer_bind]
  cases records with
  | some reason => exact Or.inl ⟨Or.inl rfl, _, rfl⟩
  | none =>
      rw [Option.elim, answer_bind]
      cases writes with
      | some reason => exact Or.inl ⟨Or.inr rfl, _, rfl⟩
      | none => exact Or.inr ⟨by simp, rfl⟩

/-- The overflow block cannot be written. -/
def OverflowFails (plan : Plan) : Prop :=
  plan.second.isSome ∧ (o.recordOverflow.isSome ∨ o.writeOverflow.isSome)

/-- The root block cannot be written. -/
def RootFails : Prop := o.recordRoot.isSome ∨ o.writeRoot.isSome

theorem writeBlocks_cases (plan : Plan) (s : XattrState) :
    (OverflowFails o plan ∧ ∃ reason, writeBlocks o plan s =
        (.error reason, s)) ∨
    (¬ OverflowFails o plan ∧ RootFails o ∧ ∃ reason, writeBlocks o plan s =
        (.error reason, { s with buffers := overflowWritten plan s.buffers })) ∨
    (¬ OverflowFails o plan ∧ ¬ RootFails o ∧ writeBlocks o plan s =
        (.ok (), { s with
          buffers := WriteLog.store (overflowWritten plan s.buffers) plan.rootBlock plan.root })) := by
  have root : ∀ t : XattrState, (RootFails o ∧
      ∃ reason, writeBlock plan.rootBlock plan.root o.recordRoot o.writeRoot t = (.error reason, t)) ∨
      (¬ RootFails o ∧ writeBlock plan.rootBlock plan.root o.recordRoot o.writeRoot t =
        (.ok (), { t with buffers := WriteLog.store t.buffers plan.rootBlock plan.root })) :=
    fun t => writeBlock_cases plan.rootBlock plan.root o.recordRoot o.writeRoot t
  unfold OverflowFails overflowWritten writeBlocks
  cases plan.second with
  | none =>
      simp only [Option.isSome_none, Bool.false_eq_true, false_and, not_false_eq_true, true_and,
        false_or, Option.elim]
      exact root s
  | some content =>
      simp only [Option.isSome_some, true_and, Option.elim]
      rcases writeBlock_cases plan.overflowBlock content o.recordOverflow o.writeOverflow s with
        ⟨fails, reason, ran⟩ | ⟨holds, ran⟩
      · exact Or.inl ⟨fails, reason, Routine.bind_error _ _ _ _ _ ran⟩
      · rw [Routine.bind_ok _ _ _ _ _ ran]
        exact Or.inr ((root _).imp (fun fails => ⟨holds, fails⟩) fun done => ⟨holds, done⟩)

/-- The inode in memory and the blocks when a plan has been carried out. -/
def carriedOut (plan : Plan) (s : XattrState) : XattrState :=
  { s with
    xattrBlock := plan.rootBlock
    buffers := WriteLog.store (overflowWritten plan s.buffers) plan.rootBlock plan.root }

@[simp] theorem carriedOut_root (plan : Plan) (s : XattrState) :
    (carriedOut plan s).buffers plan.rootBlock = plan.root :=
  WriteLog.store_same _ _ _

theorem carriedOut_overflow (plan : Plan) (s : XattrState) (content : Block)
    (second : plan.second = some content) (apart : plan.overflowBlock ≠ plan.rootBlock) :
    (carriedOut plan s).buffers plan.overflowBlock = content := by
  change WriteLog.store (overflowWritten plan s.buffers) plan.rootBlock plan.root
    plan.overflowBlock = content
  rw [WriteLog.store_other _ _ _ _ apart, overflowWritten, second]
  exact WriteLog.store_same _ _ _

/-- Where the storing of a plan ends, from the state before its blocks were taken. -/
theorem storeXattrs_cases (plan : Plan) (s : XattrState) (after : Allocator)
    (takes : Takes s.allocator after
      (takenBlocks plan.rootNew plan.rootBlock plan.overflowNew plan.overflowBlock))
    (old : plan.oldOverflowBlock ≠ 0 →
      Balloc.dataBlockValid after plan.oldOverflowBlock = true) :
    (OverflowFails o plan ∧ ∃ reason left, storeXattrs o plan { s with allocator := after } =
      (.error reason, { s with allocator := left }) ∧ Takes s.allocator left []) ∨
    (¬ OverflowFails o plan ∧ RootFails o ∧ ∃ reason left,
      storeXattrs o plan { s with allocator := after } =
        (.error reason, { s with allocator := left, buffers := overflowWritten plan s.buffers }) ∧
      Takes s.allocator left []) ∨
    (¬ OverflowFails o plan ∧ ¬ RootFails o ∧ o.writeInode.isSome ∧ ∃ reason,
      storeXattrs o plan { s with allocator := after } =
        (.error reason, { carriedOut plan s with allocator := after })) ∨
    (¬ OverflowFails o plan ∧ ¬ RootFails o ∧ o.writeInode = none ∧ ∃ left,
      storeXattrs o plan { s with allocator := after } =
        (.ok (), { carriedOut plan s with
          allocator := left
          slotXattrBlock := plan.rootBlock
          slotPolicyId := s.policyId }) ∧ Balloc.Ready left ∧
      (plan.second = none ∧ plan.oldOverflowBlock ≠ 0 →
        Switched after left plan.oldOverflowBlock false) ∧
      (¬ (plan.second = none ∧ plan.oldOverflowBlock ≠ 0) → left = after)) := by
  rw [storeXattrs]
  rcases writeBlocks_cases o plan { s with allocator := after } with
    ⟨fails, reason, ran⟩ | ⟨passes, fails, reason, ran⟩ | ⟨passes, done, ran⟩
  · obtain ⟨left, cleaned, given⟩ := undone_cases s.allocator plan.rootBlock plan.rootNew _ reason
      _ _ plan.overflowNew plan.overflowBlock ran takes
    exact Or.inl ⟨fails, reason, left, Routine.bind_error _ _ _ _ _ cleaned, given⟩
  · obtain ⟨left, cleaned, given⟩ := undone_cases s.allocator plan.rootBlock plan.rootNew _ reason
      _ _ plan.overflowNew plan.overflowBlock ran takes
    exact Or.inr (Or.inl ⟨passes, fails, reason, left, Routine.bind_error _ _ _ _ _ cleaned, given⟩)
  · rw [Routine.bind_ok _ _ _ _ _ (Routine.onFailure_ok _ _ _ _ _ ran), Routine.modify_bind,
      writeInodeToDisk]
    right
    right
    cases inode : o.writeInode with
    | some reason =>
        refine Or.inl ⟨passes, done, rfl, .error reason, ?_⟩
        rfl
    | none =>
        refine Or.inr ⟨passes, done, rfl, ?_⟩
        by_cases last : plan.second = none ∧ plan.oldOverflowBlock ≠ 0
        · obtain ⟨left, freed, ready, switched⟩ := freeBlock_cases
            { carriedOut plan s with
              allocator := after
              slotXattrBlock := plan.rootBlock
              slotPolicyId := s.policyId } takes.ready plan.oldOverflowBlock (old last.2)
          refine ⟨left, ?_, ready, fun _ => switched, fun other => absurd last other⟩
          rw [if_pos (by simpa using last)]
          exact freed
        · refine ⟨after, ?_, takes.ready, fun given => absurd given last, fun _ => rfl⟩
          rw [if_neg (by simpa using last)]
          rfl

end Writes

/-- A plan for the items, with its blocks taken. -/
structure Prepared (sup : XattrSuper) (s : XattrState) (layout : Layout) (items : List XattrItem)
    (attributes : List Attribute) (plan : Plan) (after : Allocator) : Prop where
  holds : plan.Holds sup items attributes
  rootNew : plan.rootNew = (s.xattrBlock == 0)
  root : s.xattrBlock ≠ 0 → plan.rootBlock = s.xattrBlock
  old : plan.oldOverflowBlock = layout.overflowBlock
  takes : Takes s.allocator after
    (takenBlocks plan.rootNew plan.rootBlock plan.overflowNew plan.overflowBlock)

section Prepares

variable {sup : XattrSuper} {s : XattrState} {layout : Layout} (holds : HoldsXattrs sup s layout)
  {items : List XattrItem} {attributes : List Attribute}
  (stores : List.Forall₂ Stores items attributes) (few : attributes.length ≤ XATTR_MAX_ITEMS)

include holds in
theorem HoldsXattrs.prepared (o : Outcomes) (stores : List.Forall₂ Stores items attributes)
    (few : attributes.length ≤ XATTR_MAX_ITEMS) :
    (∃ plan after, prepareXattrs sup o items s = (.ok plan, { s with allocator := after }) ∧
      Prepared sup s layout items attributes plan after) ∨
    ∃ reason after, prepareXattrs sup o items s = (.error reason, { s with allocator := after }) ∧
      Takes s.allocator after [] := by
  rcases prepareXattrs_cases sup o items attributes stores few s holds.ready with
    ⟨plan, after, ran, packs, rootNew, root, old, takes⟩ | ⟨reason, after, ran, takes⟩
  · rw [holds.overflow] at old
    exact Or.inl ⟨plan, after, ran, packs, rootNew, root, old, takes⟩
  · exact Or.inr ⟨reason, after, ran, takes⟩

variable {plan : Plan} {after : Allocator}
  (prepared : Prepared sup s layout items attributes plan after)

theorem Takes.keeps {a b : Allocator} {blocks : List Nat} (takes : Takes a b blocks) (block : Nat)
    (used : blockBitmapUsed a block = true) : blockBitmapUsed b block = true := by
  rw [takes.used, used, Bool.true_or]

theorem Takes.taken {a b : Allocator} {blocks : List Nat} (takes : Takes a b blocks) (block : Nat)
    (member : block ∈ blocks) : blockBitmapUsed b block = true := by
  rw [takes.used, decide_eq_true member, Bool.or_true]

theorem Takes.apart {a b : Allocator} {blocks : List Nat} (takes : Takes a b blocks)
    (block other : Nat) (member : block ∈ blocks) (used : blockBitmapUsed a other = true) :
    block ≠ other := by
  intro same
  have free := (takes.free block member).2
  rw [same, used] at free
  cases free

theorem overflow_taken (fresh : plan.overflowNew = true) : plan.overflowBlock ∈
    takenBlocks plan.rootNew plan.rootBlock plan.overflowNew plan.overflowBlock := by
  rw [takenBlocks, fresh]
  simp

include prepared

theorem Prepared.root_taken (bare : s.xattrBlock = 0) : plan.rootBlock ∈
    takenBlocks plan.rootNew plan.rootBlock plan.overflowNew plan.overflowBlock := by
  rw [takenBlocks, prepared.rootNew, bare]
  simp

include holds

theorem Prepared.root_used : plan.rootBlock ≠ 0 ∧ blockBitmapUsed after plan.rootBlock = true := by
  by_cases bare : s.xattrBlock = 0
  · have member := prepared.root_taken bare
    have valid := prepared.takes.valid _ member
    exact ⟨(Balloc.valid_positive valid).ne', prepared.takes.taken _ member⟩
  · rw [prepared.root bare]
    exact ⟨bare, prepared.takes.keeps _ (holds.root bare).1⟩

theorem Prepared.overflow_used (content : Block) (second : plan.second = some content) :
    plan.overflowBlock ≠ plan.rootBlock ∧ blockBitmapUsed after plan.overflowBlock = true := by
  obtain ⟨_, _, fresh, kept, _, _, _⟩ := prepared.holds.both content second
  rw [prepared.old] at fresh kept
  by_cases behind : layout.overflowBlock = 0
  · have new : plan.overflowNew = true := by rw [fresh, behind]; rfl
    have member := overflow_taken new
    refine ⟨?_, prepared.takes.taken _ member⟩
    by_cases bare : s.xattrBlock = 0
    · have distinct := prepared.takes.nodup
      rw [takenBlocks, prepared.rootNew, bare, new] at distinct
      simp only [beq_self_eq_true, ↓reduceIte, List.singleton_append, List.nodup_cons,
        List.mem_singleton] at distinct
      exact fun same => distinct.1 same.symm
    · rw [prepared.root bare]
      exact prepared.takes.apart _ _ member (holds.root bare).1
  · obtain ⟨_, apart, used, _⟩ := holds.second behind
    rw [kept behind]
    refine ⟨?_, prepared.takes.keeps _ used⟩
    by_cases bare : s.xattrBlock = 0
    · exact absurd (holds.bare bare).2 behind
    · rw [prepared.root bare]
      exact apart

theorem Prepared.old_used (behind : plan.oldOverflowBlock ≠ 0) :
    blockBitmapUsed after plan.oldOverflowBlock = true ∧
      plan.oldOverflowBlock ≠ plan.rootBlock := by
  rw [prepared.old] at behind ⊢
  obtain ⟨_, apart, used, _⟩ := holds.second behind
  refine ⟨prepared.takes.keeps _ used, ?_⟩
  by_cases bare : s.xattrBlock = 0
  · exact absurd (holds.bare bare).2 behind
  · rw [prepared.root bare]
    exact apart

include few in
/-- The blocks of a plan that has been carried out hold its attributes. -/
theorem Prepared.carriedOut_holds (t : XattrState) (sameRoot : t.xattrBlock = plan.rootBlock)
    (sameBuffers : t.buffers = (carriedOut plan s).buffers) (ready : Balloc.Ready t.allocator)
    (root : blockBitmapUsed t.allocator plan.rootBlock = true)
    (overflow : ∀ content, plan.second = some content →
      blockBitmapUsed t.allocator plan.overflowBlock = true) :
    HoldsXattrs sup t (planLayout plan items attributes) := by
  have used := prepared.root_used holds
  cases second : plan.second with
  | none =>
      obtain ⟨_, _, held⟩ := prepared.holds.alone second
      have layoutIs : planLayout plan items attributes = ⟨attributes, [], 0⟩ := by
        rw [planLayout, second]
        rfl
      rw [layoutIs]
      refine ⟨ready, ?_, ?_, fun behind => absurd rfl behind, fun _ => rfl, ?_⟩
      · intro bare
        rw [sameRoot] at bare
        exact absurd bare used.1
      · intro _
        rw [sameRoot, sameBuffers, carriedOut_root]
        exact ⟨root, held⟩
      · simpa [Layout.attributes] using few
  | some content =>
      obtain ⟨large, _, _, _, nonzero, rootHeld, secondHeld⟩ := prepared.holds.both content second
      obtain ⟨apart, _⟩ := prepared.overflow_used holds content second
      have layoutIs : planLayout plan items attributes =
          ⟨attributes.take (rootEntries Header.SIZE items),
            attributes.drop (rootEntries Header.SIZE items), plan.overflowBlock⟩ := by
        rw [planLayout, second]
        rfl
      rw [layoutIs]
      refine ⟨ready, ?_, ?_, ?_, fun bare => absurd bare nonzero, ?_⟩
      · intro bare
        rw [sameRoot] at bare
        exact absurd bare used.1
      · intro _
        rw [sameRoot, sameBuffers, carriedOut_root]
        exact ⟨root, rootHeld⟩
      · intro _
        rw [sameRoot, sameBuffers, carriedOut_overflow plan s content second apart]
        exact ⟨large, apart, overflow content second, secondHeld⟩
      · simpa [Layout.attributes] using few

include few in
/-- The same once the old overflow block has been given back. -/
theorem Prepared.stored_holds (left : Allocator) (ready : Balloc.Ready left)
    (freed : plan.second = none ∧ plan.oldOverflowBlock ≠ 0 →
      Switched after left plan.oldOverflowBlock false)
    (kept : ¬ (plan.second = none ∧ plan.oldOverflowBlock ≠ 0) → left = after) :
    HoldsXattrs sup
      { carriedOut plan s with
        allocator := left
        slotXattrBlock := plan.rootBlock
        slotPolicyId := s.policyId } (planLayout plan items attributes) := by
  have keeps : ∀ block, block ≠ plan.oldOverflowBlock ∨ plan.second.isSome →
      blockBitmapUsed after block = true → blockBitmapUsed left block = true := by
    intro block other used
    by_cases gives : plan.second = none ∧ plan.oldOverflowBlock ≠ 0
    · rcases other with other | both
      · rw [(freed gives).others block other, used]
      · rw [gives.1] at both
        cases both
    · rw [kept gives, used]
  have rootUsed := prepared.root_used holds
  have apart : plan.rootBlock ≠ plan.oldOverflowBlock := by
    by_cases behind : plan.oldOverflowBlock = 0
    · rw [behind]
      exact rootUsed.1
    · exact (prepared.old_used holds behind).2.symm
  exact prepared.carriedOut_holds holds few _ rfl rfl ready
    (keeps plan.rootBlock (Or.inl apart) rootUsed.2)
    fun content second => keeps plan.overflowBlock (Or.inr (by rw [second]; rfl))
      (prepared.overflow_used holds content second).2

end Prepares

end Xattr

end Cryexts
