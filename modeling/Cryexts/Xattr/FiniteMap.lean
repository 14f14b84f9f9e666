import Cryexts.Xattr.Atomic

set_option autoImplicit false

namespace Cryexts

namespace Xattr

open Balloc (Allocator SameShape Switched Freed blockBitmapUsed)

/-- The attributes of an inode as a map from names to values, in the order of its blocks. -/
structure Represents (sup : XattrSuper) (s : XattrState)
    (values : List UInt8 → Option (List UInt8)) (layout : Layout) : Prop where
  holds : HoldsXattrs sup s layout
  unique : (layout.attributes.map Attribute.name).Nodup
  binds : binding layout.attributes = values

/-- What the handlers keep of an inode: its attributes represent a map, its policy is one of the
file system's, and its slot names its block unless the last attribute has been removed. -/
structure Kept (sup : XattrSuper) (s : XattrState)
    (values : List UInt8 → Option (List UInt8)) : Prop where
  represents : ∃ layout, Represents sup s values layout
  policy : policyExists sup s.policyId = true
  slotPolicy : s.slotPolicyId = s.policyId
  slot : s.slotXattrBlock = s.xattrBlock ∨ (s.xattrBlock = 0 ∧ values = fun _ => none)

/-- A failure while a plan is stored comes before the old blocks have been overwritten. -/
def PlanUndone (o : Outcomes) (plan : Plan) : Prop :=
  OverflowFails o plan ∨ (RootFails o ∧ (plan.second = none ∨ plan.overflowNew = true))

/-- A failed call of the set handler fails before it has overwritten a block of the inode or changed
the inode. -/
def Undone (sup : XattrSuper) (o : Outcomes) (s : XattrState) (call : SetCall) : Prop :=
  if call.name = POLICY_NAME then
    ∀ policy, o.items = none → sup.policy = true → o.begins = none →
      policyOf call.value = .ok policy → policy ≠ s.policyId →
      ¬ (sup.policyTable.isSome ∧ policyExists sup policy = false) → sup.hasData = true
  else
    ∀ items, o.items = none → call.name ≠ [] → (nextItems sup o call s).1 = .ok items →
      o.begins = none →
      (items = [] → o.rootBuffer.isSome ∨ o.reread.isSome) ∧
      (items ≠ [] → ∀ plan t, prepareXattrs sup o items s = (.ok plan, t) → PlanUndone o plan)

/-- Calls of the set handler on one inode, with whatever fails in them, and its leaving and
entering the inode cache, beside the map that the successful calls make. -/
inductive XattrRun (sup : XattrSuper) (s : XattrState)
    (values : List UInt8 → Option (List UInt8)) :
    XattrState → (List UInt8 → Option (List UInt8)) → Prop
  | start : XattrRun sup s values s values
  | set (o : Outcomes) (call : SetCall) (t u : XattrState)
      (current : List UInt8 → Option (List UInt8)) (before : XattrRun sup s values t current)
      (other : call.name ≠ POLICY_NAME) (ran : userXattrSet sup o call t = (.ok (), u)) :
      XattrRun sup s values u (updated call current)
  | setPolicy (o : Outcomes) (call : SetCall) (t u : XattrState)
      (current : List UInt8 → Option (List UInt8)) (before : XattrRun sup s values t current)
      (named : call.name = POLICY_NAME) (ran : userXattrSet sup o call t = (.ok (), u)) :
      XattrRun sup s values u current
  | failed (o : Outcomes) (call : SetCall) (reason : Stop Errno) (t u : XattrState)
      (current : List UInt8 → Option (List UInt8)) (before : XattrRun sup s values t current)
      (undone : Undone sup o t call) (ran : userXattrSet sup o call t = (.error reason, u)) :
      XattrRun sup s values u current
  | reload (outcome : Except (Stop Errno) Unit) (t u : XattrState)
      (current : List UInt8 → Option (List UInt8)) (before : XattrRun sup s values t current)
      (written : t.slotXattrBlock = t.xattrBlock) (ran : igetXattrs sup t = (outcome, u)) :
      XattrRun sup s values u current

/-- What the set handler is asked to make of the map. -/
def assigned (call : SetCall) (values : List UInt8 → Option (List UInt8)) :
    List UInt8 → Option (List UInt8) :=
  Function.update values call.name call.value

/-- Runs in which a value has a length that 16 bits count, a successful call leaves an attribute,
and a failing call has not overwritten a block of the inode or changed the inode. The inode leaves
and enters the inode cache at any point. -/
inductive CountedRun (sup : XattrSuper) (s : XattrState)
    (values : List UInt8 → Option (List UInt8)) :
    XattrState → (List UInt8 → Option (List UInt8)) → Prop
  | start : CountedRun sup s values s values
  | set (o : Outcomes) (call : SetCall) (t u : XattrState)
      (current : List UInt8 → Option (List UInt8)) (before : CountedRun sup s values t current)
      (other : call.name ≠ POLICY_NAME)
      (counted : ∀ value, call.value = some value → value.length < 2 ^ 16)
      (left : ∃ name, assigned call current name ≠ none)
      (ran : userXattrSet sup o call t = (.ok (), u)) :
      CountedRun sup s values u (assigned call current)
  | setPolicy (o : Outcomes) (call : SetCall) (t u : XattrState)
      (current : List UInt8 → Option (List UInt8)) (before : CountedRun sup s values t current)
      (named : call.name = POLICY_NAME) (ran : userXattrSet sup o call t = (.ok (), u)) :
      CountedRun sup s values u current
  | failed (o : Outcomes) (call : SetCall) (reason : Stop Errno) (t u : XattrState)
      (current : List UInt8 → Option (List UInt8)) (before : CountedRun sup s values t current)
      (undone : Undone sup o t call) (ran : userXattrSet sup o call t = (.error reason, u)) :
      CountedRun sup s values u current
  | reload (outcome : Except (Stop Errno) Unit) (t u : XattrState)
      (current : List UInt8 → Option (List UInt8)) (before : CountedRun sup s values t current)
      (ran : igetXattrs sup t = (outcome, u)) : CountedRun sup s values u current

section Steps

variable {sup : XattrSuper} {o : Outcomes} {s : XattrState} {layout : Layout} {call : SetCall}

/-- What the members of an inode and of its slot are like before and after. -/
structure SameMembers (s t : XattrState) : Prop where
  xattrBlock : t.xattrBlock = s.xattrBlock
  policyId : t.policyId = s.policyId
  slotXattrBlock : t.slotXattrBlock = s.slotXattrBlock
  slotPolicyId : t.slotPolicyId = s.slotPolicyId

theorem SameMembers.refl (s : XattrState) : SameMembers s s := ⟨rfl, rfl, rfl, rfl⟩

/-- A transaction that fails before it has overwritten a block leaves the attributes where they
are. -/
theorem written_kept (holds : HoldsXattrs sup s layout) {items : List XattrItem}
    {changed : List Attribute} (stores : List.Forall₂ Stores items changed)
    (few : changed.length ≤ XATTR_MAX_ITEMS) (used : items = [] → s.xattrBlock ≠ 0)
    (last : items = [] → o.rootBuffer.isSome ∨ o.reread.isSome)
    (undone : items ≠ [] → ∀ plan t, prepareXattrs sup o items s = (.ok plan, t) →
      PlanUndone o plan) :
    HoldsXattrs sup (writeXattrs sup o items s).2 layout ∧
      SameMembers s (writeXattrs sup o items s).2 := by
  rw [writeXattrs]
  by_cases empty : items = []
  · rw [if_pos empty]
    rcases freeXattrStorage_cases o holds (used empty) with ⟨_, reason, ran⟩ | ⟨passes, _⟩
    · rw [ran]
      exact ⟨holds, .refl s⟩
    · exact absurd (last empty) passes
  · rw [if_neg empty]
    rcases holds.prepared o stores few with ⟨plan, after, ran, prepared⟩ | ⟨reason, after, ran, takes⟩
    · rw [Routine.bind_ok _ _ _ _ _ ran]
      have undone := undone empty plan _ ran
      rcases storeXattrs_cases o plan s after prepared.takes
        (fun behind => Balloc.valid_of_used (prepared.old_used holds behind).1) with
        ⟨_, reason, left, stops, takes⟩ | ⟨passes, _, reason, left, stops, takes⟩ |
        ⟨passes, done, _⟩ | ⟨passes, done, _⟩
      · rw [stops]
        exact ⟨holds.frame takes rfl (fun _ => rfl) fun _ => rfl, rfl, rfl, rfl, rfl⟩
      · rw [stops]
        have fresh : plan.second = none ∨ plan.overflowNew = true := by
          rcases undone with fails | ⟨_, fresh⟩
          · exact absurd fails passes
          · exact fresh
        have away : ∀ block, blockBitmapUsed s.allocator block = true →
            overflowWritten plan s.buffers block = s.buffers block := by
          intro block used
          rw [overflowWritten]
          cases second : plan.second with
          | none => rfl
          | some content =>
              have new : plan.overflowNew = true := by
                rcases fresh with absent | new
                · rw [second] at absent
                  cases absent
                · exact new
              exact WriteLog.store_other _ _ _ _
                (prepared.takes.apart _ _ (overflow_taken new) used).symm
        exact ⟨holds.frame takes rfl (fun bound => away _ (holds.root bound).1)
          fun behind => away _ (holds.second behind).2.2.1, rfl, rfl, rfl, rfl⟩
      · rcases undone with fails | ⟨fails, _⟩
        · exact absurd fails passes
        · exact absurd fails done
      · rcases undone with fails | ⟨fails, _⟩
        · exact absurd fails passes
        · exact absurd fails done
    · rw [Routine.bind_error _ _ _ _ _ ran]
      exact ⟨holds.frame takes rfl (fun _ => rfl) fun _ => rfl, rfl, rfl, rfl, rfl⟩

/-- A transaction that succeeds leaves the changed attributes in the blocks, and in the slot of the
inode the block that holds them. -/
theorem written_holds (holds : HoldsXattrs sup s layout) {items : List XattrItem}
    {changed : List Attribute} (stores : List.Forall₂ Stores items changed)
    (few : changed.length ≤ XATTR_MAX_ITEMS) (used : items = [] → s.xattrBlock ≠ 0)
    (t : XattrState) (ran : writeXattrs sup o items s = (.ok (), t)) :
    ∃ after : Layout, HoldsXattrs sup t after ∧ after.attributes = changed ∧
      t.policyId = s.policyId ∧
      ((changed = [] ∧ t.xattrBlock = 0 ∧ t.slotXattrBlock = s.slotXattrBlock ∧
          t.slotPolicyId = s.slotPolicyId ∧
          blockBitmapUsed t.allocator s.xattrBlock = false) ∨
        (changed ≠ [] ∧ t.slotXattrBlock = t.xattrBlock ∧ t.slotPolicyId = s.policyId)) := by
  rw [writeXattrs] at ran
  by_cases empty : items = []
  · have none_left : changed = [] := by
      have lengths := stores.length_eq
      rw [empty] at lengths
      exact List.eq_nil_of_length_eq_zero lengths.symm
    rw [if_pos empty] at ran
    rcases freeXattrStorage_cases o holds (used empty) with
      ⟨_, reason, stops⟩ | ⟨_, after, ends, ready, freed⟩
    · rw [stops] at ran
      cases ran
    · rw [ends] at ran
      obtain rfl := (Prod.mk.inj ran).2
      refine ⟨⟨[], [], 0⟩, ⟨ready, fun _ => ⟨rfl, rfl⟩, fun bound => absurd rfl bound,
        fun behind => absurd rfl behind, fun _ => rfl, Nat.zero_le _⟩, none_left.symm, rfl, ?_⟩
      exact Or.inl ⟨none_left, rfl, rfl, rfl, freed⟩
  · rw [if_neg empty] at ran
    obtain ⟨plan, middle, prepares, rest⟩ := Routine.of_bind_ok _ _ _ _ _ ran
    rcases holds.prepared o stores few with ⟨own, after, goes, prepared⟩ | ⟨reason, after, stops, _⟩
    · rw [goes] at prepares
      obtain ⟨same, rfl⟩ := Prod.mk.inj prepares
      obtain rfl := Except.ok.inj same
      rcases storeXattrs_cases o own s after prepared.takes
        (fun behind => Balloc.valid_of_used (prepared.old_used holds behind).1) with
        ⟨_, reason, left, stops, _⟩ | ⟨_, _, reason, left, stops, _⟩ | ⟨_, _, _, reason, stops⟩ |
        ⟨_, _, _, left, ends, ready, freed, kept⟩
      · rw [stops] at rest
        cases rest
      · rw [stops] at rest
        cases rest
      · rw [stops] at rest
        cases rest
      · rw [ends] at rest
        obtain rfl := (Prod.mk.inj rest).2
        refine ⟨planLayout own items changed, ?_, planLayout_attributes own items changed, rfl,
          Or.inr ⟨?_, rfl, rfl⟩⟩
        · exact prepared.stored_holds holds few left ready freed kept
        · rintro rfl
          exact empty (List.eq_nil_of_length_eq_zero stores.length_eq)
    · rw [stops] at prepares
      cases prepares

theorem Changes.used (holds : HoldsXattrs sup s layout) {changed : List Attribute}
    (changes : Changes call layout.attributes changed) {items : List XattrItem}
    (stores : List.Forall₂ Stores items changed) (empty : items = []) : s.xattrBlock ≠ 0 := by
  intro bare
  have lengths := stores.length_eq
  rw [empty, List.length_nil] at lengths
  have present := changes.not_nil (List.eq_nil_of_length_eq_zero lengths.symm)
  obtain ⟨first, behind⟩ := holds.bare bare
  rw [Layout.attributes, first, holds.alone behind] at present
  exact present rfl

theorem HoldsXattrs.same (holds : HoldsXattrs sup s layout) (t : XattrState)
    (block : t.xattrBlock = s.xattrBlock) (allocator : t.allocator = s.allocator)
    (buffers : t.buffers = s.buffers) : HoldsXattrs sup t layout := by
  have takes : Takes s.allocator t.allocator [] := by
    rw [allocator]
    exact Takes.refl holds.ready
  apply holds.frame takes block
  · exact fun _ => by rw [buffers]
  · exact fun _ => by rw [buffers]

end Steps

section Members

variable {sup : XattrSuper} {s : XattrState} {layout : Layout}
  {values : List UInt8 → Option (List UInt8)}

/-- A successful call has stored one change of the attributes. -/
theorem userXattrSet_ok (holds : HoldsXattrs sup s layout) (o : Outcomes) (call : SetCall)
    (t : XattrState) (other : call.name ≠ POLICY_NAME)
    (ran : userXattrSet sup o call s = (.ok (), t)) :
    ∃ items changed, Changes call layout.attributes changed ∧ List.Forall₂ Stores items changed ∧
      changed.length ≤ XATTR_MAX_ITEMS ∧ writeXattrs sup o items s = (.ok (), t) := by
  rw [userXattrSet] at ran
  obtain ⟨-, ran⟩ := Routine.of_answer_bind_ok ran
  by_cases named : call.name = []
  · rw [if_pos named] at ran
    cases ran
  rw [if_neg named, if_neg other] at ran
  rcases nextItems_cases sup o s layout call holds named with
    ⟨reason, stops⟩ | ⟨xattr, items, changed, goes, changes, stores, few⟩
  · rw [Routine.bind_error _ _ _ _ _ stops] at ran
    cases ran
  rw [Routine.bind_ok _ _ _ _ _ goes] at ran
  obtain ⟨-, ran⟩ := Routine.of_answer_bind_ok ran
  obtain ⟨_, u, writes, ran⟩ := Routine.of_bind_ok _ _ _ _ _ ran
  have final : u = t := by
    cases commits : o.commits with
    | none =>
        rw [commits] at ran
        exact (Prod.mk.inj ran).2
    | some reason =>
        rw [commits] at ran
        cases ran
  rw [final] at writes
  exact ⟨items, changed, changes, stores, few, writes⟩

theorem Kept.set (kept : Kept sup s values) (o : Outcomes) (call : SetCall) (t : XattrState)
    (other : call.name ≠ POLICY_NAME) (ran : userXattrSet sup o call s = (.ok (), t)) :
    Kept sup t (updated call values) := by
  obtain ⟨layout, represents⟩ := kept.represents
  have holds := represents.holds
  obtain ⟨items, changed, changes, stores, few, writes⟩ := userXattrSet_ok holds o call t other ran
  obtain ⟨after, held, same, policy, slot⟩ :=
    written_holds holds stores few (changes.used holds stores) t writes
  have binds : binding changed = updated call values := by
    rw [changes.binding_eq represents.unique, represents.binds]
  refine ⟨⟨after, held, ?_, ?_⟩, ?_, ?_, ?_⟩
  · rw [same]
    exact changes.unique represents.unique
  · rw [same, binds]
  · rw [policy]
    exact kept.policy
  · rcases slot with ⟨_, _, _, unwritten, _⟩ | ⟨_, _, written⟩
    · rw [unwritten, policy, kept.slotPolicy]
    · rw [written, policy]
  · rcases slot with ⟨gone, bare, _⟩ | ⟨_, written, _⟩
    · refine Or.inr ⟨bare, ?_⟩
      rw [← binds, gone]
      rfl
    · exact Or.inl written

/-- A successful call for the policy changes nothing or writes the inode with another policy of the
file system. -/
theorem setPolicy_cases (o : Outcomes) (call : SetCall) (t : XattrState)
    (named : call.name = POLICY_NAME) (ran : userXattrSet sup o call s = (.ok (), t)) :
    t = s ∨ ∃ policy, (sup.policyTable.isSome → policyExists sup policy = true) ∧
      t = { s with policyId := policy, slotXattrBlock := s.xattrBlock, slotPolicyId := policy } := by
  rw [userXattrSet] at ran
  obtain ⟨-, ran⟩ := Routine.of_answer_bind_ok ran
  rw [if_neg (by rw [named]; decide), if_pos named] at ran
  by_cases feature : sup.policy = false
  · rw [if_pos feature] at ran
    cases ran
  rw [if_neg feature] at ran
  obtain ⟨-, ran⟩ := Routine.of_answer_bind_ok ran
  obtain ⟨_, u, sets, ran⟩ := Routine.of_bind_ok _ _ _ _ _ ran
  have final : u = t := by
    cases commits : o.commits with
    | none =>
        rw [commits] at ran
        exact (Prod.mk.inj ran).2
    | some reason =>
        rw [commits] at ran
        cases ran
  rw [final, policyXattrSet] at sets
  cases asked : policyOf call.value with
  | error reason =>
      rw [asked] at sets
      cases sets
  | ok policy =>
      rw [asked] at sets
      simp only at sets
      rw [Routine.read_bind] at sets
      by_cases same : policy = s.policyId
      · rw [if_pos same] at sets
        exact Or.inl (Prod.mk.inj sets).2.symm
      rw [if_neg same] at sets
      by_cases refused : sup.policyTable.isSome ∧ policyExists sup policy = false
      · rw [if_pos refused] at sets
        cases sets
      rw [if_neg refused] at sets
      by_cases data : sup.hasData = true
      · rw [if_pos data] at sets
        cases sets
      rw [if_neg data, Routine.modify_bind, writeInodeToDisk] at sets
      obtain ⟨-, sets⟩ := Routine.of_answer_bind_ok sets
      refine Or.inr ⟨policy, ?_, (Prod.mk.inj sets).2.symm⟩
      intro table
      simpa [table] using refused

theorem Kept.setPolicy (kept : Kept sup s values) (o : Outcomes) (call : SetCall) (t : XattrState)
    (named : call.name = POLICY_NAME) (ran : userXattrSet sup o call s = (.ok (), t)) :
    Kept sup t values := by
  rcases setPolicy_cases o call t named ran with rfl | ⟨policy, present, rfl⟩
  · exact kept
  · obtain ⟨layout, represents⟩ := kept.represents
    refine ⟨⟨layout, ?_, represents.unique, represents.binds⟩, ?_, rfl, Or.inl rfl⟩
    · exact represents.holds.same _ rfl rfl rfl
    · cases table : sup.policyTable with
      | none => rw [policyExists, table]
      | some listed => exact present (by rw [table]; rfl)

theorem Kept.members (kept : Kept sup s values) (t : XattrState) (same : SameMembers s t)
    (holds : ∀ layout, HoldsXattrs sup s layout → HoldsXattrs sup t layout) :
    Kept sup t values := by
  obtain ⟨layout, represents⟩ := kept.represents
  refine ⟨⟨layout, holds layout represents.holds, represents.unique, represents.binds⟩, ?_, ?_, ?_⟩
  · rw [same.policyId]
    exact kept.policy
  · rw [same.slotPolicyId, same.policyId, kept.slotPolicy]
  · rw [same.slotXattrBlock, same.xattrBlock]
    exact kept.slot

/-- A failing call that stops in time leaves the inode and its attributes. -/
theorem undone_same (holds : HoldsXattrs sup s layout) (o : Outcomes) (call : SetCall)
    (undone : Undone sup o s call) :
    HoldsXattrs sup (userXattrSet sup o call s).2 layout ∧
      SameMembers s (userXattrSet sup o call s).2 := by
  have nothing : HoldsXattrs sup s layout ∧ SameMembers s s := ⟨holds, .refl s⟩
  rw [userXattrSet, answer_bind]
  rw [Undone] at undone
  cases memory : o.items with
  | some reason => exact nothing
  | none =>
      rw [memory] at undone
      rw [Option.elim]
      by_cases empty : call.name = []
      · rw [if_pos empty]
        exact nothing
      rw [if_neg empty]
      by_cases named : call.name = POLICY_NAME
      · rw [if_pos named] at undone ⊢
        by_cases feature : sup.policy = false
        · rw [if_pos feature]
          exact nothing
        rw [if_neg feature, answer_bind]
        cases begins : o.begins with
        | some reason => exact nothing
        | none =>
            rw [Option.elim, bind_answer]
            rcases policyXattrSet_cases sup o call s with
              ⟨outcome, ran, _⟩ | ⟨policy, outcome, after, ran, asked, differs, allowed, bare, _⟩
            · rw [ran]
              exact nothing
            · have data := undone policy rfl (by simpa using feature) begins asked differs allowed
              rw [bare] at data
              cases data
      · rw [if_neg named] at undone ⊢
        rcases nextItems_cases sup o s layout call holds empty with
          ⟨reason, ran⟩ | ⟨xattr, items, changed, ran, changes, stores, few⟩
        · rw [Routine.bind_error _ _ _ _ _ ran]
          exact nothing
        · rw [Routine.bind_ok _ _ _ _ _ ran, answer_bind]
          cases begins : o.begins with
          | some reason => exact nothing
          | none =>
              rw [Option.elim, bind_answer]
              obtain ⟨last, others⟩ := undone items rfl empty (by rw [ran]) begins
              exact written_kept holds stores few (changes.used holds stores) last others

theorem Kept.failed (kept : Kept sup s values) (o : Outcomes) (call : SetCall)
    (undone : Undone sup o s call) : Kept sup (userXattrSet sup o call s).2 values := by
  obtain ⟨layout, represents⟩ := kept.represents
  have same := undone_same represents.holds o call undone
  exact kept.members _ same.2 fun layout holds => (undone_same holds o call undone).1

/-- An inode whose slot names its block can be loaded, and is what it was. -/
theorem Kept.reload (kept : Kept sup s values) (written : s.slotXattrBlock = s.xattrBlock) :
    igetXattrs sup s = (.ok (), s) := by
  obtain ⟨layout, represents⟩ := kept.represents
  have sound : ¬ (s.slotXattrBlock ≠ 0 ∧
      (Balloc.dataBlockValid s.allocator s.slotXattrBlock = false ∨
        blockBitmapUsed s.allocator s.slotXattrBlock = false)) := by
    rintro ⟨bound, unsound⟩
    rw [written] at bound unsound
    have used := (represents.holds.root bound).1
    rw [used, Balloc.valid_of_used used] at unsound
    simp at unsound
  rw [igetXattrs, Routine.read_bind, if_neg sound, kept.slotPolicy, if_neg (by simp [kept.policy]),
    Routine.modify_run]
  have same : { s with xattrBlock := s.slotXattrBlock, policyId := s.slotPolicyId } = s := by
    have policy := kept.slotPolicy
    cases s
    simp only at written policy
    rw [written, policy]
  rw [same]

end Members

section Runs

variable {sup : XattrSuper}

/-- What every run of the handlers keeps. -/
theorem Kept.run {s t : XattrState} {values current : List UInt8 → Option (List UInt8)}
    (start : Kept sup s values) (run : XattrRun sup s values t current) : Kept sup t current := by
  induction run with
  | start => exact start
  | set o call t u current before other ran ih => exact ih.set o call u other ran
  | setPolicy o call t u current before named ran ih => exact ih.setPolicy o call u named ran
  | failed o call reason t u current before undone ran ih =>
      have kept := ih.failed o call undone
      rw [ran] at kept
      exact kept
  | reload outcome t u current before written ran ih =>
      rw [ih.reload written] at ran
      obtain rfl := (Prod.mk.inj ran).2
      exact ih

theorem assigned_eq (call : SetCall) (values : List UInt8 → Option (List UInt8))
    (counted : ∀ value, call.value = some value → value.length < 2 ^ 16) :
    updated call values = assigned call values := by
  unfold updated assigned
  cases asked : call.value with
  | none => rfl
  | some value =>
      rw [Option.map_some, Nat.mod_eq_of_lt (counted value asked), List.take_length]

/-- A run in which every call is counted keeps the block in the slot of the inode. -/
theorem CountedRun.kept {s t : XattrState} {values current : List UInt8 → Option (List UInt8)}
    (start : Kept sup s values) (written : s.slotXattrBlock = s.xattrBlock)
    (run : CountedRun sup s values t current) :
    Kept sup t current ∧ t.slotXattrBlock = t.xattrBlock := by
  induction run with
  | start => exact ⟨start, written⟩
  | set o call t u current before other counted left ran ih =>
      have kept := ih.1.set o call u other ran
      rw [assigned_eq call current counted] at kept
      refine ⟨kept, ?_⟩
      rcases kept.slot with same | ⟨_, gone⟩
      · exact same
      · obtain ⟨name, present⟩ := left
        exact absurd (congrFun gone name) present
  | setPolicy o call t u current before named ran ih =>
      refine ⟨ih.1.setPolicy o call u named ran, ?_⟩
      rcases setPolicy_cases o call u named ran with rfl | ⟨policy, _, rfl⟩
      · exact ih.2
      · rfl
  | failed o call reason t u current before undone ran ih =>
      have kept := ih.1.failed o call undone
      obtain ⟨layout, represents⟩ := ih.1.represents
      have same := (undone_same represents.holds o call undone).2
      rw [ran] at kept same
      exact ⟨kept, by rw [same.slotXattrBlock, same.xattrBlock, ih.2]⟩
  | reload outcome t u current before ran ih =>
      rw [ih.1.reload ih.2] at ran
      rw [← (Prod.mk.inj ran).2]
      exact ih

/-- What a get answers for the value of a name. -/
def valueAnswer (value : Option (List UInt8)) (buffer : Option Nat) (s : XattrState) :
    Except (Stop Errno) (Nat × List UInt8) :=
  value.elim (.error (.error .enodata)) fun bytes => (handOut bytes buffer s).1

theorem Kept.get {s : XattrState} {values : List UInt8 → Option (List UInt8)}
    (kept : Kept sup s values) (xattr : sup.xattr = true) (name : List UInt8) (named : name ≠ [])
    (other : name ≠ POLICY_NAME) (buffer : Option Nat) :
    (userXattrGet sup .calm name buffer s).1 = valueAnswer (values name) buffer s := by
  obtain ⟨layout, represents⟩ := kept.represents
  have value : valueOf layout.items name = values name := by
    rw [← represents.binds, Layout.items, valueOf_stores (items_store layout.attributes)]
  rw [userXattrGet_answer sup name buffer s s, represents.holds.load, getAnswer, if_neg named,
    if_neg (by simp [xattr]), if_neg other]
  cases bytes : values name with
  | none =>
      rw [bytes] at value
      simp only [value]
      rfl
  | some found =>
      rw [bytes] at value
      simp only [value]
      rfl

theorem Kept.list {s : XattrState} {values : List UInt8 → Option (List UInt8)}
    (kept : Kept sup s values) (xattr : sup.xattr = true) :
    ∃ names : List (List UInt8), names.Nodup ∧ (∀ name, name ∈ names ↔ values name ≠ none) ∧
      ∀ buffer, listxattr sup .calm buffer s =
        handOut ((if sup.policy then listEntry POLICY_NAME else []) ++ names.flatMap listEntry)
          buffer s := by
  obtain ⟨layout, represents⟩ := kept.represents
  refine ⟨layout.attributes.map Attribute.name, represents.unique, ?_, ?_⟩
  · intro name
    rw [← represents.binds, ne_eq, binding_eq_none, not_not]
  · intro buffer
    have names : (layout.items.flatMap fun item => listEntry (item.name.takeWhile (· != 0))) =
        (layout.attributes.map Attribute.name).flatMap listEntry := by
      rw [Layout.items, List.flatMap_map, List.flatMap_map]
      congr 1
      funext a
      rw [(item_stores a).whole]
    rw [listxattr, answer_bind, show Outcomes.calm.items = none from rfl, Option.elim,
      if_neg (by simp [xattr]), Routine.bind_ok _ _ _ _ _ represents.holds.load, names]

/-- The extended attributes of an inode refine a finite map. Over every run every get answers with
what the last successful call has given the name, a list names exactly the names with a value, and
an inode with attributes can be loaded again and is what it was. -/
theorem xattrs_refine {s t : XattrState} {values current : List UInt8 → Option (List UInt8)}
    (xattr : sup.xattr = true) (start : Kept sup s values) (run : XattrRun sup s values t current) :
    (∀ name buffer, name ≠ [] → name ≠ POLICY_NAME →
      (userXattrGet sup .calm name buffer t).1 = valueAnswer (current name) buffer t) ∧
    (∃ names : List (List UInt8), names.Nodup ∧ (∀ name, name ∈ names ↔ current name ≠ none) ∧
      ∀ buffer, listxattr sup .calm buffer t =
        handOut ((if sup.policy then listEntry POLICY_NAME else []) ++ names.flatMap listEntry)
          buffer t) ∧
    ((∃ name, current name ≠ none) → igetXattrs sup t = (.ok (), t)) := by
  have kept := start.run run
  refine ⟨fun name buffer named other => kept.get xattr name named other buffer, kept.list xattr, ?_⟩
  rintro ⟨name, present⟩
  rcases kept.slot with written | ⟨_, gone⟩
  · exact kept.reload written
  · rw [gone] at present
    exact absurd rfl present

/-- In a run whose calls are all counted every get answers with exactly what the last successful
call has given the name, a list names exactly the names with a value, and the inode can be loaded
at every point and is what it was. -/
theorem xattrs_exact {s t : XattrState} {values current : List UInt8 → Option (List UInt8)}
    (xattr : sup.xattr = true) (start : Kept sup s values)
    (written : s.slotXattrBlock = s.xattrBlock) (run : CountedRun sup s values t current) :
    (∀ name buffer, name ≠ [] → name ≠ POLICY_NAME →
      (userXattrGet sup .calm name buffer t).1 = valueAnswer (current name) buffer t) ∧
    (∃ names : List (List UInt8), names.Nodup ∧ (∀ name, name ∈ names ↔ current name ≠ none) ∧
      ∀ buffer, listxattr sup .calm buffer t =
        handOut ((if sup.policy then listEntry POLICY_NAME else []) ++ names.flatMap listEntry)
          buffer t) ∧
    igetXattrs sup t = (.ok (), t) := by
  obtain ⟨kept, same⟩ := run.kept start written
  exact ⟨fun name buffer named other => kept.get xattr name named other buffer, kept.list xattr,
    kept.reload same⟩

theorem binding_nil_iff (attributes : List Attribute) :
    (binding attributes = fun _ => none) ↔ attributes = [] := by
  constructor
  · intro unbound
    cases attributes with
    | nil => rfl
    | cons a rest =>
        have here := congrFun unbound a.name
        rw [binding_cons, if_pos rfl] at here
        cases here
  · rintro rfl
    rfl

theorem Kept.removed_last {s t : XattrState} {values : List UInt8 → Option (List UInt8)}
    (kept : Kept sup s values) (written : s.slotXattrBlock = s.xattrBlock) (o : Outcomes)
    (call : SetCall) (other : call.name ≠ POLICY_NAME) (asked : call.value = none)
    (last : ∀ name, name ≠ call.name → values name = none)
    (ran : userXattrSet sup o call s = (.ok (), t)) :
    t.xattrBlock = 0 ∧ igetXattrs sup t = (.error (.error .euclean), t) := by
  obtain ⟨layout, represents⟩ := kept.represents
  have holds := represents.holds
  obtain ⟨items, changed, changes, stores, few, writes⟩ := userXattrSet_ok holds o call t other ran
  have gone : changed = [] := by
    rw [← binding_nil_iff, changes.binding_eq represents.unique, represents.binds, updated, asked]
    funext name
    rw [Function.update_apply]
    split
    · rfl
    · rename_i apart
      exact last name apart
  have used := changes.used holds stores (by
    rw [gone] at stores
    exact List.eq_nil_of_length_eq_zero stores.length_eq)
  obtain ⟨after, held, same, policy, slot⟩ := written_holds holds stores few (fun _ => used) t writes
  rcases slot with ⟨_, bare, unwritten, _, freed⟩ | ⟨present, _⟩
  · refine ⟨bare, ?_⟩
    rw [igetXattrs, Routine.read_bind, if_pos]
    · rfl
    · rw [unwritten, written]
      exact ⟨used, Or.inr freed⟩
  · exact absurd gone present

/-- The removal of the last attribute leaves a freed block in the inode's slot: the inode cannot be
loaded any more. -/
theorem removed_last_unloadable {s t : XattrState} {values : List UInt8 → Option (List UInt8)}
    (kept : Kept sup s values) (written : s.slotXattrBlock = s.xattrBlock) (o : Outcomes)
    (call : SetCall) (other : call.name ≠ POLICY_NAME) (asked : call.value = none)
    (last : ∀ name, name ≠ call.name → values name = none)
    (ran : userXattrSet sup o call s = (.ok (), t)) :
    t.xattrBlock = 0 ∧ igetXattrs sup t = (.error (.error .euclean), t) :=
  kept.removed_last written o call other asked last ran

theorem changeItems_removed (o : Outcomes) (call : SetCall) (items : List XattrItem) (idx : Nat)
    (s : XattrState) (asked : call.value = none) (create : call.create = false)
    (found : findXattrItem items call.name = some idx) :
    changeItems o call items s = (.ok (items.eraseIdx idx), s) := by
  simp [changeItems, found, asked, create]

/-- With nothing failing the removal of the last attribute succeeds. -/
theorem remove_last_ok {s : XattrState} {values : List UInt8 → Option (List UInt8)}
    (kept : Kept sup s values) (xattr : sup.xattr = true) (call : SetCall)
    (named : call.name ≠ []) (short : call.name.length ≤ XATTR_MAX_NAME_LEN)
    (other : call.name ≠ POLICY_NAME) (asked : call.value = none) (create : call.create = false)
    (present : values call.name ≠ none) (last : ∀ name, name ≠ call.name → values name = none) :
    ∃ t, userXattrSet sup .calm call s = (.ok (), t) := by
  obtain ⟨layout, represents⟩ := kept.represents
  have holds := represents.holds
  have stores : List.Forall₂ Stores layout.items layout.attributes := items_store layout.attributes
  obtain ⟨idx, found⟩ : ∃ idx, layout.attributes.findIdx? (fun a => a.name == call.name) = some idx := by
    cases found : layout.attributes.findIdx? (fun a => a.name == call.name) with
    | some idx => exact ⟨idx, rfl⟩
    | none =>
        rw [← represents.binds, ne_eq, binding_eq_none, not_not] at present
        obtain ⟨a, member, same⟩ := List.mem_map.mp present
        have apart := List.findIdx?_eq_none_iff.mp found a member
        rw [same, beq_self_eq_true] at apart
        cases apart
  have changes : Changes call layout.attributes (layout.attributes.eraseIdx idx) :=
    .removed idx asked found
  have gone : layout.attributes.eraseIdx idx = [] := by
    rw [← binding_nil_iff, changes.binding_eq represents.unique, represents.binds, updated, asked]
    funext name
    rw [Function.update_apply]
    split
    · rfl
    · rename_i apart
      exact last name apart
  have less := stores_eraseIdx stores idx
  have empty : layout.items.eraseIdx idx = [] := by
    rw [gone] at less
    exact List.eq_nil_of_length_eq_zero less.length_eq
  have next : nextItems sup .calm call s = (.ok [], s) := by
    rw [nextItems, if_neg (by simp [xattr]), if_neg (by omega),
      Routine.bind_ok _ _ _ _ _ holds.load,
      changeItems_removed _ _ _ idx _ asked create (by rw [findXattrItem_stores stores, found]),
      empty]
  have used := changes.used holds less empty
  rcases freeXattrStorage_cases .calm holds used with ⟨fails, _⟩ | ⟨_, after, ran, _⟩
  · simp [Outcomes.calm] at fails
  · refine ⟨{ s with xattrBlock := 0, allocator := after }, ?_⟩
    rw [userXattrSet, answer_bind, show Outcomes.calm.items = none from rfl, Option.elim,
      if_neg named, if_neg other, Routine.bind_ok _ _ _ _ _ next, answer_bind,
      show Outcomes.calm.begins = none from rfl, Option.elim, writeXattrs, if_pos rfl,
      Routine.bind_ok _ _ _ _ _ ran]
    rfl

end Runs

section Fitting

variable {sup : XattrSuper} {s : XattrState} {layout : Layout} (holds : HoldsXattrs sup s layout)
  {items : List XattrItem} {changed : List Attribute}

/-- Items that all go into the root block, which the inode has. -/
structure Fitting (s : XattrState) (items : List XattrItem) : Prop where
  used : s.xattrBlock ≠ 0
  present : items ≠ []
  sized : items.any (fun item => decide (BLOCK_SIZE - Header.SIZE < item.size)) = false
  all : rootEntries Header.SIZE items = items.length
  packs : ∃ content, packXattrBlock (itemAt items) 0 (rootEntries Header.SIZE items) 0 = .ok content

theorem Fitting.prepare (fitting : Fitting s items) (o : Outcomes) (buffer : o.rootBuffer = none)
    (reread : o.reread = none) :
    ∃ plan, prepareXattrs sup o items s = (.ok plan, s) ∧ plan.second = none := by
  obtain ⟨content, packs⟩ := fitting.packs
  have old : oldOverflow o items s.xattrBlock false s =
      (.ok ((s.buffers s.xattrBlock).get Header.overflowBlock), s) := by
    simp [oldOverflow, buffer, reread, answer_bind, fitting.sized]
  refine ⟨⟨s.xattrBlock, false, (s.buffers s.xattrBlock).get Header.overflowBlock,
    (s.buffers s.xattrBlock).get Header.overflowBlock, false, content, none⟩, ?_, rfl⟩
  have used : (s.xattrBlock == 0) = false := by simpa using fitting.used
  rw [prepareXattrs, Routine.read_bind]
  simp only [used, Bool.false_eq_true, ↓reduceIte, Routine.pure_bind]
  rw [packBlocks, Routine.bind_ok _ _ _ _ _ (Routine.onFailure_ok _ _ _ _ _ old), if_pos fitting.all]
  apply Routine.onFailure_ok
  rw [packs]
  rfl

include holds

theorem prepared_of_ok {o : Outcomes} (stores : List.Forall₂ Stores items changed)
    (few : changed.length ≤ XATTR_MAX_ITEMS) {plan : Plan} {t : XattrState}
    (ran : prepareXattrs sup o items s = (.ok plan, t)) :
    ∃ after, t = { s with allocator := after } ∧
      Prepared sup s layout items changed plan after := by
  rcases holds.prepared o stores few with ⟨own, after, goes, prepared⟩ | ⟨_, _, stops, _⟩
  · rw [goes] at ran
    obtain ⟨same, left⟩ := Prod.mk.inj ran
    obtain rfl := Except.ok.inj same
    exact ⟨after, left.symm, prepared⟩
  · rw [stops] at ran
    cases ran

theorem next_items (o : Outcomes) (call : SetCall) (xattr : sup.xattr = true)
    (short : call.name.length ≤ XATTR_MAX_NAME_LEN)
    (loads : loadXattrs sup o s = loadXattrs sup .calm s) :
    nextItems sup o call s = changeItems o call layout.items s := by
  rw [nextItems, if_neg (by simp [xattr]), if_neg (by omega), Routine.bind_ok _ _ _ _ _
    (loads.trans holds.load)]

/-- With nothing failing, a change whose items fit is made. -/
theorem Fitting.run (fitting : Fitting s items) (stores : List.Forall₂ Stores items changed)
    (few : changed.length ≤ XATTR_MAX_ITEMS) (call : SetCall) (named : call.name ≠ [])
    (other : call.name ≠ POLICY_NAME) (next : nextItems sup .calm call s = (.ok items, s)) :
    ∃ t after, userXattrSet sup .calm call s = (.ok (), t) ∧ HoldsXattrs sup t after ∧
      after.attributes = changed ∧ t.xattrBlock ≠ 0 ∧ t.slotXattrBlock = t.xattrBlock := by
  obtain ⟨plan, ran, _⟩ := fitting.prepare .calm rfl rfl
  have written : ∃ t, writeXattrs sup .calm items s = (.ok (), t) := by
    rw [writeXattrs, if_neg fitting.present, Routine.bind_ok _ _ _ _ _ ran]
    obtain ⟨after, same, prepared⟩ := prepared_of_ok holds stores few ran
    have stored := storeXattrs_cases .calm plan s after prepared.takes
      (fun behind => Balloc.valid_of_used (prepared.old_used holds behind).1)
    rw [← same] at stored
    rcases stored with ⟨fails, _⟩ | ⟨_, fails, _⟩ | ⟨_, _, fails, _⟩ | ⟨_, _, _, _, done, _⟩
    · simp [OverflowFails, Outcomes.calm] at fails
    · simp [RootFails, Outcomes.calm] at fails
    · simp [Outcomes.calm] at fails
    · exact ⟨_, done⟩
  obtain ⟨t, writes⟩ := written
  obtain ⟨after, held, same, _, slot⟩ :=
    written_holds holds stores few (fun empty => absurd empty fitting.present) t writes
  have some_left : changed ≠ [] := by
    rintro rfl
    exact fitting.present (List.eq_nil_of_length_eq_zero stores.length_eq)
  refine ⟨t, after, ?_, held, same, ?_, ?_⟩
  · rw [userXattrSet, answer_bind, show Outcomes.calm.items = none from rfl, Option.elim,
      if_neg named, if_neg other, Routine.bind_ok _ _ _ _ _ next, answer_bind,
      show Outcomes.calm.begins = none from rfl, Option.elim, Routine.bind_ok _ _ _ _ _ writes]
    rfl
  · intro bare
    obtain ⟨first, behind⟩ := held.bare bare
    rw [Layout.attributes, first, held.alone behind] at same
    exact some_left same.symm
  · rcases slot with ⟨gone, _⟩ | ⟨_, named, _⟩
    · exact absurd gone some_left
    · exact named

/-- Only the write of the root block fails. -/
def rootFailing : Outcomes := { Outcomes.calm with writeRoot := some .eio }

/-- Then a change whose items fit leaves everything as it was. -/
theorem Fitting.fails (fitting : Fitting s items) (stores : List.Forall₂ Stores items changed)
    (few : changed.length ≤ XATTR_MAX_ITEMS) (call : SetCall) (named : call.name ≠ [])
    (other : call.name ≠ POLICY_NAME)
    (next : nextItems sup rootFailing call s = (.ok items, s)) :
    Undone sup rootFailing s call ∧
      ∃ reason t, userXattrSet sup rootFailing call s = (.error reason, t) := by
  have root : RootFails rootFailing := Or.inr rfl
  have prepared : ∃ plan, prepareXattrs sup rootFailing items s = (.ok plan, s) ∧
      plan.second = none := fitting.prepare rootFailing rfl rfl
  obtain ⟨plan, ran, second⟩ := prepared
  constructor
  · rw [Undone, if_neg other]
    intro found _ _ given _
    rw [next] at given
    obtain rfl := Except.ok.inj given
    refine ⟨fun empty => absurd empty fitting.present, fun _ own t goes => ?_⟩
    rw [ran] at goes
    rw [← Except.ok.inj (Prod.mk.inj goes).1]
    exact Or.inr ⟨root, Or.inl second⟩
  · have stops : ∃ reason t, writeXattrs sup rootFailing items s = (.error reason, t) := by
      rw [writeXattrs, if_neg fitting.present, Routine.bind_ok _ _ _ _ _ ran]
      obtain ⟨after, same, prepared⟩ := prepared_of_ok holds stores few ran
      have stored := storeXattrs_cases rootFailing plan s after prepared.takes
        (fun behind => Balloc.valid_of_used (prepared.old_used holds behind).1)
      rw [← same] at stored
      rcases stored with ⟨_, reason, _, ends, _⟩ | ⟨_, _, reason, _, ends, _⟩ | ⟨_, done, _⟩ |
        ⟨_, done, _⟩
      · exact ⟨_, _, ends⟩
      · exact ⟨_, _, ends⟩
      · exact absurd root done
      · exact absurd root done
    obtain ⟨reason, t, stops⟩ := stops
    refine ⟨reason, t, ?_⟩
    rw [userXattrSet, answer_bind, show rootFailing.items = none from rfl, Option.elim,
      if_neg named, if_neg other, Routine.bind_ok _ _ _ _ _ next, answer_bind,
      show rootFailing.begins = none from rfl, Option.elim, Routine.bind_error _ _ _ _ _ stops]

end Fitting

section Small

def removeCall : SetCall := ⟨[0x61], shortName_ended, none, false, false⟩

theorem bareState_kept : Kept smallSuper bareState fun _ => none :=
  ⟨⟨⟨[], [], 0⟩, bareState_holds _, List.nodup_nil, rfl⟩, rfl, rfl, Or.inl rfl⟩

theorem setCall_ran : userXattrSet smallSuper .calm setCall bareState =
    (.ok (), (userXattrSet smallSuper .calm setCall bareState).2) := rfl

theorem updated_small : updated setCall (fun _ => none) [0x61] = some [0x62] := by
  rw [updated]
  exact Function.update_self _ _ _

theorem setCall_kept : Kept smallSuper (userXattrSet smallSuper .calm setCall bareState).2
    (updated setCall fun _ => none) :=
  bareState_kept.set .calm setCall _ (by decide) setCall_ran

theorem otherName_ended : (0 : UInt8) ∉ [0x63] :=
  fun member => absurd (List.mem_singleton.mp member) (by decide)

/-- A second attribute. -/
def otherCall : SetCall := ⟨[0x63], otherName_ended, some [0x64], false, false⟩

/-- The first one again, with another value. -/
def replaceCall : SetCall := ⟨[0x61], shortName_ended, some [0x65], false, false⟩

/-- An attribute whose name and value have one byte each. -/
def byteAttribute (name value : UInt8) (ended : 0 ∉ [name]) : Attribute where
  name := [name]
  value := [value]
  named := List.cons_ne_nil name []
  ended := ended
  short := Nat.le_of_ble_eq_true rfl
  narrow := Nat.lt_of_sub_eq_succ rfl

def firstAttribute : Attribute := byteAttribute 0x61 0x62 shortName_ended

def otherAttribute : Attribute := byteAttribute 0x63 0x64 otherName_ended

def replacedAttribute : Attribute := byteAttribute 0x61 0x65 shortName_ended

/-- A run of two sets, a set that fails at the root block, and a removal. -/
theorem smallRun : ∃ second failing last reason,
    userXattrSet smallSuper .calm otherCall (userXattrSet smallSuper .calm setCall bareState).2 =
      (.ok (), second) ∧
    Undone smallSuper rootFailing second replaceCall ∧
    userXattrSet smallSuper rootFailing replaceCall second = (.error reason, failing) ∧
    userXattrSet smallSuper .calm removeCall failing = (.ok (), last) ∧
    last.slotXattrBlock = last.xattrBlock := by
  generalize firstIs : (userXattrSet smallSuper .calm setCall bareState).2 = first
  have used : first.xattrBlock ≠ 0 := by
    rw [← firstIs]
    exact Nat.succ_ne_zero 16
  obtain ⟨layout, held, attributes, _⟩ := written_holds (o := .calm) (bareState_holds smallSuper)
    (items_store [firstAttribute]) (Nat.le_of_ble_eq_true rfl)
    (fun empty => absurd empty (List.cons_ne_nil _ _)) first (by rw [← firstIs]; rfl)
  have fitting : ∀ (s : XattrState) (attributes : List Attribute), s.xattrBlock ≠ 0 →
      attributes ∈ [[firstAttribute, otherAttribute], [replacedAttribute, otherAttribute],
        [otherAttribute]] → Fitting s (attributes.map Attribute.item) := by
    intro s attributes used member
    simp only [List.mem_cons, List.not_mem_nil, or_false] at member
    rcases member with rfl | rfl | rfl
    · exact ⟨used, List.cons_ne_nil _ _, rfl, rfl, _, rfl⟩
    · exact ⟨used, List.cons_ne_nil _ _, rfl, rfl, _, rfl⟩
    · exact ⟨used, List.cons_ne_nil _ _, rfl, rfl, _, rfl⟩
  obtain ⟨second, layout', ran, held', attributes', used', _⟩ :=
    (fitting first [firstAttribute, otherAttribute] used (by simp)).run held (items_store _)
      (Nat.le_of_ble_eq_true rfl) otherCall (List.cons_ne_nil _ _) (by decide) (by
        rw [next_items held .calm otherCall rfl (by decide) rfl, Layout.items, attributes]
        rfl)
  obtain ⟨undone, reason, failing, failed⟩ :=
    (fitting second [replacedAttribute, otherAttribute] used' (by simp)).fails held' (items_store _)
      (Nat.le_of_ble_eq_true rfl) replaceCall (List.cons_ne_nil _ _) (by decide) (by
        rw [next_items held' rootFailing replaceCall rfl (by decide) rfl, Layout.items, attributes']
        rfl)
  obtain ⟨heldAgain, same⟩ := undone_same held' _ replaceCall undone
  rw [failed] at heldAgain same
  obtain ⟨last, _, removed, _, _, _, named⟩ :=
    (fitting failing [otherAttribute] (by rw [same.xattrBlock]; exact used') (by simp)).run
      heldAgain (items_store _) (Nat.le_of_ble_eq_true rfl) removeCall (List.cons_ne_nil _ _)
      (by decide) (by
        rw [next_items heldAgain .calm removeCall rfl (by decide) rfl, Layout.items, attributes']
        rfl)
  exact ⟨second, failing, last, reason, ran, undone, failed, removed, named⟩

theorem smallValues : updated removeCall (updated otherCall (updated setCall fun _ => none)) [0x63] =
    some [0x64] ∧
    updated removeCall (updated otherCall (updated setCall fun _ => none)) [0x61] = none := by
  constructor
  · rw [updated, Function.update_of_ne (by decide), updated]
    exact Function.update_self _ _ _
  · rw [updated]
    exact Function.update_self _ _ _

/-- Two attributes set, one of them not overwritten by a call that fails and then removed, and the
inode loaded again: a get returns the value of the other one. -/
theorem xattrs_refine_small : ∃ t, XattrRun smallSuper bareState (fun _ => none) t
      (updated removeCall (updated otherCall (updated setCall fun _ => none))) ∧
    (userXattrGet smallSuper .calm [0x63] (some 8) t).1 = .ok (1, [0x64]) ∧
    (userXattrGet smallSuper .calm [0x61] (some 8) t).1 = .error (.error .enodata) := by
  obtain ⟨second, failing, last, reason, ran, undone, failed, removed, named⟩ := smallRun
  have first : XattrRun smallSuper bareState (fun _ => none) _ (updated setCall fun _ => none) :=
    .set .calm setCall bareState _ _ .start (by decide) setCall_ran
  have more := XattrRun.set .calm removeCall failing last _
    (.failed _ replaceCall reason second failing _
      (.set .calm otherCall _ second _ first (by decide) ran) undone failed) (by decide) removed
  have run := XattrRun.reload _ last _ _ more named rfl
  refine ⟨_, run, ?_, ?_⟩
  · rw [(xattrs_refine rfl bareState_kept run).1 [0x63] (some 8) (by decide) (by decide),
      smallValues.1]
    rfl
  · rw [(xattrs_refine rfl bareState_kept run).1 [0x61] (some 8) (by decide) (by decide),
      smallValues.2]
    rfl

theorem assigned_other (call : SetCall) (values : List UInt8 → Option (List UInt8))
    (name : List UInt8) (apart : name ≠ call.name) : assigned call values name = values name := by
  rw [assigned]
  exact Function.update_of_ne apart _ _

theorem assigned_same (call : SetCall) (values : List UInt8 → Option (List UInt8)) :
    assigned call values call.name = call.value := by
  rw [assigned]
  exact Function.update_self _ _ _

theorem counted_small (call : SetCall) (small : (call.value.getD []).length < 2 ^ 16) :
    ∀ value, call.value = some value → value.length < 2 ^ 16 := by
  intro value asked
  rw [asked] at small
  exact small

/-- The same run: every value is short, and one attribute is left. -/
theorem xattrs_exact_small : ∃ t, CountedRun smallSuper bareState (fun _ => none) t
      (assigned removeCall (assigned otherCall (assigned setCall fun _ => none))) ∧
    (userXattrGet smallSuper .calm [0x63] (some 8) t).1 = .ok (1, [0x64]) ∧
    igetXattrs smallSuper t = (.ok (), t) := by
  obtain ⟨second, failing, last, reason, ran, undone, failed, removed, _⟩ := smallRun
  have left : assigned removeCall (assigned otherCall (assigned setCall fun _ => none)) [0x63] =
      some [0x64] := by
    rw [assigned_other _ _ _ (by decide)]
    exact assigned_same otherCall _
  have first : CountedRun smallSuper bareState (fun _ => none) _
      (assigned setCall fun _ => none) :=
    .set .calm setCall bareState _ _ .start (by decide) (counted_small _ (by decide))
      ⟨[0x61], by rw [show [0x61] = setCall.name from rfl, assigned_same]; simp [setCall]⟩ setCall_ran
  have both := CountedRun.set .calm otherCall _ second _ first (by decide)
    (counted_small _ (by decide))
    ⟨[0x63], by rw [show [0x63] = otherCall.name from rfl, assigned_same]; simp [otherCall]⟩ ran
  have more := CountedRun.set .calm removeCall failing last _
    (.failed _ replaceCall reason second failing _ both undone failed) (by decide)
    (counted_small _ (by decide)) ⟨[0x63], by rw [left]; simp⟩ removed
  have run := CountedRun.reload _ last _ _ more rfl
  have exactly := xattrs_exact rfl bareState_kept rfl run
  refine ⟨_, run, ?_, exactly.2.2⟩
  rw [exactly.1 [0x63] (some 8) (by decide) (by decide), left]
  rfl

/-- One attribute set and removed again, both calls successful: the inode cannot be loaded. -/
theorem xattrs_lost : Kept smallSuper bareState (fun _ => none) ∧
    ∃ s t, userXattrSet smallSuper .calm setCall bareState = (.ok (), s) ∧
      userXattrSet smallSuper .calm removeCall s = (.ok (), t) ∧
      igetXattrs smallSuper t = (.error (.error .euclean), t) := by
  have gone : ∀ name, name ≠ removeCall.name → updated setCall (fun _ => none) name = none := by
    intro name apart
    rw [updated]
    exact Function.update_of_ne apart _ _
  obtain ⟨t, ran⟩ := remove_last_ok setCall_kept rfl removeCall (by decide) (by decide) (by decide)
    rfl rfl (by rw [show removeCall.name = [0x61] from rfl, updated_small]; simp) gone
  exact ⟨bareState_kept, _, t, setCall_ran, ran,
    (setCall_kept.removed_last rfl .calm removeCall (by decide) rfl gone ran).2⟩

/-- It is removed again: the inode cannot be loaded. -/
theorem removed_last_unloadable_small : ∃ t, userXattrSet smallSuper .calm removeCall
    (userXattrSet smallSuper .calm setCall bareState).2 = (.ok (), t) ∧
    (igetXattrs smallSuper t).1 = .error (.error .euclean) := by
  have last : ∀ name, name ≠ removeCall.name → updated setCall (fun _ => none) name = none := by
    intro name apart
    rw [updated]
    exact Function.update_of_ne apart _ _
  obtain ⟨t, ran⟩ := remove_last_ok setCall_kept rfl removeCall (by decide) (by decide) (by decide)
    rfl rfl (by rw [show removeCall.name = [0x61] from rfl, updated_small]; simp) last
  refine ⟨t, ran, ?_⟩
  rw [(removed_last_unloadable setCall_kept rfl .calm removeCall (by decide) rfl last ran).2]

end Small

end Xattr

end Cryexts
