import Cryexts.Namei.Replacing

set_option autoImplicit false

namespace Cryexts

namespace Namei

open Dir (DirState DirSuper)
open Routine (Moves Unfailing)
open WriteLog (store store_same store_other store_eq_self)

section Unfailing

variable (o : Answers) (call : RenameCall)

theorem writeRenamed_unfailing (old : Nat) : Unfailing (writeRenamed o call old) := by
  refine Unfailing.bind (Unfailing.ignored _) fun _ => ?_
  refine Unfailing.bind (Unfailing.ignored _) fun _ => ?_
  exact Unfailing.ite _ (Unfailing.ignored _) (Unfailing.pure ())

theorem dropVictim_unfailing (victim : Nat) : Unfailing (dropVictim o victim) := by
  refine Unfailing.bind (Unfailing.modify _) fun _ => ?_
  refine Unfailing.bind (Unfailing.ignored _) fun _ => ?_
  refine Unfailing.bind Unfailing.read fun _ => ?_
  refine Unfailing.ite _ ?_ (Unfailing.pure ())
  exact Unfailing.bind (Unfailing.ignored _) fun _ => Unfailing.ignored _

theorem releaseVictim_unfailing : Unfailing (releaseVictim o call) := by
  unfold releaseVictim
  cases call.newInode with
  | none => exact Unfailing.pure ()
  | some victim => exact dropVictim_unfailing o victim

theorem moveCount_unfailing (old : Nat) : Unfailing (moveCount o call old) := by
  refine Unfailing.bind Unfailing.read fun _ => ?_
  refine Unfailing.ite _ ?_ (Unfailing.pure ())
  refine Unfailing.bind (Unfailing.modify _) fun _ => ?_
  refine Unfailing.bind (Unfailing.modify _) fun _ => ?_
  exact Unfailing.bind (Unfailing.ignored _) fun _ => Unfailing.ignored _

end Unfailing

section Checks

variable {sb : DirSuper} {o : Answers} {call : RenameCall} {s t : NameState}

theorem refuseBelow_looks (old : Nat) : Moves Looked (refuseBelow sb o call old) := by
  refine Moves.bind Moves.read fun s => ?_
  split
  · exact Moves.bind (dirHasAncestor_looks _ _) fun above => Moves.require _ _
  · exact Moves.pure ()

theorem checkVictim_looks (old victim : Nat) : Moves Looked (checkVictim sb o call old victim) := by
  refine Moves.bind Moves.read fun s => ?_
  refine Moves.bind (Moves.require _ _) fun _ => ?_
  refine Moves.bind (Moves.require _ _) fun _ => ?_
  refine Moves.bind ?_ fun _ => ?_
  · refine Moves.bind Moves.read fun s => ?_
    split
    · exact Moves.bind (onDir_looks _ _ (dirEmpty_reads sb)) fun vacant => Moves.require _ _
    · exact Moves.pure ()
  · have attempted : Moves Looked
        (onDir o .findTarget call.newDir (Dir.findEntry sb call.newName)).attempt :=
      onDir_looks _ _ (Dir.findEntry_reads sb call.newName)
    refine Moves.bind attempted fun found => ?_
    cases found with
    | ok place => exact Moves.pure ()
    | error reason => exact Moves.require _ _

theorem of_flushVictim_error {reason : Errno} (ran : flushVictim o call s = (.error reason, t)) :
    t = s := by
  unfold flushVictim at ran
  cases target : call.newInode with
  | none =>
      rw [target] at ran
      cases ran
  | some victim =>
      rw [target] at ran
      change flushLast o victim s = (.error reason, t) at ran
      unfold flushLast at ran
      rw [Routine.read_bind] at ran
      split at ran
      · exact (Routine.of_answer_error ran).1
      · cases ran

/-- The name of a target goes, and at most the link count of its directory with it. -/
theorem of_removeVictim_ok {victim : Nat} (ran : removeVictim sb o call victim s = (.ok (), t)) :
    ∃ state, Dir.deleteEntry sb call.newName { s.dirs call.newDir with
        grants := o.grants .deleteTarget, faults := o.faults .deleteTarget } = (.ok (), state) ∧
      t.dirs = store s.dirs call.newDir state ∧ t.mode = s.mode := by
  obtain ⟨_, u, gone, ran⟩ := Routine.of_bind_ok _ _ _ _ _ ran
  obtain ⟨state, deleted, rfl⟩ := of_deleteEntry_ok gone
  refine ⟨state, deleted, ?_⟩
  rw [Routine.read_bind] at ran
  split at ran
  · rw [← (Prod.mk.inj ran).2]
    exact ⟨rfl, rfl⟩
  · rw [← (Prod.mk.inj ran).2]
    exact ⟨rfl, rfl⟩

end Checks

section Moving

variable {sb : DirSuper} (plain : sb.dirIndex = false) {o : Answers} (calm : Calm o)
  {call : RenameCall} {s t : NameState} {inside : Finset Nat} {parent : Nat → Nat}
  {links : Finset Entry} {old : Nat} {reason : Errno}
  (listed : Listed sb s.dirs s.mode inside parent links)

include plain calm listed

omit plain in
theorem Listed.updates {dir above : Nat} (member : dir ∈ inside) (site : DirSite) :
    ∃ u, updateDirParent sb o site dir above s = (.ok (), u) := by
  have listing : Listing sb { s.dirs dir with
      grants := o.grants site, faults := o.faults site } s.mode dir (parent dir)
      fun name ino => (⟨dir, name, ino⟩ : Entry) ∈ links := (listed dir member).reads rfl rfl
  obtain ⟨place, found⟩ := listing.finds (by exact calm.faults site)
    (Or.inr (Or.inl ⟨rfl, rfl, rfl⟩))
  obtain ⟨after, ran⟩ : ∃ after, retargetEntry sb above { s.dirs dir with
      grants := o.grants site, faults := o.faults site } = (.ok (), after) := by
    unfold retargetEntry
    rw [Routine.bind_ok _ _ _ _ _ found, Routine.modify_bind]
    exact ⟨_, Dir.buffer_quiet _ (calm.faults site)⟩
  exact ⟨_, Routine.bind_ok _ _ _ _ _ (onDir_ok ran)⟩

/-- Only its addition can fail when an entry moves. -/
theorem moveEntry_error (from_ : call.oldDir ∈ inside) (onto : call.newDir ∈ inside)
    (member : (⟨call.oldDir, call.oldName, old⟩ : Entry) ∈ links) (named : call.newName ≠ [])
    (range : ROOT_INO ≤ old ∧ old ≤ sb.maxInodes)
    (above : ROOT_INO ≤ call.newDir ∧ call.newDir ≤ sb.maxInodes)
    (directory : Inode.sIsDir (s.mode old) = true → old ∈ inside)
    (ran : moveEntry sb o call old s = (.error reason, t)) :
    addEntry sb o .add call.newDir call.newName old (s.mode old) s = (.error reason, t) := by
  unfold moveEntry at ran
  rw [Routine.read_bind] at ran
  rcases Routine.of_bind_error _ _ _ _ _ ran with failed | ⟨_, u, entered, ran⟩
  · exact failed
  exfalso
  obtain ⟨first, added, rfl⟩ := of_addEntry_ok entered
  obtain ⟨free, grown⟩ := listed.add plain onto named range.1 range.2 added rfl rfl
  have entry : (⟨call.oldDir, call.oldName, old⟩ : Entry) ∈
      insert ⟨call.newDir, call.newName, old⟩ links := Finset.mem_insert_of_mem member
  have grown : Listed sb ((s.withDir call.newDir first).written call.newDir).dirs
      ((s.withDir call.newDir first).written call.newDir).mode inside parent
      (insert ⟨call.newDir, call.newName, old⟩ links) := grown
  rcases Routine.of_bind_error _ _ _ _ _ ran with failed | ⟨_, v, turned, ran⟩
  · unfold moveParent at failed
    rw [Routine.read_bind] at failed
    split at failed
    · rename_i moving
      obtain ⟨w, updated⟩ := grown.updates calm (directory moving.1) .move
      rw [Routine.onFailure_ok _ _ _ _ _ updated] at failed
      cases failed
    · cases failed
  have parted : ∃ others, Listed sb v.dirs v.mode inside others
      (insert ⟨call.newDir, call.newName, old⟩ links) := by
    unfold moveParent at turned
    rw [Routine.read_bind] at turned
    split at turned
    · rename_i moving
      obtain ⟨middle, updated, rfl⟩ := of_updateDirParent_ok (Routine.of_onFailure_ok turned)
      exact ⟨_, grown.reparent (directory moving.1) above.1 above.2 updated rfl rfl⟩
    · rw [← (Prod.mk.inj turned).2]
      exact ⟨_, grown⟩
  obtain ⟨others, parted⟩ := parted
  obtain ⟨w, deleted⟩ := parted.deletes calm plain entry from_ .delete
  rw [Routine.onFailure_ok _ _ _ _ _ deleted] at ran
  cases ran

/-- The name of a target that has gone can be taken. -/
theorem Listed.takes {victim : Nat} (onto : call.newDir ∈ inside)
    (entry : (⟨call.newDir, call.newName, victim⟩ : Entry) ∈ links)
    (short : call.newName.length ≤ Dir.NAME_LEN)
    (removed : removeVictim sb o call victim s = (.ok (), t)) (mode : Nat) :
    ∃ u, addEntry sb o .add call.newDir call.newName old mode t = (.ok (), u) := by
  obtain ⟨state, deleted, dirs, _⟩ := of_removeVictim_ok removed
  have before : Listing sb { s.dirs call.newDir with
      grants := o.grants .deleteTarget, faults := o.faults .deleteTarget } s.mode call.newDir
      (parent call.newDir) fun name ino => (⟨call.newDir, name, ino⟩ : Entry) ∈ links :=
    (listed call.newDir onto).reads rfl rfl
  have dots := before.dots victim
  have dot : call.newName ≠ DOT := fun same => dots.1 (same ▸ entry)
  have dotdot : call.newName ≠ DOTDOT := fun same => dots.2 (same ▸ entry)
  have after := before.delete plain call.newName dot dotdot deleted
  have room := before.vacates plain deleted
  have free : ∀ ino kind, ¬ Shows s.mode call.newDir (parent call.newDir)
      (fun other target => other ≠ call.newName ∧
        (⟨call.newDir, other, target⟩ : Entry) ∈ links) call.newName ino kind := by
    rintro ino kind (⟨same, _⟩ | ⟨same, _⟩ | ⟨⟨different, _⟩, _⟩)
    · exact dot same
    · exact dotdot same
    · exact different rfl
  have quiet : Listing sb { state with grants := o.grants .add, faults := o.faults .add } s.mode
      call.newDir (parent call.newDir) _ := after.reads rfl rfl
  obtain ⟨final, added⟩ := quiet.fills (by exact calm.faults .add) plain old
    (fileType mode) free short room
  have here : t.dirs call.newDir = state := by
    rw [dirs, store_same]
  rw [← here] at added
  exact ⟨_, Routine.bind_ok _ _ _ _ _ (onDir_ok added)⟩

end Moving

section Refusal

variable {sb : DirSuper} (plain : sb.dirIndex = false) {o : Answers} (calm : Calm o)
  (commits : o.outcome .commits = none) {call : RenameCall} {s t : NameState} {tree : Tree}
  {lost : Finset Nat} (holds : Holds sb s tree lost) {old : Nat} {reason : Errno}

include plain calm holds

/-- A target whose checks fail is left alone, and nothing fails behind them. -/
theorem Holds.clearTarget_error (onto : call.newDir ∈ tree.dirs)
    (entry : ∀ victim, call.newInode = some victim →
      (⟨call.newDir, call.newName, victim⟩ : Entry) ∈ tree.links)
    (ran : clearTarget sb o call old s = (.error reason, t)) : Looked s t := by
  unfold clearTarget at ran
  cases target : call.newInode with
  | none =>
      rw [target] at ran
      cases ran
  | some victim =>
      rw [target] at ran
      rcases of_looks_bind_error (checkVictim_looks old victim) ran with
        looked | ⟨_, u, _, looked, ran⟩
      · exact looked
      · exfalso
        obtain ⟨v, deleted⟩ := (holds.looked looked).listed.deletes calm plain
          (entry victim target) onto .deleteTarget
        unfold Namei.removeVictim at ran
        rw [Routine.bind_ok _ _ _ _ _ deleted, Routine.read_bind] at ran
        split at ran
        · cases ran
        · cases ran

/-- An entry that cannot be moved stays where it is. -/
theorem Holds.moveEntry_error (onto : call.newDir ∈ tree.dirs)
    (member : (⟨call.oldDir, call.oldName, old⟩ : Entry) ∈ tree.links)
    (named : call.newName ≠ []) (short : call.newName.length ≤ Dir.NAME_LEN)
    (target : ∀ victim, call.newInode = some victim → victim ≠ old ∧
      (⟨call.newDir, call.newName, victim⟩ : Entry) ∈ tree.links) {u : NameState}
    (cleared : clearTarget sb o call old s = (.ok (), u))
    (ran : (moveEntry sb o call old).onFailure (fun _ => restoreTarget sb o call) u =
      (.error reason, t)) : Looked s t := by
  obtain ⟨v, failed, final⟩ := Routine.of_onFailure_error ran
  have has := tree.target_has _ member
  have directory : Inode.sIsDir (s.mode old) = true → old ∈ tree.dirs := by
    intro type
    rcases has with dir | file
    · exact dir
    · rw [(holds.counted.files old file).1] at type
      cases type
  unfold clearTarget at cleared
  unfold restoreTarget at final
  cases victims : call.newInode with
  | none =>
      rw [victims] at cleared final
      rw [← (Prod.mk.inj cleared).2] at failed
      have refused := Namei.moveEntry_error plain calm holds.listed (tree.held _ member) onto member
        named (holds.range has) (holds.range (Or.inl onto)) directory failed
      rw [final]
      exact addEntry_looked calm plain refused
  | some victim =>
      exfalso
      rw [victims] at cleared
      obtain ⟨away, entry⟩ := target victim victims
      obtain ⟨_, w, checked, removed⟩ := Routine.of_bind_ok _ _ _ _ _ cleared
      have looked := (checkVictim_looks old victim).of_run checked
      have middle := holds.looked looked
      obtain ⟨state, deleted, dirs, mode⟩ := of_removeVictim_ok removed
      have listed := middle.listed.delete plain onto entry deleted rfl rfl
      rw [← dirs, ← mode] at listed
      have still : (⟨call.oldDir, call.oldName, old⟩ : Entry) ∈
          tree.links.erase ⟨call.newDir, call.newName, victim⟩ := by
        refine Finset.mem_erase.mpr ⟨?_, member⟩
        intro same
        rw [Link.mk.injEq] at same
        exact away same.2.2.symm
      have refused := Namei.moveEntry_error plain calm listed (tree.held _ member) onto still
        named (holds.range has) (holds.range (Or.inl onto)) (by
          rw [mode, looked.mode]
          exact directory) failed
      obtain ⟨x, added⟩ : ∃ x, addEntry sb o .add call.newDir call.newName old (u.mode old) u =
          (.ok (), x) := middle.listed.takes plain calm onto entry short removed (u.mode old)
      rw [added] at refused
      cases refused

include commits

/-- A failed `cryexts_rename` has changed nothing. -/
theorem Holds.rename_refused (promised : call.Promised s old)
    (ran : Namei.rename sb o call s = (.error reason, t)) : Looked s t := by
  have onto := holds.dir promised.onto.1 promised.onto.2
  have member := holds.entry (holds.dir promised.source.1 promised.source.2) promised.entry
  have target : ∀ victim, call.newInode = some victim → victim ≠ old ∧
      (⟨call.newDir, call.newName, victim⟩ : Entry) ∈ tree.links :=
    fun victim here => ⟨(promised.victim victim here).1,
      holds.entry onto (promised.victim victim here).2⟩
  rcases Routine.of_bind_error _ _ _ _ _ ran with failed | ⟨_, u, flushed, ran⟩
  · rw [of_flushVictim_error failed]
    exact Std.Refl.refl s
  rw [of_flushVictim_ok flushed] at ran
  rcases Routine.of_answer_bind_error ran with rfl | ran
  · exact Std.Refl.refl _
  rcases of_require_bind_error ran with rfl | ran
  · exact Std.Refl.refl _
  rw [promised.known] at ran
  simp only at ran
  split at ran
  · cases ran
  unfold Namei.replace at ran
  rcases Routine.of_bind_error _ _ _ _ _ ran with failed | ⟨_, u, passed, ran⟩
  · rw [(Routine.of_require_error _ _ _ _ _ failed).2]
    exact Std.Refl.refl s
  obtain ⟨short, same⟩ := Routine.of_require_ok _ _ _ _ passed
  rw [same] at ran
  rcases of_looks_bind_error (refuseBelow_looks old) ran with looked | ⟨_, v, _, first, ran⟩
  · exact looked
  rcases of_looks_bind_error (onDir_looks _ _ (Dir.findEntry_reads sb call.oldName)) ran with
    looked | ⟨_, w, _, second, ran⟩
  · exact Trans.trans first looked
  have before : Looked s w := Trans.trans first second
  have middle := holds.looked before
  rcases Routine.of_bind_error _ _ _ _ _ ran with failed | ⟨_, x, cleared, ran⟩
  · have looked := middle.clearTarget_error plain calm onto (fun victim here =>
      (target victim here).2) failed
    exact Trans.trans before looked
  rcases Routine.of_bind_error _ _ _ _ _ ran with failed | ⟨_, y, _, ran⟩
  · have looked := middle.moveEntry_error plain calm onto member promised.named short.2 target
      cleared failed
    exact Trans.trans before looked
  rcases Routine.of_bind_error _ _ _ _ _ ran with failed | ⟨_, y, _, ran⟩
  · exact ((writeRenamed_unfailing o call old).not_error failed).elim
  rcases Routine.of_bind_error _ _ _ _ _ ran with failed | ⟨_, y, _, ran⟩
  · exact ((releaseVictim_unfailing o call).not_error failed).elim
  rcases Routine.of_bind_error _ _ _ _ _ ran with failed | ⟨_, y, _, ran⟩
  · exact ((moveCount_unfailing o call old).not_error failed).elim
  rw [commits] at ran
  cases ran

end Refusal

/-- No link count wraps. -/
def Call.Bounded (s : NameState) : Call → Prop
  | .mkdir dir _ _ => s.nlink dir + 1 < 2 ^ 32
  | .link ino _ _ => s.nlink ino + 1 < 2 ^ 32
  | .rename call => s.nlink call.newDir + 1 < 2 ^ 32
  | _ => True

/-- The call makes a file or a directory of its own inode. -/
def Call.makes : Call → Bool
  | .create _ _ _ => true
  | .mkdir _ _ _ => true
  | _ => false

theorem Call.Made.makes {o : Answers} {s : NameState} {call : Call} (made : call.Made o s) :
    call.makes = true := by
  cases call with
  | create dir name mode => rfl
  | mkdir dir name mode => rfl
  | _ => cases made

/-- The directories that a call replaces. -/
def Call.replaces (before : Tree) : Call → Finset Nat
  | .rename call => before.dirs.filter fun dir => call.newInode = some dir
  | _ => ∅

/-- How a call can end: refused without an effect; with its effect, which a failed commit does not
take back; with an inode made and lost; or with its effect and the inode that has lost its last name
not released. A directory that is replaced is always lost. -/
inductive Call.Ends (call : Call) (before : Tree) (lost : Finset Nat) :
    Except Errno Unit → Tree → Finset Nat → Prop where
  | refused (reason : Errno) : Ends call before lost (.error reason) before lost
  | done (result : Except Errno Unit) (after : Tree) (effect : call.Effect before after) :
      Ends call before lost result after (lost ∪ call.replaces before)
  | leaks (reason : Errno) (ino : Nat) (makes : call.makes = true) (new : ino ∉ lost)
      (fresh : ¬ before.Has ino) :
      Ends call before lost (.error reason) before (insert ino lost)
  | strands (reason : Errno) (ino : Nat) (after : Tree) (removed : call.removed = some ino)
      (effect : call.Effect before after) (gone : ¬ after.Has ino) :
      Ends call before lost (.error reason) after (insert ino lost)

theorem Call.Ends.grows {call : Call} {before after : Tree} {lost gone : Finset Nat}
    {result : Except Errno Unit} (ends : call.Ends before lost result after gone) : lost ⊆ gone := by
  cases ends with
  | refused reason => exact Finset.Subset.refl lost
  | done result after effect => exact Finset.subset_union_left
  | leaks reason ino makes new fresh => exact Finset.subset_insert ino lost
  | strands reason ino after removed effect gone => exact Finset.subset_insert ino lost

section Ending

variable {sb : DirSuper} (plain : sb.dirIndex = false) {o : Answers} (calm : Calm o)
  {s t : NameState} {tree : Tree} {lost : Finset Nat} (holds : Holds sb s tree lost)

include plain calm holds

theorem Holds.rename_ends {call : RenameCall} {old : Nat} (promised : call.Promised s old)
    (few : s.nlink call.newDir + 1 < 2 ^ 32)
    (ran : Namei.rename sb o call s = (.ok (), t)) :
    ∃ after, (Call.rename call).Effect tree after ∧
      Holds sb t after (lost ∪ (Call.rename call).replaces tree) := by
  have onto := holds.dir promised.onto.1 promised.onto.2
  have member := holds.entry (holds.dir promised.source.1 promised.source.2) promised.entry
  have writeVictim := calm.writes .writeVictim (by simp)
  by_cases file : ∀ victim, call.newInode = some victim → Inode.sIsDir (s.mode victim) = false
  · obtain ⟨after, effect, done⟩ := holds.call plain (.rename call) ⟨old, promised⟩
      ⟨calm.found, writeVictim, calm.recounts, few, file⟩ ran
    have none : (Call.rename call).replaces tree = ∅ := by
      change tree.dirs.filter _ = ∅
      rw [Finset.filter_eq_empty_iff]
      intro dir inside same
      have type := file dir same
      rw [(holds.counted.dirs dir inside).1] at type
      cases type
    rw [none, Finset.union_empty]
    exact ⟨after, effect, done⟩
  · push Not at file
    obtain ⟨victim, known, type⟩ := file
    obtain ⟨away, names⟩ := promised.victim victim known
    have entry := holds.entry onto names
    have inner : victim ∈ tree.dirs := by
      rcases tree.target_has _ entry with dir | file
      · exact dir
      · exact absurd (holds.counted.files victim file).1 type
    rcases of_rename_ok promised.known ran with ⟨dir, name, _⟩ | ⟨other, ran⟩
    · have same := tree.single _ entry _ member dir.symm name.symm
      rw [Link.mk.injEq] at same
      exact absurd same.2.2 away
    · obtain ⟨after, done, dirs, links, _⟩ := holds.replaceDir plain writeVictim calm.recounts onto member
        promised.named known away entry inner few other ran
      have gone : (Call.rename call).replaces tree = {victim} := by
        change tree.dirs.filter _ = _
        ext dir
        rw [Finset.mem_filter, Finset.mem_singleton, known, Option.some_inj, eq_comm (a := victim)]
        constructor
        · exact And.right
        · rintro rfl
          exact ⟨inner, rfl⟩
      rw [gone, Finset.union_comm, ← Finset.insert_eq]
      refine ⟨after, ⟨old, promised.known, ?_, links⟩, done⟩
      rw [dirs, known]
      ext dir
      rw [Finset.mem_erase, Finset.mem_filter, Ne, Ne, Option.some_inj, and_comm,
        eq_comm (a := victim)]

/-- A call that succeeds ends with its effect. -/
theorem Holds.succeeds (call : Call) (promised : call.Promised s) (bounded : call.Bounded s)
    (ran : call.run sb o s = (.ok (), t)) :
    ∃ after, call.Effect tree after ∧ Holds sb t after (lost ∪ call.replaces tree) := by
  have rest : call.Clean o s → call.replaces tree = ∅ →
      ∃ after, call.Effect tree after ∧ Holds sb t after (lost ∪ call.replaces tree) := by
    intro clean none
    rw [none, Finset.union_empty]
    exact holds.call plain call promised clean ran
  cases call with
  | create dir name mode => exact rest trivial rfl
  | mkdir dir name mode => exact rest ⟨calm.found, bounded⟩ rfl
  | link ino dir name => exact rest bounded rfl
  | symlink dir name symname => exact rest trivial rfl
  | unlink dir name ino => exact rest calm.found rfl
  | rmdir dir name ino => exact rest ⟨calm.found, calm.writes .writeDir (by simp)⟩ rfl
  | rename call =>
      obtain ⟨old, promised⟩ := promised
      exact holds.rename_ends plain calm promised bounded ran

/-- A call that fails before its commit has no effect, or loses the inode it has made, or the one
that it has taken the last name of. -/
theorem Holds.fails (commits : o.outcome .commits = none) (call : Call)
    (promised : call.Promised s) {reason : Errno} (ran : call.run sb o s = (.error reason, t)) :
    (¬ call.Made o s ∧ ¬ call.Removes sb o s ∧ Holds sb t tree lost) ∨
      (call.Made o s ∧ Leaks sb t tree lost) ∨
      (call.Removes sb o s ∧ call.Strands sb t tree lost) := by
  cases call with
  | create dir name mode =>
      rcases holds.create_refused plain calm commits ran with ⟨unmade, kept⟩ | leaks
      · exact Or.inl ⟨unmade, id, kept⟩
      · exact Or.inr (Or.inl leaks)
  | mkdir dir name mode =>
      rcases holds.mkdir_refused plain calm commits promised.1 ran with ⟨unmade, kept⟩ | leaks
      · exact Or.inl ⟨unmade, id, kept⟩
      · exact Or.inr (Or.inl leaks)
  | link ino dir name =>
      exact Or.inl ⟨id, id, holds.looked (holds.link_refused plain calm commits ran)⟩
  | symlink dir name symname =>
      exact Or.inl ⟨id, id, holds.symlink_refused plain calm commits ran⟩
  | unlink dir name ino =>
      rcases holds.unlink_refused plain calm commits promised.1 promised.2.1 promised.2.2 ran with
        ⟨early, same⟩ | strands
      · rw [same]
        exact Or.inl ⟨id, early, holds⟩
      · exact Or.inr (Or.inr strands)
  | rmdir dir name ino =>
      rcases holds.rmdir_refused plain calm commits promised.1 promised.2.1 promised.2.2 ran with
        ⟨early, looked⟩ | strands
      · exact Or.inl ⟨id, early, holds.looked looked⟩
      · exact Or.inr (Or.inr strands)
  | rename call =>
      obtain ⟨old, promised⟩ := promised
      exact Or.inl ⟨id, id, holds.looked (holds.rename_refused plain calm commits promised ran)⟩

/-- A call on a tree ends in one of the ways, and the state holds what that way leaves. -/
theorem Holds.ends (call : Call) (promised : call.Promised s) (bounded : call.Bounded s)
    {result : Except Errno Unit} (ran : call.run sb o s = (result, t)) :
    ∃ after gone, call.Ends tree lost result after gone ∧ Holds sb t after gone := by
  rcases call.settles sb o s with same | ⟨reason, u, _, failed, settled⟩
  · rw [same] at ran
    cases result with
    | ok value =>
        obtain ⟨after, effect, done⟩ := holds.succeeds plain calm.committing call promised bounded ran
        exact ⟨after, _, .done _ after effect, done⟩
    | error reason =>
        rcases holds.fails plain calm.committing rfl call promised ran with
          ⟨_, _, kept⟩ | ⟨made, ino, new, fresh, done⟩ | ⟨_, ino, after, removed, effect, gone, done⟩
        · exact ⟨tree, lost, .refused reason, kept⟩
        · exact ⟨tree, _, .leaks reason ino made.makes new fresh, done⟩
        · exact ⟨after, _, .strands reason ino after removed effect gone, done⟩
  · rw [failed] at ran
    obtain ⟨rfl, rfl⟩ := Prod.mk.inj ran
    obtain ⟨after, effect, done⟩ := holds.succeeds plain calm.committing call promised bounded
      settled
    exact ⟨after, _, .done _ after effect, done⟩

end Ending

/-- A call with what it has returned, an inode that is loaded again, or something beside the
names. -/
inductive Event
  | call (call : Call) (result : Except Errno Unit)
  | reload (ino : Nat)
  | beside

/-- A run of calls that succeed or fail, but not because of a directory block or a slot that cannot
be read or written. -/
inductive CallRun (sb : DirSuper) : NameState → List Event → NameState → Prop where
  | nil (s : NameState) : CallRun sb s [] s
  | call {s u t : NameState} {events : List Event} (o : Answers) (calm : Calm o) (call : Call)
      (result : Except Errno Unit) (promised : call.Promised s) (bounded : call.Bounded s)
      (ran : call.run sb o s = (result, u)) (rest : CallRun sb u events t) :
      CallRun sb s (.call call result :: events) t
  | reload {s t : NameState} {events : List Event} (ino : Nat) (reached : Reached s ino)
      (mode : s.mode ino < 2 ^ 16) (nlink : s.nlink ino < 2 ^ 16)
      (rest : CallRun sb (s.loaded ino) events t) : CallRun sb s (.reload ino :: events) t
  | beside {s u t : NameState} {events : List Event} (step : Beside s u)
      (rest : CallRun sb u events t) : CallRun sb s (.beside :: events) t

/-- The same run on the tree and the set of the lost inodes. -/
inductive Accounts : Tree → Finset Nat → List Event → Tree → Finset Nat → Prop where
  | nil (tree : Tree) (lost : Finset Nat) : Accounts tree lost [] tree lost
  | call {tree middle after : Tree} {lost some_lost gone : Finset Nat} {events : List Event}
      (call : Call) (result : Except Errno Unit)
      (ends : call.Ends tree lost result middle some_lost)
      (rest : Accounts middle some_lost events after gone) :
      Accounts tree lost (.call call result :: events) after gone
  | reload {tree after : Tree} {lost gone : Finset Nat} {events : List Event} (ino : Nat)
      (rest : Accounts tree lost events after gone) :
      Accounts tree lost (.reload ino :: events) after gone
  | beside {tree after : Tree} {lost gone : Finset Nat} {events : List Event}
      (rest : Accounts tree lost events after gone) :
      Accounts tree lost (.beside :: events) after gone

/-- Over any run of calls, failed ones among them, the state holds a tree that each call changes
as it should or not at all, beside inodes that stay marked as used and that nothing reaches: a
creation that fails late adds its own, a removal the inode that it cannot release, a rename the
directory that it replaces. -/
theorem namespace_accounts (sb : DirSuper) (plain : sb.dirIndex = false) (s t : NameState)
    (tree : Tree) (lost : Finset Nat) (events : List Event) (holds : Holds sb s tree lost)
    (ran : CallRun sb s events t) :
    ∃ after gone, Accounts tree lost events after gone ∧ Holds sb t after gone ∧ lost ⊆ gone ∧
      ∀ ino ∈ gone, Balloc.inodeBitmapUsed t.allocator ino = true ∧ ¬ Reached t ino := by
  have run : ∃ after gone, Accounts tree lost events after gone ∧ Holds sb t after gone ∧
      lost ⊆ gone := by
    induction ran generalizing tree lost with
    | nil s => exact ⟨tree, lost, .nil tree lost, holds, Finset.Subset.refl lost⟩
    | call o calm call result promised bounded ran rest ih =>
        obtain ⟨middle, part, ends, next⟩ := holds.ends plain calm call promised bounded ran
        obtain ⟨after, gone, accounts, done, more⟩ := ih middle part next
        exact ⟨after, gone, .call call result ends accounts, done, ends.grows.trans more⟩
    | reload ino reached mode nlink rest ih =>
        have same := (holds.recorded ino (holds.has reached)).loaded mode nlink
        rw [same] at ih
        obtain ⟨after, gone, accounts, done, more⟩ := ih tree lost holds
        exact ⟨after, gone, .reload ino accounts, done, more⟩
    | beside step rest ih =>
        obtain ⟨after, gone, accounts, done, more⟩ := ih tree lost (holds.beside step)
        exact ⟨after, gone, .beside accounts, done, more⟩
  obtain ⟨after, gone, accounts, done, more⟩ := run
  refine ⟨after, gone, accounts, done, more, ?_⟩
  intro ino member
  constructor
  · exact (done.numbered.marked.used ino).mpr (Or.inl member)
  · exact fun reached => done.numbered.apart ino member (done.has reached)

theorem calmAnswers_calm (block : Nat) : Calm (calmAnswers block) :=
  ⟨fun _ => rfl, fun _ _ => rfl, fun _ => rfl, rfl⟩

/-- There is no memory to read the attributes of the inode that is released. -/
def noMemory : Answers := { calmAnswers 28 with
  storage := ⟨{ oneBlock 28 with xattrBlock := 27 }, fun _ => ByteBuf.zero BLOCK_SIZE, [],
    ByteBuf.zero BLOCK_SIZE, { Xattr.Outcomes.calm with rootBuffer := some .enomem }⟩ }

theorem noMemory_calm : Calm noMemory := ⟨fun _ => rfl, fun _ _ => rfl, fun _ => rfl, rfl⟩

/-- The state after a directory has lost its name and has not been released. -/
def strandedState : NameState :=
  (rmdir plainDirSuper noMemory ROOT_INO [97] 2 filledState).2

set_option maxRecDepth 4000 in
/-- A directory is made and loses its name without being released, and a name that is too long costs
another inode. -/
theorem namespace_accounts_small : ∃ t after gone,
    Accounts rootTree ∅
      [.call (.mkdir ROOT_INO [97] 0o755) (.ok ()), .call (.rmdir ROOT_INO [97] 2) (.error .enomem),
        .beside,
        .call (.create ROOT_INO (List.replicate 256 97) 0o644) (.error .enametoolong)] after gone ∧
      Holds plainDirSuper t after gone ∧ ∅ ⊆ gone ∧
      ∀ ino ∈ gone, Balloc.inodeBitmapUsed t.allocator ino = true ∧ ¬ Reached t ino := by
  have two : 2 + 1 < 2 ^ 32 := by decide
  refine ⟨_, namespace_accounts plainDirSuper rfl rootState _ rootTree ∅ _ rootState_holds
    (CallRun.call (calmAnswers 28) (calmAnswers_calm 28) (.mkdir ROOT_INO [97] 0o755) (.ok ())
      ⟨⟨Reached.root, by decide⟩, by decide, by decide⟩ two
      (show _ = (_, filledState) from Prod.ext (by rfl) rfl)
    (CallRun.call noMemory noMemory_calm (.rmdir ROOT_INO [97] 2) (.error .enomem)
      ⟨⟨Reached.root, by rfl⟩, filledState_isDir, filledState_names⟩ trivial
      (show _ = (_, strandedState) from Prod.ext (by rfl) rfl)
    (CallRun.beside (Std.Refl.refl strandedState)
    (CallRun.call (calmAnswers 28) (calmAnswers_calm 28)
      (.create ROOT_INO (List.replicate 256 97) 0o644) (.error .enametoolong)
      ⟨⟨Reached.root, by rfl⟩, by decide, by decide⟩ trivial (Prod.ext (by rfl) rfl)
    (CallRun.nil _)))))⟩

end Namei

end Cryexts
