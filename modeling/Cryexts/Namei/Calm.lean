import Cryexts.Namei.Below
import Cryexts.Namei.Settling

set_option autoImplicit false

namespace Cryexts

namespace Namei

open Balloc (Allocator)
open Dir (DirState DirSuper)
open WriteLog (store store_same store_other store_eq_self)

/-- No block of a directory and no slot fails to be read or written. Allocations may still fail,
and so may the journal and the release of an inode without names. -/
structure Calm (o : Answers) : Prop where
  faults : ∀ site, o.faults site = []
  writes : ∀ site, site ∈ [Site.writeNew, .writeDir, .writeTarget, .writeVictim, .countOldDir,
    .countNewDir] → o.outcome site = none
  parents : ∀ turns, o.outcome (.parent turns) = none
  found : o.found = true

theorem Calm.committing {o : Answers} (calm : Calm o) : Calm o.committing where
  faults := calm.faults
  writes := by
    intro site member
    change (if site = .commits then none else o.outcome site) = none
    split
    · rfl
    · exact calm.writes site member
  parents := calm.parents
  found := calm.found

section Entries

variable {sb : DirSuper} {o : Answers} (calm : Calm o) {s t : NameState} {tree : Tree}
  {lost : Finset Nat}

include calm

/-- An addition that fails without faults has changed nothing. -/
theorem addEntry_looked (plain : sb.dirIndex = false) {site : DirSite} {dir ino mode : Nat}
    {name : List UInt8} {reason : Errno}
    (ran : addEntry sb o site dir name ino mode s = (.error reason, t)) : Looked s t := by
  rcases Routine.of_bind_error _ _ _ _ _ ran with failed | ⟨_, _, _, ran⟩
  · obtain ⟨result, final⟩ := Prod.mk.inj failed
    have refused : Dir.addEntry sb name ino (fileType mode) { s.dirs dir with
        grants := o.grants site, faults := o.faults site } = (.error reason, _) :=
      Prod.ext result rfl
    have same := addEntry_refused (by exact calm.faults site) plain refused
    rw [← final]
    refine ⟨rfl, rfl, rfl, ?_, ?_⟩
    · intro other
      change (store s.dirs dir _ other).blocks = _
      by_cases here : other = dir
      · rw [here, store_same]
        exact same.1
      · rw [store_other _ _ _ _ here]
    · intro other
      change (store s.dirs dir _ other).index = _
      by_cases here : other = dir
      · rw [here, store_same]
        exact same.2
      · rw [store_other _ _ _ _ here]
  · cases ran

/-- A name of the tree can be deleted. -/
theorem Listed.deletes (plain : sb.dirIndex = false) {inside : Finset Nat} {parent : Nat → Nat}
    {links : Finset Entry} (listed : Listed sb s.dirs s.mode inside parent links)
    {link : Entry} (member : link ∈ links) (holder : link.holder ∈ inside) (site : DirSite) :
    ∃ u, deleteEntry sb o site link.holder link.name s = (.ok (), u) := by
  have listing : Listing sb { s.dirs link.holder with
      grants := o.grants site, faults := o.faults site } s.mode link.holder (parent link.holder)
      fun name ino => (⟨link.holder, name, ino⟩ : Entry) ∈ links :=
    (listed link.holder holder).reads rfl rfl
  obtain ⟨after, ran⟩ := listing.deletes (calm.faults site) plain member
  exact ⟨_, Routine.bind_ok _ _ _ _ _ (onDir_ok ran)⟩

end Entries

theorem Calm.recounts {o : Answers} (calm : Calm o) : o.Recounts :=
  ⟨calm.writes .countOldDir (by simp), calm.writes .countNewDir (by simp)⟩

section Creations

variable {sb : DirSuper} {o : Answers} {s t : NameState} {tree : Tree} {lost : Finset Nat}
  {ino mode : Nat}

/-- A spare inode that is given up keeps its number. -/
theorem Spare.abandoned (spare : Spare sb s tree ino mode lost) :
    Holds sb s tree (insert ino lost) :=
  ⟨spare.listed, spare.counted, fun node here => spare.recorded node (Or.inr here),
    spare.numbered.lose (fun _ => Iff.rfl) spare.fresh, spare.sized⟩

theorem Spare.leaving (spare : Spare sb s tree ino mode lost) : Leaving sb s tree ino lost :=
  ⟨spare.listed, spare.counted, fun node here => spare.recorded node (Or.inr here),
    spare.numbered, spare.sized, spare.fresh⟩

theorem Leaving.looked (leaving : Leaving sb s tree ino lost) (looked : Looked s t) :
    Leaving sb t tree ino lost := by
  refine ⟨leaving.listed.looked looked, ?_, ?_, ?_, ?_, leaving.fresh⟩
  · rw [looked.mode, looked.nlink]
    exact leaving.counted
  · intro node here
    apply (leaving.recorded node here).frame
    · rw [looked.allocator]
    · rw [looked.mode]
    · rw [looked.nlink]
  · rw [looked.allocator]
    exact leaving.numbered
  · rw [looked.allocator]
    exact leaving.sized

/-- An inode outside the tree may leave memory. -/
theorem Holds.discarded (holds : Holds sb s tree lost) (fresh : ¬ tree.Has ino) :
    Holds sb (s.loaded ino) tree lost := by
  have kept := holds.outside fresh ((s.allocator.inodeTable ino).get DiskInode.mode)
    ((s.allocator.inodeTable ino).get DiskInode.linksCount) (s.dirs ino)
  rw [store_eq_self _ _ _ rfl] at kept
  exact kept

theorem Holds.outsideDir (holds : Holds sb s tree lost) (fresh : ¬ tree.Has ino)
    (state : DirState) : Holds sb (s.withDir ino state) tree lost := by
  have kept := holds.outside fresh (s.mode ino) (s.nlink ino) state
  rw [store_eq_self _ _ _ rfl, store_eq_self _ _ _ rfl] at kept
  exact kept

end Creations

section Failing

variable {o : Answers} {s t : NameState} {reason : Errno}

theorem of_require_bind_error {α : Type} {condition : Prop} [Decidable condition] {early : Errno}
    {next : Unit → NameOp α}
    (ran : ((Routine.require condition early : NameOp Unit) >>= next) s = (.error reason, t)) :
    t = s ∨ next () s = (.error reason, t) := by
  rcases Routine.of_bind_error _ _ _ _ _ ran with failed | ⟨_, u, passed, ran⟩
  · exact Or.inl (Routine.of_require_error _ _ _ _ _ failed).2
  · rw [(Routine.of_require_ok _ _ _ _ passed).2] at ran
    exact Or.inr ran

/-- A call that fails in a part that only looks, or goes on behind it. -/
theorem of_looks_bind_error {α β : Type} {first : NameOp α} {next : α → NameOp β}
    (looks : Routine.Moves Looked first) (ran : (first >>= next) s = (.error reason, t)) :
    Looked s t ∨ ∃ value u, first s = (.ok value, u) ∧ Looked s u ∧
      next value u = (.error reason, t) := by
  rcases Routine.of_bind_error _ _ _ _ _ ran with failed | ⟨value, u, passed, ran⟩
  · exact Or.inl (looks.of_run failed)
  · exact Or.inr ⟨value, u, passed, looks.of_run passed, ran⟩

end Failing

section Refusals

variable {sb : DirSuper} (plain : sb.dirIndex = false) {o : Answers} (calm : Calm o)
  (commits : o.outcome .commits = none) {s t : NameState} {tree : Tree} {lost : Finset Nat}
  (holds : Holds sb s tree lost) {reason : Errno}

/-- The call gets as far as an inode of its own, which it would not give back. -/
def Call.Made (o : Answers) (s : NameState) : Call → Prop
  | .create dir _ mode => o.outcome .begins = none ∧
      ∃ ino t, newInode o dir (S_IFREG ||| mode) s = (.ok ino, t)
  | .mkdir dir _ mode => o.outcome .begins = none ∧ ∃ block after ino t,
      Balloc.allocBlockGoal o.goalBlock o.goalGroup s.allocator = (.ok block, after) ∧
        newInode o dir (S_IFDIR ||| mode) { s with allocator := after } = (.ok ino, t)
  | _ => False

/-- The call gets as far as the deletion of its entry. -/
def Call.Removes (sb : DirSuper) (o : Answers) (s : NameState) : Call → Prop
  | .unlink _ _ ino => o.outcome .begins = none ∧ flushLast o ino s = (.ok (), s)
  | .rmdir _ _ ino => o.outcome .begins = none ∧
      ∃ t, onDir o .empty ino (dirEmpty sb) s = (.ok true, t)
  | _ => False

/-- The inode whose name a call takes away. -/
def Call.removed : Call → Option Nat
  | .unlink _ _ ino => some ino
  | .rmdir _ _ ino => some ino
  | _ => none

/-- The call has had its effect, and the inode without names is still marked as used. -/
def Call.Strands (call : Call) (sb : DirSuper) (t : NameState) (tree : Tree)
    (lost : Finset Nat) : Prop :=
  ∃ ino after, call.removed = some ino ∧ call.Effect tree after ∧ ¬ after.Has ino ∧
    Holds sb t after (insert ino lost)

/-- One more inode is marked as used and has no name. -/
def Leaks (sb : DirSuper) (t : NameState) (tree : Tree) (lost : Finset Nat) : Prop :=
  ∃ ino, ino ∉ lost ∧ ¬ tree.Has ino ∧ Holds sb t tree (insert ino lost)

theorem Spare.unlost {ino mode : Nat} (spare : Spare sb s tree ino mode lost) : ino ∉ lost :=
  fun gone => spare.numbered.apart ino gone (Or.inl rfl)

include plain calm holds

omit calm in
theorem Holds.linkDir_refused (calm : Calm o) {dir mode ino : Nat} {name : List UInt8}
    (fresh : ¬ tree.Has ino) (ran : linkDir sb o dir name mode ino s = (.error reason, t)) :
    Holds sb t tree lost := by
  rcases Routine.of_bind_error _ _ _ _ _ ran with failed | ⟨_, u, made, ran⟩
  · rw [← (Prod.mk.inj failed).2]
    exact holds.outsideDir fresh _
  have start : Holds sb u tree lost := by
    rw [← (Prod.mk.inj made).2]
    exact holds.outsideDir fresh _
  rcases Routine.of_bind_error _ _ _ _ _ ran with failed | ⟨_, v, _, ran⟩
  · exact start.looked (addEntry_looked calm plain failed)
  rw [incNlink, Routine.modify_bind, writeInodeToDisk_calm dir (calm.writes .writeDir (by simp))]
    at ran
  cases ran

include commits

/-- A failed `cryexts_create` has changed nothing, or lost the number of its inode. -/
theorem Holds.create_refused {dir mode : Nat} {name : List UInt8}
    (ran : Namei.create sb o dir name mode s = (.error reason, t)) :
    (¬ (Call.create dir name mode).Made o s ∧ Holds sb t tree lost) ∨
      ((Call.create dir name mode).Made o s ∧ Leaks sb t tree lost) := by
  rcases Routine.of_bind_error _ _ _ _ _ ran with failed | ⟨_, u, begun, ran⟩
  · obtain ⟨rfl, refused⟩ := Routine.of_answer_error failed
    refine Or.inl ⟨?_, holds⟩
    rintro ⟨begins, _⟩
    rw [begins] at refused
    cases refused
  obtain ⟨begins, same⟩ := Routine.of_answer_ok begun
  rw [same] at ran
  rcases Routine.of_bind_error _ _ _ _ _ ran with failed | ⟨ino, v, made, ran⟩
  · refine Or.inl ⟨?_, holds.inodeRefused calm.found failed⟩
    rintro ⟨_, ino, v, made⟩
    rw [failed] at made
    cases made
  have spare := holds.inodeMade made
  rcases Routine.of_bind_error _ _ _ _ _ ran with failed | ⟨_, w, _, ran⟩
  · refine Or.inr ⟨⟨begins, ino, v, made⟩, ?_⟩
    obtain ⟨v, refused, final⟩ := Routine.of_onFailure_error failed
    have looked := addEntry_looked calm plain refused
    refine ⟨ino, spare.unlost, spare.fresh, ?_⟩
    rw [final]
    exact (spare.abandoned.looked looked).discarded spare.fresh
  · rw [commits] at ran
    cases ran

/-- A failed `cryexts_mkdir` has changed nothing, or lost the number of its inode. -/
theorem Holds.mkdir_refused {dir mode : Nat} {name : List UInt8} (parent : IsDir s dir)
    (ran : Namei.mkdir sb o dir name mode s = (.error reason, t)) :
    (¬ (Call.mkdir dir name mode).Made o s ∧ Holds sb t tree lost) ∨
      ((Call.mkdir dir name mode).Made o s ∧ Leaks sb t tree lost) := by
  have range := holds.range (Or.inl (holds.dir parent.1 parent.2))
  rcases Routine.of_bind_error _ _ _ _ _ ran with failed | ⟨_, v, begun, ran⟩
  · obtain ⟨rfl, refused⟩ := Routine.of_answer_error failed
    refine Or.inl ⟨?_, holds⟩
    rintro ⟨begins, _⟩
    rw [begins] at refused
    cases refused
  obtain ⟨begins, same⟩ := Routine.of_answer_ok begun
  rw [same] at ran
  have start := holds.beside (Reblocks.beside fun sound =>
    reblocked_allocBlockGoal sound o.goalBlock o.goalGroup)
  rcases Routine.of_bind_error _ _ _ _ _ ran with failed | ⟨block, u, given, ran⟩
  · refine Or.inl ⟨?_, by rw [← (Prod.mk.inj failed).2]; exact start⟩
    rintro ⟨_, block, after, _, _, taken, _⟩
    have refused := (Prod.mk.inj failed).1
    rw [taken] at refused
    cases refused
  have same : u = { s with allocator :=
      (Balloc.allocBlockGoal o.goalBlock o.goalGroup s.allocator).2 } := (Prod.mk.inj given).2.symm
  rw [← same] at start
  rw [Routine.attempt_bind] at ran
  cases made : newInode o dir (S_IFDIR ||| mode) u with
  | mk outcome v =>
      rw [made] at ran
      cases outcome with
      | error early => cases ran
      | ok ino =>
          have spare := start.inodeMade made
          rcases Routine.of_bind_error _ _ _ _ _ ran with failed | ⟨_, w, _, ran⟩
          · obtain ⟨after, taken, grown⟩ := Routine.of_onPart given
            rw [grown] at made
            refine Or.inr ⟨⟨begins, block, after, ino, v, taken, made⟩, ?_⟩
            obtain ⟨w, refused, final⟩ := Routine.of_onFailure_error failed
            refine ⟨ino, spare.unlost, spare.fresh, ?_⟩
            have linked := spare.abandoned.linkDir_refused plain calm spare.fresh refused
            rw [final]
            exact (linked.discarded spare.fresh).beside
              (withAllocator_beside (freeBlock_reblocks block) _)
          · rw [commits] at ran
            cases ran

/-- A failed `cryexts_link` has changed nothing. -/
theorem Holds.link_refused {ino dir : Nat} {name : List UInt8}
    (ran : Namei.link sb o ino dir name s = (.error reason, t)) : Looked s t := by
  rcases Routine.of_answer_bind_error ran with rfl | ran
  · exact Std.Refl.refl _
  rw [Routine.read_bind] at ran
  rcases of_require_bind_error ran with rfl | ran
  · exact Std.Refl.refl _
  rcases Routine.of_bind_error _ _ _ _ _ ran with failed | ⟨_, u, _, ran⟩
  · exact addEntry_looked calm plain failed
  rw [incNlink, Routine.modify_bind] at ran
  have wrote := writeInodeToDisk_calm (s := u.counted ino (u32 (u.nlink ino + 1))) ino
    (calm.writes .writeTarget (by simp))
  rw [Routine.bind_ok _ _ _ _ _ (Routine.onFailure_ok _ _ _ _ _ wrote), commits] at ran
  cases ran

/-- A failed `cryexts_symlink` has given everything back. -/
theorem Holds.symlink_refused {dir : Nat} {name symname : List UInt8}
    (ran : Namei.symlink sb o dir name symname s = (.error reason, t)) : Holds sb t tree lost := by
  rcases Routine.of_answer_bind_error ran with rfl | ran
  · exact holds
  rcases of_require_bind_error ran with rfl | ran
  · exact holds
  rcases of_require_bind_error ran with rfl | ran
  · exact holds
  rcases Routine.of_bind_error _ _ _ _ _ ran with failed | ⟨ino, u, made, ran⟩
  · exact holds.inodeRefused calm.found failed
  have spare := holds.inodeMade made
  rcases Routine.of_bind_error _ _ _ _ _ ran with failed | ⟨_, v, _, ran⟩
  · obtain ⟨v, refused, final⟩ := Routine.of_onFailure_error failed
    have leaving : Leaving sb v tree ino lost := by
      rcases Routine.of_bind_error _ _ _ _ _ refused with failed | ⟨_, w, wrote, refused⟩
      · rcases Routine.of_answer_bind_error failed with rfl | failed
        · exact spare.leaving
        · cases failed
      · rw [of_writeInodeToDisk_ok wrote] at refused
        exact (spare.leaving.written ino).looked (addEntry_looked calm plain refused)
    have freed := (leaving.beside (releaseInodeStorage_beside o ino v)).freed.discarded spare.fresh
    rw [Routine.ignored_bind, Routine.ignored_bind, freeInode, calm.found] at final
    rw [final]
    exact freed
  · rw [commits] at ran
    cases ran

/-- A failed `cryexts_unlink` has changed nothing, or the release of the file has failed. -/
theorem Holds.unlink_refused {dir ino : Nat} {name : List UInt8} (parent : IsDir s dir)
    (target : IsFile s ino) (entry : Names s dir name ino)
    (ran : Namei.unlink sb o dir name ino s = (.error reason, t)) :
    (¬ (Call.unlink dir name ino).Removes sb o s ∧ t = s) ∨
      ((Call.unlink dir name ino).Removes sb o s ∧
        (Call.unlink dir name ino).Strands sb t tree lost) := by
  have inside := holds.dir parent.1 parent.2
  have file := holds.file target.1 target.2
  have member := holds.entry inside entry
  rcases Routine.of_bind_error _ _ _ _ _ ran with failed | ⟨_, u, flushed, ran⟩
  · refine Or.inl ⟨?_, ?_⟩
    · rintro ⟨_, flushed⟩
      rw [failed] at flushed
      cases flushed
    · unfold flushLast at failed
      rw [Routine.read_bind] at failed
      split at failed
      · exact (Routine.of_answer_error failed).1
      · cases failed
  rw [of_flushLast_ok flushed] at ran flushed
  rcases Routine.of_bind_error _ _ _ _ _ ran with failed | ⟨_, v, begun, ran⟩
  · obtain ⟨same, refused⟩ := Routine.of_answer_error failed
    refine Or.inl ⟨?_, same⟩
    rintro ⟨begins, _⟩
    rw [begins] at refused
    cases refused
  obtain ⟨begins, same⟩ := Routine.of_answer_ok begun
  rw [same] at ran
  refine Or.inr ⟨⟨begins, flushed⟩, ?_⟩
  obtain ⟨v, gone⟩ := holds.listed.deletes calm plain member inside .delete
  obtain ⟨state, deleted, rfl⟩ := of_deleteEntry_ok gone
  rw [Routine.bind_ok _ _ _ _ _ gone, Namei.dropNlink, Routine.modify_bind,
    Routine.bind_ok _ _ _ _ _ (writeInodeToDisk_calm ino (calm.writes .writeTarget (by simp)))]
    at ran
  obtain ⟨_, last⟩ := holds.unnamed plain member file deleted rfl
  rcases Routine.of_bind_error _ _ _ _ _ ran with failed | ⟨_, w, _, ran⟩
  · unfold disposeUnnamed at failed
    rw [Routine.read_bind] at failed
    split at failed
    · rename_i none
      have leaving := last none
      exact ⟨ino, tree.removeFile ⟨dir, name, ino⟩ file, rfl, ⟨member, rfl, rfl⟩, leaving.fresh,
        leaving.undisposed failed⟩
    · cases failed
  · rw [commits] at ran
    cases ran

/-- A failed `cryexts_rmdir` has changed nothing, or the release of the directory has failed. -/
theorem Holds.rmdir_refused {dir ino : Nat} {name : List UInt8} (parent : IsDir s dir)
    (target : IsDir s ino) (entry : Names s dir name ino)
    (ran : Namei.rmdir sb o dir name ino s = (.error reason, t)) :
    (¬ (Call.rmdir dir name ino).Removes sb o s ∧ Looked s t) ∨
      ((Call.rmdir dir name ino).Removes sb o s ∧
        (Call.rmdir dir name ino).Strands sb t tree lost) := by
  have inside := holds.dir parent.1 parent.2
  have inner := holds.dir target.1 target.2
  have member := holds.entry inside entry
  rcases Routine.of_bind_error _ _ _ _ _ ran with failed | ⟨_, u, begun, ran⟩
  · obtain ⟨rfl, refused⟩ := Routine.of_answer_error failed
    refine Or.inl ⟨?_, Std.Refl.refl _⟩
    rintro ⟨begins, _⟩
    rw [begins] at refused
    cases refused
  obtain ⟨begins, same⟩ := Routine.of_answer_ok begun
  rw [same] at ran
  have looks := onDir_looks (o := o) .empty ino (dirEmpty_reads sb)
  rcases Routine.of_bind_error _ _ _ _ _ ran with failed | ⟨vacant, u, seen, ran⟩
  · refine Or.inl ⟨?_, looks.of_run failed⟩
    rintro ⟨_, w, found⟩
    rw [failed] at found
    cases found
  have looked := looks.of_run seen
  rcases Routine.of_bind_error _ _ _ _ _ ran with failed | ⟨_, v, passed, ran⟩
  · obtain ⟨full, same⟩ := Routine.of_require_error _ _ _ _ _ failed
    rw [same]
    refine Or.inl ⟨?_, looked⟩
    rintro ⟨_, w, found⟩
    rw [found] at seen
    exact full (Except.ok.inj (Prod.mk.inj seen).1).symm
  obtain ⟨empty, same⟩ := Routine.of_require_ok _ _ _ _ passed
  rw [same] at ran
  rw [empty] at seen
  refine Or.inr ⟨⟨begins, u, seen⟩, ?_⟩
  have empty := holds.vacant_empty inner seen
  have after := holds.looked looked
  obtain ⟨v, gone⟩ := after.listed.deletes calm plain member inside .delete
  obtain ⟨state, deleted, rfl⟩ := of_deleteEntry_ok gone
  rw [Routine.bind_ok _ _ _ _ _ gone, clearNlink, Routine.modify_bind, Namei.dropNlink,
    Routine.modify_bind, Routine.ignored_bind, Routine.ignored_bind,
    writeInodeToDisk_calm dir (calm.writes .writeDir (by simp))] at ran
  have leaving := after.vacant plain member inner empty deleted rfl
    (writeInodeToDisk_cases (o := o) .writeTarget ino)
  rcases Routine.of_bind_error _ _ _ _ _ ran with failed | ⟨_, w, _, ran⟩
  · exact ⟨ino, tree.removeDir ⟨dir, name, ino⟩ member inner empty, rfl,
      ⟨member, empty, rfl, rfl⟩, leaving.fresh, leaving.undisposed failed⟩
  · rw [commits] at ran
    cases ran

end Refusals

end Namei

end Cryexts
