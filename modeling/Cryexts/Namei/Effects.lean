import Cryexts.Namei.Holds

set_option autoImplicit false

namespace Cryexts

namespace Namei

open Balloc (Allocator)
open Dir (DirOp DirState DirSuper)
open WriteLog (store store_same store_other)

section Slots

variable {s t : NameState} {ino : Nat}

theorem Recorded.frame (recorded : Recorded s ino)
    (table : t.allocator.inodeTable ino = s.allocator.inodeTable ino)
    (mode : t.mode ino = s.mode ino) (nlink : t.nlink ino = s.nlink ino) : Recorded t ino := by
  unfold Recorded at recorded ⊢
  rw [table, mode, nlink]
  exact recorded

theorem written_same (s : NameState) (ino : Nat) : Recorded (s.written ino) ino := by
  unfold Recorded NameState.written
  simp only [store_same]
  constructor
  · rw [ByteBuf.get_set_apart _ _ _ _ (by decide), ByteBuf.get_set_same _ _ _ (by decide)]
    rfl
  · rw [ByteBuf.get_set_same _ _ _ (by decide)]
    rfl

theorem Recorded.written (recorded : Recorded s ino) (other : Nat) :
    Recorded (s.written other) ino := by
  by_cases same : ino = other
  · rw [← same]
    exact written_same s ino
  · exact recorded.frame (store_other _ _ _ _ same) rfl rfl

theorem Recorded.counted (recorded : Recorded s ino) (other count : Nat) (away : ino ≠ other) :
    Recorded (s.counted other count) ino :=
  recorded.frame rfl rfl (store_other _ _ _ _ away)

/-- An inode whose counts fit its slot is read back as it was. -/
theorem Recorded.loaded (recorded : Recorded s ino) (mode : s.mode ino < 2 ^ 16)
    (nlink : s.nlink ino < 2 ^ 16) : s.loaded ino = s := by
  obtain ⟨type, links⟩ := recorded
  rw [Nat.mod_eq_of_lt mode] at type
  rw [Nat.mod_eq_of_lt nlink] at links
  rw [NameState.loaded, type, links, WriteLog.store_eq_self _ _ _ rfl,
    WriteLog.store_eq_self _ _ _ rfl]

end Slots

section Inversion

variable {sb : DirSuper} {o : Answers} {s t : NameState}

theorem of_writeInodeToDisk_ok {site : Site} {ino : Nat}
    (ran : writeInodeToDisk o site ino s = (.ok (), t)) : t = s.written ino :=
  (Prod.mk.inj (Routine.of_answer_bind_ok ran).2).2.symm

theorem writeInodeToDisk_calm {site : Site} (ino : Nat) (calm : o.outcome site = none) :
    writeInodeToDisk o site ino s = (.ok (), s.written ino) :=
  Routine.answer_none_bind _ calm

/-- A write whose failure is ignored has happened or not. -/
theorem writeInodeToDisk_cases (site : Site) (ino : Nat) :
    (writeInodeToDisk o site ino s).2 = s ∨ (writeInodeToDisk o site ino s).2 = s.written ino := by
  cases outcome : o.outcome site with
  | none =>
      right
      rw [writeInodeToDisk_calm ino outcome]
  | some reason =>
      left
      unfold writeInodeToDisk
      rw [outcome]
      rfl

theorem of_onDir_ok {α : Type} {site : DirSite} {dir : Nat} {op : DirOp α} {value : α}
    (ran : onDir o site dir op s = (.ok value, t)) :
    ∃ state, op { s.dirs dir with grants := o.grants site, faults := o.faults site } =
      (.ok value, state) ∧ t = s.withDir dir state := Routine.of_onPart ran

theorem onDir_ok {α : Type} {site : DirSite} {dir : Nat} {op : DirOp α} {value : α}
    {state : DirState}
    (ran : op { s.dirs dir with grants := o.grants site, faults := o.faults site } =
      (.ok value, state)) : onDir o site dir op s = (.ok value, s.withDir dir state) :=
  Routine.onPart_run ran

theorem of_addEntry_ok {site : DirSite} {dir ino mode : Nat} {name : List UInt8}
    (ran : addEntry sb o site dir name ino mode s = (.ok (), t)) :
    ∃ state, Dir.addEntry sb name ino (fileType mode)
        { s.dirs dir with grants := o.grants site, faults := o.faults site } = (.ok (), state) ∧
      t = (s.withDir dir state).written dir := by
  obtain ⟨_, after, added, ran⟩ := Routine.of_bind_ok _ _ _ _ _ ran
  obtain ⟨state, done, rfl⟩ := of_onDir_ok added
  exact ⟨state, done, (Prod.mk.inj ran).2.symm⟩

theorem of_deleteEntry_ok {site : DirSite} {dir : Nat} {name : List UInt8}
    (ran : deleteEntry sb o site dir name s = (.ok (), t)) :
    ∃ state, Dir.deleteEntry sb name
        { s.dirs dir with grants := o.grants site, faults := o.faults site } = (.ok (), state) ∧
      t = (s.withDir dir state).written dir := by
  obtain ⟨_, after, deleted, ran⟩ := Routine.of_bind_ok _ _ _ _ _ ran
  obtain ⟨state, done, rfl⟩ := of_onDir_ok deleted
  exact ⟨state, done, (Prod.mk.inj ran).2.symm⟩

theorem of_updateDirParent_ok {site : DirSite} {dir parent : Nat}
    (ran : updateDirParent sb o site dir parent s = (.ok (), t)) :
    ∃ state, retargetEntry sb parent
        { s.dirs dir with grants := o.grants site, faults := o.faults site } = (.ok (), state) ∧
      t = (s.withDir dir state).written dir := by
  obtain ⟨_, after, updated, ran⟩ := Routine.of_bind_ok _ _ _ _ _ ran
  obtain ⟨state, done, rfl⟩ := of_onDir_ok updated
  exact ⟨state, done, (Prod.mk.inj ran).2.symm⟩

/-- A successful `cryexts_new_inode` has taken a number and written a slot. -/
theorem of_newInode_ok {dir mode ino : Nat} (ran : newInode o dir mode s = (.ok ino, t)) :
    ∃ goalGroup after, Balloc.allocInodeGoal goalGroup s.allocator = (.ok ino, after) ∧
      t = (({ s with allocator := after } : NameState).started ino mode).written ino := by
  unfold newInode at ran
  rw [Routine.read_bind] at ran
  obtain ⟨number, taken, allocated, ran⟩ := Routine.of_bind_ok _ _ _ _ _ ran
  obtain ⟨after, given, rfl⟩ := Routine.of_onPart allocated
  have begun := (Routine.of_answer_bind_ok (Routine.of_onFailure_ok ran)).2
  have made := (Routine.of_answer_bind_ok begun).2
  rw [Routine.modify_bind] at made
  obtain ⟨_, late, wrote, final⟩ := Routine.of_bind_ok _ _ _ _ _ made
  have same := of_writeInodeToDisk_ok (Routine.of_onFailure_ok wrote)
  obtain ⟨number_eq, last⟩ := Prod.mk.inj final
  have number_eq := Except.ok.inj number_eq
  subst number_eq
  exact ⟨_, after, given, last.symm.trans same⟩

/-- A failed `cryexts_new_inode` gives the number back, if the slot can be read. -/
theorem of_newInode_error {dir mode : Nat} {reason : Errno} (found : o.found = true)
    (ran : newInode o dir mode s = (.error reason, t)) :
    (∃ goalGroup after, Balloc.allocInodeGoal goalGroup s.allocator =
        (.error reason, after) ∧ t = { s with allocator := after }) ∨
      ∃ goalGroup ino after, Balloc.allocInodeGoal goalGroup s.allocator = (.ok ino, after) ∧
        (t = { s with allocator := (Balloc.freeInode ino true after).2 } ∨
          ∃ mode nlink state, t = { s with
            allocator := (Balloc.freeInode ino true after).2
            mode := store s.mode ino mode
            nlink := store s.nlink ino nlink
            dirs := store s.dirs ino state }) := by
  unfold newInode at ran
  rw [Routine.read_bind] at ran
  rcases Routine.of_bind_error _ _ _ _ _ ran with failed | ⟨ino, taken, allocated, ran⟩
  · obtain ⟨result, final⟩ := Prod.mk.inj failed
    exact Or.inl ⟨_, _, Prod.ext result rfl, final.symm⟩
  · obtain ⟨after, given, rfl⟩ := Routine.of_onPart allocated
    right
    refine ⟨_, ino, after, given, ?_⟩
    have freed : ∀ u : NameState, (freeInode o ino u).2 =
        { u with allocator := (Balloc.freeInode ino true u.allocator).2 } := by
      intro u
      rw [freeInode, found]
      rfl
    cases first : o.outcome .newInode with
    | some early =>
        left
        rw [Routine.onFailure_error _ _ _ { s with allocator := after } early (by
          rw [first]
          rfl), freed] at ran
        exact (Prod.mk.inj ran).2.symm
    | none =>
        cases second : o.outcome .insert with
        | some early =>
            left
            rw [Routine.onFailure_error _ _ _ { s with allocator := after } early (by
              rw [first, second]
              rfl), freed] at ran
            exact (Prod.mk.inj ran).2.symm
        | none =>
            cases third : o.outcome .writeNew with
            | none =>
                rw [first, second] at ran
                have wrote : writeInodeToDisk o .writeNew ino
                    (({ s with allocator := after } : NameState).started ino mode) =
                    (.ok (), _) := writeInodeToDisk_calm ino third
                rw [Routine.onFailure_ok _ _ _ _ ino (by
                  rw [Routine.answer_none_bind _ rfl, Routine.answer_none_bind _ rfl, Routine.modify_bind,
                    Routine.bind_ok _ _ _ _ _ (Routine.onFailure_ok _ _ _ _ _ wrote)]
                  rfl)] at ran
                cases ran
            | some early =>
                right
                have refused : writeInodeToDisk o .writeNew ino
                    (({ s with allocator := after } : NameState).started ino mode) =
                    (.error early, ({ s with allocator := after } : NameState).started ino mode) := by
                  unfold writeInodeToDisk
                  rw [third]
                  rfl
                rw [first, second] at ran
                rw [Routine.onFailure_error _ _ _ ((({ s with allocator := after } :
                    NameState).started ino mode).loaded ino) early (by
                  rw [Routine.answer_none_bind _ rfl, Routine.answer_none_bind _ rfl, Routine.modify_bind,
                    Routine.bind_error _ _ _ _ _ (Routine.onFailure_error _ _ _ _ _ refused)]
                  rfl), freed] at ran
                refine ⟨(after.inodeTable ino).get DiskInode.mode,
                  (after.inodeTable ino).get DiskInode.linksCount, ⟨[], none, [], []⟩, ?_⟩
                rw [← (Prod.mk.inj ran).2]
                simp only [NameState.loaded, NameState.started, WriteLog.store_store]

end Inversion

end Namei

end Cryexts
