import Cryexts.Namei.Calm

set_option autoImplicit false

namespace Cryexts

namespace Namei

open Dir (DirState DirSuper)
open Linked (Above Climbs)
open WriteLog (store store_same store_other store_eq_self store_store)

section Rewriting

variable {sb : DirSuper} {o : Answers} {s t : NameState}

/-- Writing an inode twice is writing it once. -/
theorem written_written (s : NameState) (ino : Nat) :
    (s.written ino).written ino = s.written ino := by
  unfold NameState.written
  simp only [store_same, store_store]
  rw [ByteBuf.set_comm _ DiskInode.linksCount DiskInode.mode _ _ (by decide), ByteBuf.set_set,
    ByteBuf.set_set]

theorem addEntry_written {site : DirSite} {dir ino mode : Nat} {name : List UInt8}
    (ran : addEntry sb o site dir name ino mode s = (.ok (), t)) :
    addEntry sb o site dir name ino mode (s.written dir) = (.ok (), t) := by
  obtain ⟨state, added, rfl⟩ := of_addEntry_ok ran
  have here : onDir o site dir (Dir.addEntry sb name ino (fileType mode)) (s.written dir) =
      (.ok (), (s.written dir).withDir dir state) := onDir_ok added
  unfold addEntry
  rw [Routine.bind_ok _ _ _ _ _ here]
  exact Prod.ext rfl (written_written (s.withDir dir state) dir)

/-- A rename writes the new parent anyway. -/
theorem moveEntry_written {call : RenameCall} {old : Nat}
    (ran : moveEntry sb o call old s = (.ok (), t)) :
    moveEntry sb o call old (s.written call.newDir) = (.ok (), t) := by
  unfold moveEntry at ran ⊢
  rw [Routine.read_bind] at ran ⊢
  obtain ⟨_, u, entered, ran⟩ := Routine.of_bind_ok _ _ _ _ _ ran
  have again : addEntry sb o .add call.newDir call.newName old ((s.written call.newDir).mode old)
      (s.written call.newDir) = (.ok (), u) := addEntry_written entered
  rw [Routine.bind_ok _ _ _ _ _ again]
  exact ran

end Rewriting

section Vacancy

variable {sb : DirSuper} {o : Answers} {call : RenameCall} {s t : NameState} {tree : Tree}
  {lost : Finset Nat} {old victim : Nat} (holds : Holds sb s tree lost)

include holds

/-- Only a directory takes the place of a directory, which is empty. -/
theorem Holds.checkVictim (inner : victim ∈ tree.dirs)
    (ran : Namei.checkVictim sb o call old victim s = (.ok (), t)) :
    Looked s t ∧ Inode.sIsDir (s.mode old) = true ∧
      ∀ other ∈ tree.links, other.holder ≠ victim := by
  have directory := (holds.counted.dirs victim inner).1
  unfold Namei.checkVictim at ran
  rw [Routine.read_bind] at ran
  obtain ⟨_, ran⟩ := Routine.of_require_bind_ok _ _ _ _ _ _ ran
  obtain ⟨second, ran⟩ := Routine.of_require_bind_ok _ _ _ _ _ _ ran
  obtain ⟨_, u, vacant, ran⟩ := Routine.of_bind_ok _ _ _ _ _ ran
  rw [requireVacant, Routine.read_bind, directory, if_pos rfl] at vacant
  obtain ⟨empty, v, seen, vacant⟩ := Routine.of_bind_ok _ _ _ _ _ vacant
  obtain ⟨found, same⟩ := Routine.of_require_ok _ _ _ _ vacant
  rw [Routine.attempt_bind] at ran
  have first := (onDir_looks (o := o) .empty victim (dirEmpty_reads sb)).of_run seen
  have last : Looked u t := by
    have looks := onDir_looks (o := o) .findTarget call.newDir
      (Dir.findEntry_reads sb call.newName) u
    cases looked : (onDir o .findTarget call.newDir (Dir.findEntry sb call.newName) u).1 with
    | ok place =>
        rw [looked] at ran
        rw [← (Prod.mk.inj ran).2]
        exact looks
    | error reason =>
        rw [looked] at ran
        rw [(Routine.of_require_ok _ _ _ _ ran).2]
        exact looks
  rw [← same] at first
  refine ⟨Trans.trans first last, ?_, ?_⟩
  · cases type : Inode.sIsDir (s.mode old) with
    | true => rfl
    | false => exact absurd ⟨type, directory⟩ second
  · obtain ⟨state, read, _⟩ := of_onDir_ok seen
    rw [found] at read
    rintro ⟨holder, title, node⟩ here rfl
    exact (holds.listed holder inner).vacant read rfl title node here

/-- An empty directory that loses its name is lost, and its parent's link count goes down. -/
theorem Holds.removeVictimDir (plain : sb.dirIndex = false)
    (member : (⟨call.newDir, call.newName, victim⟩ : Entry) ∈ tree.links)
    (inner : victim ∈ tree.dirs) (empty : ∀ other ∈ tree.links, other.holder ≠ victim)
    (ran : Namei.removeVictim sb o call victim s = (.ok (), t)) :
    t.mode = s.mode ∧ t.nlink = store s.nlink call.newDir (tree.subdirs call.newDir + 1) ∧
      Holds sb (t.written call.newDir)
        (tree.removeDir ⟨call.newDir, call.newName, victim⟩ member inner empty)
        (insert victim lost) := by
  have onto := tree.held _ member
  have apart : call.newDir ≠ victim := empty _ member
  obtain ⟨_, u, gone, ran⟩ := Routine.of_bind_ok _ _ _ _ _ ran
  obtain ⟨state, deleted, rfl⟩ := of_deleteEntry_ok gone
  rw [Routine.read_bind] at ran
  have type : Inode.sIsDir (((s.withDir call.newDir state).written call.newDir).mode victim) =
      true := (holds.counted.dirs victim inner).1
  rw [type, if_pos rfl, Namei.dropNlink] at ran
  have count : s.nlink call.newDir = tree.subdirs call.newDir + 2 :=
    (holds.counted.dirs _ onto).2
  have less : Balloc.u32Sub (((s.withDir call.newDir state).written call.newDir).nlink
      call.newDir) 1 = tree.subdirs call.newDir + 1 := by
    change Balloc.u32Sub (s.nlink call.newDir) 1 = _
    rw [count, Balloc.u32Sub_of_le _ _ (by omega)]
    omega
  have final : ((s.withDir call.newDir state).written call.newDir).counted call.newDir
      (Balloc.u32Sub (((s.withDir call.newDir state).written call.newDir).nlink call.newDir) 1) =
      t := (Prod.mk.inj ran).2
  rw [less] at final
  rw [← final]
  refine ⟨rfl, rfl, ?_⟩
  have listed := holds.listed.delete plain onto member deleted rfl rfl
  apply Leaving.strand
  apply holds.vacated member inner empty
  · exact listed
  · rfl
  · exact store_same _ _ _
  · exact fun node other _ => store_other _ _ _ _ other
  · exact ⟨_, rfl⟩
  · intro node _ here
    by_cases same : node = call.newDir
    · rw [same]
      exact written_same _ _
    · apply Recorded.written
      exact ((holds.recorded node here).written call.newDir).counted _ _ same

omit holds in
/-- A directory that loses its name keeps the link of its ".", and with that its number. -/
theorem of_dropVictim_dir (calm : o.outcome .writeVictim = none) (two : s.nlink victim = 2)
    (ran : Namei.dropVictim o victim s = (.ok (), t)) :
    t = (s.counted victim 1).written victim := by
  unfold Namei.dropVictim at ran
  rw [Namei.dropNlink, Routine.modify_bind, Routine.ignored_bind, writeInodeToDisk_calm victim calm,
    Routine.read_bind, two] at ran
  have one : Balloc.u32Sub 2 1 = 1 := by decide
  rw [one] at ran
  have count : ((s.counted victim 1).written victim).nlink victim = 1 := store_same _ _ _
  rw [count, if_neg (by decide)] at ran
  exact (Prod.mk.inj ran).2.symm

omit holds in
/-- What happens to an inode outside a tree is not seen there. -/
theorem carried_outside (fresh : ¬ tree.Has victim) (count : Nat) :
    Carried tree s ((s.counted victim count).written victim) := by
  refine ⟨rfl, rfl, ?_, ⟨_, rfl⟩, ?_⟩
  · intro node here
    apply store_other
    rintro rfl
    exact fresh here
  · intro node here kept
    apply Recorded.written
    apply kept.counted
    rintro rfl
    exact fresh here

end Vacancy

section Rename

variable {sb : DirSuper} (plain : sb.dirIndex = false) {o : Answers} {call : RenameCall}
  {s t : NameState} {tree : Tree} {lost : Finset Nat} (holds : Holds sb s tree lost)
  {old victim : Nat}

theorem Carried.trans {first second third : NameState} (one : Carried tree first second)
    (two : Carried tree second third) : Carried tree first third := by
  refine ⟨two.dirs.trans one.dirs, two.mode.trans one.mode,
    fun node here => (two.nlink node here).trans (one.nlink node here), ?_,
    fun node here kept => two.recorded node here (one.recorded node here kept)⟩
  obtain ⟨before, allocated⟩ := one.table
  obtain ⟨after, allocator⟩ := two.table
  rw [allocated] at allocator
  exact ⟨after, allocator⟩

include plain holds

omit plain holds in
theorem moveCount_nlink (ran : moveCount o call old s = (.ok (), t)) (node : Nat)
    (source : call.oldDir ≠ node) (target : call.newDir ≠ node) : t.nlink node = s.nlink node := by
  rw [moveCount, Routine.read_bind] at ran
  split at ran
  · rw [Namei.dropNlink, Routine.modify_bind, incNlink, Routine.modify_bind,
      Routine.ignored_bind] at ran
    have last := (Prod.mk.inj ran).2
    rw [← last, (rewritten_write o .countNewDir call.newDir _).nlink,
      (rewritten_write o .countOldDir call.oldDir _).nlink]
    exact (store_other _ _ _ _ target.symm).trans (store_other _ _ _ _ source.symm)
  · rw [← (Prod.mk.inj ran).2]

/-- A successful rename onto an empty directory moves the entry and loses the directory that it
replaces, whose link count stays at one. -/
theorem Holds.replaceDir (calm : o.outcome .writeVictim = none)
    (recounts : o.Recounts) (onto : call.newDir ∈ tree.dirs)
    (member : (⟨call.oldDir, call.oldName, old⟩ : Entry) ∈ tree.links)
    (named : call.newName ≠ []) (known : call.newInode = some victim) (away : victim ≠ old)
    (entry : (⟨call.newDir, call.newName, victim⟩ : Entry) ∈ tree.links)
    (inner : victim ∈ tree.dirs) (few : s.nlink call.newDir + 1 < 2 ^ 32)
    (other : ¬ (call.oldDir = call.newDir ∧ call.oldName = call.newName))
    (ran : Namei.replace sb o call old s = (.ok (), t)) :
    ∃ after : Tree, Holds sb t after (insert victim lost) ∧
      after.dirs = tree.dirs.erase victim ∧ after.links = call.moved old tree.links ∧
      t.nlink victim = 1 := by
  have apart : call.newDir ≠ call.oldDir ∨ call.newName ≠ call.oldName := by
    by_cases same : call.newDir = call.oldDir
    · right
      intro equal
      exact other ⟨same.symm, equal.symm⟩
    · exact Or.inl same
  obtain ⟨_, ran⟩ := Routine.of_require_bind_ok _ _ _ _ _ _ ran
  obtain ⟨_, s₁, climbed, ran⟩ := Routine.of_bind_ok _ _ _ _ _ ran
  obtain ⟨first, below⟩ := holds.refuseBelow onto climbed
  obtain ⟨_, s₂, looked, ran⟩ := Routine.of_bind_ok _ _ _ _ _ ran
  have second : Looked s s₂ := Trans.trans first
    ((onDir_looks (o := o) .find call.oldDir (Dir.findEntry_reads sb call.oldName)).of_run looked)
  have middle := holds.looked second
  obtain ⟨_, s₃, cleared, ran⟩ := Routine.of_bind_ok _ _ _ _ _ ran
  obtain ⟨_, s₄, moved, ran⟩ := Routine.of_bind_ok _ _ _ _ _ ran
  have moved := Routine.of_onFailure_ok moved
  obtain ⟨_, s₅, wrote, ran⟩ := Routine.of_bind_ok _ _ _ _ _ ran
  have wrote := (writeRenamed_wrote o call old).of_run wrote
  obtain ⟨_, s₆, released, ran⟩ := Routine.of_bind_ok _ _ _ _ _ ran
  obtain ⟨_, s₇, counts, ran⟩ := Routine.of_bind_ok _ _ _ _ _ ran
  rw [(Routine.of_answer_ok ran).2]
  unfold clearTarget at cleared
  unfold releaseVictim at released
  rw [known] at cleared released
  obtain ⟨_, u, checked, removed⟩ := Routine.of_bind_ok _ _ _ _ _ cleared
  obtain ⟨third, directory, empty⟩ := middle.checkVictim inner checked
  have looked := middle.looked third
  obtain ⟨mode, nlink, done⟩ := looked.removeVictimDir plain entry inner empty removed
  have distinct : call.newDir ≠ victim := empty _ entry
  have held : call.oldDir ≠ victim := empty _ member
  generalize smaller : tree.removeDir ⟨call.newDir, call.newName, victim⟩ entry inner empty = less
    at done
  have dirs : less.dirs = tree.dirs.erase victim := by
    rw [← smaller]
    rfl
  have files : less.files = tree.files := by
    rw [← smaller]
    rfl
  have links : less.links = tree.links.erase ⟨call.newDir, call.newName, victim⟩ := by
    rw [← smaller]
    rfl
  have parent : less.parent = tree.parent := by
    rw [← smaller]
    rfl
  have inside : call.newDir ∈ less.dirs := by
    rw [dirs]
    exact Finset.mem_erase.mpr ⟨distinct, onto⟩
  have fresh : ¬ less.Has victim := by
    rintro (dir | file)
    · rw [dirs] at dir
      exact (Finset.mem_erase.mp dir).1 rfl
    · rw [files] at file
      exact tree.apart _ inner file
  have still : (⟨call.oldDir, call.oldName, old⟩ : Entry) ∈ less.links := by
    rw [links]
    refine Finset.mem_erase.mpr ⟨?_, member⟩
    intro same
    rw [Link.mk.injEq] at same
    exact away same.2.2.symm
  have type : Inode.sIsDir (s₃.mode old) = true := by
    rw [mode, third.mode]
    exact directory
  have moving : old ∈ less.dirs := by
    rcases less.target_has _ still with dir | file
    · exact dir
    · have plain_old : Inode.sIsDir (s₃.mode old) = false := (done.counted.files old file).1
      rw [type] at plain_old
      cases plain_old
  have again := moveEntry_written moved
  obtain ⟨_, rewritten, _⟩ := moveEntry_ok plain done.listed (less.held _ still) inside still named
    (done.range (Or.inl moving)) (done.range (Or.inl inside)) (fun _ => moving) again
  have vacant : tree.subdirs victim = 0 := by
    rw [NameTree.subdirs, Finset.card_eq_zero, Finset.filter_eq_empty_iff]
    rintro link here ⟨same, _⟩
    exact empty link here same
  have two : s₅.nlink victim = 2 := by
    rw [wrote.rewritten.nlink, rewritten.nlink]
    change s₃.nlink victim = 2
    rw [nlink, store_other _ _ _ _ distinct.symm, third.nlink, second.nlink,
      (holds.counted.dirs victim inner).2, vacant]
  have lowered : s₃.nlink call.newDir + 1 < 2 ^ 32 := by
    have count := (holds.counted.dirs _ onto).2
    rw [nlink, store_same]
    omega
  have dropped := of_dropVictim_dir calm two released
  have carried : Carried less s₄ s₆ := by
    rw [dropped]
    exact (wrote.carried less).trans (carried_outside fresh 1)
  have outside : ¬ Above ROOT_INO less.parent old call.newDir := by
    rw [parent]
    exact below (by rw [← second.mode]; exact directory)
  obtain ⟨_, _, _, final⟩ := done.moveDir plain inside still type named apart outside lowered recounts
    again carried counts
  refine ⟨_, final, dirs, ?_, ?_⟩
  · change insert _ (less.links.erase _) = _
    rw [links, RenameCall.moved, if_neg other, known]
  · rw [moveCount_nlink counts victim held distinct, dropped]
    exact store_same _ _ _

end Rename

end Namei

end Cryexts
