import Cryexts.Namei.Account

set_option autoImplicit false

namespace Cryexts

namespace Namei

open Dir (DirSuper)
open Linked (Climbs)

/-- An entry that lookups find from the root. -/
def Found (s : NameState) (link : Entry) : Prop :=
  IsDir s link.holder ∧ Names s link.holder link.name link.target

/-- Every lookup finds what it found, with the same link count, and the same inodes are used. -/
structure Unchanged (s t : NameState) : Prop where
  found : ∀ link, Found t link ↔ Found s link
  nlink : ∀ ino, Reached s ino → t.nlink ino = s.nlink ino
  used : ∀ ino, Balloc.inodeBitmapUsed t.allocator ino = Balloc.inodeBitmapUsed s.allocator ino

section Representation

variable {sb : DirSuper} {s t : NameState} {tree : Tree} {lost : Finset Nat}
  (holds : Holds sb s tree lost)

include holds

theorem Holds.names_of {link : Entry} (member : link ∈ tree.links) :
    Names s link.holder link.name link.target := by
  have listing := holds.listed link.holder (tree.held link member)
  have dots := listing.dots link.target
  refine ⟨?_, ?_, (listing.shown link.name link.target).mpr ⟨_, Or.inr (Or.inr ⟨member, rfl⟩)⟩⟩
  · intro dot
    rw [← dot] at dots
    exact dots.1 member
  · intro dotdot
    rw [← dotdot] at dots
    exact dots.2 member

/-- The names of a path lead down from the root. -/
theorem Holds.climbed {dir : Nat} {path : List Nat} (inside : dir ∈ tree.dirs)
    (climbs : Climbs ROOT_INO tree.parent dir path) : Reached s dir := by
  induction path generalizing dir with
  | nil =>
      have top : dir = ROOT_INO := climbs
      rw [top]
      exact Reached.root
  | cons node rest ih =>
      obtain ⟨rfl, below, behind⟩ := climbs
      have above := ih (tree.parent_mem _ inside below) behind
      obtain ⟨link, member, target⟩ := tree.hung _ inside below
      rcases tree.hangs link member with file | ⟨_, _, parent⟩
      · rw [target] at file
        exact absurd file (tree.apart _ inside)
      · rw [target] at parent
        rw [parent] at above
        rw [← target]
        exact above.entry (holds.counted.dirs link.holder (tree.held link member)).1
          (holds.names_of member)

/-- Lookups lead to all the inodes of the tree, and to no others. -/
theorem Holds.reached_iff (ino : Nat) : Reached s ino ↔ tree.Has ino := by
  constructor
  · exact holds.has
  · rintro (dir | file)
    · obtain ⟨path, climbs⟩ := tree.climbs ino dir
      exact holds.climbed dir climbs
    · obtain ⟨link, member, target⟩ := tree.reached ino file
      have inside := tree.held link member
      obtain ⟨path, climbs⟩ := tree.climbs link.holder inside
      rw [← target]
      exact (holds.climbed inside climbs).entry (holds.counted.dirs link.holder inside).1
        (holds.names_of member)

/-- Lookups find the links of the tree. -/
theorem Holds.found_iff (link : Entry) : Found s link ↔ link ∈ tree.links := by
  constructor
  · rintro ⟨parent, names⟩
    exact holds.entry (holds.dir parent.1 parent.2) names
  · intro member
    have inside := tree.held link member
    exact ⟨⟨(holds.reached_iff link.holder).mpr (Or.inl inside),
      (holds.counted.dirs link.holder inside).1⟩, holds.names_of member⟩

/-- Two states that hold one tree do not differ. -/
theorem Holds.unchanged (kept : Holds sb t tree lost) : Unchanged s t := by
  refine ⟨?_, ?_, ?_⟩
  · intro link
    rw [kept.found_iff, holds.found_iff]
  · intro ino reached
    rcases holds.has reached with dir | file
    · rw [(kept.counted.dirs ino dir).2, (holds.counted.dirs ino dir).2]
    · rw [(kept.counted.files ino file).2, (holds.counted.files ino file).2]
  · intro ino
    rw [Bool.eq_iff_iff, kept.numbered.marked.used, holds.numbered.marked.used]

theorem Unchanged.links {after : Tree} {gone : Finset Nat} (same : Unchanged s t)
    (done : Holds sb t after gone) : after.links = tree.links := by
  ext link
  rw [← done.found_iff, ← holds.found_iff]
  exact same.found link

theorem Unchanged.leakless (same : Unchanged s t) : ¬ Leaks sb t tree lost := by
  rintro ⟨ino, new, fresh, done⟩
  have used := (done.numbered.marked.used ino).mpr (Or.inl (Finset.mem_insert_self ino lost))
  rw [same.used] at used
  rcases (holds.numbered.marked.used ino).mp used with gone | has
  · exact new gone
  · exact fresh has

theorem Unchanged.strandless {call : Call} (same : Unchanged s t) :
    ¬ call.Strands sb t tree lost := by
  rintro ⟨ino, after, removed, effect, gone, done⟩
  have links := same.links holds done
  have erased : ∀ link : Entry, link ∈ tree.links → after.links ≠ tree.links.erase link := by
    intro link member equal
    rw [← links, equal] at member
    exact Finset.notMem_erase link tree.links member
  cases call with
  | unlink dir name other => exact erased _ effect.1 effect.2.2
  | rmdir dir name other => exact erased _ effect.1 effect.2.2.2
  | _ => cases removed

end Representation

section Stopping

variable (sb : DirSuper) (o : Answers) (s : NameState)

/-- A rename to the same name never gets to its commit. -/
theorem rename_same (call : RenameCall) {old : Nat} (known : call.oldInode = some old)
    (same : call.oldDir = call.newDir ∧ call.oldName = call.newName) :
    rename sb o.committing call s = rename sb o call s := by
  unfold rename
  rw [known]
  simp only [if_pos same]
  rfl

/-- Nor does a `cryexts_mkdir` that makes no inode. -/
theorem mkdir_stopped (dir mode : Nat) (name : List UInt8) (begins : o.outcome .begins = none)
    {block : Nat} {after : Balloc.Allocator} {reason : Errno} {t : NameState}
    (taken : Balloc.allocBlockGoal o.goalBlock o.goalGroup s.allocator = (.ok block, after))
    (refused : newInode o dir (S_IFDIR ||| mode) { s with allocator := after } =
      (.error reason, t)) : ∃ u, mkdir sb o dir name mode s = (.ok (), u) := by
  have given : withAllocator (Balloc.allocBlockGoal o.goalBlock o.goalGroup) s =
      (.ok block, { s with allocator := after }) := Routine.onPart_run taken
  unfold mkdir
  rw [Routine.answer_none_bind _ begins, Routine.bind_ok _ _ _ _ _ given, Routine.attempt_bind, refused]
  exact ⟨_, rfl⟩

end Stopping

section Failing

variable {sb : DirSuper} (plain : sb.dirIndex = false) {o : Answers} (calm : Calm o)
  {s t : NameState} {tree : Tree} {lost : Finset Nat} (holds : Holds sb s tree lost)
  {reason : Errno}

include plain calm holds

/-- A call that fails at its commit has changed what lookups find. -/
theorem Holds.changes (call : Call) (promised : call.Promised s) (bounded : call.Bounded s)
    {u : NameState} (failed : call.run sb o s = (.error reason, u))
    (settled : call.run sb o.committing s = (.ok (), t)) :
    ∃ after gone, after.links ≠ tree.links ∧ Holds sb t after gone := by
  obtain ⟨after, effect, done⟩ := holds.succeeds plain calm.committing call promised bounded settled
  refine ⟨after, _, ?_, done⟩
  have inserted : ∀ link : Entry, tree.Free link.holder link.name →
      after.links = insert link tree.links → after.links ≠ tree.links := by
    intro link free links same
    rw [same] at links
    apply free.not_mem
    rw [links]
    exact Finset.mem_insert_self link tree.links
  have erased : ∀ link ∈ tree.links, link ∉ after.links → after.links ≠ tree.links := by
    intro link member absent same
    rw [same] at absent
    exact absent member
  cases call with
  | create dir name mode =>
      obtain ⟨ino, _, free, _, links⟩ := effect
      exact inserted _ free links
  | mkdir dir name mode =>
      rcases Holds.mkdir (o := o.committing) plain holds calm.found promised.1 promised.2.1
        promised.2.2 bounded settled with
        ⟨⟨block, taken, early, v, begins, given, refused⟩, _⟩ | ⟨ino, inside, free, file, new, grown⟩
      · obtain ⟨w, ran⟩ := mkdir_stopped sb o s dir mode name begins given refused
        change Namei.mkdir sb o dir name mode s = _ at failed
        rw [ran] at failed
        cases failed
      · apply inserted ⟨dir, name, ino⟩ free
        ext link
        rw [← done.found_iff, grown.found_iff]
        rfl
  | link ino dir name =>
      obtain ⟨_, free, _, links⟩ := effect
      exact inserted _ free links
  | symlink dir name symname =>
      obtain ⟨ino, _, free, _, links⟩ := effect
      exact inserted _ free links
  | unlink dir name ino =>
      obtain ⟨member, _, links⟩ := effect
      apply erased _ member
      rw [links]
      exact Finset.notMem_erase _ _
  | rmdir dir name ino =>
      obtain ⟨member, _, _, links⟩ := effect
      apply erased _ member
      rw [links]
      exact Finset.notMem_erase _ _
  | rename call =>
      obtain ⟨old, promised⟩ := promised
      obtain ⟨other, known, _, links⟩ := effect
      have equal : other = old := Option.some.inj (known.symm.trans promised.known)
      rw [equal] at links
      have away : ¬ (call.oldDir = call.newDir ∧ call.oldName = call.newName) := by
        intro same
        have again := rename_same sb o s call promised.known same
        change Namei.rename sb o call s = _ at failed
        change Namei.rename sb o.committing call s = _ at settled
        rw [again, failed] at settled
        cases settled
      apply erased _ (holds.entry (holds.dir promised.source.1 promised.source.2) promised.entry)
      rw [links, RenameCall.moved, if_neg away]
      rw [Finset.mem_insert, Finset.mem_erase]
      rintro (same | ⟨different, _⟩)
      · rw [Link.mk.injEq] at same
        exact away ⟨same.1, same.2.1⟩
      · exact different rfl

end Failing

/-- A failed call has changed nothing, unless it had made an inode or deleted its entry, or failed
at its commit. -/
theorem failure_atomic_iff (sb : DirSuper) (plain : sb.dirIndex = false) (o : Answers)
    (calm : Calm o) (s t : NameState) (tree : Tree) (lost : Finset Nat)
    (holds : Holds sb s tree lost) (call : Call) (promised : call.Promised s)
    (bounded : call.Bounded s) (reason : Errno) (ran : call.run sb o s = (.error reason, t)) :
    Unchanged s t ↔ ¬ call.Made o s ∧ ¬ call.Removes sb o s ∧
      (call.run sb o.committing s).1 ≠ .ok () := by
  rcases call.settles sb o s with same | ⟨_, u, _, failed, settled⟩
  · rw [same] at ran
    have early : (call.run sb o.committing s).1 ≠ .ok () := by
      rw [ran]
      simp
    rcases holds.fails plain calm.committing rfl call promised ran with
      ⟨unmade, unmoved, kept⟩ | ⟨made, leaks⟩ | ⟨removes, strands⟩
    · exact iff_of_true (holds.unchanged kept) ⟨unmade, unmoved, early⟩
    · exact iff_of_false (fun same => same.leakless holds leaks) fun all => all.1 made
    · exact iff_of_false (fun same => same.strandless holds strands) fun all => all.2.1 removes
  · rw [failed] at ran
    rw [← (Prod.mk.inj ran).2, settled]
    obtain ⟨after, gone, differs, done⟩ := holds.changes plain calm call promised bounded failed
      settled
    exact iff_of_false (fun same => differs (same.links holds done)) fun all => all.2.2 rfl

theorem filledState_holds : ∃ tree, Holds plainDirSuper filledState tree ∅ := by
  have made : (Call.mkdir ROOT_INO [97] 0o755).run plainDirSuper (calmAnswers 28) rootState =
      (.ok (), filledState) := Prod.ext (by rfl) rfl
  obtain ⟨tree, _, holds⟩ := rootState_holds.call rfl (.mkdir ROOT_INO [97] 0o755)
    ⟨⟨Reached.root, by decide⟩, by decide, by decide⟩ ⟨rfl, by decide⟩ made
  exact ⟨tree, holds⟩

/-- Without memory for its attributes a directory is not released, and its name is gone. -/
theorem failure_atomic_iff_small :
    (rmdir plainDirSuper noMemory ROOT_INO [97] 2 filledState).1 = .error .enomem ∧
      ¬ Unchanged filledState (rmdir plainDirSuper noMemory ROOT_INO [97] 2 filledState).2 := by
  have failed : (Call.rmdir ROOT_INO [97] 2).run plainDirSuper noMemory filledState =
      (.error .enomem, strandedState) := Prod.ext (by rfl) rfl
  refine ⟨congrArg Prod.fst failed, fun same => ?_⟩
  obtain ⟨tree, holds⟩ := filledState_holds
  have atomic := (failure_atomic_iff plainDirSuper rfl noMemory noMemory_calm filledState _ tree ∅
    holds (.rmdir ROOT_INO [97] 2) ⟨⟨Reached.root, by rfl⟩, filledState_isDir, filledState_names⟩
    trivial .enomem failed).mp same
  exact atomic.2.1 ⟨rfl, _, Prod.ext (by rfl) rfl⟩

end Namei

end Cryexts
