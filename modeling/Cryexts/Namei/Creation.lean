import Cryexts.Namei.Making

set_option autoImplicit false

namespace Cryexts

namespace Namei

open Balloc (Allocator)
open Dir (DirState DirSuper)
open WriteLog (store store_same store_other store_eq_self)

section Frames

variable {sb : DirSuper} {s t : NameState} {tree : Tree} {lost : Finset Nat}
  (holds : Holds sb s tree lost)

include holds

/-- Another allocator with the same inodes. -/
theorem Holds.reallocated {b : Allocator} (numbered : Numbered b lost tree.Has)
    (size : b.diskSb.inodesCount = s.allocator.diskSb.inodesCount)
    (table : ∀ ino, tree.Has ino → b.inodeTable ino = s.allocator.inodeTable ino) :
    Holds sb { s with allocator := b } tree lost :=
  ⟨holds.listed, holds.counted,
    fun ino here => (holds.recorded ino here).frame (table ino here) rfl rfl, numbered,
    holds.sized.trans size.symm⟩

/-- What is in memory of an inode outside the tree does not matter. -/
theorem Holds.outside {ino : Nat} (fresh : ¬ tree.Has ino) (mode nlink : Nat)
    (state : DirState) :
    Holds sb { s with
      mode := store s.mode ino mode
      nlink := store s.nlink ino nlink
      dirs := store s.dirs ino state } tree lost := by
  have away : ∀ node, tree.Has node → node ≠ ino := by
    rintro node here rfl
    exact fresh here
  refine ⟨?_, ⟨?_, ?_⟩, ?_, holds.numbered, holds.sized⟩
  · apply holds.listed.spare ino mode state (fun inside => fresh (Or.inl inside))
    intro link member same
    have target := tree.target_has link member
    rw [same] at target
    exact fresh target
  · intro node inside
    have other := away node (Or.inl inside)
    change Inode.sIsDir (store s.mode ino mode node) = true ∧ store s.nlink ino nlink node = _
    rw [store_other _ _ _ _ other, store_other _ _ _ _ other]
    exact holds.counted.dirs node inside
  · intro node inside
    have other := away node (Or.inr inside)
    change Inode.sIsDir (store s.mode ino mode node) = false ∧ store s.nlink ino nlink node = _
    rw [store_other _ _ _ _ other, store_other _ _ _ _ other]
    exact holds.counted.files node inside
  · intro node here
    have other := away node here
    exact (holds.recorded node here).frame rfl (store_other _ _ _ _ other)
      (store_other _ _ _ _ other)

/-- An inode that was taken and given back leaves the tree as it was. -/
theorem Holds.takenBack {ino goalGroup : Nat} {after : Allocator}
    (given : Balloc.allocInodeGoal goalGroup s.allocator = (.ok ino, after)) :
    ¬ tree.Has ino ∧
      Holds sb { s with allocator := (Balloc.freeInode ino true after).2 } tree lost := by
  obtain ⟨fresh, numbered, size, table⟩ := holds.numbered.take given
  refine ⟨fresh, ?_⟩
  have kept := freeInode_kept (a := after) ino true
  apply holds.reallocated
  · apply (numbered.give (Or.inl rfl)).congr
    intro node
    constructor
    · intro here
      refine ⟨?_, Or.inr here⟩
      rintro rfl
      exact fresh here
    · rintro ⟨away, same | here⟩
      · exact absurd same away
      · exact here
  · rw [kept.inodesCount, size]
  · intro node here
    rw [kept.table node, table]
    rintro rfl
    exact fresh here

/-- A failed `cryexts_new_inode` has given the number back. -/
theorem Holds.inodeRefused {o : Answers} (found : o.found = true) {dir mode : Nat}
    {reason : Errno} (ran : newInode o dir mode s = (.error reason, t)) : Holds sb t tree lost := by
  rcases of_newInode_error found ran with
    ⟨goalGroup, after, refused, rfl⟩ | ⟨goalGroup, ino, after, given, rfl | ⟨type, links, state, rfl⟩⟩
  · rcases holds.numbered.marked.sound.allocInodeGoal_cases goalGroup with
      ⟨_, _, _, _, _, _, taken⟩ | ⟨failed, _⟩
    · rw [taken] at refused
      cases refused
    · rw [failed] at refused
      rw [← (Prod.mk.inj refused).2]
      exact holds
  · exact (holds.takenBack given).2
  · obtain ⟨fresh, back⟩ := holds.takenBack given
    exact back.outside fresh type links state

end Frames

section Calls

variable {sb : DirSuper} (plain : sb.dirIndex = false) {o : Answers} {s t : NameState}
  {tree : Tree} {lost : Finset Nat} (holds : Holds sb s tree lost)

include plain holds

/-- A successful `cryexts_create` adds a file that was not there. -/
theorem Holds.create {dir mode : Nat} {name : List UInt8} (parent : IsDir s dir)
    (named : name ≠ []) (type : Inode.sIsDir (S_IFREG ||| mode) = false)
    (ran : create sb o dir name mode s = (.ok (), t)) :
    ∃ ino inside free new, ¬ tree.Has ino ∧
      Holds sb t (tree.addFile ⟨dir, name, ino⟩ inside free new) lost := by
  have inside := holds.dir parent.1 parent.2
  obtain ⟨ino, u, made, ran⟩ := Routine.of_bind_ok _ _ _ _ _ (Routine.of_answer_bind_ok ran).2
  have spare := holds.inodeMade made
  obtain ⟨_, v, entered, ran⟩ := Routine.of_bind_ok _ _ _ _ _ ran
  obtain ⟨free, new, done⟩ := spare.addFile plain type inside named (Routine.of_onFailure_ok entered)
  rw [(Routine.of_answer_ok ran).2]
  exact ⟨ino, inside, free, new, spare.fresh, done⟩

theorem Holds.symlink {dir : Nat} {name symname : List UInt8} (parent : IsDir s dir)
    (named : name ≠ []) (ran : symlink sb o dir name symname s = (.ok (), t)) :
    ∃ ino inside free new, ¬ tree.Has ino ∧
      Holds sb t (tree.addFile ⟨dir, name, ino⟩ inside free new) lost := by
  have inside := holds.dir parent.1 parent.2
  obtain ⟨_, ran⟩ := Routine.of_require_bind_ok _ _ _ _ _ _ (Routine.of_answer_bind_ok ran).2
  obtain ⟨_, ran⟩ := Routine.of_require_bind_ok _ _ _ _ _ _ ran
  obtain ⟨ino, u, made, ran⟩ := Routine.of_bind_ok _ _ _ _ _ ran
  have spare := holds.inodeMade made
  obtain ⟨_, v, entered, ran⟩ := Routine.of_bind_ok _ _ _ _ _ ran
  obtain ⟨_, w, wrote, entered⟩ := Routine.of_bind_ok _ _ _ _ _ (Routine.of_onFailure_ok entered)
  rw [of_writeInodeToDisk_ok wrote] at entered
  obtain ⟨free, new, done⟩ := (spare.written ino).addFile plain (by decide) inside named entered
  rw [(Routine.of_answer_ok ran).2]
  exact ⟨ino, inside, free, new, spare.fresh, done⟩

/-- A successful `cryexts_mkdir` adds a directory, or nothing at all. -/
theorem Holds.mkdir {dir mode : Nat} {name : List UInt8} (found : o.found = true)
    (parent : IsDir s dir) (named : name ≠ []) (type : Inode.sIsDir (S_IFDIR ||| mode) = true)
    (few : s.nlink dir + 1 < 2 ^ 32) (ran : mkdir sb o dir name mode s = (.ok (), t)) :
    ((∃ block after reason u, o.outcome .begins = none ∧
        Balloc.allocBlockGoal o.goalBlock o.goalGroup s.allocator = (.ok block, after) ∧
        newInode o dir (S_IFDIR ||| mode) { s with allocator := after } = (.error reason, u)) ∧
      Holds sb t tree lost) ∨
    ∃ ino inside free file new,
      Holds sb t (tree.addDir ⟨dir, name, ino⟩ inside free file new) lost := by
  have inside := holds.dir parent.1 parent.2
  have range := holds.range (Or.inl inside)
  obtain ⟨_, w, begun, ran⟩ := Routine.of_bind_ok _ _ _ _ _ ran
  obtain ⟨begins, same⟩ := Routine.of_answer_ok begun
  rw [same] at ran
  obtain ⟨block, u, given, ran⟩ := Routine.of_bind_ok _ _ _ _ _ ran
  obtain ⟨after, taken, rfl⟩ := Routine.of_onPart given
  have start := holds.beside (Reblocks.beside fun sound =>
    reblocked_allocBlockGoal sound o.goalBlock o.goalGroup)
  rw [taken] at start
  rw [Routine.attempt_bind] at ran
  cases made : newInode o dir (S_IFDIR ||| mode) { s with allocator := after } with
  | mk outcome v =>
      rw [made] at ran
      cases outcome with
      | error reason =>
          refine Or.inl ⟨⟨block, after, reason, v, begins, taken, made⟩, ?_⟩
          have kept := start.inodeRefused found made
          rw [← (Prod.mk.inj ran).2]
          exact kept.beside (withAllocator_beside (freeBlock_reblocks block) v)
      | ok ino =>
          right
          obtain ⟨_, w, linked, ran⟩ := Routine.of_bind_ok _ _ _ _ _ ran
          have spare := start.inodeMade made
          have count : v.nlink dir = s.nlink dir := by
            obtain ⟨_, _, _, rfl⟩ := of_newInode_ok made
            apply store_other
            rintro rfl
            exact spare.fresh (Or.inl inside)
          obtain ⟨free, file, new, done⟩ := spare.addDir plain type inside named
            (by rw [count]; exact few) range (Routine.of_onFailure_ok linked)
          rw [(Routine.of_answer_ok ran).2]
          exact ⟨ino, inside, free, file, new, done⟩

/-- A successful `cryexts_link` gives a file one more name. -/
theorem Holds.link {ino dir : Nat} {name : List UInt8} (parent : IsDir s dir)
    (named : name ≠ []) (reached : Reached s ino)
    (few : s.nlink ino + 1 < 2 ^ 32) (ran : link sb o ino dir name s = (.ok (), t)) :
    ∃ inside free new, ino ∈ tree.files ∧
      Holds sb t (tree.addFile ⟨dir, name, ino⟩ inside free new) lost := by
  have inside := holds.dir parent.1 parent.2
  have ran := (Routine.of_answer_bind_ok ran).2
  rw [Routine.read_bind] at ran
  obtain ⟨type, ran⟩ := Routine.of_require_bind_ok _ _ _ _ _ _ ran
  obtain ⟨_, u, entered, ran⟩ := Routine.of_bind_ok _ _ _ _ _ ran
  obtain ⟨state, added, rfl⟩ := of_addEntry_ok entered
  rw [incNlink, Routine.modify_bind] at ran
  obtain ⟨_, v, wrote, ran⟩ := Routine.of_bind_ok _ _ _ _ _ ran
  have final := of_writeInodeToDisk_ok (Routine.of_onFailure_ok wrote)
  rw [(Routine.of_answer_ok ran).2, final]
  have file := holds.file reached type
  have new : ino ∉ tree.dirs := fun dir => tree.apart ino dir file
  obtain ⟨low, high⟩ := holds.range (Or.inr file)
  obtain ⟨free, listed⟩ := holds.listed.add plain inside named low high added rfl rfl
  have free : tree.Free dir name := free
  have raised : u32 (((s.withDir dir state).written dir).nlink ino + 1) =
      tree.names ino + 1 := by
    have count : s.nlink ino = tree.names ino := (holds.counted.files ino file).2
    change u32 (s.nlink ino + 1) = _
    rw [u32_of_lt _ (by omega), count]
  have has : ∀ node, (tree.addFile ⟨dir, name, ino⟩ inside free new).Has node ↔
      tree.Has node := by
    intro node
    change node ∈ tree.dirs ∨ node ∈ insert ino tree.files ↔ _
    rw [Finset.insert_eq_of_mem file]
    rfl
  refine ⟨inside, free, new, file, listed, ⟨?_, ?_⟩, ?_, ?_, holds.sized⟩
  · intro node here
    have away : node ≠ ino := by
      rintro rfl
      exact new here
    rw [NameTree.subdirs_addFile]
    change Inode.sIsDir (s.mode node) = true ∧ store s.nlink ino _ node = _
    rw [store_other _ _ _ _ away]
    exact holds.counted.dirs node here
  · intro node here
    have old : node ∈ tree.files := by
      rcases Finset.mem_insert.mp here with same | old
      · rw [same]
        exact file
      · exact old
    rw [NameTree.names_addFile, raised]
    refine ⟨(holds.counted.files node old).1, ?_⟩
    change store s.nlink ino (tree.names ino + 1) node = _
    by_cases same : node = ino
    · rw [same, store_same, if_pos rfl]
    · rw [store_other _ _ _ _ same, if_neg (fun equal => same equal.symm)]
      exact (holds.counted.files node old).2
  · intro node here
    by_cases same : node = ino
    · rw [same]
      exact written_same _ ino
    · exact (((holds.recorded node ((has node).mp here)).written dir).counted ino _ same).written ino
  · exact ((holds.numbered.withTable _).withTable _).congr has

end Calls

end Namei

end Cryexts
