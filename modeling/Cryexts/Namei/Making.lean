import Cryexts.Namei.Beside

set_option autoImplicit false

namespace Cryexts

namespace Namei

open Dir (DirState DirSuper)
open WriteLog (store store_same store_other)

/-- A new inode that no directory names yet, beside a tree that holds. -/
structure Spare (sb : DirSuper) (s : NameState) (tree : Tree) (ino mode : Nat)
    (lost : Finset Nat) : Prop where
  listed : Listed sb s.dirs s.mode tree.dirs tree.parent tree.links
  counted : Counted s.mode s.nlink tree
  recorded : ∀ node, node = ino ∨ tree.Has node → Recorded s node
  numbered : Numbered s.allocator lost fun node => node = ino ∨ tree.Has node
  sized : sb.maxInodes = s.allocator.diskSb.inodesCount
  fresh : ¬ tree.Has ino
  typed : s.mode ino = mode
  single : s.nlink ino = if Inode.sIsDir mode then 2 else 1
  bare : (s.dirs ino).index = none

/-- A directory has an entry for the inode under a name that is not a dot. -/
def Names (s : NameState) (dir : Nat) (name : List UInt8) (ino : Nat) : Prop :=
  name ≠ DOT ∧ name ≠ DOTDOT ∧ ∃ pos kind, (pos, ⟨name, ino, kind⟩) ∈ Dir.entries (s.dirs dir)

/-- An inode that lookups lead to from the root. -/
inductive Reached (s : NameState) : Nat → Prop where
  | root : Reached s ROOT_INO
  | entry {dir ino : Nat} {name : List UInt8} (above : Reached s dir)
      (type : Inode.sIsDir (s.mode dir) = true) (names : Names s dir name ino) : Reached s ino

def IsDir (s : NameState) (dir : Nat) : Prop :=
  Reached s dir ∧ Inode.sIsDir (s.mode dir) = true

/-- A file of any type. -/
def IsFile (s : NameState) (ino : Nat) : Prop :=
  Reached s ino ∧ Inode.sIsDir (s.mode ino) = false

section Nodes

variable {sb : DirSuper} {s t : NameState} {tree : Tree} {lost : Finset Nat}
  (holds : Holds sb s tree lost)

include holds

theorem Holds.range {ino : Nat} (node : tree.Has ino) : ROOT_INO ≤ ino ∧ ino ≤ sb.maxInodes := by
  rw [holds.sized]
  exact holds.numbered.range node

/-- An entry that is not a dot is a link of the tree. -/
theorem Holds.entry {dir ino : Nat} {name : List UInt8} (inside : dir ∈ tree.dirs)
    (names : Names s dir name ino) : (⟨dir, name, ino⟩ : Entry) ∈ tree.links := by
  obtain ⟨dot, dots, pos, kind, member⟩ := names
  obtain ⟨type, shown⟩ := (Listing.shown (holds.listed dir inside) name ino).mp ⟨pos, kind, member⟩
  rcases shown with ⟨same, _⟩ | ⟨same, _⟩ | ⟨here, _⟩
  · exact absurd same dot
  · exact absurd same dots
  · exact here

/-- Lookups lead to inodes of the tree. -/
theorem Holds.has {ino : Nat} (reached : Reached s ino) : tree.Has ino := by
  induction reached with
  | root => exact Or.inl tree.top
  | entry above type names ih =>
      rcases ih with inside | file
      · exact tree.target_has _ (holds.entry inside names)
      · rw [(holds.counted.files _ file).1] at type
        cases type

theorem Holds.dir {dir : Nat} (reached : Reached s dir)
    (type : Inode.sIsDir (s.mode dir) = true) : dir ∈ tree.dirs := by
  rcases holds.has reached with inside | file
  · exact inside
  · rw [(holds.counted.files dir file).1] at type
    cases type

theorem Holds.file {ino : Nat} (reached : Reached s ino)
    (type : Inode.sIsDir (s.mode ino) = false) : ino ∈ tree.files := by
  rcases holds.has reached with dir | inside
  · rw [(holds.counted.dirs ino dir).1] at type
    cases type
  · exact inside

/-- A successful `cryexts_new_inode` leaves a spare inode. -/
theorem Holds.inodeMade {o : Answers} {dir mode ino : Nat}
    (ran : newInode o dir mode s = (.ok ino, t)) : Spare sb t tree ino mode lost := by
  obtain ⟨goalGroup, after, given, rfl⟩ := of_newInode_ok ran
  obtain ⟨fresh, numbered, size, table⟩ := holds.numbered.take given
  have away : ∀ node, tree.Has node → node ≠ ino := by
    rintro node here rfl
    exact fresh here
  refine ⟨?_, ⟨?_, ?_⟩, ?_, numbered.withTable _, holds.sized.trans size.symm, fresh,
    store_same _ _ _, store_same _ _ _, ?_⟩
  · exact holds.listed.spare ino mode _ (fun inside => fresh (Or.inl inside))
      (by
        intro link member same
        have target := tree.target_has link member
        rw [same] at target
        exact fresh target)
  · intro node inside
    have other := away node (Or.inl inside)
    change Inode.sIsDir (store s.mode ino mode node) = true ∧ store s.nlink ino _ node = _
    rw [store_other _ _ _ _ other, store_other _ _ _ _ other]
    exact holds.counted.dirs node inside
  · intro node inside
    have other := away node (Or.inr inside)
    change Inode.sIsDir (store s.mode ino mode node) = false ∧ store s.nlink ino _ node = _
    rw [store_other _ _ _ _ other, store_other _ _ _ _ other]
    exact holds.counted.files node inside
  · rintro node (rfl | here)
    · exact written_same _ node
    · have other := away node here
      apply Recorded.written
      exact (holds.recorded node here).frame (congrFun table node) (store_other _ _ _ _ other)
        (store_other _ _ _ _ other)
  · change (store s.dirs ino ⟨[], none, [], []⟩ ino).index = none
    rw [store_same]

end Nodes

section Linking

variable {sb : DirSuper} (plain : sb.dirIndex = false) {o : Answers} {s t : NameState}
  {tree : Tree} {lost : Finset Nat} {ino mode : Nat} (spare : Spare sb s tree ino mode lost)

include spare

theorem Spare.written (node : Nat) : Spare sb (s.written node) tree ino mode lost :=
  ⟨spare.listed, spare.counted, fun other here => (spare.recorded other here).written node,
    spare.numbered.withTable _, spare.sized, spare.fresh, spare.typed, spare.single, spare.bare⟩

theorem Spare.range : ROOT_INO ≤ ino ∧ ino ≤ sb.maxInodes := by
  rw [spare.sized]
  exact spare.numbered.range (Or.inl rfl)

theorem Spare.away {node : Nat} (here : tree.Has node) : node ≠ ino := by
  rintro rfl
  exact spare.fresh here

include plain

/-- The spare inode gets its name in a directory, as a new file. -/
theorem Spare.addFile (type : Inode.sIsDir mode = false) {site : DirSite} {dir : Nat}
    {name : List UInt8} (inside : dir ∈ tree.dirs) (named : name ≠ [])
    (ran : addEntry sb o site dir name ino mode s = (.ok (), t)) :
    ∃ (free : tree.Free dir name) (new : ino ∉ tree.dirs),
      Holds sb t (tree.addFile ⟨dir, name, ino⟩ inside free new) lost := by
  obtain ⟨state, added, rfl⟩ := of_addEntry_ok ran
  obtain ⟨low, high⟩ := spare.range
  rw [← spare.typed] at added
  obtain ⟨free, listed⟩ := spare.listed.add plain inside named low high added rfl rfl
  have free : tree.Free dir name := free
  have new : ino ∉ tree.dirs := fun here => spare.fresh (Or.inl here)
  refine ⟨free, new, listed, ⟨?_, ?_⟩, ?_, ?_, spare.sized⟩
  · intro node here
    rw [NameTree.subdirs_addFile]
    exact spare.counted.dirs node here
  · intro node here
    rw [NameTree.names_addFile]
    rcases Finset.mem_insert.mp here with same | old
    · change node = ino at same
      rw [same, if_pos rfl, NameTree.names_absent _ _ spare.fresh]
      change Inode.sIsDir (s.mode ino) = false ∧ s.nlink ino = _
      rw [spare.typed, spare.single, type]
      exact ⟨rfl, rfl⟩
    · have other := spare.away (Or.inr old)
      rw [if_neg other.symm, Nat.add_zero]
      exact spare.counted.files node old
  · intro node here
    apply Recorded.written
    apply spare.recorded
    rcases here with dir | file
    · exact Or.inr (Or.inl dir)
    · rcases Finset.mem_insert.mp file with same | old
      · exact Or.inl same
      · exact Or.inr (Or.inr old)
  · apply (spare.numbered.withTable _).congr
    intro node
    change node ∈ tree.dirs ∨ node ∈ insert ino tree.files ↔ _
    rw [Finset.mem_insert, NameTree.Has]
    tauto

/-- The spare inode becomes a new directory; the parent's link count is still to be raised. -/
theorem Spare.addDir (type : Inode.sIsDir mode = true) {dir : Nat} {name : List UInt8}
    (inside : dir ∈ tree.dirs) (named : name ≠ []) (few : s.nlink dir + 1 < 2 ^ 32)
    (range : ROOT_INO ≤ dir ∧ dir ≤ sb.maxInodes)
    (ran : linkDir sb o dir name mode ino s = (.ok (), t)) :
    ∃ (free : tree.Free dir name) (file : ino ∉ tree.files) (new : ino ∉ tree.dirs),
      Holds sb t (tree.addDir ⟨dir, name, ino⟩ inside free file new) lost := by
  obtain ⟨_, u, made, ran⟩ := Routine.of_bind_ok _ _ _ _ _ ran
  obtain ⟨first, started, rfl⟩ := of_onDir_ok made
  obtain ⟨_, v, entered, ran⟩ := Routine.of_bind_ok _ _ _ _ _ ran
  obtain ⟨state, added, rfl⟩ := of_addEntry_ok entered
  rw [incNlink, Routine.modify_bind] at ran
  have final := of_writeInodeToDisk_ok ran
  obtain ⟨low, high⟩ := spare.range
  have new : ino ∉ tree.dirs := fun here => spare.fresh (Or.inl here)
  have file : ino ∉ tree.files := fun here => spare.fresh (Or.inr here)
  have apart : dir ≠ ino := spare.away (Or.inl inside)
  have listing : Listing sb first s.mode ino dir fun _ _ => False :=
    fresh_listing plain ino dir low high range.1 range.2 started spare.bare
  have unheld : ∀ link ∈ tree.links, link.holder ≠ ino := by
    rintro link member same
    have holder := tree.held link member
    rw [same] at holder
    exact new holder
  have unnamed : ∀ link ∈ tree.links, link.target ≠ ino := by
    rintro link member same
    have target := tree.target_has link member
    rw [same] at target
    exact spare.fresh target
  have begun := spare.listed.spare ino (s.mode ino) first new unnamed
  rw [WriteLog.store_eq_self s.mode _ _ rfl] at begun
  have grown := begun.grow ino dir new unheld (by
    rw [store_same]
    exact listing)
  have kind : fileType mode = fileType (s.mode ino) := by rw [spare.typed]
  rw [kind] at added
  obtain ⟨free, listed⟩ := grown.add plain (Finset.mem_insert_of_mem inside) named low high
    added rfl rfl
  have free : tree.Free dir name := free
  have count : ((s.withDir ino first).withDir dir state).nlink dir = tree.subdirs dir + 2 :=
    (spare.counted.dirs dir inside).2
  have raised : u32 (((s.withDir ino first).withDir dir state).nlink dir + 1) =
      tree.subdirs dir + 3 := by
    have bound : s.nlink dir = tree.subdirs dir + 2 := count
    rw [count, u32_of_lt _ (by omega)]
  have nlink : t.nlink = store s.nlink dir (tree.subdirs dir + 3) := by
    rw [final, ← raised]
    rfl
  refine ⟨free, file, new, ?_⟩
  refine ⟨?_, ⟨?_, ?_⟩, ?_, ?_, ?_⟩
  · rw [final]
    exact listed
  · intro node here
    rw [NameTree.subdirs_addDir, nlink, final]
    rcases Finset.mem_insert.mp here with same | old
    · change node = ino at same
      rw [same, store_other _ _ _ _ apart.symm, if_neg apart, NameTree.subdirs_absent _ _ new]
      change Inode.sIsDir (s.mode ino) = true ∧ s.nlink ino = _
      rw [spare.typed, spare.single, type]
      exact ⟨rfl, rfl⟩
    · obtain ⟨mode_eq, links⟩ := spare.counted.dirs node old
      refine ⟨mode_eq, ?_⟩
      by_cases same : node = dir
      · rw [same, store_same, if_pos rfl]
      · rw [store_other _ _ _ _ same, if_neg (fun equal => same equal.symm), Nat.add_zero]
        exact links
  · intro node here
    have old : node ∈ tree.files := here
    rw [NameTree.names_addDir _ _ _ _ _ _ _ old, nlink, final]
    have away : node ≠ dir := by
      rintro rfl
      exact tree.apart node inside old
    rw [store_other _ _ _ _ away]
    exact spare.counted.files node old
  · intro node here
    rw [final]
    by_cases same : node = dir
    · rw [same]
      exact written_same _ dir
    · apply Recorded.written
      apply Recorded.counted _ dir _ same
      apply Recorded.written
      apply spare.recorded
      rcases here with dir | file
      · rcases Finset.mem_insert.mp dir with equal | old
        · exact Or.inl equal
        · exact Or.inr (Or.inl old)
      · exact Or.inr (Or.inr file)
  · rw [final]
    apply (((spare.numbered.withTable _).withTable _).withTable _).congr
    intro node
    change node ∈ insert ino tree.dirs ∨ node ∈ tree.files ↔ _
    rw [Finset.mem_insert, NameTree.Has]
    tauto
  · rw [final]
    exact spare.sized

end Linking

end Namei

end Cryexts
