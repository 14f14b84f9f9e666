import Cryexts.Namei.Ancestors
import Cryexts.Namei.Creation

set_option autoImplicit false

namespace Cryexts

namespace Namei

open Balloc (Allocator)
open Dir (DirState DirSuper)
open WriteLog (store store_same store_other store_eq_self)

/-- An inode that has lost its last name but still has its number, beside a tree that holds. -/
structure Leaving (sb : DirSuper) (s : NameState) (tree : Tree) (ino : Nat)
    (lost : Finset Nat) : Prop where
  listed : Listed sb s.dirs s.mode tree.dirs tree.parent tree.links
  counted : Counted s.mode s.nlink tree
  recorded : ∀ node, tree.Has node → Recorded s node
  numbered : Numbered s.allocator lost fun node => node = ino ∨ tree.Has node
  sized : sb.maxInodes = s.allocator.diskSb.inodesCount
  fresh : ¬ tree.Has ino

section Leave

variable {sb : DirSuper} {o : Answers} {s t : NameState} {tree : Tree} {lost : Finset Nat} {ino : Nat}
  (leaving : Leaving sb s tree ino lost)

include leaving

theorem Leaving.written (node : Nat) : Leaving sb (s.written node) tree ino lost :=
  ⟨leaving.listed, leaving.counted, fun other here => (leaving.recorded other here).written node,
    leaving.numbered.withTable _, leaving.sized, leaving.fresh⟩

theorem Leaving.freed :
    Holds sb { s with allocator := (Balloc.freeInode ino true s.allocator).2 } tree lost := by
  have kept := freeInode_kept (a := s.allocator) ino true
  refine ⟨leaving.listed, leaving.counted, ?_, ?_, leaving.sized.trans kept.inodesCount.symm⟩
  · intro node here
    have table := kept.table node (by
      rintro rfl
      exact leaving.fresh here)
    exact (leaving.recorded node here).frame table rfl rfl
  · apply (leaving.numbered.give (Or.inl rfl)).congr
    intro node
    constructor
    · intro here
      refine ⟨?_, Or.inr here⟩
      rintro rfl
      exact leaving.fresh here
    · rintro ⟨away, same | here⟩
      · exact absurd same away
      · exact here

theorem Leaving.beside (beside : Beside s t) : Leaving sb t tree ino lost := by
  have sound := leaving.numbered.sound
  have same := beside.allocator sound
  refine ⟨?_, ?_, ?_, leaving.numbered.same same, leaving.sized.trans same.inodesCount.symm,
    leaving.fresh⟩
  · rw [beside.dirs, beside.mode]
    exact leaving.listed
  · rw [beside.mode, beside.nlink]
    exact leaving.counted
  · exact fun node here => beside.recorded sound node (leaving.recorded node here)

/-- An inode that keeps its number without having a name is lost. -/
theorem Leaving.strand : Holds sb s tree (insert ino lost) :=
  ⟨leaving.listed, leaving.counted, leaving.recorded,
    leaving.numbered.lose (fun _ => Iff.rfl) leaving.fresh, leaving.sized⟩

/-- A successful disposal gives the number back. -/
theorem Leaving.disposed (found : o.found = true) (ran : dispose o ino s = (.ok (), t)) :
    Holds sb t tree lost := by
  obtain ⟨_, u, released, ran⟩ := Routine.of_bind_ok _ _ _ _ _ ran
  have freed := (leaving.beside ((releaseOrphan_beside o ino).of_run released)).freed
  rw [freeInode, found] at ran
  rw [← (Prod.mk.inj ran).2]
  exact freed

/-- A disposal that fails loses the inode. -/
theorem Leaving.undisposed {reason : Errno} (ran : dispose o ino s = (.error reason, t)) :
    Holds sb t tree (insert ino lost) := by
  rcases Routine.of_bind_error _ _ _ _ _ ran with failed | ⟨_, u, _, freed⟩
  · exact (leaving.beside ((releaseOrphan_beside o ino).of_run failed)).strand
  · cases freed

end Leave

theorem of_flushLast_ok {o : Answers} {s t : NameState} {ino : Nat}
    (ran : flushLast o ino s = (.ok (), t)) : t = s := by
  unfold flushLast at ran
  rw [Routine.read_bind] at ran
  split at ran
  · exact (Routine.of_answer_ok ran).2
  · exact (Prod.mk.inj ran).2.symm

section Calls

variable {sb : DirSuper} (plain : sb.dirIndex = false) {o : Answers} {s t : NameState}
  {tree : Tree} {lost : Finset Nat} (holds : Holds sb s tree lost)

include holds

/-- The counts of a tree that has lost a name of a file. -/
theorem Holds.dropped {link : Entry} (member : link ∈ tree.links)
    (file : link.target ∈ tree.files) (nlink : Nat → Nat)
    (count : nlink link.target = (tree.removeFile link file).names link.target)
    (others : ∀ node, node ≠ link.target → nlink node = s.nlink node) :
    Counted s.mode nlink (tree.removeFile link file) := by
  constructor
  · intro node here
    have away : node ≠ link.target := by
      rintro rfl
      exact tree.apart _ here file
    rw [NameTree.subdirs_removeFile _ _ member, others node away]
    exact holds.counted.dirs node here
  · intro node here
    have old : node ∈ tree.files := (Finset.mem_filter.mp here).1
    refine ⟨(holds.counted.files node old).1, ?_⟩
    by_cases same : node = link.target
    · rw [same, count]
    · have split := NameTree.names_removeFile tree link member file node
      rw [if_neg (fun equal => same equal.symm), Nat.add_zero] at split
      rw [others node same, ← split]
      exact (holds.counted.files node old).2

/-- A link count after the name of a file has gone. -/
theorem Holds.dropNlink {link : Entry} (member : link ∈ tree.links)
    (file : link.target ∈ tree.files) :
    Balloc.u32Sub (s.nlink link.target) 1 = (tree.removeFile link file).names link.target := by
  have split := NameTree.names_removeFile tree link member file link.target
  rw [if_pos rfl] at split
  rw [(holds.counted.files _ file).2, split, Balloc.u32Sub_of_le _ _ (by omega)]
  omega

/-- What a state that has lost an empty directory's entry, and the share of its parent's link
count, is for the tree without it. -/
theorem Holds.vacated {link : Entry} (member : link ∈ tree.links) (inner : link.target ∈ tree.dirs)
    (empty : ∀ other ∈ tree.links, other.holder ≠ link.target)
    (listed : Listed sb t.dirs s.mode tree.dirs tree.parent (tree.links.erase link))
    (mode : t.mode = s.mode) (count : t.nlink link.holder = tree.subdirs link.holder + 1)
    (others : ∀ node, node ≠ link.holder → node ≠ link.target → t.nlink node = s.nlink node)
    (table : ∃ inodeTable, t.allocator = { s.allocator with inodeTable := inodeTable })
    (recorded : ∀ node, node ≠ link.target → tree.Has node → Recorded t node) :
    Leaving sb t (tree.removeDir link member inner empty) link.target lost := by
  have has := NameTree.has_removeDir tree link member inner empty
  have split := NameTree.subdirs_removeDir tree link member inner empty
  obtain ⟨inodeTable, allocator⟩ := table
  refine ⟨?_, ⟨?_, ?_⟩, ?_, ?_, ?_, ?_⟩
  · rw [mode]
    exact listed.subset (Finset.erase_subset _ _)
  · intro node here
    obtain ⟨away, old⟩ := Finset.mem_erase.mp here
    have kept := holds.counted.dirs node old
    have part := split node
    rw [mode]
    refine ⟨kept.1, ?_⟩
    by_cases same : node = link.holder
    · rw [same, count]
      rw [same] at part
      simp only [↓reduceIte] at part
      omega
    · rw [others node same away, kept.2]
      rw [if_neg (fun equal => same equal.symm)] at part
      omega
  · intro node here
    have old : node ∈ tree.files := here
    have away : ∀ dir ∈ tree.dirs, node ≠ dir := by
      rintro dir inside rfl
      exact tree.apart _ inside old
    rw [NameTree.names_removeDir _ _ _ _ _ _ old, mode,
      others node (away _ (tree.held link member)) (away _ inner)]
    exact holds.counted.files node old
  · intro node here
    obtain ⟨away, old⟩ := (has node).mp here
    exact recorded node away old
  · rw [allocator]
    apply (holds.numbered.withTable inodeTable).congr
    intro node
    rw [has]
    constructor
    · rintro (rfl | ⟨_, old⟩)
      · exact Or.inl inner
      · exact old
    · intro old
      by_cases same : node = link.target
      · exact Or.inl same
      · exact Or.inr ⟨same, old⟩
  · rw [allocator]
    exact holds.sized
  · intro here
    exact ((has link.target).mp here).1 rfl

/-- A directory that `cryexts_dir_empty` finds empty holds no names. -/
theorem Holds.vacant_empty {site : DirSite} {ino : Nat} (inner : ino ∈ tree.dirs)
    (looked : onDir o site ino (dirEmpty sb) s = (.ok true, t)) :
    ∀ other ∈ tree.links, other.holder ≠ ino := by
  obtain ⟨state, seen, _⟩ := of_onDir_ok looked
  rintro ⟨holder, title, node⟩ here rfl
  exact (holds.listed holder inner).vacant seen rfl title node here

include plain

/-- The state after the entry of a file has gone, with its link count written: the inode has other
names left, or waits for its disposal. -/
theorem Holds.unnamed {dir ino : Nat} {name : List UInt8} {state : DirState}
    (member : (⟨dir, name, ino⟩ : Entry) ∈ tree.links) (file : ino ∈ tree.files)
    (deleted : Dir.deleteEntry sb name { s.dirs dir with
      grants := o.grants .delete, faults := o.faults .delete } = (.ok (), state))
    (wrote : t = ((((s.withDir dir state).written dir).counted ino
      (Balloc.u32Sub (s.nlink ino) 1)).written ino)) :
    (t.nlink ino ≠ 0 → Holds sb t (tree.removeFile ⟨dir, name, ino⟩ file) lost) ∧
      (t.nlink ino = 0 → Leaving sb t (tree.removeFile ⟨dir, name, ino⟩ file) ino lost) := by
  have dropped := holds.dropNlink member file
  have has := NameTree.has_removeFile tree ⟨dir, name, ino⟩ member file
  have listed := holds.listed.delete plain (tree.held _ member) member deleted rfl rfl
  have counts : t.nlink = store s.nlink ino (Balloc.u32Sub (s.nlink ino) 1) := by
    rw [wrote]
    rfl
  have value : t.nlink ino = (tree.removeFile ⟨dir, name, ino⟩ file).names ino := by
    rw [counts, store_same]
    exact dropped
  have kept : Listed sb t.dirs t.mode tree.dirs tree.parent
      (tree.removeFile ⟨dir, name, ino⟩ file).links := by
    rw [wrote]
    exact listed
  have counted : Counted t.mode t.nlink (tree.removeFile ⟨dir, name, ino⟩ file) := by
    have mode : t.mode = s.mode := by
      rw [wrote]
      rfl
    rw [counts, mode]
    apply holds.dropped member file
    · rw [store_same]
      exact dropped
    · intro node away
      exact store_other _ _ _ _ away
  have recorded : ∀ node, (tree.removeFile ⟨dir, name, ino⟩ file).Has node → Recorded t node := by
    intro node here
    rw [wrote]
    by_cases same : node = ino
    · rw [same]
      exact written_same _ ino
    · exact (((holds.recorded node ((has node).mp here).1).written dir).counted ino _ same).written
        ino
  have numbered : Numbered t.allocator lost tree.Has := by
    rw [wrote]
    exact (holds.numbered.withTable _).withTable _
  have sized : sb.maxInodes = t.allocator.diskSb.inodesCount := by
    rw [wrote]
    exact holds.sized
  constructor
  · intro named
    rw [value] at named
    refine ⟨kept, counted, recorded, numbered.congr ?_, sized⟩
    intro node
    rw [has]
    apply and_iff_left_of_imp
    intro _ same
    rw [same]
    exact named
  · intro none
    rw [value] at none
    refine ⟨kept, counted, recorded, numbered.congr ?_, sized, ?_⟩
    · intro node
      rw [has]
      constructor
      · rintro (rfl | here)
        · exact Or.inr file
        · exact here.1
      · intro here
        by_cases same : node = ino
        · exact Or.inl same
        · exact Or.inr ⟨here, fun equal => absurd equal same⟩
    · intro here
      exact ((has ino).mp here).2 rfl none

/-- A successful `cryexts_unlink` removes the name, and with the last name the file. -/
theorem Holds.unlink {dir ino : Nat} {name : List UInt8} (found : o.found = true)
    (parent : IsDir s dir) (target : IsFile s ino) (entry : Names s dir name ino)
    (ran : unlink sb o dir name ino s = (.ok (), t)) :
    ∃ file, (⟨dir, name, ino⟩ : Entry) ∈ tree.links ∧
      Holds sb t (tree.removeFile ⟨dir, name, ino⟩ file) lost := by
  have file := holds.file target.1 target.2
  have member := holds.entry (holds.dir parent.1 parent.2) entry
  obtain ⟨_, u, flushed, ran⟩ := Routine.of_bind_ok _ _ _ _ _ ran
  rw [of_flushLast_ok flushed] at ran
  obtain ⟨_, v, gone, ran⟩ := Routine.of_bind_ok _ _ _ _ _ (Routine.of_answer_bind_ok ran).2
  obtain ⟨state, deleted, rfl⟩ := of_deleteEntry_ok gone
  rw [Namei.dropNlink, Routine.modify_bind] at ran
  obtain ⟨_, w, wrote, ran⟩ := Routine.of_bind_ok _ _ _ _ _ ran
  obtain ⟨named, none⟩ := holds.unnamed plain member file deleted (of_writeInodeToDisk_ok wrote)
  obtain ⟨_, x, disposed, ran⟩ := Routine.of_bind_ok _ _ _ _ _ ran
  rw [disposeUnnamed, Routine.read_bind] at disposed
  rw [(Routine.of_answer_ok ran).2]
  refine ⟨file, member, ?_⟩
  split at disposed
  · rename_i last
    exact (none last).disposed found disposed
  · rename_i left
    rw [← (Prod.mk.inj disposed).2]
    exact named left

/-- The state after the entry of an empty directory has gone, with its parent written. -/
theorem Holds.vacant {dir ino : Nat} {name : List UInt8} {state : DirState}
    (member : (⟨dir, name, ino⟩ : Entry) ∈ tree.links) (inner : ino ∈ tree.dirs)
    (empty : ∀ other ∈ tree.links, other.holder ≠ ino)
    (deleted : Dir.deleteEntry sb name { s.dirs dir with
      grants := o.grants .delete, faults := o.faults .delete } = (.ok (), state)) {u v : NameState}
    (cleared : u = (((s.withDir dir state).written dir).counted ino 0).counted dir
      (Balloc.u32Sub ((((s.withDir dir state).written dir).counted ino 0).nlink dir) 1))
    (wrote : v = u ∨ v = u.written ino) :
    Leaving sb (v.written dir) (tree.removeDir ⟨dir, name, ino⟩ member inner empty) ino lost := by
  have inside := tree.held _ member
  have apart : dir ≠ ino := empty _ member
  have less : Balloc.u32Sub ((((s.withDir dir state).written dir).counted ino 0).nlink dir) 1 =
      tree.subdirs dir + 1 := by
    have number : (((s.withDir dir state).written dir).counted ino 0).nlink dir =
        tree.subdirs dir + 2 :=
      (store_other _ _ _ _ apart).trans (holds.counted.dirs dir inside).2
    rw [number, Balloc.u32Sub_of_le _ _ (by omega)]
    omega
  rw [less] at cleared
  have fields : v.dirs = store s.dirs dir state ∧ v.mode = s.mode ∧
      v.nlink = store (store s.nlink ino 0) dir (tree.subdirs dir + 1) ∧
      ∃ table, v.allocator = { s.allocator with inodeTable := table } := by
    rcases wrote with rfl | rfl
    · rw [cleared]
      exact ⟨rfl, rfl, rfl, _, rfl⟩
    · rw [cleared]
      exact ⟨rfl, rfl, rfl, _, rfl⟩
  obtain ⟨dirs, mode, nlink, table, allocator⟩ := fields
  have listed := holds.listed.delete plain inside member deleted rfl rfl
  apply holds.vacated member inner empty
  · change Listed sb v.dirs s.mode _ _ _
    rw [dirs]
    exact listed
  · exact mode
  · change v.nlink dir = _
    rw [nlink, store_same]
  · intro node other away
    change v.nlink node = _
    rw [nlink, store_other _ _ _ _ other, store_other _ _ _ _ away]
  · refine ⟨(v.written dir).allocator.inodeTable, ?_⟩
    change { v.allocator with inodeTable := (v.written dir).allocator.inodeTable } = _
    rw [allocator]
  · intro node away here
    by_cases same : node = dir
    · rw [same]
      exact written_same _ dir
    · have kept : Recorded u node := by
        rw [cleared]
        exact (((holds.recorded node here).written dir).counted ino 0 away).counted dir _ same
      apply Recorded.written
      rcases wrote with rfl | rfl
      · exact kept
      · exact kept.written ino

/-- A successful `cryexts_rmdir` removes an empty directory. -/
theorem Holds.rmdir {dir ino : Nat} {name : List UInt8} (found : o.found = true)
    (calm : o.outcome .writeDir = none) (parent : IsDir s dir) (target : IsDir s ino)
    (entry : Names s dir name ino) (ran : rmdir sb o dir name ino s = (.ok (), t)) :
    ∃ member inner empty,
      Holds sb t (tree.removeDir ⟨dir, name, ino⟩ member inner empty) lost := by
  have inner := holds.dir target.1 target.2
  have member := holds.entry (holds.dir parent.1 parent.2) entry
  obtain ⟨vacant, u, looked, ran⟩ := Routine.of_bind_ok _ _ _ _ _ (Routine.of_answer_bind_ok ran).2
  obtain ⟨empty, ran⟩ := Routine.of_require_bind_ok _ _ _ _ _ _ ran
  rw [empty] at looked
  have empty := holds.vacant_empty inner looked
  have seen := holds.looked ((onDir_looks _ _ (dirEmpty_reads sb)).of_run looked)
  obtain ⟨_, v, gone, ran⟩ := Routine.of_bind_ok _ _ _ _ _ ran
  obtain ⟨after, deleted, rfl⟩ := of_deleteEntry_ok gone
  rw [clearNlink, Routine.modify_bind, Namei.dropNlink, Routine.modify_bind,
    Routine.ignored_bind, Routine.ignored_bind, writeInodeToDisk_calm dir calm] at ran
  obtain ⟨_, w, disposed, ran⟩ := Routine.of_bind_ok _ _ _ _ _ ran
  rw [(Routine.of_answer_ok ran).2]
  have leaving := seen.vacant plain member inner empty deleted rfl
    (writeInodeToDisk_cases (o := o) .writeTarget ino)
  exact ⟨member, inner, empty, leaving.disposed found disposed⟩

end Calls

end Namei

end Cryexts
