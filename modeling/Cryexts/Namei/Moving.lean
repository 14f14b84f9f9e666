import Cryexts.Namei.Ancestors
import Cryexts.Namei.Removal

set_option autoImplicit false

namespace Cryexts

namespace Namei

open Dir (DirState DirSuper)
open Routine (Moves)
open WriteLog (store store_same store_other store_eq_self)

/-- The inodes in memory are as before, and no slot has got worse. -/
structure Rewritten (s t : NameState) : Prop where
  mode : t.mode = s.mode
  nlink : t.nlink = s.nlink
  table : ∃ inodeTable, t.allocator = { s.allocator with inodeTable := inodeTable }
  recorded : ∀ ino, Recorded s ino → Recorded t ino

theorem Rewritten.refl (s : NameState) : Rewritten s s :=
  ⟨rfl, rfl, ⟨s.allocator.inodeTable, rfl⟩, fun _ kept => kept⟩

theorem Rewritten.trans {s t u : NameState} (first : Rewritten s t) (second : Rewritten t u) :
    Rewritten s u := by
  refine ⟨second.mode.trans first.mode, second.nlink.trans first.nlink, ?_,
    fun ino kept => second.recorded ino (first.recorded ino kept)⟩
  obtain ⟨one, left⟩ := first.table
  obtain ⟨two, right⟩ := second.table
  refine ⟨two, ?_⟩
  rw [right, left]

instance : IsPreorder NameState Rewritten where
  refl := Rewritten.refl
  trans _ _ _ := Rewritten.trans

theorem rewritten_written (s : NameState) (ino : Nat) : Rewritten s (s.written ino) :=
  ⟨rfl, rfl, ⟨_, rfl⟩, fun _ kept => kept.written ino⟩

theorem rewritten_withDir (s : NameState) (dir : Nat) (state : DirState) :
    Rewritten s (s.withDir dir state) := ⟨rfl, rfl, ⟨_, rfl⟩, fun _ kept => kept⟩

theorem rewritten_write (o : Answers) (site : Site) (ino : Nat) (s : NameState) :
    Rewritten s (writeInodeToDisk o site ino s).2 := by
  rcases writeInodeToDisk_cases site ino with same | wrote
  · rw [same]
    exact Rewritten.refl s
  · rw [wrote]
    exact rewritten_written s ino

/-- Nothing but slots has been written. -/
structure Wrote (s t : NameState) : Prop where
  rewritten : Rewritten s t
  dirs : t.dirs = s.dirs

instance : IsPreorder NameState Wrote where
  refl s := ⟨Rewritten.refl s, rfl⟩
  trans _ _ _ first second := ⟨first.rewritten.trans second.rewritten,
    second.dirs.trans first.dirs⟩

/-- Two states that show the same tree, and the first slots no better than the second. -/
structure Carried (tree : Tree) (s t : NameState) : Prop where
  dirs : t.dirs = s.dirs
  mode : t.mode = s.mode
  nlink : ∀ node, tree.Has node → t.nlink node = s.nlink node
  table : ∃ inodeTable, t.allocator = { s.allocator with inodeTable := inodeTable }
  recorded : ∀ node, tree.Has node → Recorded s node → Recorded t node

theorem Wrote.carried {s t : NameState} (wrote : Wrote s t) (tree : Tree) : Carried tree s t :=
  ⟨wrote.dirs, wrote.rewritten.mode, fun node _ => congrFun wrote.rewritten.nlink node,
    wrote.rewritten.table, fun node _ => wrote.rewritten.recorded node⟩

theorem Holds.carried {sb : DirSuper} {s t : NameState} {tree : Tree} {lost : Finset Nat}
    (holds : Holds sb s tree lost) (carried : Carried tree s t) : Holds sb t tree lost := by
  obtain ⟨inodeTable, allocator⟩ := carried.table
  refine ⟨?_, ⟨?_, ?_⟩, ?_, ?_, ?_⟩
  · rw [carried.dirs, carried.mode]
    exact holds.listed
  · intro node here
    rw [carried.mode, carried.nlink node (Or.inl here)]
    exact holds.counted.dirs node here
  · intro node here
    rw [carried.mode, carried.nlink node (Or.inr here)]
    exact holds.counted.files node here
  · exact fun node here => carried.recorded node here (holds.recorded node here)
  · rw [allocator]
    exact holds.numbered.withTable inodeTable
  · rw [allocator]
    exact holds.sized

theorem writeInodeToDisk_wrote (o : Answers) (site : Site) (ino : Nat) :
    Moves Wrote (writeInodeToDisk o site ino) := by
  intro s
  refine ⟨rewritten_write o site ino s, ?_⟩
  rcases writeInodeToDisk_cases site ino with same | wrote
  · rw [same]
  · rw [wrote]
    rfl

theorem writeRenamed_wrote (o : Answers) (call : RenameCall) (old : Nat) :
    Moves Wrote (writeRenamed o call old) := by
  refine Moves.bind (writeInodeToDisk_wrote o _ _).ignored fun _ => ?_
  refine Moves.bind (writeInodeToDisk_wrote o _ _).ignored fun _ => ?_
  split
  · exact (writeInodeToDisk_wrote o _ _).ignored
  · exact Moves.pure ()

/-- The directories of a rename are written with the link counts they have in the end. -/
structure Answers.Recounts (o : Answers) : Prop where
  oldDir : o.outcome .countOldDir = none
  newDir : o.outcome .countNewDir = none

/-- The tree that the links of a state show, with one inode whose lost name is not yet taken from
its link count. -/
structure Owing (sb : DirSuper) (s : NameState) (tree : Tree) (owed : Option Nat)
    (lost : Finset Nat) : Prop where
  listed : Listed sb s.dirs s.mode tree.dirs tree.parent tree.links
  dirs : ∀ dir ∈ tree.dirs, Inode.sIsDir (s.mode dir) = true ∧ s.nlink dir = tree.subdirs dir + 2
  files : ∀ file ∈ tree.files, Inode.sIsDir (s.mode file) = false ∧
    (owed ≠ some file → s.nlink file = tree.names file)
  recorded : ∀ ino, tree.Has ino → Recorded s ino
  numbered : Numbered s.allocator lost fun ino => owed = some ino ∨ tree.Has ino
  sized : sb.maxInodes = s.allocator.diskSb.inodesCount
  owes : ∀ ino, owed = some ino → ino ∉ tree.dirs ∧ s.nlink ino = tree.names ino + 1

section Owe

variable {sb : DirSuper} {s t : NameState} {tree : Tree} {lost : Finset Nat} {owed : Option Nat}

theorem Holds.owing (holds : Holds sb s tree lost) : Owing sb s tree none lost :=
  ⟨holds.listed, holds.counted.dirs, fun file here => ⟨(holds.counted.files file here).1,
    fun _ => (holds.counted.files file here).2⟩, holds.recorded,
    holds.numbered.congr fun _ => by simp, holds.sized, fun _ none => by cases none⟩

theorem Owing.holds (owing : Owing sb s tree none lost) : Holds sb s tree lost :=
  ⟨owing.listed, ⟨owing.dirs, fun file here => ⟨(owing.files file here).1,
    (owing.files file here).2 (by simp)⟩⟩, owing.recorded,
    owing.numbered.congr fun _ => by simp, owing.sized⟩

/-- The links change and the inodes stay as they are. -/
theorem Owing.relinked {other : Tree} (owing : Owing sb s tree owed lost)
    (rewritten : Rewritten s t)
    (listed : Listed sb t.dirs s.mode other.dirs other.parent other.links)
    (has : ∀ ino, other.Has ino ↔ tree.Has ino) (dirs : other.dirs = tree.dirs)
    (subdirs : ∀ dir ∈ tree.dirs, other.subdirs dir = tree.subdirs dir)
    (names : ∀ ino, ino ∉ tree.dirs → other.names ino = tree.names ino) :
    Owing sb t other owed lost := by
  obtain ⟨inodeTable, allocator⟩ := rewritten.table
  refine ⟨?_, ?_, ?_, ?_, ?_, ?_, ?_⟩
  · rw [rewritten.mode]
    exact listed
  · intro dir here
    rw [dirs] at here
    rw [rewritten.mode, rewritten.nlink, subdirs dir here]
    exact owing.dirs dir here
  · intro file here
    have outside : file ∉ tree.dirs := by
      rw [← dirs]
      exact fun dir => other.apart file dir here
    rw [rewritten.mode, rewritten.nlink, names file outside]
    rcases (has file).mp (Or.inr here) with dir | old
    · exact absurd dir outside
    · exact owing.files file old
  · intro ino here
    exact rewritten.recorded ino (owing.recorded ino ((has ino).mp here))
  · rw [allocator]
    apply (owing.numbered.withTable inodeTable).congr
    intro ino
    rw [has]
  · rw [allocator]
    exact owing.sized
  · intro ino owes
    obtain ⟨outside, count⟩ := owing.owes ino owes
    rw [dirs, rewritten.nlink, names ino outside]
    exact ⟨outside, count⟩

end Owe

section Entries

variable {sb : DirSuper} (plain : sb.dirIndex = false) {o : Answers} {call : RenameCall}
  {s t : NameState} {inside : Finset Nat} {parent : Nat → Nat} {links : Finset Entry} {old : Nat}
  (listed : Listed sb s.dirs s.mode inside parent links)

include plain listed

/-- The two places of an entry that is moved. -/
theorem moveEntry_ok (from_ : call.oldDir ∈ inside) (onto : call.newDir ∈ inside)
    (member : (⟨call.oldDir, call.oldName, old⟩ : Entry) ∈ links) (named : call.newName ≠ [])
    (range : ROOT_INO ≤ old ∧ old ≤ sb.maxInodes)
    (above : ROOT_INO ≤ call.newDir ∧ call.newDir ≤ sb.maxInodes)
    (directory : Inode.sIsDir (s.mode old) = true → old ∈ inside)
    (ran : moveEntry sb o call old s = (.ok (), t)) :
    (∀ link ∈ links, link.holder = call.newDir → link.name ≠ call.newName) ∧ Rewritten s t ∧
      Listed sb t.dirs s.mode inside
        (if moves call s old then store parent old call.newDir else parent)
        ((insert ⟨call.newDir, call.newName, old⟩ links).erase
          ⟨call.oldDir, call.oldName, old⟩) := by
  unfold moveEntry at ran
  rw [Routine.read_bind] at ran
  obtain ⟨_, u, entered, ran⟩ := Routine.of_bind_ok _ _ _ _ _ ran
  obtain ⟨first, added, rfl⟩ := of_addEntry_ok entered
  obtain ⟨free, grown⟩ := listed.add plain onto named range.1 range.2 added rfl rfl
  obtain ⟨_, v, turned, ran⟩ := Routine.of_bind_ok _ _ _ _ _ ran
  have gone := Routine.of_onFailure_ok ran
  obtain ⟨last, deleted, rfl⟩ := of_deleteEntry_ok gone
  rw [moveParent, Routine.read_bind] at turned
  have same : moves call ((s.withDir call.newDir first).written call.newDir) old ↔
      moves call s old := Iff.rfl
  have entry : (⟨call.oldDir, call.oldName, old⟩ : Entry) ∈
      insert ⟨call.newDir, call.newName, old⟩ links := Finset.mem_insert_of_mem member
  have start := (rewritten_withDir s call.newDir first).trans (rewritten_written _ call.newDir)
  have finish := (rewritten_withDir v call.oldDir last).trans (rewritten_written _ call.oldDir)
  refine ⟨free, ?_⟩
  by_cases moving : moves call s old
  · rw [if_pos (same.mpr moving)] at turned
    obtain ⟨middle, updated, rfl⟩ := of_updateDirParent_ok (Routine.of_onFailure_ok turned)
    have parted := grown.reparent (directory moving.1) above.1 above.2 updated rfl rfl
    rw [if_pos moving]
    have between := (rewritten_withDir ((s.withDir call.newDir first).written call.newDir) old
      middle).trans (rewritten_written _ old)
    exact ⟨(start.trans between).trans finish, parted.delete plain from_ entry deleted rfl rfl⟩
  · rw [if_neg (fun now => moving (same.mp now))] at turned
    have stays := (Prod.mk.inj turned).2
    rw [← stays] at deleted finish
    rw [if_neg moving, ← stays]
    exact ⟨start.trans finish, grown.delete plain from_ entry deleted rfl rfl⟩

end Entries

/-- Inserting before erasing comes to the same as erasing first. -/
theorem moved_links (links : Finset Entry) (before after : Entry) (apart : after ≠ before) :
    (insert after links).erase before = insert after (links.erase before) :=
  Finset.erase_insert_of_ne apart

end Namei

end Cryexts
