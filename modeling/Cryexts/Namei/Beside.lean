import Cryexts.Namei.Effects

set_option autoImplicit false

namespace Cryexts

namespace Namei

open Balloc (Allocator)
open Dir (DirSuper)
open Routine (Moves)
open WriteLog (store)

/-- What goes on beside the names: blocks change hands, for the data of files and for directories
that grow, and slots are written with the types and the link counts that their inodes have. -/
structure Beside (s t : NameState) : Prop where
  mode : t.mode = s.mode
  nlink : t.nlink = s.nlink
  dirs : t.dirs = s.dirs
  allocator : Balloc.Sound s.allocator → SameInodes s.allocator t.allocator
  recorded : Balloc.Sound s.allocator → ∀ ino, Recorded s ino → Recorded t ino

instance : IsPreorder NameState Beside where
  refl _ := ⟨rfl, rfl, rfl, SameInodes.refl, fun _ _ kept => kept⟩
  trans _ _ _ first second := by
    refine ⟨second.mode.trans first.mode, second.nlink.trans first.nlink,
      second.dirs.trans first.dirs, ?_, ?_⟩
    · intro sound
      have start := first.allocator sound
      exact start.trans (second.allocator start.sound)
    · intro sound ino kept
      exact second.recorded (first.allocator sound).sound ino (first.recorded sound ino kept)

section Steps

variable (o : Answers) (ino : Nat)

theorem beside_written (s : NameState) : Beside s (s.written ino) := by
  refine ⟨rfl, rfl, rfl, ?_, fun _ _ kept => kept.written ino⟩
  intro sound
  exact ⟨sound.clearInode _, fun _ => rfl, rfl⟩

theorem Reblocks.beside {s : NameState} {after : Allocator}
    (reblocks : Reblocks s.allocator after) : Beside s { s with allocator := after } := by
  refine ⟨rfl, rfl, rfl, fun sound => (reblocks sound).toSameInodes, ?_⟩
  intro sound node kept
  exact kept.frame (congrFun (reblocks sound).inodeTable node) rfl rfl

theorem freeBlock_reblocks (block : Nat) : Moves Reblocks (Balloc.freeBlock block) :=
  fun _ sound => reblocked_freeBlock sound block

theorem withAllocator_beside {α : Type} {call : Routine Allocator Errno α}
    (reblocks : Moves Reblocks call) : Moves Beside (withAllocator call) :=
  Moves.onPart reblocks fun _ _ => Reblocks.beside

theorem freeBlocksFrom_beside : Moves Beside (freeBlocksFrom o ino) :=
  Moves.onPart (Inode.freeBlocksFrom_moves freeBlock_reblocks 0) fun _ _ => Reblocks.beside

/-- The handlers of extended attributes change the blocks of the allocator. -/
def AttributesMove (s t : Xattr.XattrState) : Prop := Reblocks s.allocator t.allocator

instance : IsPreorder Xattr.XattrState AttributesMove where
  refl s := Std.Refl.refl s.allocator
  trans _ _ _ first second := Trans.trans (r := Reblocks) (s := Reblocks) first second

theorem xattrFreeBlock_moves (block : Nat) : Moves AttributesMove (Xattr.freeBlock block) :=
  Moves.onPart (freeBlock_reblocks block).mapError fun _ _ moved => moved

theorem xattrAnswer_moves (outcome : Option Errno) :
    Moves AttributesMove (Xattr.answer outcome) := Moves.answer _

theorem xattrFree_moves (outcomes : Xattr.Outcomes) :
    Moves AttributesMove (Xattr.freeXattrStorage outcomes) := by
  refine Moves.bind Moves.read fun s => ?_
  split
  · exact Moves.pure ()
  · have freed : Moves AttributesMove (do
        Xattr.freeBlock s.xattrBlock
        Routine.modify fun s => { s with xattrBlock := 0 }) :=
      Moves.bind (xattrFreeBlock_moves _) fun _ => fun s => Std.Refl.refl s.allocator
    apply Moves.bind (xattrAnswer_moves _)
    intro _
    apply Moves.bind (xattrAnswer_moves _)
    intro _
    simp only
    split
    · exact freed
    · exact Moves.bind (xattrFreeBlock_moves _) fun _ => freed

theorem freeXattrStorage_beside : Moves Beside (freeXattrStorage o) :=
  Moves.onPart (xattrFree_moves _).mapError fun _ _ => Reblocks.beside

theorem writeInodeToDisk_beside (site : Site) : Moves Beside (writeInodeToDisk o site ino) :=
  Moves.bind (Moves.answer _) fun _ => beside_written ino

/-- Whatever is released of an inode, and wherever that fails, the names do not change. -/
theorem releaseInodeStorage_beside : Moves Beside (releaseInodeStorage o ino) :=
  Moves.bind (freeBlocksFrom_beside o ino) fun _ =>
    Moves.bind (freeXattrStorage_beside o) fun _ => writeInodeToDisk_beside o ino .release

theorem releaseOrphan_beside : Moves Beside (releaseOrphan o ino) :=
  Moves.bind (Moves.answer _) fun _ =>
    Moves.bind (releaseInodeStorage_beside o ino) fun _ => Moves.answer _

end Steps

section Frames

variable {sb : DirSuper} {s t : NameState} {tree : Tree} {lost : Finset Nat}

theorem Holds.beside (holds : Holds sb s tree lost) (beside : Beside s t) :
    Holds sb t tree lost := by
  have sound := holds.numbered.sound
  have same := beside.allocator sound
  refine ⟨?_, ?_, ?_, holds.numbered.same same, holds.sized.trans same.inodesCount.symm⟩
  · rw [beside.dirs, beside.mode]
    exact holds.listed
  · rw [beside.mode, beside.nlink]
    exact holds.counted
  · exact fun ino here => beside.recorded sound ino (holds.recorded ino here)

end Frames

end Namei

end Cryexts
