import Cryexts.Namei.Renaming

set_option autoImplicit false

namespace Cryexts

namespace Namei

open Dir (DirSuper)
open WriteLog (store)

/-- The operations of `cryexts_dir_inode_operations` that change names. -/
inductive Call
  | create (dir : Nat) (name : List UInt8) (mode : Nat)
  | mkdir (dir : Nat) (name : List UInt8) (mode : Nat)
  | link (ino dir : Nat) (name : List UInt8)
  | symlink (dir : Nat) (name symname : List UInt8)
  | unlink (dir : Nat) (name : List UInt8) (ino : Nat)
  | rmdir (dir : Nat) (name : List UInt8) (ino : Nat)
  | rename (call : RenameCall)

def Call.run (sb : DirSuper) (o : Answers) : Call → NameOp Unit
  | .create dir name mode => Namei.create sb o dir name mode
  | .mkdir dir name mode => Namei.mkdir sb o dir name mode
  | .link ino dir name => Namei.link sb o ino dir name
  | .symlink dir name symname => Namei.symlink sb o dir name symname
  | .unlink dir name ino => Namei.unlink sb o dir name ino
  | .rmdir dir name ino => Namei.rmdir sb o dir name ino
  | .rename call => Namei.rename sb o call

/-- The inode a rename moves, as its name says, and the directories it moves between. -/
structure RenameCall.Promised (call : RenameCall) (s : NameState) (old : Nat) : Prop where
  known : call.oldInode = some old
  source : IsDir s call.oldDir
  onto : IsDir s call.newDir
  entry : Names s call.oldDir call.oldName old
  named : call.newName ≠ []
  victim : ∀ victim, call.newInode = some victim →
    victim ≠ old ∧ Names s call.newDir call.newName victim

/-- What the kernel has looked up and checked before it calls the file system. -/
def Call.Promised (s : NameState) : Call → Prop
  | .create dir name mode =>
      IsDir s dir ∧ name ≠ [] ∧ Inode.sIsDir (S_IFREG ||| mode) = false
  | .mkdir dir name mode => IsDir s dir ∧ name ≠ [] ∧ Inode.sIsDir (S_IFDIR ||| mode) = true
  | .link ino dir name =>
      IsDir s dir ∧ name ≠ [] ∧ Reached s ino
  | .symlink dir name _ => IsDir s dir ∧ name ≠ []
  | .unlink dir name ino => IsDir s dir ∧ IsFile s ino ∧ Names s dir name ino
  | .rmdir dir name ino => IsDir s dir ∧ IsDir s ino ∧ Names s dir name ino
  | .rename call => ∃ old, call.Promised s old

/-- No link count wraps, a rename replaces no directory, and the writes of link counts whose errors
a call ignores succeed. -/
def Call.Clean (o : Answers) (s : NameState) : Call → Prop
  | .create _ _ _ => True
  | .mkdir dir _ _ => o.found = true ∧ s.nlink dir + 1 < 2 ^ 32
  | .link ino _ _ => s.nlink ino + 1 < 2 ^ 32
  | .symlink _ _ _ => True
  | .unlink _ _ _ => o.found = true
  | .rmdir _ _ _ => o.found = true ∧ o.outcome .writeDir = none
  | .rename call => o.found = true ∧ o.outcome .writeVictim = none ∧ o.Recounts ∧
      s.nlink call.newDir + 1 < 2 ^ 32 ∧ ∀ victim, call.newInode = some victim → Inode.sIsDir (s.mode victim) = false

/-- A new name for an inode of the tree or a new one. -/
def Grows (before after : Tree) (link : Entry) : Prop :=
  before.Free link.holder link.name ∧ after.dirs = before.dirs ∧
    after.links = insert link before.links

/-- What a call does to the tree. `cryexts_mkdir` may report success without a new directory. -/
def Call.Effect (before after : Tree) : Call → Prop
  | .create dir name _ => ∃ ino, ¬ before.Has ino ∧ Grows before after ⟨dir, name, ino⟩
  | .mkdir dir name _ => after = before ∨ ∃ ino, ¬ before.Has ino ∧
      before.Free dir name ∧ after.dirs = insert ino before.dirs ∧
      after.links = insert ⟨dir, name, ino⟩ before.links
  | .link ino dir name => ino ∈ before.files ∧ Grows before after ⟨dir, name, ino⟩
  | .symlink dir name _ => ∃ ino, ¬ before.Has ino ∧ Grows before after ⟨dir, name, ino⟩
  | .unlink dir name ino => (⟨dir, name, ino⟩ : Entry) ∈ before.links ∧
      after.dirs = before.dirs ∧ after.links = before.links.erase ⟨dir, name, ino⟩
  | .rmdir dir name ino => (⟨dir, name, ino⟩ : Entry) ∈ before.links ∧
      (∀ link ∈ before.links, link.holder ≠ ino) ∧ after.dirs = before.dirs.erase ino ∧
      after.links = before.links.erase ⟨dir, name, ino⟩
  | .rename call => ∃ old, call.oldInode = some old ∧
      after.dirs = (before.dirs.filter fun dir => call.newInode ≠ some dir) ∧
      after.links = call.moved old before.links

section Step

variable {sb : DirSuper} (plain : sb.dirIndex = false) {o : Answers} {s t : NameState}
  {tree : Tree} {lost : Finset Nat} (holds : Holds sb s tree lost)

include holds

include plain

/-- A successful call does to the state what it does to the tree. -/
theorem Holds.call (call : Call) (promised : call.Promised s) (clean : call.Clean o s)
    (ran : call.run sb o s = (.ok (), t)) :
    ∃ after, call.Effect tree after ∧ Holds sb t after lost := by
  cases call with
  | create dir name mode =>
      obtain ⟨parent, named, type⟩ := promised
      obtain ⟨ino, inside, free, new, fresh, done⟩ := holds.create plain parent named type ran
      refine ⟨_, ?_, done⟩
      exact ⟨ino, fresh, free, rfl, rfl⟩
  | mkdir dir name mode =>
      obtain ⟨parent, named, type⟩ := promised
      rcases holds.mkdir plain clean.1 parent named type clean.2 ran with
        ⟨_, kept⟩ | ⟨ino, inside, free, file, new, done⟩
      · exact ⟨tree, Or.inl rfl, kept⟩
      · refine ⟨_, Or.inr ⟨ino, ?_, free, rfl, rfl⟩, done⟩
        rintro (dir | other)
        · exact new dir
        · exact file other
  | link ino dir name =>
      obtain ⟨parent, named, used⟩ := promised
      obtain ⟨inside, free, new, file, done⟩ := holds.link plain parent named used clean ran
      refine ⟨_, ?_, done⟩
      exact ⟨file, free, rfl, rfl⟩
  | symlink dir name symname =>
      obtain ⟨parent, named⟩ := promised
      obtain ⟨ino, inside, free, new, fresh, done⟩ := holds.symlink plain parent named ran
      refine ⟨_, ?_, done⟩
      exact ⟨ino, fresh, free, rfl, rfl⟩
  | unlink dir name ino =>
      obtain ⟨parent, target, entry⟩ := promised
      obtain ⟨file, member, done⟩ := holds.unlink plain clean parent target entry ran
      refine ⟨_, ?_, done⟩
      exact ⟨member, rfl, rfl⟩
  | rmdir dir name ino =>
      obtain ⟨parent, target, entry⟩ := promised
      obtain ⟨member, inner, empty, done⟩ :=
        holds.rmdir plain clean.1 clean.2 parent target entry ran
      refine ⟨_, ?_, done⟩
      exact ⟨member, empty, rfl, rfl⟩
  | rename call =>
      obtain ⟨old, promised⟩ := promised
      obtain ⟨found, calm, recounts, few, file⟩ := clean
      obtain ⟨after, done, dirs, links⟩ := holds.rename plain found calm recounts
        (holds.dir promised.onto.1 promised.onto.2) promised.known
        (holds.entry (holds.dir promised.source.1 promised.source.2) promised.entry) promised.named
        (fun victim here => ⟨(promised.victim victim here).1,
          holds.entry (holds.dir promised.onto.1 promised.onto.2) (promised.victim victim here).2,
          file victim here⟩) few ran
      refine ⟨after, ⟨old, promised.known, ?_, links⟩, done⟩
      rw [dirs, eq_comm, Finset.filter_eq_self]
      intro dir inside same
      have type := file dir same
      rw [(holds.counted.dirs dir inside).1] at type
      cases type

end Step

/-- A call with the answers it gets, an inode that leaves memory and is loaded again, or something
beside the names. -/
inductive NameStep
  | call (o : Answers) (call : Call)
  | reload (ino : Nat)
  | beside

/-- A run of calls that all succeed, with whatever happens beside the names between them. An inode
is loaded again while its type and its link count fit the 16 bits of its slot. -/
inductive NameRun (sb : DirSuper) : NameState → List NameStep → NameState → Prop where
  | nil (s : NameState) : NameRun sb s [] s
  | call {s u t : NameState} {steps : List NameStep} (o : Answers) (call : Call)
      (promised : call.Promised s) (clean : call.Clean o s)
      (ran : call.run sb o s = (.ok (), u)) (rest : NameRun sb u steps t) :
      NameRun sb s (.call o call :: steps) t
  | reload {s t : NameState} {steps : List NameStep} (ino : Nat)
      (reached : Reached s ino) (mode : s.mode ino < 2 ^ 16)
      (nlink : s.nlink ino < 2 ^ 16) (rest : NameRun sb (s.loaded ino) steps t) :
      NameRun sb s (.reload ino :: steps) t
  | beside {s u t : NameState} {steps : List NameStep} (step : Beside s u)
      (rest : NameRun sb u steps t) : NameRun sb s (.beside :: steps) t

/-- The same run on the tree, where only the calls do anything. -/
inductive Follows : Tree → List NameStep → Tree → Prop where
  | nil (tree : Tree) : Follows tree [] tree
  | call {tree middle after : Tree} {steps : List NameStep} (o : Answers) (call : Call)
      (effect : call.Effect tree middle) (rest : Follows middle steps after) :
      Follows tree (.call o call :: steps) after
  | reload {tree after : Tree} {steps : List NameStep} (ino : Nat)
      (rest : Follows tree steps after) : Follows tree (.reload ino :: steps) after
  | beside {tree after : Tree} {steps : List NameStep} (rest : Follows tree steps after) :
      Follows tree (.beside :: steps) after

theorem Holds.run {sb : DirSuper} (plain : sb.dirIndex = false) {s t : NameState} {tree : Tree}
    {lost : Finset Nat} {steps : List NameStep} (holds : Holds sb s tree lost) (ran : NameRun sb s steps t) :
    ∃ after, Follows tree steps after ∧ Holds sb t after lost := by
  induction ran generalizing tree with
  | nil s => exact ⟨tree, Follows.nil tree, holds⟩
  | call o call promised clean ran rest ih =>
      obtain ⟨middle, effect, next⟩ := holds.call plain call promised clean ran
      obtain ⟨after, follows, done⟩ := ih next
      exact ⟨after, Follows.call o call effect follows, done⟩
  | reload ino reached mode nlink rest ih =>
      have same := (holds.recorded ino (holds.has reached)).loaded mode nlink
      rw [same] at ih
      obtain ⟨after, follows, done⟩ := ih holds
      exact ⟨after, Follows.reload ino follows, done⟩
  | beside step rest ih =>
      obtain ⟨after, follows, done⟩ := ih (holds.beside step)
      exact ⟨after, Follows.beside follows, done⟩

/-- Over any run of calls the directories, the link counts, the inode table and the bitmaps stay
those of one tree of names, which each call changes as it should. -/
theorem namespace_refines (sb : DirSuper) (plain : sb.dirIndex = false) (s t : NameState)
    (tree : Tree) (lost : Finset Nat) (steps : List NameStep) (holds : Holds sb s tree lost)
    (ran : NameRun sb s steps t) : ∃ after, Follows tree steps after ∧ Holds sb t after lost :=
  holds.run plain ran

/-- The tree of a file system as mkfs leaves it. -/
def rootTree : Tree where
  dirs := {ROOT_INO}
  files := ∅
  parent := id
  links := ∅
  top := Finset.mem_singleton_self _
  apart := fun _ _ => Finset.notMem_empty _
  single := fun link member => absurd member (Finset.notMem_empty link)
  held := fun link member => absurd member (Finset.notMem_empty link)
  hangs := fun link member => absurd member (Finset.notMem_empty link)
  reached := fun node member => absurd member (Finset.notMem_empty node)
  hung := fun _ member below => absurd (Finset.mem_singleton.mp member) below
  once := fun link member => absurd member (Finset.notMem_empty link)
  climbs := by
    intro node member
    rw [Finset.mem_singleton.mp member]
    exact ⟨[], Linked.Climbs.at_root⟩

def plainDirSuper : DirSuper := { Dir.sampleDirSuper with dirIndex := false, maxInodes := 4 }

/-- The small file system with its root directory as the only inode in use. -/
def rootState : NameState where
  allocator := { Balloc.smallAllocator with
    diskSb := { Balloc.smallAllocator.diskSb with freeInodesCount := 3 }
    groups := fun group => if group = 0 then ⟨0, 16, 4, 1, 0, 1⟩ else ⟨16, 16, 18, 1, 1, 2⟩
    groupInodeBitmaps := fun group byte =>
      if byte = 0 then if group = 0 then 0xfd else 0xfc else 0xff
    inodeTable := fun _ => ((ByteBuf.zero INODE_SIZE).set DiskInode.mode 0o40755).set
      DiskInode.linksCount 2 }
  mode := fun _ => 0o40755
  nlink := fun _ => 2
  dirs := fun _ => Dir.sampleRoot

theorem rootState_sound : Balloc.Sound rootState.allocator where
  geometry := by constructor <;> decide
  balanced := by constructor <;> decide
  metadata := by
    intro group bit inside later low metadata
    have here : group = 1 := by
      have count : rootState.allocator.groupCount = 2 := rfl
      omega
    subst here
    have few : bit < 3 := by
      have start : Balloc.groupDataStart rootState.allocator 1 = 19 := by decide
      have first : 1 * rootState.allocator.blocksPerGroup + bit = 16 + bit := rfl
      omega
    clear low metadata
    revert bit
    decide
  cursors := by decide
  mirrored := by decide

theorem rootState_used (ino : Nat) :
    Balloc.inodeBitmapUsed rootState.allocator ino = true ↔ ino = ROOT_INO := by
  constructor
  · intro used
    have bound : ino < 5 := by
      have inside := used
      unfold Balloc.inodeBitmapUsed at inside
      split at inside
      · cases inside
      · have count : rootState.allocator.diskSb.inodesCount = 4 := rfl
        omega
    revert used
    interval_cases ino <;> decide
  · rintro rfl
    decide

theorem rootState_holds : Holds plainDirSuper rootState rootTree ∅ where
  listed := by
    intro dir member
    rw [Finset.mem_singleton.mp member]
    have made : initDirBlock plainDirSuper ROOT_INO ROOT_INO ⟨[], none, [], []⟩ =
        (.ok (), Dir.sampleRoot) := rfl
    apply (fresh_listing rfl _ _ (by decide) (by decide) (by decide) (by decide) made rfl).congr
    · intro name ino
      exact iff_of_false (Finset.notMem_empty _) id
    · intro _ _ _
      rfl
  counted := by
    refine ⟨?_, fun file member => absurd member (Finset.notMem_empty file)⟩
    intro dir member
    have type : Inode.sIsDir 0o40755 = true := by decide
    exact ⟨type, rfl⟩
  recorded := by
    intro ino here
    refine ⟨?_, ByteBuf.get_set_same _ _ _ (by decide)⟩
    exact (ByteBuf.get_set_apart _ _ _ _ (by decide)).trans (ByteBuf.get_set_same _ _ _ (by decide))
  numbered := by
    refine ⟨⟨rootState_sound, fun ino => (rootState_used ino).trans ?_⟩,
      fun ino gone => absurd gone (Finset.notMem_empty ino)⟩
    have dirs : rootTree.dirs = {ROOT_INO} := rfl
    have files : rootTree.files = ∅ := rfl
    simp [NameTree.Has, dirs, files]
  sized := rfl

/-- The mapping of a directory with one block. -/
def oneBlock (block : Nat) : Inode.InodeInfo where
  useExtents := false
  inodeFlags := 0
  direct := store (fun _ => 0) 0 block
  indirectBlock := 0
  extentInlineMax := 0
  extents := []
  overflowExtents := []
  extentOverflowBlock := 0
  extentOverflowChecksum := 0
  extentRootRefs := []
  extentLeaves := []
  xattrBlock := 0
  encryptionPolicyId := 0
  nextOrphan := 0
  dirIndexBlock := 0
  hints := ⟨0, 0, 0, 0, 0⟩

/-- Every request succeeds, and an inode that is released has one block. -/
def calmAnswers (block : Nat) : Answers where
  outcome := fun _ => none
  grants := fun _ => []
  faults := fun _ => []
  goalBlock := 0
  goalGroup := 0
  found := true
  storage := ⟨oneBlock block, fun _ => ByteBuf.zero BLOCK_SIZE, [], ByteBuf.zero BLOCK_SIZE, .calm⟩

/-- The state with one more directory, in the last block that was free. -/
def filledState : NameState :=
  (mkdir plainDirSuper (calmAnswers 28) ROOT_INO [97] 0o755 rootState).2

/-- That state after the directory has gone. -/
def emptiedState : NameState :=
  (rmdir plainDirSuper (calmAnswers 28) ROOT_INO [97] 2 filledState).2

set_option maxRecDepth 4000 in
theorem filledState_names : Names filledState ROOT_INO [97] 2 :=
  ⟨by decide, by decide, 32, 4, by decide⟩

theorem filledState_isDir : IsDir filledState 2 :=
  ⟨Reached.root.entry (by rfl) filledState_names, by rfl⟩

/-- A directory takes the last free block, which its removal gives back for the next one. -/
theorem namespace_refines_small : ∃ t after,
    Follows rootTree [.call (calmAnswers 28) (.mkdir ROOT_INO [97] 0o755),
      .call (calmAnswers 28) (.rmdir ROOT_INO [97] 2), .beside,
      .call (calmAnswers 28) (.mkdir ROOT_INO [98] 0o755), .reload ROOT_INO] after ∧
      Holds plainDirSuper t after ∅ := by
  have two : 2 + 1 < 2 ^ 32 := by decide
  refine ⟨_, namespace_refines plainDirSuper rfl rootState _ rootTree ∅ _ rootState_holds
    (NameRun.call (calmAnswers 28) (.mkdir ROOT_INO [97] 0o755)
      ⟨⟨Reached.root, by decide⟩, by decide, by decide⟩ ⟨rfl, two⟩
      (show _ = (_, filledState) from Prod.ext (by rfl) rfl)
    (NameRun.call (calmAnswers 28) (.rmdir ROOT_INO [97] 2)
      ⟨⟨Reached.root, by rfl⟩, filledState_isDir, filledState_names⟩ ⟨rfl, rfl⟩
      (show _ = (_, emptiedState) from Prod.ext (by rfl) rfl)
    (NameRun.beside (Std.Refl.refl emptiedState)
    (NameRun.call (calmAnswers 28) (.mkdir ROOT_INO [98] 0o755)
      ⟨⟨Reached.root, by rfl⟩, by decide, by decide⟩ ⟨rfl, two⟩ (Prod.ext (by rfl) rfl)
    (NameRun.reload ROOT_INO Reached.root (by decide) (by decide) (NameRun.nil _))))))⟩

end Namei

end Cryexts
