import Cryexts.Namei.Moving

set_option autoImplicit false

namespace Cryexts

namespace Namei

open Dir (DirState DirSuper)
open Linked (Above Climbs)
open Routine (Moves)
open WriteLog (store store_same store_other store_eq_self)

section Frames

variable {sb : DirSuper} {s t : NameState} {tree : Tree} {lost : Finset Nat} {owed : Option Nat}

theorem Owing.wrote (owing : Owing sb s tree owed lost) (wrote : Wrote s t) :
    Owing sb t tree owed lost := by
  apply owing.relinked wrote.rewritten
  · rw [wrote.dirs]
    exact owing.listed
  · exact fun _ => Iff.rfl
  · rfl
  · exact fun _ _ => rfl
  · exact fun _ _ => rfl

end Frames

section Victim

variable {sb : DirSuper} {o : Answers} {s t : NameState} {tree : Tree} {lost : Finset Nat} {victim : Nat}

/-- A target that has lost its name is given up with its last one. -/
theorem Owing.dropVictim (owing : Owing sb s tree (some victim) lost) (found : o.found = true)
    (calm : o.outcome .writeVictim = none) (ran : dropVictim o victim s = (.ok (), t)) :
    Holds sb t tree lost := by
  obtain ⟨outside, count⟩ := owing.owes victim rfl
  unfold Namei.dropVictim at ran
  rw [dropNlink, Routine.modify_bind, Routine.ignored_bind, writeInodeToDisk_calm victim calm,
    Routine.read_bind] at ran
  have less : Balloc.u32Sub (s.nlink victim) 1 = tree.names victim := by
    rw [count, Balloc.u32Sub_of_le _ _ (by omega)]
    omega
  rw [less] at ran
  have number : ((s.counted victim (tree.names victim)).written victim).nlink victim =
      tree.names victim := store_same _ _ _
  have counted : Counted s.mode (store s.nlink victim (tree.names victim)) tree := by
    constructor
    · intro dir here
      have away : dir ≠ victim := by
        rintro rfl
        exact outside here
      rw [store_other _ _ _ _ away]
      exact owing.dirs dir here
    · intro file here
      refine ⟨(owing.files file here).1, ?_⟩
      by_cases same : file = victim
      · rw [same, store_same]
      · rw [store_other _ _ _ _ same]
        apply (owing.files file here).2
        rintro equal
        exact same (Option.some.inj equal).symm
  have recorded : ∀ node, tree.Has node →
      Recorded ((s.counted victim (tree.names victim)).written victim) node := by
    intro node here
    by_cases same : node = victim
    · rw [same]
      exact written_same _ victim
    · exact ((owing.recorded node here).counted victim _ same).written victim
  have numbered := owing.numbered.withTable
    ((s.counted victim (tree.names victim)).written victim).allocator.inodeTable
  rw [number] at ran
  by_cases none : tree.names victim = 0
  · rw [if_pos none, Routine.ignored_bind] at ran
    have fresh : ¬ tree.Has victim := by
      rintro (dir | file)
      · exact outside dir
      · have positive := tree.names_pos victim file
        omega
    have leaving : Leaving sb ((s.counted victim (tree.names victim)).written victim) tree
        victim lost := by
      refine ⟨owing.listed, counted, recorded, numbered.congr ?_, owing.sized, fresh⟩
      intro node
      rw [Option.some_inj, eq_comm]
    have kept := leaving.beside (releaseOrphan_beside o victim _)
    have freed := kept.freed
    have final := (Prod.mk.inj ran).2
    rw [freeInode, found] at final
    rw [← final]
    exact freed
  · rw [if_neg none] at ran
    rw [← (Prod.mk.inj ran).2]
    refine ⟨owing.listed, counted, recorded, numbered.congr ?_, owing.sized⟩
    intro node
    constructor
    · exact Or.inr
    · rintro (same | here)
      · obtain ⟨link, member⟩ := Finset.card_pos.mp (Nat.pos_of_ne_zero none)
        obtain ⟨inside, target⟩ := Finset.mem_filter.mp member
        rw [← Option.some.inj same, ← target]
        exact tree.target_has link inside
      · exact here

theorem dropVictim_mode (ran : Namei.dropVictim o victim s = (.ok (), t)) : t.mode = s.mode := by
  unfold Namei.dropVictim at ran
  rw [dropNlink, Routine.modify_bind, Routine.ignored_bind, Routine.read_bind] at ran
  have first := (rewritten_write o .writeVictim victim
    (s.counted victim (Balloc.u32Sub (s.nlink victim) 1))).mode
  split at ran
  · rw [Routine.ignored_bind] at ran
    have later := (releaseOrphan_beside o victim (writeInodeToDisk o .writeVictim victim
      (s.counted victim (Balloc.u32Sub (s.nlink victim) 1))).2).mode
    rw [← (Prod.mk.inj ran).2]
    exact later.trans first
  · rw [← (Prod.mk.inj ran).2]
    exact first

/-- A file loses a name that its link count still has. -/
theorem Holds.removeVictim (plain : sb.dirIndex = false) (holds : Holds sb s tree lost)
    {call : RenameCall} (member : (⟨call.newDir, call.newName, victim⟩ : Entry) ∈ tree.links)
    (file : victim ∈ tree.files) (ran : removeVictim sb o call victim s = (.ok (), t)) :
    t.mode = s.mode ∧ t.nlink = s.nlink ∧
      Owing sb t (tree.removeFile ⟨call.newDir, call.newName, victim⟩ file) (some victim) lost := by
  obtain ⟨_, u, gone, ran⟩ := Routine.of_bind_ok _ _ _ _ _ ran
  obtain ⟨state, deleted, rfl⟩ := of_deleteEntry_ok gone
  have type : Inode.sIsDir (s.mode victim) = false := (holds.counted.files victim file).1
  rw [Routine.read_bind] at ran
  have same : ((s.withDir call.newDir state).written call.newDir).mode = s.mode := rfl
  rw [same, type, if_neg (by decide)] at ran
  rw [← (Prod.mk.inj ran).2]
  have listed := holds.listed.delete plain (tree.held _ member) member deleted rfl rfl
  have split := NameTree.names_removeFile tree ⟨call.newDir, call.newName, victim⟩ member file
  have has := NameTree.has_removeFile tree ⟨call.newDir, call.newName, victim⟩ member file
  refine ⟨rfl, rfl, listed, ?_, ?_, ?_, ?_, holds.sized, ?_⟩
  · intro dir here
    rw [NameTree.subdirs_removeFile _ _ member]
    exact holds.counted.dirs dir here
  · intro node here
    have old : node ∈ tree.files := (Finset.mem_filter.mp here).1
    refine ⟨(holds.counted.files node old).1, ?_⟩
    intro other
    have part := split node
    rw [if_neg (fun equal => other (congrArg some equal)), Nat.add_zero] at part
    rw [← part]
    exact (holds.counted.files node old).2
  · intro node here
    exact (holds.recorded node ((has node).mp here).1).written call.newDir
  · apply (holds.numbered.withTable _).congr
    intro node
    constructor
    · rintro (same | here)
      · rw [← Option.some.inj same]
        exact Or.inr file
      · exact ((has node).mp here).1
    · intro here
      by_cases same : node = victim
      · exact Or.inl (congrArg some same.symm)
      · exact Or.inr ((has node).mpr ⟨here, fun equal => absurd equal same⟩)
  · intro node same
    have equal := Option.some.inj same
    have part := split victim
    rw [if_pos rfl] at part
    rw [← equal, ← part]
    exact ⟨fun dir => tree.apart victim dir file, (holds.counted.files victim file).2⟩

end Victim

section Checks

variable {sb : DirSuper} {o : Answers} {call : RenameCall} {s t : NameState} {tree : Tree} {lost : Finset Nat}
  {old : Nat}

/-- A directory that is moved is not above its new place. -/
theorem Holds.refuseBelow (holds : Holds sb s tree lost) (onto : call.newDir ∈ tree.dirs)
    (ran : refuseBelow sb o call old s = (.ok (), t)) : Looked s t ∧
      (Inode.sIsDir (s.mode old) = true →
        ¬ Above ROOT_INO tree.parent old call.newDir) := by
  unfold Namei.refuseBelow at ran
  rw [Routine.read_bind] at ran
  by_cases directory : Inode.sIsDir (s.mode old) = true
  · rw [if_pos directory] at ran
    obtain ⟨above, u, climbed, ran⟩ := Routine.of_bind_ok _ _ _ _ _ ran
    obtain ⟨refused, same⟩ := Routine.of_require_ok _ _ _ _ ran
    obtain ⟨path, climbs⟩ := tree.climbs call.newDir onto
    have answered := climb_answers old _ call.newDir path s u above holds.listed onto climbs climbed
    rw [same]
    refine ⟨(dirHasAncestor_looks call.newDir old).of_run climbed, fun _ high => ?_⟩
    rw [answered.mpr high] at refused
    cases refused
  · rw [if_neg directory] at ran
    rw [← (Prod.mk.inj ran).2]
    exact ⟨Std.Refl.refl s, fun here => absurd here directory⟩

/-- A file only takes the place of a file. -/
theorem of_checkVictim_ok {victim : Nat} (file : Inode.sIsDir (s.mode victim) = false)
    (ran : checkVictim sb o call old victim s = (.ok (), t)) :
    Looked s t ∧ Inode.sIsDir (s.mode old) = false := by
  unfold checkVictim at ran
  rw [Routine.read_bind] at ran
  obtain ⟨first, ran⟩ := Routine.of_require_bind_ok _ _ _ _ _ _ ran
  obtain ⟨_, ran⟩ := Routine.of_require_bind_ok _ _ _ _ _ _ ran
  obtain ⟨_, u, vacant, ran⟩ := Routine.of_bind_ok _ _ _ _ _ ran
  rw [requireVacant, Routine.read_bind, file, if_neg (by decide)] at vacant
  rw [← (Prod.mk.inj vacant).2, Routine.attempt_bind] at ran
  have looked := onDir_looks (o := o) .findTarget call.newDir
    (Dir.findEntry_reads sb call.newName) s
  constructor
  · cases found : (onDir o .findTarget call.newDir (Dir.findEntry sb call.newName) s).1 with
    | ok place =>
        rw [found] at ran
        rw [← (Prod.mk.inj ran).2]
        exact looked
    | error reason =>
        rw [found] at ran
        rw [(Routine.of_require_ok _ _ _ _ ran).2]
        exact looked
  · cases type : Inode.sIsDir (s.mode old) with
    | false => rfl
    | true => exact absurd ⟨type, file⟩ first

end Checks

theorem of_flushVictim_ok {o : Answers} {call : RenameCall} {s t : NameState}
    (ran : flushVictim o call s = (.ok (), t)) : t = s := by
  unfold flushVictim at ran
  cases target : call.newInode with
  | none =>
      rw [target] at ran
      exact (Prod.mk.inj ran).2.symm
  | some victim =>
      rw [target] at ran
      exact of_flushLast_ok ran

/-- The links after a rename: the old entry and the target's are replaced by one for the new
place, unless both places are the same. -/
def RenameCall.moved (call : RenameCall) (old : Nat) (links : Finset Entry) : Finset Entry :=
  if call.oldDir = call.newDir ∧ call.oldName = call.newName then links
  else
    let others := match call.newInode with
      | none => links
      | some victim => links.erase ⟨call.newDir, call.newName, victim⟩
    insert ⟨call.newDir, call.newName, old⟩ (others.erase ⟨call.oldDir, call.oldName, old⟩)

section Moves

variable {sb : DirSuper} (plain : sb.dirIndex = false) {o : Answers} {call : RenameCall}
  {s t : NameState} {tree : Tree} {lost : Finset Nat} {owed : Option Nat} {old : Nat}

include plain

/-- The entry of a file moves; a target's lost name is still owed. -/
theorem Owing.moveFile (owing : Owing sb s tree owed lost) (onto : call.newDir ∈ tree.dirs)
    (member : (⟨call.oldDir, call.oldName, old⟩ : Entry) ∈ tree.links)
    (type : Inode.sIsDir (s.mode old) = false) (named : call.newName ≠ [])
    (other : call.newDir ≠ call.oldDir ∨ call.newName ≠ call.oldName)
    (high : ∀ ino, tree.Has ino → ROOT_INO ≤ ino ∧ ino ≤ sb.maxInodes)
    (ran : moveEntry sb o call old s = (.ok (), t)) : Rewritten s t ∧
      ∃ file free, Owing sb t (tree.moveFile ⟨call.oldDir, call.oldName, old⟩ file call.newDir
        call.newName onto free) owed lost := by
  have has := tree.target_has _ member
  have file : old ∈ tree.files := by
    rcases has with dir | file
    · rw [(owing.dirs old dir).1] at type
      cases type
    · exact file
  obtain ⟨free, rewritten, listed⟩ := moveEntry_ok plain owing.listed (tree.held _ member) onto
    member named (high old has) (high _ (Or.inl onto))
    (fun directory => absurd (type.symm.trans directory) (by decide)) ran
  have free : tree.Free call.newDir call.newName := free
  refine ⟨rewritten, file, free, ?_⟩
  rw [if_neg (fun moving => absurd (type.symm.trans moving.1) (by decide)), moved_links] at listed
  · exact owing.relinked rewritten listed
      (NameTree.has_moveFile tree _ member file call.newDir call.newName onto free) rfl
      (fun dir _ => NameTree.subdirs_moveFile tree _ member file _ _ onto free dir)
      (fun ino _ => NameTree.names_moveFile tree _ member file _ _ onto free ino)
  · intro same
    rw [Link.mk.injEq] at same
    rcases other with apart | apart
    · exact apart same.1
    · exact apart same.2.1

omit plain in
/-- The link counts of the two directories after a directory has gone from one to the other. -/
theorem Holds.moved_counted (holds : Holds sb s tree lost) {link : Entry}
    (member : link ∈ tree.links) (dir : link.target ∈ tree.dirs) {holder : Nat}
    {name : List UInt8} (onto : holder ∈ tree.dirs) (free : tree.Free holder name)
    (apart : ∀ path, Climbs ROOT_INO tree.parent holder path → link.target ∉ path)
    (leaves : link.holder ≠ holder) (nlink : Nat → Nat)
    (count : ∀ node, tree.Has node → nlink node = s.nlink node) :
    Counted s.mode (store (store nlink link.holder (tree.subdirs link.holder + 1)) holder
      (tree.subdirs holder + 3)) (tree.moveDir link member dir holder name onto free apart) := by
  have subdirs := NameTree.subdirs_moveDir tree link member dir holder name onto free apart
  have names := NameTree.names_moveDir tree link member dir holder name onto free apart
  have from_ := tree.held link member
  constructor
  · intro node here
    have kept := holds.counted.dirs node here
    refine ⟨kept.1, ?_⟩
    have part := subdirs node
    by_cases target : node = holder
    · rw [target, store_same]
      rw [target, if_neg leaves, if_pos rfl] at part
      omega
    · rw [store_other _ _ _ _ target]
      by_cases source : node = link.holder
      · rw [source, store_same]
        rw [source, if_pos rfl, if_neg leaves.symm] at part
        omega
      · rw [store_other _ _ _ _ source, count node (Or.inl here), kept.2]
        rw [if_neg (fun same => source same.symm), if_neg (fun same => target same.symm)] at part
        omega
  · intro node here
    have file : node ∈ tree.files := here
    have away : ∀ directory ∈ tree.dirs, node ≠ directory := by
      rintro _ directory rfl
      exact tree.apart node directory file
    rw [store_other _ _ _ _ (away _ onto), store_other _ _ _ _ (away _ from_),
      names node (away _ dir).symm, count node (Or.inr file)]
    exact holds.counted.files node file

omit plain in
/-- Both directories are written with the link counts that a directory takes along. -/
theorem of_moveCount_ok {v : NameState} {low high : Nat} (recounts : o.Recounts)
    (moving : moves call v old) (source : v.nlink call.oldDir = low + 1)
    (target : v.nlink call.newDir = high) (few : high + 1 < 2 ^ 32)
    (ran : moveCount o call old v = (.ok (), t)) :
    t = (((v.counted call.oldDir low).counted call.newDir (high + 1)).written
      call.oldDir).written call.newDir := by
  have less : Balloc.u32Sub (v.nlink call.oldDir) 1 = low := by
    rw [source, Balloc.u32Sub_of_le _ _ (by omega)]
    omega
  have more : u32 ((v.counted call.oldDir low).nlink call.newDir + 1) = high + 1 := by
    have stays : (v.counted call.oldDir low).nlink call.newDir = high :=
      (store_other _ _ _ _ moving.2.symm).trans target
    rw [stays, u32_of_lt _ few]
  rw [moveCount, Routine.read_bind, if_pos moving, Namei.dropNlink, Routine.modify_bind, incNlink,
    Routine.modify_bind, Routine.ignored_bind, writeInodeToDisk_calm _ recounts.oldDir,
    Routine.ignored] at ran
  rw [less, more, writeInodeToDisk_calm _ recounts.newDir] at ran
  exact (Prod.mk.inj ran).2.symm

/-- The entry of a directory moves, and its parents' link counts with it. -/
theorem Holds.moveDir (holds : Holds sb s tree lost) (onto : call.newDir ∈ tree.dirs)
    (member : (⟨call.oldDir, call.oldName, old⟩ : Entry) ∈ tree.links)
    (type : Inode.sIsDir (s.mode old) = true) (named : call.newName ≠ [])
    (other : call.newDir ≠ call.oldDir ∨ call.newName ≠ call.oldName)
    (outside : ¬ Above ROOT_INO tree.parent old call.newDir)
    (few : s.nlink call.newDir + 1 < 2 ^ 32) (recounts : o.Recounts)
    {u v : NameState} (ran : moveEntry sb o call old s = (.ok (), u)) (carried : Carried tree u v)
    (counts : moveCount o call old v = (.ok (), t)) :
    ∃ dir free apart, Holds sb t (tree.moveDir ⟨call.oldDir, call.oldName, old⟩ member dir
      call.newDir call.newName onto free apart) lost := by
  have has := tree.target_has _ member
  have dir : old ∈ tree.dirs := by
    rcases has with dir | file
    · exact dir
    · rw [(holds.counted.files old file).1] at type
      cases type
  have from_ := tree.held _ member
  obtain ⟨free, first, listed⟩ := moveEntry_ok plain holds.listed from_ onto member named
    (holds.range has) (holds.range (Or.inl onto)) (fun _ => dir) ran
  have free : tree.Free call.newDir call.newName := free
  have apart : ∀ path, Climbs ROOT_INO tree.parent call.newDir path → old ∉ path :=
    fun path climbs here => outside ((climbs.above_iff old).mpr (Or.inr here))
  have new : (⟨call.newDir, call.newName, old⟩ : Entry) ≠ ⟨call.oldDir, call.oldName, old⟩ := by
    intro same
    rw [Link.mk.injEq] at same
    rcases other with apart | apart
    · exact apart same.1
    · exact apart same.2.1
  rw [moved_links _ _ _ new] at listed
  have mode : v.mode = s.mode := carried.mode.trans first.mode
  have count : ∀ node, tree.Has node → v.nlink node = s.nlink node :=
    fun node here => (carried.nlink node here).trans (congrFun first.nlink node)
  refine ⟨dir, free, apart, ?_⟩
  have modes : moves call v old ↔ call.oldDir ≠ call.newDir := by
    unfold moves
    rw [mode]
    exact and_iff_right type
  by_cases stays : call.oldDir = call.newDir
  · rw [moveCount, Routine.read_bind, if_neg (fun moving => modes.mp moving stays)] at counts
    rw [← (Prod.mk.inj counts).2]
    rw [if_neg (fun moving => moving.2 stays)] at listed
    have hangs : tree.parent old = call.newDir := by
      rcases tree.hangs _ member with file | ⟨_, _, parent⟩
      · exact absurd file (tree.apart old dir)
      · exact parent.trans stays
    refine (?_ : Holds sb u _ lost).carried
      ⟨carried.dirs, carried.mode, carried.nlink, carried.table, carried.recorded⟩
    apply Owing.holds
    apply holds.owing.relinked first
    · change Listed sb u.dirs s.mode tree.dirs (store tree.parent old call.newDir) _
      rw [store_eq_self _ _ _ hangs]
      exact listed
    · exact fun _ => Iff.rfl
    · rfl
    · intro node _
      have part := NameTree.subdirs_moveDir tree ⟨call.oldDir, call.oldName, old⟩ member dir
        call.newDir call.newName onto free apart node
      have same : (if call.oldDir = node then 1 else 0) = if call.newDir = node then 1 else 0 := by
        rw [stays]
      exact Nat.add_right_cancel (part.trans (congrArg _ same.symm))
    · intro ino away
      apply NameTree.names_moveDir tree ⟨call.oldDir, call.oldName, old⟩ member dir
        call.newDir call.newName onto free apart
      rintro rfl
      exact away dir
  · have low := (holds.counted.dirs call.oldDir from_).2
    have high := (holds.counted.dirs call.newDir onto).2
    have final := of_moveCount_ok recounts (modes.mpr stays)
      ((count _ (Or.inl from_)).trans low) ((count _ (Or.inl onto)).trans high)
      (by omega) counts
    rw [if_pos ⟨type, stays⟩] at listed
    obtain ⟨table, allocated⟩ := first.table
    obtain ⟨inodeTable, allocator⟩ := carried.table
    rw [allocated] at allocator
    rw [final]
    refine ⟨?_, ?_, ?_, ?_, ?_⟩
    · change Listed sb v.dirs v.mode tree.dirs (store tree.parent old call.newDir) _
      rw [carried.dirs, mode]
      exact listed
    · have counted := holds.moved_counted member dir onto free apart stays v.nlink count
      rw [← mode] at counted
      exact counted
    · intro node here
      by_cases target : node = call.newDir
      · rw [target]
        exact written_same _ _
      · apply Recorded.written
        by_cases source : node = call.oldDir
        · rw [source]
          exact written_same _ _
        · apply Recorded.written
          exact ((carried.recorded node here (first.recorded node (holds.recorded node
            here))).counted _ _ source).counted _ _ target
    · change Numbered { v.allocator with inodeTable := _ } lost _
      rw [allocator]
      exact holds.numbered.withTable _
    · change _ = v.allocator.diskSb.inodesCount
      rw [allocator]
      exact holds.sized

end Moves

section Rename

variable {sb : DirSuper} (plain : sb.dirIndex = false) {o : Answers} {call : RenameCall}
  {s t : NameState} {tree : Tree} {lost : Finset Nat} (holds : Holds sb s tree lost) {old : Nat}

include plain holds

/-- The part of `cryexts_rename` behind its first checks, when no directory is replaced. -/
theorem Holds.replace (found : o.found = true) (calm : o.outcome .writeVictim = none)
    (recounts : o.Recounts) (onto : call.newDir ∈ tree.dirs)
    (member : (⟨call.oldDir, call.oldName, old⟩ : Entry) ∈ tree.links)
    (named : call.newName ≠ [])
    (target : ∀ victim, call.newInode = some victim → victim ≠ old ∧
      (⟨call.newDir, call.newName, victim⟩ : Entry) ∈ tree.links ∧
      Inode.sIsDir (s.mode victim) = false)
    (few : s.nlink call.newDir + 1 < 2 ^ 32)
    (other : ¬ (call.oldDir = call.newDir ∧ call.oldName = call.newName))
    (ran : replace sb o call old s = (.ok (), t)) :
    ∃ after : Tree, Holds sb t after lost ∧ after.dirs = tree.dirs ∧
      after.links = call.moved old tree.links := by
  have apart : call.newDir ≠ call.oldDir ∨ call.newName ≠ call.oldName := by
    by_cases same : call.newDir = call.oldDir
    · right
      intro equal
      exact other ⟨same.symm, equal.symm⟩
    · exact Or.inl same
  obtain ⟨_, ran⟩ := Routine.of_require_bind_ok _ _ _ _ _ _ ran
  obtain ⟨_, s₁, climbed, ran⟩ := Routine.of_bind_ok _ _ _ _ _ ran
  obtain ⟨first, below⟩ := holds.refuseBelow onto climbed
  obtain ⟨_, s₂, looked, ran⟩ := Routine.of_bind_ok _ _ _ _ _ ran
  have second : Looked s s₂ := Trans.trans first
    ((onDir_looks (o := o) .find call.oldDir (Dir.findEntry_reads sb call.oldName)).of_run looked)
  have middle := holds.looked second
  obtain ⟨_, s₃, cleared, ran⟩ := Routine.of_bind_ok _ _ _ _ _ ran
  obtain ⟨_, s₄, moved, ran⟩ := Routine.of_bind_ok _ _ _ _ _ ran
  have moved := Routine.of_onFailure_ok moved
  obtain ⟨_, s₅, wrote, ran⟩ := Routine.of_bind_ok _ _ _ _ _ ran
  have wrote := (writeRenamed_wrote o call old).of_run wrote
  obtain ⟨_, s₆, released, ran⟩ := Routine.of_bind_ok _ _ _ _ _ ran
  obtain ⟨_, s₇, counts, ran⟩ := Routine.of_bind_ok _ _ _ _ _ ran
  rw [(Routine.of_answer_ok ran).2]
  have high : ∀ ino, tree.Has ino → ROOT_INO ≤ ino ∧ ino ≤ sb.maxInodes :=
    fun ino here => holds.range here
  unfold clearTarget at cleared
  unfold releaseVictim at released
  cases victims : call.newInode with
  | none =>
      rw [victims] at cleared released
      rw [← (Prod.mk.inj cleared).2] at moved
      rw [← (Prod.mk.inj released).2] at counts
      have links : call.moved old tree.links = insert ⟨call.newDir, call.newName, old⟩
          (tree.links.erase ⟨call.oldDir, call.oldName, old⟩) := by
        rw [RenameCall.moved, if_neg other, victims]
      rw [links]
      cases type : Inode.sIsDir (s.mode old) with
      | true =>
          obtain ⟨_, _, _, done⟩ := middle.moveDir plain onto member
            (by rw [second.mode]; exact type) named apart (below type)
            (by rw [second.nlink]; exact few) recounts moved (wrote.carried tree) counts
          exact ⟨_, done, rfl, rfl⟩
      | false =>
          obtain ⟨rewritten, file, free, owing⟩ := middle.owing.moveFile plain onto member
            (by rw [second.mode]; exact type) named apart high moved
          have done := (owing.wrote wrote).holds
          have final : s₅ = s₇ := by
            rw [moveCount, Routine.read_bind, if_neg] at counts
            · exact (Prod.mk.inj counts).2
            · rintro ⟨directory, _⟩
              rw [wrote.rewritten.mode, rewritten.mode, second.mode, type] at directory
              cases directory
          rw [← final]
          exact ⟨_, done, rfl, rfl⟩
  | some victim =>
      rw [victims] at cleared released
      obtain ⟨away, entry, type⟩ := target victim victims
      obtain ⟨_, u, checked, removed⟩ := Routine.of_bind_ok _ _ _ _ _ cleared
      obtain ⟨third, plain_old⟩ := of_checkVictim_ok (by rw [second.mode]; exact type) checked
      have looked := middle.looked third
      have file : victim ∈ tree.files := by
        rcases tree.target_has _ entry with dir | file
        · rw [(holds.counted.dirs victim dir).1] at type
          cases type
        · exact file
      obtain ⟨mode, nlink, owing⟩ := looked.removeVictim plain entry file removed
      have links : call.moved old tree.links = insert ⟨call.newDir, call.newName, old⟩
          ((tree.links.erase ⟨call.newDir, call.newName, victim⟩).erase
            ⟨call.oldDir, call.oldName, old⟩) := by
        rw [RenameCall.moved, if_neg other, victims]
      rw [links]
      have modes : s₃.mode = s₂.mode := mode.trans third.mode
      have still : (⟨call.oldDir, call.oldName, old⟩ : Entry) ∈
          (tree.removeFile ⟨call.newDir, call.newName, victim⟩ file).links := by
        refine Finset.mem_erase.mpr ⟨?_, member⟩
        intro same
        rw [Link.mk.injEq] at same
        exact away same.2.2.symm
      obtain ⟨rewritten, moved_file, free, late⟩ := owing.moveFile plain onto still
        (by rw [modes]; exact plain_old) named apart
        (fun ino here => high ino ((NameTree.has_removeFile tree _ entry file ino).mp here).1) moved
      have done := (late.wrote wrote).dropVictim found calm released
      have final : s₆ = s₇ := by
        have kept : s₆.mode = s₅.mode := dropVictim_mode released
        rw [moveCount, Routine.read_bind, if_neg] at counts
        · exact (Prod.mk.inj counts).2
        · rintro ⟨directory, _⟩
          rw [kept, wrote.rewritten.mode, rewritten.mode, modes, plain_old] at directory
          cases directory
      rw [← final]
      exact ⟨_, done, rfl, rfl⟩

omit plain holds in
/-- A successful `cryexts_rename` has nothing to do, or does it. -/
theorem of_rename_ok (known : call.oldInode = some old)
    (ran : Namei.rename sb o call s = (.ok (), t)) :
    (call.oldDir = call.newDir ∧ call.oldName = call.newName ∧ t = s) ∨
      ¬ (call.oldDir = call.newDir ∧ call.oldName = call.newName) ∧
        Namei.replace sb o call old s = (.ok (), t) := by
  obtain ⟨_, u, flushed, ran⟩ := Routine.of_bind_ok _ _ _ _ _ ran
  rw [of_flushVictim_ok flushed] at ran
  obtain ⟨_, ran⟩ := Routine.of_require_bind_ok _ _ _ _ _ _ (Routine.of_answer_bind_ok ran).2
  rw [known] at ran
  simp only at ran
  by_cases same : call.oldDir = call.newDir ∧ call.oldName = call.newName
  · rw [if_pos same] at ran
    exact Or.inl ⟨same.1, same.2, (Prod.mk.inj ran).2.symm⟩
  · rw [if_neg same] at ran
    exact Or.inr ⟨same, ran⟩

/-- A successful `cryexts_rename` that replaces no directory moves one entry. -/
theorem Holds.rename (found : o.found = true) (calm : o.outcome .writeVictim = none)
    (recounts : o.Recounts) (onto : call.newDir ∈ tree.dirs)
    (known : call.oldInode = some old)
    (member : (⟨call.oldDir, call.oldName, old⟩ : Entry) ∈ tree.links)
    (named : call.newName ≠ [])
    (target : ∀ victim, call.newInode = some victim → victim ≠ old ∧
      (⟨call.newDir, call.newName, victim⟩ : Entry) ∈ tree.links ∧
      Inode.sIsDir (s.mode victim) = false)
    (few : s.nlink call.newDir + 1 < 2 ^ 32) (ran : rename sb o call s = (.ok (), t)) :
    ∃ after : Tree, Holds sb t after lost ∧ after.dirs = tree.dirs ∧
      after.links = call.moved old tree.links := by
  rcases of_rename_ok known ran with ⟨dir, name, rfl⟩ | ⟨same, ran⟩
  · rw [RenameCall.moved, if_pos ⟨dir, name⟩]
    exact ⟨tree, holds, rfl, rfl⟩
  · exact holds.replace plain found calm recounts onto member named target few same ran

end Rename

end Namei

end Cryexts
