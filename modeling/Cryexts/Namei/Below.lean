import Cryexts.Namei.Quiet
import Cryexts.Namei.Run

set_option autoImplicit false

namespace Cryexts

namespace Namei

open Dir (DirEntry DirOp DirState DirSuper)
open Linked (Above Climbs)

/-- No block fails to be read on the way to the root, and no inode to be loaded. -/
structure Readable (o : Answers) : Prop where
  blocks : ∀ turns, o.faults (.climb turns) = []
  inodes : ∀ turns, o.outcome (.parent turns) = none

section Climbing

variable {sb : DirSuper} {o : Answers} {tree : Tree} {lost : Finset Nat}

/-- A directory whose blocks can be read has a parent to return. -/
theorem Listing.parentIno_quiet {state before : DirState} {mode : Nat → Nat} {dir parent : Nat}
    {held : List UInt8 → Nat → Prop} (listing : Listing sb state mode dir parent held)
    (quiet : before.faults = []) (blocks : before.blocks = state.blocks)
    (index : before.index = state.index) : dirParentIno sb before = (.ok parent, before) := by
  have whole := listing.reads blocks index
  obtain ⟨place, found⟩ := whole.finds quiet (Or.inr (Or.inl ⟨rfl, rfl, rfl⟩))
  have ran : dirParentIno sb before = (.ok _, before) := Routine.bind_ok _ _ _ _ _ found
  rw [ran, listing.parentIno ran blocks index]

/-- The walk towards the root ends there, or at the inode that is looked for. -/
theorem climb_runs (readable : Readable o) (ancestor turns cursor : Nat) (path : List Nat)
    (s : NameState) (listed : Listed sb s.dirs s.mode tree.dirs tree.parent tree.links)
    (inside : cursor ∈ tree.dirs) (climbs : Climbs ROOT_INO tree.parent cursor path)
    (enough : path.length < turns) :
    ∃ above t, climb sb o ancestor turns cursor s = (.ok above, t) := by
  induction turns generalizing cursor path s with
  | zero => omega
  | succ turns ih =>
      unfold climb
      by_cases here : cursor = ancestor
      · rw [if_pos here]
        exact ⟨_, _, rfl⟩
      · rw [if_neg here]
        cases path with
        | nil =>
            have top : cursor = ROOT_INO := climbs
            rw [if_pos top]
            exact ⟨_, _, rfl⟩
        | cons first rest =>
            obtain ⟨rfl, below, behind⟩ := climbs
            rw [if_neg below]
            have read : dirParentIno sb { s.dirs cursor with
                grants := o.grants (.climb turns), faults := o.faults (.climb turns) } =
                (.ok (tree.parent cursor), _) :=
              (listed cursor inside).parentIno_quiet (readable.blocks turns) rfl rfl
            have seen := onDir_ok read
            rw [Routine.bind_ok _ _ _ _ _ seen, if_neg (parent_ne inside below),
              Routine.answer_none_bind _ (readable.inodes turns)]
            have looked := (onDir_looks (o := o) (.climb turns) cursor
              (dirParentIno_reads sb)).of_run seen
            apply ih (tree.parent cursor) rest _ (listed.looked looked)
              (tree.parent_mem cursor inside below) behind
            rw [List.length_cons] at enough
            omega

variable {s : NameState} (holds : Holds sb s tree lost)

include holds

/-- There are no more directories than inodes, so the guard of the walk is never reached. -/
theorem Holds.path_short {dir : Nat} {path : List Nat} (inside : dir ∈ tree.dirs)
    (climbs : Climbs ROOT_INO tree.parent dir path) : path.length < u64 (sb.maxInodes + 1) := by
  have short := climbs.length_lt tree.dirs tree.top inside tree.parent_mem
  have range : tree.dirs ⊆ Finset.Icc ROOT_INO sb.maxInodes := by
    intro node here
    exact Finset.mem_Icc.mpr (holds.range (Or.inl here))
  have count := Finset.card_le_card range
  have bound := holds.numbered.marked.sound.geometry.inodesBound
  have size := holds.sized
  rw [Nat.card_Icc] at count
  have root : ROOT_INO = 1 := rfl
  have whole : u64 (sb.maxInodes + 1) = sb.maxInodes + 1 := Nat.mod_eq_of_lt (by omega)
  omega

/-- `cryexts_dir_has_ancestor` answers, and truly. -/
theorem Holds.hasAncestor (readable : Readable o) (ancestor dir : Nat) (inside : dir ∈ tree.dirs) :
    ∃ above t, dirHasAncestor sb o dir ancestor s = (.ok above, t) ∧ Looked s t ∧
      (above = true ↔ Above ROOT_INO tree.parent ancestor dir) := by
  obtain ⟨path, climbs⟩ := tree.climbs dir inside
  obtain ⟨above, t, ran⟩ := climb_runs readable ancestor _ dir path s holds.listed inside climbs
    (holds.path_short inside climbs)
  exact ⟨above, t, ran, (dirHasAncestor_looks dir ancestor).of_run ran,
    climb_answers ancestor _ dir path s t above holds.listed inside climbs ran⟩

/-- A directory on the way from its new place to the root is refused there. -/
theorem Holds.refused (readable : Readable o) {call : RenameCall} {old : Nat}
    (onto : call.newDir ∈ tree.dirs) (directory : Inode.sIsDir (s.mode old) = true)
    (high : Above ROOT_INO tree.parent old call.newDir) :
    ∃ t, Looked s t ∧ Namei.refuseBelow sb o call old s = (.error .einval, t) := by
  obtain ⟨above, t, ran, looked, answer⟩ := holds.hasAncestor readable old call.newDir onto
  refine ⟨t, looked, ?_⟩
  unfold Namei.refuseBelow
  rw [Routine.read_bind, if_pos directory, Routine.bind_ok _ _ _ _ _ ran, answer.mpr high]
  rfl

/-- Any other directory passes, and everything that is none. -/
theorem Holds.passed (readable : Readable o) {call : RenameCall} {old : Nat}
    (onto : call.newDir ∈ tree.dirs)
    (low : ¬ (Inode.sIsDir (s.mode old) = true ∧ Above ROOT_INO tree.parent old call.newDir)) :
    ∃ t, Looked s t ∧ Namei.refuseBelow sb o call old s = (.ok (), t) := by
  unfold Namei.refuseBelow
  rw [Routine.read_bind]
  by_cases directory : Inode.sIsDir (s.mode old) = true
  · obtain ⟨above, t, ran, looked, answer⟩ := holds.hasAncestor readable old call.newDir onto
    refine ⟨t, looked, ?_⟩
    rw [if_pos directory, Routine.bind_ok _ _ _ _ _ ran]
    cases above with
    | false => rfl
    | true => exact absurd ⟨directory, answer.mp rfl⟩ low
  · rw [if_neg directory]
    exact ⟨s, Std.Refl.refl s, rfl⟩

end Climbing

/-- A rename gets as far as the search for the moved directory above its new place. -/
structure RenameCall.Reaches (call : RenameCall) (o : Answers) (old : Nat) : Prop where
  flush : o.outcome .flush = none
  begins : o.outcome .begins = none
  flags : call.flags = 0
  known : call.oldInode = some old
  other : ¬ (call.oldDir = call.newDir ∧ call.oldName = call.newName)
  short : call.oldName.length ≤ Dir.NAME_LEN ∧ call.newName.length ≤ Dir.NAME_LEN

theorem flushVictim_calm {o : Answers} (call : RenameCall) (s : NameState)
    (flush : o.outcome .flush = none) : flushVictim o call s = (.ok (), s) := by
  unfold flushVictim
  cases call.newInode with
  | none => rfl
  | some victim =>
      show flushLast o victim s = (.ok (), s)
      unfold flushLast
      rw [Routine.read_bind, flush]
      split
      · rfl
      · rfl

/-- A rename that reaches the search fails as the search does. -/
theorem RenameCall.Reaches.error {sb : DirSuper} {o : Answers} {call : RenameCall} {old : Nat}
    {s t : NameState} {reason : Errno} (reaches : call.Reaches o old)
    (refused : refuseBelow sb o call old s = (.error reason, t)) :
    Namei.rename sb o call s = (.error reason, t) := by
  unfold Namei.rename
  rw [Routine.bind_ok _ _ _ _ _ (flushVictim_calm call s reaches.flush),
    Routine.answer_none_bind _ reaches.begins, Routine.require_bind _ _ _ _ reaches.flags,
    reaches.known]
  simp only
  rw [if_neg reaches.other]
  unfold Namei.replace
  rw [Routine.require_bind _ _ _ _ reaches.short]
  exact Routine.bind_error _ _ _ _ _ refused

/-- The directories of a state form a tree by their ".." entries, on which the ancestor search is
exact: a directory is kept from going below itself, and from nothing else. -/
structure Hierarchy (sb : DirSuper) (s : NameState) (parent : Nat → Nat) : Prop where
  dotdot : ∀ dir, IsDir s dir →
    ∃ pos kind, (pos, ⟨DOTDOT, parent dir, kind⟩) ∈ Dir.entries (s.dirs dir)
  holder : ∀ dir name ino, IsDir s dir → Names s dir name ino → IsDir s ino → parent ino = dir
  climbs : ∀ dir, IsDir s dir → ∃ path, Climbs ROOT_INO parent dir path
  answers : ∀ o ancestor dir, Readable o → IsDir s dir →
    ∃ above t, dirHasAncestor sb o dir ancestor s = (.ok above, t) ∧ Looked s t ∧
      (above = true ↔ Above ROOT_INO parent ancestor dir)
  refused : ∀ o call old, Readable o → call.Reaches o old → IsDir s call.newDir →
    IsDir s old → Above ROOT_INO parent old call.newDir →
    ∃ t, Looked s t ∧ rename sb o call s = (.error .einval, t)
  passed : ∀ o (call : RenameCall) old, Readable o → IsDir s call.newDir →
    ¬ (Inode.sIsDir (s.mode old) = true ∧ Above ROOT_INO parent old call.newDir) →
    ∃ t, Looked s t ∧ refuseBelow sb o call old s = (.ok (), t)

theorem Holds.hierarchy {sb : DirSuper} {s : NameState} {tree : Tree} {lost : Finset Nat}
    (holds : Holds sb s tree lost) :
    Hierarchy sb s tree.parent where
  dotdot := by
    intro dir here
    obtain ⟨names, whole, shows⟩ := (holds.listed dir (holds.dir here.1 here.2)).names
    obtain ⟨pos, member⟩ := (whole.listed DOTDOT (tree.parent dir) Dir.DT_DIR).mpr
      ((shows DOTDOT _ _).mpr (Or.inr (Or.inl ⟨rfl, rfl, rfl⟩)))
    exact ⟨pos, _, member⟩
  holder := by
    intro dir name ino parent entry here
    rcases tree.hangs _ (holds.entry (holds.dir parent.1 parent.2) entry) with file | ⟨_, _, above⟩
    · exact absurd file (tree.apart ino (holds.dir here.1 here.2))
    · exact above
  climbs := fun dir here => tree.climbs dir (holds.dir here.1 here.2)
  answers := fun _ ancestor dir readable here =>
    holds.hasAncestor readable ancestor dir (holds.dir here.1 here.2)
  refused := by
    intro o call old readable reaches onto here high
    obtain ⟨t, looked, refused⟩ := holds.refused readable (holds.dir onto.1 onto.2) here.2 high
    exact ⟨t, looked, reaches.error refused⟩
  passed := fun _ _ _ readable onto low => holds.passed readable (holds.dir onto.1 onto.2) low

/-- The hierarchy stays a tree over any run of calls. -/
theorem hierarchy_stays (sb : DirSuper) (plain : sb.dirIndex = false) (s t : NameState)
    (tree : Tree) (lost : Finset Nat) (steps : List NameStep) (holds : Holds sb s tree lost)
    (ran : NameRun sb s steps t) : ∃ parent, Hierarchy sb t parent := by
  obtain ⟨after, _, done⟩ := holds.run plain ran
  exact ⟨after.parent, done.hierarchy⟩

theorem hierarchy_stays_small : ∃ t parent,
    mkdir plainDirSuper (calmAnswers 0) ROOT_INO [100] 0o755 rootState = (.ok (), t) ∧
      Hierarchy plainDirSuper t parent := by
  have made : mkdir plainDirSuper (calmAnswers 0) ROOT_INO [100] 0o755 rootState = (.ok (), _) :=
    Prod.ext (by rfl) rfl
  obtain ⟨parent, hierarchy⟩ := hierarchy_stays plainDirSuper rfl rootState _ rootTree ∅ _
    rootState_holds (NameRun.call (calmAnswers 0) (.mkdir ROOT_INO [100] 0o755)
      ⟨⟨Reached.root, by decide⟩, by decide, by decide⟩ ⟨rfl, by decide⟩ made (NameRun.nil _))
  exact ⟨_, parent, made, hierarchy⟩

end Namei

end Cryexts
