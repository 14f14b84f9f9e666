import Cryexts.Namei.Effects

set_option autoImplicit false

namespace Cryexts

namespace Namei

open Dir (DirOp DirState DirSuper)
open Linked (Above Climbs)
open Routine (Moves)
open WriteLog (store store_same store_other)

/-- A run that has at most used up answers of the block layer. -/
structure Looked (s t : NameState) : Prop where
  allocator : t.allocator = s.allocator
  mode : t.mode = s.mode
  nlink : t.nlink = s.nlink
  blocks : ∀ dir, (t.dirs dir).blocks = (s.dirs dir).blocks
  index : ∀ dir, (t.dirs dir).index = (s.dirs dir).index

instance : IsPreorder NameState Looked where
  refl _ := ⟨rfl, rfl, rfl, fun _ => rfl, fun _ => rfl⟩
  trans _ _ _ first second := ⟨second.allocator.trans first.allocator,
    second.mode.trans first.mode, second.nlink.trans first.nlink,
    fun dir => (second.blocks dir).trans (first.blocks dir),
    fun dir => (second.index dir).trans (first.index dir)⟩

section Reads

variable {sb : DirSuper} {o : Answers}

theorem onDir_looks {α : Type} (site : DirSite) (dir : Nat) {op : DirOp α}
    (reads : Moves Dir.OnlyReads op) : Moves Looked (onDir o site dir op) := by
  intro s
  have read := reads { s.dirs dir with grants := o.grants site, faults := o.faults site }
  refine ⟨rfl, rfl, rfl, ?_, ?_⟩
  · intro other
    change (store s.dirs dir _ other).blocks = _
    by_cases same : other = dir
    · rw [same, store_same]
      exact read.blocks
    · rw [store_other _ _ _ _ same]
  · intro other
    change (store s.dirs dir _ other).index = _
    by_cases same : other = dir
    · rw [same, store_same]
      exact read.index
    · rw [store_other _ _ _ _ same]

theorem climb_looks (ancestor turns cursor : Nat) :
    Moves Looked (climb sb o ancestor turns cursor) := by
  induction turns generalizing cursor with
  | zero => exact Moves.fail _
  | succ turns ih =>
      unfold climb
      split
      · exact Moves.pure _
      · split
        · exact Moves.pure _
        · refine Moves.bind (onDir_looks _ _ (dirParentIno_reads sb)) fun parent => ?_
          split
          · split
            · exact Moves.fail _
            · exact Moves.pure _
          · exact Moves.bind (Moves.answer _) fun _ => ih parent

theorem dirHasAncestor_looks (dir ancestor : Nat) :
    Moves Looked (dirHasAncestor sb o dir ancestor) := climb_looks _ _ _

end Reads

section Climbing

variable {sb : DirSuper} {o : Answers} {tree : Tree} {lost : Finset Nat}

theorem Listed.looked {s t : NameState} {inside : Finset Nat} {parent : Nat → Nat}
    {links : Finset Entry} (listed : Listed sb s.dirs s.mode inside parent links)
    (looked : Looked s t) : Listed sb t.dirs t.mode inside parent links := by
  rw [looked.mode]
  exact listed.reads looked.blocks looked.index

theorem Holds.looked {s t : NameState} (holds : Holds sb s tree lost) (looked : Looked s t) :
    Holds sb t tree lost := by
  refine ⟨holds.listed.looked looked, ?_, ?_, ?_, ?_⟩
  · rw [looked.mode, looked.nlink]
    exact holds.counted
  · intro ino here
    apply (holds.recorded ino here).frame
    · rw [looked.allocator]
    · rw [looked.mode]
    · rw [looked.nlink]
  · rw [looked.allocator]
    exact holds.numbered
  · rw [looked.allocator]
    exact holds.sized

/-- No directory below the root is its own parent. -/
theorem parent_ne {dir : Nat} (inside : dir ∈ tree.dirs) (below : dir ≠ ROOT_INO) :
    tree.parent dir ≠ dir := by
  intro same
  obtain ⟨path, climbs⟩ := tree.climbs dir inside
  cases path with
  | nil => exact below climbs
  | cons first rest =>
      have whole := climbs
      obtain ⟨rfl, _, behind⟩ := climbs
      rw [same] at behind
      have again := Linked.Chain.unique behind whole
      have lengths := congrArg List.length again
      rw [List.length_cons] at lengths
      omega

/-- The walk towards the root answers whether the inode lies on it. -/
theorem climb_answers (ancestor turns cursor : Nat) (path : List Nat) (s t : NameState)
    (above : Bool) (listed : Listed sb s.dirs s.mode tree.dirs tree.parent tree.links)
    (inside : cursor ∈ tree.dirs) (climbs : Climbs ROOT_INO tree.parent cursor path)
    (ran : climb sb o ancestor turns cursor s = (.ok above, t)) :
    above = true ↔ Above ROOT_INO tree.parent ancestor cursor := by
  rw [climbs.above_iff]
  induction turns generalizing cursor path s with
  | zero => cases ran
  | succ turns ih =>
      unfold climb at ran
      by_cases here : cursor = ancestor
      · rw [if_pos here] at ran
        have value := Except.ok.inj (Prod.mk.inj ran).1
        rw [← value, ← here]
        cases path with
        | nil => exact iff_of_true rfl (Or.inl climbs)
        | cons first rest =>
            obtain ⟨rfl, _, _⟩ := climbs
            exact iff_of_true rfl (Or.inr List.mem_cons_self)
      · rw [if_neg here] at ran
        cases path with
        | nil =>
            have top : cursor = ROOT_INO := climbs
            rw [if_pos top] at ran
            have value := Except.ok.inj (Prod.mk.inj ran).1
            rw [← value, ← top]
            apply iff_of_false (by decide)
            rintro (same | none)
            · exact here same.symm
            · cases none
        | cons first rest =>
            obtain ⟨rfl, below, behind⟩ := climbs
            rw [if_neg below] at ran
            obtain ⟨parent, u, seen, ran⟩ := Routine.of_bind_ok _ _ _ _ _ ran
            obtain ⟨state, read, rfl⟩ := of_onDir_ok seen
            have number : parent = tree.parent cursor :=
              (listed cursor inside).parentIno read rfl rfl
            rw [number, if_neg (parent_ne inside below)] at ran
            have next := (Routine.of_answer_bind_ok ran).2
            have looked : Looked s (s.withDir cursor state) :=
              (onDir_looks (o := o) (.climb turns) cursor (dirParentIno_reads sb)).of_run seen
            rw [ih (tree.parent cursor) rest _ (listed.looked looked)
              (tree.parent_mem cursor inside below) behind next, List.mem_cons]
            have other : ancestor ≠ cursor := fun same => here same.symm
            simp only [other, false_or]

end Climbing

end Namei

end Cryexts
