import Cryexts.Namei.Run

set_option autoImplicit false

namespace Cryexts

namespace Namei

open Dir (DirSuper)

/-- The same answers with a commit that succeeds. -/
def Answers.committing (o : Answers) : Answers :=
  { o with outcome := fun site => if site = .commits then none else o.outcome site }

/-- Two calls that differ in the answer of the last commit at most. -/
def Settles (call other : NameOp Unit) (commit : Option Errno) : Prop :=
  ∀ s, call s = other s ∨
    ∃ reason t, commit = some reason ∧ call s = (.error reason, t) ∧ other s = (.ok (), t)

section Commits

variable {commit : Option Errno}

theorem Settles.refl (call : NameOp Unit) : Settles call call commit := fun _ => Or.inl rfl

theorem Settles.answer : Settles (Routine.answer commit) (Routine.answer none) commit := by
  intro s
  cases commit with
  | none => exact Or.inl rfl
  | some reason => exact Or.inr ⟨reason, s, rfl, rfl, rfl⟩

theorem Settles.bind {α : Type} (first : NameOp α) {next other : α → NameOp Unit}
    (settles : ∀ value, Settles (next value) (other value) commit) :
    Settles (first >>= next) (first >>= other) commit := by
  intro s
  rcases Routine.bind_cases first next s with ⟨reason, t, failed, whole⟩ | ⟨value, t, ran, whole⟩
  · rw [whole, Routine.bind_error _ _ _ _ _ failed]
    exact Or.inl rfl
  · rw [whole, Routine.bind_ok _ _ _ _ _ ran]
    exact settles value t

variable (sb : DirSuper) (o : Answers)

theorem create_settles (dir : Nat) (name : List UInt8) (mode : Nat) :
    Settles (create sb o dir name mode) (create sb o.committing dir name mode)
      (o.outcome .commits) := by
  iterate 3 refine Settles.bind _ fun _ => ?_
  exact Settles.answer

theorem mkdir_settles (dir : Nat) (name : List UInt8) (mode : Nat) :
    Settles (mkdir sb o dir name mode) (mkdir sb o.committing dir name mode)
      (o.outcome .commits) := by
  iterate 2 refine Settles.bind _ fun _ => ?_
  apply Settles.bind
  intro made
  cases made with
  | error reason => exact Settles.refl _
  | ok ino =>
      apply Settles.bind
      intro _
      exact Settles.answer

theorem link_settles (ino dir : Nat) (name : List UInt8) :
    Settles (link sb o ino dir name) (link sb o.committing ino dir name)
      (o.outcome .commits) := by
  iterate 6 refine Settles.bind _ fun _ => ?_
  exact Settles.answer

theorem symlink_settles (dir : Nat) (name symname : List UInt8) :
    Settles (symlink sb o dir name symname) (symlink sb o.committing dir name symname)
      (o.outcome .commits) := by
  iterate 5 refine Settles.bind _ fun _ => ?_
  exact Settles.answer

theorem unlink_settles (dir : Nat) (name : List UInt8) (ino : Nat) :
    Settles (unlink sb o dir name ino) (unlink sb o.committing dir name ino)
      (o.outcome .commits) := by
  iterate 6 refine Settles.bind _ fun _ => ?_
  exact Settles.answer

theorem rmdir_settles (dir : Nat) (name : List UInt8) (ino : Nat) :
    Settles (rmdir sb o dir name ino) (rmdir sb o.committing dir name ino)
      (o.outcome .commits) := by
  iterate 9 refine Settles.bind _ fun _ => ?_
  exact Settles.answer

theorem climb_committing (ancestor turns cursor : Nat) :
    climb sb o.committing ancestor turns cursor = climb sb o ancestor turns cursor := by
  induction turns generalizing cursor with
  | zero => rfl
  | succ turns ih =>
      unfold climb
      simp only [ih]
      rfl

theorem refuseBelow_committing (call : RenameCall) (old : Nat) :
    refuseBelow sb o.committing call old = refuseBelow sb o call old := by
  unfold refuseBelow dirHasAncestor
  simp only [climb_committing]

theorem replace_settles (call : RenameCall) (old : Nat) :
    Settles (replace sb o call old) (replace sb o.committing call old) (o.outcome .commits) := by
  unfold replace
  rw [refuseBelow_committing]
  iterate 8 refine Settles.bind _ fun _ => ?_
  exact Settles.answer

theorem rename_settles (call : RenameCall) :
    Settles (rename sb o call) (rename sb o.committing call) (o.outcome .commits) := by
  iterate 3 refine Settles.bind _ fun _ => ?_
  cases call.oldInode with
  | none => exact Settles.refl _
  | some old =>
      simp only
      split
      · exact Settles.refl _
      · exact replace_settles sb o call old

/-- A call whose commit fails has done what it does when its commit succeeds. -/
theorem Call.settles (call : Call) :
    Settles (call.run sb o) (call.run sb o.committing) (o.outcome .commits) := by
  cases call with
  | create dir name mode => exact create_settles sb o dir name mode
  | mkdir dir name mode => exact mkdir_settles sb o dir name mode
  | link ino dir name => exact link_settles sb o ino dir name
  | symlink dir name symname => exact symlink_settles sb o dir name symname
  | unlink dir name ino => exact unlink_settles sb o dir name ino
  | rmdir dir name ino => exact rmdir_settles sb o dir name ino
  | rename call => exact rename_settles sb o call

end Commits

end Namei

end Cryexts
