import Cryexts.Lib.Slice

set_option autoImplicit false

/-! Walks over records that carry their own lengths, through a buffer of untrusted bytes. -/

namespace RecordWalk

/-- The length of a record that has passed its checks: at least `least`, and inside the part of
the buffer that is walked. -/
structure Advance (least offset limit : Nat) where
  len : Nat
  long : least ≤ len
  inside : offset + len ≤ limit

/-- What a walk does with the record at an offset. -/
inductive Turn
  | rejected
  | last
  | passed (len : Nat)
  deriving DecidableEq

variable {σ ε : Type} {least limit : Nat}

/-- The walk: `step` reads and checks the record at an offset, and ends the walk or tells the
length to the next one. It returns the offset it ended at, unless it came to the limit. -/
def run (positive : 0 < least)
    (step : (offset : Nat) → Routine σ (Stop ε) (Option (Advance least offset limit)))
    (offset : Nat) : Routine σ (Stop ε) (Option Nat) :=
  if limit ≤ offset then return none
  else do
    match ← step offset with
    | none => return some offset
    | some advance => run positive step (offset + advance.len)
termination_by limit - offset
decreasing_by
  have long := advance.long
  have inside := advance.inside
  omega

/-- After `count` records passed, a walk from `start` stands at `offset`. -/
inductive Reaches (turn : Nat → Turn) (limit : Nat) : (count start offset : Nat) → Prop
  | here (start : Nat) : Reaches turn limit 0 start start
  | next {count start len offset : Nat} (before : start < limit) (passed : turn start = .passed len)
      (rest : Reaches turn limit count (start + len) offset) :
      Reaches turn limit (count + 1) start offset

/-- A step leaves the buffer just where the header is not `safe` to read, and does elsewhere what
`turn` says of the bytes. -/
structure Follows (step : (offset : Nat) → Routine σ (Stop ε) (Option (Advance least offset limit)))
    (safe : Nat → Prop) (turn : Nat → Turn) : Prop where
  strays : ∀ offset s, offset < limit → ¬ safe offset → (step offset s).1 = .error .fault
  rejected : ∀ offset s, offset < limit → safe offset → turn offset = .rejected →
    ∃ reason after, step offset s = (.error (.error reason), after)
  last : ∀ offset s, offset < limit → safe offset → turn offset = .last →
    ∃ after, step offset s = (.ok none, after)
  passed : ∀ offset s len, offset < limit → safe offset → turn offset = .passed len →
    ∃ advance after, step offset s = (.ok (some advance), after) ∧ advance.len = len

section Walks

variable {step : (offset : Nat) → Routine σ (Stop ε) (Option (Advance least offset limit))}
  {safe : Nat → Prop} {turn : Nat → Turn}

theorem run_error (positive : 0 < least) (offset : Nat) (s after : σ) (reason : Stop ε)
    (before : offset < limit) (failed : step offset s = (.error reason, after)) :
    run positive step offset s = (.error reason, after) := by
  rw [run, if_neg (Nat.not_le.mpr before), Routine.bind_error _ _ _ _ _ failed]

theorem run_last (positive : 0 < least) (offset : Nat) (s after : σ) (before : offset < limit)
    (ended : step offset s = (.ok none, after)) :
    run positive step offset s = (.ok (some offset), after) := by
  rw [run, if_neg (Nat.not_le.mpr before), Routine.bind_ok _ _ _ _ _ ended]
  rfl

theorem run_passed (positive : 0 < least) (offset : Nat) (s after : σ) (before : offset < limit)
    (advance : Advance least offset limit) (went : step offset s = (.ok (some advance), after)) :
    run positive step offset s = run positive step (offset + advance.len) after := by
  rw [run, if_neg (Nat.not_le.mpr before), Routine.bind_ok _ _ _ _ _ went]

/-- Where the walk stands after so many records, and that this is no more than the buffer has
room for. -/
theorem Reaches.bound {count start offset : Nat} (reaches : Reaches turn limit count start offset)
    (long : ∀ offset len, offset < limit → turn offset = .passed len →
      least ≤ len ∧ offset + len ≤ limit) :
    start + least * count ≤ offset ∧ (count = 0 ∨ offset ≤ limit) := by
  induction reaches with
  | here start => exact ⟨Nat.le_refl _, Or.inl rfl⟩
  | next before passed rest ih =>
      have advance := long _ _ before passed
      rw [Nat.mul_succ]
      cases rest with
      | here => omega
      | next => omega

/-- A walk stays in its buffer just when every header it comes to can be read. -/
theorem run_confined_iff (positive : 0 < least) (follows : Follows step safe turn) (start : Nat)
    (s : σ) :
    (run positive step start s).1 ≠ .error .fault ↔
      ∀ count offset, Reaches turn limit count start offset → offset < limit → safe offset := by
  by_cases before : start < limit
  · by_cases fine : safe start
    · cases there : turn start with
      | rejected =>
          obtain ⟨reason, after, failed⟩ := follows.rejected start s before fine there
          rw [run_error positive start s after _ before failed]
          refine iff_of_true (by simp) ?_
          intro count offset reaches _
          cases reaches with
          | here => exact fine
          | next _ passed _ => rw [there] at passed; cases passed
      | last =>
          obtain ⟨after, ended⟩ := follows.last start s before fine there
          rw [run_last positive start s after before ended]
          refine iff_of_true (by simp) ?_
          intro count offset reaches _
          cases reaches with
          | here => exact fine
          | next _ passed _ => rw [there] at passed; cases passed
      | passed len =>
          obtain ⟨advance, after, went, same⟩ := follows.passed start s len before fine there
          have long := advance.long
          rw [run_passed positive start s after before advance went, same]
          have rest := run_confined_iff positive follows (start + len) after
          rw [rest]
          constructor
          · intro later count offset reaches low
            cases reaches with
            | here => exact fine
            | next _ passed rest =>
                rw [there] at passed
                cases passed
                exact later _ offset rest low
          · intro all count offset reaches low
            exact all (count + 1) offset (.next before there reaches) low
    · have strayed := follows.strays start s before fine
      have whole : run positive step start s = (.error .fault, (step start s).2) :=
        run_error positive start s _ _ before (Prod.ext strayed rfl)
      rw [whole]
      refine iff_of_false (by simp) ?_
      intro all
      exact fine (all 0 start (.here start) before)
  · rw [run, if_pos (Nat.le_of_not_lt before)]
    refine iff_of_true (by simp) ?_
    intro count offset reaches low
    cases reaches with
    | here => exact absurd low before
    | next early _ _ => exact absurd early before
termination_by limit - start
decreasing_by omega

end Walks

end RecordWalk
