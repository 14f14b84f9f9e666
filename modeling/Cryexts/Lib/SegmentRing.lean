import Mathlib.Data.List.Basic

set_option autoImplicit false

/-!
Contiguous segments in a ring of cells `[start, stop)`. A segment never crosses
`stop`; a segment that ends there is followed by one at `start`.
-/

namespace SegmentRing

variable (start stop : Nat)

/-- The cell after a segment that ends before `position`. -/
def wrap (position : Nat) : Nat := if position = stop then start else position

/-- The cells from `tail` round to `head`; none when the two meet. -/
def Live (tail head cell : Nat) : Prop :=
  if tail ≤ head then tail ≤ cell ∧ cell < head
  else (tail ≤ cell ∧ cell < stop) ∨ (start ≤ cell ∧ cell < head)

/-- Segments of the given lengths lie one behind the other from `tail` to `head`. -/
def Chain : Nat → List Nat → Nat → Prop
  | tail, [], head => tail = head
  | tail, length :: rest, head =>
      0 < length ∧ tail ≠ head ∧ tail + length ≤ stop ∧ (tail < head → tail + length ≤ head) ∧
        Chain (wrap start stop (tail + length)) rest head

/-- A segment of `length` cells fits at `head` without reaching `tail`. -/
def Room (tail head length : Nat) : Prop :=
  if head < tail then head + length < tail
  else head + length < stop ∨ (head + length = stop ∧ start < tail)

theorem wrap_mem (position : Nat) (lower : start ≤ position) (upper : position ≤ stop)
    (nonempty : start < stop) :
    start ≤ wrap start stop position ∧ wrap start stop position < stop := by
  unfold wrap
  split <;> omega

theorem wrap_cases (position : Nat) :
    (position = stop ∧ wrap start stop position = start) ∨
      (position ≠ stop ∧ wrap start stop position = position) := by
  unfold wrap
  split
  · exact Or.inl ⟨‹_›, rfl⟩
  · exact Or.inr ⟨‹_›, rfl⟩

variable {start stop}

/-- A chain that meets its own head is empty. -/
theorem Chain.eq_nil {tail : Nat} {lengths : List Nat}
    (chain : Chain start stop tail lengths tail) : lengths = [] := by
  cases lengths with
  | nil => rfl
  | cons length rest => exact absurd rfl chain.2.1

theorem Chain.tail_ne {tail head length : Nat} {rest : List Nat}
    (chain : Chain start stop tail (length :: rest) head) : tail ≠ head := chain.2.1

/-- The cells of the first segment are live, and the live cells of the rest are
live and not among them. -/
theorem Chain.first_live {tail head length : Nat} {rest : List Nat}
    (chain : Chain start stop tail (length :: rest) head)
    (headLow : start ≤ head) (headHigh : head < stop) (cell : Nat) :
    (tail ≤ cell → cell < tail + length → Live start stop tail head cell) ∧
      (Live start stop (wrap start stop (tail + length)) head cell →
        Live start stop tail head cell ∧ ¬ (tail ≤ cell ∧ cell < tail + length)) := by
  obtain ⟨positive, apart, inside, before, _⟩ := chain
  unfold Live wrap
  constructor
  · intro lower upper
    split
    · have bound := before (by omega)
      omega
    · omega
  · intro live
    by_cases order : tail < head
    · have bound := before order
      have same : ¬ tail + length = stop := by omega
      simp only [same, ↓reduceIte, Nat.le_of_lt order, bound] at live ⊢
      omega
    · have reversed : ¬ tail ≤ head := by omega
      simp only [reversed, ↓reduceIte]
      by_cases last : tail + length = stop
      · simp only [last, ↓reduceIte, headLow] at live
        omega
      · have beyond : ¬ tail + length ≤ head := by omega
        simp only [last, ↓reduceIte, beyond] at live
        omega

/-- The segment behind a chain that has room for it extends the chain. -/
theorem Chain.snoc {tail head length : Nat} {lengths : List Nat}
    (chain : Chain start stop tail lengths head) (positive : 0 < length)
    (low : start ≤ tail) (high : tail < stop) (headLow : start ≤ head) (headHigh : head < stop)
    (smaller : length < stop - start)
    (room : Room start stop tail head length ∨ lengths = []) (fits : head + length ≤ stop) :
    Chain start stop tail (lengths ++ [length]) (wrap start stop (head + length)) := by
  induction lengths generalizing tail with
  | nil =>
      have meet : tail = head := chain
      subst meet
      refine ⟨positive, ?_, fits, ?_, rfl⟩
      · unfold wrap
        split <;> omega
      · intro order
        unfold wrap at order ⊢
        split at order <;> split <;> omega
  | cons first rest ih =>
      obtain ⟨long, apart, inside, before, later⟩ := chain
      have roomy : Room start stop tail head length := by simpa using room
      have next := wrap_mem start stop (tail + first) (by omega) inside
        (by omega)
      refine ⟨long, ?_, inside, ?_, ?_⟩
      · unfold Room at roomy
        unfold wrap
        split at roomy <;> split <;> omega
      · intro order
        unfold Room at roomy
        unfold wrap at order ⊢
        split at roomy <;> split at order <;> split <;> omega
      · apply ih later next.1 next.2
        by_cases done : rest = []
        · exact Or.inr done
        · apply Or.inl
          have moved : wrap start stop (tail + first) ≠ head := by
            intro meet
            rw [meet] at later
            exact done later.eq_nil
          unfold Room at roomy ⊢
          rcases wrap_cases start stop (tail + first) with
            ⟨ends, here⟩ | ⟨goes, here⟩
          · rw [here] at moved ⊢
            split at roomy <;> split <;> omega
          · rw [here] at moved ⊢
            split at roomy <;> split <;> omega

/-- The cells of a segment placed at `head` are not live. -/
theorem Room.not_live {tail head length cell : Nat} (room : Room start stop tail head length)
    (lower : head ≤ cell) (upper : cell < head + length) :
    ¬ Live start stop tail head cell := by
  unfold Room at room
  unfold Live
  split at room <;> split <;> omega

end SegmentRing
