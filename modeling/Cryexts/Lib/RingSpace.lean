import Cryexts.Lib.SegmentRing

set_option autoImplicit false

/-!
The space of a ring whose segments are placed at the head, or at the start when the
cells behind the head are too few, and given back oldest first. Cells skipped before
the end belong to no segment, so the segments need not form one chain.
-/

namespace SegmentRing

/-- The stretches `(first, length)` fill the cells from `low` to `high`, in order. -/
def Tiles : Nat → List (Nat × Nat) → Nat → Prop
  | low, [], high => low = high
  | low, stretch :: rest, high =>
      stretch.1 = low ∧ 0 < stretch.2 ∧ Tiles (low + stretch.2) rest high

/-- A cell of the stretch. -/
def Covers (stretch : Nat × Nat) (cell : Nat) : Prop :=
  stretch.1 ≤ cell ∧ cell < stretch.1 + stretch.2

theorem Tiles.le {low high : Nat} {stretches : List (Nat × Nat)}
    (tiles : Tiles low stretches high) : low ≤ high := by
  induction stretches generalizing low with
  | nil => exact Nat.le_of_eq tiles
  | cons stretch rest ih =>
      have later := ih tiles.2.2
      omega

theorem Tiles.within {low high cell : Nat} {stretches : List (Nat × Nat)}
    (tiles : Tiles low stretches high) (stretch : Nat × Nat) (member : stretch ∈ stretches)
    (covers : Covers stretch cell) : low ≤ cell ∧ cell < high := by
  induction stretches generalizing low with
  | nil => cases member
  | cons first rest ih =>
      obtain ⟨here, _, later⟩ := tiles
      have bound := later.le
      unfold Covers at covers
      rcases List.mem_cons.mp member with rfl | member
      · omega
      · have inside := ih later member
        omega

/-- The first cell of a tiling that is not empty is covered. -/
theorem Tiles.covers_low {low high : Nat} {stretches : List (Nat × Nat)}
    (tiles : Tiles low stretches high) (apart : low ≠ high) :
    ∃ stretch, stretch ∈ stretches ∧ Covers stretch low := by
  cases stretches with
  | nil => exact absurd tiles apart
  | cons stretch rest =>
      obtain ⟨here, positive, _⟩ := tiles
      refine ⟨stretch, List.mem_cons_self, ?_⟩
      unfold Covers
      omega

theorem Tiles.snoc {low high length : Nat} {stretches : List (Nat × Nat)}
    (tiles : Tiles low stretches high) (positive : 0 < length) :
    Tiles low (stretches ++ [(high, length)]) (high + length) := by
  induction stretches generalizing low with
  | nil =>
      have here : low = high := tiles
      subst here
      exact ⟨rfl, positive, rfl⟩
  | cons stretch rest ih => exact ⟨tiles.1, tiles.2.1, ih tiles.2.2⟩

variable (start stop : Nat)

/-- The live stretches of a ring, oldest first. A wrapped ring has cells from `last` to
the end that no stretch took. -/
inductive Space (tail head : Nat) (live : List (Nat × Nat)) : Prop
  | linear (order : tail ≤ head) (tiles : Tiles tail live head)
  | wrapped (older newer : List (Nat × Nat)) (last : Nat) (order : head < tail)
      (parts : live = older ++ newer) (old : Tiles tail older last) (bound : last ≤ stop)
      (new : Tiles start newer head) (skipped : last < stop → newer ≠ [])

variable {start stop}

/-- What the places of the head and the tail promise. -/
structure Cursors (start stop tail head : Nat) : Prop where
  tailLow : start ≤ tail
  tailHigh : tail < stop
  headLow : start ≤ head
  headHigh : head < stop

section Space

variable {tail head : Nat} {live : List (Nat × Nat)}
variable (space : Space start stop tail head live)
include space

/-- Two cursors that meet enclose nothing. -/
theorem Space.empty_iff (cursors : Cursors start stop tail head) : tail = head ↔ live = [] := by
  cases space with
  | linear order tiles =>
      cases live with
      | nil =>
          have meet : tail = head := tiles
          simp [meet]
      | cons stretch rest =>
          have later := tiles.2.2.le
          have positive := tiles.2.1
          simp only [reduceCtorEq, iff_false]
          omega
  | wrapped older newer last order parts old bound new skipped =>
      have apart : tail ≠ head := by omega
      simp only [apart, false_iff]
      intro empty
      rw [parts, List.append_eq_nil_iff] at empty
      have tailHigh := cursors.tailHigh
      rw [empty.1] at old
      have here : tail = last := old
      exact skipped (by omega) empty.2

/-- A stretch at the head that stops short of the tail leaves the others alone. -/
theorem Space.head_free {length : Nat}
    (short : head < tail → head + length ≤ tail) (stretch : Nat × Nat) (member : stretch ∈ live)
    (cell : Nat) (covers : Covers stretch cell) : ¬ Covers (head, length) cell := by
  unfold Covers
  cases space with
  | linear order tiles =>
      have inside := tiles.within stretch member covers
      omega
  | wrapped older newer last order parts old bound new skipped =>
      have room := short order
      rw [parts, List.mem_append] at member
      rcases member with member | member
      · have inside := old.within stretch member covers
        omega
      · have inside := new.within stretch member covers
        omega

/-- A stretch at the start that stops short of the tail leaves the others alone. -/
theorem Space.start_free {length : Nat} (order : tail ≤ head)
    (short : start + length ≤ tail) (stretch : Nat × Nat) (member : stretch ∈ live)
    (cell : Nat) (covers : Covers stretch cell) : ¬ Covers (start, length) cell := by
  unfold Covers
  cases space with
  | linear _ tiles =>
      have inside := tiles.within stretch member covers
      omega
  | wrapped _ _ _ reversed => omega

/-- The cell at the start is taken when the ring has wrapped past it. -/
theorem Space.covers_start (order : head < tail) (past : start ≠ head) :
    ∃ stretch, stretch ∈ live ∧ Covers stretch start := by
  cases space with
  | linear reversed => omega
  | wrapped older newer last _ parts old bound new skipped =>
      obtain ⟨stretch, member, covers⟩ := new.covers_low past
      exact ⟨stretch, parts ▸ List.mem_append_right _ member, covers⟩

theorem Space.covers_tail (order : tail < head) :
    ∃ stretch, stretch ∈ live ∧ Covers stretch tail := by
  cases space with
  | linear _ tiles => exact tiles.covers_low (by omega)
  | wrapped _ _ _ reversed => omega

/-- A ring in use has a cell that is taken. -/
theorem Space.covers_some (cursors : Cursors start stop tail head) (apart : tail ≠ head) :
    ∃ cell, start ≤ cell ∧ cell < stop ∧ ∃ stretch, stretch ∈ live ∧ Covers stretch cell := by
  obtain ⟨tailLow, tailHigh, headLow, headHigh⟩ := cursors
  cases space with
  | linear order tiles => exact ⟨tail, tailLow, tailHigh, tiles.covers_low apart⟩
  | wrapped older newer last order parts old bound new skipped =>
      subst parts
      by_cases none : tail = last
      · have past : start ≠ head := by
          rintro rfl
          cases newer with
          | nil => exact skipped (by omega) rfl
          | cons stretch rest =>
              have later := new.2.2.le
              have positive := new.2.1
              omega
        obtain ⟨stretch, member, covers⟩ := new.covers_low past
        exact ⟨start, Nat.le_refl _, by omega, stretch, List.mem_append_right _ member, covers⟩
      · obtain ⟨stretch, member, covers⟩ := old.covers_low none
        exact ⟨tail, tailLow, tailHigh, stretch, List.mem_append_left _ member, covers⟩

/-- Where the oldest stretch does not begin at the tail, no stretch lies behind the tail. -/
theorem Space.behind_tail (order : head < tail)
    (skipped : ∀ stretch, live.head? = some stretch → stretch.1 ≠ tail) (stretch : Nat × Nat)
    (member : stretch ∈ live) (cell : Nat) (covers : Covers stretch cell) : cell < head := by
  cases space with
  | linear reversed => omega
  | wrapped older newer last _ parts old bound new _ =>
      cases older with
      | nil =>
          rw [parts, List.nil_append] at member
          exact (new.within stretch member covers).2
      | cons oldest rest =>
          rw [parts, List.cons_append, List.head?_cons] at skipped
          exact absurd old.1 (skipped oldest rfl)

/-- The stretch placed at the head of a ring that keeps a cell free behind it. -/
theorem Space.place_head {length : Nat} (cursors : Cursors start stop tail head)
    (positive : 0 < length) (short : head < tail → head + length < tail)
    (spare : head + length = stop → tail ≠ start) :
    Space start stop tail (wrap start stop (head + length)) (live ++ [(head, length)]) := by
  have tailLow := cursors.tailLow
  cases space with
  | linear order tiles =>
      have longer := tiles.snoc positive
      unfold wrap
      split
      · rename_i ends
        have apart := spare ends
        rw [ends] at longer
        exact Space.wrapped _ [] stop (by omega) (List.append_nil _).symm longer (Nat.le_refl _)
          rfl (fun less => absurd less (Nat.lt_irrefl _))
      · exact Space.linear (by omega) longer
  | wrapped older newer last order parts old bound new skipped =>
      have room := short order
      have tailHigh := cursors.tailHigh
      have inside : wrap start stop (head + length) = head + length := by
        unfold wrap
        rw [if_neg (by omega)]
      rw [inside]
      refine Space.wrapped older _ last room ?_ old bound (new.snoc positive) ?_
      · rw [parts, List.append_assoc]
      · simp

/-- The stretch placed at the start, behind which the tail keeps a cell free. -/
theorem Space.place_start {length : Nat} (cursors : Cursors start stop tail head) (positive : 0 < length) (order : tail < head)
    (short : start + length < tail) :
    Space start stop tail (wrap start stop (start + length)) (live ++ [(start, length)]) := by
  have tailHigh := cursors.tailHigh
  have headHigh := cursors.headHigh
  have inside : wrap start stop (start + length) = start + length := by
    unfold wrap
    rw [if_neg (by omega)]
  rw [inside]
  cases space with
  | linear _ tiles =>
      refine Space.wrapped live _ head short rfl tiles (by omega) ?_ (by simp)
      exact ⟨rfl, positive, rfl⟩
  | wrapped _ _ _ reversed => omega

/-- The oldest stretch given back. -/
theorem Space.release {oldest : Nat × Nat} {rest : List (Nat × Nat)}
    (cursors : Cursors start stop tail head) (parts : live = oldest :: rest) :
    Cursors start stop (wrap start stop (oldest.1 + oldest.2)) head ∧
      Space start stop (wrap start stop (oldest.1 + oldest.2)) head rest := by
  subst parts
  obtain ⟨tailLow, tailHigh, headLow, headHigh⟩ := cursors
  have step : ∀ low high (rest : List (Nat × Nat)), start ≤ low → high < stop →
      Tiles low (oldest :: rest) high →
      wrap start stop (oldest.1 + oldest.2) = low + oldest.2 ∧ low + oldest.2 ≤ high ∧
        Tiles (low + oldest.2) rest high := by
    intro low high rest _ below tiles
    obtain ⟨here, positive, later⟩ := tiles
    have bound := later.le
    rw [here]
    refine ⟨?_, bound, later⟩
    unfold wrap
    rw [if_neg (by omega)]
  cases space with
  | linear order tiles =>
      obtain ⟨next, bound, later⟩ := step tail head rest tailLow headHigh tiles
      rw [next]
      exact ⟨⟨by omega, by omega, headLow, headHigh⟩, Space.linear bound later⟩
  | wrapped older newer last order parts old bound new skipped =>
      cases older with
      | nil =>
          -- The tail stood before cells that no stretch took.
          rw [List.nil_append] at parts
          subst parts
          obtain ⟨next, bound', later⟩ := step start head rest (Nat.le_refl _) headHigh new
          rw [next]
          exact ⟨⟨by omega, by omega, headLow, headHigh⟩, Space.linear bound' later⟩
      | cons first olderRest =>
          rw [List.cons_append, List.cons.injEq] at parts
          obtain ⟨rfl, rfl⟩ := parts
          obtain ⟨here, positive, later⟩ := old
          have upper := later.le
          rw [here]
          rcases wrap_cases start stop (tail + oldest.2) with ⟨ends, next⟩ | ⟨inside, next⟩
          · rw [next]
            have done : olderRest = [] := by
              cases olderRest with
              | nil => rfl
              | cons second others =>
                  have more := later.2.2.le
                  have positive' := later.2.1
                  omega
            rw [done, List.nil_append]
            exact ⟨⟨Nat.le_refl _, by omega, headLow, headHigh⟩, Space.linear headLow new⟩
          · rw [next]
            exact ⟨⟨by omega, by omega, headLow, headHigh⟩,
              Space.wrapped olderRest newer last (by omega) rfl later bound new skipped⟩

end Space

end SegmentRing
