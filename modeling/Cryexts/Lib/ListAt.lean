import Mathlib.Data.List.Basic

set_option autoImplicit false

namespace ListAt

variable {α : Type} (first rest : List α) (entry : α)

@[simp] theorem modify_at (change : α → α) :
    (first ++ entry :: rest).modify first.length change = first ++ change entry :: rest := by
  induction first with
  | nil => rfl
  | cons head tail ih => simp [ih]

@[simp] theorem insertIdx_at : (first ++ rest).insertIdx first.length entry =
    first ++ entry :: rest := by
  induction first with
  | nil => rfl
  | cons head tail ih => simp [ih]

@[simp] theorem insertIdx_behind (new : α) :
    (first ++ entry :: rest).insertIdx (first.length + 1) new = first ++ entry :: new :: rest := by
  induction first with
  | nil => rfl
  | cons head tail ih => simpa using ih

@[simp] theorem eraseIdx_at : (first ++ entry :: rest).eraseIdx first.length = first ++ rest := by
  simp [List.eraseIdx_append_of_length_le]

theorem modify_left (index : Nat) (inside : index < first.length) (change : α → α) :
    (first ++ rest).modify index change = first.modify index change ++ rest := by
  induction first generalizing index with
  | nil => cases inside
  | cons head tail ih =>
      cases index with
      | zero => rfl
      | succ index =>
          have later := ih index (by simpa using inside)
          simp [later]

theorem modify_right (index : Nat) (behind : first.length ≤ index) (change : α → α) :
    (first ++ rest).modify index change = first ++ rest.modify (index - first.length) change := by
  induction first generalizing index with
  | nil => rfl
  | cons head tail ih =>
      cases index with
      | zero => cases behind
      | succ index =>
          have later := ih index (by simpa using behind)
          simp [later]

theorem of_getElem? (items : List α) (index : Nat) (item : α)
    (found : items[index]? = some item) :
    ∃ front rest, items = front ++ item :: rest ∧ front.length = index := by
  obtain ⟨low, same⟩ := List.getElem?_eq_some_iff.mp found
  refine ⟨items.take index, items.drop (index + 1), ?_, ?_⟩
  · rw [← same, List.getElem_cons_drop, List.take_append_drop]
  · rw [List.length_take]
    omega

/-- A list around the first entry that passes a test. -/
theorem of_findIdx? (test : α → Bool) (entries : List α) (index : Nat)
    (found : entries.findIdx? test = some index) :
    ∃ first entry rest, entries = first ++ entry :: rest ∧ index = first.length ∧
      test entry = true ∧ ∀ other, other ∈ first → test other = false := by
  induction entries generalizing index with
  | nil => cases found
  | cons head tail ih =>
      rw [List.findIdx?_cons] at found
      by_cases passes : test head = true
      · rw [if_pos passes] at found
        refine ⟨[], head, tail, rfl, (Option.some.inj found).symm, passes, ?_⟩
        intro other member
        cases member
      · rw [if_neg passes] at found
        obtain ⟨place, later, rfl⟩ := Option.map_eq_some_iff.mp found
        obtain ⟨first, entry, rest, rfl, rfl, passed, others⟩ := ih place later
        refine ⟨head :: first, entry, rest, rfl, rfl, passed, ?_⟩
        intro other member
        rcases List.mem_cons.mp member with rfl | member
        · simpa using passes
        · exact others other member

end ListAt
