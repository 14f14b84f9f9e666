import Mathlib.Data.List.Basic

set_option autoImplicit false

namespace WriteLog

variable {α β : Type} [DecidableEq α]

/-- One cell overwritten. -/
def store (memory : α → β) (address : α) (value : β) : α → β :=
  fun index => if index = address then value else memory index

@[simp] theorem store_same (memory : α → β) (address : α) (value : β) :
    store memory address value address = value := by
  simp only [store, ↓reduceIte]

theorem store_other (memory : α → β) (address index : α) (value : β)
    (apart : index ≠ address) : store memory address value index = memory index := by
  simp only [store, apart, ↓reduceIte]

theorem store_store (memory : α → β) (address : α) (first second : β) :
    store (store memory address first) address second = store memory address second := by
  funext index
  by_cases here : index = address
  · rw [here, store_same, store_same]
  · rw [store_other _ _ _ _ here, store_other _ _ _ _ here, store_other _ _ _ _ here]

theorem store_eq_self (memory : α → β) (address : α) (value : β)
    (same : memory address = value) : store memory address value = memory := by
  funext index
  by_cases here : index = address
  · rw [here, store_same, same]
  · rw [store_other _ _ _ _ here]

/-- The memory after a log of whole-cell writes, in order. -/
def applyWrites (memory : α → β) (log : List (α × β)) : α → β :=
  log.foldl (fun current write => store current write.1 write.2) memory

@[simp] theorem applyWrites_nil (memory : α → β) :
    applyWrites memory ([] : List (α × β)) = memory := rfl

@[simp] theorem applyWrites_cons (memory : α → β) (write : α × β) (rest : List (α × β)) :
    applyWrites memory (write :: rest) =
      applyWrites (store memory write.1 write.2) rest := rfl

theorem applyWrites_append (memory : α → β) (first second : List (α × β)) :
    applyWrites memory (first ++ second) = applyWrites (applyWrites memory first) second := by
  simp only [applyWrites, List.foldl_append]

theorem applyWrites_concat (memory : α → β) (log : List (α × β)) (address : α) (value : β) :
    applyWrites memory (log ++ [(address, value)]) =
      store (applyWrites memory log) address value := by
  simp only [applyWrites_append, applyWrites_cons, applyWrites_nil]

theorem applyWrites_other (memory : α → β) (log : List (α × β)) (index : α)
    (absent : ∀ write, write ∈ log → write.1 ≠ index) :
    applyWrites memory log index = memory index := by
  induction log generalizing memory with
  | nil => rfl
  | cons write rest ih =>
      rw [applyWrites_cons, ih _ (fun later member => absent later (List.mem_cons_of_mem _ member))]
      exact store_other _ _ _ _ (absent write List.mem_cons_self).symm

/-- At each address a log either keeps the old cell or fixes its value. -/
theorem applyWrites_cell (log : List (α × β)) (index : α) :
    (∀ memory, applyWrites memory log index = memory index) ∨
      ∃ value, (index, value) ∈ log ∧ ∀ memory, applyWrites memory log index = value := by
  induction log with
  | nil => exact Or.inl (fun _ => rfl)
  | cons write rest ih =>
      rcases ih with unchanged | ⟨value, member, fixed⟩
      · by_cases here : index = write.1
        · refine Or.inr ⟨write.2, by simp [here], fun memory => ?_⟩
          rw [applyWrites_cons, unchanged, here, store_same]
        · refine Or.inl (fun memory => ?_)
          rw [applyWrites_cons, unchanged, store_other _ _ _ _ here]
      · exact Or.inr ⟨value, List.mem_cons_of_mem _ member, fun memory => fixed _⟩

theorem applyWrites_mem_or_other (memory : α → β) (log : List (α × β)) (index : α) :
    applyWrites memory log index = memory index ∨
      (index, applyWrites memory log index) ∈ log := by
  rcases applyWrites_cell log index with unchanged | ⟨value, member, fixed⟩
  · exact Or.inl (unchanged memory)
  · exact Or.inr ((fixed memory).symm ▸ member)

/-- Writes that put back what an address holds leave it. -/
theorem applyWrites_settled (memory : α → β) (log : List (α × β)) (index : α) (value : β)
    (now : memory index = value)
    (each : ∀ write, write ∈ log → write.1 = index → write.2 = value) :
    applyWrites memory log index = value := by
  rcases applyWrites_mem_or_other memory log index with same | member
  · rw [same, now]
  · exact each _ member rfl

theorem applyWrites_own (memory : α → β) (log : List (α × β))
    (own : ∀ write, write ∈ log → write.2 = memory write.1) : applyWrites memory log = memory := by
  funext index
  apply applyWrites_settled _ _ _ _ rfl
  intro write member here
  rw [own write member, here]

theorem applyWrites_congr_at (first second : α → β) (log : List (α × β)) (index : α)
    (same : first index = second index) :
    applyWrites first log index = applyWrites second log index := by
  rcases applyWrites_cell log index with unchanged | ⟨value, _, fixed⟩
  · rw [unchanged first, unchanged second, same]
  · rw [fixed first, fixed second]

/-- An address the log writes ends with a value that no earlier content influences. -/
theorem applyWrites_written (first second : α → β) (log : List (α × β)) (index : α)
    (written : index ∈ log.map Prod.fst) :
    applyWrites first log index = applyWrites second log index := by
  induction log generalizing first second with
  | nil => simp at written
  | cons write rest ih =>
      rw [applyWrites_cons, applyWrites_cons]
      by_cases later : index ∈ rest.map Prod.fst
      · exact ih _ _ later
      · have here : index = write.1 := by
          simpa [later] using written
        apply applyWrites_congr_at
        rw [here, store_same, store_same]

/-- Redoing a whole log over any part of it gives what the log gives. -/
theorem applyWrites_take_then_all (memory : α → β) (log : List (α × β)) (count : Nat) :
    applyWrites (applyWrites memory (log.take count)) log = applyWrites memory log := by
  funext index
  by_cases written : index ∈ log.map Prod.fst
  · exact applyWrites_written _ _ _ _ written
  · apply applyWrites_congr_at
    apply applyWrites_other
    intro write member here
    exact written (here ▸ List.mem_map_of_mem (List.mem_of_mem_take member))

/-- With distinct addresses every cell of the log ends with its own value. -/
theorem applyWrites_nodup (memory : α → β) (log : List (α × β)) (address : α) (value : β)
    (distinct : (log.map Prod.fst).Nodup) (member : (address, value) ∈ log) :
    applyWrites memory log address = value := by
  induction log generalizing memory with
  | nil => simp at member
  | cons write rest ih =>
      rw [List.map_cons, List.nodup_cons] at distinct
      rcases List.mem_cons.mp member with here | later
      · subst here
        rw [applyWrites_cons, applyWrites_other, store_same]
        intro other inside same
        exact distinct.1 (List.mem_map.mpr ⟨other, inside, same⟩)
      · exact ih _ distinct.2 later

/-! ### What holds between any two writes of a log -/

/-- `holds` before the first write of a log, between any two of them and behind the last. -/
def Along (holds : (α → β) → Prop) (memory : α → β) (log : List (α × β)) : Prop :=
  ∀ count, holds (applyWrites memory (log.take count))

section Along

variable {holds : (α → β) → Prop} {memory : α → β}

theorem along_nil : Along holds memory [] ↔ holds memory := by
  constructor
  · intro along
    exact along 0
  · intro start count
    rwa [List.take_nil]

theorem along_cons {write : α × β} {rest : List (α × β)} : Along holds memory (write :: rest) ↔
    holds memory ∧ Along holds (store memory write.1 write.2) rest := by
  constructor
  · intro along
    exact ⟨along 0, fun count => along (count + 1)⟩
  · intro both count
    cases count with
    | zero => exact both.1
    | succ count => exact both.2 count

theorem Along.first {log : List (α × β)} (along : Along holds memory log) : holds memory := along 0

theorem Along.last {log : List (α × β)} (along : Along holds memory log) :
    holds (applyWrites memory log) := by
  have whole := along log.length
  rwa [List.take_length] at whole

theorem along_append {early late : List (α × β)} : Along holds memory (early ++ late) ↔
    Along holds memory early ∧ Along holds (applyWrites memory early) late := by
  induction early generalizing memory with
  | nil =>
      rw [List.nil_append, along_nil, applyWrites_nil]
      exact ⟨fun along => ⟨along.first, along⟩, And.right⟩
  | cons write rest ih => rw [List.cons_append, along_cons, along_cons, ih, and_assoc,
      applyWrites_cons]

theorem Along.mono {other : (α → β) → Prop} {log : List (α × β)}
    (along : Along holds memory log) (weaker : ∀ memory, holds memory → other memory) :
    Along other memory log :=
  fun count => weaker _ (along count)

/-- Writes that leave alone what `holds` looks at. -/
theorem along_of_apart {log : List (α × β)} (watched : α → Prop)
    (looks : ∀ other, (∀ index, watched index → other index = memory index) → holds other)
    (apart : ∀ write, write ∈ log → ¬ watched write.1) : Along holds memory log := by
  intro count
  apply looks
  intro index seen
  apply applyWrites_other
  intro write member here
  exact apart write (List.mem_of_mem_take member) (here ▸ seen)

/-- A property of one cell, when it holds of everything that is written there. -/
theorem along_cell (good : β → Prop) {index : α} {log : List (α × β)} (start : good (memory index))
    (writes : ∀ write, write ∈ log → write.1 = index → good write.2) :
    Along (fun memory => good (memory index)) memory log := by
  intro count
  rcases applyWrites_mem_or_other memory (log.take count) index with same | member
  · show good (applyWrites memory (log.take count) index)
    rw [same]
    exact start
  · exact writes _ (List.mem_of_mem_take member) rfl

end Along

end WriteLog
