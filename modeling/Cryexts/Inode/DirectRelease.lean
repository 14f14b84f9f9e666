import Cryexts.Inode.Freeing

set_option autoImplicit false

namespace Cryexts

namespace Inode

open Balloc (Allocator Ready Freed)
open WriteLog (store)

/-- The blocks among some numbers; zero is a hole. -/
def blocksOf (numbers : List Nat) : List Nat := numbers.filter (· ≠ 0)

@[simp] theorem blocksOf_nil : blocksOf [] = [] := rfl

theorem blocksOf_zero (rest : List Nat) : blocksOf (0 :: rest) = blocksOf rest := rfl

theorem blocksOf_cons {block : Nat} (some : block ≠ 0) (rest : List Nat) :
    blocksOf (block :: rest) = block :: blocksOf rest := by
  simp [blocksOf, some]

theorem blocksOf_head (block : Nat) (rest : List Nat) :
    blocksOf (block :: rest) = blocksOf [block] ++ blocksOf rest :=
  List.filter_append [block] rest

theorem blocksOf_append (first second : List Nat) :
    blocksOf (first ++ second) = blocksOf first ++ blocksOf second :=
  List.filter_append first second

theorem mem_blocksOf {numbers : List Nat} {block : Nat} :
    block ∈ blocksOf numbers ↔ block ∈ numbers ∧ block ≠ 0 := by
  simp [blocksOf]

/-! ### The direct blocks -/

theorem freeDirect_run {s : MapState} (index : Nat) (ready : Ready s.allocator)
    (valid : AllValid s.allocator (blocksOf [s.info.direct index])) :
    Frees (freeDirect index) s (blocksOf [s.info.direct index])
      { s.info with direct := store s.info.direct index 0 } := by
  unfold freeDirect
  simp only [Frees.read_iff]
  by_cases hole : s.info.direct index = 0
  · have same : store s.info.direct index 0 = s.info.direct := by
      funext other
      by_cases here : other = index
      · rw [here, WriteLog.store_same, hole]
      · rw [WriteLog.store_other _ _ _ _ here]
    rw [if_pos hole, hole, same]
    exact Frees.nothing ready
  · rw [if_neg hole]
    rw [blocksOf_cons hole] at valid ⊢
    obtain ⟨allocator, ran, settled, freed⟩ :=
      freeBlock_run ready _ (valid _ List.mem_cons_self)
    refine ⟨allocator, ?_, settled, freed⟩
    rw [Routine.bind_ok _ _ _ _ _ ran]
    rfl

/-- The loop over the direct blocks. -/
theorem freeDirects_run {s : MapState} (indices : List Nat) (distinct : indices.Nodup)
    (ready : Ready s.allocator)
    (valid : AllValid s.allocator (blocksOf (indices.map s.info.direct))) :
    Frees (indices.forM freeDirect) s (blocksOf (indices.map s.info.direct))
      { s.info with
        direct := fun index => if index ∈ indices then 0 else s.info.direct index } := by
  induction indices generalizing s with
  | nil =>
      simp only [List.not_mem_nil, ↓reduceIte]
      exact Frees.nothing ready
  | cons index rest ih =>
      obtain ⟨apart, distinct⟩ := List.nodup_cons.mp distinct
      rw [List.map_cons, blocksOf_head] at valid ⊢
      apply (freeDirect_run index ready valid.left).bind
      intro allocator settled freed
      have others : rest.map (store s.info.direct index 0) = rest.map s.info.direct := by
        apply List.map_congr_left
        intro other member
        exact WriteLog.store_other _ _ _ _ fun same => apart (same ▸ member)
      have left : (fun other => if other ∈ rest then 0 else store s.info.direct index 0 other) =
          fun other => if other ∈ index :: rest then 0 else s.info.direct other := by
        funext other
        by_cases here : other = index
        · simp [here]
        · simp [here, WriteLog.store_other]
      have next := ih (s := s.release allocator (blocksOf [s.info.direct index])
        { s.info with direct := store s.info.direct index 0 }) distinct settled
      simp only [release_info, release_allocator, others, left] at next
      exact next (valid.right.freed freed)

/-! ### The indirect block -/

/-- An entry of the block that the inode has as its indirect block. -/
def indirectWord (s : MapState) (index : Nat) : Nat :=
  (s.buffers s.info.indirectBlock).get (indirectEntry index)

section Indirect

variable (keepBlocks : Nat)

/-- What a truncation takes out of the indirect block at some indices. -/
def tailWords (s : MapState) (indices : List Nat) : List Nat :=
  blocksOf ((indices.filter fun index => keepBlocks ≤ DIRECT_BLOCKS + index).map (indirectWord s))

/-- The indirect block has no entry at some indices that a truncation keeps. -/
def NoneKept (s : MapState) (indices : List Nat) : Prop :=
  ∀ index, index ∈ indices → DIRECT_BLOCKS + index < keepBlocks → indirectWord s index = 0

/-- A state in which the entries behind `keepBlocks` at some indices are gone. -/
structure WordsCut (s : MapState) (indices : List Nat) (after : MapState) : Prop where
  ready : Ready after.allocator
  freed : Freed s.allocator after.allocator (tailWords keepBlocks s indices)
  released : after.released = s.released ++ tailWords keepBlocks s indices
  info : after.info = s.info
  mode : after.mode = s.mode
  faults : after.faults = s.faults
  word : ∀ index, index < INDIRECT_BLOCKS → indirectWord after index =
    if index ∈ indices ∧ keepBlocks ≤ DIRECT_BLOCKS + index then 0 else indirectWord s index

/-- The state with one entry freed and cleared. -/
def wordCleared (s : MapState) (allocator : Allocator) (index : Nat) : MapState :=
  { s with
    allocator := allocator
    released := s.released ++ [indirectWord s index]
    buffers := store s.buffers s.info.indirectBlock
      ((s.buffers s.info.indirectBlock).set (indirectEntry index) 0) }

theorem wordCleared_word (s : MapState) (allocator : Allocator) {index other : Nat}
    (inside : index < INDIRECT_BLOCKS) :
    indirectWord (wordCleared s allocator index) other =
      if other = index then 0 else indirectWord s other := by
  have size : INDIRECT_BLOCKS = 512 := rfl
  have block : BLOCK_SIZE = 4096 := rfl
  simp only [indirectWord, wordCleared, WriteLog.store_same]
  by_cases here : other = index
  · rw [here, if_pos rfl, ByteBuf.get_set_same, Nat.zero_mod]
    simp only [ByteBuf.Field.stop, indirectEntry]
    omega
  · rw [if_neg here]
    apply ByteBuf.get_set_apart
    simp only [ByteBuf.Field.Apart, ByteBuf.Field.stop, indirectEntry]
    omega

/-- The words of other indices, and with them what is taken out of there and what is kept. -/
theorem words_other {s after : MapState} {indices : List Nat}
    (same : ∀ index, index ∈ indices → indirectWord after index = indirectWord s index) :
    tailWords keepBlocks after indices = tailWords keepBlocks s indices ∧
      (NoneKept keepBlocks after indices ↔ NoneKept keepBlocks s indices) := by
  constructor
  · have words : (indices.filter fun index => keepBlocks ≤ DIRECT_BLOCKS + index).map
        (indirectWord after) = (indices.filter fun index =>
          keepBlocks ≤ DIRECT_BLOCKS + index).map (indirectWord s) :=
      List.map_congr_left fun index member => same index (List.mem_filter.mp member).1
    rw [tailWords, tailWords, words]
  · constructor
    · intro none index member low
      rw [← same index member]
      exact none index member low
    · intro none index member low
      rw [same index member]
      exact none index member low

section Cons

variable {keepBlocks} {s : MapState} {index : Nat} {rest : List Nat}

theorem tailWords_skip (skip : indirectWord s index = 0 ∨ DIRECT_BLOCKS + index < keepBlocks) :
    tailWords keepBlocks s (index :: rest) = tailWords keepBlocks s rest := by
  unfold tailWords
  by_cases low : DIRECT_BLOCKS + index < keepBlocks
  · rw [List.filter_cons_of_neg (by simpa using low)]
  · have hole := skip.resolve_right low
    rw [List.filter_cons_of_pos (by simpa using low), List.map_cons, hole, blocksOf_zero]

theorem tailWords_take (some : indirectWord s index ≠ 0) (tail : keepBlocks ≤ DIRECT_BLOCKS + index) :
    tailWords keepBlocks s (index :: rest) = indirectWord s index :: tailWords keepBlocks s rest := by
  unfold tailWords
  rw [List.filter_cons_of_pos (by simpa using tail), List.map_cons, blocksOf_cons some]

theorem noneKept_skip (skip : indirectWord s index = 0 ∨ keepBlocks ≤ DIRECT_BLOCKS + index) :
    NoneKept keepBlocks s (index :: rest) ↔ NoneKept keepBlocks s rest := by
  constructor
  · intro none other member low
    exact none other (List.mem_cons_of_mem _ member) low
  · intro none other member low
    rcases List.mem_cons.mp member with rfl | later
    · rcases skip with hole | tail
      · exact hole
      · omega
    · exact none other later low

end Cons

theorem wordsCut_refl {s : MapState} (ready : Ready s.allocator) : WordsCut keepBlocks s [] s where
  ready := ready
  freed := Freed.refl s.allocator
  released := (List.append_nil s.released).symm
  info := rfl
  mode := rfl
  faults := rfl
  word index _ := by simp

/-- The entry of an index that is kept or a hole stays. -/
theorem WordsCut.skip {keepBlocks : Nat} {s after : MapState} {index : Nat} {rest : List Nat}
    (cut : WordsCut keepBlocks s rest after)
    (skip : indirectWord s index = 0 ∨ DIRECT_BLOCKS + index < keepBlocks) :
    WordsCut keepBlocks s (index :: rest) after := by
  have same : tailWords keepBlocks s (index :: rest) = tailWords keepBlocks s rest :=
    tailWords_skip skip
  refine ⟨cut.ready, ?_, ?_, cut.info, cut.mode, cut.faults, ?_⟩
  · rw [same]
    exact cut.freed
  · rw [same]
    exact cut.released
  intro other inside
  rw [cut.word other inside]
  by_cases here : other = index
  · rw [here]
    rcases skip with hole | low
    · simp [hole]
    · rw [if_neg (by omega), if_neg (by omega)]
  · simp [here]

/-- A freed and cleared entry, then the others. -/
theorem WordsCut.take {keepBlocks : Nat} {s after : MapState} {allocator : Allocator}
    {index : Nat} {rest : List Nat} (apart : index ∉ rest) (inside : index < INDIRECT_BLOCKS)
    (freed : Freed s.allocator allocator [indirectWord s index])
    (some : indirectWord s index ≠ 0) (tail : keepBlocks ≤ DIRECT_BLOCKS + index)
    (cut : WordsCut keepBlocks (wordCleared s allocator index) rest after) :
    WordsCut keepBlocks s (index :: rest) after := by
  have words (other : Nat) (member : other ∈ rest) :
      indirectWord (wordCleared s allocator index) other = indirectWord s other := by
    rw [wordCleared_word s allocator inside, if_neg (ne_of_mem_of_not_mem member apart)]
  have same := (words_other keepBlocks words).1
  have taken : tailWords keepBlocks s (index :: rest) =
      indirectWord s index :: tailWords keepBlocks s rest := tailWords_take some tail
  have given := cut.freed
  have released := cut.released
  rw [same] at given released
  refine ⟨cut.ready, ?_, ?_, cut.info, cut.mode, cut.faults, ?_⟩
  · rw [taken]
    exact freed.trans given
  · rw [taken, released, wordCleared, List.append_assoc]
    rfl
  · intro other low
    rw [cut.word other low, wordCleared_word s allocator inside]
    by_cases here : other = index
    · simp [here, tail]
    · simp [here]

theorem freeIndirectFrom_cons (s : MapState) (index : Nat) (rest : List Nat)
    (indirectEmpty : Bool) : freeIndirectFrom keepBlocks (index :: rest) indirectEmpty s =
      if indirectWord s index = 0 then freeIndirectFrom keepBlocks rest indirectEmpty s
      else if keepBlocks ≤ DIRECT_BLOCKS + index then
        (freeBlock (indirectWord s index) >>= fun _ => setIndirectEntry index 0 >>= fun _ =>
          freeIndirectFrom keepBlocks rest indirectEmpty) s
      else freeIndirectFrom keepBlocks rest false s := by
  rw [freeIndirectFrom, Routine.read_bind]
  by_cases hole : indirectWord s index = 0
  · have word := hole
    rw [indirectWord] at word
    rw [if_pos hole, if_pos word]
  · have word := hole
    rw [indirectWord] at word
    rw [if_neg hole, if_neg word]
    by_cases tail : keepBlocks ≤ DIRECT_BLOCKS + index
    · rw [if_pos tail, if_pos tail]
      rfl
    · rw [if_neg tail, if_neg tail]

theorem setIndirectEntry_bind (s : MapState) (allocator : Allocator) (index : Nat)
    (next : Unit → MapOp Bool) : (setIndirectEntry index 0 >>= next)
      (s.release allocator [indirectWord s index] s.info) =
        next () (wordCleared s allocator index) := rfl

/-- The loop over the entries of the indirect block. -/
theorem freeIndirectFrom_run {s : MapState} (indices : List Nat) (distinct : indices.Nodup)
    (inside : ∀ index, index ∈ indices → index < INDIRECT_BLOCKS) (ready : Ready s.allocator)
    (valid : AllValid s.allocator (tailWords keepBlocks s indices)) (indirectEmpty : Bool) :
    ∃ empty after, freeIndirectFrom keepBlocks indices indirectEmpty s = (.ok empty, after) ∧
      (empty = true ↔ indirectEmpty = true ∧ NoneKept keepBlocks s indices) ∧
      WordsCut keepBlocks s indices after := by
  induction indices generalizing s indirectEmpty with
  | nil =>
      have none : NoneKept keepBlocks s [] := fun index member => absurd member List.not_mem_nil
      exact ⟨indirectEmpty, s, rfl, by simp [none], wordsCut_refl keepBlocks ready⟩
  | cons index rest ih =>
      obtain ⟨apart, distinct⟩ := List.nodup_cons.mp distinct
      have here := inside index List.mem_cons_self
      have later := fun other member => inside other (List.mem_cons_of_mem index member)
      rw [freeIndirectFrom_cons]
      by_cases hole : indirectWord s index = 0
      · rw [tailWords_skip (Or.inl hole)] at valid
        obtain ⟨empty, after, ran, kept, cut⟩ := ih distinct later ready valid indirectEmpty
        rw [if_pos hole, noneKept_skip (Or.inl hole)]
        exact ⟨empty, after, ran, kept, cut.skip (Or.inl hole)⟩
      · by_cases tail : keepBlocks ≤ DIRECT_BLOCKS + index
        · rw [tailWords_take hole tail] at valid
          obtain ⟨allocator, freeing, settled, freed⟩ := freeBlock_run ready _
            (valid _ List.mem_cons_self)
          have words (other : Nat) (member : other ∈ rest) :
              indirectWord (wordCleared s allocator index) other = indirectWord s other := by
            rw [wordCleared_word s allocator here, if_neg (ne_of_mem_of_not_mem member apart)]
          obtain ⟨same, none⟩ := words_other keepBlocks words
          have given : AllValid s.allocator (tailWords keepBlocks s rest) :=
            fun block member => valid block (List.mem_cons_of_mem _ member)
          rw [← same] at given
          obtain ⟨empty, after, ran, kept, cut⟩ := ih (s := wordCleared s allocator index)
            distinct later settled (given.freed freed) indirectEmpty
          rw [if_neg hole, if_pos tail, noneKept_skip (Or.inr tail), ← none,
            Routine.bind_ok _ _ _ _ _ freeing, setIndirectEntry_bind]
          exact ⟨empty, after, ran, kept, cut.take apart here freed hole tail⟩
        · have low : DIRECT_BLOCKS + index < keepBlocks := by omega
          rw [tailWords_skip (Or.inr low)] at valid
          obtain ⟨empty, after, ran, kept, cut⟩ := ih distinct later ready valid false
          have some : ¬ NoneKept keepBlocks s (index :: rest) := fun none =>
            hole (none index List.mem_cons_self low)
          rw [if_neg hole, if_neg tail]
          exact ⟨empty, after, ran, by simpa [some] using kept, cut.skip (Or.inr low)⟩

end Indirect

end Inode

end Cryexts
