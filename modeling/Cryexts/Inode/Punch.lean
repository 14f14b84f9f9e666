import Cryexts.Inode.TreeRelease
import Cryexts.Inode.Taking

set_option autoImplicit false

namespace Cryexts

namespace Inode

open Balloc (Allocator Ready Freed blockBitmapUsed)
open Extent (stored lookup Ordered reach cut cutAll removed removedAll)

/-- The range lies strictly inside the extent. -/
def StrictlyInside (first last : Nat) (e : Extent) : Prop :=
  e.logicalStart < first ∧ last < e.stop

section Pieces

variable {first last : Nat} (e : Extent)

theorem cut_all (low : first ≤ e.logicalStart) (high : e.stop ≤ last) :
    cut first last e = [] := by
  rw [cut, Extent.front, Extent.back, if_neg (by omega), if_neg (by omega)]
  rfl

theorem cut_head (low : first ≤ e.logicalStart) (into : e.logicalStart < last)
    (high : last < e.stop) :
    cut first last e = [{ e with
      logicalStart := last
      physicalStart := e.physicalStart + (last - e.logicalStart)
      length := e.stop - last }] := by
  rw [cut, Extent.front, Extent.back, if_neg (by omega), if_pos high, if_neg (by omega),
    Nat.max_eq_left (by omega)]
  rfl

theorem cut_tail (low : e.logicalStart < first) (into : first < e.stop) (high : e.stop ≤ last) :
    cut first last e = [{ e with length := first - e.logicalStart }] := by
  rw [cut, Extent.front, Extent.back, if_pos low, if_neg (by omega), Nat.min_eq_left (by omega)]
  rfl

theorem cut_middle (range : first < last) (inside : StrictlyInside first last e) :
    cut first last e = [{ e with length := first - e.logicalStart },
      ⟨last, e.physicalStart + (last - e.logicalStart), e.stop - last, 0⟩] := by
  have low := inside.1
  have high := inside.2
  rw [cut, Extent.front, Extent.back, if_pos low, if_pos high, if_pos low,
    Nat.min_eq_left (by omega), Nat.max_eq_left (by omega)]
  rfl

end Pieces

section Entries

variable (first last leafIndex : Nat)

/-- A leaf whose entries the range does not touch. -/
theorem punchEntries_apart (s : MapState) (start rest : List Extent)
    (extents : leafExtents s.info leafIndex = start ++ rest)
    (apart : ∀ e, e ∈ rest → last ≤ e.logicalStart ∨ e.stop ≤ first) :
    punchEntries first last leafIndex rest.length start.length s = (.ok (), s) := by
  induction rest generalizing start with
  | nil => rfl
  | cons e rest ih =>
      have entry : (leafExtents s.info leafIndex)[start.length]? = some e := by
        rw [extents]
        simp
      have later := ih (start ++ [e]) (by rw [List.append_assoc]; exact extents)
        fun other member => apart other (List.mem_cons_of_mem _ member)
      rw [List.length_append, List.length_singleton] at later
      rw [List.length_cons, punchEntries]
      simp only [Routine.read_bind, entry]
      by_cases behind : last ≤ e.logicalStart
      · rw [if_pos behind]
        rfl
      · have before : e.stop ≤ first := (apart e List.mem_cons_self).resolve_left behind
        rw [if_neg behind, if_pos before]
        exact later

end Entries

section Leaf

variable {first last : Nat} (range : first < last) {base : InodeInfo}
  {before after : List ExtentLeaf} {leaf : ExtentLeaf}

include range

/-- The entries of a leaf none of which holds all of the range. -/
theorem punchEntries_cut {low : Nat} (start rest : List Extent) (s : MapState)
    (ready : Ready s.allocator) (shown : LeafShows base before after leaf s.info (start ++ rest))
    (ordered : Ordered low rest)
    (whole : ∀ e, e ∈ rest → ¬ StrictlyInside first last e)
    (valid : AllValid s.allocator (removedAll first last rest)) :
    ∃ info, LeafShows base before after leaf info (start ++ cutAll first last rest) ∧
      Frees (punchEntries first last before.length rest.length start.length) s
        (removedAll first last rest) info := by
  induction rest generalizing start s low with
  | nil => exact ⟨s.info, shown, Frees.nothing ready⟩
  | cons e rest ih =>
      obtain ⟨_, size, tail⟩ := ordered
      have stopped : e.stop = e.logicalStart + e.length := rfl
      have later := fun other member => whole other (List.mem_cons_of_mem e member)
      have extents := (shown.with []).1
      have entry : (leafExtents s.info before.length)[start.length]? = some e := by
        rw [extents]
        simp
      rw [Extent.removedAll_cons] at valid
      rw [Extent.cutAll_cons, Extent.removedAll_cons, List.length_cons]
      unfold punchEntries
      simp only [Frees.read_iff, entry]
      by_cases behind : last ≤ e.logicalStart
      · -- The loop ends here: the entries to come lie behind the range as well.
        have rests := Extent.cutAll_apart first last tail (Nat.le_of_lt range)
          fun other member => Or.inl (by
            have bounds := tail.bounds other member
            omega)
        rw [if_pos behind, Extent.cut_apart _ _ _ (Nat.le_of_lt range) size (Or.inl behind),
          Extent.removed_apart _ _ _ (Or.inl behind), rests.1, rests.2]
        exact ⟨s.info, shown, Frees.nothing ready⟩
      · rw [if_neg behind]
        by_cases early : e.stop ≤ first
        · rw [if_pos early, Extent.cut_apart _ _ _ (Nat.le_of_lt range) size (Or.inr early),
            Extent.removed_apart _ _ _ (Or.inr early)]
          have next := ih (start ++ [e]) s ready (by rw [List.append_assoc]; exact shown) tail
            later valid.right
          rw [List.length_append, List.length_singleton, List.append_assoc] at next
          exact next
        · have single := whole e List.mem_cons_self
          have split : ¬ (e.logicalStart < max first e.logicalStart ∧ min last e.stop < e.stop) := by
            rintro ⟨left, right⟩
            exact single ⟨by omega, by omega⟩
          rw [if_neg early]
          simp only [split, ↓reduceIte]
          apply Frees.seq (freeRun_run _ _ ready valid.left)
          intro allocator settled given
          have valid := valid.right.freed given
          have gone : LeafShows base before after leaf (withLeafExtents s.info before.length
              ((leafExtents s.info before.length).eraseIdx start.length)) (start ++ rest) := by
            rw [extents, ListAt.eraseIdx_at]
            exact (shown.with _).2
          have changed (piece : Extent) : LeafShows base before after leaf
              (withLeafExtents s.info before.length
                ((leafExtents s.info before.length).set start.length piece))
              ((start ++ [piece]) ++ rest) := by
            rw [extents, List.set_append_right _ _ (Nat.le_refl _), Nat.sub_self, List.set_cons_zero,
              List.append_assoc]
            exact (shown.with _).2
          have next (piece : Extent) (freed : List Nat) := ih (start ++ [piece])
            (s.release allocator freed (withLeafExtents s.info before.length
              ((leafExtents s.info before.length).set start.length piece)))
            settled (changed piece) tail later valid
          simp only [List.length_append, List.length_singleton, List.append_assoc] at next
          by_cases head : max first e.logicalStart = e.logicalStart
          · by_cases tailed : min last e.stop = e.stop
            · -- All of the extent goes.
              rw [cut_all e (by omega) (by omega)]
              simp only [head, tailed, and_self, ↓reduceIte]
              exact ih start (s.release allocator _ _) settled gone tail later valid
            · -- Its head goes.
              rw [cut_head e (by omega) (by omega) (by omega)]
              simp only [head, tailed, and_false, ↓reduceIte]
              rw [show min last e.stop = last by omega, Nat.sub_self, Nat.add_zero]
              exact next _ _
          · -- Its tail goes.
            rw [cut_tail e (by omega) (by omega) (by omega)]
            simp only [head, false_and, ↓reduceIte]
            rw [show max first e.logicalStart = first by omega]
            exact next _ _

/-- The entries before the range are passed over. -/
theorem punchEntries_skip (leafIndex : Nat) (s : MapState) (start early late : List Extent)
    (extents : leafExtents s.info leafIndex = start ++ (early ++ late))
    (below : ∀ e, e ∈ early → e.stop ≤ first) :
    punchEntries first last leafIndex (early ++ late).length start.length s =
      punchEntries first last leafIndex late.length (start.length + early.length) s := by
  induction early generalizing start with
  | nil => rfl
  | cons e rest ih =>
      have entry : (leafExtents s.info leafIndex)[start.length]? = some e := by
        rw [extents]
        simp
      have here := below e List.mem_cons_self
      have stopped : e.stop = e.logicalStart + e.length := rfl
      have later := ih (start ++ [e]) (by rw [List.append_assoc]; exact extents)
        fun other member => below other (List.mem_cons_of_mem _ member)
      simp only [List.length_append, List.length_singleton] at later
      rw [List.cons_append, List.length_cons, punchEntries]
      simp only [Routine.read_bind, entry]
      rw [if_neg (by omega), if_pos here, List.length_append, later, List.length_cons,
        show start.length + (rest.length + 1) = start.length + 1 + rest.length by omega]

omit range in
/-- A new entry behind another one of a leaf that has room for it. -/
theorem insertExtentAfterV2_run (start late : List Extent) (e new : Extent) (s : MapState)
    (leaves : s.info.extentLeaves = before ++ leaf :: after)
    (extents : leaf.extents = start ++ e :: late)
    (room : leaf.extents.length < EXTENTS_PER_BLOCK) :
    insertExtentAfterV2 before.length start.length new s =
      if s.faults.head? = some true then (.error .enomem, { s with faults := s.faults.tail })
      else (.ok (), { s with
        faults := s.faults.tail
        info := refreshExtentTreeV2Refs
          (leafReplaced s.info before after leaf (start ++ e :: new :: late)) }) := by
  have seen := leafExtents_at leaves
  have there : ¬ s.info.extentLeaves.length ≤ before.length := by
    rw [leaves]
    simp
  have place : ¬ (leaf.extents.length ≤ start.length ∨ EXTENTS_PER_BLOCK ≤ leaf.extents.length) := by
    have length := congrArg List.length extents
    rw [List.length_append, List.length_cons] at length
    omega
  unfold insertExtentAfterV2
  simp only [Routine.read_bind, seen, there, place, ↓reduceIte]
  by_cases fault : s.faults.head? = some true
  · rw [if_pos fault, Routine.bind_error _ _ _ _ _ (attempt_error s .enomem fault)]
  · rw [if_neg fault, Routine.bind_ok _ _ _ _ _ (attempt_ok s .enomem fault), extents,
      ListAt.insertIdx_behind]
    simp only [updateInfo, Routine.modify_run, withLeafExtents_at leaves]

omit range in
/-- What follows the new entry when one is split. -/
theorem splitEntry_run (start late : List Extent) (e new : Extent) (s : MapState)
    (ready : Ready s.allocator)
    (shown : LeafShows base before after leaf s.info (start ++ e :: new :: late))
    (behind : Ordered e.stop late) (inside : StrictlyInside first last e)
    (valid : AllValid s.allocator (removed first last e)) :
    ∃ info, LeafShows base before after leaf info
        (start ++ { e with length := first - e.logicalStart } :: new :: late) ∧
      Frees (setLeafEntry before.length start.length { e with length := first - e.logicalStart } >>=
        fun _ => freeRun (e.physicalStart + (first - e.logicalStart)) (last - first) >>=
        fun _ => punchEntries first last before.length late.length (start.length + 2)) s
        (removed first last e) info := by
  have low := inside.1
  have high := inside.2
  have blocks : removed first last e =
      List.range' (e.physicalStart + (first - e.logicalStart)) (last - first) := by
    rw [removed, Nat.max_eq_left (by omega), Nat.min_eq_left (by omega)]
  rw [blocks] at valid ⊢
  have changed : LeafShows base before after leaf (withLeafExtents s.info before.length
      ((leafExtents s.info before.length).set start.length
        { e with length := first - e.logicalStart }))
      (start ++ { e with length := first - e.logicalStart } :: new :: late) := by
    rw [(shown.with []).1, List.set_append_right _ _ (Nat.le_refl _), Nat.sub_self,
      List.set_cons_zero]
    exact (shown.with _).2
  refine ⟨_, changed, ?_⟩
  apply Frees.update
  rw [← List.append_nil (List.range' _ _)]
  refine Frees.bind (freeRun_run _ _ ?_ ?_) ?_
  · exact ready
  · exact valid
  intro allocator settled _
  have extents := (changed.with []).1
  have passed := punchEntries_apart first last before.length
    (s.release allocator (List.range' (e.physicalStart + (first - e.logicalStart)) (last - first))
      (withLeafExtents s.info before.length ((leafExtents s.info before.length).set start.length
        { e with length := first - e.logicalStart })))
    (start ++ [{ e with length := first - e.logicalStart }, new]) late
    (by rw [release_info, extents, List.append_assoc]; rfl)
    (fun other member => Or.inl (by
      have bounds := behind.bounds other member
      omega))
  rw [List.length_append] at passed
  refine ⟨allocator, ?_, settled, Freed.refl allocator⟩
  rw [release_release, List.append_nil]
  exact passed

/-- At the entry that holds all of the range: it is refused, or split in two. -/
theorem punchEntries_split (start late : List Extent) (e : Extent) (s : MapState)
    (ready : Ready s.allocator)
    (leaves : s.info.extentLeaves = before ++ leaf :: after)
    (extents : leaf.extents = start ++ e :: late) (behind : Ordered e.stop late)
    (inside : StrictlyInside first last e)
    (valid : AllValid s.allocator (removed first last e)) :
    (EXTENTS_PER_BLOCK ≤ leaf.extents.length ∧
      punchEntries first last before.length (late.length + 1) start.length s =
        (.error .enospc, s)) ∨
    (s.faults.head? = some true ∧
      punchEntries first last before.length (late.length + 1) start.length s =
        (.error .enomem, { s with faults := s.faults.tail })) ∨
    (leaf.extents.length < EXTENTS_PER_BLOCK ∧ s.faults.head? ≠ some true ∧
      ∃ info allocator, LeafShows s.info before after leaf info (start ++ cut first last e ++ late) ∧
        punchEntries first last before.length (late.length + 1) start.length s =
          (.ok (), ({ s with faults := s.faults.tail } : MapState).release allocator
            (removed first last e) info) ∧
        Ready allocator ∧ Freed s.allocator allocator (removed first last e)) := by
  have low := inside.1
  have high := inside.2
  have seen := leafExtents_at leaves
  have entry : leaf.extents[start.length]? = some e := by
    rw [extents]
    simp
  have punchStart : max first e.logicalStart = first := by omega
  have punchEnd : min last e.stop = last := by omega
  have step : punchEntries first last before.length (late.length + 1) start.length s =
      (if EXTENTS_PER_BLOCK ≤ leaf.extents.length then (Routine.fail .enospc : MapOp Unit)
      else do
        insertExtentAfterV2 before.length start.length
          ⟨last, e.physicalStart + (first - e.logicalStart) + (last - first), e.stop - last, 0⟩
        setLeafEntry before.length start.length { e with length := first - e.logicalStart }
        freeRun (e.physicalStart + (first - e.logicalStart)) (last - first)
        punchEntries first last before.length late.length (start.length + 2)) s := by
    rw [punchEntries]
    simp only [Routine.read_bind, seen, entry]
    rw [if_neg (by omega), if_neg (by omega), punchStart, punchEnd, if_pos ⟨low, high⟩]
  rw [step]
  by_cases full : EXTENTS_PER_BLOCK ≤ leaf.extents.length
  · left
    rw [if_pos full]
    exact ⟨full, rfl⟩
  · right
    rw [if_neg full]
    have inserted := @insertExtentAfterV2_run before after leaf start late e
      ⟨last, e.physicalStart + (first - e.logicalStart) + (last - first), e.stop - last, 0⟩ s leaves
      extents (Nat.lt_of_not_le full)
    by_cases fault : s.faults.head? = some true
    · left
      rw [if_pos fault] at inserted
      exact ⟨fault, Routine.bind_error _ _ _ _ _ inserted⟩
    · right
      refine ⟨Nat.lt_of_not_le full, fault, ?_⟩
      rw [if_neg fault] at inserted
      rw [Routine.bind_ok _ _ _ _ _ inserted]
      have run := splitEntry_run start late e
        ⟨last, e.physicalStart + (first - e.logicalStart) + (last - first), e.stop - last, 0⟩
        { s with
          faults := s.faults.tail
          info := refreshExtentTreeV2Refs (leafReplaced s.info before after leaf (start ++ e ::
            ⟨last, e.physicalStart + (first - e.logicalStart) + (last - first), e.stop - last, 0⟩ ::
              late)) }
        ready ⟨_, rfl⟩ behind inside valid
      obtain ⟨info, shown, allocator, ran, rest⟩ := run
      refine ⟨info, allocator, ?_, ran, rest⟩
      rw [cut_middle e range inside, show e.physicalStart + (last - e.logicalStart) =
        e.physicalStart + (first - e.logicalStart) + (last - first) by omega]
      simpa using shown

end Leaf

/-! ### The whole tree -/

/-- Leaves a sweep leaves alone are passed over. -/
theorem sweepLeaves_skip (sweep : Nat → MapOp Unit) (s : MapState)
    (start passed rest : List ExtentLeaf)
    (leaves : s.info.extentLeaves = start ++ (passed ++ rest))
    (same : ∀ before leaf after, s.info.extentLeaves = before ++ leaf :: after → leaf ∈ passed →
      sweep before.length s = (.ok (), s))
    (filled : ∀ leaf, leaf ∈ passed → leaf.extents ≠ []) :
    sweepLeaves sweep (passed ++ rest).length start.length s =
      sweepLeaves sweep rest.length (start.length + passed.length) s := by
  induction passed generalizing start with
  | nil => rfl
  | cons leaf later ih =>
      have here := same start leaf (later ++ rest) leaves List.mem_cons_self
      have some := filled leaf List.mem_cons_self
      have next := ih (start ++ [leaf]) (by rw [List.append_assoc]; exact leaves)
        (fun before other after split member =>
          same before other after split (List.mem_cons_of_mem _ member))
        (fun other member => filled other (List.mem_cons_of_mem _ member))
      have extents : leafExtents s.info start.length = leaf.extents := leafExtents_at leaves
      simp only [List.length_append, List.length_singleton] at next
      rw [List.cons_append, List.length_cons, sweepLeaves, Routine.bind_ok _ _ _ _ _ here]
      simp only [Routine.read_bind, extents, some, ↓reduceIte]
      rw [List.length_append, next, List.length_cons,
        show start.length + (later.length + 1) = start.length + 1 + later.length by omega]

section Tree

variable (first last : Nat)

theorem punchLeaf_apart {s : MapState} {before after : List ExtentLeaf} {leaf : ExtentLeaf}
    (leaves : s.info.extentLeaves = before ++ leaf :: after)
    (apart : ∀ e, e ∈ leaf.extents → last ≤ e.logicalStart ∨ e.stop ≤ first) :
    punchLeaf first last before.length s = (.ok (), s) := by
  have extents := leafExtents_at leaves
  rw [punchLeaf, Routine.read_bind, extents]
  exact punchEntries_apart first last before.length s [] leaf.extents extents apart

/-- The range takes nothing out of leaves it does not touch. -/
theorem kept_apart (leaves : List ExtentLeaf) (range : first ≤ last)
    (ordered : ∀ leaf, leaf ∈ leaves → ∃ low, Ordered low leaf.extents)
    (filled : ∀ leaf, leaf ∈ leaves → leaf.extents ≠ [])
    (apart : ∀ e, e ∈ leafEntries leaves → last ≤ e.logicalStart ∨ e.stop ≤ first) :
    keptLeaves (cutAll first last) leaves = leaves ∧
      sweptBlocks (cutAll first last) (removedAll first last) leaves = [] := by
  induction leaves with
  | nil => exact ⟨rfl, rfl⟩
  | cons leaf rest ih =>
      obtain ⟨low, inOrder⟩ := ordered leaf List.mem_cons_self
      have some := filled leaf List.mem_cons_self
      have same := Extent.cutAll_apart first last inOrder range fun e member =>
        apart e (mem_leafEntries List.mem_cons_self member)
      have later := ih (fun other member => ordered other (List.mem_cons_of_mem _ member))
        (fun other member => filled other (List.mem_cons_of_mem _ member))
        (fun e member => apart e (by
          rw [leafEntries_cons]
          exact List.mem_append_right _ member))
      constructor
      · have head : keptLeaves (cutAll first last) (leaf :: rest) =
            leaf :: keptLeaves (cutAll first last) rest := by
          simp [keptLeaves, same.1, some]
        rw [head, later.1]
      · have head : sweptBlocks (cutAll first last) (removedAll first last) (leaf :: rest) =
            sweptBlocks (cutAll first last) (removedAll first last) rest := by
          simp [sweptBlocks, same.1, same.2, some]
        rw [head, later.2]

/-- Around an extent that holds all of the range no other one is touched. -/
theorem Tree.around {leaves before after : List ExtentLeaf} {leaf : ExtentLeaf}
    {early late : List Extent} {e : Extent} (tree : Tree leaves)
    (split : leaves = before ++ leaf :: after) (extents : leaf.extents = early ++ e :: late)
    (inside : StrictlyInside first last e) :
    (∀ other, other ∈ leafEntries before ++ early → other.stop ≤ first) ∧
      (∀ other, other ∈ late ++ leafEntries after → last ≤ other.logicalStart) ∧
      Ordered e.stop late := by
  have ordered := tree.ordered
  have whole : leafEntries leaves =
      (leafEntries before ++ early) ++ e :: (late ++ leafEntries after) := by
    rw [split, leafEntries_append, leafEntries_cons, extents]
    simp only [List.append_assoc, List.cons_append]
  rw [whole, Extent.ordered_append] at ordered
  obtain ⟨first, start, _, rest⟩ := ordered
  have low := inside.1
  have high := inside.2
  refine ⟨?_, ?_, ((Extent.ordered_append _ _ _).mp rest).1⟩
  · intro other member
    have bounds := first.bounds other member
    omega
  · intro other member
    have bounds := rest.bounds other member
    omega

theorem cutAll_append (one two : List Extent) :
    cutAll first last (one ++ two) = cutAll first last one ++ cutAll first last two :=
  List.flatMap_append

theorem removedAll_append (one two : List Extent) :
    removedAll first last (one ++ two) = removedAll first last one ++ removedAll first last two :=
  List.flatMap_append

/-- A range inside one extent takes it out of that one alone. -/
theorem Tree.cut_inside {leaves before after : List ExtentLeaf} {leaf : ExtentLeaf}
    {early late : List Extent} {e : Extent} (tree : Tree leaves) (range : first < last)
    (split : leaves = before ++ leaf :: after) (extents : leaf.extents = early ++ e :: late)
    (inside : StrictlyInside first last e) :
    keptLeaves (cutAll first last) leaves =
        before ++ { leaf with extents := early ++ cut first last e ++ late } :: after ∧
      sweptBlocks (cutAll first last) (removedAll first last) leaves = removed first last e ∧
      cutAll first last leaf.extents = early ++ cut first last e ++ late := by
  obtain ⟨low, high, behind⟩ := tree.around first last split extents inside
  have ordered (other : ExtentLeaf) (member : other ∈ leaves) := tree.leafOrdered other member
  have left := kept_apart first last before (Nat.le_of_lt range)
    (fun other member => ordered other (by rw [split]; exact List.mem_append_left _ member))
    (fun other member => tree.filled other (by rw [split]; exact List.mem_append_left _ member))
    (fun other member => Or.inr (low other (List.mem_append_left _ member)))
  have right := kept_apart first last after (Nat.le_of_lt range)
    (fun other member => ordered other (by
      rw [split]
      exact List.mem_append_right _ (List.mem_cons_of_mem _ member)))
    (fun other member => tree.filled other (by
      rw [split]
      exact List.mem_append_right _ (List.mem_cons_of_mem _ member)))
    (fun other member => Or.inl (high other (List.mem_append_right _ member)))
  obtain ⟨start, inOrder⟩ := ordered leaf (by rw [split]; simp)
  rw [extents, Extent.ordered_append] at inOrder
  have earlier := Extent.cutAll_apart first last inOrder.1 (Nat.le_of_lt range) fun other member =>
    Or.inr (low other (List.mem_append_right _ member))
  have later := Extent.cutAll_apart first last behind (Nat.le_of_lt range) fun other member =>
    Or.inl (high other (List.mem_append_left _ member))
  have pieces : cutAll first last leaf.extents = early ++ cut first last e ++ late := by
    rw [extents, cutAll_append, Extent.cutAll_cons, earlier.1, later.1, List.append_assoc]
  have taken : removedAll first last leaf.extents = removed first last e := by
    rw [extents, removedAll_append, Extent.removedAll_cons, earlier.2, later.2, List.append_nil,
      List.nil_append]
  have some : early ++ cut first last e ++ late ≠ [] := by
    rw [cut_middle e range inside]
    simp
  refine ⟨?_, ?_, pieces⟩
  · have middle : keptLeaves (cutAll first last) leaves =
        keptLeaves (cutAll first last) before ++
          { leaf with extents := early ++ cut first last e ++ late } ::
            keptLeaves (cutAll first last) after := by
      rw [split]
      simp only [keptLeaves, List.map_append, List.map_cons, List.filter_append, pieces]
      rw [List.filter_cons, if_pos (decide_eq_true some)]
    rw [middle, left.1, right.1]
  · have middle : sweptBlocks (cutAll first last) (removedAll first last) leaves =
        sweptBlocks (cutAll first last) (removedAll first last) before ++
          (removed first last e ++
            sweptBlocks (cutAll first last) (removedAll first last) after) := by
      rw [split]
      simp only [sweptBlocks, List.flatMap_append, List.flatMap_cons, pieces, taken, some,
        ↓reduceIte, List.append_nil]
    rw [middle, left.2, right.2, List.append_nil, List.nil_append]

/-- The range lies strictly inside an extent of a full leaf. -/
def FullLeafInside (leaves : List ExtentLeaf) : Prop :=
  ∃ leaf e, leaf ∈ leaves ∧ e ∈ leaf.extents ∧ StrictlyInside first last e ∧
    EXTENTS_PER_BLOCK ≤ leaf.extents.length

/-- An extent that does not hold all of the range leaves one piece at most. -/
theorem punched_length (extents : List Extent)
    (whole : ∀ e, e ∈ extents → ¬ StrictlyInside first last e) :
    (cutAll first last extents).length ≤ extents.length := by
  induction extents with
  | nil => exact Nat.le_refl 0
  | cons e rest ih =>
      have later := ih fun other member => whole other (List.mem_cons_of_mem _ member)
      have here := whole e List.mem_cons_self
      have one : (cut first last e).length ≤ 1 := by
        rw [cut, Extent.front, Extent.back]
        by_cases low : e.logicalStart < first
        · rw [if_neg fun high => here ⟨low, high⟩, if_pos low]
          exact Nat.le_refl 1
        · rw [if_neg low, List.nil_append]
          split
          · exact Nat.le_refl 1
          · exact Nat.zero_le 1
      rw [Extent.cutAll_cons, List.length_append, List.length_cons]
      omega

theorem punchLeaf_cut {low : Nat} (range : first < last) {before after : List ExtentLeaf}
    {leaf : ExtentLeaf} {s : MapState} (ready : Ready s.allocator)
    (leaves : s.info.extentLeaves = before ++ leaf :: after) (ordered : Ordered low leaf.extents)
    (whole : ∀ e, e ∈ leaf.extents → ¬ StrictlyInside first last e)
    (valid : AllValid s.allocator (removedAll first last leaf.extents)) :
    ∃ info, LeafShows s.info before after leaf info (cutAll first last leaf.extents) ∧
      Frees (punchLeaf first last before.length) s (removedAll first last leaf.extents) info := by
  have run := punchEntries_cut range [] leaf.extents s ready (leafShows_start leaves) ordered whole
    valid
  simp only [punchLeaf, Frees.read_iff, leafExtents_at leaves]
  exact run

/-- A sweep of a tree with an extent that holds all of the range. -/
theorem sweep_inside {s : MapState} (range : first < last) (ready : Ready s.allocator)
    (shape : TreeShape s.info) {before after : List ExtentLeaf} {leaf : ExtentLeaf}
    {early late : List Extent} {e : Extent} (split : s.info.extentLeaves = before ++ leaf :: after)
    (extents : leaf.extents = early ++ e :: late) (inside : StrictlyInside first last e)
    (valid : AllValid s.allocator
      (sweptBlocks (cutAll first last) (removedAll first last) s.info.extentLeaves)) :
    (∃ faults allocator, sweepLeaves (punchLeaf first last) s.info.extentLeaves.length 0 s =
        (.ok (), ({ s with faults := faults } : MapState).release allocator
          (sweptBlocks (cutAll first last) (removedAll first last) s.info.extentLeaves)
          (withLeaves s.info (keptLeaves (cutAll first last) s.info.extentLeaves))) ∧
      Ready allocator ∧ Freed s.allocator allocator
        (sweptBlocks (cutAll first last) (removedAll first last) s.info.extentLeaves) ∧
      Tree (keptLeaves (cutAll first last) s.info.extentLeaves)) ∨
    (sweepLeaves (punchLeaf first last) s.info.extentLeaves.length 0 s = (.error .enospc, s) ∧
      FullLeafInside first last s.info.extentLeaves) ∨
    (sweepLeaves (punchLeaf first last) s.info.extentLeaves.length 0 s =
        (.error .enomem, { s with faults := s.faults.tail }) ∧ s.faults.head? = some true) := by
  have tree := shape.tree
  obtain ⟨low, high, behind⟩ := tree.around first last split extents inside
  obtain ⟨kept, blocks, pieces⟩ := tree.cut_inside first last range split extents inside
  have leafThere : leaf ∈ s.info.extentLeaves := by
    rw [split]
    simp
  have skipped := sweepLeaves_skip (punchLeaf first last) s [] before (leaf :: after) split
    (fun one other two there member => punchLeaf_apart first last there fun entry inside =>
      Or.inr (low entry (List.mem_append_left _ (mem_leafEntries member inside))))
    (fun other member => tree.filled other (by rw [split]; exact List.mem_append_left _ member))
  have length : s.info.extentLeaves.length = (before ++ leaf :: after).length := by rw [split]
  have reached : punchLeaf first last before.length s =
      punchEntries first last before.length (late.length + 1) early.length s := by
    have passed := punchEntries_skip range before.length s [] early (e :: late)
      (by rw [leafExtents_at split, extents]; rfl)
      (fun other member => low other (List.mem_append_right _ member))
    rw [punchLeaf, Routine.read_bind, leafExtents_at split, extents]
    simpa using passed
  rw [length]
  simp only [List.length_nil, Nat.zero_add] at skipped
  rw [skipped, List.length_cons, sweepLeaves]
  rw [blocks] at valid
  rcases punchEntries_split range early late e s ready split extents behind inside valid with
    ⟨full, ran⟩ | ⟨fault, ran⟩ | ⟨room, calm, info, allocator, shown, ran, settled, freed⟩
  · right
    left
    refine ⟨Routine.bind_error _ _ _ _ _ (reached.trans ran), leaf, e, leafThere, ?_, inside, full⟩
    rw [extents]
    simp
  · right
    right
    exact ⟨Routine.bind_error _ _ _ _ _ (reached.trans ran), fault⟩
  · left
    obtain ⟨refs, replaced⟩ := shown
    have there : info.extentLeaves =
        before ++ { leaf with extents := early ++ cut first last e ++ late } :: after := by
      rw [replaced]
      rfl
    have some : early ++ cut first last e ++ late ≠ [] := by
      rw [cut_middle e range inside]
      simp
    have rest := sweepLeaves_skip (punchLeaf first last)
      (({ s with faults := s.faults.tail } : MapState).release allocator (removed first last e) info)
      (before ++ [{ leaf with extents := early ++ cut first last e ++ late }]) after []
      (by rw [release_info, there]; simp)
      (fun one other two split member => punchLeaf_apart first last split fun entry inside =>
        Or.inl (high entry (List.mem_append_right _ (mem_leafEntries member inside))))
      (fun other member => tree.filled other (by
        rw [split]
        exact List.mem_append_right _ (List.mem_cons_of_mem _ member)))
    simp only [List.length_append, List.length_singleton, List.append_nil, List.length_nil] at rest
    refine ⟨s.faults.tail, allocator, ?_, settled, ?_, ?_⟩
    · rw [Routine.bind_ok _ _ _ _ _ (reached.trans ran), kept, blocks]
      simp only [Routine.read_bind, release_info, leafExtents_at there, some, ↓reduceIte]
      rw [rest, replaced]
      rfl
    · rw [blocks]
      exact freed
    · apply tree.keep_cut first last (Nat.le_of_lt range)
      intro other member
      have small := tree.roomy other member
      have single (entry : Extent) (apart : last ≤ entry.logicalStart ∨ entry.stop ≤ first) :
          ¬ StrictlyInside first last entry := by
        rintro ⟨left, right⟩
        have stopped : entry.stop = entry.logicalStart + entry.length := rfl
        omega
      rw [split] at member
      rcases List.mem_append.mp member with early | late
      · have shorter := punched_length first last other.extents fun entry inside =>
          single entry (Or.inr (low entry (List.mem_append_left _ (mem_leafEntries early inside))))
        exact Nat.le_trans shorter small
      · rcases List.mem_cons.mp late with rfl | late
        · rw [extents, List.length_append, List.length_cons] at room
          rw [pieces, cut_middle e range inside]
          simp only [List.length_append, List.length_cons, List.length_nil]
          omega
        · have shorter := punched_length first last other.extents fun entry inside =>
            single entry (Or.inl (high entry (List.mem_append_right _ (mem_leafEntries late inside))))
          exact Nat.le_trans shorter small

/-- What punching does: the range is cut out of each leaf, or nothing has changed. -/
theorem punchHoleBlocks_tree {s : MapState} (range : first < last) (ready : Ready s.allocator)
    (shape : TreeShape s.info) (valid : AllValid s.allocator (occupied s.info)) :
    (∃ faults allocator, punchHoleBlocks first last s =
        (.ok (), ({ s with faults := faults } : MapState).release allocator
          (sweptBlocks (cutAll first last) (removedAll first last) s.info.extentLeaves)
          (withLeaves s.info (keptLeaves (cutAll first last) s.info.extentLeaves))) ∧
      Ready allocator ∧ Freed s.allocator allocator
        (sweptBlocks (cutAll first last) (removedAll first last) s.info.extentLeaves) ∧
      Tree (keptLeaves (cutAll first last) s.info.extentLeaves)) ∨
    (punchHoleBlocks first last s = (.error .enospc, s) ∧
      FullLeafInside first last s.info.extentLeaves) ∨
    (punchHoleBlocks first last s = (.error .enomem, { s with faults := s.faults.tail }) ∧
      s.faults.head? = some true) := by
  have parts := occupied_cut first last (Nat.le_of_lt range) s.info
  have swept : AllValid s.allocator
      (sweptBlocks (cutAll first last) (removedAll first last) s.info.extentLeaves) :=
    fun block member => valid block (parts.mem_iff.mp (List.mem_append_right _ member))
  have start : punchHoleBlocks first last s =
      sweepLeaves (punchLeaf first last) s.info.extentLeaves.length 0 s := by
    rw [punchHoleBlocks, Routine.read_bind, if_neg (by simp [shape.extents, shape.flagged]),
      if_neg (Nat.not_le.mpr range)]
  rw [start]
  by_cases held : ∃ e, e ∈ leafEntries s.info.extentLeaves ∧ StrictlyInside first last e
  · obtain ⟨e, member, inside⟩ := held
    obtain ⟨leaf, there, member⟩ := List.mem_flatMap.mp member
    obtain ⟨before, after, split⟩ := List.append_of_mem there
    obtain ⟨early, late, extents⟩ := List.append_of_mem member
    exact sweep_inside first last range ready shape split extents inside swept
  · left
    have whole (e : Extent) (member : e ∈ leafEntries s.info.extentLeaves) :
        ¬ StrictlyInside first last e := fun inside => held ⟨e, member, inside⟩
    have run := sweepLeaves_run (punchLeaf first last) (cutAll first last) (removedAll first last)
      (fun leaf => (∃ low, Ordered low leaf.extents) ∧
        ∀ e, e ∈ leaf.extents → ¬ StrictlyInside first last e)
      (fun before after leaf state settled leaves good given => by
        obtain ⟨⟨low, ordered⟩, single⟩ := good
        exact punchLeaf_cut first last range settled leaves ordered single given)
      [] s.info.extentLeaves s ready rfl
      (fun leaf member => ⟨shape.tree.leafOrdered leaf member, fun e there =>
        whole e (mem_leafEntries member there)⟩) swept
    obtain ⟨allocator, ran, settled, freed⟩ := run
    refine ⟨s.faults, allocator, ran, settled, freed, ?_⟩
    apply shape.tree.keep_cut first last (Nat.le_of_lt range)
    intro leaf member
    have shorter := punched_length first last leaf.extents fun e there =>
      whole e (mem_leafEntries member there)
    exact Nat.le_trans shorter (shape.tree.roomy leaf member)

end Tree

end Inode

end Cryexts
