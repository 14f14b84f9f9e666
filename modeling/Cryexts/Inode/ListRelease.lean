import Cryexts.Inode.TreeRelease

set_option autoImplicit false

namespace Cryexts

namespace Inode

open Balloc (Allocator Ready Freed)
open Extent (stored lookup Ordered reach cut cutAll removedAll)

/-- The inode with other extents in its slot and its overflow block. -/
def listReplaced (info : InodeInfo) (inline overflow : List Extent) : InodeInfo :=
  { info with extents := inline, overflowExtents := overflow }

/-- The inode with these extents, the overflow block used only while as many as before are in the
slot. -/
def ListShows (info shown : InodeInfo) (entries : List Extent) : Prop :=
  ∃ inline overflow, shown = listReplaced info inline overflow ∧ inline ++ overflow = entries ∧
    inline.length ≤ info.extents.length ∧
    (overflow ≠ [] → inline.length = info.extents.length)

/-- An extent behind some others is in the slot or in the overflow block. -/
theorem list_split {inline overflow first rest : List Extent} {e : Extent}
    (entries : inline ++ overflow = first ++ e :: rest) :
    (∃ later, inline = first ++ e :: later ∧ rest = later ++ overflow) ∨
    (∃ early, first = inline ++ early ∧ overflow = early ++ e :: rest) := by
  rcases List.append_eq_append_iff.mp entries with ⟨early, start, behind⟩ | ⟨late, start, behind⟩
  · exact Or.inr ⟨early, start, behind⟩
  · cases late with
    | nil =>
        right
        rw [List.append_nil] at start
        rw [List.nil_append] at behind
        refine ⟨[], ?_, ?_⟩
        · rw [start, List.append_nil]
        · rw [behind, List.nil_append]
    | cons other later =>
        left
        rw [List.cons_append] at behind
        obtain ⟨same, behind⟩ := List.cons.inj behind
        rw [same]
        exact ⟨later, start, behind⟩

section View

variable {info : InodeInfo} (plain : extentTreeV2Inode info = false)

include plain

theorem extentEntries_list (inline overflow : List Extent) :
    extentEntries (listReplaced info inline overflow) = inline ++ overflow := by
  have other : extentTreeV2Inode (listReplaced info inline overflow) = false := plain
  rw [extentEntries, other]
  rfl

theorem modifyEntry_list (inline overflow : List Extent) (index : Nat) (change : Extent → Extent) :
    modifyEntry (listReplaced info inline overflow) index change =
      if index < inline.length then listReplaced info (inline.modify index change) overflow
      else listReplaced info inline (overflow.modify (index - inline.length) change) := by
  have other : extentTreeV2Inode (listReplaced info inline overflow) = false := plain
  rw [modifyEntry, other]
  rfl

omit plain in
theorem removeInlineEntry_shows {shown : InodeInfo} {first rest : List Extent} {e : Extent}
    (shows : ListShows info shown (first ++ e :: rest)) :
    ListShows info (removeInlineEntry first.length shown) (first ++ rest) := by
  obtain ⟨inline, overflow, rfl, entries, few, full⟩ := shows
  unfold removeInlineEntry
  rcases list_split entries with ⟨later, rfl, rfl⟩ | ⟨early, rfl, rfl⟩
  · -- The gap in the slot is filled from the overflow block.
    have inside : first.length < (first ++ e :: later).length := by simp
    have erased : (first ++ e :: later).eraseIdx first.length = first ++ later :=
      ListAt.eraseIdx_at first later e
    simp only [listReplaced, inside, ↓reduceIte, erased]
    simp only [List.length_append, List.length_cons] at few full
    cases overflow with
    | nil =>
        refine ⟨first ++ later, [], rfl, by simp, ?_, absurd rfl⟩
        rw [List.length_append]
        omega
    | cons next behind =>
        have filled := full (by simp)
        refine ⟨first ++ later ++ [next], behind, rfl, by simp, ?_, fun _ => ?_⟩
        · simp only [List.length_append, List.length_singleton]
          omega
        · simp only [List.length_append, List.length_singleton]
          omega
  · have outside : ¬ (inline ++ early).length < inline.length := by simp
    have place : (inline ++ early).length - inline.length = early.length := by simp
    have erased : (early ++ e :: rest).eraseIdx early.length = early ++ rest :=
      ListAt.eraseIdx_at early rest e
    simp only [listReplaced, outside, ↓reduceIte, place, erased]
    exact ⟨inline, early ++ rest, rfl, by simp, few, fun _ => full (by simp)⟩

theorem modifyEntry_shows {shown : InodeInfo} {first rest : List Extent} {e : Extent}
    (shows : ListShows info shown (first ++ e :: rest)) (change : Extent → Extent) :
    ListShows info (modifyEntry shown first.length change) (first ++ change e :: rest) := by
  obtain ⟨inline, overflow, rfl, entries, few, full⟩ := shows
  rw [modifyEntry_list plain]
  rcases list_split entries with ⟨later, rfl, rfl⟩ | ⟨early, rfl, rfl⟩
  · rw [if_pos (by simp), ListAt.modify_at]
    exact ⟨_, overflow, rfl, by simp, by simpa using few, by simpa using full⟩
  · have place : (inline ++ early).length - inline.length = early.length := by simp
    rw [if_neg (by simp), place, ListAt.modify_at]
    exact ⟨inline, _, rfl, by simp, few, fun _ => full (by simp)⟩

theorem inlineView_shows : inlineView.Shows (ListShows info) := by
  constructor
  · intro shown extents shows
    obtain ⟨inline, overflow, rfl, entries, _⟩ := shows
    rw [← entries]
    exact extentEntries_list plain inline overflow
  · intro shown first e rest shows
    exact removeInlineEntry_shows shows
  · intro shown first e rest length shows
    exact modifyEntry_shows plain shows _

end View

section Truncate

variable (keepBlocks limit : Nat)

/-- A truncation that keeps something behind other extents keeps all of these. -/
theorem truncated_before {low : Nat} {first second : List Extent} (room : keepBlocks ≤ limit)
    (ordered : Ordered low (first ++ second)) {e : Extent} (member : e ∈ second)
    (kept : e.logicalStart < keepBlocks) : cutAll keepBlocks limit first = first := by
  have parts := (Extent.ordered_append low first second).mp ordered
  have start := (parts.2.bounds e member).1
  apply (Extent.cutAll_apart keepBlocks limit parts.1 room _).1
  intro other there
  have stop := (parts.1.bounds other there).2.2
  right
  omega

/-- Truncation leaves the overflow block empty when it takes all of what was in there. -/
theorem truncated_overflow {info shown : InodeInfo} (room : keepBlocks ≤ limit)
    (ordered : Ordered 0 (info.extents ++ info.overflowExtents))
    (bounded : ∀ e, e ∈ info.extents ++ info.overflowExtents → e.stop ≤ limit)
    (shows : ListShows info shown (cutAll keepBlocks limit (info.extents ++ info.overflowExtents))) :
    shown.overflowExtents = [] ↔ ∀ e, e ∈ info.overflowExtents → keepBlocks ≤ e.logicalStart := by
  obtain ⟨inline, overflow, rfl, entries, few, full⟩ := shows
  have split : cutAll keepBlocks limit (info.extents ++ info.overflowExtents) =
      cutAll keepBlocks limit info.extents ++ cutAll keepBlocks limit info.overflowExtents :=
    List.flatMap_append
  have total := congrArg List.length (entries.trans split)
  simp only [List.length_append] at total
  show overflow = [] ↔ _
  constructor
  · intro none e member
    by_contra low
    have whole := truncated_before keepBlocks limit room ordered member (by omega)
    have here : cut keepBlocks limit e ≠ [] := by
      rw [cut, Extent.front, if_pos (by omega)]
      simp
    have some : cutAll keepBlocks limit info.overflowExtents ≠ [] := by
      intro empty
      exact here (List.flatMap_eq_nil_iff.mp empty e member)
    have more := List.length_pos_iff.mpr some
    rw [whole, none, List.length_nil] at total
    omega
  · intro behind
    by_contra some
    have gone : cutAll keepBlocks limit info.overflowExtents = [] := by
      apply List.flatMap_eq_nil_iff.mpr
      intro e member
      exact (cut_above keepBlocks limit e (bounded e (List.mem_append_right _ member))
        (behind e member)).1
    have shorter := truncated_length keepBlocks limit info.extents fun e member =>
      bounded e (List.mem_append_left _ member)
    have more := List.length_pos_iff.mpr some
    rw [gone, List.length_nil] at total
    have filled := full some
    omega

end Truncate

/-- The overflow block that is given back when no extent is in there. -/
def emptiedOverflow (info : InodeInfo) : List Nat :=
  if info.overflowExtents = [] ∧ info.extentOverflowBlock ≠ 0 then [info.extentOverflowBlock]
  else []

/-- The inode without an overflow block that has no extent. -/
def overflowDropped (info : InodeInfo) : InodeInfo :=
  if info.overflowExtents = [] then { info with extentOverflowBlock := 0 } else info

theorem freeEmptyOverflow_run {s : MapState} (ready : Ready s.allocator)
    (valid : s.info.extentOverflowBlock ≠ 0 →
      Balloc.dataBlockValid s.allocator s.info.extentOverflowBlock = true) :
    Frees freeEmptyOverflow s (emptiedOverflow s.info) (overflowDropped s.info) := by
  unfold freeEmptyOverflow emptiedOverflow overflowDropped
  simp only [Frees.read_iff]
  by_cases empty : s.info.overflowExtents = []
  · by_cases absent : s.info.extentOverflowBlock = 0
    · have stays : { s.info with extentOverflowBlock := 0 } = s.info := by
        rw [← absent]
      rw [if_neg fun both => both.2 absent, if_neg fun both => both.2 absent, if_pos empty, stays]
      exact Frees.nothing ready
    · rw [if_pos ⟨empty, absent⟩, if_pos ⟨empty, absent⟩, if_pos empty]
      obtain ⟨allocator, ran, settled, freed⟩ := freeBlock_run ready _ (valid absent)
      refine ⟨allocator, ?_, settled, freed⟩
      rw [Routine.bind_ok _ _ _ _ _ ran]
      rfl
  · rw [if_neg fun both => empty both.1, if_neg fun both => empty both.1, if_neg empty]
    exact Frees.nothing ready

/-- Truncating a list of extents cuts it and gives an overflow block back that is not needed. -/
theorem freeBlocksFrom_list {s : MapState} (keepBlocks limit : Nat) (ready : Ready s.allocator)
    (extents : s.info.useExtents = true) (plain : extentTreeV2Inode s.info = false)
    (room : keepBlocks ≤ limit) (ordered : Ordered 0 (s.info.extents ++ s.info.overflowExtents))
    (bounded : ∀ e, e ∈ s.info.extents ++ s.info.overflowExtents → e.stop ≤ limit)
    (valid : AllValid s.allocator (stored (s.info.extents ++ s.info.overflowExtents)))
    (overflow : s.info.extentOverflowBlock ≠ 0 →
      Balloc.dataBlockValid s.allocator s.info.extentOverflowBlock = true) :
    ∃ shown, ListShows s.info shown
        (cutAll keepBlocks limit (s.info.extents ++ s.info.overflowExtents)) ∧
      Frees (freeBlocksFrom keepBlocks) s
        (removedAll keepBlocks limit (s.info.extents ++ s.info.overflowExtents) ++
          emptiedOverflow shown) (overflowDropped shown) := by
  have entries : extentEntries s.info = s.info.extents ++ s.info.overflowExtents :=
    extentEntries_list plain s.info.extents s.info.overflowExtents
  have start : ListShows s.info s.info (s.info.extents ++ s.info.overflowExtents) :=
    ⟨s.info.extents, s.info.overflowExtents, rfl, rfl, Nat.le_refl _, fun _ => rfl⟩
  have parts := Extent.stored_cutAll keepBlocks limit room
    (s.info.extents ++ s.info.overflowExtents)
  obtain ⟨shown, shows, ran⟩ := freeEntriesFrom_run keepBlocks limit room _ _
    (inlineView_shows plain) [] (s.info.extents ++ s.info.overflowExtents) s ready start ordered
    bounded fun block member => valid block (parts.mem_iff.mp (List.mem_append_right _ member))
  refine ⟨shown, shows, ?_⟩
  unfold freeBlocksFrom
  simp only [Frees.read_iff, extents, plain, entries, Bool.false_eq_true, ↓reduceIte]
  apply ran.bind
  intro allocator settled freed
  have same : shown.extentOverflowBlock = s.info.extentOverflowBlock := by
    obtain ⟨inline, overflow, rfl, _⟩ := shows
    rfl
  apply freeEmptyOverflow_run settled
  intro some
  rw [release_info, same] at some ⊢
  rw [release_allocator, freed.shape.dataBlockValid_eq]
  exact overflow some

end Inode

end Cryexts
