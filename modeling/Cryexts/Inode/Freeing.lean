import Cryexts.Balloc.Blocks
import Cryexts.Inode.Release

set_option autoImplicit false

namespace Cryexts

namespace Inode

open WriteLog (store)
open Balloc (Allocator Ready Freed Switched)

/-- The state with blocks given back and another inode. -/
def MapState.release (s : MapState) (allocator : Allocator) (blocks : List Nat)
    (info : InodeInfo) : MapState :=
  { s with allocator := allocator, released := s.released ++ blocks, info := info }

section Release

variable (s : MapState) (allocator : Allocator) (blocks : List Nat) (info : InodeInfo)

@[simp] theorem release_allocator : (s.release allocator blocks info).allocator = allocator := rfl

@[simp] theorem release_info : (s.release allocator blocks info).info = info := rfl

@[simp] theorem release_buffers : (s.release allocator blocks info).buffers = s.buffers := rfl

theorem release_release (later : Allocator) (more : List Nat) (final : InodeInfo) :
    (s.release allocator blocks info).release later more final =
      s.release later (blocks ++ more) final := by
  simp only [MapState.release, List.append_assoc]

theorem release_nothing : s.release s.allocator [] s.info = s := by
  simp only [MapState.release, List.append_nil]

end Release

/-- A run that does nothing but free `blocks`, each of them once and in this order, and leave the
inode as `info`. -/
def Frees (op : MapOp Unit) (s : MapState) (blocks : List Nat) (info : InodeInfo) : Prop :=
  ∃ allocator, op s = (.ok (), s.release allocator blocks info) ∧ Ready allocator ∧
    Freed s.allocator allocator blocks

/-- Blocks the file system has. -/
def AllValid (a : Allocator) (blocks : List Nat) : Prop :=
  ∀ block, block ∈ blocks → Balloc.dataBlockValid a block = true

theorem AllValid.freed {a after : Allocator} {freed blocks : List Nat} (valid : AllValid a blocks)
    (moved : Freed a after freed) : AllValid after blocks := by
  intro block member
  rw [moved.shape.dataBlockValid_eq]
  exact valid block member

theorem AllValid.left {a : Allocator} {first second : List Nat}
    (valid : AllValid a (first ++ second)) : AllValid a first :=
  fun block member => valid block (List.mem_append_left _ member)

theorem AllValid.right {a : Allocator} {first second : List Nat}
    (valid : AllValid a (first ++ second)) : AllValid a second :=
  fun block member => valid block (List.mem_append_right _ member)

section Runs

variable {s : MapState}

theorem Frees.nothing (ready : Ready s.allocator) : Frees (pure ()) s [] s.info :=
  ⟨s.allocator, by rw [release_nothing]; rfl, ready, Freed.refl s.allocator⟩

/-- Two runs in a row, where the second decides what the inode looks like. -/
theorem Frees.seq {op next : MapOp Unit} {blocks more : List Nat} {info : InodeInfo}
    {shows : InodeInfo → Prop} (start : Frees op s blocks info)
    (rest : ∀ allocator, Ready allocator → Freed s.allocator allocator blocks →
      ∃ final, shows final ∧ Frees next (s.release allocator blocks info) more final) :
    ∃ final, shows final ∧ Frees (op >>= fun _ => next) s (blocks ++ more) final := by
  obtain ⟨allocator, ran, ready, freed⟩ := start
  obtain ⟨final, shown, later, went, settled, given⟩ := rest allocator ready freed
  refine ⟨final, shown, later, ?_, settled, freed.trans given⟩
  rw [Routine.bind_ok _ _ _ _ _ ran, went, release_release]

theorem Frees.bind {op next : MapOp Unit} {blocks more : List Nat} {info final : InodeInfo}
    (start : Frees op s blocks info)
    (rest : ∀ allocator, Ready allocator → Freed s.allocator allocator blocks →
      Frees next (s.release allocator blocks info) more final) :
    Frees (op >>= fun _ => next) s (blocks ++ more) final := by
  have ends : ∃ shown, shown = final ∧
      Frees (op >>= fun _ => next) s (blocks ++ more) shown :=
    start.seq fun allocator ready freed => ⟨final, rfl, rest allocator ready freed⟩
  obtain ⟨_, rfl, went⟩ := ends
  exact went

theorem Frees.read_iff {next : MapState → MapOp Unit} {blocks : List Nat} {final : InodeInfo} :
    Frees (Routine.read >>= next) s blocks final ↔ Frees (next s) s blocks final := Iff.rfl

/-- A change of the inode in memory on the way. -/
theorem Frees.update (change : InodeInfo → InodeInfo) {next : MapOp Unit} {blocks : List Nat}
    {final : InodeInfo} (rest : Frees next { s with info := change s.info } blocks final) :
    Frees (updateInfo change >>= fun _ => next) s blocks final := rest

theorem freeBlock_run (ready : Ready s.allocator) (block : Nat)
    (valid : Balloc.dataBlockValid s.allocator block = true) : Frees (freeBlock block) s [block] s.info := by
  obtain ⟨allocator, ran, settled, switched⟩ := ready.freeBlock block valid
  refine ⟨allocator, ?_, settled, switched.freed⟩
  rw [freeBlock, ran]
  rfl

theorem freeAll_run (blocks : List Nat) (ready : Ready s.allocator)
    (valid : AllValid s.allocator blocks) : Frees (blocks.forM freeBlock) s blocks s.info := by
  induction blocks generalizing s with
  | nil => exact Frees.nothing ready
  | cons block rest ih =>
      apply Frees.bind (freeBlock_run ready block (valid block List.mem_cons_self))
      intro allocator settled freed
      exact ih settled (AllValid.freed (fun other member =>
        valid other (List.mem_cons_of_mem _ member)) freed)

theorem freeRun_run (physical count : Nat) (ready : Ready s.allocator)
    (valid : AllValid s.allocator (List.range' physical count)) :
    Frees (freeRun physical count) s (List.range' physical count) s.info :=
  freeAll_run _ ready valid

end Runs

/-! ### The loop of a truncation over entries -/

/-- What a loop needs to know of the list it works on: the inode shows the list, and an entry
removed or shortened in it is one removed or shortened in the list. -/
structure EntryView.Shows (view : EntryView) (shows : InodeInfo → List Extent → Prop) : Prop where
  entries : ∀ info extents, shows info extents → view.entries info = extents
  remove : ∀ info first e rest, shows info (first ++ e :: rest) →
    shows (view.remove first.length info) (first ++ rest)
  shorten : ∀ info first e rest length, shows info (first ++ e :: rest) →
    shows (view.shorten first.length length info) (first ++ { e with length := length } :: rest)

section Truncation

variable (keepBlocks limit : Nat)

theorem cut_above (e : Extent) (below : e.stop ≤ limit) (above : keepBlocks ≤ e.logicalStart) :
    Extent.cut keepBlocks limit e = [] ∧
      Extent.removed keepBlocks limit e = List.range' e.physicalStart e.length := by
  have size : e.stop = e.logicalStart + e.length := rfl
  constructor
  · rw [Extent.cut, Extent.front, Extent.back, if_neg (by omega), if_neg (by omega)]
    rfl
  · rw [Extent.removed]
    congr 1
    · omega
    · omega

theorem cut_across (e : Extent) (below : e.stop ≤ limit) (start : e.logicalStart < keepBlocks)
    (across : keepBlocks < e.stop) :
    Extent.cut keepBlocks limit e = [{ e with length := keepBlocks - e.logicalStart }] ∧
      Extent.removed keepBlocks limit e =
        List.range' (e.physicalStart + (keepBlocks - e.logicalStart))
          (e.length - (keepBlocks - e.logicalStart)) := by
  have size : e.stop = e.logicalStart + e.length := rfl
  constructor
  · rw [Extent.cut, Extent.front, Extent.back, if_pos start, if_neg (by omega),
      Nat.min_eq_left (by omega)]
    rfl
  · rw [Extent.removed]
    congr 1
    · omega
    · omega

theorem freeEntriesFrom_run (room : keepBlocks ≤ limit) (view : EntryView)
    (shows : InodeInfo → List Extent → Prop) (lawful : view.Shows shows) {low : Nat}
    (first rest : List Extent) (s : MapState) (ready : Ready s.allocator)
    (shown : shows s.info (first ++ rest)) (ordered : Extent.Ordered low rest)
    (bounded : ∀ e, e ∈ rest → e.stop ≤ limit)
    (valid : AllValid s.allocator (Extent.removedAll keepBlocks limit rest)) :
    ∃ info, shows info (first ++ Extent.cutAll keepBlocks limit rest) ∧
      Frees (freeEntriesFrom view keepBlocks rest.length first.length) s
        (Extent.removedAll keepBlocks limit rest) info := by
  induction rest generalizing first s low with
  | nil => exact ⟨s.info, shown, Frees.nothing ready⟩
  | cons e rest ih =>
      obtain ⟨_, size, tail⟩ := ordered
      have here := bounded e List.mem_cons_self
      have later := fun other member => bounded other (List.mem_cons_of_mem e member)
      have entry : (view.entries s.info)[first.length]? = some e := by
        rw [lawful.entries _ _ shown]
        simp
      rw [Extent.removedAll_cons] at valid
      rw [Extent.cutAll_cons, Extent.removedAll_cons, List.length_cons]
      by_cases below : e.stop ≤ keepBlocks
      · -- All of the extent is kept.
        rw [Extent.cut_apart _ _ _ room size (Or.inr below),
          Extent.removed_apart _ _ _ (Or.inr below)]
        have next := ih (first ++ [e]) s ready (by rw [List.append_assoc]; exact shown) tail later
          valid.right
        rw [List.length_append, List.length_singleton, List.append_assoc] at next
        unfold freeEntriesFrom
        simp only [Frees.read_iff, entry, below, ↓reduceIte]
        exact next
      · by_cases above : keepBlocks ≤ e.logicalStart
        · have parts := cut_above keepBlocks limit e here above
          rw [parts.1, parts.2]
          rw [parts.2] at valid
          have gone := lawful.remove s.info first e rest shown
          unfold freeEntriesFrom
          simp only [Frees.read_iff, entry, below, above, ↓reduceIte]
          apply Frees.seq (freeRun_run _ _ ready valid.left)
          intro allocator settled freed
          exact ih first (s.release allocator _ (view.remove first.length s.info)) settled gone tail
            later (valid.right.freed freed)
        · have parts := cut_across keepBlocks limit e here (by omega) (by omega)
          rw [parts.1, parts.2]
          rw [parts.2] at valid
          have cut := lawful.shorten s.info first e rest (keepBlocks - e.logicalStart) shown
          unfold freeEntriesFrom
          simp only [Frees.read_iff, entry, below, above, ↓reduceIte]
          apply Frees.seq (freeRun_run _ _ ready valid.left)
          intro allocator settled given
          have next (freed : List Nat) := ih
            (first ++ [{ e with length := keepBlocks - e.logicalStart }])
            (s.release allocator freed
              (view.shorten first.length (keepBlocks - e.logicalStart) s.info))
            settled (by rw [List.append_assoc]; exact cut) tail later (valid.right.freed given)
          simp only [List.length_append, List.length_singleton, List.append_assoc] at next
          exact next _

end Truncation

/-! ### One leaf among the others -/

section Leaf

variable (info : InodeInfo) (before after : List ExtentLeaf) (leaf : ExtentLeaf)

/-- The inode with other extents in one leaf. -/
def leafReplaced (extents : List Extent) : InodeInfo :=
  { info with extentLeaves := before ++ { leaf with extents := extents } :: after }

/-- The inode with these extents in one leaf, whatever its root references are. -/
def LeafShows (shown : InodeInfo) (extents : List Extent) : Prop :=
  ∃ refs, shown = { leafReplaced info before after leaf extents with extentRootRefs := refs }

variable {info before after leaf}

theorem leafExtents_at (leaves : info.extentLeaves = before ++ leaf :: after) :
    leafExtents info before.length = leaf.extents := by
  rw [leafExtents, leaves]
  simp

theorem leafBlock_at (leaves : info.extentLeaves = before ++ leaf :: after) :
    leafBlock info before.length = leaf.block := by
  rw [leafBlock, leaves]
  simp

theorem withLeafExtents_at (leaves : info.extentLeaves = before ++ leaf :: after)
    (extents : List Extent) :
    withLeafExtents info before.length extents = leafReplaced info before after leaf extents := by
  rw [withLeafExtents, leaves, ListAt.modify_at, leafReplaced]

theorem leafShows_start (leaves : info.extentLeaves = before ++ leaf :: after) :
    LeafShows info before after leaf info leaf.extents := by
  refine ⟨info.extentRootRefs, ?_⟩
  simp only [leafReplaced, ← leaves]

/-- A leaf shown with other extents shows them to every later change. -/
theorem LeafShows.with {shown : InodeInfo} {extents : List Extent}
    (shows : LeafShows info before after leaf shown extents) (more : List Extent) :
    leafExtents shown before.length = extents ∧
      LeafShows info before after leaf (withLeafExtents shown before.length more) more := by
  obtain ⟨refs, rfl⟩ := shows
  constructor
  · rw [leafExtents_at
      (show _ = before ++ ({ leaf with extents := extents } : ExtentLeaf) :: after from rfl)]
  · rw [withLeafExtents_at
      (show _ = before ++ ({ leaf with extents := extents } : ExtentLeaf) :: after from rfl)]
    exact ⟨refs, rfl⟩

theorem LeafShows.refresh {shown : InodeInfo} {extents : List Extent}
    (shows : LeafShows info before after leaf shown extents) :
    LeafShows info before after leaf (refreshExtentTreeV2Refs shown) extents := by
  obtain ⟨refs, rfl⟩ := shows
  exact ⟨_, rfl⟩

theorem leafView_shows :
    (leafView before.length).Shows (LeafShows info before after leaf) := by
  constructor
  · intro shown extents shows
    exact (shows.with []).1
  · intro shown first e rest shows
    have seen := (shows.with []).1
    have gone := (shows.with (first ++ rest)).2.refresh
    simp only [leafView, seen, ListAt.eraseIdx_at]
    exact gone
  · intro shown first e rest length shows
    have seen := (shows.with []).1
    simp only [leafView, seen, ListAt.modify_at]
    exact (shows.with _).2

end Leaf

theorem freeLeafFrom_run (keepBlocks limit : Nat) (room : keepBlocks ≤ limit) {low : Nat}
    {before after : List ExtentLeaf} {leaf : ExtentLeaf} {s : MapState} (ready : Ready s.allocator)
    (leaves : s.info.extentLeaves = before ++ leaf :: after)
    (ordered : Extent.Ordered low leaf.extents)
    (bounded : ∀ e, e ∈ leaf.extents → e.stop ≤ limit)
    (valid : AllValid s.allocator (Extent.removedAll keepBlocks limit leaf.extents)) :
    ∃ info, LeafShows s.info before after leaf info
        (Extent.cutAll keepBlocks limit leaf.extents) ∧
      Frees (freeLeafFrom keepBlocks before.length) s
        (Extent.removedAll keepBlocks limit leaf.extents) info := by
  have run := freeEntriesFrom_run keepBlocks limit room _ _ leafView_shows [] leaf.extents s ready
    (leafShows_start leaves) ordered bounded valid
  simp only [freeLeafFrom, Frees.read_iff, leafExtents_at leaves]
  exact run

/-! ### The loop over the leaves -/

/-- The leaves of a list that keep some of their extents. -/
def keptLeaves (kept : List Extent → List Extent) (leaves : List ExtentLeaf) : List ExtentLeaf :=
  (leaves.map fun leaf => { leaf with extents := kept leaf.extents }).filter
    fun leaf => decide (leaf.extents ≠ [])

/-- The blocks a loop over leaves frees: what it takes out of each leaf, then a leaf it has left
empty. -/
def sweptBlocks (kept : List Extent → List Extent) (given : List Extent → List Nat)
    (leaves : List ExtentLeaf) : List Nat :=
  leaves.flatMap fun leaf => given leaf.extents ++
    if kept leaf.extents = [] then [leaf.block] else []

/-- The inode with other leaves and the root references of these. -/
def withLeaves (info : InodeInfo) (leaves : List ExtentLeaf) : InodeInfo :=
  refreshExtentTreeV2Refs { info with extentLeaves := leaves }

theorem LeafShows.withLeaves {info shown : InodeInfo} {before after : List ExtentLeaf}
    {leaf : ExtentLeaf} {extents : List Extent}
    (shows : LeafShows info before after leaf shown extents) (leaves : List ExtentLeaf) :
    withLeaves shown leaves = withLeaves info leaves := by
  obtain ⟨refs, rfl⟩ := shows
  rfl

theorem dropExtentLeaf_at {info : InodeInfo} {before after : List ExtentLeaf} {leaf : ExtentLeaf}
    (leaves : info.extentLeaves = before ++ leaf :: after) :
    dropExtentLeaf info before.length = withLeaves info (before ++ after) := by
  rw [dropExtentLeaf, leaves, ListAt.eraseIdx_at, if_neg (by simp)]
  rfl

theorem sweepLeaves_run (sweep : Nat → MapOp Unit) (kept : List Extent → List Extent)
    (given : List Extent → List Nat) (good : ExtentLeaf → Prop)
    (serves : ∀ (before after : List ExtentLeaf) (leaf : ExtentLeaf) (s : MapState),
      Ready s.allocator → s.info.extentLeaves = before ++ leaf :: after → good leaf →
      AllValid s.allocator (given leaf.extents) →
      ∃ info, LeafShows s.info before after leaf info (kept leaf.extents) ∧
        Frees (sweep before.length) s (given leaf.extents) info)
    (before rest : List ExtentLeaf) (s : MapState) (ready : Ready s.allocator)
    (leaves : s.info.extentLeaves = before ++ rest) (fit : ∀ leaf, leaf ∈ rest → good leaf)
    (valid : AllValid s.allocator (sweptBlocks kept given rest)) :
    Frees (sweepLeaves sweep rest.length before.length) s (sweptBlocks kept given rest)
      (withLeaves s.info (before ++ keptLeaves kept rest)) := by
  induction rest generalizing before s with
  | nil =>
      have same : withLeaves s.info (before ++ keptLeaves kept []) =
          refreshExtentTreeV2Refs s.info := by
        rw [withLeaves, keptLeaves, List.map_nil, List.filter_nil, ← leaves]
      rw [same]
      refine ⟨s.allocator, ?_, ready, Freed.refl s.allocator⟩
      simp [sweepLeaves, updateInfo, MapState.release, sweptBlocks]
  | cons leaf rest ih =>
      have fits := fun other member => fit other (List.mem_cons_of_mem leaf member)
      have split : sweptBlocks kept given (leaf :: rest) = given leaf.extents ++
          ((if kept leaf.extents = [] then [leaf.block] else []) ++ sweptBlocks kept given rest) := by
        simp only [sweptBlocks, List.flatMap_cons, List.append_assoc]
      rw [split] at valid ⊢
      obtain ⟨info, shows, went⟩ :=
        serves before rest leaf s ready leaves (fit leaf List.mem_cons_self) valid.left
      have inside : info.extentLeaves =
          before ++ { leaf with extents := kept leaf.extents } :: rest := by
        obtain ⟨refs, rfl⟩ := shows
        rfl
      rw [List.length_cons, sweepLeaves]
      apply went.bind
      intro allocator settled freed
      have valid := valid.right.freed freed
      simp only [Frees.read_iff, release_info, leafExtents_at inside, leafBlock_at inside]
      by_cases emptied : kept leaf.extents = []
      · -- The leaf is freed and dropped, and the next one moves into its place.
        have dropped : keptLeaves kept (leaf :: rest) = keptLeaves kept rest := by
          simp [keptLeaves, emptied]
        rw [if_pos emptied] at valid ⊢
        have positive := Balloc.valid_positive (valid.left leaf.block List.mem_cons_self)
        simp only [emptied, ↓reduceIte, ne_eq, Nat.pos_iff_ne_zero.mp positive, not_false_eq_true]
        apply (freeBlock_run settled leaf.block (valid.left leaf.block List.mem_cons_self)).bind
        intro later ready returned
        apply Frees.update
        have next := ih before ((s.release allocator (given leaf.extents) info).release later
          [leaf.block] (dropExtentLeaf info before.length)) ready
          (by rw [release_info, dropExtentLeaf_at inside]; rfl) fits (valid.right.freed returned)
        rw [release_info, dropExtentLeaf_at inside] at next
        rw [dropped, ← shows.withLeaves]
        simp only [release_info, dropExtentLeaf_at inside]
        exact next
      · have stays : keptLeaves kept (leaf :: rest) =
            { leaf with extents := kept leaf.extents } :: keptLeaves kept rest := by
          simp [keptLeaves, emptied]
        rw [if_neg emptied] at valid ⊢
        simp only [emptied, ↓reduceIte, List.nil_append] at valid ⊢
        have next := ih (before ++ [{ leaf with extents := kept leaf.extents }])
          (s.release allocator (given leaf.extents) info) settled
          (by rw [release_info, inside, List.append_assoc]; rfl) fits valid
        rw [List.length_append, List.length_singleton, release_info, shows.withLeaves,
          List.append_assoc] at next
        rw [stays]
        exact next

end Inode

end Cryexts
