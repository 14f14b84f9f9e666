import Cryexts.Inode.PunchExact
import Cryexts.Inode.TreeCreate

set_option autoImplicit false

namespace Cryexts

namespace Inode

open Balloc (Allocator Ready Freed Full blockBitmapUsed)
open Extent (stored lookup Ordered reach cutAll removedAll)

/-- What changes the mapping of an inode. -/
inductive MapRequest
  | resolve (logical : Nat) (create : Bool)
  | freeFrom (keepBlocks : Nat)
  | punch (firstBlock endBlock : Nat)

def MapRequest.run : MapRequest → MapState → MapState
  | resolve logical create, s => (resolveBlock logical create s).2
  | freeFrom keepBlocks, s => (freeBlocksFrom keepBlocks s).2
  | punch firstBlock endBlock, s => (punchHoleBlocks firstBlock endBlock s).2

/-- What other work does meanwhile: it takes and frees blocks that are not this inode's, and it
writes buffers. What I/O and memory have in store for the coming calls may change as well. -/
structure Elsewhere (s after : MapState) : Prop where
  ready : Ready after.allocator
  used : ∀ block, block ∈ occupied s.info → blockBitmapUsed after.allocator block = true
  info : after.info = s.info

/-- The states an inode comes to by calls that map and unmap its blocks, in any order. -/
inductive MapRun (start : MapState) : MapState → Prop
  | start : MapRun start start
  | request {s : MapState} (before : MapRun start s) (request : MapRequest) :
      MapRun start (request.run s)
  | elsewhere {s after : MapState} (before : MapRun start s) (other : Elsewhere s after) :
      MapRun start after

/-- A file with an extent tree that has no leaf yet, as `cryexts_new_inode` leaves it. -/
structure EmptyTree (info : InodeInfo) : Prop where
  extents : info.useExtents = true
  flagged : extentTreeV2Inode info = true
  leaves : info.extentLeaves = []
  refs : info.extentRootRefs = List.replicate EXTENT_TREE_ROOT_REFS ExtentRootRef.zero

theorem tree_nil : Tree [] where
  few := by decide
  filled := by simp
  roomy := by simp
  ordered := trivial
  short := by simp
  inside := by simp

theorem EmptyTree.shape {info : InodeInfo} (empty : EmptyTree info) : TreeShape info where
  extents := empty.extents
  flagged := empty.flagged
  tree := by
    rw [empty.leaves]
    exact tree_nil
  refs := by
    rw [empty.refs, empty.leaves]
    rfl

theorem EmptyTree.owned {s : MapState} (empty : EmptyTree s.info) (ready : Ready s.allocator) :
    TreeOwned s where
  ready := ready
  shape := empty.shape
  distinct := by
    rw [occupied, empty.leaves]
    exact List.nodup_nil
  used block member := by
    rw [occupied, empty.leaves] at member
    cases member

section Steps

variable {s : MapState} (owned : TreeOwned s)

include owned

theorem TreeOwned.faults (faults : List Bool) : TreeOwned { s with faults := faults } :=
  ⟨owned.ready, owned.shape, owned.distinct, owned.used⟩

theorem TreeOwned.elsewhere {after : MapState} (other : Elsewhere s after) : TreeOwned after where
  ready := other.ready
  shape := by
    rw [other.info]
    exact owned.shape
  distinct := by
    rw [other.info]
    exact owned.distinct
  used block member := by
    rw [other.info] at member
    exact other.used block member

theorem TreeOwned.resolve (logical : Nat) (create : Bool) :
    TreeOwned (resolveBlock logical create s).2 := by
  by_cases beyond : extentFileBlocksMax s.info ≤ logical
  · rw [resolveBlock_beyond owned.shape logical create beyond]
    exact owned
  · cases mapped : lookup (extentEntries s.info) logical with
    | some block =>
        rw [resolveBlock_mapped owned.shape logical create block mapped]
        exact owned
    | none =>
        cases create with
        | false =>
            rw [resolveBlock_hole owned.shape logical (Nat.lt_of_not_le beyond) mapped]
            exact owned
        | true =>
            rcases resolveBlock_create owned.shape logical owned.ready (Nat.lt_of_not_le beyond)
              mapped with ⟨late, block, more, ran, created, _⟩ | ⟨late, reason, ran, same, _⟩
            · rw [ran]
              exact created.owned owned
            · rw [ran]
              exact owned.unchanged same

theorem TreeOwned.freeFrom (keepBlocks : Nat) : TreeOwned (freeBlocksFrom keepBlocks s).2 := by
  obtain ⟨allocator, ran, ready, freed⟩ :=
    freeBlocksFrom_tree keepBlocks owned.ready owned.shape owned.valid
  rw [ran]
  exact owned.released ready freed
    (owned.shape.withLeaves (owned.shape.tree.truncated keepBlocks))
    (occupied_cut keepBlocks (beyond keepBlocks) (keep_le_beyond keepBlocks) s.info)

theorem TreeOwned.punch (first last : Nat) : TreeOwned (punchHoleBlocks first last s).2 := by
  by_cases range : first < last
  · rcases punchHoleBlocks_tree first last range owned.ready owned.shape owned.valid with
      ⟨faults, allocator, ran, ready, freed, tree⟩ | ⟨ran, _⟩ | ⟨ran, _⟩
    · rw [ran]
      exact (owned.faults faults).released ready freed (owned.shape.withLeaves tree)
        (occupied_cut first last (Nat.le_of_lt range) s.info)
    · rw [ran]
      exact owned
    · rw [ran]
      exact owned.faults s.faults.tail
  · rw [punchHoleBlocks_empty owned.shape (Nat.le_of_not_lt range)]
    exact owned

end Steps

/-- Whatever has been mapped, truncated and punched, and whatever has failed, the inode owns its
tree. -/
theorem MapRun.owned {start s : MapState} (empty : EmptyTree start.info)
    (ready : Ready start.allocator) (run : MapRun start s) : TreeOwned s := by
  induction run with
  | start => exact empty.owned ready
  | request before request ih =>
      cases request with
      | resolve logical create => exact ih.resolve logical create
      | freeFrom keepBlocks => exact ih.freeFrom keepBlocks
      | punch first last => exact ih.punch first last
  | elsewhere before other ih => exact ih.elsewhere other

/-! ### What a tree maps -/

/-- The extents of the leaves are in order and apart, each of a length the format allows and inside
the largest file; the root references are those of at most four leaves, none of them empty or
overfull; no block is mapped twice or is a leaf as well, and all are marked used. -/
structure SoundMapping (s : MapState) : Prop where
  sorted : (leafEntries s.info.extentLeaves).Pairwise fun first second =>
    first.stop ≤ second.logicalStart
  lengths : ∀ e, e ∈ leafEntries s.info.extentLeaves → 1 ≤ e.length ∧ e.length ≤ MAX_EXTENT_BLOCKS
  inside : ∀ e, e ∈ leafEntries s.info.extentLeaves → e.stop ≤ EXTENT_TREE_V2_FILE_BLOCKS_MAX
  leaves : s.info.extentLeaves.length ≤ EXTENT_TREE_ROOT_REFS
  filled : ∀ leaf, leaf ∈ s.info.extentLeaves →
    1 ≤ leaf.extents.length ∧ leaf.extents.length ≤ EXTENTS_PER_BLOCK
  refs : s.info.extentRootRefs = rootRefs s.info.extentLeaves
  once : (stored (leafEntries s.info.extentLeaves)).Nodup
  apart : (occupied s.info).Nodup
  used : ∀ block, block ∈ occupied s.info → blockBitmapUsed s.allocator block = true

theorem TreeOwned.sound {s : MapState} (owned : TreeOwned s) : SoundMapping s where
  sorted := owned.shape.tree.ordered.pairwise
  lengths e member :=
    ⟨(owned.shape.tree.ordered.bounds e member).2.1, owned.shape.tree.short e member⟩
  inside := owned.shape.tree.inside
  leaves := owned.shape.tree.few
  filled leaf member :=
    ⟨List.length_pos_iff.mpr (owned.shape.tree.filled leaf member),
      owned.shape.tree.roomy leaf member⟩
  refs := owned.shape.refs
  once := (List.nodup_append.mp owned.distinct).1
  apart := owned.distinct
  used := owned.used

/-- One new binding, to a block that was free and now is used and full of zeros. At most one more
block is taken, for a leaf; every block used before keeps its content. -/
structure Bound (s late : MapState) (logical block : Nat) (more : List Nat) : Prop where
  map : ∀ other, lookup (extentEntries late.info) other =
    if other = logical then some block else lookup (extentEntries s.info) other
  free : ∀ taken, taken ∈ block :: more → blockBitmapUsed s.allocator taken = false
  used : ∀ other, blockBitmapUsed late.allocator other =
    (blockBitmapUsed s.allocator other || decide (other ∈ block :: more))
  zeroed : late.buffers block = ByteBuf.zero BLOCK_SIZE
  leaves : late.info.extentLeaves.map ExtentLeaf.block =
    s.info.extentLeaves.map ExtentLeaf.block ++ more
  one : more.length ≤ 1
  buffers : ∀ other, blockBitmapUsed s.allocator other = true →
    late.buffers other = s.buffers other

theorem Created.bound {s late : MapState} {logical block : Nat} {more : List Nat}
    (created : Created s late logical block more) (shape : TreeShape s.info) :
    Bound s late logical block more where
  map other := by
    rw [created.shape.entries, shape.entries]
    exact created.inserted.map other
  free := created.granted.free
  used := created.granted.used
  zeroed := created.granted.zeroed block List.mem_cons_self
  leaves := created.inserted.blocks
  one := created.leaf
  buffers := created.granted.buffers

/-- How `cryexts_resolve_block` is answered in a state. -/
structure Resolves (s : MapState) : Prop where
  mapped : ∀ logical create block, lookup (extentEntries s.info) logical = some block →
    resolveBlock logical create s = (.ok block, s)
  hole : ∀ logical, logical < extentFileBlocksMax s.info →
    lookup (extentEntries s.info) logical = none → resolveBlock logical false s = (.ok 0, s)
  create : ∀ logical block late, lookup (extentEntries s.info) logical = none →
    resolveBlock logical true s = (.ok block, late) → ∃ more, Bound s late logical block more
  error : ∀ logical create reason late, resolveBlock logical create s = (.error reason, late) →
    (∀ other, lookup (extentEntries late.info) other = lookup (extentEntries s.info) other) ∧
      ∀ block, blockBitmapUsed late.allocator block = blockBitmapUsed s.allocator block

theorem TreeOwned.resolves {s : MapState} (owned : TreeOwned s) : Resolves s where
  mapped logical create block mapped := resolveBlock_mapped owned.shape logical create block mapped
  hole logical below unmapped := resolveBlock_hole owned.shape logical below unmapped
  create logical block late unmapped result := by
    by_cases beyond : extentFileBlocksMax s.info ≤ logical
    · rw [resolveBlock_beyond owned.shape logical true beyond] at result
      cases congrArg Prod.fst result
    · rcases resolveBlock_create owned.shape logical owned.ready (Nat.lt_of_not_le beyond)
        unmapped with ⟨after, other, more, ran, created, _⟩ | ⟨after, reason, ran, _⟩
      · rw [ran] at result
        obtain rfl := Except.ok.inj (congrArg Prod.fst result)
        obtain rfl := congrArg Prod.snd result
        exact ⟨more, created.bound owned.shape⟩
      · rw [ran] at result
        cases congrArg Prod.fst result
  error logical create reason late result := by
    have untouched (outcome : Except Errno Nat) (ran : resolveBlock logical create s = (outcome, s)) :
        late = s := by
      rw [ran] at result
      exact (congrArg Prod.snd result).symm
    by_cases beyond : extentFileBlocksMax s.info ≤ logical
    · rw [untouched _ (resolveBlock_beyond owned.shape logical create beyond)]
      simp
    · cases mapped : lookup (extentEntries s.info) logical with
      | some block =>
          rw [untouched _ (resolveBlock_mapped owned.shape logical create block mapped)]
          simp
      | none =>
          cases create with
          | false =>
              rw [untouched _ (resolveBlock_hole owned.shape logical (Nat.lt_of_not_le beyond)
                mapped)]
              simp
          | true =>
              rcases resolveBlock_create owned.shape logical owned.ready (Nat.lt_of_not_le beyond)
                mapped with ⟨after, block, more, ran, _⟩ | ⟨after, other, ran, same, _⟩
              · rw [ran] at result
                cases congrArg Prod.fst result
              · rw [ran] at result
                obtain rfl := congrArg Prod.snd result
                constructor
                · intro logical
                  rw [same.info.entries]
                · exact same.used

/-- From an empty file on, whatever is mapped, truncated and punched, the extent tree stays sound
and every call that resolves a block is answered as the map says. -/
theorem extentTree_refinement (start s : MapState) (empty : EmptyTree start.info)
    (ready : Ready start.allocator) (run : MapRun start s) : SoundMapping s ∧ Resolves s := by
  have owned := run.owned empty ready
  exact ⟨owned.sound, owned.resolves⟩

/-- A new file on an empty file system. -/
def emptyFile : MapState where
  allocator := Balloc.emptyAllocator
  buffers := fun _ => ByteBuf.zero BLOCK_SIZE
  faults := []
  released := []
  mode := 0x8000
  info := { twoLeafFile with
    extentLeaves := []
    extentRootRefs := List.replicate EXTENT_TREE_ROOT_REFS ExtentRootRef.zero }

theorem emptyFile_empty : EmptyTree emptyFile.info := ⟨rfl, by decide, rfl, rfl⟩

theorem emptyFile_ready : Ready emptyFile.allocator := Or.inr Balloc.emptyAllocator_flat

theorem extentTree_refinement_emptyFile :
    SoundMapping ((MapRequest.punch 4 5).run ((MapRequest.resolve 7 true).run emptyFile)) ∧
      Resolves ((MapRequest.punch 4 5).run ((MapRequest.resolve 7 true).run emptyFile)) :=
  extentTree_refinement emptyFile _ emptyFile_empty emptyFile_ready
    ((MapRun.start.request (.resolve 7 true)).request (.punch 4 5))

end Inode

end Cryexts
