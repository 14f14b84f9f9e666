import Cryexts.Inode.Mapping

set_option autoImplicit false

namespace Cryexts

namespace Inode

open Balloc (Allocator)
open Routine (Moves)
open WriteLog (store)

/-- `count` blocks freed one by one. -/
def freeRun (physical count : Nat) : MapOp Unit := (List.range' physical count).forM freeBlock

/-- A list of extents as a loop of `cryexts_free_blocks_from` sees and changes it. -/
structure EntryView where
  entries : InodeInfo → List Extent
  remove : Nat → InodeInfo → InodeInfo
  shorten : Nat → Nat → InodeInfo → InodeInfo

/-- The entries of one leaf. -/
def leafView (leafIndex : Nat) : EntryView where
  entries info := leafExtents info leafIndex
  remove index info := refreshExtentTreeV2Refs
    (withLeafExtents info leafIndex ((leafExtents info leafIndex).eraseIdx index))
  shorten index length info := withLeafExtents info leafIndex
    ((leafExtents info leafIndex).modify index fun e => { e with length := length })

/-- An entry of the inline area or of the overflow block removed. A gap in the inline area is
filled from the overflow block. -/
def removeInlineEntry (index : Nat) (info : InodeInfo) : InodeInfo :=
  if index < info.extents.length then
    match info.overflowExtents with
    | [] => { info with extents := info.extents.eraseIdx index }
    | first :: later =>
        { info with extents := info.extents.eraseIdx index ++ [first], overflowExtents := later }
  else { info with
    overflowExtents := info.overflowExtents.eraseIdx (index - info.extents.length) }

/-- The inline entries and those of the overflow block. -/
def inlineView : EntryView where
  entries := extentEntries
  remove := removeInlineEntry
  shorten index length info := modifyEntry info index fun e => { e with length := length }

/-- The loops of `cryexts_free_blocks_from` over extents, from `index` on with `count` to go. -/
def freeEntriesFrom (view : EntryView) (keepBlocks : Nat) : Nat → Nat → MapOp Unit
  | 0, _ => pure ()
  | count + 1, index => do
      let s ← Routine.read
      match (view.entries s.info)[index]? with
      | none => Routine.fail .euclean
      | some e =>
          if e.stop ≤ keepBlocks then freeEntriesFrom view keepBlocks count (index + 1)
          else if keepBlocks ≤ e.logicalStart then do
            freeRun e.physicalStart e.length
            updateInfo (view.remove index)
            freeEntriesFrom view keepBlocks count index
          else do
            let newLen := keepBlocks - e.logicalStart
            freeRun (e.physicalStart + newLen) (e.length - newLen)
            updateInfo (view.shorten index newLen)
            freeEntriesFrom view keepBlocks count (index + 1)

/-- The block of one leaf. -/
def leafBlock (info : InodeInfo) (leafIndex : Nat) : Nat :=
  ((info.extentLeaves[leafIndex]?).map ExtentLeaf.block).getD 0

/-- The loop over the leaves, `count` of them to go, that truncation and punching share: a leaf
left without entries is freed and dropped. -/
def sweepLeaves (sweep : Nat → MapOp Unit) : Nat → Nat → MapOp Unit
  | 0, _ => updateInfo refreshExtentTreeV2Refs
  | count + 1, leafIndex => do
      sweep leafIndex
      let s ← Routine.read
      if leafExtents s.info leafIndex = [] then do
        if leafBlock s.info leafIndex ≠ 0 then freeBlock (leafBlock s.info leafIndex)
        updateInfo fun info => dropExtentLeaf info leafIndex
        sweepLeaves sweep count leafIndex
      else sweepLeaves sweep count (leafIndex + 1)

def freeLeafFrom (keepBlocks leafIndex : Nat) : MapOp Unit := do
  let s ← Routine.read
  freeEntriesFrom (leafView leafIndex) keepBlocks (leafExtents s.info leafIndex).length 0

def freeEmptyOverflow : MapOp Unit := do
  let s ← Routine.read
  if s.info.overflowExtents = [] ∧ s.info.extentOverflowBlock ≠ 0 then do
    freeBlock s.info.extentOverflowBlock
    updateInfo fun info => { info with extentOverflowBlock := 0 }
  else pure ()

def freeDirIndex (keepBlocks : Nat) : MapOp Unit := do
  let s ← Routine.read
  if sIsDir s.mode = true ∧ s.info.inodeFlags &&& INODE_FLAG_DIR_INDEX ≠ 0 ∧
      s.info.dirIndexBlock ≠ 0 ∧ keepBlocks = 0 then do
    freeBlock s.info.dirIndexBlock
    updateInfo fun info => { info with dirIndexBlock := 0 }
  else pure ()

def freeDirect (index : Nat) : MapOp Unit := do
  let s ← Routine.read
  if s.info.direct index = 0 then pure ()
  else do
    freeBlock (s.info.direct index)
    updateInfo fun info => { info with direct := store info.direct index 0 }

/-- The loop over the entries of the indirect block. The result says whether it is empty. -/
def freeIndirectFrom (keepBlocks : Nat) : List Nat → Bool → MapOp Bool
  | [], indirectEmpty => return indirectEmpty
  | index :: rest, indirectEmpty => do
      let s ← Routine.read
      let dataBlock := (s.buffers s.info.indirectBlock).get (indirectEntry index)
      if dataBlock = 0 then freeIndirectFrom keepBlocks rest indirectEmpty
      else if keepBlocks ≤ DIRECT_BLOCKS + index then do
        freeBlock dataBlock
        setIndirectEntry index 0
        freeIndirectFrom keepBlocks rest indirectEmpty
      else freeIndirectFrom keepBlocks rest false

def freeIndirect (keepBlocks : Nat) : MapOp Unit := do
  let s ← Routine.read
  if s.info.indirectBlock = 0 then pure ()
  else do
    attempt .eio
    let indirectEmpty ← freeIndirectFrom keepBlocks (List.range INDIRECT_BLOCKS) true
    if indirectEmpty then do
      freeBlock s.info.indirectBlock
      updateInfo fun info => { info with indirectBlock := 0 }
    else pure ()

def freeBlocksFrom (keepBlocks : Nat) : MapOp Unit := do
  let s ← Routine.read
  if s.info.useExtents then
    if extentTreeV2Inode s.info then
      sweepLeaves (freeLeafFrom keepBlocks) s.info.extentLeaves.length 0
    else do
      freeEntriesFrom inlineView keepBlocks (extentEntries s.info).length 0
      freeEmptyOverflow
  else do
    freeDirIndex keepBlocks
    -- The loop's counter is a `u32`.
    (List.range' (u32 keepBlocks) (DIRECT_BLOCKS - u32 keepBlocks)).forM freeDirect
    freeIndirect keepBlocks

/-- One entry of a leaf replaced. -/
def setLeafEntry (leafIndex index : Nat) (e : Extent) : MapOp Unit :=
  updateInfo fun info => withLeafExtents info leafIndex ((leafExtents info leafIndex).set index e)

/-- The loop of `cryexts_punch_hole_blocks` over one leaf, from `index` on with `count` entries
to go. -/
def punchEntries (firstBlock endBlock leafIndex : Nat) : Nat → Nat → MapOp Unit
  | 0, _ => pure ()
  | count + 1, index => do
      let s ← Routine.read
      match (leafExtents s.info leafIndex)[index]? with
      | none => Routine.fail .euclean
      | some e =>
          if endBlock ≤ e.logicalStart then pure ()
          else if e.stop ≤ firstBlock then
            punchEntries firstBlock endBlock leafIndex count (index + 1)
          else
            let punchStart := max firstBlock e.logicalStart
            let punchEnd := min endBlock e.stop
            let freeStart := punchStart - e.logicalStart
            let freeLen := punchEnd - punchStart
            if e.logicalStart < punchStart ∧ punchEnd < e.stop then
              if EXTENTS_PER_BLOCK ≤ (leafExtents s.info leafIndex).length then
                Routine.fail .enospc
              else do
                insertExtentAfterV2 leafIndex index
                  ⟨punchEnd, e.physicalStart + freeStart + freeLen, e.stop - punchEnd, 0⟩
                setLeafEntry leafIndex index { e with length := punchStart - e.logicalStart }
                freeRun (e.physicalStart + freeStart) freeLen
                punchEntries firstBlock endBlock leafIndex count (index + 2)
            else do
              freeRun (e.physicalStart + freeStart) freeLen
              if punchStart = e.logicalStart ∧ punchEnd = e.stop then do
                updateInfo fun info => withLeafExtents info leafIndex
                  ((leafExtents info leafIndex).eraseIdx index)
                punchEntries firstBlock endBlock leafIndex count index
              else if punchStart = e.logicalStart then do
                setLeafEntry leafIndex index { e with
                  logicalStart := punchEnd
                  physicalStart := e.physicalStart + freeStart + freeLen
                  length := e.stop - punchEnd }
                punchEntries firstBlock endBlock leafIndex count (index + 1)
              else do
                setLeafEntry leafIndex index { e with length := punchStart - e.logicalStart }
                punchEntries firstBlock endBlock leafIndex count (index + 1)

def punchLeaf (firstBlock endBlock leafIndex : Nat) : MapOp Unit := do
  let s ← Routine.read
  punchEntries firstBlock endBlock leafIndex (leafExtents s.info leafIndex).length 0

def punchHoleBlocks (firstBlock endBlock : Nat) : MapOp Unit := do
  let s ← Routine.read
  if s.info.useExtents = false ∨ extentTreeV2Inode s.info = false then Routine.fail .eopnotsupp
  else if endBlock ≤ firstBlock then pure ()
  else sweepLeaves (punchLeaf firstBlock endBlock) s.info.extentLeaves.length 0

/-! ### What freed blocks change -/

/-- The allocators of two inodes' states are related. -/
def AllocatorMoves (related : Allocator → Allocator → Prop) (s t : MapState) : Prop :=
  related s.allocator t.allocator

instance (related : Allocator → Allocator → Prop) [IsPreorder Allocator related] :
    IsPreorder MapState (AllocatorMoves related) where
  refl s := Std.Refl.refl s.allocator
  trans _ _ _ first second := Trans.trans (r := related) (s := related) first second

section Frame

variable {related : Allocator → Allocator → Prop} [IsPreorder Allocator related]
  (frees : ∀ block, Moves related (Balloc.freeBlock block))

theorem updateInfo_moves (change : InodeInfo → InodeInfo) :
    Moves (AllocatorMoves related) (updateInfo change) := fun s => Std.Refl.refl s.allocator

theorem setIndirectEntry_moves (index block : Nat) :
    Moves (AllocatorMoves related) (setIndirectEntry index block) :=
  fun s => Std.Refl.refl s.allocator

theorem attempt_moves (reason : Errno) : Moves (AllocatorMoves related) (attempt reason) := by
  intro s
  unfold attempt
  split
  · exact Std.Refl.refl s.allocator
  · exact Std.Refl.refl s.allocator
  · exact Std.Refl.refl s.allocator

include frees

omit [IsPreorder Allocator related] in
theorem freeBlock_moves (block : Nat) : Moves (AllocatorMoves related) (freeBlock block) :=
  fun s => frees block s.allocator

theorem freeRun_moves (physical count : Nat) :
    Moves (AllocatorMoves related) (freeRun physical count) :=
  Moves.forM fun block _ => freeBlock_moves frees block

theorem freeEntriesFrom_moves (view : EntryView) (keepBlocks count index : Nat) :
    Moves (AllocatorMoves related) (freeEntriesFrom view keepBlocks count index) := by
  induction count generalizing index with
  | zero => exact Moves.pure ()
  | succ count ih =>
      unfold freeEntriesFrom
      refine Moves.bind Moves.read fun s => ?_
      cases (view.entries s.info)[index]? with
      | none => exact Moves.fail _
      | some e =>
          simp only
          split
          · exact ih (index + 1)
          · split
            · apply Moves.bind (freeRun_moves frees _ _)
              intro _
              apply Moves.bind (updateInfo_moves _)
              intro _
              exact ih index
            · apply Moves.bind (freeRun_moves frees _ _)
              intro _
              apply Moves.bind (updateInfo_moves _)
              intro _
              exact ih (index + 1)

theorem sweepLeaves_moves {sweep : Nat → MapOp Unit}
    (sweeps : ∀ leafIndex, Moves (AllocatorMoves related) (sweep leafIndex))
    (count leafIndex : Nat) : Moves (AllocatorMoves related) (sweepLeaves sweep count leafIndex) := by
  induction count generalizing leafIndex with
  | zero => exact updateInfo_moves _
  | succ count ih =>
      unfold sweepLeaves
      apply Moves.bind (sweeps leafIndex)
      intro _
      refine Moves.bind Moves.read fun s => ?_
      split
      · have dropped : Moves (AllocatorMoves related) (do
            updateInfo fun info => dropExtentLeaf info leafIndex
            sweepLeaves sweep count leafIndex) :=
          Moves.bind (updateInfo_moves _) fun _ => ih leafIndex
        simp only
        split
        · exact Moves.bind (freeBlock_moves frees _) fun _ => dropped
        · exact dropped
      · exact ih (leafIndex + 1)

theorem freeIndirectFrom_moves (keepBlocks : Nat) (indices : List Nat) (indirectEmpty : Bool) :
    Moves (AllocatorMoves related) (freeIndirectFrom keepBlocks indices indirectEmpty) := by
  induction indices generalizing indirectEmpty with
  | nil => exact Moves.pure indirectEmpty
  | cons index rest ih =>
      unfold freeIndirectFrom
      refine Moves.bind Moves.read fun s => ?_
      simp only
      split
      · exact ih indirectEmpty
      · split
        · apply Moves.bind (freeBlock_moves frees _)
          intro _
          apply Moves.bind (setIndirectEntry_moves _ _)
          intro _
          exact ih indirectEmpty
        · exact ih false

theorem freeIndirect_moves (keepBlocks : Nat) :
    Moves (AllocatorMoves related) (freeIndirect keepBlocks) := by
  refine Moves.bind Moves.read fun s => ?_
  split
  · exact Moves.pure ()
  · apply Moves.bind (attempt_moves _)
    intro _
    apply Moves.bind (freeIndirectFrom_moves frees keepBlocks _ true)
    intro indirectEmpty
    split
    · exact Moves.bind (freeBlock_moves frees _) fun _ => updateInfo_moves _
    · exact Moves.pure ()

/-- `cryexts_free_blocks_from` does to the allocator what freed blocks do, wherever it stops. -/
theorem freeBlocksFrom_moves (keepBlocks : Nat) :
    Moves (AllocatorMoves related) (freeBlocksFrom keepBlocks) := by
  refine Moves.bind Moves.read fun s => ?_
  split
  · split
    · apply sweepLeaves_moves frees
      intro leafIndex
      exact Moves.bind Moves.read fun s => freeEntriesFrom_moves frees _ _ _ _
    · apply Moves.bind (freeEntriesFrom_moves frees _ _ _ _)
      intro _
      refine Moves.bind Moves.read fun s => ?_
      split
      · exact Moves.bind (freeBlock_moves frees _) fun _ => updateInfo_moves _
      · exact Moves.pure ()
  · apply Moves.bind
    · refine Moves.bind Moves.read fun s => ?_
      split
      · exact Moves.bind (freeBlock_moves frees _) fun _ => updateInfo_moves _
      · exact Moves.pure ()
    · intro _
      apply Moves.bind
      · apply Moves.forM
        intro index _
        refine Moves.bind Moves.read fun s => ?_
        split
        · exact Moves.pure ()
        · exact Moves.bind (freeBlock_moves frees _) fun _ => updateInfo_moves _
      · intro _
        exact freeIndirect_moves frees keepBlocks

end Frame

end Inode

end Cryexts
