import Cryexts.Dir.Ops

set_option autoImplicit false

namespace Cryexts

namespace Dir

/-- Blocks every walk gets through, few enough for one mask, in which every used record has a
name. -/
structure Wellformed (sb : DirSuper) (blocks : List (List DirEntry)) : Prop where
  valid : ∀ records, records ∈ blocks → ValidBlock sb.maxInodes records
  few : blocks.length ≤ DIRECT_BLOCKS
  named : ∀ records, records ∈ blocks → ∀ de, de ∈ records → de.inode ≠ 0 → de.name ≠ []

/-- The index lets every live entry be found. -/
def Covered (sb : DirSuper) (blocks : List (List DirEntry)) (index : IndexBuf) : Prop :=
  ∀ logical records entry, blocks[logical]? = some records → entry ∈ records →
    entry.live = true → maskBit index (bucketOf sb entry.name) logical = true

/-- What `cryexts_dir_index_load` returns when the index block can be read. -/
def loadIndex (sb : DirSuper) (index : Option (Nat × Block)) : Except Errno IndexBuf :=
  match index with
  | none => .error .enoent
  | some (block, content) => decodeIndex sb block content

/-- Whenever the index of a directory loads, it agrees with the blocks. -/
def Agrees (sb : DirSuper) (s : DirState) : Prop :=
  ∀ index, loadIndex sb s.index = .ok index →
    index.get Index.dirBlocks = s.blocks.length ∧ Covered sb s.blocks index

/-- The first record of the blocks from `logical` on that is chosen. -/
def lookupFrom (mask : Nat) (chosen : DirEntry → Bool) :
    Nat → List (List DirEntry) → Option (Nat × Nat)
  | _, [] => none
  | logical, records :: rest =>
      if mask ≠ 0 ∧ mask.testBit logical = false then lookupFrom mask chosen (logical + 1) rest
      else
        match records.findIdx? chosen with
        | some position => some (logical, position)
        | none => lookupFrom mask chosen (logical + 1) rest

/-- The mask a lookup uses when its index block can be read. -/
def lookupMask (sb : DirSuper) (s : DirState) (name : List UInt8) : Nat :=
  match loadIndex sb s.index with
  | .ok index => index.get (Index.blockMask (bucketOf sb name))
  | .error _ => 0

section Quiet

variable (sb : DirSuper) (s : DirState) (quiet : s.faults = [])

include quiet

theorem buffer_quiet : buffer s = (.ok (), s) := by
  unfold buffer
  rw [quiet]

theorem searchBlocks_quiet (mask : Nat) (chosen : DirEntry → Bool) (logical : Nat)
    (blocks : List (List DirEntry))
    (valid : ∀ records, records ∈ blocks → ValidBlock sb.maxInodes records) :
    searchBlocks sb mask chosen logical blocks s =
      (.ok (lookupFrom mask chosen logical blocks), s) := by
  induction blocks generalizing logical with
  | nil => rfl
  | cons records rest ih =>
      have tail := ih (logical + 1) fun other member => valid other (List.mem_cons_of_mem _ member)
      have here := walk_valid sb.maxInodes chosen 0 records (valid records List.mem_cons_self)
      unfold searchBlocks lookupFrom
      split
      · exact tail
      · rw [Routine.bind_ok _ _ _ _ _ (buffer_quiet s quiet), here]
        cases records.findIdx? chosen with
        | some position => rfl
        | none => exact tail

theorem dirIndexLoad_quiet : dirIndexLoad sb s = (loadIndex sb s.index, s) := by
  unfold dirIndexLoad loadIndex
  rw [Routine.read_bind]
  cases s.index with
  | none => rfl
  | some given =>
      show (buffer >>= _) s = _
      rw [Routine.bind_ok _ _ _ _ _ (buffer_quiet s quiet)]
      simp only
      cases decodeIndex sb given.1 given.2 with
      | ok index => rfl
      | error reason => rfl

theorem candidateMask_quiet (name : List UInt8) :
    candidateMask sb name s = (.ok (lookupMask sb s name), s) := by
  have loaded := dirIndexLoad_quiet sb s quiet
  unfold candidateMask lookupMask
  cases decoded : loadIndex sb s.index with
  | ok index =>
      rw [decoded] at loaded
      apply Routine.orElse_ok
      rw [Routine.bind_ok _ _ _ _ _ loaded]
      rfl
  | error reason =>
      rw [decoded] at loaded
      rw [Routine.orElse_error _ _ _ _ _ (Routine.bind_error _ _ _ _ _ loaded)]
      rfl

/-- A lookup on readable blocks. -/
theorem findEntry_quiet (valid : ∀ records, records ∈ s.blocks → ValidBlock sb.maxInodes records)
    (name : List UInt8) : findEntry sb name s =
      ((lookupFrom (lookupMask sb s name) (DirEntry.named name) 0 s.blocks).elim
        (.error .enoent) .ok, s) := by
  unfold findEntry
  rw [Routine.read_bind]
  split
  · rename_i empty
    rw [empty]
    rfl
  · rw [Routine.bind_ok _ _ _ _ _ (candidateMask_quiet sb s quiet name),
      Routine.bind_ok _ _ _ _ _ (searchBlocks_quiet sb s quiet _ _ _ _ valid)]
    cases lookupFrom (lookupMask sb s name) (DirEntry.named name) 0 s.blocks with
    | none => rfl
    | some found => rfl

theorem dirIndexStore_quiet (index : IndexBuf) (block : Nat) (content : Block)
    (indexed : s.index = some (block, content)) : dirIndexStore sb index s =
      (.ok (), { s with index := some (block, encodeIndex sb block index) }) := by
  unfold dirIndexStore
  rw [Routine.read_bind, indexed]
  show (buffer >>= _) s = _
  rw [Routine.bind_ok _ _ _ _ _ (buffer_quiet s quiet)]
  rfl

theorem checkBlocks_quiet (blocks : List (List DirEntry))
    (valid : ∀ records, records ∈ blocks → ValidBlock sb.maxInodes records) :
    checkBlocks sb blocks s = (.ok (), s) := by
  induction blocks with
  | nil => rfl
  | cons records rest ih =>
      have tail := ih fun other member => valid other (List.mem_cons_of_mem _ member)
      have here := walk_valid sb.maxInodes (fun _ => false) 0 records
        (valid records List.mem_cons_self)
      unfold checkBlocks
      rw [Routine.bind_ok _ _ _ _ _ (buffer_quiet s quiet), here]
      exact tail

end Quiet

/-- Skipping the blocks without a bit finds what the whole scan finds. -/
theorem lookupFrom_mask (mask : Nat) (chosen : DirEntry → Bool) (logical : Nat)
    (blocks : List (List DirEntry))
    (covers : ∀ place records, blocks[place]? = some records →
      mask.testBit (logical + place) = false → records.findIdx? chosen = none) :
    lookupFrom mask chosen logical blocks = lookupFrom 0 chosen logical blocks := by
  induction blocks generalizing logical with
  | nil => rfl
  | cons records rest ih =>
      have tail := ih (logical + 1) (by
        intro place later found skipped
        apply covers (place + 1) later (by simpa using found)
        rw [show logical + (place + 1) = logical + 1 + place by omega]
        exact skipped)
      have unmasked : ¬ ((0 : Nat) ≠ 0 ∧ (0 : Nat).testBit logical = false) := by simp
      unfold lookupFrom
      rw [if_neg unmasked]
      by_cases skipped : mask ≠ 0 ∧ mask.testBit logical = false
      · rw [if_pos skipped, covers 0 records rfl skipped.2, tail]
      · rw [if_neg skipped, tail]

/-- With an agreeing index a lookup finds what it finds without the index. -/
theorem Agrees.lookup {sb : DirSuper} {s : DirState} (agrees : Agrees sb s)
    (wellformed : Wellformed sb s.blocks) (name : List UInt8) :
    lookupFrom (lookupMask sb s name) (DirEntry.named name) 0 s.blocks =
      lookupFrom 0 (DirEntry.named name) 0 s.blocks := by
  unfold lookupMask
  cases decoded : loadIndex sb s.index with
  | error reason => rfl
  | ok index =>
      apply lookupFrom_mask
      intro place records found skipped
      rw [Nat.zero_add] at skipped
      rw [List.findIdx?_eq_none_iff]
      intro entry member
      by_cases named : DirEntry.named name entry = true
      · simp only [DirEntry.named, Bool.and_eq_true, bne_iff_ne, ne_eq, beq_iff_eq] at named
        have full := wellformed.named records (List.mem_of_getElem? found) entry member named.1
        have live : entry.live = true := by
          simp [DirEntry.live, named.1, full]
        have bit := (agrees index decoded).2 place records entry found member live
        rw [maskBit, named.2, skipped] at bit
        cases bit
      · simpa using named

end Dir

end Cryexts
