import Cryexts.Dir.Agreement

set_option autoImplicit false

namespace Cryexts

namespace Dir

open ByteBuf (Field)

/-- An index that would load, with the members a load checks. -/
structure Sealed (index : IndexBuf) : Prop where
  magic : index.get Index.magic = DIR_INDEX_MAGIC
  buckets : index.get Index.buckets = DIR_INDEX_BUCKETS

theorem sealed_of_load (sb : DirSuper) (given : Option (Nat × Block)) (index : IndexBuf)
    (loaded : loadIndex sb given = .ok index) : Sealed index := by
  cases given with
  | none => cases loaded
  | some pair =>
      change decodeIndex sb pair.1 pair.2 = .ok index at loaded
      unfold decodeIndex at loaded
      split at loaded
      · cases loaded
      · simp only at loaded
        split at loaded
        · cases loaded
        · rename_i checked
          have same := Except.ok.inj loaded
          rw [same] at checked
          constructor
          · by_cases magic : index.get Index.magic = DIR_INDEX_MAGIC
            · exact magic
            · exact absurd (Or.inl magic) checked
          · by_cases buckets : index.get Index.buckets = DIR_INDEX_BUCKETS
            · exact buckets
            · exact absurd (Or.inr buckets) checked

/-- A stored index agrees with the blocks when the stored members do. -/
theorem stored_agrees (sb : DirSuper) (s : DirState) (block : Nat) (index : IndexBuf)
    (checked : Sealed index) (indexed : s.index = some (block, encodeIndex sb block index))
    (count : index.get Index.dirBlocks = s.blocks.length) (covered : Covered sb s.blocks index) :
    Agrees sb s := by
  obtain ⟨loaded, decoded, members⟩ := decode_encode sb block index checked.magic checked.buckets
  intro found load
  rw [indexed] at load
  change decodeIndex sb block (encodeIndex sb block index) = .ok found at load
  rw [decoded] at load
  cases load
  refine ⟨(members _ (by decide) (by decide)).trans count, ?_⟩
  intro logical records entry here member live
  have bucket := bucketOf_lt sb entry.name
  rw [maskBit, members _ (blockMask_fits _ bucket) (by
    right
    show 16 ≤ 28 + 2 * bucketOf sb entry.name
    omega)]
  exact covered logical records entry here member live

section Rebuilt

variable (sb : DirSuper) (blocks : List (List DirEntry))

theorem get_rebuiltIndex (field : Field) (low : field.stop ≤ 28)
    (apart : field.Apart Index.entries) : (rebuiltIndex sb blocks).get field =
      ((ByteBuf.zero DIR_INDEX_SIZE).setAll [(Index.magic, DIR_INDEX_MAGIC),
        (Index.buckets, DIR_INDEX_BUCKETS), (Index.dirBlocks, blocks.length)]).get field := by
  unfold rebuiltIndex
  simp only
  rw [ByteBuf.get_set_apart _ _ _ _ apart, get_maskBlocks _ _ _ _ _ low]

theorem rebuiltIndex_member (field : Field) (value : Nat) (low : field.stop ≤ 28)
    (apart : field.Apart Index.entries)
    (member : (field, value) ∈ [(Index.magic, DIR_INDEX_MAGIC),
      (Index.buckets, DIR_INDEX_BUCKETS), (Index.dirBlocks, blocks.length)]) :
    (rebuiltIndex sb blocks).get field = value % 256 ^ field.width := by
  rw [get_rebuiltIndex sb blocks field low apart]
  apply ByteBuf.get_setAll_member _ _ _ _ _ member
  · have size : DIR_INDEX_SIZE = 156 := rfl
    omega
  · simp only [List.pairwise_cons, List.mem_cons, List.not_mem_nil, or_false, forall_eq_or_imp,
      forall_eq, List.Pairwise.nil, and_true, false_implies, implies_true]
    decide

theorem rebuiltIndex_sealed : Sealed (rebuiltIndex sb blocks) where
  magic := rebuiltIndex_member sb blocks Index.magic DIR_INDEX_MAGIC (by decide) (by decide)
    (by simp)
  buckets := rebuiltIndex_member sb blocks Index.buckets DIR_INDEX_BUCKETS (by decide) (by decide)
    (by simp)

theorem rebuiltIndex_dirBlocks (few : blocks.length ≤ DIRECT_BLOCKS) :
    (rebuiltIndex sb blocks).get Index.dirBlocks = blocks.length := by
  rw [rebuiltIndex_member sb blocks Index.dirBlocks blocks.length (by decide) (by decide) (by simp)]
  have twelve : DIRECT_BLOCKS = 12 := rfl
  exact Nat.mod_eq_of_lt (by
    show blocks.length < 256 ^ 2
    omega)

theorem rebuiltIndex_covered (few : blocks.length ≤ DIRECT_BLOCKS) :
    Covered sb blocks (rebuiltIndex sb blocks) := by
  intro logical records entry found member live
  have twelve : DIRECT_BLOCKS = 12 := rfl
  have bits := (maskBit_maskBlocks sb ((ByteBuf.zero DIR_INDEX_SIZE).setAll
    [(Index.magic, DIR_INDEX_MAGIC), (Index.buckets, DIR_INDEX_BUCKETS),
      (Index.dirBlocks, blocks.length)]) 0 blocks (by omega)).2 logical records entry found
        member live
  rw [Nat.zero_add] at bits
  unfold rebuiltIndex
  simp only
  rw [maskBit_set_low _ _ _ _ _ (by decide)]
  exact bits

end Rebuilt

theorem indexWithName_sealed (sb : DirSuper) (blocks logical : Nat) (name : List UInt8)
    (index : IndexBuf) (checked : Sealed index) :
    Sealed (indexWithName sb blocks logical name index) := by
  have kept : ∀ field : Field, field.stop ≤ 28 → field.Apart Index.dirBlocks →
      field.Apart Index.entries →
      (indexWithName sb blocks logical name index).get field = index.get field := by
    intro field masks apart entries
    unfold indexWithName
    rw [ByteBuf.get_set_apart _ _ _ _ entries, ByteBuf.get_set_apart _ _ _ _ apart,
      get_addMask _ _ _ _ masks]
  constructor
  · exact (kept Index.magic (by decide) (by decide) (by decide)).trans checked.magic
  · exact (kept Index.buckets (by decide) (by decide) (by decide)).trans checked.buckets

/-- One more name put in an index that covers the rest. -/
theorem indexWithName_agrees (sb : DirSuper) (s : DirState) (block : Nat) (name : List UInt8)
    (logical : Nat) (index : IndexBuf)
    (wellformed : Wellformed sb s.blocks) (low : logical < s.blocks.length)
    (checked : Sealed index)
    (indexed : s.index = some (block,
      encodeIndex sb block (indexWithName sb s.blocks.length logical name index)))
    (old : ∀ place records entry, s.blocks[place]? = some records → entry ∈ records →
      entry.live = true → ¬ (bucketOf sb entry.name = bucketOf sb name ∧ place = logical) →
      maskBit index (bucketOf sb entry.name) place = true) : Agrees sb s := by
  have twelve : DIRECT_BLOCKS = 12 := rfl
  have few := wellformed.few
  apply stored_agrees sb s block (indexWithName sb s.blocks.length logical name index) _ indexed
  · unfold indexWithName
    rw [ByteBuf.get_set_apart _ _ _ _ (by decide), ByteBuf.get_set_same _ _ _ (by decide)]
    exact Nat.mod_eq_of_lt (by
      show s.blocks.length < 256 ^ 2
      omega)
  · intro place records entry found member live
    unfold indexWithName
    rw [maskBit_set_low _ _ _ _ _ (by decide), maskBit_set_low _ _ _ _ _ (by decide),
      maskBit_addMask _ _ _ _ _ (bucketOf_lt sb name) (by omega)]
    by_cases new : bucketOf sb entry.name = bucketOf sb name ∧ place = logical
    · simp [new]
    · rw [old place records entry found member live new, Bool.or_true]
  · exact indexWithName_sealed sb s.blocks.length logical name index checked

/-- One name taken out of a covering index, its bit too when no name of its bucket is left in the
block. -/
theorem indexWithoutName_agrees (sb : DirSuper) (s : DirState) (block : Nat) (name : List UInt8)
    (logical : Nat) (stillInBlock : Bool) (index : IndexBuf) (wellformed : Wellformed sb s.blocks)
    (low : logical < s.blocks.length) (checked : Sealed index)
    (indexed : s.index = some (block, encodeIndex sb block
      (indexWithoutName sb s.blocks.length logical name stillInBlock index)))
    (covered : Covered sb s.blocks index)
    (gone : stillInBlock = false → ∀ records entry, s.blocks[logical]? = some records →
      entry ∈ records → entry.live = true → bucketOf sb entry.name ≠ bucketOf sb name) :
    Agrees sb s := by
  have twelve : DIRECT_BLOCKS = 12 := rfl
  have few := wellformed.few
  have kept : ∀ field : Field, field.stop ≤ 28 → field.Apart Index.dirBlocks →
      field.Apart Index.entries →
      (indexWithoutName sb s.blocks.length logical name stillInBlock index).get field =
        index.get field := by
    intro field masks blocks entries
    unfold indexWithoutName
    rw [ByteBuf.get_set_apart _ _ _ _ entries, ByteBuf.get_set_apart _ _ _ _ blocks]
    split
    · rfl
    · exact get_dropMask _ _ _ _ masks
  apply stored_agrees sb s block
    (indexWithoutName sb s.blocks.length logical name stillInBlock index) _ indexed
  · unfold indexWithoutName
    rw [ByteBuf.get_set_apart _ _ _ _ (by decide), ByteBuf.get_set_same _ _ _ (by decide)]
    exact Nat.mod_eq_of_lt (by
      show s.blocks.length < 256 ^ 2
      omega)
  · intro place records entry found member live
    unfold indexWithoutName
    rw [maskBit_set_low _ _ _ _ _ (by decide), maskBit_set_low _ _ _ _ _ (by decide)]
    have bit := covered place records entry found member live
    cases stillInBlock with
    | true => exact bit
    | false =>
        rw [if_neg (by decide), maskBit_dropMask _ _ _ _ _ (bucketOf_lt sb name) (by omega)]
        · exact bit
        · rintro ⟨same, rfl⟩
          exact gone rfl records entry found member live same
  · constructor
    · exact (kept Index.magic (by decide) (by decide) (by decide)).trans checked.magic
    · exact (kept Index.buckets (by decide) (by decide) (by decide)).trans checked.buckets

/-- What an index operation leaves alone. -/
structure SameEntries (s after : DirState) : Prop where
  blocks : after.blocks = s.blocks
  faults : after.faults = s.faults

theorem grant_cases (s : DirState) :
    (∃ given rest, s.grants = some given :: rest ∧
      grant s = (.ok given, { s with grants := rest })) ∨
    ((∀ given rest, s.grants ≠ some given :: rest) ∧
      ∃ grants, grant s = (.error .enospc, { s with grants := grants })) := by
  unfold grant
  rcases s.grants with _ | ⟨first, rest⟩
  · right
    refine ⟨?_, s.grants, rfl⟩
    intro given rest absurd
    cases absurd
  · cases first with
    | none =>
        right
        refine ⟨?_, rest, rfl⟩
        intro given others absurd
        cases absurd
    | some given => exact Or.inl ⟨given, rest, rfl, rfl⟩

section Quiet

variable (sb : DirSuper) (s : DirState) (feature : sb.dirIndex = true) (quiet : s.faults = [])

include feature

/-- The block a new index is put in. -/
theorem dirIndexEnsure_cases :
    (∃ given, s.index = some given ∧ dirIndexEnsure sb s = (.ok (), s)) ∨
    (s.index = none ∧ ∃ given rest, s.grants = some given :: rest ∧
      dirIndexEnsure sb s = (.ok (), { s with index := some given, grants := rest })) ∨
    (s.index = none ∧ (∀ given rest, s.grants ≠ some given :: rest) ∧ ∃ grants,
      dirIndexEnsure sb s = (.error .enospc, { s with grants := grants })) := by
  unfold dirIndexEnsure
  rw [Routine.read_bind]
  rcases Option.eq_none_or_eq_some s.index with bare | ⟨given, indexed⟩
  · right
    have missing : ¬ (sb.dirIndex = false ∨ s.index.isSome = true) := by
      rw [bare, feature]
      decide
    simp only [missing, ↓reduceIte]
    rcases grant_cases s with ⟨given, rest, grants, granted⟩ | ⟨none, grants, failed⟩
    · left
      refine ⟨bare, given, rest, grants, ?_⟩
      rw [Routine.bind_ok _ _ _ _ _ granted]
      rfl
    · right
      exact ⟨bare, none, grants, Routine.bind_error _ _ _ _ _ failed⟩
  · left
    refine ⟨given, indexed, ?_⟩
    have present : sb.dirIndex = false ∨ s.index.isSome = true := by
      rw [indexed]
      exact Or.inr rfl
    simp only [present, ↓reduceIte]
    rfl

include quiet

theorem dirIndexRebuild_indexed (wellformed : Wellformed sb s.blocks) (block : Nat)
    (content : Block) (indexed : s.index = some (block, content)) : dirIndexRebuild sb s =
      (.ok (), { s with
        index := some (block, encodeIndex sb block (rebuiltIndex sb s.blocks)) }) := by
  have ensured : dirIndexEnsure sb s = (.ok (), s) := by
    rcases dirIndexEnsure_cases sb s feature with ⟨_, _, run⟩ | ⟨bare, _⟩ | ⟨bare, _⟩
    · exact run
    · rw [indexed] at bare
      cases bare
    · rw [indexed] at bare
      cases bare
  unfold dirIndexRebuild
  rw [if_neg (by simp [feature]), Routine.bind_ok _ _ _ _ _ ensured, Routine.read_bind,
    Routine.bind_ok _ _ _ _ _ (checkBlocks_quiet sb s quiet s.blocks wellformed.valid),
    Routine.bind_ok _ _ _ _ _ (dirIndexStore_quiet sb s quiet _ block content indexed)]
  exact buffer_quiet _ quiet

/-- A rebuild ends with an agreeing index, or without any when no block is left. -/
theorem dirIndexRebuild_agrees (wellformed : Wellformed sb s.blocks) :
    SameEntries s (dirIndexRebuild sb s).2 ∧ Agrees sb (dirIndexRebuild sb s).2 := by
  have stored : ∀ (t : DirState) (block : Nat),
      Agrees sb { t with
        blocks := s.blocks
        index := some (block, encodeIndex sb block (rebuiltIndex sb s.blocks)) } := by
    intro t block
    exact stored_agrees sb _ block _ (rebuiltIndex_sealed sb s.blocks) rfl
      (rebuiltIndex_dirBlocks sb s.blocks wellformed.few)
      (rebuiltIndex_covered sb s.blocks wellformed.few)
  rcases dirIndexEnsure_cases sb s feature with
    ⟨given, indexed, _⟩ | ⟨bare, given, rest, _, ensured⟩ | ⟨bare, _, grants, failed⟩
  · rw [dirIndexRebuild_indexed sb s feature quiet wellformed given.1 given.2 indexed]
    exact ⟨⟨rfl, rfl⟩, stored s given.1⟩
  · have again := dirIndexRebuild_indexed sb { s with index := some given, grants := rest } feature
      quiet wellformed given.1 given.2 rfl
    have same : dirIndexRebuild sb s =
        dirIndexRebuild sb { s with index := some given, grants := rest } := by
      have kept : dirIndexEnsure sb { s with index := some given, grants := rest } =
          (.ok (), { s with index := some given, grants := rest }) := by
        rcases dirIndexEnsure_cases sb { s with index := some given, grants := rest } feature with
          ⟨_, _, run⟩ | ⟨absent, _⟩ | ⟨absent, _⟩
        · exact run
        · cases absent
        · cases absent
      unfold dirIndexRebuild
      rw [if_neg (by simp [feature]), Routine.bind_ok _ _ _ _ _ ensured,
        Routine.bind_ok _ _ _ _ _ kept]
    rw [same, again]
    exact ⟨⟨rfl, rfl⟩, stored { s with grants := rest } given.1⟩
  · have run : dirIndexRebuild sb s = (.error .enospc, { s with grants := grants }) := by
      unfold dirIndexRebuild
      rw [if_neg (by simp [feature]), Routine.bind_error _ _ _ _ _ failed]
    rw [run]
    refine ⟨⟨rfl, rfl⟩, ?_⟩
    intro index load
    rw [show ({ s with grants := grants } : DirState).index = none from bare] at load
    cases load

/-- The block `dir_index_add_name` works on: the directory's own index block, or else the next
one the allocator hands out. -/
def indexOrGrant (s : DirState) : Option (Nat × Block) := s.index.or s.grants.head?.join

omit quiet in
/-- An addition to an index that loads, once there is an index block. -/
theorem dirIndexAddName_loaded (t : DirState) (still : t.faults = [])
    (ensured : dirIndexEnsure sb s = (.ok (), t)) (block : Nat) (content : Block)
    (indexed : t.index = some (block, content)) (index : IndexBuf)
    (decoded : decodeIndex sb block content = .ok index) (name : List UInt8) (logical : Nat)
    (low : logical < DIRECT_BLOCKS) : dirIndexAddName sb name logical s =
      (.ok (), { t with index := some (block, encodeIndex sb block
        (indexWithName sb t.blocks.length logical name index)) }) := by
  have loaded := dirIndexLoad_quiet sb t still
  rw [indexed] at loaded
  change dirIndexLoad sb t = (decodeIndex sb block content, t) at loaded
  rw [decoded] at loaded
  unfold dirIndexAddName
  rw [if_neg (by simp [feature]), if_neg (by omega), Routine.bind_ok _ _ _ _ _ ensured]
  apply Routine.orElse_ok
  rw [Routine.bind_ok _ _ _ _ _ loaded, Routine.read_bind]
  exact dirIndexStore_quiet sb t still _ block content indexed

theorem dirIndexAddName_agrees (wellformed : Wellformed sb s.blocks) (name : List UInt8)
    (logical : Nat) (low : logical < s.blocks.length)
    (old : ∀ index, loadIndex sb (indexOrGrant s) = .ok index →
      ∀ place records entry, s.blocks[place]? = some records → entry ∈ records →
        entry.live = true → ¬ (bucketOf sb entry.name = bucketOf sb name ∧ place = logical) →
        maskBit index (bucketOf sb entry.name) place = true) :
    SameEntries s (dirIndexAddName sb name logical s).2 ∧
      Agrees sb (dirIndexAddName sb name logical s).2 := by
  have twelve : DIRECT_BLOCKS = 12 := rfl
  have few := wellformed.few
  -- What happens once there is an index block, from the directory or from the allocator.
  have ensured : ∀ (t : DirState) (given : Nat × Block), t.index = some given →
      t.blocks = s.blocks → t.faults = [] → indexOrGrant s = some given →
      dirIndexEnsure sb s = (.ok (), t) →
      SameEntries s (dirIndexAddName sb name logical s).2 ∧
        Agrees sb (dirIndexAddName sb name logical s).2 := by
    intro t given indexed blocks still source run
    cases decoded : decodeIndex sb given.1 given.2 with
    | error reason =>
        have loaded := dirIndexLoad_quiet sb t still
        rw [indexed] at loaded
        change dirIndexLoad sb t = (decodeIndex sb given.1 given.2, t) at loaded
        rw [decoded] at loaded
        unfold dirIndexAddName
        rw [if_neg (by simp [feature]), if_neg (by omega), Routine.bind_ok _ _ _ _ _ run,
          Routine.orElse_error _ _ _ _ _ (Routine.bind_error _ _ _ _ _ loaded)]
        have rebuilt := dirIndexRebuild_agrees sb t feature still (by rw [blocks]; exact wellformed)
        refine ⟨⟨?_, ?_⟩, rebuilt.2⟩
        · rw [rebuilt.1.blocks, blocks]
        · rw [rebuilt.1.faults, still, quiet]
    | ok index =>
        rw [dirIndexAddName_loaded sb s feature t still run given.1 given.2 indexed index decoded
          name logical (by omega)]
        refine ⟨⟨blocks, still.trans quiet.symm⟩, ?_⟩
        apply indexWithName_agrees sb { t with index := some (given.1, encodeIndex sb given.1
          (indexWithName sb t.blocks.length logical name index)) } given.1 name logical index
        · show Wellformed sb t.blocks
          rw [blocks]
          exact wellformed
        · show logical < t.blocks.length
          rw [blocks]
          exact low
        · exact sealed_of_load sb (some given) index decoded
        · rfl
        · intro place records entry found
          rw [show ({ t with index := some (given.1, encodeIndex sb given.1
            (indexWithName sb t.blocks.length logical name index)) } : DirState).blocks = s.blocks
            from blocks] at found
          exact old index (by rw [source]; exact decoded) place records entry found
  rcases dirIndexEnsure_cases sb s feature with
    ⟨given, indexed, run⟩ | ⟨bare, given, rest, grants, run⟩ | ⟨bare, _, grants, failed⟩
  · apply ensured s given indexed rfl quiet _ run
    rw [indexOrGrant, indexed]
    rfl
  · apply ensured { s with index := some given, grants := rest } given rfl rfl quiet _ run
    rw [indexOrGrant, bare, grants]
    rfl
  · have run : dirIndexAddName sb name logical s = (.error .enospc, { s with grants := grants }) := by
      unfold dirIndexAddName
      rw [if_neg (by simp [feature]), if_neg (by omega), Routine.bind_error _ _ _ _ _ failed]
    rw [run]
    refine ⟨⟨rfl, rfl⟩, ?_⟩
    intro index load
    rw [show ({ s with grants := grants } : DirState).index = none from bare] at load
    cases load

/-- Taking a name out of an agreeing index leaves it agreeing. -/
theorem dirIndexRemoveName_agrees (wellformed : Wellformed sb s.blocks) (name : List UInt8)
    (logical : Nat) (low : logical < s.blocks.length) (agrees : Agrees sb s) :
    SameEntries s (dirIndexRemoveName sb name logical s).2 ∧
      Agrees sb (dirIndexRemoveName sb name logical s).2 := by
  have twelve : DIRECT_BLOCKS = 12 := rfl
  have few := wellformed.few
  have loaded := dirIndexLoad_quiet sb s quiet
  cases decoded : loadIndex sb s.index with
  | error reason =>
      rw [decoded] at loaded
      have run : dirIndexRemoveName sb name logical s = dirIndexRebuild sb s := by
        unfold dirIndexRemoveName
        rw [if_neg (by simp [feature]), if_neg (by omega)]
        exact Routine.orElse_error _ _ _ _ _ (Routine.bind_error _ _ _ _ _ loaded)
      rw [run]
      exact dirIndexRebuild_agrees sb s feature quiet wellformed
  | ok index =>
      rw [decoded] at loaded
      rcases Option.eq_none_or_eq_some s.index with bare | ⟨given, indexed⟩
      · rw [bare] at decoded
        cases decoded
      · obtain ⟨records, here⟩ : ∃ records, s.blocks[logical]? = some records :=
          ⟨_, List.getElem?_eq_getElem low⟩
        have walked := walk_valid sb.maxInodes
          (fun de => de.live && bucketOf sb de.name == bucketOf sb name) 0 records
          (wellformed.valid records (List.mem_of_getElem? here))
        have place : s.blocks.getD logical [] = records := by
          rw [List.getD_eq_getElem?_getD, here]
          rfl
        generalize found : records.findIdx?
          (fun de => de.live && bucketOf sb de.name == bucketOf sb name) = position at walked
        have run : dirIndexRemoveName sb name logical s = (.ok (), { s with
            index := some (given.1, encodeIndex sb given.1
              (indexWithoutName sb s.blocks.length logical name position.isSome index)) }) := by
          unfold dirIndexRemoveName
          rw [if_neg (by simp [feature]), if_neg (by omega)]
          apply Routine.orElse_ok
          rw [Routine.bind_ok _ _ _ _ _ loaded, Routine.read_bind, place, walked]
          exact dirIndexStore_quiet sb s quiet _ given.1 given.2 indexed
        rw [run]
        refine ⟨⟨rfl, rfl⟩, ?_⟩
        apply indexWithoutName_agrees sb { s with
          index := some (given.1, encodeIndex sb given.1
            (indexWithoutName sb s.blocks.length logical name position.isSome index)) } given.1 name
          logical position.isSome index wellformed low (sealed_of_load sb s.index index decoded) rfl
          (agrees index decoded).2
        intro absent others entry there member live same
        have equal : records = others := Option.some.inj (here.symm.trans there)
        subst equal
        rw [Option.isSome_eq_false_iff, Option.isNone_iff_eq_none] at absent
        rw [absent, List.findIdx?_eq_none_iff] at found
        have refused := found entry member
        rw [live, same, beq_self_eq_true] at refused
        cases refused

end Quiet

end Dir

end Cryexts
