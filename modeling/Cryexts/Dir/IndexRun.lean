import Cryexts.Dir.Effects

set_option autoImplicit false

namespace Cryexts

namespace Dir

/-- The part of `cryexts_add_entry` before its entry is written: the block and the record the
entry goes into, in a fresh block when no other has room. -/
def findRoom (sb : DirSuper) (name : List UInt8) : DirOp (Nat × Nat) := do
  Routine.require (name.length ≤ NAME_LEN) .enametoolong
  requireAbsent sb name
  let s ← Routine.read
  match ← searchBlocks sb 0 (fits (dirRecLen name.length)) 0 s.blocks with
  | some place => pure place
  | none => do
      Routine.require (s.blocks.length < DIRECT_BLOCKS) .enospc
      let _ ← grant
      buffer
      Routine.modify fun s => { s with blocks := s.blocks ++ [freshBlock] }
      pure (s.blocks.length, 0)

theorem addEntry_eq (sb : DirSuper) (name : List UInt8) (ino fileType : Nat) (s : DirState) :
    addEntry sb name ino fileType s = (findRoom sb name >>= fun place =>
      writeEntry sb name ino fileType place.1 place.2) s := by
  unfold addEntry findRoom
  rw [Routine.bind_assoc]
  apply Routine.bind_congr
  intro _ s
  rw [Routine.bind_assoc]
  apply Routine.bind_congr
  intro _ s
  rw [Routine.bind_assoc]
  apply Routine.bind_congr
  intro dir s
  rw [Routine.bind_assoc]
  apply Routine.bind_congr
  intro found s
  cases found with
  | some place => rfl
  | none =>
      simp only
      rw [Routine.bind_assoc]
      apply Routine.bind_congr
      intro _ s
      rw [Routine.bind_assoc]
      apply Routine.bind_congr
      intro _ s
      rw [Routine.bind_assoc]
      apply Routine.bind_congr
      intro _ s
      rfl

/-- The place found for an entry: a record it fits in, in the directory's blocks or in a fresh
one behind them. -/
structure Room (s t : DirState) (name : List UInt8) (place : Nat × Nat) : Prop where
  short : name.length ≤ NAME_LEN
  grown : t.blocks = s.blocks ∨
    t.blocks = s.blocks ++ [freshBlock] ∧ s.blocks.length < DIRECT_BLOCKS
  index : t.index = s.index
  record : ∃ records de, t.blocks[place.1]? = some records ∧ records[place.2]? = some de ∧
    fits (dirRecLen name.length) de = true

theorem grant_frame (s : DirState) : (grant s).2.blocks = s.blocks ∧ (grant s).2.index = s.index := by
  rcases grant_cases s with ⟨given, rest, _, granted⟩ | ⟨_, grants, failed⟩
  · rw [granted]
    exact ⟨rfl, rfl⟩
  · rw [failed]
    exact ⟨rfl, rfl⟩

section FindRoom

variable (sb : DirSuper) (name : List UInt8) (s t : DirState)

theorem findRoom_ok (valid : ∀ records, records ∈ s.blocks → ValidBlock sb.maxInodes records)
    (place : Nat × Nat) (ran : findRoom sb name s = (.ok place, t)) : Room s t name place := by
  obtain ⟨_, first, checked, ran⟩ := Routine.of_bind_ok _ _ _ _ _ ran
  obtain ⟨short, same⟩ := Routine.of_require_ok _ _ _ _ checked
  rw [same] at ran
  obtain ⟨_, absent, searched, ran⟩ := Routine.of_bind_ok _ _ _ _ _ ran
  have reads := (requireAbsent_reads sb name).of_run searched
  rw [Routine.read_bind] at ran
  obtain ⟨found, seen, search, ran⟩ := Routine.of_bind_ok _ _ _ _ _ ran
  have here := searchBlocks_ok sb 0 _ 0 absent.blocks absent seen found
    (by rw [reads.blocks]; exact valid) search
  have again := IsTrans.trans _ _ _ reads ((searchBlocks_reads sb 0 _ 0 absent.blocks).of_run search)
  cases found with
  | some chosen =>
      obtain ⟨rfl, rfl⟩ : chosen = place ∧ seen = t :=
        ⟨Except.ok.inj (Prod.mk.inj ran).1, (Prod.mk.inj ran).2⟩
      obtain ⟨records, _, inside, chose⟩ := lookupFrom_some 0 _ 0 absent.blocks chosen.1 chosen.2
        here.symm
      obtain ⟨bound, fit, _⟩ := List.findIdx?_eq_some_iff_getElem.mp chose
      refine ⟨short, Or.inl again.blocks, again.index, records, records[chosen.2], ?_,
        List.getElem?_eq_getElem bound, fit⟩
      rw [again.blocks, ← reads.blocks]
      exact inside
  | none =>
      simp only at ran
      obtain ⟨_, roomy, checked, ran⟩ := Routine.of_bind_ok _ _ _ _ _ ran
      obtain ⟨few, same⟩ := Routine.of_require_ok _ _ _ _ checked
      rw [same] at ran
      obtain ⟨given, granted, taken, ran⟩ := Routine.of_bind_ok _ _ _ _ _ ran
      have frame := grant_frame seen
      rw [taken] at frame
      obtain ⟨_, flushed, wrote, ran⟩ := Routine.of_bind_ok _ _ _ _ _ ran
      have moved := buffer_reads.of_run wrote
      rw [Routine.modify_bind] at ran
      obtain ⟨rfl, rfl⟩ : (absent.blocks.length, 0) = place ∧
          { flushed with blocks := flushed.blocks ++ [freshBlock] } = t :=
        ⟨Except.ok.inj (Prod.mk.inj ran).1, (Prod.mk.inj ran).2⟩
      have blocks : flushed.blocks = s.blocks :=
        moved.blocks.trans (frame.1.trans again.blocks)
      rw [reads.blocks] at few
      refine ⟨short, Or.inr ⟨?_, few⟩, moved.index.trans (frame.2.trans again.index), freshBlock,
        _, ?_, rfl, ?_⟩
      · show flushed.blocks ++ [freshBlock] = s.blocks ++ [freshBlock]
        rw [blocks]
      · show (flushed.blocks ++ [freshBlock])[absent.blocks.length]? = some freshBlock
        rw [blocks, reads.blocks, List.getElem?_append_right (Nat.le_refl _), Nat.sub_self]
        rfl
      · have need := dirRecLen_bounds name.length
        have room : dirRecLen name.length ≤ BLOCK_SIZE := by
          have header : DIR_ENTRY_HEADER_SIZE = 12 := rfl
          have longest : NAME_LEN = 255 := rfl
          have size : BLOCK_SIZE = 4096 := rfl
          omega
        simp [fits, room]

theorem findRoom_error (reason : Errno) (ran : findRoom sb name s = (.error reason, t)) :
    t.blocks = s.blocks ∧ t.index = s.index := by
  rcases Routine.of_bind_error _ _ _ _ _ ran with failed | ⟨_, first, checked, ran⟩
  · obtain ⟨_, same⟩ := Routine.of_require_error _ _ _ _ _ failed
    rw [same]
    exact ⟨rfl, rfl⟩
  · obtain ⟨_, same⟩ := Routine.of_require_ok _ _ _ _ checked
    rw [same] at ran
    rcases Routine.of_bind_error _ _ _ _ _ ran with failed | ⟨_, absent, searched, ran⟩
    · have reads := (requireAbsent_reads sb name).of_run failed
      exact ⟨reads.blocks, reads.index⟩
    · have reads := (requireAbsent_reads sb name).of_run searched
      rw [Routine.read_bind] at ran
      rcases Routine.of_bind_error _ _ _ _ _ ran with failed | ⟨found, seen, search, ran⟩
      · have again := (searchBlocks_reads sb 0 _ 0 absent.blocks).of_run failed
        exact ⟨again.blocks.trans reads.blocks, again.index.trans reads.index⟩
      · have again := IsTrans.trans _ _ _ reads
          ((searchBlocks_reads sb 0 _ 0 absent.blocks).of_run search)
        cases found with
        | some chosen => cases ran
        | none =>
            simp only at ran
            rcases Routine.of_bind_error _ _ _ _ _ ran with failed | ⟨_, roomy, checked, ran⟩
            · obtain ⟨_, same⟩ := Routine.of_require_error _ _ _ _ _ failed
              rw [same]
              exact ⟨again.blocks, again.index⟩
            · obtain ⟨_, same⟩ := Routine.of_require_ok _ _ _ _ checked
              rw [same] at ran
              have frame := grant_frame seen
              rcases Routine.of_bind_error _ _ _ _ _ ran with failed | ⟨given, granted, taken, ran⟩
              · rw [failed] at frame
                exact ⟨frame.1.trans again.blocks, frame.2.trans again.index⟩
              · rw [taken] at frame
                rcases Routine.of_bind_error _ _ _ _ _ ran with failed | ⟨_, flushed, wrote, ran⟩
                · have moved := buffer_reads.of_run failed
                  exact ⟨moved.blocks.trans (frame.1.trans again.blocks),
                    moved.index.trans (frame.2.trans again.index)⟩
                · cases ran

end FindRoom

/-- The directory with a new entry in one record. -/
def DirState.put (s : DirState) (name : List UInt8) (ino fileType logical position : Nat) :
    DirState :=
  { s with blocks := s.blocks.modify logical fun records => place ino fileType name records position }

/-- Every live entry but those of one bucket in one block has its bit. -/
def CoveredBut (sb : DirSuper) (blocks : List (List DirEntry)) (index : IndexBuf)
    (bucket logical : Nat) : Prop :=
  ∀ place records entry, blocks[place]? = some records → entry ∈ records → entry.live = true →
    ¬ (bucketOf sb entry.name = bucket ∧ place = logical) →
    maskBit index (bucketOf sb entry.name) place = true

section Added

variable (sb : DirSuper) (s t : DirState) (name : List UInt8) (ino fileType : Nat)
variable (spot : Nat × Nat) (room : Room s t name spot)

theorem mem_put (logical position place : Nat) (records : List DirEntry)
    (found : (t.put name ino fileType logical position).blocks[place]? = some records) :
    ∃ old, t.blocks[place]? = some old ∧ ((place = logical ∧
      records = Dir.place ino fileType name old position) ∨ (place ≠ logical ∧ records = old)) := by
  change (t.blocks.modify logical _)[place]? = some records at found
  rw [List.getElem?_modify, Option.map_eq_map, Option.map_eq_some_iff] at found
  obtain ⟨old, inside, same⟩ := found
  refine ⟨old, inside, ?_⟩
  by_cases here : logical = place
  · rw [if_pos here] at same
    exact Or.inl ⟨here.symm, same.symm⟩
  · rw [if_neg here] at same
    exact Or.inr ⟨fun equal => here equal.symm, same.symm⟩

include room

theorem Room.wellformed (wellformed : Wellformed sb s.blocks) : Wellformed sb t.blocks := by
  rcases room.grown with same | ⟨grown, few⟩
  · rw [same]
    exact wellformed
  · rw [grown]
    constructor
    · intro records member
      rcases List.mem_append.mp member with old | fresh
      · exact wellformed.valid records old
      · rw [List.mem_singleton.mp fresh]
        exact freshBlock_valid sb.maxInodes
    · rw [List.length_append, List.length_singleton]
      exact few
    · intro records member entry inside used
      rcases List.mem_append.mp member with old | fresh
      · exact wellformed.named records old entry inside used
      · rw [List.mem_singleton.mp fresh] at inside
        rw [List.mem_singleton.mp inside] at used
        exact absurd rfl used

/-- A fresh block adds nothing to cover. -/
theorem Room.covered (index : IndexBuf) (covered : Covered sb s.blocks index) :
    Covered sb t.blocks index := by
  rcases room.grown with same | ⟨grown, few⟩
  · rw [same]
    exact covered
  · intro logical records entry found member live
    rw [grown] at found
    by_cases low : logical < s.blocks.length
    · rw [List.getElem?_append_left low] at found
      exact covered logical records entry found member live
    · rw [List.getElem?_append_right (by omega)] at found
      rw [List.mem_singleton.mp (List.mem_of_getElem? found)] at member
      rw [List.mem_singleton.mp member] at live
      cases live

theorem Room.low : spot.1 < t.blocks.length := by
  obtain ⟨records, _, found, _⟩ := room.record
  exact (List.getElem?_eq_some_iff.mp found).1

theorem put_wellformed (wellformed : Wellformed sb t.blocks)
    (entrant : Entrant sb.maxInodes ino fileType name) :
    Wellformed sb (t.put name ino fileType spot.1 spot.2).blocks where
  valid := by
    intro records member
    obtain ⟨where_, found⟩ := List.getElem?_of_mem member
    obtain ⟨old, inside, ⟨rfl, same⟩ | ⟨_, same⟩⟩ := mem_put t name ino fileType _ _ _ _ found
    · obtain ⟨here, de, there, inner, fit⟩ := room.record
      have equal : old = here := Option.some.inj (inside.symm.trans there)
      rw [same]
      apply place_valid sb.maxInodes ino fileType name entrant 0 spot.2 old
        (wellformed.valid old (List.mem_of_getElem? inside))
      intro chosen at_
      rw [equal, inner] at at_
      rw [← Option.some.inj at_]
      exact fit
    · rw [same]
      exact wellformed.valid old (List.mem_of_getElem? inside)
  few := by
    show (t.blocks.modify spot.1 _).length ≤ DIRECT_BLOCKS
    rw [List.length_modify]
    exact wellformed.few
  named := by
    intro records member entry inner used
    obtain ⟨where_, found⟩ := List.getElem?_of_mem member
    obtain ⟨old, inside, ⟨_, same⟩ | ⟨_, same⟩⟩ := mem_put t name ino fileType _ _ _ _ found
    · rw [same] at inner
      exact place_named ino fileType name entrant.named spot.2 old
        (wellformed.named old (List.mem_of_getElem? inside)) entry inner used
    · rw [same] at inner
      exact wellformed.named old (List.mem_of_getElem? inside) entry inner used

omit room in
/-- The new entry is the only one an index that covered the others may lack. -/
theorem put_coveredBut (index : IndexBuf)
    (covered : CoveredBut sb t.blocks index (bucketOf sb name) spot.1) :
    CoveredBut sb (t.put name ino fileType spot.1 spot.2).blocks index (bucketOf sb name)
      spot.1 := by
  intro place records entry found member live other
  obtain ⟨old, inside, ⟨here, same⟩ | ⟨_, same⟩⟩ := mem_put t name ino fileType _ _ _ _ found
  · rw [same] at member
    rcases mem_place_live ino fileType name spot.2 old entry member live with
      ⟨new, _⟩ | ⟨before, had, alive, equal, _⟩
    · exact absurd ⟨by rw [new], here⟩ other
    · rw [← equal] at other ⊢
      exact covered place old before inside had alive other
  · rw [same] at member
    exact covered place old entry inside member live other

end Added

/-- An addition leaves an agreeing index when no I/O fails once its place is found, and a block
newly taken for the index does not pass for an index that lacks entries. -/
theorem addEntry_agrees (sb : DirSuper) (name : List UInt8) (ino fileType : Nat) (s : DirState)
    (feature : sb.dirIndex = true) (wellformed : Wellformed sb s.blocks) (agrees : Agrees sb s)
    (entrant : name.length ≤ NAME_LEN → Entrant sb.maxInodes ino fileType name)
    (undisturbed : ∀ place t, findRoom sb name s = (.ok place, t) → t.faults = [] ∧
      (t.index = none → ∀ index, loadIndex sb t.grants.head?.join = .ok index →
        CoveredBut sb t.blocks index (bucketOf sb name) place.1)) :
    Wellformed sb (addEntry sb name ino fileType s).2.blocks ∧
      Agrees sb (addEntry sb name ino fileType s).2 := by
  rw [addEntry_eq]
  cases ran : findRoom sb name s with
  | mk outcome t =>
      cases outcome with
      | error reason =>
          obtain ⟨blocks, index⟩ := findRoom_error sb name s t reason ran
          rw [Routine.bind_error _ _ _ _ _ ran, blocks]
          refine ⟨wellformed, ?_⟩
          unfold Agrees at agrees ⊢
          rw [index, blocks]
          exact agrees
      | ok place =>
          have room := findRoom_ok sb name s t wellformed.valid place ran
          obtain ⟨quiet, fresh⟩ := undisturbed place t ran
          have grown := room.wellformed sb s t name place wellformed
          have kept := put_wellformed sb s t name ino fileType place room grown (entrant room.short)
          have low : place.1 < (t.put name ino fileType place.1 place.2).blocks.length := by
            show place.1 < (t.blocks.modify place.1 _).length
            rw [List.length_modify]
            exact room.low
          rw [Routine.bind_ok _ _ _ _ _ ran]
          unfold writeEntry
          rw [Routine.modify_bind]
          have run : (buffer >>= fun _ => dirIndexAddName sb name place.1)
              (t.put name ino fileType place.1 place.2) = dirIndexAddName sb name place.1
                (t.put name ino fileType place.1 place.2) :=
            Routine.bind_ok _ _ _ _ _ (buffer_quiet _ quiet)
          change Wellformed sb ((buffer >>= fun _ => dirIndexAddName sb name place.1)
              (t.put name ino fileType place.1 place.2)).2.blocks ∧
            Agrees sb ((buffer >>= fun _ => dirIndexAddName sb name place.1)
              (t.put name ino fileType place.1 place.2)).2
          rw [run]
          have added := dirIndexAddName_agrees sb (t.put name ino fileType place.1 place.2) feature
            quiet kept name place.1 low (by
              intro index loaded
              apply put_coveredBut sb t name ino fileType place index
              rcases Option.eq_none_or_eq_some t.index with bare | ⟨given, indexed⟩
              · apply fresh bare index
                have own : indexOrGrant (t.put name ino fileType place.1 place.2) =
                    t.grants.head?.join := by
                  show t.index.or t.grants.head?.join = _
                  rw [bare]
                  rfl
                rw [← own]
                exact loaded
              · have own : indexOrGrant (t.put name ino fileType place.1 place.2) = s.index := by
                  show t.index.or t.grants.head?.join = _
                  rw [← room.index, indexed]
                  rfl
                rw [own] at loaded
                have covered := room.covered sb s t name place index (agrees index loaded).2
                intro place records entry found member live _
                exact covered place records entry found member live)
          rw [added.1.blocks]
          exact ⟨kept, added.2⟩

/-- What is asked of a directory. -/
inductive DirRequest where
  | add (name : List UInt8) (ino fileType : Nat)
  | delete (name : List UInt8)
  | rebuild

/-- A request with what the allocator hands out and which buffers cannot be read meanwhile. -/
structure DirStep where
  request : DirRequest
  grants : List (Option (Nat × Block))
  faults : List Bool

/-- The directory as a step meets it. -/
def DirStep.start (step : DirStep) (s : DirState) : DirState :=
  { s with grants := step.grants, faults := step.faults }

def DirRequest.run (sb : DirSuper) (s : DirState) : DirRequest → DirState
  | .add name ino fileType => (addEntry sb name ino fileType s).2
  | .delete name => (deleteEntry sb name s).2
  | .rebuild => (dirIndexRebuild sb s).2

def runSteps (sb : DirSuper) (steps : List DirStep) (s : DirState) : DirState :=
  steps.foldl (fun current step => step.request.run sb (step.start current)) s

/-- What the callers of `cryexts_add_entry` promise. -/
def DirRequest.Admissible (sb : DirSuper) : DirRequest → Prop
  | .add name ino fileType => name ≠ [] ∧ ROOT_INO ≤ ino ∧ ino ≤ sb.maxInodes ∧
      (fileType = FT_UNKNOWN ∨ fileType = FT_REG_FILE ∨ fileType = FT_DIR ∨ fileType = FT_SYMLINK)
  | .delete _ => True
  | .rebuild => True

/-- No I/O error where it leaves an entry behind that the index lacks, and no block newly taken
for the index whose old content passes for an index that lacks entries. -/
def DirRequest.Undisturbed (sb : DirSuper) (s : DirState) : DirRequest → Prop
  | .add name _ _ => ∀ place t, findRoom sb name s = (.ok place, t) → t.faults = [] ∧
      (t.index = none → ∀ index, loadIndex sb t.grants.head?.join = .ok index →
        CoveredBut sb t.blocks index (bucketOf sb name) place.1)
  | .delete _ => s.faults = [] ∨
      (s.index = none → Agrees sb { s with index := s.grants.head?.join })
  | .rebuild => s.faults = [] ∨
      (s.index = none → Agrees sb { s with index := s.grants.head?.join })

def UndisturbedRun (sb : DirSuper) : List DirStep → DirState → Prop
  | [], _ => True
  | step :: rest, s => step.request.Undisturbed sb (step.start s) ∧
      UndisturbedRun sb rest (step.request.run sb (step.start s))

/-- With its own index block, or a harmless one to take, the directory has an agreeing one. -/
theorem safe_or_quiet (sb : DirSuper) (s : DirState) (agrees : Agrees sb s)
    (undisturbed : s.faults = [] ∨
      (s.index = none → Agrees sb { s with index := s.grants.head?.join })) :
    s.faults = [] ∨ Safe sb s := by
  rcases undisturbed with quiet | harmless
  · exact Or.inl quiet
  · right
    rcases Option.eq_none_or_eq_some s.index with bare | ⟨given, indexed⟩
    · have own : indexOrGrant s = s.grants.head?.join := by
        rw [indexOrGrant, bare]
        rfl
      unfold Safe
      rw [own]
      exact harmless bare
    · exact safe_of_indexed sb s given indexed agrees

/-- One step keeps the directory's blocks well formed and its index in agreement. -/
theorem DirRequest.run_agrees (sb : DirSuper) (request : DirRequest) (s : DirState)
    (feature : sb.dirIndex = true) (wellformed : Wellformed sb s.blocks) (agrees : Agrees sb s)
    (admissible : request.Admissible sb) (undisturbed : request.Undisturbed sb s) :
    Wellformed sb (request.run sb s).blocks ∧ Agrees sb (request.run sb s) := by
  cases request with
  | add name ino fileType =>
      apply addEntry_agrees sb name ino fileType s feature wellformed agrees _ undisturbed
      intro short
      exact ⟨admissible.1, short, admissible.2.1, admissible.2.2.1, admissible.2.2.2⟩
  | delete name =>
      exact deleteEntry_agrees sb name s feature wellformed agrees
        (safe_or_quiet sb s agrees undisturbed)
  | rebuild =>
      change Wellformed sb (dirIndexRebuild sb s).2.blocks ∧ Agrees sb (dirIndexRebuild sb s).2
      rcases safe_or_quiet sb s agrees undisturbed with quiet | safe
      · have rebuilt := dirIndexRebuild_agrees sb s feature quiet wellformed
        rw [rebuilt.1.blocks]
        exact ⟨wellformed, rebuilt.2⟩
      · have rebuilt := dirIndexRebuild_safe sb s feature wellformed safe
        rw [rebuilt.1]
        exact ⟨wellformed, rebuilt.2⟩

theorem runSteps_agrees (sb : DirSuper) (feature : sb.dirIndex = true) (steps : List DirStep)
    (s : DirState) (wellformed : Wellformed sb s.blocks) (agrees : Agrees sb s)
    (admissible : ∀ step, step ∈ steps → step.request.Admissible sb)
    (undisturbed : UndisturbedRun sb steps s) :
    Wellformed sb (runSteps sb steps s).blocks ∧ Agrees sb (runSteps sb steps s) := by
  induction steps generalizing s with
  | nil => exact ⟨wellformed, agrees⟩
  | cons step rest ih =>
      obtain ⟨here, later⟩ := undisturbed
      have next := step.request.run_agrees sb (step.start s) feature wellformed agrees
        (admissible step List.mem_cons_self) here
      exact ih _ next.1 next.2
        (fun other member => admissible other (List.mem_cons_of_mem _ member)) later

/-- Along every undisturbed run the index agrees with the blocks, and a lookup finds with it what
it finds without it. -/
theorem dirIndex_agrees (sb : DirSuper) (feature : sb.dirIndex = true) (steps : List DirStep)
    (s : DirState) (wellformed : Wellformed sb s.blocks) (agrees : Agrees sb s)
    (admissible : ∀ step, step ∈ steps → step.request.Admissible sb)
    (undisturbed : UndisturbedRun sb steps s) :
    Agrees sb (runSteps sb steps s) ∧ ∀ name,
      (findEntry sb name { runSteps sb steps s with faults := [] }).1 =
        (findEntry sb name { runSteps sb steps s with index := none, faults := [] }).1 := by
  obtain ⟨kept, reached⟩ := runSteps_agrees sb feature steps s wellformed agrees admissible
    undisturbed
  refine ⟨reached, ?_⟩
  intro name
  have found := findEntry_quiet sb { runSteps sb steps s with faults := [] } rfl kept.valid name
  have scanned := findEntry_quiet sb { runSteps sb steps s with index := none, faults := [] } rfl
    kept.valid name
  rw [found, scanned, Agrees.lookup (s := { runSteps sb steps s with faults := [] }) reached kept]
  rfl

/-- A cleared block does not pass for an index. -/
theorem decodeIndex_zero (sb : DirSuper) (block : Nat) :
    decodeIndex sb block (ByteBuf.zero BLOCK_SIZE) = .error .euclean := by
  have magic : (ByteBuf.ofBytes DIR_INDEX_SIZE (ByteBuf.zero BLOCK_SIZE).byte :
      IndexBuf).get Index.magic ≠ DIR_INDEX_MAGIC := by
    rw [ByteBuf.get_congr _ (ByteBuf.zero DIR_INDEX_SIZE) Index.magic]
    · rw [ByteBuf.get_zero]
      decide
    · intro index covers
      rw [ByteBuf.byte_ofBytes _ _ (Nat.lt_of_lt_of_le covers.2 (by decide)), ByteBuf.byte_zero,
        ByteBuf.byte_zero]
  unfold decodeIndex
  split
  · rfl
  · simp only
    rw [if_pos (Or.inl magic)]

/-- The block `cryexts_init_dir_block` writes, and mkfs for the root. -/
def dotBlock (ino parent : Nat) : List DirEntry :=
  [{ inode := ino, recLen := 16, fileType := FT_DIR, name := [46] },
    { inode := parent, recLen := 4080, fileType := FT_DIR, name := [46, 46] }]

def sampleDirSuper : DirSuper :=
  { dirIndex := true, dirIndexSeed := 0, metadataCsum := false, fsGeneration := 1, maxInodes := 64 }

/-- A root directory as mkfs leaves it. -/
def sampleRoot : DirState :=
  { blocks := [dotBlock ROOT_INO ROOT_INO], index := none, grants := [], faults := [] }

/-- The root directory with one more entry. -/
def sampleAdded : List (List DirEntry) :=
  [[{ inode := ROOT_INO, recLen := 16, fileType := FT_DIR, name := [46] },
    { inode := ROOT_INO, recLen := 16, fileType := FT_DIR, name := [46, 46] },
    { inode := 3, recLen := 4064, fileType := FT_REG_FILE, name := [97] }]]

theorem sampleRoot_wellformed : Wellformed sampleDirSuper sampleRoot.blocks where
  valid := by
    intro records member
    rw [List.mem_singleton.mp member]
    exact ⟨by decide, by decide, rfl⟩
  few := by decide
  named := by
    intro records member
    rw [List.mem_singleton.mp member]
    decide

theorem sampleRoot_agrees : Agrees sampleDirSuper sampleRoot := by
  intro index loaded
  cases loaded

/-- Where the root directory has room for "a". -/
theorem sampleRoot_room (grants : List (Option (Nat × Block))) :
    findRoom sampleDirSuper [97] { sampleRoot with grants := grants } =
      (.ok (0, 1), { sampleRoot with grants := grants }) := by
  rfl

theorem dirIndex_agrees_small : sampleDirSuper.dirIndex = true ∧
    Agrees sampleDirSuper (runSteps sampleDirSuper
      [⟨.add [97] 3 FT_REG_FILE, [some (50, ByteBuf.zero BLOCK_SIZE)], []⟩,
        ⟨.delete [97], [], []⟩] sampleRoot) := by
  refine ⟨rfl, (dirIndex_agrees sampleDirSuper rfl _ sampleRoot sampleRoot_wellformed
    sampleRoot_agrees ?_ ?_).1⟩
  · intro step member
    rcases List.mem_cons.mp member with rfl | member
    · exact ⟨by decide, by decide, by decide, by decide⟩
    · rw [List.mem_singleton.mp member]
      exact trivial
  · refine ⟨?_, Or.inl ?_, trivial⟩
    · intro place t ran
      have room := sampleRoot_room [some (50, ByteBuf.zero BLOCK_SIZE)]
      have same := (Prod.mk.inj (room.symm.trans ran)).2
      rw [← same]
      refine ⟨rfl, ?_⟩
      intro _ index loaded
      have cleared := decodeIndex_zero sampleDirSuper 50
      change decodeIndex sampleDirSuper 50 (ByteBuf.zero BLOCK_SIZE) = .ok index at loaded
      rw [cleared] at loaded
      cases loaded
    · rfl

/-- An index with the name ".." in block 1 only. -/
def staleIndex : IndexBuf :=
  addMask ((ByteBuf.zero DIR_INDEX_SIZE).setAll [(Index.magic, DIR_INDEX_MAGIC),
    (Index.buckets, DIR_INDEX_BUCKETS)]) (bucketOf sampleDirSuper [46, 46]) 1

theorem staleIndex_sealed : Sealed staleIndex where
  magic := by
    unfold staleIndex
    rw [get_addMask _ _ _ _ (by decide), ByteBuf.setAll_cons, ByteBuf.setAll_cons,
      ByteBuf.setAll_nil, ByteBuf.get_set_apart _ _ _ _ (by decide),
      ByteBuf.get_set_same _ _ _ (by decide)]
    decide
  buckets := by
    unfold staleIndex
    rw [get_addMask _ _ _ _ (by decide), ByteBuf.setAll_cons, ByteBuf.setAll_cons,
      ByteBuf.setAll_nil, ByteBuf.get_set_same _ _ _ (by decide)]
    decide

/-- What the addition of "a" to the root makes of an index block it has just taken. -/
theorem sampleRoot_add (content : Block) (index : IndexBuf)
    (loaded : decodeIndex sampleDirSuper 50 content = .ok index) :
    runSteps sampleDirSuper [⟨.add [97] 3 FT_REG_FILE, [some (50, content)], []⟩] sampleRoot =
      { blocks := sampleAdded
        index := some (50, encodeIndex sampleDirSuper 50
          (indexWithName sampleDirSuper 1 0 [97] index))
        grants := []
        faults := [] } := by
  show (addEntry sampleDirSuper [97] 3 FT_REG_FILE
    { sampleRoot with grants := [some (50, content)] }).2 = _
  rw [addEntry_eq, Routine.bind_ok _ _ _ _ _ (sampleRoot_room [some (50, content)])]
  have ensured : dirIndexEnsure sampleDirSuper
      { blocks := sampleAdded, index := none, grants := [some (50, content)], faults := [] } =
      (.ok (), { blocks := sampleAdded, index := some (50, content), grants := [], faults := [] }) :=
    rfl
  unfold writeEntry
  rw [Routine.modify_bind, Routine.bind_ok _ _ _ _ _ (buffer_quiet _ rfl)]
  change (dirIndexAddName sampleDirSuper [97] 0
    { blocks := sampleAdded, index := none, grants := [some (50, content)], faults := [] }).2 = _
  rw [dirIndexAddName_loaded sampleDirSuper _ rfl _ rfl ensured 50 content rfl index loaded [97] 0
    (by decide)]
  rfl

/-- A lookup passes over block 0 when its mask has other bits only. -/
theorem lookupFrom_skipped (mask : Nat) (chosen : DirEntry → Bool) (records : List DirEntry)
    (other : mask.testBit 1 = true) (missing : mask.testBit 0 = false) :
    lookupFrom mask chosen 0 [records] = none := by
  have nonzero : mask ≠ 0 := by
    rintro rfl
    rw [Nat.zero_testBit] at other
    cases other
  unfold lookupFrom
  rw [if_pos ⟨nonzero, missing⟩]
  rfl

theorem maskBit_staleIndex (place : Nat) :
    maskBit staleIndex (bucketOf sampleDirSuper [46, 46]) place = decide (place = 1) := by
  unfold staleIndex
  rw [maskBit_addMask _ _ _ _ _ (bucketOf_lt _ _) (by decide)]
  have zero : maskBit ((ByteBuf.zero DIR_INDEX_SIZE).setAll [(Index.magic, DIR_INDEX_MAGIC),
      (Index.buckets, DIR_INDEX_BUCKETS)]) (bucketOf sampleDirSuper [46, 46]) place = false := by
    rw [ByteBuf.setAll_cons, ByteBuf.setAll_cons, ByteBuf.setAll_nil,
      maskBit_set_low _ _ _ _ _ (by decide), maskBit_set_low _ _ _ _ _ (by decide)]
    unfold maskBit
    rw [ByteBuf.get_zero, Nat.zero_testBit]
  rw [zero, Bool.or_false]
  simp only [true_and]

/-- What an index with ".." in block 1 only does to the root. -/
theorem sampleAdded_lost (content : Block) (stored : IndexBuf)
    (decoded : decodeIndex sampleDirSuper 50 content = .ok stored)
    (bits : ∀ place, maskBit stored (bucketOf sampleDirSuper [46, 46]) place = decide (place = 1))
    (s : DirState) (blocks : s.blocks = sampleAdded) (indexed : s.index = some (50, content))
    (quiet : s.faults = []) :
    ¬ Agrees sampleDirSuper s ∧ (findEntry sampleDirSuper [46, 46] s).1 = .error .enoent ∧
      (findEntry sampleDirSuper [46, 46] { s with index := none }).1 = .ok (0, 1) := by
  have loaded : loadIndex sampleDirSuper s.index = .ok stored := by
    rw [indexed]
    exact decoded
  have valid : ∀ records, records ∈ s.blocks → ValidBlock sampleDirSuper.maxInodes records := by
    intro records member
    rw [blocks] at member
    rw [List.mem_singleton.mp member]
    exact ⟨by decide, by decide, by decide, rfl⟩
  refine ⟨?_, ?_, ?_⟩
  · intro agrees
    have covered := (agrees stored loaded).2
    rw [blocks] at covered
    have bit := covered 0 _
      { inode := ROOT_INO, recLen := 16, fileType := FT_DIR, name := [46, 46] } rfl
      (by decide) (by decide)
    rw [bits 0] at bit
    cases bit
  · have mask : lookupMask sampleDirSuper s [46, 46] =
        stored.get (Index.blockMask (bucketOf sampleDirSuper [46, 46])) := by
      unfold lookupMask
      rw [loaded]
    have missed : lookupFrom (stored.get (Index.blockMask (bucketOf sampleDirSuper [46, 46])))
        (DirEntry.named [46, 46]) 0 sampleAdded = none :=
      lookupFrom_skipped _ _ _ (bits 1) (bits 0)
    rw [findEntry_quiet sampleDirSuper s quiet valid [46, 46], mask, blocks, missed]
    rfl
  · rw [findEntry_quiet sampleDirSuper { s with index := none } quiet valid [46, 46], blocks]
    rfl

/-- The first name added to the root takes a block whose old content passes for an index, and
".." is lost to lookups. -/
theorem dirIndex_disagrees :
    (DirRequest.add [97] 3 FT_REG_FILE).Admissible sampleDirSuper ∧
    ∃ after, runSteps sampleDirSuper [⟨.add [97] 3 FT_REG_FILE,
        [some (50, encodeIndex sampleDirSuper 50 staleIndex)], []⟩] sampleRoot = after ∧
      ¬ Agrees sampleDirSuper after ∧
      (findEntry sampleDirSuper [46, 46] after).1 = .error .enoent ∧
      (findEntry sampleDirSuper [46, 46] { after with index := none }).1 = .ok (0, 1) := by
  obtain ⟨index, loaded, members⟩ := decode_encode sampleDirSuper 50 staleIndex
    staleIndex_sealed.magic staleIndex_sealed.buckets
  have final : Sealed (indexWithName sampleDirSuper 1 0 [97] index) :=
    indexWithName_sealed sampleDirSuper 1 0 [97] index
      (sealed_of_load sampleDirSuper (some (50, _)) index loaded)
  obtain ⟨stored, decoded, same⟩ := decode_encode sampleDirSuper 50
    (indexWithName sampleDirSuper 1 0 [97] index) final.magic final.buckets
  have kept : ∀ place, maskBit stored (bucketOf sampleDirSuper [46, 46]) place =
      maskBit (indexWithName sampleDirSuper 1 0 [97] index) (bucketOf sampleDirSuper [46, 46])
        place := by
    intro place
    unfold maskBit
    rw [same _ (blockMask_fits _ (bucketOf_lt _ _)) (by decide)]
  have bits : ∀ place, maskBit stored (bucketOf sampleDirSuper [46, 46]) place =
      decide (place = 1) := by
    intro place
    rw [kept place]
    unfold indexWithName
    rw [maskBit_set_low _ _ _ _ _ (by decide), maskBit_set_low _ _ _ _ _ (by decide),
      maskBit_addMask _ _ _ _ _ (bucketOf_lt _ _) (by decide)]
    have other : bucketOf sampleDirSuper [46, 46] ≠ bucketOf sampleDirSuper [97] := by decide
    have old : maskBit index (bucketOf sampleDirSuper [46, 46]) place =
        maskBit staleIndex (bucketOf sampleDirSuper [46, 46]) place := by
      unfold maskBit
      rw [members _ (blockMask_fits _ (bucketOf_lt _ _)) (by decide)]
    rw [old, maskBit_staleIndex]
    simp [other]
  exact ⟨⟨by decide, by decide, by decide, by decide⟩, _, sampleRoot_add _ index loaded,
    sampleAdded_lost _ stored decoded bits _ rfl rfl rfl⟩

end Dir

end Cryexts
