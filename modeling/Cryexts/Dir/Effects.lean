import Cryexts.Dir.IndexKept

set_option autoImplicit false

namespace Cryexts

namespace Dir

open Routine (Moves)

/-- A run that has at most used up answers of the block layer. -/
structure OnlyReads (s after : DirState) : Prop where
  blocks : after.blocks = s.blocks
  index : after.index = s.index
  grants : after.grants = s.grants
  quiet : s.faults = [] → after.faults = []

instance : IsPreorder DirState OnlyReads where
  refl _ := ⟨rfl, rfl, rfl, id⟩
  trans _ _ _ first second := ⟨second.blocks.trans first.blocks, second.index.trans first.index,
    second.grants.trans first.grants, fun none => second.quiet (first.quiet none)⟩

theorem buffer_reads : Moves OnlyReads buffer := by
  intro s
  unfold buffer
  split
  · exact ⟨rfl, rfl, rfl, id⟩
  · rename_i rest faults
    refine ⟨rfl, rfl, rfl, ?_⟩
    intro none
    rw [none] at faults
    cases faults
  · rename_i rest faults
    refine ⟨rfl, rfl, rfl, ?_⟩
    intro none
    rw [none] at faults
    cases faults

section Reads

variable (sb : DirSuper)

theorem checkBlocks_reads (blocks : List (List DirEntry)) :
    Moves OnlyReads (checkBlocks sb blocks) := by
  induction blocks with
  | nil => exact Moves.pure ()
  | cons records rest ih =>
      unfold checkBlocks
      apply Moves.bind buffer_reads
      intro _
      cases walk sb.maxInodes (fun _ => false) 0 records with
      | error reason => exact Moves.fail reason
      | ok found => exact ih

theorem dirIndexLoad_reads : Moves OnlyReads (dirIndexLoad sb) := by
  unfold dirIndexLoad
  refine Moves.bind Moves.read fun s => ?_
  cases s.index with
  | none => exact Moves.fail _
  | some given =>
      apply Moves.bind buffer_reads
      intro _
      cases decodeIndex sb given.1 given.2 with
      | ok index => exact Moves.pure index
      | error reason => exact Moves.fail reason

theorem candidateMask_reads (name : List UInt8) : Moves OnlyReads (candidateMask sb name) := by
  unfold candidateMask
  apply Moves.orElse
  · exact Moves.bind (dirIndexLoad_reads sb) fun index => Moves.pure _
  · exact Moves.pure 0

theorem searchBlocks_reads (mask : Nat) (chosen : DirEntry → Bool) (logical : Nat)
    (blocks : List (List DirEntry)) : Moves OnlyReads (searchBlocks sb mask chosen logical blocks) := by
  induction blocks generalizing logical with
  | nil => exact Moves.pure none
  | cons records rest ih =>
      unfold searchBlocks
      split
      · exact ih (logical + 1)
      · apply Moves.bind buffer_reads
        intro _
        cases walk sb.maxInodes chosen 0 records with
        | error reason => exact Moves.fail reason
        | ok found =>
            cases found with
            | some position => exact Moves.pure _
            | none => exact ih (logical + 1)

theorem findEntry_reads (name : List UInt8) : Moves OnlyReads (findEntry sb name) := by
  unfold findEntry
  refine Moves.bind Moves.read fun s => ?_
  split
  · exact Moves.fail _
  · apply Moves.bind (candidateMask_reads sb name)
    intro mask
    apply Moves.bind (searchBlocks_reads sb mask _ 0 s.blocks)
    intro found
    cases found with
    | some place => exact Moves.pure place
    | none => exact Moves.fail _

theorem requireAbsent_reads (name : List UInt8) : Moves OnlyReads (requireAbsent sb name) := by
  intro s
  have moved := findEntry_reads sb name s
  unfold requireAbsent
  cases ran : findEntry sb name s with
  | mk outcome after =>
      rw [ran] at moved
      cases outcome with
      | ok found => exact moved
      | error reason =>
          simp only
          split
          · exact moved
          · exact moved

end Reads

/-- A search that succeeds has found what a search of readable blocks finds. -/
theorem searchBlocks_ok (sb : DirSuper) (mask : Nat) (chosen : DirEntry → Bool) (logical : Nat)
    (blocks : List (List DirEntry)) (s after : DirState) (found : Option (Nat × Nat))
    (valid : ∀ records, records ∈ blocks → ValidBlock sb.maxInodes records)
    (ran : searchBlocks sb mask chosen logical blocks s = (.ok found, after)) :
    found = lookupFrom mask chosen logical blocks := by
  induction blocks generalizing logical s with
  | nil => exact (Except.ok.inj (Prod.mk.inj ran).1).symm
  | cons records rest ih =>
      have here := walk_valid sb.maxInodes chosen 0 records (valid records List.mem_cons_self)
      have tail := ih (logical + 1)
      unfold searchBlocks at ran
      unfold lookupFrom
      by_cases skipped : mask ≠ 0 ∧ mask.testBit logical = false
      · rw [if_pos skipped] at ran ⊢
        exact tail s (fun other member => valid other (List.mem_cons_of_mem _ member)) ran
      · rw [if_neg skipped] at ran ⊢
        obtain ⟨_, later, _, ran⟩ := Routine.of_bind_ok _ _ _ _ _ ran
        rw [here] at ran
        cases positioned : records.findIdx? chosen with
        | some position =>
            rw [positioned] at ran
            exact (Except.ok.inj (Prod.mk.inj ran).1).symm
        | none =>
            rw [positioned] at ran
            exact tail later (fun other member => valid other (List.mem_cons_of_mem _ member)) ran

theorem lookupFrom_some (mask : Nat) (chosen : DirEntry → Bool) (logical : Nat)
    (blocks : List (List DirEntry)) (found position : Nat)
    (here : lookupFrom mask chosen logical blocks = some (found, position)) :
    ∃ records, logical ≤ found ∧ blocks[found - logical]? = some records ∧
      records.findIdx? chosen = some position := by
  induction blocks generalizing logical with
  | nil => cases here
  | cons records rest ih =>
      have later : lookupFrom mask chosen (logical + 1) rest = some (found, position) →
          ∃ others, logical ≤ found ∧ (records :: rest)[found - logical]? = some others ∧
            others.findIdx? chosen = some position := by
        intro there
        obtain ⟨others, after, inside, chose⟩ := ih (logical + 1) there
        refine ⟨others, by omega, ?_, chose⟩
        rw [show found - logical = found - (logical + 1) + 1 by omega, List.getElem?_cons_succ]
        exact inside
      unfold lookupFrom at here
      split at here
      · exact later here
      · cases positioned : records.findIdx? chosen with
        | none =>
            rw [positioned] at here
            exact later here
        | some first =>
            rw [positioned] at here
            obtain ⟨rfl, rfl⟩ := Prod.mk.inj (Option.some.inj here)
            refine ⟨records, Nat.le_refl _, ?_, positioned⟩
            rw [Nat.sub_self]
            rfl

/-- The place a successful lookup returns. -/
theorem findEntry_ok (sb : DirSuper) (name : List UInt8) (s after : DirState)
    (logical position : Nat)
    (valid : ∀ records, records ∈ s.blocks → ValidBlock sb.maxInodes records)
    (ran : findEntry sb name s = (.ok (logical, position), after)) :
    ∃ records, s.blocks[logical]? = some records ∧
      records.findIdx? (DirEntry.named name) = some position := by
  unfold findEntry at ran
  rw [Routine.read_bind] at ran
  split at ran
  · cases ran
  · obtain ⟨mask, masked, _, ran⟩ := Routine.of_bind_ok _ _ _ _ _ ran
    obtain ⟨found, searched, search, ran⟩ := Routine.of_bind_ok _ _ _ _ _ ran
    have same := searchBlocks_ok sb mask _ 0 s.blocks masked searched found valid search
    cases found with
    | none => cases ran
    | some place =>
        have equal : place = (logical, position) := Except.ok.inj (Prod.mk.inj ran).1
        rw [equal] at same
        obtain ⟨records, _, inside, chose⟩ := lookupFrom_some mask _ 0 s.blocks _ _ same.symm
        exact ⟨records, inside, chose⟩

/-- The index block the directory has or would be given agrees with its blocks. -/
def Safe (sb : DirSuper) (s : DirState) : Prop := Agrees sb { s with index := indexOrGrant s }

theorem Safe.agrees {sb : DirSuper} {s : DirState} (safe : Safe sb s) : Agrees sb s := by
  intro index loaded
  rcases Option.eq_none_or_eq_some s.index with bare | ⟨given, indexed⟩
  · rw [bare] at loaded
    cases loaded
  · have own : indexOrGrant s = s.index := by
      rw [indexOrGrant, indexed]
      rfl
    exact safe index (by rw [own]; exact loaded)

theorem safe_of_indexed (sb : DirSuper) (s : DirState) (given : Nat × Block)
    (indexed : s.index = some given) (agrees : Agrees sb s) : Safe sb s := by
  have own : indexOrGrant s = s.index := by
    rw [indexOrGrant, indexed]
    rfl
  intro index loaded
  exact agrees index (by rw [← own]; exact loaded)

theorem OnlyReads.safe {sb : DirSuper} {s after : DirState} (reads : OnlyReads s after)
    (safe : Safe sb s) : Safe sb after := by
  obtain ⟨blocks, index, grants, _⟩ := reads
  unfold Safe Agrees indexOrGrant at safe ⊢
  rw [index, grants, blocks]
  exact safe

theorem dirIndexStore_cases (sb : DirSuper) (index : IndexBuf) (s : DirState) :
    OnlyReads s (dirIndexStore sb index s).2 ∨ ∃ block content, s.index = some (block, content) ∧
      (dirIndexStore sb index s).2.blocks = s.blocks ∧
      (dirIndexStore sb index s).2.index = some (block, encodeIndex sb block index) := by
  unfold dirIndexStore
  rw [Routine.read_bind]
  rcases Option.eq_none_or_eq_some s.index with bare | ⟨given, indexed⟩
  · left
    rw [bare]
    exact ⟨rfl, rfl, rfl, id⟩
  · rw [indexed]
    have reads := buffer_reads s
    show OnlyReads s ((buffer >>= _) s).2 ∨ _
    cases ran : buffer s with
    | mk outcome after =>
        rw [ran] at reads
        cases outcome with
        | error reason =>
            left
            rw [Routine.bind_error _ _ _ _ _ ran]
            exact reads
        | ok done =>
            right
            refine ⟨given.1, given.2, rfl, ?_, ?_⟩
            · show ((buffer >>= _) s).2.blocks = _
              rw [Routine.bind_ok _ _ _ _ _ ran]
              exact reads.blocks
            · show ((buffer >>= _) s).2.index = _
              rw [Routine.bind_ok _ _ _ _ _ ran]
              rfl

theorem dirIndexLoad_ok (sb : DirSuper) (s after : DirState) (index : IndexBuf)
    (ran : dirIndexLoad sb s = (.ok index, after)) : loadIndex sb s.index = .ok index := by
  unfold dirIndexLoad at ran
  rw [Routine.read_bind] at ran
  rcases Option.eq_none_or_eq_some s.index with bare | ⟨given, indexed⟩
  · rw [bare] at ran
    cases ran
  · rw [indexed] at ran ⊢
    obtain ⟨_, later, _, ran⟩ := Routine.of_bind_ok _ _ _ _ _ ran
    show decodeIndex sb given.1 given.2 = .ok index
    cases decoded : decodeIndex sb given.1 given.2 with
    | ok found =>
        rw [decoded] at ran
        exact congrArg _ (Except.ok.inj (Prod.mk.inj ran).1)
    | error reason =>
        rw [decoded] at ran
        cases ran

section Faulty

variable (sb : DirSuper) (s : DirState) (feature : sb.dirIndex = true)
variable (wellformed : Wellformed sb s.blocks) (safe : Safe sb s)

include feature wellformed safe

/-- Whatever fails, a rebuild leaves an agreeing index if the block it works on agrees. -/
theorem dirIndexRebuild_safe : (dirIndexRebuild sb s).2.blocks = s.blocks ∧
    Agrees sb (dirIndexRebuild sb s).2 := by
  have stored : ∀ (t : DirState) (given : Nat × Block), t.index = some given →
      t.blocks = s.blocks → Agrees sb t → dirIndexEnsure sb s = (.ok (), t) →
      (dirIndexRebuild sb s).2.blocks = s.blocks ∧ Agrees sb (dirIndexRebuild sb s).2 := by
    intro t given indexed blocks agrees ensured
    unfold dirIndexRebuild
    rw [if_neg (by simp [feature]), Routine.bind_ok _ _ _ _ _ ensured, Routine.read_bind, blocks]
    have checked := checkBlocks_reads sb s.blocks t
    cases ran : checkBlocks sb s.blocks t with
    | mk outcome seen =>
        rw [ran] at checked
        have before := (checked.safe (safe_of_indexed sb t given indexed agrees)).agrees
        have same := checked.blocks.trans blocks
        cases outcome with
        | error reason =>
            rw [Routine.bind_error _ _ _ _ _ ran]
            exact ⟨same, before⟩
        | ok done =>
            rw [Routine.bind_ok _ _ _ _ _ ran]
            have put : (dirIndexStore sb (rebuiltIndex sb s.blocks) seen).2.blocks = s.blocks ∧
                Agrees sb (dirIndexStore sb (rebuiltIndex sb s.blocks) seen).2 := by
              rcases dirIndexStore_cases sb (rebuiltIndex sb s.blocks) seen with
                reads | ⟨block, content, here, kept, written⟩
              · refine ⟨reads.blocks.trans same, ?_⟩
                exact (reads.safe (checked.safe (safe_of_indexed sb t given indexed agrees))).agrees
              · refine ⟨kept.trans same, ?_⟩
                apply stored_agrees sb _ block _ (rebuiltIndex_sealed sb s.blocks) written
                · rw [kept, same]
                  exact rebuiltIndex_dirBlocks sb s.blocks wellformed.few
                · rw [kept, same]
                  exact rebuiltIndex_covered sb s.blocks wellformed.few
            cases wrote : dirIndexStore sb (rebuiltIndex sb s.blocks) seen with
            | mk outcome last =>
                rw [wrote] at put
                cases outcome with
                | error reason =>
                    rw [Routine.bind_error _ _ _ _ _ wrote]
                    exact put
                | ok done =>
                    rw [Routine.bind_ok _ _ _ _ _ wrote]
                    have flushed := buffer_reads last
                    refine ⟨flushed.blocks.trans put.1, ?_⟩
                    intro index loaded
                    rw [flushed.blocks]
                    exact put.2 index (by rw [← flushed.index]; exact loaded)
  rcases dirIndexEnsure_cases sb s feature with
    ⟨given, indexed, run⟩ | ⟨bare, given, rest, grants, run⟩ | ⟨bare, _, grants, failed⟩
  · exact stored s given indexed rfl safe.agrees run
  · apply stored { s with index := some given, grants := rest } given rfl rfl _ run
    intro index loaded
    apply safe index
    rw [indexOrGrant, bare, grants]
    exact loaded
  · have run : dirIndexRebuild sb s = (.error .enospc, { s with grants := grants }) := by
      unfold dirIndexRebuild
      rw [if_neg (by simp [feature]), Routine.bind_error _ _ _ _ _ failed]
    rw [run]
    refine ⟨rfl, ?_⟩
    intro index load
    rw [show ({ s with grants := grants } : DirState).index = none from bare] at load
    cases load

omit feature in
/-- Storing the index without a name, after a walk over the name's block. -/
theorem storeWithoutName_safe (name : List UInt8) (logical : Nat)
    (low : logical < s.blocks.length) (t : DirState) (reads : OnlyReads s t) (index : IndexBuf)
    (decoded : loadIndex sb s.index = .ok index) (stillInBlock : Bool)
    (gone : stillInBlock = false → ∀ records entry, s.blocks[logical]? = some records →
      entry ∈ records → entry.live = true → bucketOf sb entry.name ≠ bucketOf sb name) :
    (dirIndexStore sb (indexWithoutName sb t.blocks.length logical name stillInBlock index)
      t).2.blocks = s.blocks ∧
    Safe sb (dirIndexStore sb (indexWithoutName sb t.blocks.length logical name stillInBlock index)
      t).2 := by
  have count := congrArg List.length reads.blocks
  rcases dirIndexStore_cases sb (indexWithoutName sb t.blocks.length logical name stillInBlock
      index) t with only | ⟨block, content, had, kept, written⟩
  · exact ⟨only.blocks.trans reads.blocks, only.safe (reads.safe safe)⟩
  · generalize dirIndexStore sb (indexWithoutName sb t.blocks.length logical name stillInBlock
      index) t = ran at kept written ⊢
    have same := kept.trans reads.blocks
    refine ⟨same, safe_of_indexed sb _ _ written ?_⟩
    rw [count, ← same] at written
    apply indexWithoutName_agrees sb _ block name logical stillInBlock index _ _
      (sealed_of_load sb s.index index decoded) written
    · rw [same]
      exact (safe.agrees index decoded).2
    · rw [same]
      exact gone
    · rw [same]
      exact wellformed
    · rw [same]
      exact low

/-- Whatever fails, taking a name out leaves an agreeing index if the block worked on agrees. -/
theorem dirIndexRemoveName_safe (name : List UInt8) (logical : Nat)
    (low : logical < s.blocks.length) :
    (dirIndexRemoveName sb name logical s).2.blocks = s.blocks ∧
      Agrees sb (dirIndexRemoveName sb name logical s).2 := by
  have few := wellformed.few
  have twelve : DIRECT_BLOCKS = 12 := rfl
  unfold dirIndexRemoveName
  rw [if_neg (by simp [feature]), if_neg (by omega)]
  apply Routine.orElse_after (fun t => t.blocks = s.blocks ∧ Safe sb t)
    (fun t => t.blocks = s.blocks ∧ Agrees sb t)
  · have reads := dirIndexLoad_reads sb s
    cases ran : dirIndexLoad sb s with
    | mk outcome t =>
        rw [ran] at reads
        cases outcome with
        | error reason =>
            rw [Routine.bind_error _ _ _ _ _ ran]
            exact ⟨reads.blocks, reads.safe safe⟩
        | ok index =>
            have decoded := dirIndexLoad_ok sb s t index ran
            obtain ⟨records, here⟩ : ∃ records, s.blocks[logical]? = some records :=
              ⟨_, List.getElem?_eq_getElem low⟩
            have place : t.blocks.getD logical [] = records := by
              rw [reads.blocks, List.getD_eq_getElem?_getD, here]
              rfl
            have walked := walk_valid sb.maxInodes
              (fun de => de.live && bucketOf sb de.name == bucketOf sb name) 0 records
              (wellformed.valid records (List.mem_of_getElem? here))
            rw [Routine.bind_ok _ _ _ _ _ ran, Routine.read_bind, place, walked]
            apply storeWithoutName_safe sb s wellformed safe name logical low t reads index decoded
            intro absent others entry there member live equal
            have identical : records = others := Option.some.inj (here.symm.trans there)
            subst identical
            rw [Option.isSome_eq_false_iff, Option.isNone_iff_eq_none,
              List.findIdx?_eq_none_iff] at absent
            have refused := absent entry member
            rw [live, equal, beq_self_eq_true] at refused
            cases refused
  · intro after reached
    exact ⟨reached.1, reached.2.agrees⟩
  · intro after reached
    obtain ⟨blocks, still⟩ := reached
    have rebuilt := dirIndexRebuild_safe sb after feature (by rw [blocks]; exact wellformed) still
    exact ⟨rebuilt.1.trans blocks, rebuilt.2⟩

end Faulty

/-- The directory with one record cleared. -/
def DirState.clear (s : DirState) (logical position : Nat) : DirState :=
  { s with blocks := s.blocks.modify logical fun records => records.modify position DirEntry.cleared }

section Cleared

variable (sb : DirSuper) (s : DirState) (logical position : Nat)

/-- A record of the cleared directory was a record before, or is the cleared one. -/
theorem mem_clear (place : Nat) (records : List DirEntry)
    (found : (s.clear logical position).blocks[place]? = some records) :
    ∃ old, s.blocks[place]? = some old ∧
      (records = old ∨ records = old.modify position DirEntry.cleared) := by
  change (s.blocks.modify logical _)[place]? = some records at found
  rw [List.getElem?_modify, Option.map_eq_map, Option.map_eq_some_iff] at found
  obtain ⟨old, inside, same⟩ := found
  refine ⟨old, inside, ?_⟩
  split at same
  · exact Or.inr same.symm
  · exact Or.inl same.symm

theorem length_clear : (s.clear logical position).blocks.length = s.blocks.length := by
  show (s.blocks.modify logical _).length = _
  rw [List.length_modify]

theorem clear_agrees (agrees : Agrees sb s) : Agrees sb (s.clear logical position) := by
  intro index loaded
  obtain ⟨count, covered⟩ := agrees index loaded
  refine ⟨count.trans (length_clear s logical position).symm, ?_⟩
  intro place records entry found member live
  obtain ⟨old, inside, same⟩ := mem_clear s logical position place records found
  apply covered place old entry inside _ live
  rcases same with rfl | rfl
  · exact member
  · exact mem_cleared_live position old entry member live

theorem clear_safe (safe : Safe sb s) : Safe sb (s.clear logical position) :=
  clear_agrees sb { s with index := indexOrGrant s } logical position safe

theorem clear_wellformed (wellformed : Wellformed sb s.blocks) :
    Wellformed sb (s.clear logical position).blocks where
  valid := by
    intro records member
    obtain ⟨place, found⟩ := List.getElem?_of_mem member
    obtain ⟨old, inside, same⟩ := mem_clear s logical position place records found
    have before := wellformed.valid old (List.mem_of_getElem? inside)
    rcases same with rfl | rfl
    · exact before
    · exact cleared_valid sb.maxInodes 0 position old before
  few := by
    rw [length_clear]
    exact wellformed.few
  named := by
    intro records member entry inside used
    obtain ⟨place, found⟩ := List.getElem?_of_mem member
    obtain ⟨old, there, same⟩ := mem_clear s logical position place records found
    have before := wellformed.named old (List.mem_of_getElem? there) entry
    rcases same with rfl | rfl
    · exact before inside used
    · obtain ⟨spot, at_⟩ := List.getElem?_of_mem inside
      rw [List.getElem?_modify, Option.map_eq_map, Option.map_eq_some_iff] at at_
      obtain ⟨first, had, changed⟩ := at_
      split at changed
      · rw [← changed] at used
        exact absurd rfl used
      · have equal : first = entry := changed
        rw [← equal]
        apply wellformed.named old (List.mem_of_getElem? there) first (List.mem_of_getElem? had)
        rw [equal]
        exact used

end Cleared

/-- What a deletion does: nothing, or it clears a record and then, unless the inode cannot be
written, takes the name out of the index. -/
theorem deleteEntry_cases (sb : DirSuper) (name : List UInt8) (s : DirState)
    (valid : ∀ records, records ∈ s.blocks → ValidBlock sb.maxInodes records) :
    OnlyReads s (deleteEntry sb name s).2 ∨
    ∃ logical position records t, s.blocks[logical]? = some records ∧
      records.findIdx? (DirEntry.named name) = some position ∧
      OnlyReads (s.clear logical position) t ∧
      ((deleteEntry sb name s).2 = t ∨
        (deleteEntry sb name s).2 = (dirIndexRemoveName sb name logical t).2) := by
  have reads := findEntry_reads sb name s
  unfold deleteEntry
  cases ran : findEntry sb name s with
  | mk outcome after =>
      rw [ran] at reads
      cases outcome with
      | error reason =>
          left
          rw [Routine.bind_error _ _ _ _ _ ran]
          exact reads
      | ok place =>
          right
          obtain ⟨logical, position⟩ := place
          obtain ⟨records, inside, chose⟩ := findEntry_ok sb name s after logical position valid ran
          rw [Routine.bind_ok _ _ _ _ _ ran]
          have cleared : OnlyReads (s.clear logical position) (after.clear logical position) := by
            refine ⟨?_, reads.index, reads.grants, reads.quiet⟩
            show after.blocks.modify logical _ = s.blocks.modify logical _
            rw [reads.blocks]
          have moved := buffer_reads (after.clear logical position)
          refine ⟨logical, position, records, (buffer (after.clear logical position)).2, inside,
            chose, IsTrans.trans _ _ _ cleared moved, ?_⟩
          show ((buffer >>= fun _ => dirIndexRemoveName sb name logical)
              (after.clear logical position)).2 = _ ∨
            ((buffer >>= fun _ => dirIndexRemoveName sb name logical)
              (after.clear logical position)).2 = _
          cases wrote : buffer (after.clear logical position) with
          | mk outcome t =>
              cases outcome with
              | error reason =>
                  left
                  rw [Routine.bind_error _ _ _ _ _ wrote]
              | ok done =>
                  right
                  rw [Routine.bind_ok _ _ _ _ _ wrote]

theorem OnlyReads.agrees {sb : DirSuper} {s after : DirState} (reads : OnlyReads s after)
    (agrees : Agrees sb s) : Agrees sb after := by
  unfold Agrees at agrees ⊢
  rw [reads.index, reads.blocks]
  exact agrees

/-- A deletion leaves an agreeing index when no I/O fails, or when the index block it works on
agrees. -/
theorem deleteEntry_agrees (sb : DirSuper) (name : List UInt8) (s : DirState)
    (feature : sb.dirIndex = true) (wellformed : Wellformed sb s.blocks) (agrees : Agrees sb s)
    (undisturbed : s.faults = [] ∨ Safe sb s) :
    Wellformed sb (deleteEntry sb name s).2.blocks ∧ Agrees sb (deleteEntry sb name s).2 := by
  rcases deleteEntry_cases sb name s wellformed.valid with
    reads | ⟨logical, position, records, t, inside, _, reads, same | same⟩
  · rw [reads.blocks]
    exact ⟨wellformed, reads.agrees agrees⟩
  · rw [same, reads.blocks]
    exact ⟨clear_wellformed sb s logical position wellformed,
      reads.agrees (clear_agrees sb s logical position agrees)⟩
  · have kept : Wellformed sb t.blocks := by
      rw [reads.blocks]
      exact clear_wellformed sb s logical position wellformed
    have low : logical < t.blocks.length := by
      rw [reads.blocks, length_clear]
      exact (List.getElem?_eq_some_iff.mp inside).1
    have removed : (dirIndexRemoveName sb name logical t).2.blocks = t.blocks ∧
        Agrees sb (dirIndexRemoveName sb name logical t).2 := by
      rcases undisturbed with quiet | safe
      · have ran := dirIndexRemoveName_agrees sb t feature (reads.quiet quiet) kept name logical low
          (reads.agrees (clear_agrees sb s logical position agrees))
        exact ⟨ran.1.blocks, ran.2⟩
      · exact dirIndexRemoveName_safe sb t feature kept
          (reads.safe (clear_safe sb s logical position safe)) name logical low
    rw [same, removed.1]
    exact ⟨kept, removed.2⟩

end Dir

end Cryexts
