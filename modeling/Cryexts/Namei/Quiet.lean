import Cryexts.Namei.Listing

set_option autoImplicit false

namespace Cryexts

namespace Namei

open Dir (DirEntry DirOp DirState DirSuper)

/-- Every record of a valid block has been checked at its place. -/
theorem valid_record {maxInodes offset : Nat} {records : List DirEntry}
    (valid : Dir.ValidFrom maxInodes offset records) :
    ∀ de ∈ records, ∃ place, Dir.validateDirent maxInodes place de = true := by
  induction records generalizing offset with
  | nil => simp
  | cons first rest ih =>
      intro de member
      rcases List.mem_cons.mp member with rfl | later
      · exact ⟨offset, valid.1⟩
      · exact ih valid.2 de later

section Directories

variable {sb : DirSuper} {state : DirState} {mode : Nat → Nat} {dir parent : Nat}
  {held : List UInt8 → Nat → Prop} (listing : Listing sb state mode dir parent held)
  (quiet : state.faults = [])

include listing quiet

/-- Without faults a lookup finds a name that is shown. -/
theorem Listing.finds {name : List UInt8} {ino kind : Nat}
    (shown : Shows mode dir parent held name ino kind) :
    ∃ place, Dir.findEntry sb name state = (.ok place, state) := by
  obtain ⟨names, holds, shows⟩ := listing.names
  have looked := Dir.findEntry_quiet sb state quiet holds.wellformed.valid name
  have mask : Dir.lookupMask sb state name = 0 := by
    unfold Dir.lookupMask
    rw [holds.bare]
    rfl
  rw [mask] at looked
  cases place : Dir.lookupFrom 0 (Dir.DirEntry.named name) 0 state.blocks with
  | some found =>
      rw [place] at looked
      exact ⟨found, looked⟩
  | none =>
      have others := Dir.lookupFrom_none _ 0 _ place
      obtain ⟨pos, member⟩ := (holds.listed name ino kind).mpr ((shows name ino kind).mpr shown)
      obtain ⟨de, inside, live, here⟩ := Dir.spots_live 0 _ _ member
      obtain ⟨records, block, found⟩ := List.mem_flatten.mp inside
      have passed := others records block de found
      have title : de.name = name := congrArg Dir.Emitted.name here
      simp only [Dir.DirEntry.live, Bool.and_eq_true, bne_iff_ne] at live
      simp [Dir.DirEntry.named, live.1, title] at passed

/-- Without faults a lookup misses any other name. -/
theorem Listing.misses {name : List UInt8} (other : ∀ ino kind, ¬ Shows mode dir parent held name
    ino kind) : Dir.findEntry sb name state = (.error .enoent, state) := by
  obtain ⟨names, holds, shows⟩ := listing.names
  have looked := Dir.findEntry_quiet sb state quiet holds.wellformed.valid name
  cases place : Dir.lookupFrom (Dir.lookupMask sb state name) (Dir.DirEntry.named name) 0
      state.blocks with
  | none =>
      rw [place] at looked
      exact looked
  | some found =>
      rw [place] at looked
      obtain ⟨records, de, block, here, live, title⟩ := listing.found looked
      have shown := entry_listed listing records de _ _ block here live
      rw [title] at shown
      exact absurd shown (other _ _)

variable (plain : sb.dirIndex = false)

include plain

/-- A name that is held can be deleted. -/
theorem Listing.deletes {name : List UInt8} {ino : Nat} (here : held name ino) :
    ∃ after, Dir.deleteEntry sb name state = (.ok (), after) := by
  obtain ⟨place, found⟩ := listing.finds quiet (Or.inr (Or.inr ⟨here, rfl⟩))
  unfold Dir.deleteEntry
  rw [Routine.bind_ok _ _ _ _ _ found]
  simp only
  rw [Routine.modify_bind]
  have removed : Dir.dirIndexRemoveName sb name place.1 = pure () := if_pos plain
  rw [removed]
  exact ⟨_, Routine.bind_ok _ _ _ _ _ (Dir.buffer_quiet _ quiet)⟩

omit listing plain in
theorem findRoom_quiet {name : List UInt8} {place : Nat × Nat} {after : DirState}
    (ran : Dir.findRoom sb name state = (.ok place, after)) : after.faults = [] := by
  obtain ⟨_, first, checked, ran⟩ := Routine.of_bind_ok _ _ _ _ _ ran
  obtain ⟨_, same⟩ := Routine.of_require_ok _ _ _ _ checked
  rw [same] at ran
  obtain ⟨_, absent, searched, ran⟩ := Routine.of_bind_ok _ _ _ _ _ ran
  have clear := ((Dir.requireAbsent_reads sb name).of_run searched).quiet quiet
  rw [Routine.read_bind] at ran
  obtain ⟨found, seen, search, ran⟩ := Routine.of_bind_ok _ _ _ _ _ ran
  have clear := ((Dir.searchBlocks_reads sb 0 _ 0 absent.blocks).of_run search).quiet clear
  cases found with
  | some chosen =>
      rw [← (Prod.mk.inj ran).2]
      exact clear
  | none =>
      simp only at ran
      obtain ⟨_, ran⟩ := Routine.of_require_bind_ok _ _ _ _ _ _ ran
      obtain ⟨given, granted, taken, ran⟩ := Routine.of_bind_ok _ _ _ _ _ ran
      obtain ⟨_, flushed, wrote, ran⟩ := Routine.of_bind_ok _ _ _ _ _ ran
      have kept : granted.faults = seen.faults := by
        unfold Dir.grant at taken
        split at taken
        · cases taken
        · cases taken
        · rw [← (Prod.mk.inj taken).2]
      rw [Routine.modify_bind] at ran
      rw [← (Prod.mk.inj ran).2]
      exact (Dir.buffer_reads.of_run wrote).quiet (kept.trans clear)

omit listing in
/-- Without faults an addition that has found room succeeds. -/
theorem writeEntry_quiet (name : List UInt8) (ino kind logical position : Nat) :
    ∃ after, Dir.writeEntry sb name ino kind logical position state = (.ok (), after) := by
  unfold Dir.writeEntry
  rw [Routine.modify_bind]
  have added : Dir.dirIndexAddName sb name logical = pure () := if_pos plain
  rw [added]
  exact ⟨_, Routine.bind_ok _ _ _ _ _ (Dir.buffer_quiet _ quiet)⟩

omit listing in
/-- Without faults a failed addition leaves the directory as it was. -/
theorem addEntry_refused {name : List UInt8} {ino kind : Nat} {reason : Errno} {after : DirState}
    (ran : Dir.addEntry sb name ino kind state = (.error reason, after)) :
    after.blocks = state.blocks ∧ after.index = state.index := by
  rw [Dir.addEntry_eq] at ran
  rcases Routine.of_bind_error _ _ _ _ _ ran with failed | ⟨place, seen, found, ran⟩
  · exact Dir.findRoom_error sb name state after reason failed
  · obtain ⟨_, wrote⟩ := writeEntry_quiet (findRoom_quiet quiet found) plain name ino kind
      place.1 place.2
    rw [wrote] at ran
    cases ran

omit quiet in
/-- The record of a deleted name has room for a name of that length. -/
theorem Listing.vacates {name : List UInt8} {after : DirState}
    (ran : Dir.deleteEntry sb name state = (.ok (), after)) :
    ∃ records ∈ after.blocks, ∃ de ∈ records, Dir.fits (Dir.dirRecLen name.length) de = true := by
  obtain ⟨place, seen, found, ran⟩ := Routine.of_bind_ok _ _ _ _ _ ran
  obtain ⟨logical, position⟩ := place
  simp only at ran
  rw [Routine.modify_bind] at ran
  obtain ⟨_, flushed, wrote, ran⟩ := Routine.of_bind_ok _ _ _ _ _ ran
  rw [Dir.dirIndexRemoveName, if_pos plain] at ran
  have final := (Dir.buffer_reads.of_run wrote).blocks
  rw [(Prod.mk.inj ran).2] at final
  have reads := (Dir.findEntry_reads sb name).of_run found
  obtain ⟨records, de, block, here, live, title⟩ := listing.found found
  have cleared : after.blocks[logical]? = some (records.modify position DirEntry.cleared) := by
    rw [final, List.getElem?_modify_eq, reads.blocks, block]
    rfl
  have record : (records.modify position DirEntry.cleared)[position]? = some de.cleared := by
    rw [List.getElem?_modify_eq, here]
    rfl
  refine ⟨_, List.mem_of_getElem? cleared, _, List.mem_of_getElem? record, ?_⟩
  obtain ⟨names, holds, _⟩ := listing.names
  obtain ⟨offset, valid⟩ := valid_record (holds.wellformed.valid records
    (List.mem_of_getElem? block)) de (List.mem_of_getElem? here)
  obtain ⟨header, aligned, _, length, _⟩ := (Dir.validateDirent_iff _ _ _).mp valid
  rw [title] at length
  have need : Dir.dirRecLen name.length ≤ de.recLen := by
    unfold Dir.dirRecLen
    omega
  simp [Dir.fits, DirEntry.cleared, need]

/-- A free name is added where a record has room for it. -/
theorem Listing.fills {name : List UInt8} (ino kind : Nat)
    (free : ∀ ino kind, ¬ Shows mode dir parent held name ino kind)
    (short : name.length ≤ Dir.NAME_LEN)
    (room : ∃ records ∈ state.blocks, ∃ de ∈ records,
      Dir.fits (Dir.dirRecLen name.length) de = true) :
    ∃ after, Dir.addEntry sb name ino kind state = (.ok (), after) := by
  have absent : Dir.requireAbsent sb name state = (.ok (), state) := by
    unfold Dir.requireAbsent
    rw [listing.misses quiet free]
    rfl
  obtain ⟨names, holds, _⟩ := listing.names
  have searched := Dir.searchBlocks_quiet sb state quiet 0
    (Dir.fits (Dir.dirRecLen name.length)) 0 state.blocks holds.wellformed.valid
  have found : ∃ place, Dir.findRoom sb name state = (.ok place, state) := by
    unfold Dir.findRoom
    rw [Routine.require_bind _ _ _ _ short, Routine.bind_ok _ _ _ _ _ absent, Routine.read_bind,
      Routine.bind_ok _ _ _ _ _ searched]
    cases chosen : Dir.lookupFrom 0 (Dir.fits (Dir.dirRecLen name.length)) 0 state.blocks with
    | some place => exact ⟨place, rfl⟩
    | none =>
        obtain ⟨records, block, de, here, fit⟩ := room
        rw [Dir.lookupFrom_none _ 0 _ chosen records block de here] at fit
        cases fit
  obtain ⟨place, found⟩ := found
  rw [Dir.addEntry_eq, Routine.bind_ok _ _ _ _ _ found]
  exact writeEntry_quiet quiet plain name ino kind place.1 place.2

end Directories

end Namei

end Cryexts
