import Cryexts.Dir.Enumeration
import Cryexts.Lib.ListAt

set_option autoImplicit false

namespace Cryexts

namespace Dir

open Cursor (Ordered Inserted between Emits times Distinct Fair)

/-- The live entries of a directory, each at the byte offset of its record. -/
def entries (s : DirState) : List (Nat × Emitted) := spots 0 s.blocks.flatten

/-- No record boundary is lost. -/
def Keeps (before after : List DirEntry) : Prop := ∀ pos, Boundary before pos → Boundary after pos

section Rewritten

variable (front rest new : List DirEntry) (de : DirEntry)

/-- One record rewritten in its own bytes keeps every boundary. -/
theorem rewritten_keeps (size : extent new = de.recLen) (filled : new ≠ []) :
    Keeps (front ++ [de] ++ rest) (front ++ new ++ rest) := by
  have same : extent [de] = extent new := by rw [size, extent_cons, extent_nil, Nat.add_zero]
  intro pos boundary
  simp only [Boundary, extent_append, starts_append, ← same] at boundary ⊢
  rcases boundary with inside | ended
  · left
    simp only [List.mem_append] at inside ⊢
    rcases inside with (early | here) | late
    · exact Or.inl (Or.inl early)
    · left
      right
      rw [List.mem_singleton.mp here]
      cases new with
      | nil => exact absurd rfl filled
      | cons first others => exact List.mem_cons_self
    · exact Or.inr late
  · exact Or.inr ended

theorem rewritten_inserted (size : extent new = de.recLen) (spot : Nat × Emitted)
    (inserted : Inserted spot (spots (extent front) [de]) (spots (extent front) new)) :
    Inserted spot (spots 0 (front ++ [de] ++ rest)) (spots 0 (front ++ new ++ rest)) := by
  have same : extent [de] = extent new := by rw [size, extent_cons, extent_nil, Nat.add_zero]
  simp only [spots_append, extent_append, Nat.zero_add, ← same]
  exact inserted.within _ _

theorem rewritten_removed (size : extent new = de.recLen) (spot : Nat × Emitted)
    (removed : Inserted spot (spots (extent front) new) (spots (extent front) [de])) :
    Inserted spot (spots 0 (front ++ new ++ rest)) (spots 0 (front ++ [de] ++ rest)) := by
  have same : extent [de] = extent new := by rw [size, extent_cons, extent_nil, Nat.add_zero]
  simp only [spots_append, extent_append, Nat.zero_add, ← same]
  exact removed.within _ _

end Rewritten

section Placed

variable (ino fileType : Nat) (name : List UInt8) (de : DirEntry)

theorem placed_extent (fit : fits (dirRecLen name.length) de = true) :
    extent (placed ino fileType name de) = de.recLen := by
  simp only [fits, Bool.or_eq_true, Bool.and_eq_true, beq_iff_eq, decide_eq_true_eq] at fit
  unfold placed
  split
  · simp
  · rename_i occupied
    simp only [extent_cons, extent_nil]
    omega

theorem placed_ne_nil : placed ino fileType name de ≠ [] := by
  unfold placed
  split <;> simp

/-- The new entry is the one live record that a placement adds. -/
theorem placed_inserted (base : Nat) (used : ino ≠ 0) (named : name ≠ []) :
    ∃ pos, Inserted (pos, ⟨name, ino, dtype fileType⟩) (spots base [de])
      (spots base (placed ino fileType name de)) := by
  have alive : ∀ recLen, (⟨ino, recLen, fileType, name⟩ : DirEntry).live = true := by
    intro recLen
    simp [DirEntry.live, used, named]
  unfold placed
  split
  · rename_i free
    have dead : de.live = false := by simp [DirEntry.live, free.1]
    refine ⟨base, [], [], ?_, ?_⟩
    · simp [spots, dead]
    · rw [spots, if_pos (alive _)]
      rfl
  · have kept : ({ de with recLen := dirRecLen de.name.length } : DirEntry).live = de.live := rfl
    refine ⟨base + dirRecLen de.name.length, spots base [de], [], by simp, ?_⟩
    cases live : de.live with
    | true =>
        rw [live] at kept
        simp only [spots, kept, live, alive]
        rfl
    | false =>
        rw [live] at kept
        simp only [spots, kept, live, alive]
        rfl

theorem cleared_removed (base : Nat) (live : de.live = true) :
    Inserted (base, de.emitted) (spots base [de.cleared]) (spots base [de]) := by
  refine ⟨[], [], ?_, ?_⟩
  · simp [spots, DirEntry.cleared, DirEntry.live]
  · simp [spots, live]

end Placed

theorem place_at (ino fileType : Nat) (name : List UInt8) (front rest : List DirEntry)
    (de : DirEntry) : place ino fileType name (front ++ de :: rest) front.length =
      front ++ placed ino fileType name de ++ rest := by
  induction front with
  | nil => rfl
  | cons first front ih => simp [place, ih]

/-- A record of a directory, between the ones before and behind it. -/
theorem flatten_at (blocks : List (List DirEntry)) (records : List DirEntry) (de : DirEntry)
    (logical position : Nat) (block : blocks[logical]? = some records)
    (record : records[position]? = some de) :
    ∃ front rest, blocks.flatten = front ++ [de] ++ rest ∧
      (∀ ino fileType name, (blocks.modify logical fun records =>
        place ino fileType name records position).flatten =
          front ++ placed ino fileType name de ++ rest) ∧
      (blocks.modify logical fun records => records.modify position DirEntry.cleared).flatten =
        front ++ [de.cleared] ++ rest := by
  obtain ⟨early, late, rfl, rfl⟩ := ListAt.of_getElem? blocks logical records block
  obtain ⟨before, behind, rfl, rfl⟩ := ListAt.of_getElem? records position de record
  refine ⟨early.flatten ++ before, behind ++ late.flatten, by simp, ?_, ?_⟩
  · intro ino fileType name
    rw [ListAt.modify_at, place_at]
    simp
  · rw [ListAt.modify_at, ListAt.modify_at]
    simp

theorem buffer_error (s t : DirState) (reason : Errno) (ran : buffer s = (.error reason, t)) :
    reason = .eio := by
  unfold buffer at ran
  split at ran
  · cases ran
  · cases ran
    rfl
  · cases ran

/-- A search of valid blocks fails only where a block cannot be read. -/
theorem searchBlocks_error (sb : DirSuper) (mask : Nat) (chosen : DirEntry → Bool) (logical : Nat)
    (blocks : List (List DirEntry)) (s t : DirState) (reason : Errno)
    (valid : ∀ records ∈ blocks, ValidBlock sb.maxInodes records)
    (ran : searchBlocks sb mask chosen logical blocks s = (.error reason, t)) : reason = .eio := by
  induction blocks generalizing logical s with
  | nil => cases ran
  | cons records rest ih =>
      have others : ∀ other ∈ rest, ValidBlock sb.maxInodes other := fun other member =>
        valid other (List.mem_cons_of_mem _ member)
      have here := walk_valid sb.maxInodes chosen 0 records (valid records List.mem_cons_self)
      unfold searchBlocks at ran
      split at ran
      · exact ih (logical + 1) s others ran
      · rcases Routine.of_bind_error _ _ _ _ _ ran with failed | ⟨_, after, _, ran⟩
        · exact buffer_error s t reason failed
        · rw [here] at ran
          cases found : records.findIdx? chosen with
          | some position =>
              rw [found] at ran
              cases ran
          | none =>
              rw [found] at ran
              exact ih (logical + 1) after others ran

theorem lookupFrom_none (chosen : DirEntry → Bool) (logical : Nat) (blocks : List (List DirEntry))
    (none : lookupFrom 0 chosen logical blocks = none) :
    ∀ records ∈ blocks, ∀ de ∈ records, chosen de = false := by
  induction blocks generalizing logical with
  | nil => simp
  | cons records rest ih =>
      unfold lookupFrom at none
      rw [if_neg (by simp)] at none
      cases found : records.findIdx? chosen with
      | some position =>
          rw [found] at none
          cases none
      | none =>
          rw [found] at none
          have later := ih (logical + 1) none
          intro other member
          rcases List.mem_cons.mp member with rfl | inside
          · rw [List.findIdx?_eq_none_iff] at found
            simpa using found
          · exact later other inside

/-- A lookup without an index that finds no entry. -/
theorem findEntry_missing (sb : DirSuper) (name : List UInt8) (s t : DirState)
    (valid : ∀ records ∈ s.blocks, ValidBlock sb.maxInodes records) (bare : s.index = none)
    (ran : findEntry sb name s = (.error .enoent, t)) :
    ∀ records ∈ s.blocks, ∀ de ∈ records, DirEntry.named name de = false := by
  unfold findEntry at ran
  rw [Routine.read_bind] at ran
  split at ran
  · rename_i empty
    rw [empty]
    simp
  · have masked : candidateMask sb name s = (.ok 0, s) := by
      unfold candidateMask
      rw [Routine.orElse_error _ _ s s .enoent]
      · rfl
      · apply Routine.bind_error
        rw [dirIndexLoad, Routine.read_bind, bare]
        rfl
    rw [Routine.bind_ok _ _ _ _ _ masked] at ran
    rcases Routine.of_bind_error _ _ _ _ _ ran with failed | ⟨found, after, search, _⟩
    · have other := searchBlocks_error sb 0 _ 0 s.blocks s t .enoent valid failed
      cases other
    · rename_i ran_found
      have same := searchBlocks_ok sb 0 _ 0 s.blocks s after found valid search
      cases found with
      | some place => cases ran_found
      | none => exact lookupFrom_none _ 0 s.blocks same.symm

/-- The names of a directory as a finite map, to inode and type. -/
abbrev Names : Type := List UInt8 → Option (Nat × Nat)

/-- A directory without an index holds a map: it is well formed, and its live entries are the
bindings of the map, with one record each. -/
structure HoldsNames (sb : DirSuper) (s : DirState) (names : Names) : Prop where
  wellformed : Wellformed sb s.blocks
  bare : s.index = none
  distinct : Distinct Emitted.name (entries s)
  listed : ∀ name ino kind,
    (∃ pos, (pos, ⟨name, ino, kind⟩) ∈ entries s) ↔ names name = some (ino, kind)

theorem spots_live (base : Nat) (records : List DirEntry) (spot : Nat × Emitted)
    (member : spot ∈ spots base records) :
    ∃ de ∈ records, de.live = true ∧ de.emitted = spot.2 := by
  induction records generalizing base with
  | nil => cases member
  | cons de rest ih =>
      have later : spot ∈ spots (base + de.recLen) rest →
          ∃ other ∈ de :: rest, other.live = true ∧ other.emitted = spot.2 := by
        intro inside
        obtain ⟨other, here, facts⟩ := ih _ inside
        exact ⟨other, List.mem_cons_of_mem _ here, facts⟩
      unfold spots at member
      split at member
      · rename_i live
        rcases List.mem_cons.mp member with rfl | inside
        · exact ⟨de, List.mem_cons_self, live, rfl⟩
        · exact later inside
      · exact later member

/-- The place for a new entry is looked for only if there is none of that name. -/
theorem findRoom_absent (sb : DirSuper) (name : List UInt8) (s t : DirState) (place : Nat × Nat)
    (valid : ∀ records ∈ s.blocks, ValidBlock sb.maxInodes records) (bare : s.index = none)
    (ran : findRoom sb name s = (.ok place, t)) :
    ∀ records ∈ s.blocks, ∀ de ∈ records, DirEntry.named name de = false := by
  obtain ⟨_, first, checked, ran⟩ := Routine.of_bind_ok _ _ _ _ _ ran
  obtain ⟨_, same⟩ := Routine.of_require_ok _ _ _ _ checked
  rw [same] at ran
  obtain ⟨_, after, searched, _⟩ := Routine.of_bind_ok _ _ _ _ _ ran
  unfold requireAbsent at searched
  cases looked : findEntry sb name s with
  | mk outcome seen =>
      rw [looked] at searched
      cases outcome with
      | ok found => cases searched
      | error reason =>
          simp only at searched
          split at searched
          · rename_i missing
            rw [missing] at looked
            exact findEntry_missing sb name s seen valid bare looked
          · cases searched

/-- A grown directory has the same entries, and has kept its boundaries. -/
theorem Room.grows {s t : DirState} {name : List UInt8} {place : Nat × Nat}
    (room : Room s t name place) :
    entries t = entries s ∧ Keeps s.blocks.flatten t.blocks.flatten := by
  unfold entries
  rcases room.grown with same | ⟨grown, _⟩
  · rw [same]
    exact ⟨rfl, fun _ boundary => boundary⟩
  · rw [grown, List.flatten_append, List.flatten_singleton, spots_append]
    constructor
    · rw [show spots _ freshBlock = [] from rfl, List.append_nil]
    · intro pos boundary
      rw [Boundary, starts_append, Nat.zero_add]
      rcases boundary with inside | ended
      · exact Or.inl (List.mem_append_left _ inside)
      · left
        rw [ended]
        exact List.mem_append_right _ List.mem_cons_self

section Changes

variable (sb : DirSuper) (plain : sb.dirIndex = false) (name : List UInt8) (s t : DirState)
  (names : Names) (holds : HoldsNames sb s names)

include plain

theorem writeEntry_plain (ino fileType logical position : Nat)
    (ran : writeEntry sb name ino fileType logical position s = (.ok (), t)) :
    t.blocks = (s.put name ino fileType logical position).blocks ∧ t.index = s.index := by
  unfold writeEntry at ran
  rw [Routine.modify_bind] at ran
  obtain ⟨_, after, wrote, ran⟩ := Routine.of_bind_ok _ _ _ _ _ ran
  have reads := buffer_reads.of_run wrote
  rw [dirIndexAddName, if_pos plain] at ran
  rw [← (Prod.mk.inj ran).2]
  exact ⟨reads.blocks, reads.index⟩

include holds

/-- A successful addition binds a name that was free. -/
theorem addEntry_holds (ino fileType : Nat)
    (entrant : name.length ≤ NAME_LEN → Entrant sb.maxInodes ino fileType name)
    (ran : addEntry sb name ino fileType s = (.ok (), t)) :
    names name = none ∧
      HoldsNames sb t (Function.update names name (some (ino, dtype fileType))) ∧
      (∃ pos, Inserted (pos, ⟨name, ino, dtype fileType⟩) (entries s) (entries t)) ∧
      Keeps s.blocks.flatten t.blocks.flatten := by
  rw [addEntry_eq] at ran
  obtain ⟨place, u, found, ran⟩ := Routine.of_bind_ok _ _ _ _ _ ran
  obtain ⟨blocks, index⟩ := writeEntry_plain sb plain name u t ino fileType _ _ ran
  have room := findRoom_ok sb name s u holds.wellformed.valid place found
  have absent := findRoom_absent sb name s u place holds.wellformed.valid holds.bare found
  have new := entrant room.short
  have used : ino ≠ 0 := Nat.pos_iff_ne_zero.mp new.low
  obtain ⟨same, grown⟩ := room.grows
  obtain ⟨records, de, block, record, fit⟩ := room.record
  obtain ⟨front, rest, before, after, _⟩ := flatten_at u.blocks records de _ _ block record
  have size := placed_extent ino fileType name de fit
  have flat : t.blocks.flatten = front ++ placed ino fileType name de ++ rest := by
    rw [blocks]
    exact after ino fileType name
  obtain ⟨pos, placed_in⟩ := placed_inserted ino fileType name de (extent front) used new.named
  have inserted : Inserted (pos, ⟨name, ino, dtype fileType⟩) (entries s) (entries t) := by
    rw [← same, entries, entries, before, flat]
    exact rewritten_inserted front rest _ de size _ placed_in
  have fresh : ∀ spot ∈ entries s, spot.2.name ≠ name := by
    intro spot member equal
    obtain ⟨old, inside, live, shown⟩ := spots_live 0 _ spot member
    obtain ⟨holder, there, here⟩ := List.mem_flatten.mp inside
    have other := absent holder there old here
    have title : old.name = name := by
      rw [← equal, ← shown]
      rfl
    simp only [DirEntry.live, Bool.and_eq_true, bne_iff_ne] at live
    simp [DirEntry.named, live.1, title] at other
  have free : names name = none := by
    cases bound : names name with
    | none => rfl
    | some binding =>
        obtain ⟨there, member⟩ := (holds.listed name binding.1 binding.2).mpr bound
        exact absurd rfl (fresh _ member)
  refine ⟨free, ⟨?_, ?_, ?_, ?_⟩, ⟨pos, inserted⟩, ?_⟩
  · have whole := put_wellformed sb s u name ino fileType place room
      (room.wellformed sb s u name place holds.wellformed) new
    rw [blocks]
    exact whole
  · rw [index, room.index, holds.bare]
  · exact inserted.distinct.mpr ⟨fresh, holds.distinct⟩
  · intro other number kind
    by_cases equal : other = name
    · rw [equal, Function.update_self]
      constructor
      · rintro ⟨there, member⟩
        rcases (inserted.mem _).mp member with new_one | old
        · have item := (Prod.mk.inj new_one).2
          rw [Emitted.mk.injEq] at item
          rw [item.2.1, item.2.2]
        · exact absurd rfl (fresh _ old)
      · intro binding
        have both := Prod.mk.inj (Option.some.inj binding)
        rw [← both.1, ← both.2]
        exact ⟨pos, (inserted.mem _).mpr (Or.inl rfl)⟩
    · rw [Function.update_of_ne equal, ← holds.listed]
      apply exists_congr
      intro there
      rw [inserted.mem]
      apply or_iff_right
      intro new_one
      have item := (Prod.mk.inj new_one).2
      rw [Emitted.mk.injEq] at item
      exact equal item.1
  · intro where_ boundary
    have kept := grown where_ boundary
    rw [before] at kept
    rw [flat]
    exact rewritten_keeps front rest _ de size (placed_ne_nil ino fileType name de) where_ kept

/-- A successful deletion unbinds its name. -/
theorem deleteEntry_holds (ran : deleteEntry sb name s = (.ok (), t)) :
    HoldsNames sb t (Function.update names name none) ∧
      (∃ pos entry, entry.name = name ∧ Inserted (pos, entry) (entries t) (entries s)) ∧
      Keeps s.blocks.flatten t.blocks.flatten := by
  obtain ⟨⟨logical, position⟩, u, found, ran⟩ := Routine.of_bind_ok _ _ _ _ _ ran
  simp only at ran
  rw [Routine.modify_bind] at ran
  obtain ⟨_, after, wrote, ran⟩ := Routine.of_bind_ok _ _ _ _ _ ran
  rw [dirIndexRemoveName, if_pos plain] at ran
  have looked := (findEntry_reads sb name).of_run found
  have moved := buffer_reads.of_run wrote
  obtain ⟨records, block, chose⟩ := findEntry_ok sb name s u logical position
    holds.wellformed.valid found
  obtain ⟨de, record, chosen⟩ : ∃ de, records[position]? = some de ∧
      DirEntry.named name de = true := by
    obtain ⟨low, chosen, _⟩ := List.findIdx?_eq_some_iff_getElem.mp chose
    exact ⟨_, List.getElem?_eq_getElem low, chosen⟩
  simp only [DirEntry.named, Bool.and_eq_true, bne_iff_ne, beq_iff_eq] at chosen
  have live : de.live = true := by
    have titled := holds.wellformed.named records (List.mem_of_getElem? block) de
      (List.mem_of_getElem? record) chosen.1
    simp [DirEntry.live, chosen.1, titled]
  obtain ⟨front, rest, before, _, cleared⟩ := flatten_at s.blocks records de _ _ block record
  have blocks : t.blocks = (s.clear logical position).blocks := by
    rw [← (Prod.mk.inj ran).2, moved.blocks, DirState.clear]
    simp only [looked.blocks]
  have flat : t.blocks.flatten = front ++ [de.cleared] ++ rest := by
    rw [blocks]
    exact cleared
  have size : extent [de.cleared] = de.recLen := rfl
  have removed : Inserted (extent front, de.emitted) (entries t) (entries s) := by
    rw [entries, entries, before, flat]
    exact rewritten_removed front rest _ de size _ (cleared_removed de _ live)
  obtain ⟨others, distinct⟩ := removed.distinct.mp holds.distinct
  have title : de.emitted.name = name := chosen.2
  refine ⟨⟨?_, ?_, distinct, ?_⟩, ⟨_, _, title, removed⟩, ?_⟩
  · rw [blocks]
    exact clear_wellformed sb s logical position holds.wellformed
  · rw [← (Prod.mk.inj ran).2, moved.index, ← holds.bare]
    exact looked.index
  · intro other number kind
    by_cases equal : other = name
    · rw [equal, Function.update_self]
      apply iff_of_false _ (by simp)
      rintro ⟨there, member⟩
      exact others _ member title.symm
    · rw [Function.update_of_ne equal, ← holds.listed]
      apply exists_congr
      intro there
      rw [removed.mem]
      symm
      apply or_iff_right
      intro old
      have item := (Prod.mk.inj old).2
      rw [← item] at title
      exact equal title
  · intro pos boundary
    rw [before] at boundary
    rw [flat]
    exact rewritten_keeps front rest _ de size (by simp) pos boundary

end Changes

/-- What happens to a directory and to its reader. -/
inductive Act
  | add (name : List UInt8) (ino fileType : Nat)
  | delete (name : List UInt8)
  | iterate (answers : List Bool)

/-- Successful additions and deletions, and calls of `cryexts_iterate` whatever comes of them. The
allocator, the block layer and `dir_emit` answer each call as they like. -/
inductive Step (sb : DirSuper) : Act → Session → Session → Prop
  | add (name : List UInt8) (ino fileType : Nat) (grants : List (Option (Nat × Block)))
      (faults : List Bool) (s : Session) (dir : DirState)
      (admissible : (DirRequest.add name ino fileType).Admissible sb)
      (ran : addEntry sb name ino fileType { s.dir with grants := grants, faults := faults } =
        (.ok (), dir)) :
      Step sb (.add name ino fileType) s { s with dir := dir }
  | delete (name : List UInt8) (grants : List (Option (Nat × Block))) (faults : List Bool)
      (s : Session) (dir : DirState)
      (ran : deleteEntry sb name { s.dir with grants := grants, faults := faults } =
        (.ok (), dir)) :
      Step sb (.delete name) s { s with dir := dir }
  | iterate (answers faults : List Bool) (s : Session) :
      Step sb (.iterate answers) s (iterate sb
        { dir := { s.dir with faults := faults }, ctx := { s.ctx with answers := answers } }).2

inductive Run (sb : DirSuper) (start : Session) : List Act → Session → Prop
  | nil : Run sb start [] start
  | snoc {acts : List Act} {act : Act} {s t : Session} (run : Run sb start acts s)
      (step : Step sb act s t) : Run sb start (acts ++ [act]) t

/-- What a step means for the map. -/
def Act.bind (names : Names) : Act → Names
  | .add name ino fileType => Function.update names name (some (ino, dtype fileType))
  | .delete name => Function.update names name none
  | .iterate _ => names

/-- The map of a directory that has only its dots. -/
def dotNames (ino parent : Nat) : Names :=
  Function.update (Function.update (fun _ => none) [46] (some (ino, DT_DIR))) [46, 46]
    (some (parent, DT_DIR))

/-- A reader that has just opened the directory. -/
def opened (dir : DirState) : Session := ⟨dir, ⟨0, [], []⟩⟩

/-- A directory as `cryexts_mkdir` makes it. -/
def created (ino parent : Nat) : Session :=
  opened { blocks := [dotBlock ino parent], index := none, grants := [], faults := [] }

/-- The directory holds its map, and the reader stands between two records. -/
structure Sound (sb : DirSuper) (s : Session) (names : Names) : Prop where
  holds : HoldsNames sb s.dir names
  stands : Boundary s.dir.blocks.flatten s.ctx.pos

theorem HoldsNames.answers {sb : DirSuper} {s : DirState} {names : Names}
    (holds : HoldsNames sb s names) (grants : List (Option (Nat × Block))) (faults : List Bool) :
    HoldsNames sb { s with grants := grants, faults := faults } names :=
  ⟨holds.wellformed, holds.bare, holds.distinct, holds.listed⟩

section Runs

variable (sb : DirSuper) (plain : sb.dirIndex = false)

theorem created_sound (ino parent : Nat) (low : ROOT_INO ≤ ino) (high : ino ≤ sb.maxInodes)
    (parent_low : ROOT_INO ≤ parent) (parent_high : parent ≤ sb.maxInodes) :
    Sound sb (created ino parent) (dotNames ino parent) := by
  have positive : 0 < ROOT_INO := by decide
  have own : ino ≠ 0 := by omega
  have above : parent ≠ 0 := by omega
  have listed : entries (created ino parent).dir =
      [(0, ⟨[46], ino, DT_DIR⟩), (16, ⟨[46, 46], parent, DT_DIR⟩)] := by
    simp [entries, created, opened, dotBlock, spots, DirEntry.live, DirEntry.emitted, own, above,
      dtype]
  have valid : ValidBlock sb.maxInodes (dotBlock ino parent) := by
    simp [ValidBlock, dotBlock, ValidFrom, validateDirent_iff, low, high, parent_low, parent_high,
      DIR_ENTRY_HEADER_SIZE, BLOCK_SIZE, NAME_LEN]
  refine ⟨⟨⟨?_, by simp [created, opened, DIRECT_BLOCKS], ?_⟩, rfl, ?_, ?_⟩,
    Or.inl List.mem_cons_self⟩
  · intro records member
    rw [List.mem_singleton.mp member]
    exact valid
  · intro records member de inside _
    rw [List.mem_singleton.mp member] at inside
    simp only [dotBlock, List.mem_cons, List.not_mem_nil, or_false] at inside
    rcases inside with rfl | rfl
    · simp
    · simp
  · rw [listed]
    simp [Distinct]
  · intro name number kind
    rw [listed, dotNames]
    by_cases second : name = [46, 46]
    · rw [second, Function.update_self]
      simp [eq_comm]
    · rw [Function.update_of_ne second]
      by_cases first : name = [46]
      · rw [first, Function.update_self]
        simp [eq_comm]
      · rw [Function.update_of_ne first]
        simp [first, second]

include plain

/-- One step keeps the directory and its reader sound, and every boundary. -/
theorem step_sound (act : Act) (s t : Session) (names : Names) (sound : Sound sb s names)
    (step : Step sb act s t) :
    Sound sb t (act.bind names) ∧ Keeps s.dir.blocks.flatten t.dir.blocks.flatten := by
  cases step with
  | add name ino fileType grants faults _ dir admissible ran =>
      obtain ⟨_, holds, _, keeps⟩ := addEntry_holds sb plain name _ dir names
        (sound.holds.answers grants faults) ino fileType (fun short =>
          ⟨admissible.1, short, admissible.2.1, admissible.2.2.1, admissible.2.2.2⟩) ran
      exact ⟨⟨holds, keeps _ sound.stands⟩, keeps⟩
  | delete name grants faults _ dir ran =>
      obtain ⟨holds, _, keeps⟩ := deleteEntry_holds sb plain name _ dir names
        (sound.holds.answers grants faults) ran
      exact ⟨⟨holds, keeps _ sound.stands⟩, keeps⟩
  | iterate answers faults =>
      obtain ⟨scanned, _⟩ := iterate_scanned sb
        { dir := { s.dir with faults := faults }, ctx := { s.ctx with answers := answers } }
        sound.holds.wellformed.valid sound.stands
      generalize (iterate sb _).2 = after at scanned ⊢
      have blocks : after.dir.blocks = s.dir.blocks := scanned.blocks
      have same : entries after.dir = entries s.dir := by rw [entries, blocks, entries]
      refine ⟨⟨⟨?_, ?_, ?_, ?_⟩, ?_⟩, ?_⟩
      · rw [blocks]
        exact sound.holds.wellformed
      · rw [scanned.index]
        exact sound.holds.bare
      · rw [same]
        exact sound.holds.distinct
      · rw [same]
        exact sound.holds.listed
      · have stands := scanned.stands
        rw [Nat.zero_add] at stands
        rw [blocks]
        exact stands
      · rw [blocks]
        exact fun _ boundary => boundary

/-- What was fair to a binding that a step leaves alone stays fair. -/
theorem step_fair {κ : Type} [DecidableEq κ] (key : Emitted → κ)
    (titled : ∀ first second, key first = key second → first.name = second.name) (act : Act)
    (s t : Session) (names : Names) (sound : Sound sb s names) (step : Step sb act s t)
    (entry : Emitted) (bound : names entry.name = some (entry.inode, entry.dtype))
    (kept : act ≠ .delete entry.name)
    (fair : Fair key (entries s.dir) s.ctx.pos s.ctx.emitted (key entry)) :
    Fair key (entries t.dir) t.ctx.pos t.ctx.emitted (key entry) := by
  cases step with
  | add name ino fileType grants faults _ dir admissible ran =>
      obtain ⟨free, _, ⟨pos, inserted⟩, _⟩ := addEntry_holds sb plain name _ dir names
        (sound.holds.answers grants faults) ino fileType (fun short =>
          ⟨admissible.1, short, admissible.2.1, admissible.2.2.1, admissible.2.2.2⟩) ran
      apply fair.of_mem
      intro spot member same
      rcases (inserted.mem spot).mp member with new | old
      · have title := titled _ _ same
        rw [new] at title
        simp only at title
        rw [title, bound] at free
        cases free
      · exact old
  | delete name grants faults _ dir ran =>
      obtain ⟨_, ⟨pos, other, _, removed⟩, _⟩ := deleteEntry_holds sb plain name _ dir names
        (sound.holds.answers grants faults) ran
      apply fair.of_mem
      intro spot member _
      exact (removed.mem spot).mpr (Or.inr member)
  | iterate answers faults =>
      obtain ⟨scanned, _⟩ := iterate_scanned sb
        { dir := { s.dir with faults := faults }, ctx := { s.ctx with answers := answers } }
        sound.holds.wellformed.valid sound.stands
      generalize (iterate sb _).2 = after at scanned ⊢
      have same : entries after.dir = entries s.dir := by
        rw [entries, entries]
        exact congrArg (fun blocks : List (List DirEntry) => spots 0 blocks.flatten) scanned.blocks
      rw [same]
      apply fair.emits _ scanned.emits
      have names_differ := sound.holds.distinct
      rw [Distinct, List.Nodup, List.pairwise_map] at names_differ ⊢
      exact names_differ.imp fun differ equal => differ (titled _ _ equal)

theorem run_sound (start t : Session) (acts : List Act) (names : Names)
    (sound : Sound sb start names) (run : Run sb start acts t) :
    Sound sb t (acts.foldl Act.bind names) ∧
      Keeps start.dir.blocks.flatten t.dir.blocks.flatten := by
  induction run with
  | nil => exact ⟨sound, fun _ boundary => boundary⟩
  | snoc run step ih =>
      obtain ⟨before, kept⟩ := ih
      obtain ⟨after, keeps⟩ := step_sound sb plain _ _ _ _ before step
      rw [List.foldl_append]
      exact ⟨after, fun pos boundary => keeps pos (kept pos boundary)⟩

omit plain in
/-- A binding that no step deletes is still there. -/
theorem bind_kept (names : Names) (name : List UInt8) (act : Act) (binding : Nat × Nat)
    (bound : names name = some binding) (kept : act ≠ .delete name)
    (free : ∀ ino fileType, act ≠ .add name ino fileType) :
    act.bind names name = some binding := by
  cases act with
  | add other ino fileType =>
      have differs : name ≠ other := by
        rintro rfl
        exact free ino fileType rfl
      rw [Act.bind, Function.update_of_ne differs, bound]
  | delete other =>
      have differs : name ≠ other := by
        rintro rfl
        exact kept rfl
      rw [Act.bind, Function.update_of_ne differs, bound]
  | iterate answers => exact bound

/-- No successful addition takes a bound name. -/
theorem step_free (act : Act) (s t : Session) (names : Names) (sound : Sound sb s names)
    (step : Step sb act s t) (name : List UInt8) (binding : Nat × Nat)
    (bound : names name = some binding) : ∀ ino fileType, act ≠ .add name ino fileType := by
  rintro ino fileType rfl
  cases step with
  | add _ _ _ grants faults _ dir admissible ran =>
      obtain ⟨free, _⟩ := addEntry_holds sb plain name _ dir names
        (sound.holds.answers grants faults) ino fileType (fun short =>
          ⟨admissible.1, short, admissible.2.1, admissible.2.2.1, admissible.2.2.2⟩) ran
      rw [bound] at free
      cases free

omit plain in
theorem opened_sound (dir : DirState) (names : Names) (holds : HoldsNames sb dir names) :
    Sound sb (opened dir) names := by
  refine ⟨holds, ?_⟩
  show Boundary dir.blocks.flatten 0
  cases dir.blocks.flatten with
  | nil => exact Or.inr rfl
  | cons de rest => exact Or.inl List.mem_cons_self

/-- A binding that outlives a run is enumerated fairly in it. -/
theorem run_fair {κ : Type} [DecidableEq κ] (key : Emitted → κ)
    (titled : ∀ first second, key first = key second → first.name = second.name)
    (dir : DirState) (t : Session) (acts : List Act) (names : Names)
    (holds : HoldsNames sb dir names) (run : Run sb (opened dir) acts t) (entry : Emitted)
    (bound : names entry.name = some (entry.inode, entry.dtype))
    (kept : Act.delete entry.name ∉ acts) :
    acts.foldl Act.bind names entry.name = some (entry.inode, entry.dtype) ∧
      Fair key (entries t.dir) t.ctx.pos t.ctx.emitted (key entry) := by
  have start := opened_sound sb dir names holds
  induction run with
  | nil => exact ⟨bound, Cursor.fair_start _ _⟩
  | @snoc acts act s t run step ih =>
      have early : Act.delete entry.name ∉ acts := fun member =>
        kept (List.mem_append_left _ member)
      have now : act ≠ .delete entry.name := by
        rintro rfl
        exact kept (List.mem_append_right _ List.mem_cons_self)
      obtain ⟨there, fair⟩ := ih early
      have sound := (run_sound sb plain _ s acts names start run).1
      have free := step_free sb plain act s t _ sound step entry.name _ there
      rw [List.foldl_append]
      exact ⟨bind_kept _ _ act _ there now free,
        step_fair sb plain key titled act s t _ sound step entry there now fair⟩

end Runs

/-- The directory is a finite map on records that fill its blocks, and its reader is between two
of them. -/
structure Refines (sb : DirSuper) (s : Session) (names : Names) : Prop where
  partitioned : ∀ records ∈ s.dir.blocks, ValidBlock sb.maxInodes records
  unique : ((entries s.dir).map fun spot => spot.2.name).Nodup
  bindings : ∀ name ino kind,
    (∃ pos, (pos, ⟨name, ino, kind⟩) ∈ entries s.dir) ↔ names name = some (ino, kind)
  stands : Boundary s.dir.blocks.flatten s.ctx.pos
  resumes : ∀ answers faults, (iterate sb ⟨{ s.dir with faults := faults },
    { s.ctx with answers := answers }⟩).1 ≠ .error .inside

/-- A reader has been shown an entry once if it has passed its record, and not yet otherwise;
at the end of the directory it has been shown it once. -/
structure Enumerated (t : Session) (entry : Emitted) : Prop where
  listed : ∃ pos, (pos, entry) ∈ entries t.dir
  passed : ∀ pos, (pos, entry) ∈ entries t.dir →
    t.ctx.emitted.count entry = (if pos < t.ctx.pos then 1 else 0) ∧
    times Emitted.name entry.name t.ctx.emitted = if pos < t.ctx.pos then 1 else 0
  complete : BLOCK_SIZE * t.dir.blocks.length ≤ t.ctx.pos →
    t.ctx.emitted.count entry = 1 ∧ times Emitted.name entry.name t.ctx.emitted = 1

/-- Every directory that additions and deletions make of a new one is the finite map of them, and
no boundary between its records is ever lost. A reader that opens it and reads on whenever it likes
is shown every entry exactly once that is there all the while. -/
theorem directory_refines (sb : DirSuper) (plain : sb.dirIndex = false) (ino parent : Nat)
    (low : ROOT_INO ≤ ino) (high : ino ≤ sb.maxInodes) (parent_low : ROOT_INO ≤ parent)
    (parent_high : parent ≤ sb.maxInodes) (history : List Act) (s : Session)
    (reached : Run sb (created ino parent) history s) :
    Refines sb s (history.foldl Act.bind (dotNames ino parent)) ∧
    ∀ acts t, Run sb (opened s.dir) acts t →
      Refines sb t (acts.foldl Act.bind (history.foldl Act.bind (dotNames ino parent))) ∧
      Keeps s.dir.blocks.flatten t.dir.blocks.flatten ∧
      ∀ entry : Emitted, history.foldl Act.bind (dotNames ino parent) entry.name =
          some (entry.inode, entry.dtype) → Act.delete entry.name ∉ acts → Enumerated t entry := by
  have refines : ∀ (u : Session) (names : Names), Sound sb u names → Refines sb u names := by
    intro u names sound
    refine ⟨sound.holds.wellformed.valid, sound.holds.distinct, sound.holds.listed, sound.stands, ?_⟩
    intro answers faults
    exact (iterate_scanned sb ⟨{ u.dir with faults := faults }, { u.ctx with answers := answers }⟩
      sound.holds.wellformed.valid sound.stands).2
  have sound := (run_sound sb plain _ s history _
    (created_sound sb ino parent low high parent_low parent_high) reached).1
  refine ⟨refines s _ sound, ?_⟩
  intro acts t run
  obtain ⟨later, keeps⟩ := run_sound sb plain _ t acts _ (opened_sound sb s.dir _ sound.holds) run
  refine ⟨refines t _ later, keeps, ?_⟩
  intro entry bound kept
  obtain ⟨still, whole⟩ := run_fair sb plain id (fun _ _ => congrArg Emitted.name) s.dir t acts _
    sound.holds run entry bound kept
  have titled := (run_fair sb plain Emitted.name (fun _ _ => id) s.dir t acts _
    sound.holds run entry bound kept).2
  obtain ⟨pos, member⟩ := (later.holds.listed _ _ _).mpr still
  have shown : ∀ pos, (pos, entry) ∈ entries t.dir →
      t.ctx.emitted.count entry = (if pos < t.ctx.pos then 1 else 0) ∧
      times Emitted.name entry.name t.ctx.emitted = if pos < t.ctx.pos then 1 else 0 := by
    intro pos member
    have once := whole pos entry member rfl
    rw [times, List.map_id] at once
    exact ⟨once, titled pos entry member rfl⟩
  refine ⟨⟨pos, member⟩, shown, ?_⟩
  intro ended
  have valid := later.holds.wellformed.valid
  have bound := (spots_range 0 _ (flatten_long sb.maxInodes _ valid) _ member).2
  rw [flatten_extent sb.maxInodes _ valid, Nat.zero_add] at bound
  have both := shown pos member
  rw [if_pos (Nat.lt_of_lt_of_le bound ended)] at both
  exact both

def plainSuper : DirSuper := { sampleDirSuper with dirIndex := false }

/-- A new directory with one more entry. -/
def createdAdded : DirState :=
  { blocks := [[{ inode := 2, recLen := 16, fileType := FT_DIR, name := [46] },
      { inode := 1, recLen := 16, fileType := FT_DIR, name := [46, 46] },
      { inode := 3, recLen := 4064, fileType := FT_REG_FILE, name := [97] }]]
    index := none
    grants := []
    faults := [] }

/-- "a" is created in a new directory, which is then read in one call. -/
theorem directory_refines_small : ∃ t, Run plainSuper (opened createdAdded)
      [.iterate [true, true, true]] t ∧
    t.ctx.emitted = [⟨[46], 2, DT_DIR⟩, ⟨[46, 46], 1, DT_DIR⟩, ⟨[97], 3, DT_REG⟩] ∧
    Enumerated t ⟨[97], 3, DT_REG⟩ := by
  have added : Run plainSuper (created 2 1) [.add [97] 3 FT_REG_FILE]
      { created 2 1 with dir := createdAdded } :=
    Run.snoc .nil
      (Step.add [97] 3 FT_REG_FILE [] [] _ _ ⟨by decide, by decide, by decide, by decide⟩ rfl)
  have reading : Run plainSuper (opened createdAdded) [.iterate [true, true, true]] _ :=
    Run.snoc .nil (Step.iterate [true, true, true] [] (opened createdAdded))
  refine ⟨_, reading, rfl, ?_⟩
  have refines := directory_refines plainSuper rfl 2 1 (by decide) (by decide) (by decide)
    (by decide) _ _ added
  apply (refines.2 _ _ reading).2.2
  · rfl
  · simp

end Dir

end Cryexts
