import Cryexts.World
import Mathlib.Data.List.Basic

set_option autoImplicit false

namespace Cryexts

namespace Dir

def DIR_ENTRY_HEADER_SIZE : Nat := 12
def NAME_LEN : Nat := 255
def DIRECT_BLOCKS : Nat := 12
def FT_UNKNOWN : Nat := 0
def FT_REG_FILE : Nat := 1
def FT_DIR : Nat := 2
def FT_SYMLINK : Nat := 3

/-- One record of a directory block; `name_len` is the length of `name`. -/
structure DirEntry where
  inode : Nat
  recLen : Nat
  fileType : Nat
  name : List UInt8
  deriving DecidableEq, Repr

/-- The record names an inode. -/
def DirEntry.live (de : DirEntry) : Bool := de.inode != 0 && !de.name.isEmpty

/-- `cryexts_dir_rec_len`. -/
def dirRecLen (nameLen : Nat) : Nat := (DIR_ENTRY_HEADER_SIZE + nameLen + 3) / 4 * 4

/-- `cryexts_validate_dirent` of the record at `offset` of a whole block. -/
def validateDirent (maxInodes offset : Nat) (de : DirEntry) : Bool :=
  decide (DIR_ENTRY_HEADER_SIZE ≤ de.recLen) && decide (de.recLen % 4 = 0) &&
    decide (offset + de.recLen ≤ BLOCK_SIZE) &&
    decide (de.name.length ≤ de.recLen - DIR_ENTRY_HEADER_SIZE) &&
    decide (de.name.length ≤ NAME_LEN) &&
    (de.inode == 0 || decide (ROOT_INO ≤ de.inode) && decide (de.inode ≤ maxInodes)) &&
    (de.fileType == FT_UNKNOWN || de.fileType == FT_REG_FILE || de.fileType == FT_DIR ||
      de.fileType == FT_SYMLINK)

/-- The loop over the records of one block: each is checked before it is looked at, and the
first chosen one ends the loop. -/
def walk (maxInodes : Nat) (chosen : DirEntry → Bool) :
    Nat → List DirEntry → Except Errno (Option Nat)
  | _, [] => .ok none
  | offset, de :: rest =>
      if validateDirent maxInodes offset de = false then .error .euclean
      else if chosen de then .ok (some 0)
      else
        match walk maxInodes chosen (offset + de.recLen) rest with
        | .ok found => .ok (found.map (· + 1))
        | .error reason => .error reason

/-- Records that fill the rest of a block from `offset` on. -/
def ValidFrom (maxInodes : Nat) : Nat → List DirEntry → Prop
  | offset, [] => offset = BLOCK_SIZE
  | offset, de :: rest =>
      validateDirent maxInodes offset de = true ∧ ValidFrom maxInodes (offset + de.recLen) rest

/-- A block every walk gets through. -/
def ValidBlock (maxInodes : Nat) (records : List DirEntry) : Prop := ValidFrom maxInodes 0 records

theorem walk_valid (maxInodes : Nat) (chosen : DirEntry → Bool) (offset : Nat)
    (records : List DirEntry) (valid : ValidFrom maxInodes offset records) :
    walk maxInodes chosen offset records = .ok (records.findIdx? chosen) := by
  induction records generalizing offset with
  | nil => rfl
  | cons de rest ih =>
      have tail := ih (offset + de.recLen) valid.2
      unfold walk
      rw [if_neg (by rw [valid.1]; decide), tail, List.findIdx?_cons]
      split
      · rfl
      · rfl

/-- A record a new entry fits in, free or with slack behind its name. -/
def fits (need : Nat) (de : DirEntry) : Bool :=
  de.inode == 0 && decide (need ≤ de.recLen) ||
    decide (dirRecLen de.name.length + need ≤ de.recLen)

/-- The records a new entry turns one record into. -/
def placed (ino fileType : Nat) (name : List UInt8) (de : DirEntry) : List DirEntry :=
  if de.inode = 0 ∧ dirRecLen name.length ≤ de.recLen then
    [{ inode := ino, recLen := de.recLen, fileType := fileType, name := name }]
  else
    [{ de with recLen := dirRecLen de.name.length },
      { inode := ino, recLen := de.recLen - dirRecLen de.name.length, fileType := fileType,
        name := name }]

/-- The records of a block after a new entry went into record `position`. -/
def place (ino fileType : Nat) (name : List UInt8) : List DirEntry → Nat → List DirEntry
  | [], _ => []
  | de :: rest, 0 => placed ino fileType name de ++ rest
  | de :: rest, position + 1 => de :: place ino fileType name rest position

/-- What `cryexts_delete_entry` leaves of a record. -/
def DirEntry.cleared (de : DirEntry) : DirEntry :=
  { de with inode := 0, fileType := FT_UNKNOWN, name := [] }

theorem dirRecLen_bounds (nameLen : Nat) : DIR_ENTRY_HEADER_SIZE + nameLen ≤ dirRecLen nameLen ∧
    dirRecLen nameLen % 4 = 0 ∧ dirRecLen nameLen ≤ DIR_ENTRY_HEADER_SIZE + nameLen + 3 := by
  unfold dirRecLen
  omega

/-- The parts of `cryexts_validate_dirent`. -/
theorem validateDirent_iff (maxInodes offset : Nat) (de : DirEntry) :
    validateDirent maxInodes offset de = true ↔
      DIR_ENTRY_HEADER_SIZE ≤ de.recLen ∧ de.recLen % 4 = 0 ∧ offset + de.recLen ≤ BLOCK_SIZE ∧
      de.name.length ≤ de.recLen - DIR_ENTRY_HEADER_SIZE ∧ de.name.length ≤ NAME_LEN ∧
      (de.inode = 0 ∨ ROOT_INO ≤ de.inode ∧ de.inode ≤ maxInodes) ∧
      (de.fileType = FT_UNKNOWN ∨ de.fileType = FT_REG_FILE ∨ de.fileType = FT_DIR ∨
        de.fileType = FT_SYMLINK) := by
  simp only [validateDirent, Bool.and_eq_true, decide_eq_true_eq, Bool.or_eq_true, beq_iff_eq]
  tauto

/-- A name and type an entry may carry, with the inode it names. -/
structure Entrant (maxInodes ino fileType : Nat) (name : List UInt8) : Prop where
  named : name ≠ []
  short : name.length ≤ NAME_LEN
  low : ROOT_INO ≤ ino
  high : ino ≤ maxInodes
  known : fileType = FT_UNKNOWN ∨ fileType = FT_REG_FILE ∨ fileType = FT_DIR ∨
    fileType = FT_SYMLINK

theorem place_valid (maxInodes ino fileType : Nat) (name : List UInt8)
    (entrant : Entrant maxInodes ino fileType name) (offset position : Nat)
    (records : List DirEntry) (valid : ValidFrom maxInodes offset records)
    (room : ∀ de, records[position]? = some de → fits (dirRecLen name.length) de = true) :
    ValidFrom maxInodes offset (place ino fileType name records position) := by
  induction records generalizing offset position with
  | nil => exact valid
  | cons de rest ih =>
      cases position with
      | succ position => exact ⟨valid.1, ih _ position valid.2 room⟩
      | zero =>
          obtain ⟨checked, tail⟩ := valid
          have fit := room de rfl
          have need := dirRecLen_bounds name.length
          have actual := dirRecLen_bounds de.name.length
          rw [validateDirent_iff] at checked
          obtain ⟨header, aligned, inside, capacity, length, number, kind⟩ := checked
          obtain ⟨named, short, low, high, known⟩ := entrant
          simp only [fits, Bool.or_eq_true, Bool.and_eq_true, beq_iff_eq, decide_eq_true_eq] at fit
          show ValidFrom maxInodes offset (placed ino fileType name de ++ rest)
          unfold placed
          split
          · rename_i free
            refine ⟨(validateDirent_iff _ _ _).mpr ?_, tail⟩
            exact ⟨header, aligned, inside, by dsimp only; omega, short, Or.inr ⟨low, high⟩, known⟩
          · rename_i split
            have slack : dirRecLen de.name.length + dirRecLen name.length ≤ de.recLen := by
              rcases fit with free | slack
              · exact absurd free split
              · exact slack
            refine ⟨(validateDirent_iff _ _ _).mpr ?_, (validateDirent_iff _ _ _).mpr ?_, ?_⟩
            · exact ⟨by dsimp only; omega, actual.2.1, by dsimp only; omega,
                by dsimp only; omega, length, number, kind⟩
            · exact ⟨by dsimp only; omega, by dsimp only; omega, by dsimp only; omega,
                by dsimp only; omega, short, Or.inr ⟨low, high⟩, known⟩
            · show ValidFrom maxInodes (offset + dirRecLen de.name.length +
                (de.recLen - dirRecLen de.name.length)) rest
              rw [show offset + dirRecLen de.name.length +
                (de.recLen - dirRecLen de.name.length) = offset + de.recLen by omega]
              exact tail

theorem cleared_valid (maxInodes offset position : Nat) (records : List DirEntry)
    (valid : ValidFrom maxInodes offset records) :
    ValidFrom maxInodes offset (records.modify position DirEntry.cleared) := by
  induction records generalizing offset position with
  | nil =>
      rw [List.modify_nil]
      exact valid
  | cons de rest ih =>
      cases position with
      | succ position =>
          rw [List.modify_succ_cons]
          exact ⟨valid.1, ih _ position valid.2⟩
      | zero =>
          rw [List.modify_zero_cons]
          obtain ⟨checked, tail⟩ := valid
          rw [validateDirent_iff] at checked
          refine ⟨(validateDirent_iff _ _ _).mpr ?_, tail⟩
          exact ⟨checked.1, checked.2.1, checked.2.2.1, Nat.zero_le _, Nat.zero_le _, Or.inl rfl,
            Or.inl rfl⟩

/-- A block `cryexts_add_entry` has just appended. -/
def freshBlock : List DirEntry := [{ inode := 0, recLen := BLOCK_SIZE, fileType := FT_UNKNOWN, name := [] }]

theorem freshBlock_valid (maxInodes : Nat) : ValidBlock maxInodes freshBlock :=
  ⟨(validateDirent_iff _ _ _).mpr ⟨by decide, by decide, by decide, by decide, by decide,
    Or.inl rfl, Or.inl rfl⟩, rfl⟩

/-- The live entries of a block after a new entry went in: the old ones and the new one. -/
theorem mem_place_live (ino fileType : Nat) (name : List UInt8) (position : Nat)
    (records : List DirEntry) (entry : DirEntry)
    (member : entry ∈ place ino fileType name records position) (live : entry.live = true) :
    (entry.name = name ∧ entry.inode = ino) ∨
      ∃ old, old ∈ records ∧ old.live = true ∧ old.name = entry.name ∧ old.inode = entry.inode := by
  induction records generalizing position with
  | nil => cases member
  | cons de rest ih =>
      cases position with
      | succ position =>
          rcases List.mem_cons.mp member with rfl | later
          · exact Or.inr ⟨entry, List.mem_cons_self, live, rfl, rfl⟩
          · rcases ih position later with here | ⟨old, inside, same⟩
            · exact Or.inl here
            · exact Or.inr ⟨old, List.mem_cons_of_mem _ inside, same⟩
      | zero =>
          rcases List.mem_append.mp member with first | later
          · unfold placed at first
            split at first
            · rw [List.mem_singleton] at first
              rw [first]
              exact Or.inl ⟨rfl, rfl⟩
            · rcases List.mem_cons.mp first with rfl | second
              · exact Or.inr ⟨de, List.mem_cons_self, live, rfl, rfl⟩
              · rw [List.mem_singleton] at second
                rw [second]
                exact Or.inl ⟨rfl, rfl⟩
          · exact Or.inr ⟨entry, List.mem_cons_of_mem _ later, live, rfl, rfl⟩

/-- Every used record of a block has a name after a new entry went in. -/
theorem place_named (ino fileType : Nat) (name : List UInt8) (named : name ≠ []) (position : Nat)
    (records : List DirEntry) (before : ∀ de, de ∈ records → de.inode ≠ 0 → de.name ≠ [])
    (entry : DirEntry) (member : entry ∈ place ino fileType name records position)
    (used : entry.inode ≠ 0) : entry.name ≠ [] := by
  induction records generalizing position with
  | nil => cases member
  | cons de rest ih =>
      have first := before de List.mem_cons_self
      have others : ∀ de, de ∈ rest → de.inode ≠ 0 → de.name ≠ [] :=
        fun other inside => before other (List.mem_cons_of_mem _ inside)
      cases position with
      | succ position =>
          rcases List.mem_cons.mp member with rfl | later
          · exact first used
          · exact ih position others later
      | zero =>
          rcases List.mem_append.mp member with here | later
          · unfold placed at here
            split at here
            · rw [List.mem_singleton] at here
              rw [here]
              exact named
            · rcases List.mem_cons.mp here with rfl | second
              · exact first used
              · rw [List.mem_singleton] at second
                rw [second]
                exact named
          · exact others entry later used

/-- Clearing a record adds no live entry. -/
theorem mem_cleared_live (position : Nat) (records : List DirEntry) (entry : DirEntry)
    (member : entry ∈ records.modify position DirEntry.cleared) (live : entry.live = true) :
    entry ∈ records := by
  induction records generalizing position with
  | nil =>
      rw [List.modify_nil] at member
      cases member
  | cons de rest ih =>
      cases position with
      | succ position =>
          rw [List.modify_succ_cons] at member
          rcases List.mem_cons.mp member with rfl | later
          · exact List.mem_cons_self
          · exact List.mem_cons_of_mem _ (ih position later)
      | zero =>
          rw [List.modify_zero_cons] at member
          rcases List.mem_cons.mp member with rfl | later
          · simp [DirEntry.live, DirEntry.cleared] at live
          · exact List.mem_cons_of_mem _ later

end Dir

end Cryexts
