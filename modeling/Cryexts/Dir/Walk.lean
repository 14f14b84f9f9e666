import Cryexts.Dir.Index
import Cryexts.Lib.RecordWalk

set_option autoImplicit false

namespace Cryexts

namespace Dir

open ByteBuf (Field)
open RecordWalk (Advance Turn Reaches Follows)

-- Members of the `struct cryexts_dir_entry` at an offset.
namespace Dirent

def inode (offset : Nat) : Field := ⟨offset, 8⟩
def recLen (offset : Nat) : Field := ⟨offset + 8, 2⟩
def nameLen (offset : Nat) : Field := ⟨offset + 10, 1⟩
def fileType (offset : Nat) : Field := ⟨offset + 11, 1⟩
/-- `name[index]`. -/
def nameByte (offset index : Nat) : Field := ⟨offset + DIR_ENTRY_HEADER_SIZE + index, 1⟩

end Dirent

/-- The header of a record. -/
structure Header where
  inode : Nat
  recLen : Nat
  nameLen : Nat
  fileType : Nat
  deriving DecidableEq

/-- What the walks keep in their own variables and in `struct dir_context`. -/
structure WalkState where
  seenDot : Bool
  seenDotdot : Bool
  pos : Nat
  emitted : List (List UInt8 × Nat × Nat)
  masks : Nat → Nat
  entries : Nat

abbrev Walk (α : Type) : Type := Routine WalkState (Stop Errno) α

/-- A record that has passed its checks. -/
structure CheckedRecord (offset limit : Nat) where
  header : Header
  advance : Advance DIR_ENTRY_HEADER_SIZE offset limit

def inodeInvalid (maxInodes ino : Nat) : Bool :=
  ino != 0 && (decide (ino < ROOT_INO) || decide (maxInodes < ino))

def fileTypeUnknown (fileType : Nat) : Bool :=
  fileType != FT_UNKNOWN && fileType != FT_REG_FILE && fileType != FT_DIR && fileType != FT_SYMLINK

/-- `cryexts_validate_dirent` of the bytes at an offset, behind the reads every walk makes
first. `target` is what the check tool finds out about the inode of a record. -/
def validateDirentBytes (maxInodes : Nat) (target : Nat → Option Errno) (block : Block)
    (offset limit : Nat) : Walk (CheckedRecord offset limit) := do
  let recLen ← Checked.load block (Dirent.recLen offset)
  let ino ← Checked.load block (Dirent.inode offset)
  if long : recLen < DIR_ENTRY_HEADER_SIZE ∨ recLen % 4 ≠ 0 then Routine.fail (.error .euclean)
  else if inside : limit < offset + recLen ∨ BLOCK_SIZE < offset + recLen then
    Routine.fail (.error .euclean)
  else do
    let nameLen ← Checked.load block (Dirent.nameLen offset)
    if recLen - DIR_ENTRY_HEADER_SIZE < nameLen ∨ NAME_LEN < nameLen then
      Routine.fail (.error .euclean)
    else if inodeInvalid maxInodes ino then Routine.fail (.error .euclean)
    else
      match if ino = 0 then none else target ino with
      | some reason => Routine.fail (.error reason)
      | none => do
        let fileType ← Checked.load block (Dirent.fileType offset)
        if fileTypeUnknown fileType then Routine.fail (.error .euclean)
        else return ⟨⟨ino, recLen, nameLen, fileType⟩, ⟨recLen, by omega, by omega⟩⟩

/-- `name_len == 1 && name[0] == '.'`. -/
def isDot (block : Block) (offset : Nat) (de : Header) : Walk Bool :=
  if de.nameLen = 1 then do
    let first ← Checked.load block (Dirent.nameByte offset 0)
    return first == 0x2e
  else return false

/-- `name_len == 2 && name[0] == '.' && name[1] == '.'`. -/
def isDotdot (block : Block) (offset : Nat) (de : Header) : Walk Bool :=
  if de.nameLen = 2 then do
    let first ← Checked.load block (Dirent.nameByte offset 0)
    if first = 0x2e then do
      let second ← Checked.load block (Dirent.nameByte offset 1)
      return second == 0x2e
    else return false
  else return false

/-- The name of a record, as far as it is read whole. -/
def readName (block : Block) (offset : Nat) (de : Header) : Walk (List UInt8) :=
  Checked.copy block (offset + DIR_ENTRY_HEADER_SIZE) de.nameLen

section Visits

variable (sb : DirSuper) (logical : Nat) (block : Block) (offset : Nat) (de : Header)

/-- `cryexts_find_entry`: the name is compared once the lengths agree. -/
def visitFind (name : List UInt8) : Walk Bool :=
  if de.inode ≠ 0 ∧ de.nameLen = name.length then do
    let found ← readName block offset de
    return found == name
  else return false

/-- The dots that both validations look for. -/
def noteDots : Walk Unit := do
  let dot ← isDot block offset de
  let dotdot ← isDotdot block offset de
  Routine.modify fun s =>
    { s with seenDot := s.seenDot || dot, seenDotdot := s.seenDotdot || dotdot }

/-- The index has a bit for the block in the bucket of the name. -/
def checkIndex (index : Option IndexBuf) : Walk Unit :=
  match index with
  | none => return ()
  | some index =>
    if de.nameLen = 0 then return ()
    else do
      let name ← readName block offset de
      if (index.get (Index.blockMask (bucketOf sb name))).testBit logical then return ()
      else Routine.fail (.error .euclean)

/-- `cryexts_validate_dir_block`. -/
def visitValidate (index : Option IndexBuf) : Walk Bool :=
  if de.inode = 0 then return false
  else do
    checkIndex sb logical block offset de index
    noteDots block offset de
    return false

/-- `cryexts_add_entry`, with `need` bytes to place. -/
def visitAdd (need : Nat) : Walk Bool :=
  return de.inode == 0 && decide (need ≤ de.recLen) ||
    decide (dirRecLen de.nameLen + need ≤ de.recLen)

/-- `cryexts_dir_empty`: any other name ends the walk. -/
def visitEmpty : Walk Bool :=
  if de.inode = 0 then return false
  else do
    let dot ← isDot block offset de
    let dotdot ← isDotdot block offset de
    return !dot && !dotdot

/-- `cryexts_iterate`; `refuses` is the answer of `dir_emit` to the record at an offset. -/
def visitIterate (refuses : Nat → Bool) : Walk Bool := do
  let next := BLOCK_SIZE * logical + offset + de.recLen
  if de.inode = 0 ∨ de.nameLen = 0 then do
    Routine.modify fun s => { s with pos := next }
    return false
  else do
    let name ← readName block offset de
    if refuses offset then return true
    else do
      Routine.modify fun s =>
        { s with pos := next, emitted := s.emitted ++ [(name, de.inode, de.fileType)] }
      return false

/-- `cryexts_dir_index_rebuild`. -/
def visitRebuild : Walk Bool :=
  if de.inode = 0 ∨ de.nameLen = 0 then return false
  else do
    let name ← readName block offset de
    Routine.modify fun s =>
      { s with
        masks := WriteLog.store s.masks (bucketOf sb name) (s.masks (bucketOf sb name) ||| 2 ^ logical)
        entries := s.entries + 1 }
    return false

/-- `cryexts_dir_index_remove_name`. -/
def visitRemove (bucket : Nat) : Walk Bool :=
  if de.inode = 0 ∨ de.nameLen = 0 then return false
  else do
    let name ← readName block offset de
    return bucketOf sb name == bucket

/-- `validate_dir_block` of the check tool. -/
def visitFsck (index : Option IndexBuf) : Walk Bool :=
  if de.inode = 0 then return false
  else do
    noteDots block offset de
    Routine.modify fun s =>
      { s with entries := if de.nameLen = 0 then s.entries else s.entries + 1 }
    checkIndex sb logical block offset de index
    return false

end Visits

/-- The loops that walk the records of a directory block. -/
inductive Walker
  | findEntry (name : List UInt8)
  | validateDirBlock (index : Option IndexBuf)
  | addEntry (need : Nat)
  | dirEmpty
  | iterate (refuses : Nat → Bool)
  | indexRebuild
  | indexRemove (bucket : Nat)
  | fsckDirBlock (index : Option IndexBuf) (target : Nat → Option Errno)

namespace Walker

def target : Walker → Nat → Option Errno
  | fsckDirBlock _ target => target
  | _ => fun _ => none

def visit (sb : DirSuper) (logical : Nat) (block : Block) (offset : Nat) (de : Header) :
    Walker → Walk Bool
  | findEntry name => visitFind block offset de name
  | validateDirBlock index => visitValidate sb logical block offset de index
  | addEntry need => visitAdd de need
  | dirEmpty => visitEmpty block offset de
  | iterate refuses => visitIterate logical block offset de refuses
  | indexRebuild => visitRebuild sb logical block offset de
  | indexRemove bucket => visitRemove sb block offset de bucket
  | fsckDirBlock index _ => visitFsck sb logical block offset de index

/-- One turn of the loop. -/
def step (walker : Walker) (sb : DirSuper) (logical : Nat) (block : Block) (limit offset : Nat) :
    Walk (Option (Advance DIR_ENTRY_HEADER_SIZE offset limit)) := do
  let checked ← validateDirentBytes sb.maxInodes walker.target block offset limit
  if ← walker.visit sb logical block offset checked.header then return none
  else return some checked.advance

/-- The loop over the records of block `logical` of a directory, from a byte offset on. -/
def walk (walker : Walker) (sb : DirSuper) (logical : Nat) (block : Block) (limit start : Nat) :
    Walk (Option Nat) :=
  RecordWalk.run (show 0 < DIR_ENTRY_HEADER_SIZE by decide)
    (walker.step sb logical block limit) start

end Walker

section Bytes

variable (block : Block) (offset : Nat)

def headerAt : Header :=
  ⟨block.get (Dirent.inode offset), block.get (Dirent.recLen offset),
    block.get (Dirent.nameLen offset), block.get (Dirent.fileType offset)⟩

def nameAt : List UInt8 :=
  block.slice (offset + DIR_ENTRY_HEADER_SIZE) (headerAt block offset).nameLen

/-- The bytes at an offset are a record that `cryexts_validate_dirent` accepts. -/
def accepted (maxInodes : Nat) (target : Nat → Option Errno) (limit : Nat) : Bool :=
  let de := headerAt block offset
  decide (DIR_ENTRY_HEADER_SIZE ≤ de.recLen) && decide (de.recLen % 4 = 0) &&
    decide (offset + de.recLen ≤ limit) && decide (offset + de.recLen ≤ BLOCK_SIZE) &&
    decide (de.nameLen ≤ de.recLen - DIR_ENTRY_HEADER_SIZE) && decide (de.nameLen ≤ NAME_LEN) &&
    !inodeInvalid maxInodes de.inode && (de.inode == 0 || (target de.inode).isNone) &&
    !fileTypeUnknown de.fileType

def dotAt : Bool :=
  (headerAt block offset).nameLen == 1 && block.get (Dirent.nameByte offset 0) == 0x2e

def dotdotAt : Bool :=
  (headerAt block offset).nameLen == 2 && block.get (Dirent.nameByte offset 0) == 0x2e &&
    block.get (Dirent.nameByte offset 1) == 0x2e

/-- The record is live and named, and the index has no bit for it. -/
def missedBy (sb : DirSuper) (logical : Nat) (index : Option IndexBuf) : Bool :=
  (headerAt block offset).inode != 0 && (headerAt block offset).nameLen != 0 &&
    index.any fun index =>
      !(index.get (Index.blockMask (bucketOf sb (nameAt block offset)))).testBit logical

end Bytes

namespace Walker

/-- The walk gives up at a record that has passed the checks. -/
def rejects (sb : DirSuper) (logical : Nat) (block : Block) (offset : Nat) : Walker → Bool
  | validateDirBlock index => missedBy block offset sb logical index
  | fsckDirBlock index _ => missedBy block offset sb logical index
  | _ => false

/-- The record is the one that the walk is for. -/
def ends (sb : DirSuper) (block : Block) (offset : Nat) : Walker → Bool
  | findEntry name => (headerAt block offset).inode != 0 && nameAt block offset == name
  | validateDirBlock _ => false
  | addEntry need =>
    (headerAt block offset).inode == 0 && decide (need ≤ (headerAt block offset).recLen) ||
      decide (dirRecLen (headerAt block offset).nameLen + need ≤ (headerAt block offset).recLen)
  | dirEmpty => (headerAt block offset).inode != 0 && !dotAt block offset && !dotdotAt block offset
  | iterate refuses =>
    (headerAt block offset).inode != 0 && (headerAt block offset).nameLen != 0 && refuses offset
  | indexRebuild => false
  | indexRemove bucket =>
    (headerAt block offset).inode != 0 && (headerAt block offset).nameLen != 0 &&
      bucketOf sb (nameAt block offset) == bucket
  | fsckDirBlock _ _ => false

/-- What the walk does with the bytes at an offset, when it can read them. -/
def turn (walker : Walker) (sb : DirSuper) (logical : Nat) (block : Block) (limit offset : Nat) :
    Turn :=
  if accepted block offset sb.maxInodes walker.target limit = false ∨
      walker.rejects sb logical block offset = true then .rejected
  else if walker.ends sb block offset then .last
  else .passed (headerAt block offset).recLen

end Walker

/-- The words of a header that every walk reads before it checks anything are inside the block. -/
def HeaderInside (offset : Nat) : Prop := (Dirent.recLen offset).stop ≤ BLOCK_SIZE

instance (offset : Nat) : Decidable (HeaderInside offset) :=
  inferInstanceAs (Decidable (_ ≤ _))

section Runs

variable (block : Block) (offset : Nat)

theorem isDot_run (s : WalkState)
    (named : offset + DIR_ENTRY_HEADER_SIZE + (headerAt block offset).nameLen ≤ BLOCK_SIZE) :
    isDot block offset (headerAt block offset) s = (.ok (dotAt block offset), s) := by
  rw [isDot, dotAt]
  by_cases one : (headerAt block offset).nameLen = 1
  · rw [if_pos one, Checked.load_bind _ _ _ _ (by simp only [Dirent.nameByte, Field.stop]; omega)]
    simp [one]
  · rw [if_neg one]
    simp [one]

theorem isDotdot_run (s : WalkState)
    (named : offset + DIR_ENTRY_HEADER_SIZE + (headerAt block offset).nameLen ≤ BLOCK_SIZE) :
    isDotdot block offset (headerAt block offset) s = (.ok (dotdotAt block offset), s) := by
  rw [isDotdot, dotdotAt]
  by_cases two : (headerAt block offset).nameLen = 2
  · rw [if_pos two, Checked.load_bind _ _ _ _ (by simp only [Dirent.nameByte, Field.stop]; omega)]
    by_cases first : block.get (Dirent.nameByte offset 0) = 0x2e
    · rw [if_pos first,
        Checked.load_bind _ _ _ _ (by simp only [Dirent.nameByte, Field.stop]; omega)]
      simp [two, first]
    · rw [if_neg first]
      simp [two, first]
  · rw [if_neg two]
    simp [two]

theorem noteDots_run (s : WalkState)
    (named : offset + DIR_ENTRY_HEADER_SIZE + (headerAt block offset).nameLen ≤ BLOCK_SIZE) :
    ∃ after, noteDots block offset (headerAt block offset) s = (.ok (), after) := by
  rw [noteDots, Routine.bind_ok _ _ _ _ _ (isDot_run block offset s named),
    Routine.bind_ok _ _ _ _ _ (isDotdot_run block offset s named), Routine.modify_run]
  exact ⟨_, rfl⟩

theorem readName_bind {α : Type} (next : List UInt8 → Walk α) (s : WalkState)
    (named : offset + DIR_ENTRY_HEADER_SIZE + (headerAt block offset).nameLen ≤ BLOCK_SIZE) :
    (readName block offset (headerAt block offset) >>= next) s = next (nameAt block offset) s := by
  rw [readName, Checked.copy_bind _ _ _ _ _ named]
  rfl

variable (sb : DirSuper) (logical : Nat)

/-- The check against the index, of a live record. -/
theorem checkIndex_run (index : Option IndexBuf) (s : WalkState)
    (named : offset + DIR_ENTRY_HEADER_SIZE + (headerAt block offset).nameLen ≤ BLOCK_SIZE)
    (live : (headerAt block offset).inode ≠ 0) :
    checkIndex sb logical block offset (headerAt block offset) index s =
      if missedBy block offset sb logical index then (.error (.error .euclean), s)
      else (.ok (), s) := by
  cases index with
  | none => simp [checkIndex, missedBy]
  | some index =>
      simp only [checkIndex, missedBy]
      by_cases nameless : (headerAt block offset).nameLen = 0
      · rw [if_pos nameless]
        simp [nameless]
      · rw [if_neg nameless, readName_bind _ _ _ _ named]
        cases bit : (index.get (Index.blockMask (bucketOf sb (nameAt block offset)))).testBit
          logical with
        | true => simp [bit]
        | false => simp [bit, live, nameless]

/-- Every walk reads names inside the block, and ends or goes on as the bytes say. -/
theorem visit_run (walker : Walker) (s : WalkState)
    (named : offset + DIR_ENTRY_HEADER_SIZE + (headerAt block offset).nameLen ≤ BLOCK_SIZE) :
    (walker.rejects sb logical block offset = true →
      ∃ reason after, walker.visit sb logical block offset (headerAt block offset) s =
        (.error (.error reason), after)) ∧
    (walker.rejects sb logical block offset = false →
      ∃ after, walker.visit sb logical block offset (headerAt block offset) s =
        (.ok (walker.ends sb block offset), after)) := by
  cases walker with
  | findEntry name =>
      refine ⟨fun missed => by simp [Walker.rejects] at missed, fun _ => ⟨s, ?_⟩⟩
      simp only [Walker.visit, visitFind, Walker.ends]
      by_cases live : (headerAt block offset).inode = 0
      · simp [live]
      · by_cases same : (headerAt block offset).nameLen = name.length
        · rw [if_pos ⟨live, same⟩, readName_bind _ _ _ _ named]
          simp [live]
        · have other : nameAt block offset ≠ name := by
            intro equal
            exact same (by rw [← equal, nameAt, ByteBuf.slice_length])
          rw [if_neg fun both => same both.2]
          simp [other]
  | validateDirBlock index =>
      simp only [Walker.visit, visitValidate, Walker.rejects, Walker.ends]
      by_cases live : (headerAt block offset).inode = 0
      · rw [if_pos live]
        simp [missedBy, live]
      · have checked := checkIndex_run block offset sb logical index s named live
        rw [if_neg live]
        constructor
        · intro missed
          rw [if_pos missed] at checked
          exact ⟨.euclean, s, Routine.bind_error _ _ _ _ _ checked⟩
        · intro found
          rw [if_neg (by simp [found])] at checked
          obtain ⟨after, noted⟩ := noteDots_run block offset s named
          exact ⟨after, by rw [Routine.bind_ok _ _ _ _ _ checked, Routine.bind_ok _ _ _ _ _ noted,
            Routine.pure_run]⟩
  | addEntry need =>
      exact ⟨fun missed => by simp [Walker.rejects] at missed, fun _ => ⟨s, Routine.pure_run _ _⟩⟩
  | dirEmpty =>
      refine ⟨fun missed => by simp [Walker.rejects] at missed, fun _ => ⟨s, ?_⟩⟩
      simp only [Walker.visit, visitEmpty, Walker.ends]
      by_cases live : (headerAt block offset).inode = 0
      · simp [live]
      · rw [if_neg live, Routine.bind_ok _ _ _ _ _ (isDot_run block offset s named),
          Routine.bind_ok _ _ _ _ _ (isDotdot_run block offset s named), Routine.pure_run,
          bne_iff_ne.mpr live, Bool.true_and]
  | iterate refuses =>
      refine ⟨fun missed => by simp [Walker.rejects] at missed, fun _ => ?_⟩
      simp only [Walker.visit, visitIterate, Walker.ends]
      by_cases bare : (headerAt block offset).inode = 0 ∨ (headerAt block offset).nameLen = 0
      · rw [if_pos bare]
        rcases bare with free | nameless
        · exact ⟨_, by simp [free]; rfl⟩
        · exact ⟨_, by simp [nameless]; rfl⟩
      · have both := not_or.mp bare
        rw [if_neg bare, readName_bind _ _ _ _ named]
        cases full : refuses offset with
        | true => exact ⟨s, by simp [both.1, both.2]⟩
        | false => exact ⟨_, by simp; rfl⟩
  | indexRebuild =>
      refine ⟨fun missed => by simp [Walker.rejects] at missed, fun _ => ?_⟩
      simp only [Walker.visit, visitRebuild, Walker.ends]
      split
      · exact ⟨s, Routine.pure_run _ _⟩
      · rw [readName_bind _ _ _ _ named, Routine.modify_bind]
        exact ⟨_, Routine.pure_run _ _⟩
  | indexRemove bucket =>
      refine ⟨fun missed => by simp [Walker.rejects] at missed, fun _ => ⟨s, ?_⟩⟩
      simp only [Walker.visit, visitRemove, Walker.ends]
      by_cases bare : (headerAt block offset).inode = 0 ∨ (headerAt block offset).nameLen = 0
      · rw [if_pos bare]
        rcases bare with free | nameless
        · simp [free]
        · simp [nameless]
      · have both := not_or.mp bare
        rw [if_neg bare, readName_bind _ _ _ _ named]
        simp [both.1, both.2]
  | fsckDirBlock index target =>
      simp only [Walker.visit, visitFsck, Walker.rejects, Walker.ends]
      by_cases live : (headerAt block offset).inode = 0
      · rw [if_pos live]
        simp [missedBy, live]
      · obtain ⟨after, noted⟩ := noteDots_run block offset s named
        rw [if_neg live, Routine.bind_ok _ _ _ _ _ noted, Routine.modify_bind]
        generalize ({ after with entries := _ } : WalkState) = counted
        have checked := checkIndex_run block offset sb logical index counted named live
        constructor
        · intro missed
          rw [if_pos missed] at checked
          exact ⟨.euclean, counted, Routine.bind_error _ _ _ _ _ checked⟩
        · intro found
          rw [if_neg (by simp [found])] at checked
          exact ⟨counted, by rw [Routine.bind_ok _ _ _ _ _ checked, Routine.pure_run]⟩

theorem accepted_iff (maxInodes : Nat) (target : Nat → Option Errno) (limit : Nat) :
    accepted block offset maxInodes target limit = true ↔
      (DIR_ENTRY_HEADER_SIZE ≤ (headerAt block offset).recLen ∧
        (headerAt block offset).recLen % 4 = 0) ∧
      (offset + (headerAt block offset).recLen ≤ limit ∧
        offset + (headerAt block offset).recLen ≤ BLOCK_SIZE) ∧
      ((headerAt block offset).nameLen ≤ (headerAt block offset).recLen - DIR_ENTRY_HEADER_SIZE ∧
        (headerAt block offset).nameLen ≤ NAME_LEN) ∧
      inodeInvalid maxInodes (headerAt block offset).inode = false ∧
      ((headerAt block offset).inode = 0 ∨ target (headerAt block offset).inode = none) ∧
      fileTypeUnknown (headerAt block offset).fileType = false := by
  simp only [accepted, Bool.and_eq_true, decide_eq_true_eq, Bool.or_eq_true, beq_iff_eq,
    Bool.not_eq_true', Option.isNone_iff_eq_none, and_assoc]

/-- The checks of a record whose header can be read: they read no further than the record, and
accept it or refuse it. -/
theorem validateDirentBytes_run (maxInodes : Nat) (target : Nat → Option Errno) (limit : Nat)
    (s : WalkState) (inside : HeaderInside offset) :
    (accepted block offset maxInodes target limit = false ∧
      ∃ reason, validateDirentBytes maxInodes target block offset limit s =
        (.error (.error reason), s)) ∨
    (accepted block offset maxInodes target limit = true ∧
      ∃ checked : CheckedRecord offset limit,
        validateDirentBytes maxInodes target block offset limit s = (.ok checked, s) ∧
        checked.header = headerAt block offset ∧
        checked.advance.len = (headerAt block offset).recLen) := by
  have conditions := accepted_iff block offset maxInodes target limit
  simp only [HeaderInside, Dirent.recLen, Field.stop] at inside
  have refuse : ∀ reason, ¬ accepted block offset maxInodes target limit = true →
      validateDirentBytes maxInodes target block offset limit s = (.error (.error reason), s) →
      (accepted block offset maxInodes target limit = false ∧
        ∃ reason, validateDirentBytes maxInodes target block offset limit s =
          (.error (.error reason), s)) := by
    intro reason refused failed
    exact ⟨Bool.eq_false_iff.mpr refused, reason, failed⟩
  have start : validateDirentBytes maxInodes target block offset limit s =
      validateDirentBytes maxInodes target block offset limit s := rfl
  conv at start =>
    rhs
    rw [validateDirentBytes,
      Checked.load_bind _ _ _ _ (by simp only [Dirent.recLen, Field.stop]; omega),
      Checked.load_bind _ _ _ _ (by simp only [Dirent.inode, Field.stop]; omega)]
  simp only [headerAt] at conditions ⊢
  generalize block.get (Dirent.recLen offset) = recLen at *
  generalize block.get (Dirent.inode offset) = ino at *
  by_cases long : recLen < DIR_ENTRY_HEADER_SIZE ∨ recLen % 4 ≠ 0
  · rw [dif_pos long, Routine.fail_run] at start
    exact Or.inl (refuse _ (mt conditions.mp (by omega)) start)
  · rw [dif_neg long] at start
    by_cases within : limit < offset + recLen ∨ BLOCK_SIZE < offset + recLen
    · rw [dif_pos within, Routine.fail_run] at start
      exact Or.inl (refuse _ (mt conditions.mp (by omega)) start)
    · have room : offset + 12 ≤ BLOCK_SIZE := by
        simp only [DIR_ENTRY_HEADER_SIZE] at long
        omega
      rw [dif_neg within,
        Checked.load_bind _ _ _ _ (by simp only [Dirent.nameLen, Field.stop]; omega)] at start
      generalize block.get (Dirent.nameLen offset) = nameLen at *
      split at start
      · rename_i named
        rw [Routine.fail_run] at start
        exact Or.inl (refuse _ (mt conditions.mp (by omega)) start)
      · rename_i named
        split at start
        · rename_i invalid
          rw [Routine.fail_run] at start
          refine Or.inl (refuse _ (mt conditions.mp ?_) start)
          simp [invalid]
        · rename_i valid
          generalize found : (if ino = 0 then none else target ino) = answer at start
          cases answer with
          | some reason =>
            simp only [Routine.fail_run] at start
            refine Or.inl (refuse _ (mt conditions.mp ?_) start)
            split at found
            · cases found
            · rename_i live
              simp [live, found]
          | none =>
            simp only at start
            rw [Checked.load_bind _ _ _ _ (by simp only [Dirent.fileType, Field.stop]; omega)]
              at start
            generalize block.get (Dirent.fileType offset) = fileType at *
            split at start
            · rename_i unknown
              rw [Routine.fail_run] at start
              refine Or.inl (refuse _ (mt conditions.mp ?_) start)
              simp [unknown]
            · rename_i known
              right
              refine ⟨conditions.mpr ⟨by omega, by omega, by omega, by simpa using valid, ?_,
                by simpa using known⟩, _, start, rfl, rfl⟩
              by_cases free : ino = 0
              · exact Or.inl free
              · rw [if_neg free] at found
                exact Or.inr found

/-- Each turn of each walk reads the header where it is not sure to be in the block, and nothing
else that might not be. -/
theorem step_follows (walker : Walker) (limit : Nat) :
    Follows (walker.step sb logical block limit) HeaderInside
      (walker.turn sb logical block limit) := by
  have checks := fun offset s => validateDirentBytes_run block offset sb.maxInodes walker.target
    limit s
  have named : ∀ offset, accepted block offset sb.maxInodes walker.target limit = true →
      offset + DIR_ENTRY_HEADER_SIZE + (headerAt block offset).nameLen ≤ BLOCK_SIZE := by
    intro offset passes
    have bounds := (accepted_iff block offset _ _ _).mp passes
    omega
  constructor
  case strays =>
    intro offset s _ outside
    rw [Walker.step, Routine.bind_error _ _ s s .fault]
    rw [validateDirentBytes, Checked.load_stray _ _ _ _ outside]
  case rejected =>
    intro offset s _ inside rejected
    rcases checks offset s inside with ⟨_, reason, failed⟩ | ⟨passes, checked, ran, header, _⟩
    · exact ⟨reason, s, by rw [Walker.step, Routine.bind_error _ _ _ _ _ failed]⟩
    · have refused : walker.rejects sb logical block offset = true := by
        by_contra kept
        rw [Walker.turn, if_neg (by simp [passes, kept])] at rejected
        split at rejected <;> cases rejected
      obtain ⟨reason, after, failed⟩ :=
        (visit_run block offset sb logical walker s (named offset passes)).1 refused
      refine ⟨reason, after, ?_⟩
      rw [Walker.step, Routine.bind_ok _ _ _ _ _ ran, header, Routine.bind_error _ _ _ _ _ failed]
  case last =>
    intro offset s _ inside last
    rw [Walker.turn] at last
    split at last
    · cases last
    · rename_i fine
      split at last
      · rename_i ended
        have both := not_or.mp fine
        rcases checks offset s inside with ⟨refused, _⟩ | ⟨passes, checked, ran, header, _⟩
        · exact absurd refused both.1
        · obtain ⟨after, visited⟩ := (visit_run block offset sb logical walker s
            (named offset passes)).2 (by simpa using both.2)
          refine ⟨after, ?_⟩
          rw [Walker.step, Routine.bind_ok _ _ _ _ _ ran, header,
            Routine.bind_ok _ _ _ _ _ visited, if_pos ended, Routine.pure_run]
      · cases last
  case passed =>
    intro offset s len _ inside passed
    rw [Walker.turn] at passed
    split at passed
    · cases passed
    · rename_i fine
      split at passed
      · cases passed
      · rename_i going
        have both := not_or.mp fine
        rcases checks offset s inside with ⟨refused, _⟩ | ⟨passes, checked, ran, header, length⟩
        · exact absurd refused both.1
        · obtain ⟨after, visited⟩ := (visit_run block offset sb logical walker s
            (named offset passes)).2 (by simpa using both.2)
          refine ⟨checked.advance, after, ?_, length.trans (Turn.passed.inj passed)⟩
          rw [Walker.step, Routine.bind_ok _ _ _ _ _ ran, header,
            Routine.bind_ok _ _ _ _ _ visited, if_neg going, Routine.pure_run]

end Runs

/-- The walk reads nothing outside its block, and passes no more records than there is room for
behind its start. -/
structure WalkRight (walker : Walker) (sb : DirSuper) (logical : Nat) (block : Block)
    (limit start : Nat) : Prop where
  confined : ∀ s, (walker.walk sb logical block limit start s).1 ≠ .error .fault
  bounded : ∀ count offset,
    Reaches (walker.turn sb logical block limit) limit count start offset →
      DIR_ENTRY_HEADER_SIZE * count ≤ limit - start

section Confined

variable (walker : Walker) (sb : DirSuper) (logical : Nat) (block : Block) (limit start : Nat)

/-- A record is passed by its own length, which is within the limit. -/
theorem turn_passed (offset len : Nat)
    (passed : walker.turn sb logical block limit offset = .passed len) :
    accepted block offset sb.maxInodes walker.target limit = true ∧
      len = (headerAt block offset).recLen := by
  rw [Walker.turn] at passed
  split at passed
  · cases passed
  · rename_i fine
    split at passed
    · cases passed
    · exact ⟨by simpa using (not_or.mp fine).1, (Turn.passed.inj passed).symm⟩

/-- The records behind an aligned start begin at aligned offsets. -/
theorem reaches_aligned (count offset : Nat) (aligned : start % 4 = 0)
    (reaches : Reaches (walker.turn sb logical block limit) limit count start offset) :
    offset % 4 = 0 := by
  induction reaches with
  | here start => exact aligned
  | next before passed rest ih =>
      obtain ⟨passes, length⟩ := turn_passed walker sb logical block limit _ _ passed
      have bounds := (accepted_iff block _ _ _ _).mp passes
      exact ih (by omega)

/-- From an aligned start, the only headers that leave the block are the ones that its last
eight bytes have no room for. -/
theorem headerInside_iff_aligned (offset : Nat) (aligned : offset % 4 = 0)
    (below : offset < BLOCK_SIZE) :
    HeaderInside offset ↔ offset ≠ BLOCK_SIZE - 8 ∧ offset ≠ BLOCK_SIZE - 4 := by
  simp only [HeaderInside, Dirent.recLen, Field.stop, BLOCK_SIZE] at *
  omega

theorem walk_records_bounded (count offset : Nat)
    (reaches : Reaches (walker.turn sb logical block limit) limit count start offset) :
    DIR_ENTRY_HEADER_SIZE * count ≤ limit - start := by
  have long : ∀ offset len, offset < limit →
      walker.turn sb logical block limit offset = .passed len →
      DIR_ENTRY_HEADER_SIZE ≤ len ∧ offset + len ≤ limit := by
    intro offset len _ passed
    obtain ⟨passes, length⟩ := turn_passed walker sb logical block limit _ _ passed
    have bounds := (accepted_iff block _ _ _ _).mp passes
    omega
  have bound := reaches.bound long
  rcases bound.2 with none | inside
  · simp [none]
  · omega

theorem right_iff_inside :
    WalkRight walker sb logical block limit start ↔
      ∀ count offset, Reaches (walker.turn sb logical block limit) limit count start offset →
        offset < limit → HeaderInside offset := by
  have follows := step_follows block sb logical walker limit
  constructor
  · intro right
    have state : WalkState := ⟨false, false, 0, [], fun _ => 0, 0⟩
    exact (RecordWalk.run_confined_iff _ follows start state).mp (right.confined state)
  · intro inside
    constructor
    · intro s
      exact (RecordWalk.run_confined_iff _ follows start s).mpr inside
    · exact walk_records_bounded walker sb logical block limit start

/-- A walk is right just when no run of records that pass its checks ends where the block has no
room for the words of the next header. From an aligned start, and all walks but a resumed readdir
have one, these places are the last two words of the block. -/
theorem walk_right_iff :
    (WalkRight walker sb logical block limit start ↔
      ∀ count offset, Reaches (walker.turn sb logical block limit) limit count start offset →
        offset < limit → HeaderInside offset) ∧
    (start % 4 = 0 ∧ limit ≤ BLOCK_SIZE → (WalkRight walker sb logical block limit start ↔
      ∀ count offset, Reaches (walker.turn sb logical block limit) limit count start offset →
        offset < limit → offset ≠ BLOCK_SIZE - 8 ∧ offset ≠ BLOCK_SIZE - 4)) := by
  have right := right_iff_inside walker sb logical block limit start
  constructor
  · exact right
  · intro bounds
    rw [right]
    constructor
    · intro inside count offset reaches below
      have aligned := reaches_aligned walker sb logical block limit start count offset bounds.1
        reaches
      rw [← headerInside_iff_aligned offset aligned (by omega)]
      exact inside count offset reaches below
    · intro apart count offset reaches below
      have aligned := reaches_aligned walker sb logical block limit start count offset bounds.1
        reaches
      rw [headerInside_iff_aligned offset aligned (by omega)]
      exact apart count offset reaches below

end Confined

/-- A block whose first record ends eight bytes before its end. -/
def shortTail : Block := (ByteBuf.zero BLOCK_SIZE).set (Dirent.recLen 0) 4088

theorem shortTail_header : headerAt shortTail 0 = ⟨0, 4088, 0, 0⟩ := by
  have length : shortTail.get (Dirent.recLen 0) = 4088 := by
    rw [shortTail, ByteBuf.get_set_same _ _ _ (by decide), Nat.mod_eq_of_lt (by decide)]
  have others : ∀ field : Field, Field.Apart field (Dirent.recLen 0) → shortTail.get field = 0 := by
    intro field apart
    rw [shortTail, ByteBuf.get_set_apart _ _ _ _ apart, ByteBuf.get_zero]
  rw [headerAt, length, others (Dirent.inode 0) (by decide), others (Dirent.nameLen 0) (by decide),
    others (Dirent.fileType 0) (by decide)]

/-- The look-up of a name in a block whose first record is free and 4088 bytes long: the next
header is read across the end of the block. -/
theorem shortTail_strays :
    ¬ WalkRight (.findEntry [0x61]) ⟨false, 0, false, 0, 128⟩ 0 shortTail BLOCK_SIZE 0 := by
  intro right
  have inside := (right_iff_inside _ _ _ _ _ _).mp right
  have passes : accepted shortTail 0 128 (fun _ => none) BLOCK_SIZE = true := by
    rw [accepted_iff, shortTail_header]
    decide
  have passed : (Walker.findEntry [0x61]).turn ⟨false, 0, false, 0, 128⟩ 0 shortTail BLOCK_SIZE 0 =
      .passed 4088 := by
    rw [Walker.turn, if_neg (by simp [Walker.target, passes, Walker.rejects]),
      if_neg (by simp [Walker.ends, shortTail_header]), shortTail_header]
  have reached := Reaches.next (show 0 < BLOCK_SIZE by decide) passed (.here (0 + 4088))
  exact absurd (inside 1 4088 reached (by decide)) (by decide)

end Dir

end Cryexts
