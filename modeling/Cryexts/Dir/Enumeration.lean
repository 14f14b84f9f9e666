import Cryexts.Dir.IndexRun
import Cryexts.Lib.Cursor

set_option autoImplicit false

namespace Cryexts

namespace Dir

open Cursor (Ordered Inserted between Emits times Distinct Fair)

def DT_UNKNOWN : Nat := 0
def DT_DIR : Nat := 4
def DT_REG : Nat := 8
def DT_LNK : Nat := 10

/-- `cryexts_dtype`. -/
def dtype (fileType : Nat) : Nat :=
  if fileType = FT_DIR then DT_DIR
  else if fileType = FT_REG_FILE then DT_REG
  else if fileType = FT_SYMLINK then DT_LNK
  else DT_UNKNOWN

/-- What `dir_emit` is told of an entry. -/
structure Emitted where
  name : List UInt8
  inode : Nat
  dtype : Nat
  deriving DecidableEq

def DirEntry.emitted (de : DirEntry) : Emitted := ⟨de.name, de.inode, Dir.dtype de.fileType⟩

/-- `struct dir_context`: the position, what has been emitted, and the coming answers of
`dir_emit`, which refuses when there are no more. -/
structure DirContext where
  pos : Nat
  emitted : List Emitted
  answers : List Bool

/-- A directory and one reader of it. -/
structure Session where
  dir : DirState
  ctx : DirContext

/-- How a call of `cryexts_iterate` can stop early; at a position inside a record it would take
the bytes there for a header. -/
inductive IterateStop
  | inside
  | error (reason : Errno)
  deriving DecidableEq

abbrev Reading (α : Type) : Type := Routine Session IterateStop α

/-- The records of a block from a byte offset on, which has to be the start of one or the end. -/
def recordsFrom (offset : Nat) : List DirEntry → Option (List DirEntry)
  | [] => if offset = 0 then some [] else none
  | de :: rest =>
    if offset = 0 then some (de :: rest)
    else if de.recLen ≤ offset then recordsFrom (offset - de.recLen) rest
    else none

section Iterate

variable (sb : DirSuper)

/-- `sb_bread` of a directory block. -/
def readBlock : Reading Unit := fun s =>
  match buffer s.dir with
  | (.ok (), dir) => (.ok (), { s with dir := dir })
  | (.error reason, dir) => (.error (.error reason), { s with dir := dir })

/-- `dir_emit` of a live entry. -/
def dirEmit (de : DirEntry) : Reading Bool := fun s =>
  match s.ctx.answers with
  | true :: rest =>
    (.ok true, { s with ctx := { s.ctx with
      emitted := s.ctx.emitted ++ [de.emitted]
      answers := rest } })
  | false :: rest => (.ok false, { s with ctx := { s.ctx with answers := rest } })
  | [] => (.ok false, s)

/-- The loop of `cryexts_iterate` over the records of block `logical` from a byte offset on. It
returns whether the block has been read to its end. -/
def emitRecords (logical : Nat) : (offset : Nat) → List DirEntry → Reading Bool
  | _, [] => return true
  | offset, de :: rest =>
    if validateDirent sb.maxInodes offset de = false then Routine.fail (.error .euclean)
    else do
      let going ← if de.live then dirEmit de else pure true
      if going then do
        Routine.modify fun s =>
          { s with ctx := { s.ctx with pos := BLOCK_SIZE * logical + (offset + de.recLen) } }
        emitRecords logical (offset + de.recLen) rest
      else return false

/-- The loop of `cryexts_iterate` over the blocks from `logical` on. -/
def emitBlocks : (logical : Nat) → List (List DirEntry) → Reading Unit
  | _, [] => return ()
  | logical, records :: rest => do
    readBlock
    let s ← Routine.read
    let offset := max s.ctx.pos (BLOCK_SIZE * logical) - BLOCK_SIZE * logical
    match recordsFrom offset records with
    | none => Routine.fail .inside
    | some here => do
      if ← emitRecords sb logical offset here then emitBlocks (logical + 1) rest
      else return ()

/-- `cryexts_iterate`. -/
def iterate : Reading Unit := do
  let s ← Routine.read
  if BLOCK_SIZE * s.dir.blocks.length ≤ s.ctx.pos then return ()
  else emitBlocks sb (s.ctx.pos / BLOCK_SIZE) (s.dir.blocks.drop (s.ctx.pos / BLOCK_SIZE))

end Iterate

/-- The bytes of a list of records. -/
def extent (records : List DirEntry) : Nat := (records.map DirEntry.recLen).sum

/-- Where the records begin. -/
def starts : (offset : Nat) → List DirEntry → List Nat
  | _, [] => []
  | offset, de :: rest => offset :: starts (offset + de.recLen) rest

/-- The live entries, each at the offset of its record. -/
def spots : (offset : Nat) → List DirEntry → List (Nat × Emitted)
  | _, [] => []
  | offset, de :: rest =>
    if de.live then (offset, de.emitted) :: spots (offset + de.recLen) rest
    else spots (offset + de.recLen) rest

/-- The start of a record, or the end of the last. -/
def Boundary (records : List DirEntry) (pos : Nat) : Prop :=
  pos ∈ starts 0 records ∨ pos = extent records

section Records

theorem extent_append (first second : List DirEntry) :
    extent (first ++ second) = extent first + extent second := by
  simp [extent]

@[simp] theorem extent_nil : extent [] = 0 := rfl

@[simp] theorem extent_cons (de : DirEntry) (rest : List DirEntry) :
    extent (de :: rest) = de.recLen + extent rest := rfl

theorem starts_append (offset : Nat) (first second : List DirEntry) :
    starts offset (first ++ second) = starts offset first ++ starts (offset + extent first) second := by
  induction first generalizing offset with
  | nil => rfl
  | cons de rest ih =>
      simp only [List.cons_append, starts, ih, extent_cons, Nat.add_assoc]

theorem spots_append (offset : Nat) (first second : List DirEntry) :
    spots offset (first ++ second) = spots offset first ++ spots (offset + extent first) second := by
  induction first generalizing offset with
  | nil => rfl
  | cons de rest ih =>
      simp only [List.cons_append, spots, ih, extent_cons, Nat.add_assoc]
      split
      · rfl
      · rfl

/-- Entries lie between the offset of their records and the end of them. -/
theorem spots_range (offset : Nat) (records : List DirEntry)
    (long : ∀ de ∈ records, 0 < de.recLen) :
    ∀ spot ∈ spots offset records, offset ≤ spot.1 ∧ spot.1 < offset + extent records := by
  induction records generalizing offset with
  | nil => simp [spots]
  | cons de rest ih =>
      have here := long de List.mem_cons_self
      have later := ih (offset + de.recLen) fun other member =>
        long other (List.mem_cons_of_mem _ member)
      intro spot member
      rw [extent_cons]
      rw [spots] at member
      split at member
      · rcases List.mem_cons.mp member with rfl | member
        · simp only
          omega
        · have bound := later spot member
          omega
      · have bound := later spot member
        omega

theorem spots_ordered (offset : Nat) (records : List DirEntry)
    (long : ∀ de ∈ records, 0 < de.recLen) : Ordered (spots offset records) := by
  induction records generalizing offset with
  | nil => exact List.Pairwise.nil
  | cons de rest ih =>
      have here := long de List.mem_cons_self
      have others : ∀ de ∈ rest, 0 < de.recLen := fun other member =>
        long other (List.mem_cons_of_mem _ member)
      have later := ih (offset + de.recLen) others
      rw [spots]
      split
      · apply List.pairwise_cons.mpr
        refine ⟨?_, later⟩
        intro spot member
        have bound := spots_range (offset + de.recLen) rest others spot member
        simp only
        omega
      · exact later

theorem validFrom_extent (maxInodes offset : Nat) (records : List DirEntry)
    (valid : ValidFrom maxInodes offset records) : offset + extent records = BLOCK_SIZE := by
  induction records generalizing offset with
  | nil => exact valid
  | cons de rest ih =>
      have tail := ih (offset + de.recLen) valid.2
      rw [extent_cons]
      omega

theorem validFrom_long (maxInodes offset : Nat) (records : List DirEntry)
    (valid : ValidFrom maxInodes offset records) :
    ∀ de ∈ records, DIR_ENTRY_HEADER_SIZE ≤ de.recLen := by
  induction records generalizing offset with
  | nil => simp
  | cons de rest ih =>
      intro other member
      rcases List.mem_cons.mp member with rfl | later
      · exact ((validateDirent_iff _ _ _).mp valid.1).1
      · exact ih (offset + de.recLen) valid.2 other later

/-- The records of a directory one after the other. -/
theorem flatten_extent (maxInodes : Nat) (blocks : List (List DirEntry))
    (valid : ∀ records ∈ blocks, ValidBlock maxInodes records) :
    extent blocks.flatten = BLOCK_SIZE * blocks.length := by
  induction blocks with
  | nil => rfl
  | cons records rest ih =>
      have here := validFrom_extent maxInodes 0 records (valid records List.mem_cons_self)
      have later := ih fun other member => valid other (List.mem_cons_of_mem _ member)
      rw [List.flatten_cons, extent_append, later, List.length_cons, Nat.mul_succ]
      omega

theorem flatten_long (maxInodes : Nat) (blocks : List (List DirEntry))
    (valid : ∀ records ∈ blocks, ValidBlock maxInodes records) :
    ∀ de ∈ blocks.flatten, 0 < de.recLen := by
  intro de member
  obtain ⟨records, inside, here⟩ := List.mem_flatten.mp member
  have long := validFrom_long maxInodes 0 records (valid records inside) de here
  have header : DIR_ENTRY_HEADER_SIZE = 12 := rfl
  omega

theorem starts_head (offset : Nat) (records : List DirEntry) (filled : 0 < extent records) :
    offset ∈ starts offset records := by
  cases records with
  | nil => cases filled
  | cons de rest => exact List.mem_cons_self

theorem starts_low (offset : Nat) (records : List DirEntry) :
    ∀ pos ∈ starts offset records, offset ≤ pos := by
  induction records generalizing offset with
  | nil => simp [starts]
  | cons de rest ih =>
      intro pos member
      rcases List.mem_cons.mp member with rfl | later
      · exact Nat.le_refl _
      · exact Nat.le_trans (Nat.le_add_right _ _) (ih _ pos later)

theorem starts_high (offset : Nat) (records : List DirEntry)
    (long : ∀ de ∈ records, 0 < de.recLen) :
    ∀ pos ∈ starts offset records, pos < offset + extent records := by
  induction records generalizing offset with
  | nil => simp [starts]
  | cons de rest ih =>
      have here := long de List.mem_cons_self
      intro pos member
      rw [extent_cons]
      rcases List.mem_cons.mp member with rfl | later
      · omega
      · have bound := ih (offset + de.recLen) (fun other inside =>
          long other (List.mem_cons_of_mem _ inside)) pos later
        omega

/-- The records from one of their boundaries on. -/
theorem recordsFrom_start (offset : Nat) (records : List DirEntry)
    (long : ∀ de ∈ records, 0 < de.recLen) (base : Nat) (start : base + offset ∈ starts base records) :
    ∃ front here, records = front ++ here ∧ extent front = offset ∧
      recordsFrom offset records = some here := by
  induction records generalizing offset base with
  | nil => cases start
  | cons de rest ih =>
      by_cases first : offset = 0
      · exact ⟨[], de :: rest, rfl, first.symm, by rw [recordsFrom, if_pos first]⟩
      · have length := long de List.mem_cons_self
        rcases List.mem_cons.mp start with same | later
        · omega
        · have bound := starts_low (base + de.recLen) rest _ later
          obtain ⟨front, here, split, size, found⟩ := ih (offset - de.recLen)
            (fun other member => long other (List.mem_cons_of_mem _ member)) (base + de.recLen)
            (by rw [show base + de.recLen + (offset - de.recLen) = base + offset by omega]; exact later)
          refine ⟨de :: front, here, by rw [split, List.cons_append], ?_, ?_⟩
          · rw [extent_cons, size]
            omega
          · rw [recordsFrom, if_neg first, if_pos (by omega), found]

end Records

/-- What a reader has done with records that begin at a position: it stands at the start of one
of them or at their end, and has emitted the entries it has passed. -/
structure Scanned (base : Nat) (records : List DirEntry) (s t : Session) : Prop where
  blocks : t.dir.blocks = s.dir.blocks
  index : t.dir.index = s.dir.index
  emits : Emits (spots base records) s.ctx.pos t.ctx.pos s.ctx.emitted t.ctx.emitted
  stands : t.ctx.pos ∈ starts base records ∨ t.ctx.pos = base + extent records

section Scan

variable (sb : DirSuper)

theorem dirEmit_cases (de : DirEntry) (s : Session) :
    (∃ answers, dirEmit de s = (.ok true, { s with ctx :=
      { pos := s.ctx.pos, emitted := s.ctx.emitted ++ [de.emitted], answers := answers } })) ∨
    ∃ answers, dirEmit de s = (.ok false, { s with ctx := { s.ctx with answers := answers } }) := by
  unfold dirEmit
  split
  · exact Or.inl ⟨_, rfl⟩
  · exact Or.inr ⟨_, rfl⟩
  · exact Or.inr ⟨s.ctx.answers, rfl⟩

/-- The reader stops at a record, or passes it and emits it if it is live. -/
theorem emitRecords_cons (logical offset : Nat) (de : DirEntry) (rest : List DirEntry) (s : Session)
    (checked : validateDirent sb.maxInodes offset de = true) :
    (∃ t : Session, emitRecords sb logical offset (de :: rest) s = (.ok false, t) ∧ t.dir = s.dir ∧
      t.ctx.pos = s.ctx.pos ∧ t.ctx.emitted = s.ctx.emitted) ∨
    ∃ t : Session, emitRecords sb logical offset (de :: rest) s =
        emitRecords sb logical (offset + de.recLen) rest t ∧
      t.dir = s.dir ∧ t.ctx.pos = BLOCK_SIZE * logical + (offset + de.recLen) ∧
      t.ctx.emitted = s.ctx.emitted ++ if de.live then [de.emitted] else [] := by
  rw [emitRecords, if_neg (by simp [checked])]
  by_cases live : de.live = true
  · rw [if_pos live]
    rcases dirEmit_cases de s with ⟨answers, ran⟩ | ⟨answers, ran⟩
    · right
      rw [Routine.bind_ok _ _ _ _ _ ran]
      beta_reduce
      rw [if_pos rfl, Routine.modify_bind, if_pos live]
      exact ⟨_, rfl, rfl, rfl, rfl⟩
    · left
      rw [Routine.bind_ok _ _ _ _ _ ran]
      exact ⟨_, rfl, rfl, rfl, rfl⟩
  · right
    rw [if_neg live, Routine.pure_bind]
    beta_reduce
    rw [if_pos rfl, Routine.modify_bind, if_neg live, List.append_nil]
    exact ⟨_, rfl, rfl, rfl, rfl⟩

omit sb in
/-- The entry of one record, if it is live. -/
theorem record_emits (base : Nat) (de : DirEntry) (rest : List DirEntry) (items : List Emitted)
    (long : ∀ other ∈ de :: rest, 0 < other.recLen) :
    Emits (spots base (de :: rest)) base (base + de.recLen) items
      (items ++ if de.live then [de.emitted] else []) := by
  have own := long de List.mem_cons_self
  have alone : Emits (spots base [de]) base (base + de.recLen) items
      (items ++ if de.live then [de.emitted] else []) := by
    constructor
    · omega
    · cases live : de.live with
      | true => simp [spots, live, Cursor.between_cons, Cursor.between_nil, own]
      | false => simp [spots, live, Cursor.between_nil]
  rw [show de :: rest = [de] ++ rest from rfl, spots_append]
  apply alone.left
  intro spot member
  have bound := spots_range _ rest (fun other inside =>
    long other (List.mem_cons_of_mem _ inside)) spot member
  rw [extent_cons, extent_nil] at bound
  omega

/-- The reader stops at a record or passes them all. -/
theorem emitRecords_scanned (logical offset : Nat) (records : List DirEntry) (s : Session)
    (valid : ValidFrom sb.maxInodes offset records)
    (here : s.ctx.pos = BLOCK_SIZE * logical + offset) :
    ∃ going t, emitRecords sb logical offset records s = (.ok going, t) ∧ t.dir = s.dir ∧
      Scanned (BLOCK_SIZE * logical + offset) records s t ∧
      (going = true → t.ctx.pos = BLOCK_SIZE * (logical + 1)) := by
  induction records generalizing offset s with
  | nil =>
      have whole : offset = BLOCK_SIZE := valid
      refine ⟨true, s, rfl, rfl, ⟨rfl, rfl, Emits.refl _ _ _, Or.inr here⟩, ?_⟩
      intro _
      rw [here, whole, Nat.mul_succ]
  | cons de rest ih =>
      have header : DIR_ENTRY_HEADER_SIZE = 12 := rfl
      have long : ∀ other ∈ de :: rest, 0 < other.recLen := by
        intro other member
        have bound := validFrom_long sb.maxInodes offset _ valid other member
        omega
      rcases emitRecords_cons sb logical offset de rest s valid.1 with
        ⟨t, ran, dir, pos, emitted⟩ | ⟨t, ran, dir, pos, emitted⟩
      · refine ⟨false, t, ran, dir, ⟨by rw [dir], by rw [dir], ?_, ?_⟩, by simp⟩
        · rw [pos, emitted]
          exact Emits.refl _ _ _
        · left
          rw [pos, here]
          exact List.mem_cons_self
      · obtain ⟨going, final, rest_ran, same, scanned, ended⟩ := ih (offset + de.recLen) t valid.2 pos
        have next : BLOCK_SIZE * logical + offset + de.recLen = t.ctx.pos := by omega
        rw [← Nat.add_assoc] at scanned
        refine ⟨going, final, ran.trans rest_ran, same.trans dir, ⟨?_, ?_, ?_, ?_⟩, ended⟩
        · rw [same, dir]
        · rw [same, dir]
        · have own : Emits (spots (BLOCK_SIZE * logical + offset) (de :: rest)) s.ctx.pos t.ctx.pos
              s.ctx.emitted t.ctx.emitted := by
            rw [here, ← next, emitted]
            exact record_emits _ de rest _ long
          apply Emits.trans (spots_ordered _ _ long) own
          rw [show de :: rest = [de] ++ rest from rfl, spots_append]
          apply scanned.emits.right
          intro spot member
          have bound := spots_range _ [de] (by simpa using long de List.mem_cons_self) spot member
          rw [extent_cons, extent_nil] at bound
          omega
        · rcases scanned.stands with inside | final_end
          · exact Or.inl (List.mem_cons_of_mem _ inside)
          · right
            rw [extent_cons, final_end, Nat.add_assoc]

theorem readBlock_cases (s : Session) :
    ∃ t : Session, t.dir.blocks = s.dir.blocks ∧ t.dir.index = s.dir.index ∧ t.ctx = s.ctx ∧
      (readBlock s = (.ok (), t) ∨ ∃ reason, readBlock s = (.error (.error reason), t)) := by
  have reads := buffer_reads s.dir
  cases ran : buffer s.dir with
  | mk outcome dir =>
      rw [ran] at reads
      refine ⟨{ s with dir := dir }, reads.blocks, reads.index, rfl, ?_⟩
      cases outcome with
      | ok done =>
          left
          simp only [readBlock, ran]
      | error reason =>
          right
          exact ⟨reason, by simp only [readBlock, ran]⟩

theorem validFrom_append (maxInodes offset : Nat) (first second : List DirEntry)
    (valid : ValidFrom maxInodes offset (first ++ second)) :
    ValidFrom maxInodes (offset + extent first) second := by
  induction first generalizing offset with
  | nil => exact valid
  | cons de rest ih =>
      rw [extent_cons, ← Nat.add_assoc]
      exact ih _ valid.2

/-- What has been done in the first of two parts of the records. -/
theorem Scanned.left {base : Nat} {first : List DirEntry} {s t : Session}
    (scanned : Scanned base first s t) (second : List DirEntry)
    (long : ∀ de ∈ first ++ second, 0 < de.recLen) : Scanned base (first ++ second) s t where
  blocks := scanned.blocks
  index := scanned.index
  emits := by
    have high : t.ctx.pos ≤ base + extent first := by
      rcases scanned.stands with inside | ended
      · exact Nat.le_of_lt (starts_high base first (fun de member =>
          long de (List.mem_append_left _ member)) _ inside)
      · exact Nat.le_of_eq ended
    rw [spots_append]
    apply scanned.emits.left
    intro spot member
    have bound := spots_range _ second (fun de inside =>
      long de (List.mem_append_right _ inside)) spot member
    omega
  stands := by
    rw [starts_append, extent_append, ← Nat.add_assoc]
    rcases scanned.stands with inside | ended
    · exact Or.inl (List.mem_append_left _ inside)
    · cases second with
      | nil => exact Or.inr ended
      | cons de rest =>
          left
          rw [ended]
          exact List.mem_append_right _ List.mem_cons_self

theorem Scanned.right {base : Nat} {second : List DirEntry} {s t : Session} (first : List DirEntry)
    (scanned : Scanned (base + extent first) second s t) (long : ∀ de ∈ first, 0 < de.recLen)
    (start : base + extent first ≤ s.ctx.pos) : Scanned base (first ++ second) s t where
  blocks := scanned.blocks
  index := scanned.index
  emits := by
    rw [spots_append]
    apply scanned.emits.right
    intro spot member
    have bound := spots_range base first long spot member
    omega
  stands := by
    rw [starts_append, extent_append, ← Nat.add_assoc]
    rcases scanned.stands with inside | ended
    · exact Or.inl (List.mem_append_right _ inside)
    · exact Or.inr ended

theorem Scanned.trans {base : Nat} {records : List DirEntry} {s t u : Session}
    (long : ∀ de ∈ records, 0 < de.recLen) (first : Scanned base records s t)
    (second : Scanned base records t u) : Scanned base records s u where
  blocks := second.blocks.trans first.blocks
  index := second.index.trans first.index
  emits := Emits.trans (spots_ordered _ _ long) first.emits second.emits
  stands := second.stands

/-- The reader goes through the blocks until it is stopped. -/
theorem emitBlocks_scanned (logical : Nat) (blocks : List (List DirEntry)) (s : Session)
    (valid : ∀ records ∈ blocks, ValidBlock sb.maxInodes records)
    (stands : blocks = [] ∧ s.ctx.pos = BLOCK_SIZE * logical ∨
      s.ctx.pos < BLOCK_SIZE * (logical + 1) ∧
        s.ctx.pos ∈ starts (BLOCK_SIZE * logical) blocks.flatten) :
    Scanned (BLOCK_SIZE * logical) blocks.flatten s (emitBlocks sb logical blocks s).2 ∧
      (emitBlocks sb logical blocks s).1 ≠ .error .inside := by
  induction blocks generalizing logical s with
  | nil =>
      rcases stands with ⟨_, at_end⟩ | ⟨_, inside⟩
      · exact ⟨⟨rfl, rfl, Emits.refl _ _ _, Or.inr at_end⟩, by simp [emitBlocks]⟩
      · cases inside
  | cons records rest ih =>
      have whole := validFrom_extent sb.maxInodes 0 records (valid records List.mem_cons_self)
      have positive : 0 < BLOCK_SIZE := by decide
      have long := flatten_long sb.maxInodes _ valid
      have others : ∀ other ∈ rest, ValidBlock sb.maxInodes other := fun other member =>
        valid other (List.mem_cons_of_mem _ member)
      rw [List.flatten_cons] at stands long ⊢
      have first_long : ∀ de ∈ records, 0 < de.recLen := fun de member =>
        long de (List.mem_append_left _ member)
      -- The position is in the first of the blocks.
      obtain ⟨low, start⟩ : BLOCK_SIZE * logical ≤ s.ctx.pos ∧
          s.ctx.pos ∈ starts (BLOCK_SIZE * logical) records := by
        rcases stands with ⟨none, _⟩ | ⟨below, inside⟩
        · cases none
        · refine ⟨starts_low _ _ _ inside, ?_⟩
          rw [starts_append] at inside
          rcases List.mem_append.mp inside with here | later
          · exact here
          · have bound := starts_low _ _ _ later
            rw [Nat.mul_succ] at below
            omega
      obtain ⟨u, blocks, index, ctx, ran | ⟨reason, ran⟩⟩ := readBlock_cases s
      · obtain ⟨front, here, split, size, found⟩ := recordsFrom_start
          (s.ctx.pos - BLOCK_SIZE * logical) records first_long (BLOCK_SIZE * logical)
          (by rw [Nat.add_sub_cancel' low]; exact start)
        have here_valid : ValidFrom sb.maxInodes (s.ctx.pos - BLOCK_SIZE * logical) here := by
          have all := valid records List.mem_cons_self
          rw [ValidBlock, split] at all
          have tail := validFrom_append sb.maxInodes 0 front here all
          rwa [Nat.zero_add, size] at tail
        obtain ⟨going, t, emitted, dir, scanned, ended⟩ := emitRecords_scanned sb logical
          (s.ctx.pos - BLOCK_SIZE * logical) here u here_valid (by rw [ctx]; omega)
        have first : Scanned (BLOCK_SIZE * logical) (records ++ rest.flatten) s t := by
          have inner : Scanned (BLOCK_SIZE * logical) records u t := by
            rw [split]
            apply Scanned.right front _ _ _
            · rw [size]
              exact scanned
            · intro de member
              exact first_long de (by rw [split]; exact List.mem_append_left _ member)
            · rw [ctx]
              omega
          have outer := inner.left rest.flatten long
          exact ⟨outer.blocks.trans blocks, outer.index.trans index, by rw [← ctx]; exact outer.emits,
            outer.stands⟩
        have run : emitBlocks sb logical (records :: rest) s =
            if going then emitBlocks sb (logical + 1) rest t else (.ok (), t) := by
          rw [emitBlocks, Routine.bind_ok _ _ _ _ _ ran, Routine.read_bind]
          rw [ctx, Nat.max_eq_left low, found]
          simp only
          rw [Routine.bind_ok _ _ _ _ _ emitted]
          cases going with
          | true => rfl
          | false => rfl
        rw [run]
        cases going with
        | false => exact ⟨first, by simp⟩
        | true =>
            rw [if_pos rfl]
            have pos := ended rfl
            have rest_run := ih (logical + 1) t others (by
              cases rest with
              | nil => exact Or.inl ⟨rfl, pos⟩
              | cons next more =>
                  right
                  have filled := flatten_extent sb.maxInodes _ others
                  rw [List.length_cons, Nat.mul_succ] at filled
                  rw [pos, Nat.mul_succ _ (logical + 1)]
                  exact ⟨by omega, starts_head _ _ (by omega)⟩)
            refine ⟨Scanned.trans long first ?_, rest_run.2⟩
            have reached : BLOCK_SIZE * logical + extent records = BLOCK_SIZE * (logical + 1) := by
              rw [Nat.mul_succ]
              omega
            apply Scanned.right records _ first_long
            · rw [pos, reached]
            · rw [reached]
              exact rest_run.1
      · rw [emitBlocks, Routine.bind_error _ _ _ _ _ ran]
        refine ⟨⟨blocks, index, ?_, ?_⟩, by simp⟩
        · rw [ctx]
          exact Emits.refl _ _ _
        · rw [ctx, starts_append]
          exact Or.inl (List.mem_append_left _ start)

/-- A call of `cryexts_iterate` takes up at a boundary, and leaves the reader at one. -/
theorem iterate_scanned (s : Session)
    (valid : ∀ records ∈ s.dir.blocks, ValidBlock sb.maxInodes records)
    (stands : Boundary s.dir.blocks.flatten s.ctx.pos) :
    Scanned 0 s.dir.blocks.flatten s (iterate sb s).2 ∧ (iterate sb s).1 ≠ .error .inside := by
  have size := flatten_extent sb.maxInodes _ valid
  have long := flatten_long sb.maxInodes _ valid
  unfold iterate
  rw [Routine.read_bind]
  by_cases outside : BLOCK_SIZE * s.dir.blocks.length ≤ s.ctx.pos
  · rw [if_pos outside]
    refine ⟨⟨rfl, rfl, Emits.refl _ _ _, ?_⟩, by simp⟩
    rw [Nat.zero_add]
    exact stands
  · rw [if_neg outside]
    have inside : s.ctx.pos ∈ starts 0 s.dir.blocks.flatten := by
      rcases stands with inside | ended
      · exact inside
      · omega
    have positive : 0 < BLOCK_SIZE := by decide
    have low := Nat.mul_div_le s.ctx.pos BLOCK_SIZE
    have high := Nat.lt_mul_div_succ s.ctx.pos positive
    generalize s.ctx.pos / BLOCK_SIZE = logical at *
    have before : logical < s.dir.blocks.length :=
      Nat.lt_of_mul_lt_mul_left (Nat.lt_of_le_of_lt low (Nat.lt_of_not_le outside))
    have cut : s.dir.blocks.flatten =
        (s.dir.blocks.take logical).flatten ++ (s.dir.blocks.drop logical).flatten := by
      rw [← List.flatten_append, List.take_append_drop]
    have front : extent (s.dir.blocks.take logical).flatten = BLOCK_SIZE * logical := by
      have all := flatten_extent sb.maxInodes (s.dir.blocks.take logical) fun records member =>
        valid records (List.mem_of_mem_take member)
      rw [all, List.length_take, Nat.min_eq_left (Nat.le_of_lt before)]
    have tail : s.ctx.pos ∈ starts (BLOCK_SIZE * logical) (s.dir.blocks.drop logical).flatten := by
      rw [cut, starts_append, front, Nat.zero_add] at inside
      rcases List.mem_append.mp inside with early | here
      · have bound := starts_high 0 _ (fun de member => long de (by
          rw [cut]; exact List.mem_append_left _ member)) _ early
        omega
      · exact here
    obtain ⟨scanned, fine⟩ := emitBlocks_scanned sb logical (s.dir.blocks.drop logical) s
      (fun records member => valid records (List.mem_of_mem_drop member)) (Or.inr ⟨high, tail⟩)
    refine ⟨?_, fine⟩
    rw [cut]
    apply Scanned.right _ _ _ (by omega)
    · rw [front, Nat.zero_add]
      exact scanned
    · intro de member
      exact long de (by rw [cut]; exact List.mem_append_left _ member)

end Scan

end Dir

end Cryexts
