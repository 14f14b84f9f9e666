import Cryexts.Checksum

set_option autoImplicit false

namespace Cryexts

open ByteBuf (Field)

def JOURNAL_V3_MIN_BLOCKS : Nat := 4
def JOURNAL_V3_MAGIC : Nat := 0x4a4e4c33
def JOURNAL_V3_LAYOUT_VERSION : Nat := 3
def JOURNAL_V3_FEATURE_REDO : Nat := 1
def JOURNAL_V3_FEATURE_RING : Nat := 2
def JOURNAL_V3_STATE_IDLE : Nat := 0
def JOURNAL_V3_STATE_ACTIVE : Nat := 1
def JOURNAL_V3_STATE_PREPARED : Nat := 2
def JOURNAL_V3_STATE_COMMITTED : Nat := 3
def JOURNAL_V3_STATE_CHECKPOINTING : Nat := 4
def JOURNAL_V3_FLAG_COMMITTED : Nat := 1
def JOURNAL_V3_BLOCK_CONTROL : Nat := 1
def JOURNAL_V3_BLOCK_DESCRIPTOR : Nat := 2
def JOURNAL_V3_BLOCK_COMMIT : Nat := 3
def JOURNAL_V3_DESCRIPTOR_BYTES : Nat := 72
def JOURNAL_V3_ENTRY_BYTES : Nat := 16
def JOURNAL_V3_MAX_ENTRIES : Nat :=
  (BLOCK_SIZE - JOURNAL_V3_DESCRIPTOR_BYTES) / JOURNAL_V3_ENTRY_BYTES

/-- `struct cryexts_journal_v3_control`. -/
@[ext] structure JournalV3Control where
  magic : Nat
  layoutVersion : Nat
  blockType : Nat
  state : Nat
  features : Nat
  checksum : Nat
  lastSequence : Nat
  activeSequence : Nat
  checkpointSequence : Nat
  descriptorBlock : Nat
  payloadStart : Nat
  payloadBlocks : Nat
  commitBlock : Nat
  ringHead : Nat
  ringTail : Nat
  ringStart : Nat
  ringEnd : Nat
  deriving DecidableEq, Repr

namespace JournalV3Control

def ofBlock (buf : Block) : JournalV3Control where
  magic := buf.get ⟨0, 4⟩
  layoutVersion := buf.get ⟨4, 2⟩
  blockType := buf.get ⟨6, 2⟩
  state := buf.get ⟨8, 4⟩
  features := buf.get ⟨12, 4⟩
  checksum := buf.get journalChecksum
  lastSequence := buf.get ⟨24, 8⟩
  activeSequence := buf.get ⟨32, 8⟩
  checkpointSequence := buf.get ⟨40, 8⟩
  descriptorBlock := buf.get ⟨48, 8⟩
  payloadStart := buf.get ⟨56, 8⟩
  payloadBlocks := buf.get ⟨64, 8⟩
  commitBlock := buf.get ⟨72, 8⟩
  ringHead := buf.get ⟨80, 8⟩
  ringTail := buf.get ⟨88, 8⟩
  ringStart := buf.get ⟨96, 8⟩
  ringEnd := buf.get ⟨104, 8⟩

/-- Every member but the checksum, with its place. -/
def members (control : JournalV3Control) : List (Field × Nat) :=
  [(⟨0, 4⟩, control.magic), (⟨4, 2⟩, control.layoutVersion), (⟨6, 2⟩, control.blockType),
    (⟨8, 4⟩, control.state), (⟨12, 4⟩, control.features), (⟨24, 8⟩, control.lastSequence),
    (⟨32, 8⟩, control.activeSequence), (⟨40, 8⟩, control.checkpointSequence),
    (⟨48, 8⟩, control.descriptorBlock), (⟨56, 8⟩, control.payloadStart),
    (⟨64, 8⟩, control.payloadBlocks), (⟨72, 8⟩, control.commitBlock),
    (⟨80, 8⟩, control.ringHead), (⟨88, 8⟩, control.ringTail),
    (⟨96, 8⟩, control.ringStart), (⟨104, 8⟩, control.ringEnd)]

end JournalV3Control

/-- `struct cryexts_journal_v3_entry`. -/
@[ext] structure JournalV3Entry where
  homeBlock : Nat
  payloadChecksum : Nat
  flags : Nat
  deriving DecidableEq, Repr

namespace JournalV3Entry

def offset (index : Nat) : Nat := JOURNAL_V3_DESCRIPTOR_BYTES + JOURNAL_V3_ENTRY_BYTES * index

/-- `entries[index]` of a descriptor block. -/
def ofBlock (buf : Block) (index : Nat) : JournalV3Entry where
  homeBlock := buf.get ⟨offset index, 8⟩
  payloadChecksum := buf.get ⟨offset index + 8, 4⟩
  flags := buf.get ⟨offset index + 12, 4⟩

/-- The two members the commit path assigns. -/
def members (index homeBlock payloadChecksum : Nat) : List (Field × Nat) :=
  [(⟨offset index, 8⟩, homeBlock), (⟨offset index + 8, 4⟩, payloadChecksum)]

/-- The entries from `index` on. -/
def allMembers : Nat → List (Nat × Nat) → List (Field × Nat)
  | _, [] => []
  | index, (homeBlock, payloadChecksum) :: rest =>
      members index homeBlock payloadChecksum ++ allMembers (index + 1) rest

end JournalV3Entry

/-- The header of `struct cryexts_journal_v3_descriptor`. -/
@[ext] structure JournalV3Descriptor where
  magic : Nat
  layoutVersion : Nat
  blockType : Nat
  flags : Nat
  entryCount : Nat
  checksum : Nat
  sequence : Nat
  payloadStart : Nat
  commitBlock : Nat
  deriving DecidableEq, Repr

namespace JournalV3Descriptor

def ofBlock (buf : Block) : JournalV3Descriptor where
  magic := buf.get ⟨0, 4⟩
  layoutVersion := buf.get ⟨4, 2⟩
  blockType := buf.get ⟨6, 2⟩
  flags := buf.get ⟨8, 4⟩
  entryCount := buf.get ⟨12, 4⟩
  checksum := buf.get journalChecksum
  sequence := buf.get ⟨24, 8⟩
  payloadStart := buf.get ⟨32, 8⟩
  commitBlock := buf.get ⟨40, 8⟩

def members (descriptor : JournalV3Descriptor) : List (Field × Nat) :=
  [(⟨0, 4⟩, descriptor.magic), (⟨4, 2⟩, descriptor.layoutVersion),
    (⟨6, 2⟩, descriptor.blockType), (⟨8, 4⟩, descriptor.flags),
    (⟨12, 4⟩, descriptor.entryCount), (⟨24, 8⟩, descriptor.sequence),
    (⟨32, 8⟩, descriptor.payloadStart), (⟨40, 8⟩, descriptor.commitBlock)]

end JournalV3Descriptor

/-- `struct cryexts_journal_v3_commit`. -/
@[ext] structure JournalV3Commit where
  magic : Nat
  layoutVersion : Nat
  blockType : Nat
  flags : Nat
  entryCount : Nat
  checksum : Nat
  descriptorChecksum : Nat
  payloadChecksum : Nat
  sequence : Nat
  descriptorBlock : Nat
  deriving DecidableEq, Repr

namespace JournalV3Commit

def ofBlock (buf : Block) : JournalV3Commit where
  magic := buf.get ⟨0, 4⟩
  layoutVersion := buf.get ⟨4, 2⟩
  blockType := buf.get ⟨6, 2⟩
  flags := buf.get ⟨8, 4⟩
  entryCount := buf.get ⟨12, 4⟩
  checksum := buf.get journalChecksum
  descriptorChecksum := buf.get ⟨20, 4⟩
  payloadChecksum := buf.get ⟨24, 4⟩
  sequence := buf.get ⟨32, 8⟩
  descriptorBlock := buf.get ⟨40, 8⟩

def members (commit : JournalV3Commit) : List (Field × Nat) :=
  [(⟨0, 4⟩, commit.magic), (⟨4, 2⟩, commit.layoutVersion), (⟨6, 2⟩, commit.blockType),
    (⟨8, 4⟩, commit.flags), (⟨12, 4⟩, commit.entryCount),
    (⟨20, 4⟩, commit.descriptorChecksum), (⟨24, 4⟩, commit.payloadChecksum),
    (⟨32, 8⟩, commit.sequence), (⟨40, 8⟩, commit.descriptorBlock)]

end JournalV3Commit

/-- `memset` to zero, the members, then the checksum. -/
def sealMembers (members : List (Field × Nat)) : Block :=
  sealBlock ((ByteBuf.zero BLOCK_SIZE).setAll members)

/-- Values that their members can hold. -/
def Fit (members : List (Field × Nat)) : Prop :=
  ∀ member, member ∈ members → member.2 < 256 ^ member.1.width

theorem get_sealMembers (members : List (Field × Nat)) (field : Field) (value : Nat)
    (separate : members.Pairwise (fun first second => first.1.Apart second.1))
    (inside : (field, value) ∈ members) (fits : field.stop ≤ BLOCK_SIZE)
    (apart : field.Apart journalChecksum) (fit : value < 256 ^ field.width) :
    (sealMembers members).get field = value := by
  rw [sealMembers, get_sealBlock _ _ apart,
    ByteBuf.get_setAll_member _ _ _ _ separate inside fits]
  exact Nat.mod_eq_of_lt fit

theorem get_sealMembers_apart (members : List (Field × Nat)) (field : Field)
    (apart : field.Apart journalChecksum)
    (outside : ∀ member, member ∈ members → field.Apart member.1) :
    (sealMembers members).get field = 0 := by
  rw [sealMembers, get_sealBlock _ _ apart, ByteBuf.get_setAll_apart _ _ _ outside,
    ByteBuf.get_zero]

@[simp] theorem sealMembers_valid (members : List (Field × Nat)) :
    ChecksumValid (sealMembers members) := sealBlock_valid _

theorem JournalV3Control.get_sealMembers (control : JournalV3Control) (field : Field) (value : Nat)
    (inside : (field, value) ∈ control.members)
    (place : field.stop ≤ BLOCK_SIZE ∧ field.Apart journalChecksum)
    (fit : value < 256 ^ field.width) : (sealMembers control.members).get field = value := by
  apply Cryexts.get_sealMembers _ _ _ _ inside place.1 place.2 fit
  simp [members, Field.Apart, Field.stop]

theorem JournalV3Control.ofBlock_sealMembers (control : JournalV3Control)
    (fit : Fit control.members) :
    JournalV3Control.ofBlock (sealMembers control.members) =
      { control with
        checksum := journalV2Checksum ((ByteBuf.zero BLOCK_SIZE).setAll control.members) } := by
  have read : ∀ field value, (field, value) ∈ control.members →
      field.stop ≤ BLOCK_SIZE ∧ field.Apart journalChecksum →
      (sealMembers control.members).get field = value :=
    fun field value inside place =>
      control.get_sealMembers field value inside place (fit _ inside)
  have sum : (sealMembers control.members).get journalChecksum =
      journalV2Checksum ((ByteBuf.zero BLOCK_SIZE).setAll control.members) :=
    get_sealBlock_checksum _
  ext
  all_goals simp only [ofBlock]
  case checksum => exact sum
  all_goals exact read _ _ (by simp [members]) (by decide)

theorem JournalV3Commit.ofBlock_sealMembers (commit : JournalV3Commit)
    (fit : Fit commit.members) :
    JournalV3Commit.ofBlock (sealMembers commit.members) =
      { commit with
        checksum := journalV2Checksum ((ByteBuf.zero BLOCK_SIZE).setAll commit.members) } := by
  have separate : commit.members.Pairwise (fun first second => first.1.Apart second.1) := by
    simp [members, Field.Apart, Field.stop]
  have read : ∀ field value, (field, value) ∈ commit.members →
      field.stop ≤ BLOCK_SIZE ∧ field.Apart journalChecksum →
      (sealMembers commit.members).get field = value :=
    fun field value inside place =>
      get_sealMembers _ _ _ separate inside place.1 place.2 (fit _ inside)
  have sum : (sealMembers commit.members).get journalChecksum =
      journalV2Checksum ((ByteBuf.zero BLOCK_SIZE).setAll commit.members) :=
    get_sealBlock_checksum _
  ext
  all_goals simp only [ofBlock]
  case checksum => exact sum
  all_goals exact read _ _ (by simp [members]) (by decide)

namespace JournalV3Entry

theorem mem_allMembers_bounds (index : Nat) (entries : List (Nat × Nat)) (member : Field × Nat)
    (inside : member ∈ allMembers index entries) :
    offset index ≤ member.1.offset ∧ member.1.stop ≤ offset (index + entries.length) := by
  induction entries generalizing index with
  | nil => simp [allMembers] at inside
  | cons entry rest ih =>
      rw [allMembers, List.mem_append] at inside
      rcases inside with here | later
      · simp only [members, List.mem_cons, List.not_mem_nil, or_false] at here
        rcases here with rfl | rfl <;>
          simp only [offset, Field.stop, JOURNAL_V3_DESCRIPTOR_BYTES, JOURNAL_V3_ENTRY_BYTES,
            List.length_cons] <;> omega
      · have bounds := ih (index + 1) later
        simp only [offset, JOURNAL_V3_DESCRIPTOR_BYTES, JOURNAL_V3_ENTRY_BYTES,
          List.length_cons] at *
        omega

theorem allMembers_separate (index : Nat) (entries : List (Nat × Nat)) :
    (allMembers index entries).Pairwise (fun first second => first.1.Apart second.1) := by
  induction entries generalizing index with
  | nil => simp [allMembers]
  | cons entry rest ih =>
      rw [allMembers, List.pairwise_append]
      refine ⟨?_, ih (index + 1), ?_⟩
      · simp [members, Field.Apart, Field.stop]
      · intro first here second later
        have bounds := mem_allMembers_bounds (index + 1) rest second later
        simp only [members, List.mem_cons, List.not_mem_nil, or_false] at here
        rcases here with rfl | rfl <;>
          simp only [offset, Field.Apart, Field.stop, JOURNAL_V3_DESCRIPTOR_BYTES,
            JOURNAL_V3_ENTRY_BYTES] at * <;> omega

/-- No entry member covers the flags of any entry. -/
theorem flags_apart (start index : Nat) (entries : List (Nat × Nat)) (member : Field × Nat)
    (inside : member ∈ allMembers start entries) :
    Field.Apart ⟨offset index + 12, 4⟩ member.1 := by
  induction entries generalizing start with
  | nil => simp [allMembers] at inside
  | cons entry rest ih =>
      rw [allMembers, List.mem_append] at inside
      rcases inside with here | later
      · simp only [members, List.mem_cons, List.not_mem_nil, or_false] at here
        rcases here with rfl | rfl <;>
          simp only [offset, Field.Apart, Field.stop, JOURNAL_V3_DESCRIPTOR_BYTES,
            JOURNAL_V3_ENTRY_BYTES] <;> omega
      · exact ih (start + 1) later

theorem mem_allMembers (index position : Nat) (entries : List (Nat × Nat))
    (entry : Nat × Nat) (here : entries[position]? = some entry) :
    (⟨offset (index + position), 8⟩, entry.1) ∈ allMembers index entries ∧
      (⟨offset (index + position) + 8, 4⟩, entry.2) ∈ allMembers index entries := by
  induction entries generalizing index position with
  | nil => simp at here
  | cons first rest ih =>
      cases position with
      | zero =>
          rw [List.getElem?_cons_zero, Option.some.injEq] at here
          subst here
          simp [allMembers, members]
      | succ position =>
          rw [List.getElem?_cons_succ] at here
          have later := ih (index + 1) position here
          rw [show index + 1 + position = index + (position + 1) by omega] at later
          simp only [allMembers, List.mem_append]
          exact ⟨Or.inr later.1, Or.inr later.2⟩

end JournalV3Entry

namespace JournalV3Descriptor

/-- A descriptor's members with those of its entries. -/
def withEntries (descriptor : JournalV3Descriptor) (entries : List (Nat × Nat)) :
    List (Field × Nat) :=
  descriptor.members ++ JournalV3Entry.allMembers 0 entries

private theorem header_stop (descriptor : JournalV3Descriptor) (member : Field × Nat)
    (inside : member ∈ descriptor.members) :
    member.1.stop ≤ JOURNAL_V3_DESCRIPTOR_BYTES := by
  simp only [members, List.mem_cons, List.not_mem_nil, or_false] at inside
  rcases inside with rfl | rfl | rfl | rfl | rfl | rfl | rfl | rfl <;>
    simp [Field.stop, JOURNAL_V3_DESCRIPTOR_BYTES]

theorem withEntries_separate (descriptor : JournalV3Descriptor) (entries : List (Nat × Nat)) :
    (descriptor.withEntries entries).Pairwise (fun first second => first.1.Apart second.1) := by
  rw [withEntries, List.pairwise_append]
  refine ⟨by simp [members, Field.Apart, Field.stop],
    JournalV3Entry.allMembers_separate 0 entries, ?_⟩
  intro first header second later
  have lower := (JournalV3Entry.mem_allMembers_bounds 0 entries second later).1
  have upper := header_stop descriptor first header
  simp only [JournalV3Entry.offset, Field.Apart] at *
  omega

theorem ofBlock_sealMembers (descriptor : JournalV3Descriptor) (entries : List (Nat × Nat))
    (fit : Fit (descriptor.withEntries entries)) :
    ofBlock (sealMembers (descriptor.withEntries entries)) =
      { descriptor with
        checksum := journalV2Checksum
          ((ByteBuf.zero BLOCK_SIZE).setAll (descriptor.withEntries entries)) } := by
  have read : ∀ field value, (field, value) ∈ descriptor.members →
      field.stop ≤ BLOCK_SIZE ∧ field.Apart journalChecksum →
      (sealMembers (descriptor.withEntries entries)).get field = value :=
    fun field value inside place =>
      get_sealMembers _ _ _ (withEntries_separate descriptor entries)
        (List.mem_append_left _ inside) place.1 place.2 (fit _ (List.mem_append_left _ inside))
  have sum : (sealMembers (descriptor.withEntries entries)).get journalChecksum =
      journalV2Checksum ((ByteBuf.zero BLOCK_SIZE).setAll (descriptor.withEntries entries)) :=
    get_sealBlock_checksum _
  ext
  all_goals simp only [ofBlock]
  case checksum => exact sum
  all_goals exact read _ _ (by simp [members]) (by decide)

private theorem entry_place (index : Nat) (inside : index < JOURNAL_V3_MAX_ENTRIES) :
    JournalV3Entry.offset index + 16 ≤ BLOCK_SIZE ∧
      journalChecksum.stop ≤ JournalV3Entry.offset index := by
  simp only [JOURNAL_V3_MAX_ENTRIES, BLOCK_SIZE, JOURNAL_V3_DESCRIPTOR_BYTES,
    JOURNAL_V3_ENTRY_BYTES, JournalV3Entry.offset, journalChecksum, Field.stop] at *
  omega

/-- An entry below the count reads back; its flags were never assigned. -/
theorem entry_sealMembers (descriptor : JournalV3Descriptor) (entries : List (Nat × Nat))
    (index : Nat) (entry : Nat × Nat) (small : index < JOURNAL_V3_MAX_ENTRIES)
    (here : entries[index]? = some entry) (fit : Fit (descriptor.withEntries entries)) :
    JournalV3Entry.ofBlock (sealMembers (descriptor.withEntries entries)) index =
      ⟨entry.1, entry.2, 0⟩ := by
  have place := entry_place index small
  have present := JournalV3Entry.mem_allMembers 0 index entries entry here
  rw [Nat.zero_add] at present
  have read : ∀ field value, (field, value) ∈ JournalV3Entry.allMembers 0 entries →
      field.stop ≤ BLOCK_SIZE → field.Apart journalChecksum →
      (sealMembers (descriptor.withEntries entries)).get field = value :=
    fun field value inside stop apart =>
      get_sealMembers _ _ _ (withEntries_separate descriptor entries)
        (List.mem_append_right _ inside) stop apart (fit _ (List.mem_append_right _ inside))
  have flags : (sealMembers (descriptor.withEntries entries)).get
      ⟨JournalV3Entry.offset index + 12, 4⟩ = 0 := by
    apply get_sealMembers_apart
    · simp only [Field.Apart, Field.stop, journalChecksum] at *
      omega
    · intro member inside
      rcases List.mem_append.mp inside with header | later
      · have upper := header_stop descriptor member header
        simp only [Field.Apart, JournalV3Entry.offset] at *
        omega
      · exact JournalV3Entry.flags_apart 0 index entries member later
  ext
  · exact read _ _ present.1 (by simp only [Field.stop] at *; omega)
      (by simp only [Field.Apart, Field.stop] at *; omega)
  · exact read _ _ present.2 (by simp only [Field.stop] at *; omega)
      (by simp only [Field.Apart, Field.stop] at *; omega)
  · exact flags

/-- Past the count an entry is blank. -/
theorem entry_sealMembers_blank (descriptor : JournalV3Descriptor) (entries : List (Nat × Nat))
    (index : Nat) (small : index < JOURNAL_V3_MAX_ENTRIES) (past : entries.length ≤ index) :
    JournalV3Entry.ofBlock (sealMembers (descriptor.withEntries entries)) index = ⟨0, 0, 0⟩ := by
  have place := entry_place index small
  have read : ∀ field : Field, JournalV3Entry.offset index ≤ field.offset →
      (sealMembers (descriptor.withEntries entries)).get field = 0 := by
    intro field low
    apply get_sealMembers_apart
    · simp only [Field.Apart, Field.stop, journalChecksum] at *
      omega
    · intro member inside
      rcases List.mem_append.mp inside with header | later
      · have upper := header_stop descriptor member header
        simp only [Field.Apart, JournalV3Entry.offset] at *
        omega
      · have upper := (JournalV3Entry.mem_allMembers_bounds 0 entries member later).2
        simp only [Field.Apart, JournalV3Entry.offset, JOURNAL_V3_ENTRY_BYTES] at *
        omega
  ext
  · exact read _ (Nat.le_refl _)
  · exact read _ (Nat.le_add_right _ _)
  · exact read _ (Nat.le_add_right _ _)

end JournalV3Descriptor

end Cryexts
