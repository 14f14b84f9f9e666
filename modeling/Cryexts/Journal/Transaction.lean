import Cryexts.Journal.Replay

set_option autoImplicit false

namespace Cryexts

open WriteLog (store applyWrites)

/-- The blocks `[first, first + blocks)` set aside for the journal. -/
structure JournalArea where
  first : Nat
  blocks : Nat
  deriving DecidableEq, Repr

namespace JournalArea

def Inside (area : JournalArea) (block : Nat) : Prop :=
  area.first ≤ block ∧ block < area.first + area.blocks

instance (area : JournalArea) (block : Nat) : Decidable (area.Inside block) :=
  inferInstanceAs (Decidable (_ ∧ _))

def capacity (area : JournalArea) : Nat :=
  if area.blocks < JOURNAL_V3_MIN_BLOCKS then 0
  else min JOURNAL_V3_MAX_ENTRIES (area.blocks - 3)

def ringStart (area : JournalArea) : Nat := area.first + 1

def ringEnd (area : JournalArea) : Nat := area.first + area.blocks

end JournalArea

def SbInfo.area (sbi : SbInfo) : JournalArea := ⟨sbi.journalBlock, sbi.journalBlocks⟩

theorem SbInfo.journalV3PayloadCapacity_eq (sbi : SbInfo) :
    sbi.journalV3PayloadCapacity = sbi.area.capacity := rfl

theorem SbInfo.ringWrap_eq (sbi : SbInfo) (position : Nat) :
    sbi.ringWrap position = SegmentRing.wrap sbi.area.ringStart sbi.area.ringEnd position := rfl

/-- What one commit makes durable: a sequence number and the new content of its
home blocks. -/
structure Transaction where
  sequence : Nat
  images : List (Nat × Block)

namespace Transaction

def homes (t : Transaction) : List Nat := t.images.map Prod.fst

/-- The journal blocks of the transaction in a ring. -/
def span (t : Transaction) : Nat := t.images.length + 2

/-- Its places when its descriptor is at `position` of a ring. -/
def placesAt (t : Transaction) (position : Nat) : JournalV3Segment :=
  ⟨position, position + 1, t.images.length, position + 1 + t.images.length⟩

def entries (t : Transaction) : List (Nat × Nat) :=
  t.images.map fun image => (image.1, fnv1aUpdate FNV_OFFSET image.2)

/-- The running checksum over all payloads, zero for none. -/
def payloadChecksum (t : Transaction) : Nat :=
  if t.images.length = 0 then 0
  else t.images.foldl (fun sum image => fnv1aUpdate sum image.2) FNV_OFFSET

def header (t : Transaction) (places : JournalV3Segment) : JournalV3Descriptor :=
  journalV3DescriptorHeader t.images.length t.sequence places.payloadStart places.commitBlock

def descriptor (t : Transaction) (places : JournalV3Segment) : Block :=
  sealMembers ((t.header places).withEntries t.entries)

def commitRecord (t : Transaction) (places : JournalV3Segment) : Block :=
  journalV3PrepareCommit t.images.length t.sequence
    ((t.descriptor places).get journalChecksum) t.payloadChecksum true places.descriptorBlock

/-- A transaction the journal in `area` can hold, over home blocks below `count`. -/
structure Valid (t : Transaction) (area : JournalArea) (count : Nat) : Prop where
  fits : t.images.length ≤ area.capacity
  bounded : t.sequence < 2 ^ 64
  home : ∀ image, image ∈ t.images → image.1 < count ∧ ¬ area.Inside image.1
  distinct : t.homes.Nodup

/-- Descriptor and payloads are on the device. -/
structure Logged (t : Transaction) (disk : Nat → Block) (places : JournalV3Segment) : Prop where
  descriptor : disk places.descriptorBlock = t.descriptor places
  payload : ∀ index image, t.images[index]? = some image →
    disk (places.payloadStart + index) = image.2

/-- The commit record is, too. -/
structure Committed (t : Transaction) (disk : Nat → Block) (places : JournalV3Segment) : Prop
    extends t.Logged disk places where
  commitRecord : disk places.commitBlock = t.commitRecord places

end Transaction

/-- Places whose numbers a 64-bit field holds. -/
structure JournalV3Segment.Bounded (places : JournalV3Segment) : Prop where
  descriptorBlock : places.descriptorBlock < 2 ^ 64
  payloadStart : places.payloadStart < 2 ^ 64
  commitBlock : places.commitBlock < 2 ^ 64

/-- Everything a control block is given fits its members. -/
structure ControlFits (sbi : SbInfo) (state last active checkpoint : Nat)
    (segment : JournalV3Segment) : Prop where
  state : state ≤ JOURNAL_V3_STATE_CHECKPOINTING
  last : last < 2 ^ 64
  active : active < 2 ^ 64
  checkpoint : checkpoint < 2 ^ 64
  places : segment.Bounded
  blocks : segment.payloadBlocks < 2 ^ 64
  limit : sbi.journalBlock + sbi.journalBlocks < 2 ^ 64
  ring : sbi.journalRing = true →
    sbi.journalRingHead < sbi.ringEnd ∧ sbi.journalRingTail < sbi.ringEnd ∧
      sbi.ringStart < sbi.ringEnd

theorem ofBlock_prepareControl {sbi : SbInfo} {state last active checkpoint : Nat}
    {segment : JournalV3Segment} (fits : ControlFits sbi state last active checkpoint segment) :
    JournalV3Control.ofBlock
        (journalV3PrepareControl sbi state last active checkpoint segment) =
      { journalV3ControlFields sbi state last active checkpoint segment with
        checksum := (journalV3PrepareControl sbi state last active checkpoint segment).get
          journalChecksum } := by
  obtain ⟨small, lastSmall, activeSmall, checkpointSmall, ⟨descriptor, payload, commit⟩, blocks,
    limit, ring⟩ := fits
  unfold JOURNAL_V3_STATE_CHECKPOINTING at small
  have features : sbi.journalV3Features < 2 ^ 32 := by
    unfold SbInfo.journalV3Features
    cases sbi.journalRing <;> decide
  have pointers : (if sbi.journalRing then sbi.journalRingHead else 0) < 2 ^ 64 ∧
      (if sbi.journalRing then sbi.journalRingTail else 0) < 2 ^ 64 ∧
      (if sbi.journalRing then sbi.ringStart else 0) < 2 ^ 64 ∧
      (if sbi.journalRing then sbi.ringEnd else 0) < 2 ^ 64 := by
    unfold SbInfo.ringStart SbInfo.ringEnd at *
    cases enabled : sbi.journalRing with
    | false => simp
    | true =>
        have range := ring enabled
        simp only [↓reduceIte]
        omega
  rw [journalV3PrepareControl, JournalV3Control.ofBlock_sealMembers]
  · rw [sealMembers, get_sealBlock_checksum]
  · intro member inside
    simp only [JournalV3Control.members, journalV3ControlFields, List.mem_cons, List.not_mem_nil,
      or_false] at inside
    rcases inside with rfl | rfl | rfl | rfl | rfl | rfl | rfl | rfl | rfl | rfl | rfl | rfl |
      rfl | rfl | rfl | rfl
    all_goals simp only [JOURNAL_V3_MAGIC, JOURNAL_V3_LAYOUT_VERSION, JOURNAL_V3_BLOCK_CONTROL]
    all_goals omega

/-- The places a control block names. -/
def namedPlaces (control : JournalV3Control) : JournalV3Segment :=
  ⟨control.descriptorBlock, control.payloadStart, control.payloadBlocks, control.commitBlock⟩

/-- A control block names the segment it was prepared for. -/
theorem namedPlaces_prepareControl (sbi : SbInfo) (state last active checkpoint : Nat)
    {segment : JournalV3Segment} (bounded : segment.Bounded)
    (blocks : segment.payloadBlocks < 2 ^ 64) :
    namedPlaces (JournalV3Control.ofBlock
      (journalV3PrepareControl sbi state last active checkpoint segment)) = segment := by
  have read (field : ByteBuf.Field) (value : Nat) (inside : (field, value) ∈
      (journalV3ControlFields sbi state last active checkpoint segment).members)
      (place : field.stop ≤ BLOCK_SIZE ∧ field.Apart journalChecksum)
      (fit : value < 256 ^ field.width) :
      (journalV3PrepareControl sbi state last active checkpoint segment).get field = value :=
    JournalV3Control.get_sealMembers _ field value inside place fit
  have descriptor := read ⟨48, 8⟩ segment.descriptorBlock
    (by simp [JournalV3Control.members, journalV3ControlFields]) (by decide)
    bounded.descriptorBlock
  have payload := read ⟨56, 8⟩ segment.payloadStart
    (by simp [JournalV3Control.members, journalV3ControlFields]) (by decide) bounded.payloadStart
  have length := read ⟨64, 8⟩ segment.payloadBlocks
    (by simp [JournalV3Control.members, journalV3ControlFields]) (by decide) blocks
  have commit := read ⟨72, 8⟩ segment.commitBlock
    (by simp [JournalV3Control.members, journalV3ControlFields]) (by decide) bounded.commitBlock
  simp only [namedPlaces, JournalV3Control.ofBlock, descriptor, payload, length, commit]

theorem foldl_fnv1aUpdate_lt (images : List (Nat × Block)) (seed : Nat) (small : seed < 2 ^ 32) :
    images.foldl (fun sum image => fnv1aUpdate sum image.2) seed < 2 ^ 32 := by
  induction images generalizing seed with
  | nil => exact small
  | cons image rest ih => exact ih _ (fnv1aUpdate_lt _ _ small)

namespace Transaction

variable (t : Transaction) (places : JournalV3Segment) (area : JournalArea) (count : Nat)

theorem payloadChecksum_lt : t.payloadChecksum < 2 ^ 32 := by
  unfold payloadChecksum
  split
  · decide
  · exact foldl_fnv1aUpdate_lt _ _ (by decide)

theorem length_le (valid : t.Valid area count) : t.images.length ≤ JOURNAL_V3_MAX_ENTRIES := by
  have fits := valid.fits
  unfold JournalArea.capacity at fits
  split at fits <;> omega

private theorem entry_fit (index : Nat) (entries : List (Nat × Nat))
    (small : ∀ entry, entry ∈ entries → entry.1 < 2 ^ 64 ∧ entry.2 < 2 ^ 32) :
    Fit (JournalV3Entry.allMembers index entries) := by
  induction entries generalizing index with
  | nil => simp [Fit, JournalV3Entry.allMembers]
  | cons entry rest ih =>
      have here := small entry List.mem_cons_self
      intro member inside
      rw [JournalV3Entry.allMembers, List.mem_append] at inside
      rcases inside with first | later
      · simp only [JournalV3Entry.members, List.mem_cons, List.not_mem_nil, or_false] at first
        rcases first with rfl | rfl
        · simpa using here.1
        · simpa using here.2
      · exact ih (index + 1) (fun other member => small other (List.mem_cons_of_mem _ member))
          member later

theorem descriptor_fit (valid : t.Valid area count) (bounded : places.Bounded)
    (small : count ≤ 2 ^ 64) : Fit ((t.header places).withEntries t.entries) := by
  intro member inside
  have length := length_le t area count valid
  rcases List.mem_append.mp inside with first | later
  · have sequence := valid.bounded
    have start := bounded.payloadStart
    have commit := bounded.commitBlock
    have most : JOURNAL_V3_MAX_ENTRIES < 2 ^ 32 := by decide
    simp only [JournalV3Descriptor.members, List.mem_cons, List.not_mem_nil, or_false] at first
    rcases first with rfl | rfl | rfl | rfl | rfl | rfl | rfl | rfl <;>
      simp only [header, journalV3DescriptorHeader, JOURNAL_V3_MAGIC,
        JOURNAL_V3_LAYOUT_VERSION, JOURNAL_V3_BLOCK_DESCRIPTOR] <;> omega
  · apply entry_fit 0 t.entries _ member later
    intro entry present
    simp only [entries, List.mem_map] at present
    obtain ⟨image, inside, rfl⟩ := present
    have home := (valid.home image inside).1
    exact ⟨by dsimp only; omega, fnv1aUpdate_lt _ _ (by decide)⟩

theorem ofBlock_descriptor (valid : t.Valid area count) (bounded : places.Bounded)
    (small : count ≤ 2 ^ 64) :
    JournalV3Descriptor.ofBlock (t.descriptor places) =
      { t.header places with checksum := (t.descriptor places).get journalChecksum } := by
  rw [descriptor, JournalV3Descriptor.ofBlock_sealMembers _ _
    (descriptor_fit t places area count valid bounded small)]
  rw [sealMembers, get_sealBlock_checksum]

/-- Entry `index` of the descriptor is image `index`. -/
theorem entry_descriptor (valid : t.Valid area count) (bounded : places.Bounded)
    (small : count ≤ 2 ^ 64) (index : Nat) (image : Nat × Block)
    (here : t.images[index]? = some image) :
    JournalV3Entry.ofBlock (t.descriptor places) index =
      ⟨image.1, fnv1aUpdate FNV_OFFSET image.2, 0⟩ := by
  have length := length_le t area count valid
  have inside : index < t.images.length := by
    rw [List.getElem?_eq_some_iff] at here
    exact here.1
  have entry : t.entries[index]? = some (image.1, fnv1aUpdate FNV_OFFSET image.2) := by
    simp only [entries, List.getElem?_map, here, Option.map_some]
  exact JournalV3Descriptor.entry_sealMembers _ _ _ _ (by omega) entry
    (descriptor_fit t places area count valid bounded small)

theorem ofBlock_commitRecord (valid : t.Valid area count) (bounded : places.Bounded) :
    JournalV3Commit.ofBlock (t.commitRecord places) =
      { magic := JOURNAL_V3_MAGIC
        layoutVersion := JOURNAL_V3_LAYOUT_VERSION
        blockType := JOURNAL_V3_BLOCK_COMMIT
        flags := JOURNAL_V3_FLAG_COMMITTED
        entryCount := t.images.length
        checksum := (t.commitRecord places).get journalChecksum
        descriptorChecksum := (t.descriptor places).get journalChecksum
        payloadChecksum := t.payloadChecksum
        sequence := t.sequence
        descriptorBlock := places.descriptorBlock } := by
  have sum := ByteBuf.get_lt (t.descriptor places) journalChecksum
  have total := payloadChecksum_lt t
  have length := length_le t area count valid
  have most : JOURNAL_V3_MAX_ENTRIES < 2 ^ 32 := by decide
  have sequence := valid.bounded
  have place := bounded.descriptorBlock
  have width : journalChecksum.width = 4 := rfl
  rw [width] at sum
  rw [commitRecord, journalV3PrepareCommit, JournalV3Commit.ofBlock_sealMembers]
  · rw [sealMembers, get_sealBlock_checksum]
    rfl
  · intro member inside
    simp only [JournalV3Commit.members, List.mem_cons, List.not_mem_nil, or_false] at inside
    rcases inside with rfl | rfl | rfl | rfl | rfl | rfl | rfl | rfl | rfl <;>
      simp only [JOURNAL_V3_MAGIC, JOURNAL_V3_LAYOUT_VERSION, JOURNAL_V3_BLOCK_COMMIT,
        JOURNAL_V3_FLAG_COMMITTED, ↓reduceIte] <;> omega

@[simp] theorem commitRecord_valid : ChecksumValid (t.commitRecord places) :=
  sealMembers_valid _

@[simp] theorem descriptor_valid : ChecksumValid (t.descriptor places) := sealMembers_valid _

end Transaction

end Cryexts
