import Cryexts.Dir.Entry
import Cryexts.Super

set_option autoImplicit false

namespace Cryexts

namespace Dir

open ByteBuf (Field)

def META_TAG_DIRIDX : Nat := 0x44495258
def DIR_INDEX_MAGIC : Nat := 0x44495831
def DIR_INDEX_BUCKETS : Nat := 64

/-- `sizeof(struct cryexts_dir_index_block)`. -/
def DIR_INDEX_SIZE : Nat := 156

-- Members of `struct cryexts_dir_index_block`.
namespace Index

def magic : Field := ⟨0, 4⟩
def buckets : Field := ⟨4, 2⟩
def dirBlocks : Field := ⟨6, 2⟩
def entries : Field := ⟨8, 4⟩
/-- The first word of `reserved`. -/
def checksum : Field := ⟨12, 4⟩
/-- `block_masks[bucket]`. -/
def blockMask (bucket : Nat) : Field := ⟨28 + 2 * bucket, 2⟩

end Index

abbrev IndexBuf : Type := ByteBuf DIR_INDEX_SIZE

/-- What the directory code reads of `disk_sb`. -/
structure DirSuper where
  dirIndex : Bool
  dirIndexSeed : Nat
  metadataCsum : Bool
  fsGeneration : Nat
  maxInodes : Nat
  deriving DecidableEq, Repr

/-- `cryexts_dir_hash`. -/
def dirHash (sb : DirSuper) (name : List UInt8) : Nat :=
  (leBytes sb.dirIndexSeed 8 ++ name).foldl fnv1aStep FNV_OFFSET

def bucketOf (sb : DirSuper) (name : List UInt8) : Nat := dirHash sb name % DIR_INDEX_BUCKETS

theorem bucketOf_lt (sb : DirSuper) (name : List UInt8) : bucketOf sb name < DIR_INDEX_BUCKETS :=
  Nat.mod_lt _ (by decide)

/-- `cryexts_dir_index_expected_checksum`. -/
def dirIndexExpectedChecksum (sb : DirSuper) (block : Nat) (content : Block) : Nat :=
  checksumSkip content.byte BLOCK_SIZE Index.checksum.offset Index.checksum.width
    (metadataSeed sb.fsGeneration block META_TAG_DIRIDX)

/-- `cryexts_dir_index_load` of a block that could be read. -/
def decodeIndex (sb : DirSuper) (block : Nat) (content : Block) : Except Errno IndexBuf :=
  if sb.metadataCsum = true ∧
      content.get Index.checksum ≠ dirIndexExpectedChecksum sb block content then .error .euclean
  else
    let index : IndexBuf := ByteBuf.ofBytes DIR_INDEX_SIZE content.byte
    if index.get Index.magic ≠ DIR_INDEX_MAGIC ∨ index.get Index.buckets ≠ DIR_INDEX_BUCKETS then
      .error .euclean
    else .ok index

/-- The block `cryexts_dir_index_store` writes. -/
def encodeIndex (sb : DirSuper) (block : Nat) (index : IndexBuf) : Block :=
  let content : Block := ByteBuf.ofBytes BLOCK_SIZE index.byte
  if sb.metadataCsum then
    content.set Index.checksum (dirIndexExpectedChecksum sb block content)
  else content

/-- `index.block_masks[bucket] |= 1U << logical`. -/
def addMask (index : IndexBuf) (bucket logical : Nat) : IndexBuf :=
  index.set (Index.blockMask bucket) (index.get (Index.blockMask bucket) ||| 2 ^ logical)

/-- `index.block_masks[bucket] &= ~(1U << logical)`. -/
def dropMask (index : IndexBuf) (bucket logical : Nat) : IndexBuf :=
  index.set (Index.blockMask bucket)
    (index.get (Index.blockMask bucket) &&& (2 ^ 32 - 1 - 2 ^ logical))

/-- The masks a rebuild collects from one block. -/
def maskBlock (sb : DirSuper) (index : IndexBuf) (logical : Nat) (records : List DirEntry) :
    IndexBuf :=
  records.foldl (fun current de =>
    if de.live then addMask current (bucketOf sb de.name) logical else current) index

/-- The masks a rebuild collects from the blocks from `logical` on. -/
def maskBlocks (sb : DirSuper) : IndexBuf → Nat → List (List DirEntry) → IndexBuf
  | index, _, [] => index
  | index, logical, records :: rest =>
      maskBlocks sb (maskBlock sb index logical records) (logical + 1) rest

/-- The index `cryexts_dir_index_rebuild` collects. -/
def rebuiltIndex (sb : DirSuper) (blocks : List (List DirEntry)) : IndexBuf :=
  let index := (ByteBuf.zero DIR_INDEX_SIZE).setAll
    [(Index.magic, DIR_INDEX_MAGIC), (Index.buckets, DIR_INDEX_BUCKETS),
      (Index.dirBlocks, blocks.length)]
  (maskBlocks sb index 0 blocks).set Index.entries
    ((blocks.flatten.filter DirEntry.live).length)

section Members

theorem blockMask_apart_low (field : Field) (low : field.stop ≤ 28) (bucket : Nat) :
    field.Apart (Index.blockMask bucket) := by
  left
  show field.stop ≤ 28 + 2 * bucket
  omega

theorem blockMask_apart (bucket other : Nat) (distinct : bucket ≠ other) :
    (Index.blockMask bucket).Apart (Index.blockMask other) := by
  show 28 + 2 * bucket + 2 ≤ 28 + 2 * other ∨ 28 + 2 * other + 2 ≤ 28 + 2 * bucket
  omega

theorem blockMask_fits (bucket : Nat) (inside : bucket < DIR_INDEX_BUCKETS) :
    (Index.blockMask bucket).stop ≤ DIR_INDEX_SIZE := by
  have count : DIR_INDEX_BUCKETS = 64 := rfl
  have size : DIR_INDEX_SIZE = 156 := rfl
  show 28 + 2 * bucket + 2 ≤ DIR_INDEX_SIZE
  omega

/-- Whether the index lets a lookup of the bucket read a block. -/
def maskBit (index : IndexBuf) (bucket logical : Nat) : Bool :=
  (index.get (Index.blockMask bucket)).testBit logical

theorem maskBit_addMask (index : IndexBuf) (bucket logical other block : Nat)
    (inside : bucket < DIR_INDEX_BUCKETS) (small : logical < 16) :
    maskBit (addMask index bucket logical) other block =
      (decide (other = bucket ∧ block = logical) || maskBit index other block) := by
  unfold maskBit addMask
  by_cases same : other = bucket
  · subst same
    have bound : index.get (Index.blockMask other) < 2 ^ 16 := ByteBuf.get_lt index _
    rw [ByteBuf.get_set_same _ _ _ (blockMask_fits other inside),
      show 256 ^ (Index.blockMask other).width = 2 ^ 16 from rfl, Nat.testBit_mod_two_pow,
      Nat.testBit_or, Nat.testBit_two_pow]
    by_cases here : block = logical
    · simp [here, small]
    · have away : ¬ logical = block := fun equal => here equal.symm
      by_cases low : block < 16
      · simp [here, away, low]
      · have zero := Nat.testBit_lt_two_pow (Nat.lt_of_lt_of_le bound
          (Nat.pow_le_pow_right (by decide) (by omega : 16 ≤ block)))
        simp [here, low, zero]
  · rw [ByteBuf.get_set_apart _ _ _ _ (blockMask_apart other bucket same)]
    simp [same]

theorem maskBit_dropMask (index : IndexBuf) (bucket logical other block : Nat)
    (inside : bucket < DIR_INDEX_BUCKETS) (small : logical < 16)
    (apart : ¬ (other = bucket ∧ block = logical)) :
    maskBit (dropMask index bucket logical) other block = maskBit index other block := by
  unfold maskBit dropMask
  by_cases same : other = bucket
  · subst same
    have bound : index.get (Index.blockMask other) < 2 ^ 16 := ByteBuf.get_lt index _
    have power : 2 ^ logical < 2 ^ 32 := Nat.pow_lt_pow_right (by decide) (by omega)
    have away : ¬ logical = block := fun equal => apart ⟨rfl, equal.symm⟩
    rw [ByteBuf.get_set_same _ _ _ (blockMask_fits other inside),
      show 256 ^ (Index.blockMask other).width = 2 ^ 16 from rfl, Nat.testBit_mod_two_pow,
      Nat.testBit_and, show 2 ^ 32 - 1 - 2 ^ logical = 2 ^ 32 - (2 ^ logical + 1) by omega,
      Nat.testBit_two_pow_sub_succ power, Nat.testBit_two_pow]
    by_cases low : block < 16
    · have wide : block < 32 := by omega
      simp [low, wide, away]
    · have zero := Nat.testBit_lt_two_pow (Nat.lt_of_lt_of_le bound
        (Nat.pow_le_pow_right (by decide) (by omega : 16 ≤ block)))
      simp [zero]
  · rw [ByteBuf.get_set_apart _ _ _ _ (blockMask_apart other bucket same)]

/-- A member below the masks is not touched by them. -/
theorem get_addMask (index : IndexBuf) (bucket logical : Nat) (field : Field)
    (low : field.stop ≤ 28) : (addMask index bucket logical).get field = index.get field :=
  ByteBuf.get_set_apart _ _ _ _ (blockMask_apart_low field low bucket)

theorem get_dropMask (index : IndexBuf) (bucket logical : Nat) (field : Field)
    (low : field.stop ≤ 28) : (dropMask index bucket logical).get field = index.get field :=
  ByteBuf.get_set_apart _ _ _ _ (blockMask_apart_low field low bucket)

theorem maskBit_set_low (index : IndexBuf) (field : Field) (value bucket block : Nat)
    (low : field.stop ≤ 28) : maskBit (index.set field value) bucket block =
      maskBit index bucket block := by
  unfold maskBit
  rw [ByteBuf.get_set_apart _ _ _ _ (by
    rcases blockMask_apart_low field low bucket with left | right
    · exact Or.inr left
    · exact Or.inl right)]

end Members

section Rebuild

variable (sb : DirSuper)

theorem get_maskBlock (index : IndexBuf) (logical : Nat) (records : List DirEntry) (field : Field)
    (low : field.stop ≤ 28) : (maskBlock sb index logical records).get field = index.get field := by
  induction records generalizing index with
  | nil => rfl
  | cons de rest ih =>
      show (maskBlock sb (if de.live then addMask index (bucketOf sb de.name) logical else index)
        logical rest).get field = _
      rw [ih]
      split
      · exact get_addMask _ _ _ _ low
      · rfl

theorem get_maskBlocks (index : IndexBuf) (logical : Nat) (blocks : List (List DirEntry))
    (field : Field) (low : field.stop ≤ 28) :
    (maskBlocks sb index logical blocks).get field = index.get field := by
  induction blocks generalizing index logical with
  | nil => rfl
  | cons records rest ih => exact (ih _ _).trans (get_maskBlock sb _ _ _ _ low)

/-- Collecting a block only adds bits, and adds those of its live entries. -/
theorem maskBit_maskBlock (index : IndexBuf) (logical : Nat) (records : List DirEntry)
    (small : logical < 16) :
    (∀ bucket block, maskBit index bucket block = true →
      maskBit (maskBlock sb index logical records) bucket block = true) ∧
    ∀ entry, entry ∈ records → entry.live = true →
      maskBit (maskBlock sb index logical records) (bucketOf sb entry.name) logical = true := by
  induction records generalizing index with
  | nil =>
      refine ⟨fun _ _ set => set, ?_⟩
      intro entry member
      cases member
  | cons de rest ih =>
      have tail := ih (if de.live then addMask index (bucketOf sb de.name) logical else index)
      have grows : ∀ bucket block, maskBit index bucket block = true →
          maskBit (if de.live then addMask index (bucketOf sb de.name) logical else index)
            bucket block = true := by
        intro bucket block set
        split
        · rw [maskBit_addMask _ _ _ _ _ (bucketOf_lt sb _) small, set, Bool.or_true]
        · exact set
      constructor
      · intro bucket block set
        exact tail.1 bucket block (grows bucket block set)
      · intro entry member live
        rcases List.mem_cons.mp member with rfl | later
        · apply tail.1
          rw [if_pos live, maskBit_addMask _ _ _ _ _ (bucketOf_lt sb _) small]
          simp
        · exact tail.2 entry later live

theorem maskBit_maskBlocks (index : IndexBuf) (logical : Nat) (blocks : List (List DirEntry))
    (small : logical + blocks.length ≤ 16) :
    (∀ bucket block, maskBit index bucket block = true →
      maskBit (maskBlocks sb index logical blocks) bucket block = true) ∧
    ∀ place records entry, blocks[place]? = some records → entry ∈ records → entry.live = true →
      maskBit (maskBlocks sb index logical blocks) (bucketOf sb entry.name) (logical + place) =
        true := by
  induction blocks generalizing index logical with
  | nil =>
      refine ⟨fun _ _ set => set, ?_⟩
      intro place records entry found
      simp at found
  | cons first rest ih =>
      rw [List.length_cons] at small
      have head := maskBit_maskBlock sb index logical first (by omega)
      have tail := ih (maskBlock sb index logical first) (logical + 1) (by omega)
      constructor
      · intro bucket block set
        exact tail.1 bucket block (head.1 bucket block set)
      · intro place records entry found member live
        cases place with
        | zero =>
            have same : first = records := by simpa using found
            subst same
            exact tail.1 _ _ (head.2 entry member live)
        | succ place =>
            have later := tail.2 place records entry (by simpa using found) member live
            rw [show logical + 1 + place = logical + (place + 1) by omega] at later
            exact later

end Rebuild

section Codec

variable (sb : DirSuper) (block : Nat)

theorem dirIndexExpectedChecksum_set (content : Block) (value : Nat) :
    dirIndexExpectedChecksum sb block (content.set Index.checksum value) =
      dirIndexExpectedChecksum sb block content := by
  apply checksumSkip_congr
  intro index _ outside
  exact ByteBuf.byte_set _ _ _ _ outside

theorem dirIndexExpectedChecksum_lt (content : Block) :
    dirIndexExpectedChecksum sb block content < 2 ^ 32 := by
  apply checksumSkip_lt
  apply metadataSeed_lt

theorem get_encodeIndex (index : IndexBuf) (field : Field) (fits : field.stop ≤ DIR_INDEX_SIZE)
    (apart : field.Apart Index.checksum) :
    (encodeIndex sb block index).get field = index.get field := by
  have copied : (ByteBuf.ofBytes BLOCK_SIZE index.byte : Block).get field = index.get field := by
    apply ByteBuf.readLE_congr
    intro place lower upper
    apply ByteBuf.byte_ofBytes
    have size : DIR_INDEX_SIZE = 156 := rfl
    have whole : BLOCK_SIZE = 4096 := rfl
    simp only [Field.stop] at fits
    omega
  unfold encodeIndex
  simp only
  split
  · rw [ByteBuf.get_set_apart _ _ _ _ apart, copied]
  · exact copied

/-- What was stored loads again, every member as it was. -/
theorem decode_encode (index : IndexBuf) (magic : index.get Index.magic = DIR_INDEX_MAGIC)
    (buckets : index.get Index.buckets = DIR_INDEX_BUCKETS) :
    ∃ loaded, decodeIndex sb block (encodeIndex sb block index) = .ok loaded ∧
      ∀ field : Field, field.stop ≤ DIR_INDEX_SIZE → field.Apart Index.checksum →
        loaded.get field = index.get field := by
  have members : ∀ field : Field, field.stop ≤ DIR_INDEX_SIZE → field.Apart Index.checksum →
      (ByteBuf.ofBytes DIR_INDEX_SIZE (encodeIndex sb block index).byte : IndexBuf).get field =
        index.get field := by
    intro field fits apart
    rw [← get_encodeIndex sb block index field fits apart]
    apply ByteBuf.readLE_congr
    intro place lower upper
    apply ByteBuf.byte_ofBytes
    simp only [Field.stop] at fits
    omega
  refine ⟨ByteBuf.ofBytes DIR_INDEX_SIZE (encodeIndex sb block index).byte, ?_, members⟩
  have sealed : ¬ (sb.metadataCsum = true ∧ (encodeIndex sb block index).get Index.checksum ≠
      dirIndexExpectedChecksum sb block (encodeIndex sb block index)) := by
    rintro ⟨enabled, differs⟩
    apply differs
    unfold encodeIndex
    simp only [enabled, ↓reduceIte]
    rw [dirIndexExpectedChecksum_set, ByteBuf.get_set_same _ _ _ (by decide)]
    exact Nat.mod_eq_of_lt (dirIndexExpectedChecksum_lt sb block _)
  unfold decodeIndex
  rw [if_neg sealed]
  simp only
  rw [members Index.magic (by decide) (by decide), members Index.buckets (by decide) (by decide),
    if_neg (by simp [magic, buckets])]

end Codec

end Dir

end Cryexts
