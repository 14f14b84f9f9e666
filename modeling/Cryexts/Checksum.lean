import Cryexts.Format
import Mathlib.Data.List.Basic

set_option autoImplicit false

namespace Cryexts

open ByteBuf (Field)

def FNV_OFFSET : Nat := 2166136261
def FNV_PRIME : Nat := 16777619

def fnv1aStep (hash : Nat) (byte : UInt8) : Nat := (hash ^^^ byte.toNat) * FNV_PRIME % 2 ^ 32

/-- `cryexts_checksum_skip` from a seed, over `len` bytes. -/
def checksumSkip (bytes : Nat → UInt8) (len skipOffset skipLen seed : Nat) : Nat :=
  (List.range len).foldl (fun hash index =>
    if skipOffset ≤ index ∧ index < skipOffset + skipLen then hash
    else fnv1aStep hash (bytes index)) seed

/-- `cryexts_fnv1a_update` over one block. -/
def fnv1aUpdate (hash : Nat) (buf : Block) : Nat :=
  (List.range BLOCK_SIZE).foldl (fun hash index => fnv1aStep hash (buf.byte index)) hash

/-- `checksum` sits at the same offset in every journal block of both versions. -/
def journalChecksum : Field := ⟨16, 4⟩

def journalV2Checksum (buf : Block) : Nat :=
  checksumSkip buf.byte BLOCK_SIZE journalChecksum.offset journalChecksum.width FNV_OFFSET

def ChecksumValid (buf : Block) : Prop := buf.get journalChecksum = journalV2Checksum buf

instance (buf : Block) : Decidable (ChecksumValid buf) :=
  inferInstanceAs (Decidable (_ = _))

/-- The checksum stored over itself, last. -/
def sealBlock (buf : Block) : Block := buf.set journalChecksum (journalV2Checksum buf)

theorem checksumSkip_congr (first second : Nat → UInt8) (len skipOffset skipLen seed : Nat)
    (same : ∀ index, index < len → ¬ (skipOffset ≤ index ∧ index < skipOffset + skipLen) →
      first index = second index) :
    checksumSkip first len skipOffset skipLen seed =
      checksumSkip second len skipOffset skipLen seed := by
  apply List.foldl_ext
  intro hash index member
  split
  · rfl
  · rename_i covered
    rw [same index (List.mem_range.mp member) covered]

private theorem foldl_lt {α : Type} (update : Nat → α → Nat) (bound : Nat) (indices : List α)
    (keeps : ∀ hash index, hash < bound → update hash index < bound) (seed : Nat)
    (start : seed < bound) : indices.foldl update seed < bound := by
  induction indices generalizing seed with
  | nil => exact start
  | cons index rest ih => exact ih _ (keeps seed index start)

theorem fnv1aStep_lt (hash : Nat) (byte : UInt8) : fnv1aStep hash byte < 2 ^ 32 :=
  Nat.mod_lt _ (by decide)

theorem checksumSkip_lt (bytes : Nat → UInt8) (len skipOffset skipLen seed : Nat)
    (start : seed < 2 ^ 32) : checksumSkip bytes len skipOffset skipLen seed < 2 ^ 32 := by
  apply foldl_lt
  · intro hash index small
    split
    · exact small
    · exact fnv1aStep_lt _ _
  · exact start

theorem fnv1a_bytes_lt (bytes : List UInt8) (seed : Nat) (start : seed < 2 ^ 32) :
    bytes.foldl fnv1aStep seed < 2 ^ 32 :=
  foldl_lt _ _ _ (fun _ _ _ => fnv1aStep_lt _ _) seed start

theorem journalV2Checksum_lt (buf : Block) : journalV2Checksum buf < 2 ^ 32 :=
  checksumSkip_lt _ _ _ _ _ (by decide)

theorem fnv1aUpdate_lt (hash : Nat) (buf : Block) (small : hash < 2 ^ 32) :
    fnv1aUpdate hash buf < 2 ^ 32 :=
  foldl_lt _ _ _ (fun _ _ _ => fnv1aStep_lt _ _) hash small

theorem journalV2Checksum_set (buf : Block) (value : Nat) :
    journalV2Checksum (buf.set journalChecksum value) = journalV2Checksum buf := by
  apply checksumSkip_congr
  intro index _ outside
  exact ByteBuf.byte_set _ _ _ _ outside

@[simp] theorem sealBlock_valid (buf : Block) : ChecksumValid (sealBlock buf) := by
  rw [ChecksumValid, sealBlock, journalV2Checksum_set,
    ByteBuf.get_set_same _ _ _ (by decide)]
  exact Nat.mod_eq_of_lt (journalV2Checksum_lt buf)

theorem get_sealBlock (buf : Block) (field : Field) (apart : field.Apart journalChecksum) :
    (sealBlock buf).get field = buf.get field :=
  ByteBuf.get_set_apart _ _ _ _ apart

theorem get_sealBlock_checksum (buf : Block) :
    (sealBlock buf).get journalChecksum = journalV2Checksum buf := by
  rw [sealBlock, ByteBuf.get_set_same _ _ _ (by decide)]
  exact Nat.mod_eq_of_lt (journalV2Checksum_lt buf)

-- No proof about the journal looks inside a checksum.
attribute [irreducible] fnv1aUpdate journalV2Checksum

end Cryexts
