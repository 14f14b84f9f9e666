import Cryexts.Lib.Slice
import Cryexts.World

set_option autoImplicit false

namespace Cryexts

open ByteBuf (Field)

def XATTR_MAGIC : Nat := 0x58415454
def XATTR_NAMESPACE_USER : Nat := 1
def XATTR_MAX_ITEMS : Nat := 32
def XATTR_MAX_NAME_LEN : Nat := 247

namespace Xattr

/-! The members of `struct cryexts_xattr_block_header`, and those of the
`struct cryexts_xattr_entry` at an offset. -/

namespace Header

def magic : Field := ⟨0, 4⟩
def entries : Field := ⟨4, 2⟩
def usedBytes : Field := ⟨6, 2⟩
def overflowBlock : Field := ⟨8, 8⟩
def SIZE : Nat := 16

end Header

namespace Entry

def nameLen (offset : Nat) : Field := ⟨offset, 1⟩
def namespaceId (offset : Nat) : Field := ⟨offset + 1, 1⟩
def valueLen (offset : Nat) : Field := ⟨offset + 2, 2⟩
def SIZE : Nat := 4

end Entry

/-- `struct cryexts_xattr_item`: `name` is what stands before the terminator the last writer
has stored, and `value` is `NULL` or memory of the item's own. -/
structure XattrItem where
  name : List UInt8
  valueLen : Nat
  value : Option (List UInt8)
  deriving DecidableEq

/-- A slot as `kcalloc` leaves it. -/
def XattrItem.empty : XattrItem := ⟨[], 0, none⟩

/-- `strlen` of an item's name. -/
def XattrItem.nameLen (item : XattrItem) : Nat := (item.name.takeWhile (· != 0)).length

/-- What a parse works on: the array of items, its two results, and which of the next
`kmemdup`s fail. -/
structure XattrParse where
  items : Nat → XattrItem
  count : Nat
  overflowBlock : Nat
  faults : List Bool

abbrev Parse (α : Type) : Type := Routine XattrParse (Stop Errno) α

/-- The array of `cryexts_alloc_xattr_items` and a count of zero. -/
def XattrParse.start (faults : List Bool) : XattrParse := ⟨fun _ => .empty, 0, 0, faults⟩

/-- `*count = base + i`, and the error. -/
def reject {α : Type} (counted : Nat) (reason : Errno) : Parse α := do
  Routine.modify fun s => { s with count := u32 counted }
  Routine.fail (.error reason)

/-- The value of an entry, copied into memory of its own. -/
def copyValue (block : Block) (slot offset valueLen : Nat) : Parse Unit :=
  if valueLen = 0 then return ()
  else do
    let value ← Checked.copy block offset valueLen
    let s ← Routine.read
    Routine.modify fun s => { s with faults := s.faults.tail }
    if s.faults.head? = some true then reject slot .enomem
    else Checked.store XATTR_MAX_ITEMS slot fun s =>
      { s with items := WriteLog.store s.items slot { s.items slot with value := some value } }

/-- One turn of the loop of `cryexts_parse_xattr_block`: the entry at `offset` into slot `slot`. -/
def parseEntry (block : Block) (slot offset : Nat) : Parse Nat :=
  if BLOCK_SIZE < offset + Entry.SIZE then reject slot .euclean
  else do
    let nameLen ← Checked.load block (Entry.nameLen offset)
    let valueLen ← Checked.load block (Entry.valueLen offset)
    let totalLen := Entry.SIZE + nameLen + valueLen
    if nameLen = 0 ∨ XATTR_MAX_NAME_LEN < nameLen then reject slot .euclean
    else do
      let namespaceId ← Checked.load block (Entry.namespaceId offset)
      if namespaceId ≠ XATTR_NAMESPACE_USER then reject slot .euclean
      else if BLOCK_SIZE < offset + totalLen then reject slot .euclean
      else do
        let name ← Checked.copy block (offset + Entry.SIZE) nameLen
        Checked.store XATTR_MAX_ITEMS slot fun s =>
          { s with items := WriteLog.store s.items slot
                     { s.items slot with name := name, valueLen := valueLen } }
        copyValue block slot (offset + Entry.SIZE + nameLen) valueLen
        return totalLen

/-- The loop with `left` entries to go; it returns the offset behind the last. -/
def parseEntries (block : Block) : (left slot offset : Nat) → Parse Nat
  | 0, _, offset => return offset
  | left + 1, slot, offset => do
    let totalLen ← parseEntry block slot offset
    parseEntries block left (slot + 1) (offset + totalLen)

/-- `cryexts_parse_xattr_block`. -/
def parseXattrBlock (block : Block) (base : Nat) : Parse Unit := do
  let magic ← Checked.load block Header.magic
  if magic ≠ XATTR_MAGIC then Routine.fail (.error .euclean)
  else do
    let entries ← Checked.load block Header.entries
    let used ← Checked.load block Header.usedBytes
    if XATTR_MAX_ITEMS < u32 (base + entries) ∨ BLOCK_SIZE - Header.SIZE < used then
      Routine.fail (.error .euclean)
    else do
      let overflowBlock ← Checked.load block Header.overflowBlock
      Routine.modify fun s => { s with overflowBlock := overflowBlock }
      let offset ← parseEntries block entries base Header.SIZE
      if offset ≠ Header.SIZE + used then reject (base + entries) .euclean
      else Routine.modify fun s => { s with count := u32 (base + entries) }

/-- `cryexts_xattr_item_size`. -/
def XattrItem.size (item : XattrItem) : Nat := Entry.SIZE + item.nameLen + item.valueLen

/-- One entry stored by `cryexts_pack_xattr_block`. -/
def packEntry (item : XattrItem) (offset : Nat) (buf : Block) : Block :=
  let buf := buf.setAll [(Entry.nameLen offset, item.nameLen),
    (Entry.namespaceId offset, XATTR_NAMESPACE_USER), (Entry.valueLen offset, item.valueLen)]
  let buf := buf.put (offset + Entry.SIZE) (item.name.take item.nameLen)
  if item.valueLen = 0 then buf
  else buf.put (offset + Entry.SIZE + item.nameLen) ((item.value.getD []).take item.valueLen)

/-- The loop of `cryexts_pack_xattr_block` over `left` items from `slot` on. -/
def packEntries (items : Nat → XattrItem) :
    (left slot offset : Nat) → Block → Except Errno (Nat × Block)
  | 0, _, offset, buf => .ok (offset, buf)
  | left + 1, slot, offset, buf =>
    if BLOCK_SIZE < offset + (items slot).size then .error .enospc
    else packEntries items left (slot + 1) (offset + (items slot).size)
      (packEntry (items slot) offset buf)

/-- `cryexts_pack_xattr_block`. -/
def packXattrBlock (items : Nat → XattrItem) (start entries overflowBlock : Nat) :
    Except Errno Block :=
  let buf := (ByteBuf.zero BLOCK_SIZE).setAll [(Header.magic, XATTR_MAGIC),
    (Header.entries, entries), (Header.overflowBlock, overflowBlock)]
  match packEntries items entries start Header.SIZE buf with
  | .ok (offset, buf) => .ok (buf.set Header.usedBytes (offset - Header.SIZE))
  | .error reason => .error reason

/-- A slot that a parse has filled: its value is memory of its own, or it needs none. -/
def XattrItem.Filled (item : XattrItem) : Prop :=
  item.value.elim (item.valueLen = 0) fun bytes => bytes ≠ [] ∧ bytes.length = item.valueLen

/-- The slots from `base` up to `counted` are filled, the later ones hold no memory, and the
earlier ones are as they were. -/
structure Covers (base counted : Nat) (items after : Nat → XattrItem) : Prop where
  kept : ∀ slot, slot < base → after slot = items slot
  filled : ∀ slot, base ≤ slot → slot < counted → (after slot).Filled
  clear : ∀ slot, base ≤ slot → counted ≤ slot → (after slot).value = none

section Safety

variable {base slot : Nat} {items : Nat → XattrItem} {now : XattrParse}

theorem reject_run {α : Type} (counted : Nat) (reason : Errno) (s : XattrParse) :
    (reject counted reason : Parse α) s =
      (.error (.error reason), { s with count := u32 counted }) := by
  simp [reject]

theorem u32_of_le (counted : Nat) (small : counted ≤ XATTR_MAX_ITEMS) : u32 counted = counted :=
  Nat.mod_eq_of_lt (Nat.lt_of_le_of_lt small (by decide))

/-- The count of a rejection is the slot it stopped at. -/
theorem reject_covers {α : Type} (now : XattrParse) (reason : Errno) (small : slot ≤ XATTR_MAX_ITEMS)
    (covers : Covers base slot items now.items) :
    ∃ after, (reject slot reason : Parse α) now = (.error (.error reason), after) ∧
      after.count = slot ∧ Covers base slot items after.items := by
  refine ⟨_, reject_run slot reason now, u32_of_le slot small, ?_⟩
  exact ⟨covers.kept, covers.filled, covers.clear⟩

/-- Storing into the next slot keeps the others. -/
theorem Covers.store {current : Nat → XattrItem} (covers : Covers base slot items current)
    (low : base ≤ slot) (item : XattrItem) :
    (item.value = none → Covers base slot items (WriteLog.store current slot item)) ∧
    (item.Filled → Covers base (slot + 1) items (WriteLog.store current slot item)) := by
  constructor
  · intro bare
    constructor
    · intro other below
      rw [WriteLog.store_other _ _ _ _ (by omega)]
      exact covers.kept other below
    · intro other above below
      rw [WriteLog.store_other _ _ _ _ (by omega)]
      exact covers.filled other above below
    · intro other above behind
      by_cases here : other = slot
      · rw [here, WriteLog.store_same]
        exact bare
      · rw [WriteLog.store_other _ _ _ _ here]
        exact covers.clear other above behind
  · intro filled
    constructor
    · intro other below
      rw [WriteLog.store_other _ _ _ _ (by omega)]
      exact covers.kept other below
    · intro other above below
      by_cases here : other = slot
      · rw [here, WriteLog.store_same]
        exact filled
      · rw [WriteLog.store_other _ _ _ _ here]
        exact covers.filled other above (by omega)
    · intro other above behind
      rw [WriteLog.store_other _ _ _ _ (by omega)]
      exact covers.clear other above (by omega)

theorem copyValue_covers (now : XattrParse) (block : Block) (offset valueLen : Nat)
    (name : List UInt8)
    (low : base ≤ slot) (room : slot < XATTR_MAX_ITEMS) (inside : offset + valueLen ≤ BLOCK_SIZE)
    (covers : Covers base slot items now.items) (named : now.items slot = ⟨name, valueLen, none⟩) :
    (∃ after, copyValue block slot offset valueLen now = (.ok (), after) ∧
      Covers base (slot + 1) items after.items) ∨
    (∃ reason after, copyValue block slot offset valueLen now = (.error (.error reason), after) ∧
      after.count = slot ∧ Covers base slot items after.items) := by
  rw [copyValue]
  by_cases bare : valueLen = 0
  · left
    rw [if_pos bare]
    have stored := (covers.store low (now.items slot)).2 (by
      rw [named]
      exact bare)
    rw [WriteLog.store_eq_self _ _ _ rfl] at stored
    exact ⟨now, Routine.pure_run _ _, stored⟩
  · rw [if_neg bare, Checked.copy_bind _ _ _ _ _ inside, Routine.read_bind, Routine.modify_bind]
    split
    · right
      have same := (covers.store low (now.items slot)).1 (by rw [named])
      rw [WriteLog.store_eq_self _ _ _ rfl] at same
      obtain ⟨after, ran, count, kept⟩ :=
        reject_covers { now with faults := now.faults.tail } .enomem (Nat.le_of_lt room) same
      exact ⟨.enomem, after, ran, count, kept⟩
    · left
      rw [Checked.store, if_pos room, Routine.modify_run]
      refine ⟨_, rfl, (covers.store low _).2 ?_⟩
      have long : block.slice offset valueLen ≠ [] := by
        intro empty
        exact bare (by rw [← ByteBuf.slice_length block offset valueLen, empty]; rfl)
      simp [XattrItem.Filled, named, long]

/-- One entry, whatever the bytes of the block: it fills its slot, or the count of the
rejection is the slot. -/
theorem parseEntry_covers (block : Block) (offset : Nat) (low : base ≤ slot)
    (room : slot < XATTR_MAX_ITEMS) (covers : Covers base slot items now.items) :
    (∃ totalLen after, parseEntry block slot offset now = (.ok totalLen, after) ∧
      Covers base (slot + 1) items after.items) ∨
    (∃ reason after, parseEntry block slot offset now = (.error (.error reason), after) ∧
      after.count = slot ∧ Covers base slot items after.items) := by
  have rejected := fun (now : XattrParse) (covers : Covers base slot items now.items) =>
    @reject_covers base slot items Nat now .euclean (Nat.le_of_lt room) covers
  rw [parseEntry]
  split
  · exact Or.inr ⟨_, rejected now covers⟩
  · rename_i header
    have within : offset + 4 ≤ BLOCK_SIZE := by
      simp only [Entry.SIZE] at header
      omega
    rw [Checked.load_bind _ _ _ _ (by simp only [Entry.nameLen, ByteBuf.Field.stop]; omega),
      Checked.load_bind _ _ _ _ (by simp only [Entry.valueLen, ByteBuf.Field.stop]; omega)]
    generalize block.get (Entry.nameLen offset) = nameLen
    generalize block.get (Entry.valueLen offset) = valueLen
    split
    · exact Or.inr ⟨_, rejected now covers⟩
    · rw [Checked.load_bind _ _ _ _ (by simp only [Entry.namespaceId, ByteBuf.Field.stop]; omega)]
      split
      · exact Or.inr ⟨_, rejected now covers⟩
      · split
        · exact Or.inr ⟨_, rejected now covers⟩
        · rename_i whole
          rw [Checked.copy_bind _ _ _ _ _ (by omega), Checked.store_bind _ _ _ _ _ room]
          have named := (covers.store low { now.items slot with
            name := block.slice (offset + Entry.SIZE) nameLen, valueLen := valueLen }).1
            (covers.clear slot low (Nat.le_refl _))
          rcases copyValue_covers { now with items := WriteLog.store now.items slot _ } block
            (offset + Entry.SIZE + nameLen) valueLen (block.slice (offset + Entry.SIZE) nameLen)
            low room (by omega) named (by
              show WriteLog.store now.items slot _ slot = _
              rw [WriteLog.store_same, covers.clear slot low (Nat.le_refl _)]) with
            ⟨after, ran, filled⟩ | ⟨reason, after, ran, count, kept⟩
          · left
            exact ⟨_, after, Routine.bind_ok _ _ _ _ _ ran, filled⟩
          · right
            exact ⟨reason, after, Routine.bind_error _ _ _ _ _ ran, count, kept⟩

/-- The loop: it fills the slots it goes through, up to the count it reports. -/
theorem parseEntries_covers (now : XattrParse) (block : Block) (left offset : Nat) (low : base ≤ slot)
    (room : slot + left ≤ XATTR_MAX_ITEMS) (covers : Covers base slot items now.items) :
    (∃ stop after, parseEntries block left slot offset now = (.ok stop, after) ∧
      Covers base (slot + left) items after.items) ∨
    (∃ reason after, parseEntries block left slot offset now = (.error (.error reason), after) ∧
      slot ≤ after.count ∧ after.count < slot + left ∧ Covers base after.count items after.items) := by
  induction left generalizing slot offset now with
  | zero =>
      left
      exact ⟨offset, now, Routine.pure_run _ _, covers⟩
  | succ left ih =>
      rw [parseEntries]
      rcases parseEntry_covers block offset low (by omega) covers with
        ⟨totalLen, after, ran, filled⟩ | ⟨reason, after, ran, count, kept⟩
      · rw [Routine.bind_ok _ _ _ _ _ ran]
        have rest := ih after (offset + totalLen) (Nat.le_succ_of_le low) (by omega) filled
        rw [show slot + (left + 1) = slot + 1 + left by omega]
        rcases rest with ended | ⟨reason, final, went, start, stop, covered⟩
        · exact Or.inl ended
        · exact Or.inr ⟨reason, final, went, by omega, by omega, covered⟩
      · right
        rw [Routine.bind_error _ _ _ _ _ ran]
        refine ⟨reason, after, rfl, by omega, by omega, ?_⟩
        rw [count]
        exact kept

/-- A parse stays in its block and in the array of items, whatever the bytes, and the count it
leaves behind is that of the slots it has filled. -/
structure Parsed (base : Nat) (now : XattrParse) (answer : Except (Stop Errno) Unit)
    (after : XattrParse) : Prop where
  confined : answer ≠ .error .fault
  low : base ≤ after.count
  high : after.count ≤ max base XATTR_MAX_ITEMS
  covers : Covers base after.count now.items after.items

theorem parseXattrBlock_parsed (block : Block) (base : Nat) (now : XattrParse)
    (small : base + 2 ^ 16 ≤ 2 ^ 32) (counted : now.count = base)
    (clear : ∀ slot, base ≤ slot → (now.items slot).value = none) :
    Parsed base now (parseXattrBlock block base now).1 (parseXattrBlock block base now).2 := by
  have start : Covers base base now.items now.items :=
    ⟨fun _ _ => rfl, fun slot above below => absurd above (by omega), fun slot above _ =>
      clear slot above⟩
  have refused : Parsed base now (.error (.error .euclean)) now := by
    refine ⟨by simp, by omega, by omega, ?_⟩
    rw [counted]
    exact start
  rw [parseXattrBlock, Checked.load_bind _ _ _ _ (by decide)]
  split
  · exact refused
  · rw [Checked.load_bind _ _ _ _ (by decide), Checked.load_bind _ _ _ _ (by decide)]
    have few : block.get Header.entries < 2 ^ 16 := block.get_lt Header.entries
    generalize block.get Header.entries = entries at *
    have sum : u32 (base + entries) = base + entries := Nat.mod_eq_of_lt (by omega)
    rw [sum]
    split
    · exact refused
    · rename_i admitted
      have room : base + entries ≤ XATTR_MAX_ITEMS := by omega
      rw [Checked.load_bind _ _ _ _ (by decide), Routine.modify_bind]
      have walked := parseEntries_covers { now with overflowBlock := block.get Header.overflowBlock }
        block entries Header.SIZE (Nat.le_refl base) room start
      rcases walked with ⟨stop, after, ran, filled⟩ | ⟨reason, after, ran, low, high, kept⟩
      · rw [Routine.bind_ok _ _ _ _ _ ran]
        split
        · rw [reject_run, sum]
          exact ⟨by simp, Nat.le_add_right _ _, by show base + entries ≤ _; omega, filled⟩
        · rw [Routine.modify_run]
          exact ⟨by simp, Nat.le_add_right _ _, by show base + entries ≤ _; omega, filled⟩
      · rw [Routine.bind_error _ _ _ _ _ ran]
        exact ⟨by simp, low, by show after.count ≤ _; omega, kept⟩

end Safety

end Xattr

end Cryexts
