import Cryexts.Xattr.Codec
import Mathlib.Data.List.TakeWhile

set_option autoImplicit false

namespace Cryexts

namespace Xattr

open ByteBuf (Field)

/-- An attribute that an item can hold: a C string of the allowed length for a name, and a value
whose length goes into 16 bits. -/
structure Attribute where
  name : List UInt8
  value : List UInt8
  named : name ≠ []
  ended : 0 ∉ name
  short : name.length ≤ XATTR_MAX_NAME_LEN
  narrow : value.length < 2 ^ 16

namespace Attribute

def item (a : Attribute) : XattrItem :=
  ⟨a.name, a.value.length, if a.value = [] then none else some a.value⟩

def size (a : Attribute) : Nat := Entry.SIZE + a.name.length + a.value.length

@[simp] theorem item_name (a : Attribute) : a.item.name = a.name := rfl

@[simp] theorem item_valueLen (a : Attribute) : a.item.valueLen = a.value.length := rfl

@[simp] theorem item_nameLen (a : Attribute) : a.item.nameLen = a.name.length := by
  have whole : a.name.takeWhile (· != 0) = a.name := by
    apply List.takeWhile_eq_self_iff.mpr
    intro byte member
    have apart : byte ≠ 0 := fun zero => a.ended (zero ▸ member)
    simpa using apart
  rw [XattrItem.nameLen, item_name, whole]

@[simp] theorem item_size (a : Attribute) : a.item.size = a.size := by
  simp [XattrItem.size, size]

end Attribute

/-- The array of items that holds a list of attributes. -/
def itemsOf (attributes : List Attribute) (slot : Nat) : XattrItem :=
  attributes[slot]?.elim .empty Attribute.item

/-- The entry at an offset is the one of an attribute. -/
structure EntryHeld (buf : Block) (offset : Nat) (a : Attribute) : Prop where
  nameLen : buf.get (Entry.nameLen offset) = a.name.length
  namespaceId : buf.get (Entry.namespaceId offset) = XATTR_NAMESPACE_USER
  valueLen : buf.get (Entry.valueLen offset) = a.value.length
  name : buf.slice (offset + Entry.SIZE) a.name.length = a.name
  value : buf.slice (offset + Entry.SIZE + a.name.length) a.value.length = a.value

/-- The entries from an offset up to `stop` are those of a list of attributes. -/
def EntriesHeld (buf : Block) : (offset : Nat) → List Attribute → (stop : Nat) → Prop
  | offset, [], stop => offset = stop
  | offset, a :: rest, stop =>
      EntryHeld buf offset a ∧ offset + a.size ≤ BLOCK_SIZE ∧
        EntriesHeld buf (offset + a.size) rest stop

/-- A block that holds a list of attributes and an overflow pointer. -/
structure BlockHeld (buf : Block) (overflowBlock : Nat) (attributes : List Attribute) : Prop where
  magic : buf.get Header.magic = XATTR_MAGIC
  entries : buf.get Header.entries = attributes.length
  overflow : buf.get Header.overflowBlock = overflowBlock
  used : buf.get Header.usedBytes ≤ BLOCK_SIZE - Header.SIZE
  held : EntriesHeld buf Header.SIZE attributes (Header.SIZE + buf.get Header.usedBytes)

theorem EntryHeld.congr {buf after : Block} {offset : Nat} {a : Attribute}
    (held : EntryHeld buf offset a)
    (same : ∀ index, offset ≤ index → index < offset + a.size →
      after.byte index = buf.byte index) : EntryHeld after offset a := by
  simp only [Attribute.size, Entry.SIZE] at same
  constructor
  · rw [← held.nameLen]
    apply ByteBuf.get_congr
    intro index covered
    simp only [Entry.nameLen, Field.Covers, Field.stop] at covered
    exact same index (by omega) (by omega)
  · rw [← held.namespaceId]
    apply ByteBuf.get_congr
    intro index covered
    simp only [Entry.namespaceId, Field.Covers, Field.stop] at covered
    exact same index (by omega) (by omega)
  · rw [← held.valueLen]
    apply ByteBuf.get_congr
    intro index covered
    simp only [Entry.valueLen, Field.Covers, Field.stop] at covered
    exact same index (by omega) (by omega)
  · refine Eq.trans ?_ held.name
    apply ByteBuf.slice_congr
    simp only [Entry.SIZE]
    intro index low high
    exact same index (by omega) (by omega)
  · refine Eq.trans ?_ held.value
    apply ByteBuf.slice_congr
    simp only [Entry.SIZE]
    intro index low high
    exact same index (by omega) (by omega)

theorem EntriesHeld.congr {buf after : Block} {offset stop : Nat} {attributes : List Attribute}
    (held : EntriesHeld buf offset attributes stop)
    (same : ∀ index, offset ≤ index → after.byte index = buf.byte index) :
    EntriesHeld after offset attributes stop := by
  induction attributes generalizing offset with
  | nil => exact held
  | cons a rest ih =>
      obtain ⟨here, fits, later⟩ := held
      have kept : EntryHeld after offset a := here.congr fun index low _ => same index low
      exact ⟨kept, fits, ih later fun index low => same index (by omega)⟩

theorem EntriesHeld.stop_le {buf : Block} {offset stop : Nat} {attributes : List Attribute}
    (held : EntriesHeld buf offset attributes stop) (start : offset ≤ BLOCK_SIZE) :
    offset ≤ stop ∧ stop ≤ BLOCK_SIZE := by
  induction attributes generalizing offset with
  | nil =>
      rw [← show offset = stop from held]
      exact ⟨Nat.le_refl _, start⟩
  | cons a rest ih =>
      have bounds := ih held.2.2 held.2.1
      omega

section Packing

theorem packEntry_outside (a : Attribute) (offset : Nat) (buf : Block) (index : Nat)
    (outside : index < offset ∨ offset + a.size ≤ index) :
    (packEntry a.item offset buf).byte index = buf.byte index := by
  simp only [Attribute.size, Entry.SIZE] at outside
  have header : ∀ member ∈ [(Entry.nameLen offset, a.item.nameLen),
      (Entry.namespaceId offset, XATTR_NAMESPACE_USER), (Entry.valueLen offset, a.item.valueLen)],
      ¬ member.1.Covers index := by
    simp only [List.mem_cons, List.not_mem_nil, or_false, forall_eq_or_imp, forall_eq,
      Entry.nameLen, Entry.namespaceId, Entry.valueLen, Field.Covers, Field.stop]
    omega
  rw [packEntry]
  simp only [Attribute.item_nameLen, Attribute.item_valueLen, Attribute.item_name]
  simp only [Attribute.item_nameLen, Attribute.item_valueLen] at header
  split
  · rw [ByteBuf.byte_put_outside _ _ _ _ (by simp [Entry.SIZE]; omega),
      ByteBuf.byte_setAll _ _ _ header]
  · rw [ByteBuf.byte_put_outside _ _ _ _ (by simp [Entry.SIZE]; omega),
      ByteBuf.byte_put_outside _ _ _ _ (by simp [Entry.SIZE]; omega),
      ByteBuf.byte_setAll _ _ _ header]

/-- The value of an item, as `memcpy` reads it. -/
theorem Attribute.item_value (a : Attribute) :
    (a.item.value.getD []).take a.value.length = a.value := by
  by_cases bare : a.value = []
  · simp [Attribute.item, bare]
  · simp [Attribute.item, bare]

/-- The header of an entry just stored, with the name and the value put behind it. -/
theorem packEntry_member (a : Attribute) (offset : Nat) (buf : Block) (field : Field)
    (value : Nat) (fits : offset + a.size ≤ BLOCK_SIZE)
    (member : (field, value) ∈ [(Entry.nameLen offset, a.name.length),
      (Entry.namespaceId offset, XATTR_NAMESPACE_USER), (Entry.valueLen offset, a.value.length)]) :
    (packEntry a.item offset buf).get field = value % 256 ^ field.width := by
  simp only [Attribute.size, Entry.SIZE] at fits
  have stop : field.stop ≤ offset + Entry.SIZE := by
    simp only [List.mem_cons, Prod.mk.injEq, List.not_mem_nil, or_false] at member
    rcases member with ⟨rfl, _⟩ | ⟨rfl, _⟩ | ⟨rfl, _⟩
    · simp [Entry.nameLen, Entry.SIZE, Field.stop]
    · simp [Entry.namespaceId, Entry.SIZE, Field.stop]
    · simp [Entry.valueLen, Entry.SIZE, Field.stop]
  have separate : [(Entry.nameLen offset, a.name.length),
      (Entry.namespaceId offset, XATTR_NAMESPACE_USER),
      (Entry.valueLen offset, a.value.length)].Pairwise
        (fun first second => first.1.Apart second.1) := by
    simp [Entry.nameLen, Entry.namespaceId, Entry.valueLen, Field.Apart, Field.stop]
  have whole : field.stop ≤ BLOCK_SIZE := by
    simp only [Entry.SIZE] at stop
    omega
  have stored := ByteBuf.get_setAll_member buf _ field value separate member whole
  rw [packEntry]
  simp only [Attribute.item_nameLen, Attribute.item_valueLen, Attribute.item_name]
  split
  · rw [ByteBuf.get_put_apart _ _ _ _ (Or.inl stop), stored]
  · rw [ByteBuf.get_put_apart _ _ _ _ (Or.inl (Nat.le_add_right_of_le stop)),
      ByteBuf.get_put_apart _ _ _ _ (Or.inl stop), stored]

theorem packEntry_held (a : Attribute) (offset : Nat) (buf : Block)
    (fits : offset + a.size ≤ BLOCK_SIZE) : EntryHeld (packEntry a.item offset buf) offset a := by
  have member := fun field value => packEntry_member a offset buf field value fits
  have short : a.name.length < 256 := Nat.lt_of_le_of_lt a.short (by decide)
  simp only [Attribute.size] at fits
  constructor
  · rw [member (Entry.nameLen offset) a.name.length (by simp)]
    exact Nat.mod_eq_of_lt short
  · exact member (Entry.namespaceId offset) XATTR_NAMESPACE_USER (by simp)
  · rw [member (Entry.valueLen offset) a.value.length (by simp)]
    exact Nat.mod_eq_of_lt a.narrow
  · rw [packEntry]
    simp only [Attribute.item_nameLen, Attribute.item_valueLen, Attribute.item_name,
      List.take_length]
    split
    · exact ByteBuf.slice_put_same _ _ _ (by omega)
    · rw [ByteBuf.slice_put_apart _ _ _ _ _ (Or.inl (Nat.le_refl _))]
      exact ByteBuf.slice_put_same _ _ _ (by omega)
  · rw [packEntry]
    simp only [Attribute.item_nameLen, Attribute.item_valueLen, Attribute.item_name,
      List.take_length, Attribute.item_value]
    split
    · rename_i bare
      rw [List.length_eq_zero_iff.mp bare]
      simp [ByteBuf.slice]
    · exact ByteBuf.slice_put_same _ _ _ (by omega)

/-- The loop of the packing: it stores the attributes one behind the other, and nothing before
the first. -/
theorem packEntries_held (items : Nat → XattrItem) (attributes : List Attribute)
    (slot offset stop : Nat) (buf after : Block)
    (named : ∀ index (inside : index < attributes.length),
      items (slot + index) = attributes[index].item)
    (packed : packEntries items attributes.length slot offset buf = .ok (stop, after)) :
    EntriesHeld after offset attributes stop ∧
      ∀ index, index < offset → after.byte index = buf.byte index := by
  induction attributes generalizing slot offset buf with
  | nil =>
      cases packed
      exact ⟨rfl, fun _ _ => rfl⟩
  | cons a rest ih =>
      have first : items slot = a.item := named 0 (Nat.succ_pos _)
      rw [List.length_cons, packEntries, first, Attribute.item_size] at packed
      split at packed
      · contradiction
      · rename_i fits
        have later := ih (slot + 1) (offset + a.size) _ (by
          intro index inside
          rw [Nat.add_right_comm, Nat.add_assoc]
          exact named (index + 1) (Nat.succ_lt_succ inside)) packed
        have held := packEntry_held a offset buf (Nat.le_of_not_lt fits)
        refine ⟨⟨held.congr fun index _ high => later.2 index high, Nat.le_of_not_lt fits,
          later.1⟩, ?_⟩
        intro index low
        rw [later.2 index (by omega), packEntry_outside a offset buf index (Or.inl low)]

/-- The packing refuses nothing that fits. -/
theorem packEntries_fits (items : Nat → XattrItem) (attributes : List Attribute)
    (slot offset : Nat) (buf : Block)
    (named : ∀ index (inside : index < attributes.length),
      items (slot + index) = attributes[index].item)
    (fits : offset + (attributes.map Attribute.size).sum ≤ BLOCK_SIZE) :
    ∃ stop after, packEntries items attributes.length slot offset buf = .ok (stop, after) := by
  induction attributes generalizing slot offset buf with
  | nil => exact ⟨offset, buf, rfl⟩
  | cons a rest ih =>
      have first : items slot = a.item := named 0 (Nat.succ_pos _)
      simp only [List.map_cons, List.sum_cons] at fits
      rw [List.length_cons, packEntries, first, Attribute.item_size, if_neg (by omega)]
      apply ih
      · intro index inside
        rw [Nat.add_right_comm, Nat.add_assoc]
        exact named (index + 1) (Nat.succ_lt_succ inside)
      · omega

theorem packXattrBlock_fits (items : Nat → XattrItem) (attributes : List Attribute)
    (start overflowBlock : Nat)
    (named : ∀ index (inside : index < attributes.length),
      items (start + index) = attributes[index].item)
    (fits : Header.SIZE + (attributes.map Attribute.size).sum ≤ BLOCK_SIZE) :
    ∃ buf, packXattrBlock items start attributes.length overflowBlock = .ok buf := by
  obtain ⟨stop, after, ran⟩ := packEntries_fits items attributes start Header.SIZE
    ((ByteBuf.zero BLOCK_SIZE).setAll [(Header.magic, XATTR_MAGIC),
      (Header.entries, attributes.length), (Header.overflowBlock, overflowBlock)]) named fits
  rw [packXattrBlock, ran]
  exact ⟨_, rfl⟩

theorem packXattrBlock_held (items : Nat → XattrItem) (attributes : List Attribute)
    (start overflowBlock : Nat) (buf : Block) (few : attributes.length < 2 ^ 16)
    (wide : overflowBlock < 2 ^ 64)
    (named : ∀ index (inside : index < attributes.length),
      items (start + index) = attributes[index].item)
    (packed : packXattrBlock items start attributes.length overflowBlock = .ok buf) :
    BlockHeld buf overflowBlock attributes := by
  rw [packXattrBlock] at packed
  split at packed
  · rename_i offset filled ran
    rw [← Except.ok.inj packed]
    have loop := packEntries_held items attributes start Header.SIZE offset _ filled named ran
    have bounds := loop.1.stop_le (by decide)
    have used : (filled.set Header.usedBytes (offset - Header.SIZE)).get Header.usedBytes =
        offset - Header.SIZE := by
      rw [ByteBuf.get_set_same _ _ _ (by decide)]
      apply Nat.mod_eq_of_lt
      have size : BLOCK_SIZE = 4096 := rfl
      simp only [Header.usedBytes]
      omega
    have member : ∀ field value, (field, value) ∈ [(Header.magic, XATTR_MAGIC),
        (Header.entries, attributes.length), (Header.overflowBlock, overflowBlock)] →
        field.stop ≤ Header.SIZE → field.Apart Header.usedBytes →
        (filled.set Header.usedBytes (offset - Header.SIZE)).get field =
          value % 256 ^ field.width := by
      intro field value listed low apart
      have whole : field.stop ≤ BLOCK_SIZE := Nat.le_trans low (by decide)
      rw [ByteBuf.get_set_apart _ _ _ _ apart,
        ← ByteBuf.get_setAll_member (ByteBuf.zero BLOCK_SIZE) _ field value _ listed whole]
      · apply ByteBuf.get_congr
        intro index covered
        exact loop.2 index (Nat.lt_of_lt_of_le covered.2 low)
      · simp [Header.magic, Header.entries, Header.overflowBlock, Field.Apart, Field.stop]
    constructor
    · rw [member Header.magic XATTR_MAGIC (by simp) (by decide) (by decide)]
      exact Nat.mod_eq_of_lt (by decide)
    · rw [member Header.entries attributes.length (by simp) (by decide) (by decide)]
      exact Nat.mod_eq_of_lt few
    · rw [member Header.overflowBlock overflowBlock (by simp) (by decide) (by decide)]
      exact Nat.mod_eq_of_lt wide
    · rw [used]
      omega
    · rw [used, Nat.add_sub_cancel' bounds.1]
      apply loop.1.congr
      intro index low
      apply ByteBuf.byte_set
      simp only [Header.usedBytes, Header.SIZE, Field.Covers, Field.stop] at *
      omega
  · contradiction

end Packing

section Parsing

theorem itemsOf_append (attributes : List Attribute) (a : Attribute) :
    WriteLog.store (itemsOf attributes) attributes.length a.item = itemsOf (attributes ++ [a]) := by
  funext slot
  by_cases here : slot = attributes.length
  · rw [here, WriteLog.store_same, itemsOf]
    simp
  · rw [WriteLog.store_other _ _ _ _ here, itemsOf, itemsOf]
    rcases Nat.lt_or_gt_of_ne here with below | above
    · rw [List.getElem?_append_left below]
    · rw [List.getElem?_eq_none (by omega), List.getElem?_eq_none (by simp; omega)]

/-- Some memory is left for every value of the block. -/
def Ample (faults : List Bool) : Prop := true ∉ faults

theorem Ample.head {faults : List Bool} (ample : Ample faults) :
    faults.head? ≠ some true ∧ Ample faults.tail := by
  cases faults with
  | nil => exact ⟨by simp, ample⟩
  | cons fault rest =>
      simp only [Ample, List.mem_cons, not_or] at ample
      exact ⟨by simpa using Ne.symm ample.1, ample.2⟩

theorem copyValue_held (block : Block) (slot offset : Nat) (a : Attribute) (now : XattrParse)
    (held : block.slice offset a.value.length = a.value)
    (fits : offset + a.value.length ≤ BLOCK_SIZE) (room : slot < XATTR_MAX_ITEMS)
    (named : now.items slot = ⟨a.name, a.value.length, none⟩) (ample : Ample now.faults) :
    ∃ faults, Ample faults ∧ copyValue block slot offset a.value.length now =
      (.ok (), { now with items := WriteLog.store now.items slot a.item, faults := faults }) := by
  rw [copyValue]
  by_cases empty : a.value = []
  · have item : a.item = now.items slot := by
      rw [named, Attribute.item, if_pos empty]
    rw [if_pos (by simp [empty]), item, WriteLog.store_eq_self _ _ _ rfl]
    exact ⟨now.faults, ample, rfl⟩
  · have item : a.item = { now.items slot with value := some a.value } := by
      rw [named, Attribute.item, if_neg empty]
    have calm := ample.head
    rw [if_neg (by simpa using empty), Checked.copy_bind _ _ _ _ _ fits, Routine.read_bind,
      Routine.modify_bind, if_neg calm.1, held, Checked.store, if_pos room, Routine.modify_run, item]
    exact ⟨now.faults.tail, calm.2, rfl⟩

/-- One entry: the parse puts the attribute behind those it has. -/
theorem parseEntry_held (block : Block) (offset : Nat) (first : List Attribute) (a : Attribute)
    (now : XattrParse) (held : EntryHeld block offset a) (fits : offset + a.size ≤ BLOCK_SIZE)
    (room : first.length < XATTR_MAX_ITEMS) (items : now.items = itemsOf first)
    (ample : Ample now.faults) :
    ∃ faults, Ample faults ∧ parseEntry block first.length offset now =
      (.ok a.size, { now with items := itemsOf (first ++ [a]), faults := faults }) := by
  have bounds : offset + 4 + a.name.length + a.value.length ≤ BLOCK_SIZE := by
    simp only [Attribute.size, Entry.SIZE] at fits
    omega
  have named : ¬ (a.name.length = 0 ∨ XATTR_MAX_NAME_LEN < a.name.length) := by
    have short := a.short
    have long := List.length_pos_iff.mpr a.named
    omega
  rw [parseEntry, if_neg (by simp only [Entry.SIZE]; omega),
    Checked.load_bind _ _ _ _ (by simp only [Entry.nameLen, Field.stop]; omega),
    Checked.load_bind _ _ _ _ (by simp only [Entry.valueLen, Field.stop]; omega), held.nameLen,
    held.valueLen, if_neg named,
    Checked.load_bind _ _ _ _ (by simp only [Entry.namespaceId, Field.stop]; omega),
    held.namespaceId, if_neg (by simp), if_neg (by simp only [Entry.SIZE]; omega),
    Checked.copy_bind _ _ _ _ _ (by simp only [Entry.SIZE]; omega),
    Checked.store_bind _ _ _ _ _ room, held.name]
  have bare : (now.items first.length).value = none := by
    rw [items, itemsOf]
    simp [XattrItem.empty]
  have copied := copyValue_held block first.length (offset + Entry.SIZE + a.name.length) a
    { now with items := WriteLog.store now.items first.length { now.items first.length with
        name := a.name, valueLen := a.value.length } } held.value
    (by simp only [Entry.SIZE]; omega) room (by
      show WriteLog.store now.items _ _ _ = _
      rw [WriteLog.store_same, bare]) ample
  obtain ⟨faults, left, ran⟩ := copied
  refine ⟨faults, left, ?_⟩
  rw [Routine.bind_ok _ _ _ _ _ ran, Routine.pure_run]
  simp only [WriteLog.store_store, items, itemsOf_append]
  rfl

/-- The loop of the parse, over entries that hold attributes. -/
theorem parseEntries_held (block : Block) (offset stop : Nat) (first rest : List Attribute)
    (now : XattrParse) (held : EntriesHeld block offset rest stop)
    (room : first.length + rest.length ≤ XATTR_MAX_ITEMS) (items : now.items = itemsOf first)
    (ample : Ample now.faults) :
    ∃ faults, Ample faults ∧ parseEntries block rest.length first.length offset now =
      (.ok stop, { now with items := itemsOf (first ++ rest), faults := faults }) := by
  induction rest generalizing offset first now with
  | nil =>
      have ends : offset = stop := held
      refine ⟨now.faults, ample, ?_⟩
      rw [List.length_nil, parseEntries, Routine.pure_run, ends, List.append_nil, ← items]
  | cons a rest ih =>
      obtain ⟨here, fits, later⟩ := held
      rw [List.length_cons] at room
      obtain ⟨faults, left, ran⟩ := parseEntry_held block offset first a now here fits
        (by omega) items ample
      rw [List.length_cons, parseEntries, Routine.bind_ok _ _ _ _ _ ran]
      have walked := ih (offset + a.size) (first ++ [a])
        { now with items := itemsOf (first ++ [a]), faults := faults } later
        (by rw [List.length_append, List.length_singleton]; omega) rfl left
      rw [List.length_append, List.length_singleton, List.append_assoc] at walked
      exact walked

/-- A block that holds attributes, parsed behind the ones already read. -/
theorem parseXattrBlock_held (block : Block) (overflowBlock : Nat) (first rest : List Attribute)
    (now : XattrParse) (held : BlockHeld block overflowBlock rest)
    (room : first.length + rest.length ≤ XATTR_MAX_ITEMS) (items : now.items = itemsOf first)
    (ample : Ample now.faults) :
    ∃ faults, Ample faults ∧ parseXattrBlock block first.length now =
      (.ok (), ⟨itemsOf (first ++ rest), first.length + rest.length, overflowBlock, faults⟩) := by
  have sum : u32 (first.length + rest.length) = first.length + rest.length := u32_of_le _ room
  have admitted : ¬ (XATTR_MAX_ITEMS < first.length + rest.length ∨
      BLOCK_SIZE - Header.SIZE < block.get Header.usedBytes) := by
    have used := held.used
    omega
  obtain ⟨faults, left, ran⟩ := parseEntries_held block Header.SIZE _ first rest
    { now with overflowBlock := overflowBlock } held.held room items ample
  refine ⟨faults, left, ?_⟩
  rw [parseXattrBlock, Checked.load_bind _ _ _ _ (by decide), held.magic, if_neg (by simp),
    Checked.load_bind _ _ _ _ (by decide), Checked.load_bind _ _ _ _ (by decide), held.entries, sum,
    if_neg admitted, Checked.load_bind _ _ _ _ (by decide), held.overflow, Routine.modify_bind,
    Routine.bind_ok _ _ _ _ _ ran, if_neg (by simp), Routine.modify_run]

end Parsing

/-- The items that a list of attributes splits into, packed into a root block with an overflow
pointer and an overflow block, and both parsed again. -/
theorem parse_pack (attributes : List Attribute) (few : attributes.length ≤ XATTR_MAX_ITEMS)
    (split : Nat) (within : split ≤ attributes.length) (overflowBlock : Nat)
    (wide : overflowBlock < 2 ^ 64) (root second : Block) (faults : List Bool) (ample : Ample faults)
    (packedRoot : packXattrBlock (itemsOf attributes) 0 split overflowBlock = .ok root)
    (packedSecond : packXattrBlock (itemsOf attributes) split (attributes.length - split) 0 =
      .ok second) :
    ∃ middle after, parseXattrBlock root 0 (XattrParse.start faults) = (.ok (), middle) ∧
      middle.overflowBlock = overflowBlock ∧
      parseXattrBlock second middle.count middle = (.ok (), after) ∧
      after.count = attributes.length ∧ after.items = itemsOf attributes := by
  have parts := List.take_append_drop split attributes
  have lengths : (attributes.take split).length = split ∧
      (attributes.drop split).length = attributes.length - split := by
    simp [within]
  have size : XATTR_MAX_ITEMS = 32 := rfl
  have heldRoot : BlockHeld root overflowBlock (attributes.take split) := by
    apply packXattrBlock_held (itemsOf attributes) _ 0 overflowBlock root (by omega) wide
    · intro index inside
      simp [itemsOf, List.getElem?_eq_getElem (show index < attributes.length by omega)]
    · rw [lengths.1]
      exact packedRoot
  have heldSecond : BlockHeld second 0 (attributes.drop split) := by
    apply packXattrBlock_held (itemsOf attributes) _ split 0 second (by omega) (by decide)
    · intro index inside
      simp [itemsOf, List.getElem?_eq_getElem (show split + index < attributes.length by omega)]
    · rw [lengths.2]
      exact packedSecond
  obtain ⟨left, enough, ran⟩ := parseXattrBlock_held root overflowBlock [] _
    (XattrParse.start faults) heldRoot (by simp; omega) rfl ample
  simp only [List.nil_append, List.length_nil, Nat.zero_add, lengths.1] at ran
  obtain ⟨_, _, went⟩ := parseXattrBlock_held second 0 (attributes.take split) _
    ⟨itemsOf (attributes.take split), split, overflowBlock, left⟩ heldSecond (by omega) rfl enough
  rw [parts, lengths.1, lengths.2, Nat.add_sub_cancel' within] at went
  exact ⟨_, _, ran, rfl, went, rfl, rfl⟩

/-- The codec of an attribute block: what two successful packs of a split list stored is read
back, and a parse of any bytes stays in its block and its array and counts what it has filled. -/
theorem xattr_codec :
    (∀ attributes : List Attribute, attributes.length ≤ XATTR_MAX_ITEMS →
      ∀ split ≤ attributes.length, ∀ overflowBlock < 2 ^ 64, ∀ (root second : Block)
        (faults : List Bool), Ample faults →
        packXattrBlock (itemsOf attributes) 0 split overflowBlock = .ok root →
        packXattrBlock (itemsOf attributes) split (attributes.length - split) 0 = .ok second →
        ∃ middle after, parseXattrBlock root 0 (XattrParse.start faults) = (.ok (), middle) ∧
          middle.overflowBlock = overflowBlock ∧
          parseXattrBlock second middle.count middle = (.ok (), after) ∧
          after.count = attributes.length ∧ after.items = itemsOf attributes) ∧
    ∀ (block : Block) (base : Nat) (now : XattrParse), base + 2 ^ 16 ≤ 2 ^ 32 → now.count = base →
      (∀ slot, base ≤ slot → (now.items slot).value = none) →
      Parsed base now (parseXattrBlock block base now).1 (parseXattrBlock block base now).2 := by
  constructor
  · intro attributes few split within overflowBlock wide root second faults ample
    exact parse_pack attributes few split within overflowBlock wide root second faults ample
  · exact parseXattrBlock_parsed

/-- `a` with the value `1`, and `b` with no value. -/
def twoAttributes : List Attribute :=
  [⟨[0x61], [0x31], by decide, by decide, by decide, by decide⟩,
    ⟨[0x62], [], by decide, by decide, by decide, by decide⟩]

/-- One attribute in each block. -/
theorem xattr_codec_two :
    ∃ root second middle after, packXattrBlock (itemsOf twoAttributes) 0 1 7 = .ok root ∧
      packXattrBlock (itemsOf twoAttributes) 1 1 0 = .ok second ∧
      parseXattrBlock root 0 (XattrParse.start []) = (.ok (), middle) ∧
      middle.overflowBlock = 7 ∧ parseXattrBlock second middle.count middle = (.ok (), after) ∧
      after.count = 2 ∧ after.items = itemsOf twoAttributes := by
  obtain ⟨root, first⟩ := packXattrBlock_fits (itemsOf twoAttributes) (twoAttributes.take 1) 0 7
    (by decide) (by decide)
  obtain ⟨second, rest⟩ := packXattrBlock_fits (itemsOf twoAttributes) (twoAttributes.drop 1) 1 0
    (by decide) (by decide)
  obtain ⟨middle, after, read⟩ := xattr_codec.1 twoAttributes (by decide) 1 (by decide) 7
    (by decide) root second [] (by simp [Ample]) first rest
  exact ⟨root, second, middle, after, first, rest, read⟩

end Xattr

end Cryexts
