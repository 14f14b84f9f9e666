import Mathlib.Data.Nat.Bitwise
import Mathlib.Tactic.Ring

set_option autoImplicit false

namespace ByteBuf

/-- The little-endian number in `width` bytes from `offset` on. -/
def readLE (bytes : Nat → UInt8) (offset : Nat) : Nat → Nat
  | 0 => 0
  | width + 1 => (bytes offset).toNat + 256 * readLE bytes (offset + 1) width

/-- `value` stored in `width` bytes from `offset` on, truncated as a C store truncates. -/
def writeLE (bytes : Nat → UInt8) (offset width value : Nat) : Nat → UInt8 :=
  fun index =>
    if offset ≤ index ∧ index < offset + width then
      UInt8.ofNat (value / 256 ^ (index - offset))
    else bytes index

theorem writeLE_outside (bytes : Nat → UInt8) (offset width value index : Nat)
    (outside : index < offset ∨ offset + width ≤ index) :
    writeLE bytes offset width value index = bytes index := by
  have absent : ¬ (offset ≤ index ∧ index < offset + width) := by omega
  simp only [writeLE, absent, ↓reduceIte]

theorem readLE_congr (first second : Nat → UInt8) (offset width : Nat)
    (same : ∀ index, offset ≤ index → index < offset + width → first index = second index) :
    readLE first offset width = readLE second offset width := by
  induction width generalizing offset with
  | zero => rfl
  | succ width ih =>
      have head : first offset = second offset := same offset (by omega) (by omega)
      have tail := ih (offset + 1) (fun index lower upper => same index (by omega) (by omega))
      simp only [readLE, head, tail]

theorem readLE_lt (bytes : Nat → UInt8) (offset width : Nat) :
    readLE bytes offset width < 256 ^ width := by
  induction width generalizing offset with
  | zero => simp [readLE]
  | succ width ih =>
      have byte := (bytes offset).toNat_lt
      have rest := ih (offset + 1)
      rw [readLE, pow_succ]
      omega

private theorem readLE_digits (bytes : Nat → UInt8) (value offset width : Nat)
    (digits : ∀ index, index < width →
      bytes (offset + index) = UInt8.ofNat (value / 256 ^ index)) :
    readLE bytes offset width = value % 256 ^ width := by
  induction width generalizing offset value with
  | zero => simp [readLE, Nat.mod_one]
  | succ width ih =>
      have head := digits 0 (by omega)
      have tail := ih (value / 256) (offset + 1) (by
        intro index inside
        have digit := digits (index + 1) (by omega)
        rw [show offset + 1 + index = offset + (index + 1) by omega, digit,
          Nat.div_div_eq_div_mul, pow_succ, Nat.mul_comm])
      rw [readLE, tail, show offset = offset + 0 by omega, head]
      have split := Nat.mod_mul (x := value) (a := 256) (b := 256 ^ width)
      rw [pow_succ, Nat.mul_comm (256 ^ width) 256, split]
      simp

theorem readLE_writeLE_same (bytes : Nat → UInt8) (offset width value : Nat) :
    readLE (writeLE bytes offset width value) offset width = value % 256 ^ width := by
  apply readLE_digits
  intro index inside
  have present : offset ≤ offset + index ∧ offset + index < offset + width := by omega
  simp only [writeLE, present, and_self, ↓reduceIte, Nat.add_sub_cancel_left]

end ByteBuf

/-- A buffer of exactly `size` bytes. -/
abbrev ByteBuf (size : Nat) : Type := Vector UInt8 size

namespace ByteBuf

variable {size : Nat}

def zero (size : Nat) : ByteBuf size := Vector.replicate size 0

/-- The byte at an offset; offsets past the end read as zero. -/
def byte (buf : ByteBuf size) (index : Nat) : UInt8 :=
  if inside : index < size then buf[index] else 0

/-- The first `size` bytes of a byte function, as `memcpy` takes them. -/
def ofBytes (size : Nat) (bytes : Nat → UInt8) : ByteBuf size :=
  Vector.ofFn fun index : Fin size => bytes index

theorem ext {first second : ByteBuf size}
    (same : ∀ index, index < size → byte first index = byte second index) :
    first = second := by
  apply Vector.ext
  intro index inside
  have here := same index inside
  simpa only [byte, inside, ↓reduceDIte] using here

theorem byte_ofBytes (bytes : Nat → UInt8) (index : Nat) (inside : index < size) :
    byte (ofBytes size bytes) index = bytes index := by
  simp only [byte, inside, ↓reduceDIte, ofBytes, Vector.getElem_ofFn]

@[simp] theorem byte_zero (index : Nat) : byte (zero size) index = 0 := by
  simp [byte, zero]

/-- A fixed-width little-endian member of a C structure. -/
structure Field where
  offset : Nat
  width : Nat
  deriving DecidableEq, Repr

namespace Field

def stop (field : Field) : Nat := field.offset + field.width

def Apart (first second : Field) : Prop :=
  first.stop ≤ second.offset ∨ second.stop ≤ first.offset

instance (first second : Field) : Decidable (first.Apart second) :=
  inferInstanceAs (Decidable (_ ∨ _))

def Covers (field : Field) (index : Nat) : Prop :=
  field.offset ≤ index ∧ index < field.stop

instance (field : Field) (index : Nat) : Decidable (field.Covers index) :=
  inferInstanceAs (Decidable (_ ∧ _))

end Field

def get (buf : ByteBuf size) (field : Field) : Nat :=
  readLE buf.byte field.offset field.width

def set (buf : ByteBuf size) (field : Field) (value : Nat) : ByteBuf size :=
  ofBytes size (writeLE buf.byte field.offset field.width value)

theorem get_lt (buf : ByteBuf size) (field : Field) : buf.get field < 256 ^ field.width :=
  readLE_lt buf.byte field.offset field.width

theorem byte_set (buf : ByteBuf size) (field : Field) (value index : Nat)
    (outside : ¬ field.Covers index) : (buf.set field value).byte index = buf.byte index := by
  by_cases inside : index < size
  · rw [set, byte_ofBytes _ _ inside]
    apply writeLE_outside
    simp only [Field.Covers, Field.stop] at outside
    omega
  · simp only [byte, inside, ↓reduceDIte]

theorem byte_set_covered (buf : ByteBuf size) (field : Field) (value index : Nat)
    (covers : field.Covers index) (inside : index < size) :
    (buf.set field value).byte index = UInt8.ofNat (value / 256 ^ (index - field.offset)) := by
  rw [set, byte_ofBytes _ _ inside]
  exact if_pos covers

/-- Storing a value twice is storing it once. -/
theorem set_set (buf : ByteBuf size) (field : Field) (value : Nat) :
    (buf.set field value).set field value = buf.set field value := by
  apply ext
  intro index inside
  by_cases covers : field.Covers index
  · rw [byte_set_covered _ _ _ _ covers inside, byte_set_covered _ _ _ _ covers inside]
  · rw [byte_set _ _ _ _ covers]

theorem set_comm (buf : ByteBuf size) (field other : Field) (value second : Nat)
    (apart : field.Apart other) :
    (buf.set field value).set other second = (buf.set other second).set field value := by
  apply ext
  intro index inside
  simp only [Field.Apart, Field.stop] at apart
  by_cases here : field.Covers index
  · have away : ¬ other.Covers index := by
      simp only [Field.Covers, Field.stop] at here ⊢
      omega
    rw [byte_set _ _ _ _ away, byte_set_covered _ _ _ _ here inside,
      byte_set_covered _ _ _ _ here inside]
  · rw [byte_set (buf.set other second) _ _ _ here]
    by_cases there : other.Covers index
    · rw [byte_set_covered _ _ _ _ there inside, byte_set_covered _ _ _ _ there inside]
    · rw [byte_set _ _ _ _ there, byte_set _ _ _ _ there, byte_set _ _ _ _ here]

theorem get_set_same (buf : ByteBuf size) (field : Field) (value : Nat)
    (fits : field.stop ≤ size) :
    (buf.set field value).get field = value % 256 ^ field.width := by
  rw [get, ← readLE_writeLE_same buf.byte field.offset field.width value]
  apply readLE_congr
  intro index _ upper
  simp only [Field.stop] at fits
  exact byte_ofBytes _ _ (by omega)

theorem get_set_apart (buf : ByteBuf size) (field other : Field) (value : Nat)
    (apart : field.Apart other) : (buf.set other value).get field = buf.get field := by
  apply readLE_congr
  intro index lower upper
  apply byte_set
  simp only [Field.Apart, Field.Covers, Field.stop] at *
  omega

theorem get_congr (first second : ByteBuf size) (field : Field)
    (same : ∀ index, field.Covers index → first.byte index = second.byte index) :
    first.get field = second.get field := by
  apply readLE_congr
  intro index lower upper
  exact same index ⟨lower, upper⟩

private theorem readLE_const_zero (offset width : Nat) :
    readLE (fun _ => 0) offset width = 0 := by
  induction width generalizing offset with
  | zero => rfl
  | succ width ih => simp [readLE, ih]

@[simp] theorem get_zero (field : Field) : (zero size).get field = 0 := by
  rw [get, ← readLE_const_zero field.offset field.width]
  apply readLE_congr
  intro index _ _
  exact byte_zero index

/-- The assignments of a member list, in order. -/
def setAll (buf : ByteBuf size) (members : List (Field × Nat)) : ByteBuf size :=
  members.foldl (fun current member => current.set member.1 member.2) buf

@[simp] theorem setAll_nil (buf : ByteBuf size) : buf.setAll [] = buf := rfl

@[simp] theorem setAll_cons (buf : ByteBuf size) (member : Field × Nat)
    (rest : List (Field × Nat)) :
    buf.setAll (member :: rest) = (buf.set member.1 member.2).setAll rest := rfl

theorem setAll_append (buf : ByteBuf size) (first second : List (Field × Nat)) :
    buf.setAll (first ++ second) = (buf.setAll first).setAll second := by
  simp only [setAll, List.foldl_append]

theorem byte_setAll (buf : ByteBuf size) (members : List (Field × Nat)) (index : Nat)
    (outside : ∀ member, member ∈ members → ¬ member.1.Covers index) :
    (buf.setAll members).byte index = buf.byte index := by
  induction members generalizing buf with
  | nil => rfl
  | cons member rest ih =>
      rw [setAll_cons, ih _ (fun later inside => outside later (List.mem_cons_of_mem _ inside))]
      exact byte_set _ _ _ _ (outside member List.mem_cons_self)

theorem get_setAll_apart (buf : ByteBuf size) (members : List (Field × Nat)) (field : Field)
    (apart : ∀ member, member ∈ members → field.Apart member.1) :
    (buf.setAll members).get field = buf.get field := by
  apply get_congr
  intro index covered
  apply byte_setAll
  intro member inside
  have gap := apart member inside
  simp only [Field.Apart, Field.Covers, Field.stop] at *
  omega

/-- Members of a structure do not overlap, so each reads back its own value. -/
theorem get_setAll_member (buf : ByteBuf size) (members : List (Field × Nat)) (field : Field)
    (value : Nat) (separate : members.Pairwise (fun first second => first.1.Apart second.1))
    (inside : (field, value) ∈ members) (fits : field.stop ≤ size) :
    (buf.setAll members).get field = value % 256 ^ field.width := by
  induction members generalizing buf with
  | nil => simp at inside
  | cons member rest ih =>
      rw [List.pairwise_cons] at separate
      rw [setAll_cons]
      rcases List.mem_cons.mp inside with here | later
      · subst here
        rw [get_setAll_apart _ _ _ separate.1, get_set_same _ _ _ fits]
      · exact ih _ separate.2 later

/-- Two buffers that agree on every byte outside the listed members. -/
def EqOutside (fields : List Field) (first second : ByteBuf size) : Prop :=
  ∀ index, (∀ field, field ∈ fields → ¬ field.Covers index) →
    first.byte index = second.byte index

namespace EqOutside

theorem refl (fields : List Field) (buf : ByteBuf size) : EqOutside fields buf buf :=
  fun _ _ => rfl

theorem symm {fields : List Field} {first second : ByteBuf size}
    (same : EqOutside fields first second) : EqOutside fields second first :=
  fun index outside => (same index outside).symm

theorem trans {fields : List Field} {first second third : ByteBuf size}
    (left : EqOutside fields first second) (right : EqOutside fields second third) :
    EqOutside fields first third :=
  fun index outside => (left index outside).trans (right index outside)

theorem set {fields : List Field} {first second : ByteBuf size}
    (same : EqOutside fields first second) (field : Field) (value : Nat)
    (member : field ∈ fields) : EqOutside fields (first.set field value) second := by
  intro index outside
  rw [byte_set _ _ _ _ (outside field member)]
  exact same index outside

theorem get {fields : List Field} {first second : ByteBuf size}
    (same : EqOutside fields first second) (field : Field)
    (apart : ∀ other, other ∈ fields → field.Apart other) :
    first.get field = second.get field := by
  apply get_congr
  intro index covered
  apply same
  intro other member
  have gap := apart other member
  simp only [Field.Apart, Field.Covers, Field.stop] at *
  omega

end EqOutside

end ByteBuf
