import Cryexts.Lib.ByteBuf
import Cryexts.Lib.Routine

set_option autoImplicit false

namespace ByteBuf

variable {size : Nat}

/-- `len` bytes from an offset on. -/
def slice (buf : ByteBuf size) (offset len : Nat) : List UInt8 :=
  (List.range len).map fun index => buf.byte (offset + index)

/-- Bytes copied to an offset, as far as the buffer goes. -/
def put (buf : ByteBuf size) (offset : Nat) (bytes : List UInt8) : ByteBuf size :=
  ofBytes size fun index =>
    if offset ≤ index ∧ index < offset + bytes.length then bytes.getD (index - offset) 0
    else buf.byte index

@[simp] theorem slice_length (buf : ByteBuf size) (offset len : Nat) :
    (buf.slice offset len).length = len := by
  simp [slice]

theorem slice_congr (first second : ByteBuf size) (offset len : Nat)
    (same : ∀ index, offset ≤ index → index < offset + len →
      first.byte index = second.byte index) : first.slice offset len = second.slice offset len := by
  apply List.map_congr_left
  intro index member
  have inside := List.mem_range.mp member
  exact same _ (by omega) (by omega)

theorem byte_put_outside (buf : ByteBuf size) (offset : Nat) (bytes : List UInt8) (index : Nat)
    (outside : index < offset ∨ offset + bytes.length ≤ index) :
    (buf.put offset bytes).byte index = buf.byte index := by
  by_cases inside : index < size
  · have absent : ¬ (offset ≤ index ∧ index < offset + bytes.length) := by omega
    rw [put, byte_ofBytes _ _ inside, if_neg absent]
  · simp only [byte, inside, ↓reduceDIte]

theorem slice_put_same (buf : ByteBuf size) (offset : Nat) (bytes : List UInt8)
    (fits : offset + bytes.length ≤ size) :
    (buf.put offset bytes).slice offset bytes.length = bytes := by
  apply List.ext_getElem
  · simp
  · intro index low high
    have here : offset ≤ offset + index ∧ offset + index < offset + bytes.length := by omega
    simp only [slice, List.getElem_map, List.getElem_range]
    rw [put, byte_ofBytes _ _ (by omega), if_pos here, Nat.add_sub_cancel_left]
    simp [high]

theorem slice_put_apart (buf : ByteBuf size) (offset start len : Nat) (bytes : List UInt8)
    (apart : start + len ≤ offset ∨ offset + bytes.length ≤ start) :
    (buf.put offset bytes).slice start len = buf.slice start len := by
  apply slice_congr
  intro index low high
  exact byte_put_outside _ _ _ _ (by omega)

theorem get_put_apart (buf : ByteBuf size) (offset : Nat) (bytes : List UInt8) (field : Field)
    (apart : field.stop ≤ offset ∨ offset + bytes.length ≤ field.offset) :
    (buf.put offset bytes).get field = buf.get field := by
  apply get_congr
  intro index covered
  simp only [Field.Covers, Field.stop] at *
  exact byte_put_outside _ _ _ _ (by omega)

end ByteBuf

/-- How a routine over raw memory ends early: it leaves a buffer or an array it was given, or
it answers with an error of its own. -/
inductive Stop (ε : Type)
  | fault
  | error (reason : ε)
  deriving DecidableEq

namespace Checked

open ByteBuf (Field)

variable {size : Nat} {σ ε : Type}

/-- A member read through a pointer into the buffer. -/
def load (buf : ByteBuf size) (field : Field) : Routine σ (Stop ε) Nat :=
  if field.stop ≤ size then pure (buf.get field) else Routine.fail .fault

/-- Bytes copied out of the buffer. -/
def copy (buf : ByteBuf size) (offset len : Nat) : Routine σ (Stop ε) (List UInt8) :=
  if offset + len ≤ size then pure (buf.slice offset len) else Routine.fail .fault

/-- An update of one slot of an array of `limit` slots. -/
def store (limit slot : Nat) (update : σ → σ) : Routine σ (Stop ε) Unit :=
  if slot < limit then Routine.modify update else Routine.fail .fault

theorem load_bind {β : Type} (buf : ByteBuf size) (field : Field)
    (next : Nat → Routine σ (Stop ε) β) (state : σ) (inside : field.stop ≤ size) :
    (load buf field >>= next) state = next (buf.get field) state := by
  rw [load, if_pos inside, Routine.pure_bind]

theorem load_stray {β : Type} (buf : ByteBuf size) (field : Field)
    (next : Nat → Routine σ (Stop ε) β) (state : σ) (outside : ¬ field.stop ≤ size) :
    (load buf field >>= next) state = (.error .fault, state) := by
  rw [load, if_neg outside, Routine.fail_bind]

theorem copy_bind {β : Type} (buf : ByteBuf size) (offset len : Nat)
    (next : List UInt8 → Routine σ (Stop ε) β) (state : σ) (inside : offset + len ≤ size) :
    (copy buf offset len >>= next) state = next (buf.slice offset len) state := by
  rw [copy, if_pos inside, Routine.pure_bind]

theorem store_bind {β : Type} (limit slot : Nat) (update : σ → σ)
    (next : Unit → Routine σ (Stop ε) β) (state : σ) (inside : slot < limit) :
    (store limit slot update >>= next) state = next () (update state) := by
  rw [store, if_pos inside, Routine.modify_bind]

end Checked
