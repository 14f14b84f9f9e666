import Cryexts.Lib.WriteLog
import Mathlib.Algebra.BigOperators.Group.Finset.Basic
import Mathlib.Data.Nat.Bitwise
import Mathlib.Tactic.IntervalCases

set_option autoImplicit false

open WriteLog (store store_same store_other)

namespace Bitmap

/-- The mask `1U << (bit % 8)` of one bit in its byte. -/
def mask (bit : Nat) : UInt8 := 1 <<< UInt8.ofNat (bit % 8)

def test (bitmap : Nat → UInt8) (bit : Nat) : Bool := bitmap (bit / 8) &&& mask bit != 0

def set (bitmap : Nat → UInt8) (bit : Nat) : Nat → UInt8 :=
  store bitmap (bit / 8) (bitmap (bit / 8) ||| mask bit)

def clear (bitmap : Nat → UInt8) (bit : Nat) : Nat → UInt8 :=
  store bitmap (bit / 8) (bitmap (bit / 8) &&& ~~~mask bit)

theorem mask_toNat (bit : Nat) : (mask bit).toNat = 2 ^ (bit % 8) := by
  have small : bit % 8 < 8 := Nat.mod_lt _ (by decide)
  unfold mask
  generalize bit % 8 = place at small
  interval_cases place <;> rfl

theorem test_eq_testBit (bitmap : Nat → UInt8) (bit : Nat) :
    test bitmap bit = (bitmap (bit / 8)).toNat.testBit (bit % 8) := by
  have value : (bitmap (bit / 8) &&& mask bit).toNat =
      ((bitmap (bit / 8)).toNat.testBit (bit % 8)).toNat * 2 ^ (bit % 8) := by
    rw [UInt8.toNat_and, mask_toNat, Nat.and_two_pow]
  cases found : (bitmap (bit / 8)).toNat.testBit (bit % 8) with
  | false =>
      rw [found] at value
      have zero : bitmap (bit / 8) &&& mask bit = 0 := by
        apply UInt8.toNat_inj.mp
        simpa using value
      simp [test, zero]
  | true =>
      rw [found] at value
      have power : 0 < 2 ^ (bit % 8) := Nat.two_pow_pos _
      have nonzero : bitmap (bit / 8) &&& mask bit ≠ 0 := by
        intro zero
        rw [zero] at value
        have absurd : 0 = 2 ^ (bit % 8) := by simpa using value
        omega
      simp [test, nonzero]

/-- Two bits of one byte are one bit only when their places agree. -/
theorem place_ne (bit other : Nat) (apart : other ≠ bit) (byte : other / 8 = bit / 8) :
    bit % 8 ≠ other % 8 := by
  omega

theorem test_set_same (bitmap : Nat → UInt8) (bit : Nat) : test (set bitmap bit) bit = true := by
  rw [test_eq_testBit, set, store_same, UInt8.toNat_or, mask_toNat, Nat.testBit_or,
    Nat.testBit_two_pow_self, Bool.or_true]

theorem test_set_other (bitmap : Nat → UInt8) (bit other : Nat) (apart : other ≠ bit) :
    test (set bitmap bit) other = test bitmap other := by
  rw [test_eq_testBit, test_eq_testBit, set]
  by_cases byte : other / 8 = bit / 8
  · rw [byte, store_same, UInt8.toNat_or, mask_toNat, Nat.testBit_or, Nat.testBit_two_pow,
      decide_eq_false (place_ne bit other apart byte), Bool.or_false]
  · rw [store_other _ _ _ _ byte]

theorem complement_testBit (byte : UInt8) (place : Nat) (small : place < 8) :
    (~~~byte).toNat.testBit place = !byte.toNat.testBit place := by
  have bound := byte.toNat_lt
  rw [UInt8.toNat_not, show UInt8.size - 1 - byte.toNat = 2 ^ 8 - (byte.toNat + 1) by
    have size : UInt8.size = 256 := rfl
    omega, Nat.testBit_two_pow_sub_succ (by omega)]
  simp [small]

theorem test_clear_same (bitmap : Nat → UInt8) (bit : Nat) :
    test (clear bitmap bit) bit = false := by
  have small : bit % 8 < 8 := Nat.mod_lt _ (by decide)
  rw [test_eq_testBit, clear, store_same, UInt8.toNat_and, Nat.testBit_and,
    complement_testBit _ _ small, mask_toNat, Nat.testBit_two_pow_self]
  simp

theorem test_clear_other (bitmap : Nat → UInt8) (bit other : Nat) (apart : other ≠ bit) :
    test (clear bitmap bit) other = test bitmap other := by
  have small : other % 8 < 8 := Nat.mod_lt _ (by decide)
  rw [test_eq_testBit, test_eq_testBit, clear]
  by_cases byte : other / 8 = bit / 8
  · rw [byte, store_same, UInt8.toNat_and, Nat.testBit_and, complement_testBit _ _ small,
      mask_toNat, Nat.testBit_two_pow, decide_eq_false (place_ne bit other apart byte)]
    simp
  · rw [store_other _ _ _ _ byte]

/-- A loop that sets `count` bits from `first` on. -/
def setRange (bitmap : Nat → UInt8) (first count : Nat) : Nat → UInt8 :=
  (List.range count).foldl (fun current index => set current (first + index)) bitmap

theorem test_setRange (bitmap : Nat → UInt8) (first count bit : Nat) :
    test (setRange bitmap first count) bit =
      (decide (first ≤ bit ∧ bit < first + count) || test bitmap bit) := by
  induction count with
  | zero =>
      have outside : ¬ (first ≤ bit ∧ bit < first + 0) := by omega
      rw [decide_eq_false outside, Bool.false_or]
      rfl
  | succ count ih =>
      have step : setRange bitmap first (count + 1) =
          set (setRange bitmap first count) (first + count) := by
        unfold setRange
        rw [List.range_succ, List.foldl_append, List.foldl_cons, List.foldl_nil]
      rw [step]
      by_cases last : bit = first + count
      · rw [last, test_set_same, decide_eq_true (by omega), Bool.true_or]
      · rw [test_set_other _ _ _ last, ih]
        by_cases inside : first ≤ bit ∧ bit < first + count
        · rw [decide_eq_true inside, decide_eq_true (by omega)]
        · rw [decide_eq_false inside, decide_eq_false (by omega)]

theorem test_zero (bit : Nat) : test (fun _ => 0) bit = false := by
  rw [test_eq_testBit]
  exact Nat.zero_testBit _

section Counting

/-- The zero bits of one area of a bitmap. -/
def zeros (bitmap : Nat → UInt8) (area : Finset Nat) : Finset Nat :=
  area.filter fun bit => test bitmap bit = false

theorem mem_zeros (bitmap : Nat → UInt8) (area : Finset Nat) (bit : Nat) :
    bit ∈ zeros bitmap area ↔ bit ∈ area ∧ test bitmap bit = false := by
  simp [zeros]

theorem zeros_set (bitmap : Nat → UInt8) (area : Finset Nat) (bit : Nat) (inside : bit ∈ area)
    (free : test bitmap bit = false) :
    (zeros (set bitmap bit) area).card + 1 = (zeros bitmap area).card := by
  have erased : zeros (set bitmap bit) area = (zeros bitmap area).erase bit := by
    ext other
    rw [Finset.mem_erase, mem_zeros, mem_zeros]
    by_cases here : other = bit
    · simp [here, test_set_same]
    · rw [test_set_other _ _ _ here]
      simp [here]
  rw [erased]
  exact Finset.card_erase_add_one ((mem_zeros bitmap area bit).mpr ⟨inside, free⟩)

theorem zeros_clear (bitmap : Nat → UInt8) (area : Finset Nat) (bit : Nat) (inside : bit ∈ area)
    (used : test bitmap bit = true) :
    (zeros (clear bitmap bit) area).card = (zeros bitmap area).card + 1 := by
  have inserted : zeros (clear bitmap bit) area = insert bit (zeros bitmap area) := by
    ext other
    rw [Finset.mem_insert, mem_zeros, mem_zeros]
    by_cases here : other = bit
    · simp [here, test_clear_same, inside]
    · rw [test_clear_other _ _ _ here]
      simp [here]
  have absent : bit ∉ zeros bitmap area := by
    rw [mem_zeros, used]
    simp
  rw [inserted, Finset.card_insert_of_notMem absent]

/-- Counting a predicate on numbers below `limit` group by group, `per` numbers to a group. -/
theorem card_by_group (per groups limit : Nat) (holds : Nat → Prop) [DecidablePred holds]
    (positive : 0 < per) (covers : limit ≤ groups * per) :
    ((Finset.range limit).filter holds).card =
      ∑ group ∈ Finset.range groups,
        ((Finset.range (min per (limit - group * per))).filter
          fun bit => holds (group * per + bit)).card := by
  have grouped : ∀ index ∈ (Finset.range limit).filter holds,
      index / per ∈ Finset.range groups := by
    intro index member
    have below : index < limit := Finset.mem_range.mp (Finset.mem_filter.mp member).1
    rw [Finset.mem_range]
    exact (Nat.div_lt_iff_lt_mul positive).mpr (by omega)
  rw [Finset.card_eq_sum_card_fiberwise grouped]
  apply Finset.sum_congr rfl
  intro group member
  symm
  apply Finset.card_bij fun bit _ => group * per + bit
  · intro bit inside
    simp only [Finset.mem_filter, Finset.mem_range] at inside ⊢
    have below : bit < per := by omega
    refine ⟨⟨by omega, inside.2⟩, ?_⟩
    rw [Nat.mul_comm, Nat.mul_add_div positive, Nat.div_eq_of_lt below, Nat.add_zero]
  · intro first _ second _ same
    omega
  · intro index inside
    simp only [Finset.mem_filter, Finset.mem_range] at inside
    obtain ⟨⟨below, selected⟩, rfl⟩ := inside
    have place := Nat.mod_lt index positive
    have split : index / per * per + index % per = index := Nat.div_add_mod' index per
    refine ⟨index % per, ?_, split⟩
    simp only [Finset.mem_filter, Finset.mem_range]
    rw [split]
    exact ⟨by omega, selected⟩

/-- A sum over groups moves with the one group that changes. -/
theorem sum_of_one (groups : Nat) (before after : Nat → Nat) (group : Nat) (inside : group < groups)
    (others : ∀ other, other ≠ group → after other = before other) :
    ∑ index ∈ Finset.range groups, after index + before group =
      ∑ index ∈ Finset.range groups, before index + after group := by
  have member : group ∈ Finset.range groups := Finset.mem_range.mpr inside
  have rest : ∑ index ∈ (Finset.range groups).erase group, after index =
      ∑ index ∈ (Finset.range groups).erase group, before index :=
    Finset.sum_congr rfl fun other away => others other (Finset.ne_of_mem_erase away)
  have first := Finset.add_sum_erase (Finset.range groups) after member
  have second := Finset.add_sum_erase (Finset.range groups) before member
  omega

end Counting

end Bitmap
