import Cryexts.Balloc.Invariant
import Cryexts.Lib.Routine

set_option autoImplicit false

namespace Cryexts

namespace Balloc

open WriteLog (store store_same store_other)

section InGroup

variable {a : Allocator} (geometry : Geometry a) (group : Nat) (inside : group < a.groupCount)

include geometry inside

/-- The two loops of `cryexts_alloc_block_in_group` together visit every bit of the group. -/
theorem Geometry.scan_covers (hint bit : Nat) :
    bit ∈ List.range' (startBit a group hint) (Balloc.groupBlocks a group - startBit a group hint) ++
        List.range (startBit a group hint) ↔ bit < (a.groups group).blocksCount := by
  have reach := geometry.blocksReach group inside
  have bound := geometry.blocksBound
  have length := geometry.groupBlocks group inside
  have start := geometry.groupStart group inside
  have blocks : Balloc.groupBlocks a group = (a.groups group).blocksCount := by
    rw [Balloc.groupBlocks, if_neg (by omega)]
  have first : groupFirstBlock a group = group * a.blocksPerGroup := by
    rw [groupFirstBlock, if_neg (by omega), start]
  have stop : u64 (group * a.blocksPerGroup + (a.groups group).blocksCount) =
      group * a.blocksPerGroup + (a.groups group).blocksCount := u64_of_lt _ (by omega)
  have low : startBit a group hint ≤ (a.groups group).blocksCount := by
    unfold startBit
    simp only [first, blocks, stop]
    split
    · omega
    · exact Nat.zero_le _
  rw [blocks, List.mem_append, List.mem_range'_1, List.mem_range]
  omega

theorem Geometry.allocBlockInGroup_cases (hint : Nat) :
    (∃ bit, bit < (a.groups group).blocksCount ∧
      a.diskSb.firstDataBlock ≤ group * a.blocksPerGroup + bit ∧
      Bitmap.test (a.groupBlockBitmaps group) bit = false ∧
      allocBlockInGroup group hint a =
        (.ok (group * a.blocksPerGroup + bit), takeBlockBit group bit a)) ∨
    (allocBlockInGroup group hint a = (.error .enospc, a) ∧
      ∀ bit, bit < (a.groups group).blocksCount →
        a.diskSb.firstDataBlock ≤ group * a.blocksPerGroup + bit →
        Bitmap.test (a.groupBlockBitmaps group) bit = true) := by
  have bound := geometry.blocksBound
  have first : groupFirstBlock a group = group * a.blocksPerGroup := by
    rw [groupFirstBlock, if_neg (by omega), geometry.groupStart group inside]
  have number : ∀ bit, bit < (a.groups group).blocksCount →
      u64 (group * a.blocksPerGroup + bit) = group * a.blocksPerGroup + bit := by
    intro bit low
    have placed := geometry.block_lt group bit inside low
    exact u64_of_lt _ (by omega)
  have covers := geometry.scan_covers group inside hint
  unfold allocBlockInGroup
  rw [if_neg (by omega)]
  simp only [first]
  split
  · rename_i bit found
    left
    have low := (covers bit).mp (List.mem_of_find?_eq_some found)
    have eligible := List.find?_some found
    rw [number bit low, Bool.and_eq_true, decide_eq_true_eq, Bool.not_eq_true'] at eligible
    refine ⟨bit, low, eligible.1, eligible.2, ?_⟩
    rw [number bit low]
  · rename_i missing
    right
    refine ⟨rfl, ?_⟩
    intro bit low start
    have refused := List.find?_eq_none.mp missing bit ((covers bit).mpr low)
    rw [number bit low, Bool.and_eq_true, decide_eq_true_eq] at refused
    simpa [start] using refused

theorem Geometry.allocInodeInGroup_cases :
    (∃ bit, bit ∈ inodeArea a group ∧ ROOT_INO < group * a.inodesPerGroup + bit + 1 ∧
      Bitmap.test (a.groupInodeBitmaps group) bit = false ∧
      allocInodeInGroup group a =
        (.ok (group * a.inodesPerGroup + bit + 1), takeInodeBit group bit a)) ∨
    (allocInodeInGroup group a = (.error .enospc, a) ∧
      ∀ bit, bit ∈ inodeArea a group → ROOT_INO < group * a.inodesPerGroup + bit + 1 →
        Bitmap.test (a.groupInodeBitmaps group) bit = true) := by
  have bound := geometry.inodesBound
  have reach := geometry.inodesReach group inside
  have base : u64 (group * a.inodesPerGroup + 1) = group * a.inodesPerGroup + 1 :=
    u64_of_lt _ (by omega)
  have number : ∀ bit, bit < inodeLimit a group →
      u64 (group * a.inodesPerGroup + 1 + bit) = group * a.inodesPerGroup + bit + 1 := by
    intro bit low
    have placed := geometry.ino_le group bit inside low
    rw [u64_of_lt _ (by omega)]
    omega
  unfold allocInodeInGroup
  rw [if_neg (by omega)]
  simp only [base]
  split
  · rename_i bit found
    left
    have low := List.mem_range.mp (List.mem_of_find?_eq_some found)
    have eligible := List.find?_some found
    rw [number bit low, Bool.and_eq_true, decide_eq_true_eq, Bool.not_eq_true'] at eligible
    refine ⟨bit, (mem_inodeArea a group bit).mpr low, eligible.1, eligible.2, ?_⟩
    rw [number bit low]
  · rename_i missing
    right
    refine ⟨rfl, ?_⟩
    intro bit member above
    have low := (mem_inodeArea a group bit).mp member
    have refused := List.find?_eq_none.mp missing bit (List.mem_range.mpr low)
    rw [number bit low, Bool.and_eq_true, decide_eq_true_eq] at refused
    have enough : ROOT_INO + 1 ≤ group * a.inodesPerGroup + bit + 1 := above
    simpa [enough] using refused

end InGroup

/-- Walking round `count` groups from any start reaches every one of them. -/
theorem round_reaches (count start group : Nat) (inside : group < count) (low : start ≤ count) :
    ∃ scanned, scanned < count ∧ (start + scanned) % count = group := by
  by_cases later : start ≤ group
  · refine ⟨group - start, by omega, ?_⟩
    rw [show start + (group - start) = group by omega, Nat.mod_eq_of_lt inside]
  · refine ⟨group + count - start, by omega, ?_⟩
    rw [show start + (group + count - start) = group + count by omega, Nat.add_mod_right,
      Nat.mod_eq_of_lt inside]

theorem Geometry.count_small {a : Allocator} (geometry : Geometry a) :
    2 * a.groupCount < 2 ^ 64 := by
  have table : a.groupCount * 76 < 2 ^ 64 := geometry.tableBound
  omega

section Goal

variable {a : Allocator} (sound : Sound a)

include sound

/-- A zero bit the scan accepts lies in the group's data area. -/
theorem Sound.area_of_free (group bit : Nat) (inside : group < a.groupCount)
    (low : bit < (a.groups group).blocksCount)
    (start : a.diskSb.firstDataBlock ≤ group * a.blocksPerGroup + bit)
    (free : Bitmap.test (a.groupBlockBitmaps group) bit = false) : bit ∈ dataArea a group := by
  rw [mem_dataArea]
  refine ⟨low, ?_⟩
  by_cases zero : group = 0
  · rw [groupDataStart, if_pos zero]
    exact start
  · by_cases metadata : group * a.blocksPerGroup + bit < groupDataStart a group
    · have used := sound.metadata group bit inside (by omega) low metadata
      rw [free] at used
      cases used
    · omega

/-- Every data block lies in a group the block search visits. -/
theorem Sound.firstDataGroup_le (group bit : Nat) (inside : group < a.groupCount)
    (member : bit ∈ dataArea a group) : firstDataGroup a ≤ group := by
  have bounds := sound.area_bounds group bit inside member
  have placed := sound.geometry.block_lt group bit inside ((mem_dataArea a group bit).mp member).1
  have positive := sound.geometry.blocksPositive
  rw [firstDataGroup, if_neg (by
      rw [sound.geometry.grouped]
      simp
      omega), divU64_of_fit _ _ sound.geometry.blocksFit]
  have quotient := Nat.div_le_div_right (c := a.blocksPerGroup) bounds.1
  rw [(group_of a.blocksPerGroup group bit placed.1).1] at quotient
  exact quotient

/-- What the search over the groups can find for a block. -/
theorem Sound.searchBlockGroups_cases (goalBlock goalGroup : Nat) :
    (∃ group bit, group < a.groupCount ∧ bit ∈ dataArea a group ∧
      Bitmap.test (a.groupBlockBitmaps group) bit = false ∧
      searchBlockGroups goalBlock goalGroup a =
        (.ok (group * a.blocksPerGroup + bit), takeBlockBit group bit a)) ∨
    (searchBlockGroups goalBlock goalGroup a = (.error .enospc, a) ∧
      ∀ group bit, group < a.groupCount → bit ∈ dataArea a group →
        Bitmap.test (a.groupBlockBitmaps group) bit = true) := by
  have geometry := sound.geometry
  have refusal : ∀ group hint, group < a.groupCount → ∀ later after,
      allocBlockInGroup group hint a = (.error later, after) → later = .enospc ∧ after = a := by
    intro group hint inside later after failed
    rcases geometry.allocBlockInGroup_cases group inside hint with
      ⟨bit, _, _, _, taken⟩ | ⟨refused, _⟩
    · rw [taken] at failed
      cases failed
    · rw [refused] at failed
      cases failed
      exact ⟨rfl, rfl⟩
  have success : ∀ group hint value after, group < a.groupCount →
      allocBlockInGroup group hint a = (.ok value, after) →
      ∃ bit, bit ∈ dataArea a group ∧ Bitmap.test (a.groupBlockBitmaps group) bit = false ∧
        value = group * a.blocksPerGroup + bit ∧ after = takeBlockBit group bit a := by
    intro group hint value after inside ran
    rcases geometry.allocBlockInGroup_cases group inside hint with
      ⟨bit, low, start, free, taken⟩ | ⟨refused, _⟩
    · rw [taken] at ran
      cases ran
      exact ⟨bit, sound.area_of_free group bit inside low start free, free, rfl, rfl⟩
    · rw [refused] at ran
      cases ran
  unfold searchBlockGroups
  simp only
  generalize (if preallocFeatureEnabled a = true ∧ goalGroup < a.groupCount then goalGroup
    else if preallocFeatureEnabled a = true ∧
        (decide (goalBlock ≠ 0) && dataBlockValid a goalBlock) = true then
      divU64 goalBlock a.blocksPerGroup
    else firstDataGroup a) = startGroup
  have first := Routine.search_cases
    (fun b scanned => decide (u64 (startGroup + scanned) % a.groupCount < firstDataGroup b) ||
      groupFreeBlocks b (u64 (startGroup + scanned) % a.groupCount) == 0)
    (fun scanned => allocBlockInGroup (u64 (startGroup + scanned) % a.groupCount)
      (startHint a goalBlock goalGroup (u64 (startGroup + scanned) % a.groupCount) scanned))
    (List.range a.groupCount) .enospc a (by
      intro scanned member
      have below : scanned < a.groupCount := List.mem_range.mp member
      exact refusal _ _ (Nat.mod_lt _ (by omega)))
  rcases first with ⟨scanned, member, _, value, after, ran, result⟩ | ⟨failed, _⟩
  · left
    have below : scanned < a.groupCount := List.mem_range.mp member
    have inside : u64 (startGroup + scanned) % a.groupCount < a.groupCount :=
      Nat.mod_lt _ (by omega)
    obtain ⟨bit, area, free, rfl, rfl⟩ := success _ _ value after inside ran
    refine ⟨_, bit, inside, area, free, ?_⟩
    rw [result]
  · -- The second loop tries every group from the first data group on.
    rw [failed]
    have second := Routine.search_cases (fun b group => groupFreeBlocks b group == 0)
      (fun group => allocBlockInGroup group 0)
      (List.range' (firstDataGroup a) (a.groupCount - firstDataGroup a)) .enospc a (by
        intro group member
        have range := List.mem_range'_1.mp member
        exact refusal _ _ (by omega))
    rcases second with ⟨group, member, _, value, after, ran, result⟩ | ⟨refused, others⟩
    · left
      have range := List.mem_range'_1.mp member
      have inside : group < a.groupCount := by omega
      obtain ⟨bit, area, free, rfl, rfl⟩ := success _ _ value after inside ran
      exact ⟨group, bit, inside, area, free, result⟩
    · right
      refine ⟨refused, ?_⟩
      intro group bit inside area
      have early := sound.firstDataGroup_le group bit inside area
      have member : group ∈ List.range' (firstDataGroup a)
          (a.groupCount - firstDataGroup a) := List.mem_range'_1.mpr (by omega)
      by_cases used : Bitmap.test (a.groupBlockBitmaps group) bit = true
      · exact used
      · have free : Bitmap.test (a.groupBlockBitmaps group) bit = false := by simpa using used
        -- The group's counter is positive, so the loop has tried the group.
        have counter : (groupFreeBlocks a group == 0) = false := by
          have positive := Finset.card_pos.mpr ⟨bit, (Bitmap.mem_zeros
            (a.groupBlockBitmaps group) (dataArea a group) bit).mpr ⟨area, free⟩⟩
          have counted := sound.balanced.groupBlocks group inside
          rw [groupFreeBlocks, if_neg (by omega), beq_eq_false_iff_ne]
          omega
        have tried := others group member counter
        rcases geometry.allocBlockInGroup_cases group inside 0 with
          ⟨_, _, _, _, taken⟩ | ⟨_, full⟩
        · rw [taken] at tried
          cases tried
        · exact full bit ((mem_dataArea a group bit).mp area).1
            (sound.area_bounds group bit inside area).1

/-- What the search over the groups can find for an inode. -/
theorem Sound.searchInodeGroups_cases (goalGroup : Nat) :
    (∃ group bit, group < a.groupCount ∧ bit ∈ inodeArea a group ∧
      ROOT_INO < group * a.inodesPerGroup + bit + 1 ∧
      Bitmap.test (a.groupInodeBitmaps group) bit = false ∧
      searchInodeGroups goalGroup a =
        (.ok (group * a.inodesPerGroup + bit + 1), takeInodeBit group bit a)) ∨
    (searchInodeGroups goalGroup a = (.error .enospc, a) ∧
      ∀ group bit, group < a.groupCount → bit ∈ inodeArea a group →
        ROOT_INO < group * a.inodesPerGroup + bit + 1 →
        Bitmap.test (a.groupInodeBitmaps group) bit = true) := by
  have geometry := sound.geometry
  unfold searchInodeGroups
  simp only
  generalize startIs : (if preallocFeatureEnabled a = true ∧ goalGroup < a.groupCount then goalGroup
    else 0) = startGroup
  have low : startGroup ≤ a.groupCount := by
    rw [← startIs]
    split
    · omega
    · exact Nat.zero_le _
  have found := Routine.search_cases
    (fun b scanned => groupFreeInodes b (u64 (startGroup + scanned) % a.groupCount) == 0)
    (fun scanned => allocInodeInGroup (u64 (startGroup + scanned) % a.groupCount))
    (List.range a.groupCount) .enospc a (by
      intro scanned member later after failed
      have below : scanned < a.groupCount := List.mem_range.mp member
      rcases geometry.allocInodeInGroup_cases (u64 (startGroup + scanned) % a.groupCount)
        (Nat.mod_lt _ (by omega)) with ⟨bit, _, _, _, taken⟩ | ⟨refused, _⟩
      · rw [taken] at failed
        cases failed
      · rw [refused] at failed
        cases failed
        exact ⟨rfl, rfl⟩)
  rcases found with ⟨scanned, member, _, value, after, ran, result⟩ | ⟨refused, others⟩
  · left
    have below : scanned < a.groupCount := List.mem_range.mp member
    have inside : u64 (startGroup + scanned) % a.groupCount < a.groupCount :=
      Nat.mod_lt _ (by omega)
    rcases geometry.allocInodeInGroup_cases _ inside with
      ⟨bit, area, above, free, taken⟩ | ⟨failed, _⟩
    · rw [taken] at ran
      cases ran
      exact ⟨_, bit, inside, area, above, free, result⟩
    · rw [failed] at ran
      cases ran
  · right
    refine ⟨refused, ?_⟩
    intro group bit inside area above
    obtain ⟨scanned, below, here⟩ := round_reaches a.groupCount startGroup group inside low
    have small := geometry.count_small
    have number : u64 (startGroup + scanned) % a.groupCount = group := by
      rw [u64_of_lt _ (by omega), here]
    by_cases used : Bitmap.test (a.groupInodeBitmaps group) bit = true
    · exact used
    · have free : Bitmap.test (a.groupInodeBitmaps group) bit = false := by simpa using used
      have counter : (groupFreeInodes a group == 0) = false := by
        have positive := Finset.card_pos.mpr ⟨bit, (Bitmap.mem_zeros
          (a.groupInodeBitmaps group) (inodeArea a group) bit).mpr ⟨area, free⟩⟩
        have counted := sound.balanced.groupInodes group inside
        rw [groupFreeInodes, if_neg (by omega), beq_eq_false_iff_ne]
        omega
      have tried := others scanned (List.mem_range.mpr below) (by rw [number]; exact counter)
      rw [number] at tried
      rcases geometry.allocInodeInGroup_cases group inside with ⟨_, _, _, _, taken⟩ | ⟨_, full⟩
      · rw [taken] at tried
        cases tried
      · exact full bit area above

end Goal

end Balloc

end Cryexts
