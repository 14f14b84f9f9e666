import Cryexts.Namei.Ops

set_option autoImplicit false

namespace Cryexts

namespace Namei

open Balloc (Allocator)
open WriteLog (store store_same store_other)

/-- The inode bitmaps mark these inodes and no others. -/
structure Marked (a : Allocator) (nodes : Nat → Prop) : Prop where
  sound : Balloc.Sound a
  used : ∀ ino, Balloc.inodeBitmapUsed a ino = true ↔ nodes ino

/-- The allocator after a call that keeps its geometry, and the slots of all inodes but one. -/
structure Kept (a after : Allocator) (ino : Nat) : Prop where
  inodesCount : after.diskSb.inodesCount = a.diskSb.inodesCount
  table : ∀ other, other ≠ ino → after.inodeTable other = a.inodeTable other

/-- The allocator after steps that take and free no inode. -/
structure SameInodes (a b : Allocator) : Prop where
  sound : Balloc.Sound b
  used : ∀ ino, Balloc.inodeBitmapUsed b ino = Balloc.inodeBitmapUsed a ino
  inodesCount : b.diskSb.inodesCount = a.diskSb.inodesCount

/-- The allocator after calls that change which blocks are used and nothing else. -/
structure Reblocked (a b : Allocator) : Prop extends SameInodes a b where
  inodeTable : b.inodeTable = a.inodeTable

/-- Calls that start from sound bitmaps change nothing but the blocks. -/
def Reblocks (a b : Allocator) : Prop := Balloc.Sound a → Reblocked a b

section Blocks

variable {a b : Allocator} (sound : Balloc.Sound a)

include sound

theorem SameInodes.refl : SameInodes a a := ⟨sound, fun _ => rfl, rfl⟩

omit sound in
theorem SameInodes.trans {c : Allocator} (first : SameInodes a b) (second : SameInodes b c) :
    SameInodes a c :=
  ⟨second.sound, fun ino => (second.used ino).trans (first.used ino),
    second.inodesCount.trans first.inodesCount⟩

omit sound in
instance : IsPreorder Allocator Reblocks where
  refl _ sound := ⟨SameInodes.refl sound, rfl⟩
  trans _ _ _ one two sound := by
    have first := one sound
    have second := two first.sound
    exact ⟨first.toSameInodes.trans second.toSameInodes,
      second.inodeTable.trans first.inodeTable⟩

theorem reblocked_allocBlockGoal (goalBlock goalGroup : Nat) :
    Reblocked a (Balloc.allocBlockGoal goalBlock goalGroup a).2 := by
  rcases sound.allocBlockGoal_cases goalBlock goalGroup with
    ⟨group, bit, inside, area, free, taken⟩ | ⟨refused, _⟩
  · have shape := (Balloc.takeBlockBit_shape a group bit).trans (Balloc.blockTaken_shape
      (Balloc.takeBlockBit group bit a) (group * a.blocksPerGroup + bit))
    rw [taken]
    refine ⟨⟨sound.takeBlock group bit inside area free, ?_, shape.inodesCount⟩, rfl⟩
    intro ino
    exact Balloc.inodeBitmapUsed_kept sound.geometry shape rfl ino
  · rw [refused]
    exact ⟨SameInodes.refl sound, rfl⟩

theorem reblocked_freeBlock (block : Nat) : Reblocked a (Balloc.freeBlock block a).2 := by
  rcases sound.freeBlock_cases block with
    ⟨_, same⟩ | ⟨group, bit, inside, area, set, _, _, freed⟩
  · rw [same]
    exact ⟨SameInodes.refl sound, rfl⟩
  · have shape := (Balloc.releaseBlockBit_shape a group bit).trans (Balloc.blockReleased_shape
      (Balloc.releaseBlockBit group bit a))
    rw [freed]
    refine ⟨⟨sound.releaseBlock group bit inside area set, ?_, shape.inodesCount⟩, rfl⟩
    intro ino
    exact Balloc.inodeBitmapUsed_kept sound.geometry shape rfl ino

end Blocks

section Numbering

variable {a : Allocator} {nodes : Nat → Prop} (marked : Marked a nodes)

include marked

theorem Marked.congr {others : Nat → Prop} (same : ∀ ino, others ino ↔ nodes ino) :
    Marked a others :=
  ⟨marked.sound, fun ino => (marked.used ino).trans (same ino).symm⟩

theorem Marked.range {ino : Nat} (node : nodes ino) :
    ROOT_INO ≤ ino ∧ ino ≤ a.diskSb.inodesCount := by
  have used := (marked.used ino).mpr node
  unfold Balloc.inodeBitmapUsed at used
  split at used
  · cases used
  · omega

theorem Marked.withTable (inodeTable : Nat → ByteBuf INODE_SIZE) :
    Marked { a with inodeTable := inodeTable } nodes :=
  ⟨marked.sound.clearInode inodeTable, marked.used⟩

/-- A number that is handed out was free, and is marked. -/
theorem Marked.take {ino goalGroup : Nat} {after : Allocator}
    (ran : Balloc.allocInodeGoal goalGroup a = (.ok ino, after)) :
    ¬ nodes ino ∧ Marked after (fun other => other = ino ∨ nodes other) ∧
      after.diskSb.inodesCount = a.diskSb.inodesCount ∧ after.inodeTable = a.inodeTable := by
  have sound := marked.sound
  have geometry := sound.geometry
  rcases sound.allocInodeGoal_cases goalGroup with
    ⟨group, bit, inside, area, _, free, taken⟩ | ⟨refused, _⟩
  · rw [taken] at ran
    obtain ⟨number, final⟩ := Prod.mk.inj ran
    have number := Except.ok.inj number
    subst number
    subst final
    have inode := geometry.area_inode group bit inside area
    have shape := (Balloc.takeInodeBit_shape a group bit).trans (Balloc.inodeTaken_shape
      (Balloc.takeInodeBit group bit a) (group * a.inodesPerGroup + bit + 1))
    have fresh : ¬ nodes (group * a.inodesPerGroup + bit + 1) := by
      intro node
      have used := (marked.used _).mpr node
      rw [inode.2, free] at used
      cases used
    refine ⟨fresh, ⟨sound.takeInode group bit inside area free, ?_⟩, shape.inodesCount, rfl⟩
    intro other
    by_cases same : other = group * a.inodesPerGroup + bit + 1
    · have there := (shape.geometry geometry).area_inode group bit inside (by
        rw [shape.inodeArea_eq]
        exact area)
      rw [shape.inodesPerGroup] at there
      rw [same, there.2]
      show Bitmap.test (store a.groupInodeBitmaps group
        (Bitmap.set (a.groupInodeBitmaps group) bit) group) bit = true ↔ _
      rw [store_same, Bitmap.test_set_same]
      simp
    · rw [Balloc.inodeBitmapUsed_other geometry shape group bit _ rfl
        (fun place apart => Bitmap.test_set_other _ _ _ apart) other same, marked.used]
      simp [same]
  · rw [refused] at ran
    cases ran

omit marked in
/-- Freeing an inode zeroes its slot at most. -/
theorem freeInode_kept (ino : Nat) (found : Bool) :
    Kept a (Balloc.freeInode ino found a).2 ino := by
  unfold Balloc.freeInode
  have others : ∀ other, other ≠ ino →
      store a.inodeTable ino (ByteBuf.zero INODE_SIZE) other = a.inodeTable other :=
    fun other away => store_other _ _ _ _ away
  split
  · exact ⟨rfl, fun _ _ => rfl⟩
  · split
    · exact ⟨rfl, fun _ _ => rfl⟩
    · simp only
      split
      · split
        · exact ⟨rfl, others⟩
        · exact ⟨rfl, others⟩
      · split
        · exact ⟨rfl, others⟩
        · exact ⟨rfl, others⟩

/-- A number that is given back can be handed out again. -/
theorem Marked.give {ino : Nat} (node : nodes ino) :
    Marked (Balloc.freeInode ino true a).2 fun other => other ≠ ino ∧ nodes other := by
  have sound := marked.sound
  have used := (marked.used ino).mpr node
  obtain ⟨low, high⟩ := marked.range node
  rcases sound.freeInode_cases ino true with
    ⟨inodeTable, same⟩ | ⟨group, bit, inodeTable, inside, area, set, number, _, freed⟩
  · exact absurd used (by
      have geometry := sound.geometry
      have place := geometry.inode_area ino low high
      rw [geometry.inodeBitmapUsed_eq ino low high] at used
      have released : (Balloc.freeInode ino true a).2.groupInodeBitmaps = a.groupInodeBitmaps := by
        rw [same]
      have grouped : Balloc.hasBlockGroups { a with
          inodeTable := store a.inodeTable ino (ByteBuf.zero INODE_SIZE) } = true :=
        geometry.grouped
      rw [Balloc.freeInode, if_neg (by omega), if_neg (by decide)] at released
      simp only [grouped, Bool.true_eq_false, ↓reduceIte] at released
      rw [if_neg (by
        simp only [not_or, not_le, Bool.not_eq_false]
        exact ⟨place.1, used⟩)] at released
      have bits := congrFun released ((ino - 1) / a.inodesPerGroup)
      change store a.groupInodeBitmaps _ _ _ = _ at bits
      rw [store_same] at bits
      rw [← bits, Bitmap.test_clear_same] at used
      cases used)
  · have cleared := sound.clearInode inodeTable
    have shape := (Balloc.releaseInodeBit_shape { a with inodeTable := inodeTable } group bit).trans
      (Balloc.inodeReleased_shape
        (Balloc.releaseInodeBit group bit { a with inodeTable := inodeTable }))
    rw [freed]
    refine ⟨cleared.releaseInode group bit inside area set, ?_⟩
    intro other
    by_cases same : other = ino
    · have there := (shape.geometry cleared.geometry).area_inode group bit inside (by
        rw [shape.inodeArea_eq]
        exact area)
      rw [shape.inodesPerGroup] at there
      rw [same, number, there.2]
      show Bitmap.test (store a.groupInodeBitmaps group
        (Bitmap.clear (a.groupInodeBitmaps group) bit) group) bit = true ↔ _
      rw [store_same, Bitmap.test_clear_same]
      simp
    · rw [number] at same
      rw [Balloc.inodeBitmapUsed_other cleared.geometry shape group bit _ rfl
        (fun place apart => Bitmap.test_clear_other _ _ _ apart) other same, number]
      simp only [ne_eq, same, not_false_iff, true_and]
      exact marked.used other

theorem Marked.same {b : Allocator} (same : SameInodes a b) : Marked b nodes := by
  refine ⟨same.sound, ?_⟩
  intro ino
  rw [same.used]
  exact marked.used ino

end Numbering

/-- The inode bitmaps mark these inodes and the lost ones, which are others. -/
structure Numbered (a : Allocator) (lost : Finset Nat) (nodes : Nat → Prop) : Prop where
  marked : Marked a fun ino => ino ∈ lost ∨ nodes ino
  apart : ∀ ino ∈ lost, ¬ nodes ino

section Losses

variable {a : Allocator} {lost : Finset Nat} {nodes : Nat → Prop}
  (numbered : Numbered a lost nodes)

include numbered

theorem Numbered.congr {others : Nat → Prop} (same : ∀ ino, others ino ↔ nodes ino) :
    Numbered a lost others := by
  constructor
  · apply numbered.marked.congr
    intro ino
    rw [same]
  · intro ino gone
    rw [same]
    exact numbered.apart ino gone

theorem Numbered.range {ino : Nat} (node : nodes ino) :
    ROOT_INO ≤ ino ∧ ino ≤ a.diskSb.inodesCount := numbered.marked.range (Or.inr node)

theorem Numbered.withTable (inodeTable : Nat → ByteBuf INODE_SIZE) :
    Numbered { a with inodeTable := inodeTable } lost nodes :=
  ⟨numbered.marked.withTable inodeTable, numbered.apart⟩

theorem Numbered.take {ino goalGroup : Nat} {after : Allocator}
    (ran : Balloc.allocInodeGoal goalGroup a = (.ok ino, after)) :
    ¬ nodes ino ∧ Numbered after lost (fun other => other = ino ∨ nodes other) ∧
      after.diskSb.inodesCount = a.diskSb.inodesCount ∧ after.inodeTable = a.inodeTable := by
  obtain ⟨fresh, marked, size, table⟩ := numbered.marked.take ran
  refine ⟨fun node => fresh (Or.inr node), ⟨marked.congr ?_, ?_⟩, size, table⟩
  · intro other
    exact or_left_comm
  · rintro other gone (rfl | node)
    · exact fresh (Or.inl gone)
    · exact numbered.apart other gone node

theorem Numbered.give {ino : Nat} (node : nodes ino) :
    Numbered (Balloc.freeInode ino true a).2 lost fun other => other ≠ ino ∧ nodes other := by
  refine ⟨(numbered.marked.give (Or.inr node)).congr ?_, ?_⟩
  · intro other
    constructor
    · rintro (gone | ⟨away, here⟩)
      · refine ⟨?_, Or.inl gone⟩
        rintro rfl
        exact numbered.apart other gone node
      · exact ⟨away, Or.inr here⟩
    · rintro ⟨away, gone | here⟩
      · exact Or.inl gone
      · exact Or.inr ⟨away, here⟩
  · intro other gone here
    exact numbered.apart other gone here.2

/-- An inode is lost: it keeps its mark and nothing else. -/
theorem Numbered.lose {ino : Nat} {others : Nat → Prop}
    (split : ∀ other, nodes other ↔ other = ino ∨ others other) (gone : ¬ others ino) :
    Numbered a (insert ino lost) others := by
  constructor
  · apply numbered.marked.congr
    intro other
    rw [split, Finset.mem_insert]
    tauto
  · intro other member
    rcases Finset.mem_insert.mp member with rfl | old
    · exact gone
    · exact fun here => numbered.apart other old ((split other).mpr (Or.inr here))

theorem Numbered.sound : Balloc.Sound a := numbered.marked.sound

theorem Numbered.same {b : Allocator} (same : SameInodes a b) : Numbered b lost nodes :=
  ⟨numbered.marked.same same, numbered.apart⟩

end Losses

end Namei

end Cryexts
