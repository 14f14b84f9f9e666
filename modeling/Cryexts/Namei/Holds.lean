import Cryexts.Lib.NameTree
import Cryexts.Namei.Listing
import Cryexts.Namei.Numbering

set_option autoImplicit false

namespace Cryexts

namespace Namei

open Dir (DirState DirSuper)
open WriteLog (store store_same store_other store_eq_self)

/-- A file system as its users see it: directories below the root, files under names. -/
abbrev Tree : Type := NameTree Nat (List UInt8) ROOT_INO

abbrev Entry : Type := Link Nat (List UInt8)

/-- Each of the directories lists just the names the links give it. -/
def Listed (sb : DirSuper) (dirs : Nat → DirState) (mode : Nat → Nat) (inside : Finset Nat)
    (parent : Nat → Nat) (links : Finset Entry) : Prop :=
  ∀ dir ∈ inside, Listing sb (dirs dir) mode dir (parent dir) fun name ino =>
    (⟨dir, name, ino⟩ : Entry) ∈ links

/-- The link counts are those of the tree. -/
structure Counted (mode nlink : Nat → Nat) (tree : Tree) : Prop where
  dirs : ∀ dir ∈ tree.dirs, Inode.sIsDir (mode dir) = true ∧ nlink dir = tree.subdirs dir + 2
  files : ∀ file ∈ tree.files, Inode.sIsDir (mode file) = false ∧ nlink file = tree.names file

/-- The slot of an inode has its type and its link count, in 16 bits each. -/
def Recorded (s : NameState) (ino : Nat) : Prop :=
  (s.allocator.inodeTable ino).get DiskInode.mode = s.mode ino % 2 ^ 16 ∧
    (s.allocator.inodeTable ino).get DiskInode.linksCount = s.nlink ino % 2 ^ 16

/-- The directories, the link counts, the inode table and the inode bitmaps all are those of one
tree; the bitmaps mark the lost inodes too, which no name leads to. -/
structure Holds (sb : DirSuper) (s : NameState) (tree : Tree) (lost : Finset Nat) : Prop where
  listed : Listed sb s.dirs s.mode tree.dirs tree.parent tree.links
  counted : Counted s.mode s.nlink tree
  recorded : ∀ ino, tree.Has ino → Recorded s ino
  numbered : Numbered s.allocator lost tree.Has
  sized : sb.maxInodes = s.allocator.diskSb.inodesCount

section Listings

variable {sb : DirSuper} {dirs : Nat → DirState} {mode : Nat → Nat} {inside : Finset Nat}
  {parent : Nat → Nat} {links : Finset Entry}
  (listed : Listed sb dirs mode inside parent links)

include listed

/-- One directory changes, and with it the links that it holds. -/
theorem Listed.change (dir : Nat) (state : DirState) (above : Nat) (others : Finset Entry)
    (listing : Listing sb state mode dir above fun name ino => (⟨dir, name, ino⟩ : Entry) ∈ others)
    (same : ∀ link : Entry, link.holder ≠ dir → (link ∈ others ↔ link ∈ links)) :
    Listed sb (store dirs dir state) mode inside (store parent dir above) others := by
  intro other member
  by_cases here : other = dir
  · rw [here, store_same, store_same]
    exact listing
  · rw [store_other _ _ _ _ here, store_other _ _ _ _ here]
    apply (listed other member).congr
    · intro name ino
      exact same ⟨other, name, ino⟩ here
    · intro _ _ _
      rfl

theorem Listed.add (plain : sb.dirIndex = false) {dir ino : Nat} {name : List UInt8}
    {state after : DirState} (there : dir ∈ inside) (named : name ≠ []) (low : ROOT_INO ≤ ino)
    (high : ino ≤ sb.maxInodes)
    (ran : Dir.addEntry sb name ino (fileType (mode ino)) state = (.ok (), after))
    (blocks : state.blocks = (dirs dir).blocks) (index : state.index = (dirs dir).index) :
    (∀ link ∈ links, link.holder = dir → link.name ≠ name) ∧
      Listed sb (store dirs dir after) mode inside parent (insert ⟨dir, name, ino⟩ links) := by
  obtain ⟨free, listing⟩ := ((listed dir there).reads blocks index).add plain name ino named low
    high ran
  constructor
  · rintro ⟨holder, title, target⟩ member rfl rfl
    exact free target member
  · have grown := listed.change dir after (parent dir) (insert ⟨dir, name, ino⟩ links)
    rw [store_eq_self _ _ _ rfl] at grown
    apply grown
    · apply listing.congr
      · intro other target
        simp [Finset.mem_insert]
      · intro _ _ _
        rfl
    · intro link away
      rw [Finset.mem_insert]
      apply or_iff_right
      rintro rfl
      exact away rfl

theorem Listed.delete (plain : sb.dirIndex = false) {dir ino : Nat} {name : List UInt8}
    {state after : DirState} (there : dir ∈ inside)
    (member : (⟨dir, name, ino⟩ : Entry) ∈ links)
    (ran : Dir.deleteEntry sb name state = (.ok (), after))
    (blocks : state.blocks = (dirs dir).blocks) (index : state.index = (dirs dir).index) :
    Listed sb (store dirs dir after) mode inside parent (links.erase ⟨dir, name, ino⟩) := by
  have before := (listed dir there).reads blocks index
  have dots := before.dots ino
  have listing := before.delete plain name (fun dot => dots.1 (dot ▸ member))
    (fun second => dots.2 (second ▸ member)) ran
  have shrunk := listed.change dir after (parent dir) (links.erase ⟨dir, name, ino⟩)
  rw [store_eq_self _ _ _ rfl] at shrunk
  apply shrunk
  · apply listing.congr
    · intro other target
      rw [Finset.mem_erase]
      apply and_congr_left
      intro here
      constructor
      · rintro different rfl
        exact different (by rw [before.single here member])
      · rintro different same
        rw [Link.mk.injEq] at same
        exact different same.2.1
    · intro _ _ _
      rfl
  · intro link away
    rw [Finset.mem_erase]
    apply and_iff_right_of_imp
    rintro _ rfl
    exact away rfl

theorem Listed.reparent {dir above : Nat} {state after : DirState} (there : dir ∈ inside)
    (low : ROOT_INO ≤ above) (high : above ≤ sb.maxInodes)
    (ran : retargetEntry sb above state = (.ok (), after))
    (blocks : state.blocks = (dirs dir).blocks) (index : state.index = (dirs dir).index) :
    Listed sb (store dirs dir after) mode inside (store parent dir above) links := by
  have listing := ((listed dir there).reads blocks index).reparent above low high ran
  exact listed.change dir after above links listing fun _ _ => Iff.rfl

/-- Blocks and indices are all that counts. -/
theorem Listed.reads {others : Nat → DirState}
    (blocks : ∀ dir, (others dir).blocks = (dirs dir).blocks)
    (index : ∀ dir, (others dir).index = (dirs dir).index) :
    Listed sb others mode inside parent links :=
  fun dir member => (listed dir member).reads (blocks dir) (index dir)

/-- An inode that no link names may change its type, and its directory. -/
theorem Listed.spare (ino newMode : Nat) (state : DirState) (outside : ino ∉ inside)
    (unnamed : ∀ link ∈ links, link.target ≠ ino) :
    Listed sb (store dirs ino state) (store mode ino newMode) inside parent links := by
  intro dir member
  have away : dir ≠ ino := by
    rintro rfl
    exact outside member
  rw [store_other _ _ _ _ away]
  apply (listed dir member).congr
  · intro _ _
    exact Iff.rfl
  · intro name target here
    exact store_other _ _ _ _ (unnamed _ here)

/-- A new directory that holds nothing yet. -/
theorem Listed.grow (dir above : Nat) (outside : dir ∉ inside)
    (unheld : ∀ link ∈ links, link.holder ≠ dir)
    (listing : Listing sb (dirs dir) mode dir above fun _ _ => False) :
    Listed sb dirs mode (insert dir inside) (store parent dir above) links := by
  intro other member
  rcases Finset.mem_insert.mp member with rfl | old
  · rw [store_same]
    apply listing.congr
    · intro name ino
      exact iff_of_false (fun here => unheld _ here rfl) id
    · intro _ _ _
      rfl
  · have away : other ≠ dir := by
      rintro rfl
      exact outside old
    rw [store_other _ _ _ _ away]
    exact listed other old

theorem Listed.subset {fewer : Finset Nat} (sub : fewer ⊆ inside) :
    Listed sb dirs mode fewer parent links := fun dir member => listed dir (sub member)

end Listings

end Namei

end Cryexts
