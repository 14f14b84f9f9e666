import Cryexts.Lib.Tree
import Mathlib.Data.Finset.Filter
import Mathlib.Data.Finset.Disjoint

set_option autoImplicit false

/-! A tree of directories in which files hang under names, a file under any number of them. -/

open Linked (Climbs)
open WriteLog (store store_same store_other)

/-- A name in a directory, for a file or for another directory. -/
structure Link (Node Name : Type) where
  holder : Node
  name : Name
  target : Node
  deriving DecidableEq

/-- Every directory but the root hangs in its parent under one name, every file under one or
more, and all directories lie below the root. -/
structure NameTree (Node Name : Type) (root : Node) where
  dirs : Finset Node
  files : Finset Node
  parent : Node → Node
  links : Finset (Link Node Name)
  top : root ∈ dirs
  apart : ∀ node ∈ dirs, node ∉ files
  single : ∀ link ∈ links, ∀ other ∈ links, link.holder = other.holder →
    link.name = other.name → link = other
  held : ∀ link ∈ links, link.holder ∈ dirs
  hangs : ∀ link ∈ links, link.target ∈ files ∨
    (link.target ∈ dirs ∧ link.target ≠ root ∧ parent link.target = link.holder)
  reached : ∀ node ∈ files, ∃ link ∈ links, link.target = node
  hung : ∀ node ∈ dirs, node ≠ root → ∃ link ∈ links, link.target = node
  once : ∀ link ∈ links, ∀ other ∈ links, link.target ∈ dirs → link.target = other.target →
    link = other
  climbs : ∀ node ∈ dirs, ∃ path, Climbs root parent node path

namespace NameTree

variable {Node Name : Type} [DecidableEq Node] [DecidableEq Name] {root : Node}

section Facts

variable (tree : NameTree Node Name root)

omit [DecidableEq Node] [DecidableEq Name] in
theorem parent_mem (node : Node) (dir : node ∈ tree.dirs) (below : node ≠ root) :
    tree.parent node ∈ tree.dirs := by
  obtain ⟨link, member, target⟩ := tree.hung node dir below
  rcases tree.hangs link member with file | ⟨_, _, parent⟩
  · rw [target] at file
    exact absurd file (tree.apart node dir)
  · rw [← target, parent]
    exact tree.held link member

/-- The node is a directory or a file of the tree. -/
def Has (node : Node) : Prop := node ∈ tree.dirs ∨ node ∈ tree.files

/-- How many names a file has. -/
def names (node : Node) : Nat := (tree.links.filter fun link => link.target = node).card

/-- How many directories hang in a directory. -/
def subdirs (node : Node) : Nat :=
  (tree.links.filter fun link => link.holder = node ∧ link.target ∈ tree.dirs).card

omit [DecidableEq Name] in
theorem names_pos (node : Node) (file : node ∈ tree.files) : 0 < tree.names node := by
  obtain ⟨link, member, target⟩ := tree.reached node file
  apply Finset.card_pos.mpr
  exact ⟨link, Finset.mem_filter.mpr ⟨member, target⟩⟩

omit [DecidableEq Node] [DecidableEq Name] in
theorem target_has (link : Link Node Name) (member : link ∈ tree.links) : tree.Has link.target := by
  rcases tree.hangs link member with file | ⟨dir, _⟩
  · exact Or.inr file
  · exact Or.inl dir

omit [DecidableEq Name] in
theorem names_absent (node : Node) (absent : ¬ tree.Has node) : tree.names node = 0 := by
  rw [names, Finset.card_eq_zero, Finset.filter_eq_empty_iff]
  intro link member same
  rw [← same] at absent
  exact absent (tree.target_has link member)

omit [DecidableEq Name] in
theorem subdirs_absent (node : Node) (absent : node ∉ tree.dirs) : tree.subdirs node = 0 := by
  rw [subdirs, Finset.card_eq_zero, Finset.filter_eq_empty_iff]
  rintro link member ⟨same, _⟩
  rw [← same] at absent
  exact absent (tree.held link member)

/-- A name is free in a directory. -/
def Free (holder : Node) (name : Name) : Prop :=
  ∀ link ∈ tree.links, link.holder = holder → link.name ≠ name

omit [DecidableEq Node] [DecidableEq Name] in
theorem Free.not_mem {tree : NameTree Node Name root} {link : Link Node Name}
    (free : tree.Free link.holder link.name) : link ∉ tree.links :=
  fun member => free link member rfl rfl

end Facts

section Insertion

variable (tree : NameTree Node Name root) (link : Link Node Name)
  (holder : link.holder ∈ tree.dirs) (free : tree.Free link.holder link.name)

include free

omit [DecidableEq Node] [DecidableEq Name] in
/-- A new link is not confused with the others. -/
theorem Free.single (first second : Link Node Name)
    (one : first = link ∨ first ∈ tree.links) (two : second = link ∨ second ∈ tree.links)
    (holders : first.holder = second.holder) (names : first.name = second.name) :
    first = second := by
  rcases one with rfl | one
  · rcases two with rfl | two
    · rfl
    · exact absurd names.symm (free second two holders.symm)
  · rcases two with rfl | two
    · exact absurd names (free first one holders)
    · exact tree.single first one second two holders names

include holder

/-- One more name for a file, which may be new. -/
def addFile (file : link.target ∉ tree.dirs) : NameTree Node Name root where
  dirs := tree.dirs
  files := insert link.target tree.files
  parent := tree.parent
  links := insert link tree.links
  top := tree.top
  apart := by
    intro node dir
    rw [Finset.mem_insert]
    rintro (rfl | inside)
    · exact file dir
    · exact tree.apart node dir inside
  single := by
    intro first one second two
    exact free.single tree link first second (Finset.mem_insert.mp one)
      (Finset.mem_insert.mp two)
  held := by
    intro other member
    rcases Finset.mem_insert.mp member with rfl | inside
    · exact holder
    · exact tree.held other inside
  hangs := by
    intro other member
    rcases Finset.mem_insert.mp member with rfl | inside
    · exact Or.inl (Finset.mem_insert_self _ _)
    · rcases tree.hangs other inside with old | dir
      · exact Or.inl (Finset.mem_insert_of_mem old)
      · exact Or.inr dir
  reached := by
    intro node member
    rcases Finset.mem_insert.mp member with rfl | inside
    · exact ⟨link, Finset.mem_insert_self _ _, rfl⟩
    · obtain ⟨other, here, target⟩ := tree.reached node inside
      exact ⟨other, Finset.mem_insert_of_mem here, target⟩
  hung := by
    intro node dir below
    obtain ⟨other, here, target⟩ := tree.hung node dir below
    exact ⟨other, Finset.mem_insert_of_mem here, target⟩
  once := by
    intro first one second two dir same
    rcases Finset.mem_insert.mp one with rfl | first_old
    · exact absurd dir file
    · rcases Finset.mem_insert.mp two with rfl | second_old
      · rw [same] at dir
        exact absurd dir file
      · exact tree.once first first_old second second_old dir same
  climbs := tree.climbs

/-- A new directory. -/
def addDir (file : link.target ∉ tree.files) (new : link.target ∉ tree.dirs) :
    NameTree Node Name root where
  dirs := insert link.target tree.dirs
  files := tree.files
  parent := store tree.parent link.target link.holder
  links := insert link tree.links
  top := Finset.mem_insert_of_mem tree.top
  apart := by
    intro node dir
    rcases Finset.mem_insert.mp dir with rfl | inside
    · exact file
    · exact tree.apart node inside
  single := by
    intro first one second two
    exact free.single tree link first second (Finset.mem_insert.mp one)
      (Finset.mem_insert.mp two)
  held := by
    intro other member
    rcases Finset.mem_insert.mp member with rfl | inside
    · exact Finset.mem_insert_of_mem holder
    · exact Finset.mem_insert_of_mem (tree.held other inside)
  hangs := by
    intro other member
    rcases Finset.mem_insert.mp member with rfl | inside
    · refine Or.inr ⟨Finset.mem_insert_self _ _, ?_, store_same _ _ _⟩
      intro at_root
      rw [at_root] at new
      exact new tree.top
    · rcases tree.hangs other inside with old | ⟨dir, below, parent⟩
      · exact Or.inl old
      · refine Or.inr ⟨Finset.mem_insert_of_mem dir, below, ?_⟩
        rw [store_other]
        · exact parent
        · intro same
          rw [same] at dir
          exact new dir
  reached := by
    intro node inside
    obtain ⟨other, here, target⟩ := tree.reached node inside
    exact ⟨other, Finset.mem_insert_of_mem here, target⟩
  hung := by
    intro node dir below
    rcases Finset.mem_insert.mp dir with rfl | inside
    · exact ⟨link, Finset.mem_insert_self _ _, rfl⟩
    · obtain ⟨other, here, target⟩ := tree.hung node inside below
      exact ⟨other, Finset.mem_insert_of_mem here, target⟩
  once := by
    have fresh : ∀ other ∈ tree.links, other.target ≠ link.target := by
      intro other member same
      rcases tree.hangs other member with old | ⟨dir, _⟩
      · rw [same] at old
        exact file old
      · rw [same] at dir
        exact new dir
    intro first one second two dir same
    rcases Finset.mem_insert.mp one with first_new | first_old
    · rcases Finset.mem_insert.mp two with second_new | second_old
      · exact first_new.trans second_new.symm
      · rw [first_new] at same
        exact absurd same.symm (fresh second second_old)
    · rcases Finset.mem_insert.mp two with second_new | second_old
      · rw [second_new] at same
        exact absurd same (fresh first first_old)
      · rcases Finset.mem_insert.mp dir with target | old
        · exact absurd target (fresh first first_old)
        · exact tree.once first first_old second second_old old same
  climbs := by
    obtain ⟨up, high⟩ := tree.climbs link.holder holder
    have outside : ∀ node ∈ tree.dirs, ∀ path, Climbs root tree.parent node path →
        link.target ∉ path := by
      intro node dir path climbs member
      exact new (climbs.subset tree.dirs dir tree.parent_mem _ member)
    intro node dir
    rcases Finset.mem_insert.mp dir with rfl | inside
    · refine ⟨link.target :: up, high.grow _ _ _ ?_ (outside _ holder _ high)⟩
      intro at_root
      rw [at_root] at new
      exact new tree.top
    · obtain ⟨path, climbs⟩ := tree.climbs node inside
      exact ⟨path, climbs.store_away _ _ (outside node inside path climbs)⟩

end Insertion

section Removal

variable (tree : NameTree Node Name root) (link : Link Node Name) (member : link ∈ tree.links)

/-- A name of a file goes, and the file with its last name. -/
def removeFile (file : link.target ∈ tree.files) : NameTree Node Name root where
  dirs := tree.dirs
  files := tree.files.filter fun node => ∃ other ∈ tree.links.erase link, other.target = node
  parent := tree.parent
  links := tree.links.erase link
  top := tree.top
  apart := fun node dir inside => tree.apart node dir (Finset.mem_filter.mp inside).1
  single := fun first one second two =>
    tree.single first (Finset.mem_of_mem_erase one) second (Finset.mem_of_mem_erase two)
  held := fun other inside => tree.held other (Finset.mem_of_mem_erase inside)
  hangs := by
    intro other inside
    rcases tree.hangs other (Finset.mem_of_mem_erase inside) with old | dir
    · exact Or.inl (Finset.mem_filter.mpr ⟨old, other, inside, rfl⟩)
    · exact Or.inr dir
  reached := fun node inside => (Finset.mem_filter.mp inside).2
  hung := by
    intro node dir below
    obtain ⟨other, here, target⟩ := tree.hung node dir below
    refine ⟨other, Finset.mem_erase.mpr ⟨?_, here⟩, target⟩
    intro same
    rw [← same, target] at file
    exact tree.apart node dir file
  once := fun first one second two =>
    tree.once first (Finset.mem_of_mem_erase one) second (Finset.mem_of_mem_erase two)
  climbs := tree.climbs

include member

/-- An empty directory goes. -/
def removeDir (dir : link.target ∈ tree.dirs)
    (empty : ∀ other ∈ tree.links, other.holder ≠ link.target) : NameTree Node Name root where
  dirs := tree.dirs.erase link.target
  files := tree.files
  parent := tree.parent
  links := tree.links.erase link
  top := by
    rcases tree.hangs link member with file | ⟨_, below, _⟩
    · exact absurd file (tree.apart _ dir)
    · exact Finset.mem_erase.mpr ⟨below.symm, tree.top⟩
  apart := fun node inside => tree.apart node (Finset.mem_of_mem_erase inside)
  single := fun first one second two =>
    tree.single first (Finset.mem_of_mem_erase one) second (Finset.mem_of_mem_erase two)
  held := by
    intro other inside
    have old := Finset.mem_of_mem_erase inside
    exact Finset.mem_erase.mpr ⟨empty other old, tree.held other old⟩
  hangs := by
    intro other inside
    obtain ⟨different, old⟩ := Finset.mem_erase.mp inside
    rcases tree.hangs other old with file | ⟨below, rest⟩
    · exact Or.inl file
    · refine Or.inr ⟨Finset.mem_erase.mpr ⟨?_, below⟩, rest⟩
      intro same
      exact different (tree.once other old link member below same)
  reached := by
    intro node inside
    obtain ⟨other, here, target⟩ := tree.reached node inside
    refine ⟨other, Finset.mem_erase.mpr ⟨?_, here⟩, target⟩
    rintro rfl
    rw [target] at dir
    exact tree.apart node dir inside
  hung := by
    intro node inside below
    obtain ⟨different, old⟩ := Finset.mem_erase.mp inside
    obtain ⟨other, here, target⟩ := tree.hung node old below
    refine ⟨other, Finset.mem_erase.mpr ⟨?_, here⟩, target⟩
    rintro rfl
    exact different target.symm
  once := fun first one second two inside =>
    tree.once first (Finset.mem_of_mem_erase one) second (Finset.mem_of_mem_erase two)
      (Finset.mem_of_mem_erase inside)
  climbs := fun node inside => tree.climbs node (Finset.mem_of_mem_erase inside)

omit member in
theorem Free.removed {holder : Node} {name : Name} (free : tree.Free holder name)
    (file : link.target ∈ tree.files) : (tree.removeFile link file).Free holder name :=
  fun other here => free other (Finset.mem_of_mem_erase here)

/-- A file goes from one of its names to another. -/
def moveFile (file : link.target ∈ tree.files) (holder : Node) (name : Name)
    (inside : holder ∈ tree.dirs) (free : tree.Free holder name) : NameTree Node Name root :=
  (tree.removeFile link file).addFile ⟨holder, name, link.target⟩ inside
    (Free.removed tree link free file) fun dir => tree.apart _ dir file

/-- A directory goes to another place, which is not below it. -/
def moveDir (dir : link.target ∈ tree.dirs) (holder : Node) (name : Name)
    (inside : holder ∈ tree.dirs) (free : tree.Free holder name)
    (outside : ∀ path, Climbs root tree.parent holder path → link.target ∉ path) :
    NameTree Node Name root where
  dirs := tree.dirs
  files := tree.files
  parent := store tree.parent link.target holder
  links := insert ⟨holder, name, link.target⟩ (tree.links.erase link)
  top := tree.top
  apart := tree.apart
  single := by
    intro first one second two
    apply free.single tree ⟨holder, name, link.target⟩ first second
    · exact (Finset.mem_insert.mp one).imp_right Finset.mem_of_mem_erase
    · exact (Finset.mem_insert.mp two).imp_right Finset.mem_of_mem_erase
  held := by
    intro other here
    rcases Finset.mem_insert.mp here with rfl | old
    · exact inside
    · exact tree.held other (Finset.mem_of_mem_erase old)
  hangs := by
    have below : link.target ≠ root := by
      rcases tree.hangs link member with file | ⟨_, below, _⟩
      · exact absurd file (tree.apart _ dir)
      · exact below
    intro other here
    rcases Finset.mem_insert.mp here with rfl | old
    · exact Or.inr ⟨dir, below, store_same _ _ _⟩
    · obtain ⟨different, old⟩ := Finset.mem_erase.mp old
      rcases tree.hangs other old with file | ⟨directory, low, parent⟩
      · exact Or.inl file
      · refine Or.inr ⟨directory, low, ?_⟩
        rw [store_other]
        · exact parent
        · intro same
          exact different (tree.once other old link member directory same)
  reached := by
    intro node file
    obtain ⟨other, here, target⟩ := tree.reached node file
    refine ⟨other, Finset.mem_insert_of_mem (Finset.mem_erase.mpr ⟨?_, here⟩), target⟩
    rintro rfl
    rw [target] at dir
    exact tree.apart node dir file
  hung := by
    intro node directory below
    obtain ⟨other, here, target⟩ := tree.hung node directory below
    by_cases same : other = link
    · rw [same] at target
      exact ⟨_, Finset.mem_insert_self _ _, target⟩
    · exact ⟨other, Finset.mem_insert_of_mem (Finset.mem_erase.mpr ⟨same, here⟩), target⟩
  once := by
    have others : ∀ other ∈ tree.links.erase link, other.target ≠ link.target := by
      intro other here same
      obtain ⟨different, old⟩ := Finset.mem_erase.mp here
      exact different (tree.once link member other old dir same.symm).symm
    intro first one second two directory same
    rcases Finset.mem_insert.mp one with first_new | first_old
    · rcases Finset.mem_insert.mp two with second_new | second_old
      · exact first_new.trans second_new.symm
      · rw [first_new] at same
        exact absurd same.symm (others second second_old)
    · rcases Finset.mem_insert.mp two with second_new | second_old
      · rw [second_new] at same
        exact absurd same (others first first_old)
      · exact tree.once first (Finset.mem_of_mem_erase first_old) second
          (Finset.mem_of_mem_erase second_old) directory same
  climbs := by
    obtain ⟨up, high⟩ := tree.climbs holder inside
    intro node directory
    obtain ⟨path, climbs⟩ := tree.climbs node directory
    exact climbs.move link.target holder up high (outside up high)

end Removal

section Counting

theorem card_filter_insert {α : Type} [DecidableEq α] (items : Finset α) (item : α)
    (fresh : item ∉ items) (chosen : α → Prop) [DecidablePred chosen] :
    ((insert item items).filter chosen).card =
      (items.filter chosen).card + if chosen item then 1 else 0 := by
  rw [Finset.filter_insert]
  split
  · rw [Finset.card_insert_of_notMem]
    exact fun member => fresh (Finset.mem_filter.mp member).1
  · rfl

theorem card_filter_erase {α : Type} [DecidableEq α] (items : Finset α) (item : α)
    (member : item ∈ items) (chosen : α → Prop) [DecidablePred chosen] :
    (items.filter chosen).card =
      ((items.erase item).filter chosen).card + if chosen item then 1 else 0 := by
  have split := card_filter_insert (items.erase item) item (Finset.notMem_erase item items) chosen
  rw [Finset.insert_erase member] at split
  exact split

variable (tree : NameTree Node Name root) (link : Link Node Name)

theorem names_addFile (holder : link.holder ∈ tree.dirs)
    (free : tree.Free link.holder link.name) (file : link.target ∉ tree.dirs) (node : Node) :
    (tree.addFile link holder free file).names node =
      tree.names node + if link.target = node then 1 else 0 :=
  card_filter_insert tree.links link free.not_mem fun other => other.target = node

theorem subdirs_addFile (holder : link.holder ∈ tree.dirs)
    (free : tree.Free link.holder link.name) (file : link.target ∉ tree.dirs) (node : Node) :
    (tree.addFile link holder free file).subdirs node = tree.subdirs node := by
  have counted := card_filter_insert tree.links link free.not_mem
    fun other => other.holder = node ∧ other.target ∈ tree.dirs
  rw [if_neg (fun both => file both.2)] at counted
  exact counted

theorem names_addDir (holder : link.holder ∈ tree.dirs)
    (free : tree.Free link.holder link.name) (file : link.target ∉ tree.files)
    (new : link.target ∉ tree.dirs) (node : Node) (old : node ∈ tree.files) :
    (tree.addDir link holder free file new).names node = tree.names node := by
  have counted := card_filter_insert tree.links link free.not_mem fun other => other.target = node
  rw [if_neg (by
    intro same
    rw [same] at file
    exact file old)] at counted
  exact counted

omit [DecidableEq Name] in
theorem subdirs_congr (dirs : Finset Node) (links : Finset (Link Node Name)) (node : Node)
    (same : ∀ other ∈ links, other.target ∈ dirs ↔ other.target ∈ tree.dirs) :
    (links.filter fun other => other.holder = node ∧ other.target ∈ dirs).card =
      (links.filter fun other => other.holder = node ∧ other.target ∈ tree.dirs).card := by
  congr 1
  apply Finset.filter_congr
  intro other member
  rw [same other member]

theorem subdirs_addDir (holder : link.holder ∈ tree.dirs)
    (free : tree.Free link.holder link.name) (file : link.target ∉ tree.files)
    (new : link.target ∉ tree.dirs) (node : Node) :
    (tree.addDir link holder free file new).subdirs node =
      tree.subdirs node + if link.holder = node then 1 else 0 := by
  have counted := card_filter_insert tree.links link free.not_mem
    fun other => other.holder = node ∧ other.target ∈ insert link.target tree.dirs
  rw [subdirs_congr tree (insert link.target tree.dirs) tree.links node] at counted
  · simp only [Finset.mem_insert_self, and_true] at counted
    exact counted
  · intro other member
    rw [Finset.mem_insert]
    apply or_iff_right
    intro same
    rcases tree.hangs other member with old | ⟨dir, _⟩
    · rw [same] at old
      exact file old
    · rw [same] at dir
      exact new dir

theorem names_removeFile (member : link ∈ tree.links) (file : link.target ∈ tree.files)
    (node : Node) : tree.names node =
      (tree.removeFile link file).names node + if link.target = node then 1 else 0 :=
  card_filter_erase tree.links link member fun other => other.target = node

theorem subdirs_removeFile (member : link ∈ tree.links) (file : link.target ∈ tree.files)
    (node : Node) : (tree.removeFile link file).subdirs node = tree.subdirs node := by
  have counted := card_filter_erase tree.links link member
    fun other => other.holder = node ∧ other.target ∈ tree.dirs
  rw [if_neg (fun both => tree.apart _ both.2 file)] at counted
  exact counted.symm

/-- A file stays as long as it has another name. -/
theorem has_removeFile (member : link ∈ tree.links) (file : link.target ∈ tree.files)
    (node : Node) : (tree.removeFile link file).Has node ↔
      tree.Has node ∧ (node = link.target → (tree.removeFile link file).names node ≠ 0) := by
  have apart : link.target ∉ tree.dirs := fun dir => tree.apart _ dir file
  constructor
  · rintro (dir | inside)
    · refine ⟨Or.inl dir, ?_⟩
      rintro rfl
      exact absurd dir apart
    · refine ⟨Or.inr (Finset.mem_filter.mp inside).1, fun _ => ?_⟩
      exact Nat.pos_iff_ne_zero.mp ((tree.removeFile link file).names_pos node inside)
  · rintro ⟨dir | old, named⟩
    · exact Or.inl dir
    · right
      apply Finset.mem_filter.mpr
      refine ⟨old, ?_⟩
      by_cases same : node = link.target
      · obtain ⟨other, here⟩ := Finset.card_pos.mp (Nat.pos_of_ne_zero (named same))
        exact ⟨other, Finset.mem_filter.mp here⟩
      · obtain ⟨other, here, target⟩ := tree.reached node old
        refine ⟨other, Finset.mem_erase.mpr ⟨?_, here⟩, target⟩
        rintro rfl
        exact same target.symm

section FileMoving

variable (member : link ∈ tree.links) (file : link.target ∈ tree.files) (holder : Node)
  (name : Name) (inside : holder ∈ tree.dirs) (free : tree.Free holder name)

include member

theorem names_moveFile (node : Node) :
    (tree.moveFile link file holder name inside free).names node = tree.names node := by
  have added := names_addFile (tree.removeFile link file) ⟨holder, name, link.target⟩ inside
    (Free.removed tree link free file) (fun dir => tree.apart _ dir file) node
  exact added.trans (names_removeFile tree link member file node).symm

theorem subdirs_moveFile (node : Node) :
    (tree.moveFile link file holder name inside free).subdirs node = tree.subdirs node := by
  have added := subdirs_addFile (tree.removeFile link file) ⟨holder, name, link.target⟩ inside
    (Free.removed tree link free file) (fun dir => tree.apart _ dir file) node
  exact added.trans (subdirs_removeFile tree link member file node)

theorem has_moveFile (node : Node) :
    (tree.moveFile link file holder name inside free).Has node ↔ tree.Has node := by
  have removed := has_removeFile tree link member file node
  constructor
  · rintro (dir | here)
    · exact Or.inl dir
    · rcases Finset.mem_insert.mp here with same | old
      · rw [same]
        exact Or.inr file
      · exact (removed.mp (Or.inr old)).1
  · intro here
    by_cases same : node = link.target
    · right
      rw [same]
      exact Finset.mem_insert_self _ _
    · rcases removed.mpr ⟨here, fun equal => absurd equal same⟩ with dir | old
      · exact Or.inl dir
      · exact Or.inr (Finset.mem_insert_of_mem old)

end FileMoving

theorem has_removeDir (member : link ∈ tree.links) (dir : link.target ∈ tree.dirs)
    (empty : ∀ other ∈ tree.links, other.holder ≠ link.target) (node : Node) :
    (tree.removeDir link member dir empty).Has node ↔ node ≠ link.target ∧ tree.Has node := by
  constructor
  · rintro (inside | file)
    · obtain ⟨away, old⟩ := Finset.mem_erase.mp inside
      exact ⟨away, Or.inl old⟩
    · have old : node ∈ tree.files := file
      refine ⟨?_, Or.inr old⟩
      intro same
      rw [same] at old
      exact tree.apart _ dir old
  · rintro ⟨away, inside | file⟩
    · exact Or.inl (Finset.mem_erase.mpr ⟨away, inside⟩)
    · exact Or.inr file

theorem names_removeDir (member : link ∈ tree.links) (dir : link.target ∈ tree.dirs)
    (empty : ∀ other ∈ tree.links, other.holder ≠ link.target) (node : Node)
    (file : node ∈ tree.files) :
    (tree.removeDir link member dir empty).names node = tree.names node := by
  have counted := card_filter_erase tree.links link member fun other => other.target = node
  rw [if_neg (by
    intro same
    rw [same] at dir
    exact tree.apart node dir file)] at counted
  exact counted.symm

theorem subdirs_removeDir (member : link ∈ tree.links) (dir : link.target ∈ tree.dirs)
    (empty : ∀ other ∈ tree.links, other.holder ≠ link.target) (node : Node) :
    tree.subdirs node = (tree.removeDir link member dir empty).subdirs node +
      if link.holder = node then 1 else 0 := by
  have counted := card_filter_erase tree.links link member
    fun other => other.holder = node ∧ other.target ∈ tree.dirs
  rw [← subdirs_congr tree (tree.dirs.erase link.target) (tree.links.erase link) node] at counted
  · simp only [dir, and_true] at counted
    exact counted
  · intro other here
    obtain ⟨different, old⟩ := Finset.mem_erase.mp here
    rw [Finset.mem_erase]
    apply and_iff_right_of_imp
    intro below same
    exact different (tree.once other old link member below same)

section Moving

variable (member : link ∈ tree.links) (dir : link.target ∈ tree.dirs) (holder : Node)
  (name : Name) (inside : holder ∈ tree.dirs) (free : tree.Free holder name)
  (outside : ∀ path, Climbs root tree.parent holder path → link.target ∉ path)

omit [DecidableEq Node] [DecidableEq Name] in
include free in
theorem Free.new_link (target : Node) : (⟨holder, name, target⟩ : Link Node Name) ∉ tree.links :=
  fun here => free _ here rfl rfl

theorem names_moveDir (node : Node) (apart : link.target ≠ node) :
    (tree.moveDir link member dir holder name inside free outside).names node =
      tree.names node := by
  have removed := card_filter_erase tree.links link member fun other => other.target = node
  have added := card_filter_insert (tree.links.erase link) ⟨holder, name, link.target⟩
    (fun here => free.new_link tree holder name _ (Finset.mem_of_mem_erase here))
    fun other => other.target = node
  rw [if_neg apart] at removed added
  exact added.trans removed.symm

theorem subdirs_moveDir (node : Node) :
    (tree.moveDir link member dir holder name inside free outside).subdirs node +
      (if link.holder = node then 1 else 0) =
    tree.subdirs node + if holder = node then 1 else 0 := by
  have removed := card_filter_erase tree.links link member
    fun other => other.holder = node ∧ other.target ∈ tree.dirs
  have added := card_filter_insert (tree.links.erase link) ⟨holder, name, link.target⟩
    (fun here => free.new_link tree holder name _ (Finset.mem_of_mem_erase here))
    fun other => other.holder = node ∧ other.target ∈ tree.dirs
  simp only [dir, and_true] at removed added
  have before : tree.subdirs node = _ := removed
  have after : (tree.moveDir link member dir holder name inside free outside).subdirs node = _ :=
    added
  omega

end Moving

end Counting

end NameTree
