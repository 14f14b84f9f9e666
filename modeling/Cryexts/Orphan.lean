import Cryexts.Lib.Chain
import Cryexts.World
import Mathlib.Data.List.Perm.Subperm
import Mathlib.Data.List.TakeWhile

set_option autoImplicit false

namespace Cryexts

open Linked (Chain)
open WriteLog (store store_same store_other)

namespace Orphan

/-- What the orphan list consists of: the head in the superblock, the `next_orphan` member of
every slot of the inode table, and the one of every inode in the inode cache that has its
`cryexts_inode_info`. The buffers of the `dirty` blocks are in memory; `faults` says which of the
next reads of another block fail. -/
structure OrphanTable where
  orphanFeature : Bool
  inodesCount : Nat
  blockGroups : Bool
  inodesPerGroup : Nat
  groupCount : Nat
  inodeTableStart : Nat → Nat
  orphanHead : Nat
  nextOrphan : Nat → Nat
  cached : Nat → Option Nat
  dirty : Nat → Bool
  faults : List Bool

abbrev Op (α : Type) : Type := Routine OrphanTable Errno α

namespace OrphanTable

variable (s : OrphanTable)

def InRange (ino : Nat) : Prop := ROOT_INO ≤ ino ∧ ino ≤ s.inodesCount

instance (ino : Nat) : Decidable (s.InRange ino) := inferInstanceAs (Decidable (_ ∧ _))

/-- The inode has a slot in the inode table. -/
def Located (ino : Nat) : Prop :=
  s.InRange ino ∧ (s.blockGroups = true → (ino - 1) / s.inodesPerGroup < s.groupCount)

instance (ino : Nat) : Decidable (s.Located ino) := inferInstanceAs (Decidable (_ ∧ _))

/-- The block that holds the slot of an inode. -/
def slotBlock (ino : Nat) : Nat :=
  if s.blockGroups then
    s.inodeTableStart ((ino - 1) / s.inodesPerGroup) +
      (ino - 1) % s.inodesPerGroup / (BLOCK_SIZE / INODE_SIZE)
  else s.inodeTableStart 0 + (ino - 1) / (BLOCK_SIZE / INODE_SIZE)

/-- `next_orphan` stored in a slot, and `cryexts_orphan_update_cached_inode`. -/
def linked (ino next : Nat) : OrphanTable :=
  { s with
    nextOrphan := store s.nextOrphan ino next
    cached := store s.cached ino ((s.cached ino).map fun _ => next)
    dirty := store s.dirty (s.slotBlock ino) true }

end OrphanTable

/-- `cryexts_get_disk_inode`, whose callers answer `-EIO` when it has no inode for them. -/
def getDiskInode (ino : Nat) : Op Unit := do
  let s ← Routine.read
  if ¬ s.Located ino then Routine.fail .eio
  -- a dirty buffer is found in memory
  else if s.dirty (s.slotBlock ino) then return ()
  else do
    Routine.modify fun s => { s with faults := s.faults.tail }
    if s.faults.head? = some true then Routine.fail .eio else return ()

/-- The walk of `cryexts_orphan_set`, with `guard` turns left; it tells whether it met the
inode. -/
def orphanFind (ino : Nat) : (guard walk : Nat) → Op Bool
  | 0, _ => return false
  | guard + 1, walk =>
    if walk = 0 then return false
    else if walk = ino then return true
    else do
      getDiskInode walk
      let s ← Routine.read
      orphanFind ino guard (s.nextOrphan walk)

/-- `cryexts_orphan_set`. -/
def orphanSet (ino : Nat) : Op Unit := do
  let s ← Routine.read
  if !s.orphanFeature then return ()
  else if ¬ s.InRange ino then Routine.fail .einval
  else do
    let oldHead := s.orphanHead
    if ← orphanFind ino s.inodesCount oldHead then return ()
    else do
      getDiskInode ino
      Routine.modify fun s => s.linked ino oldHead
      Routine.modify fun s => { s with orphanHead := ino }

/-- What `cryexts_orphan_clear` does once it has found the inode behind `prev`, or at the head
when `prev` is zero. -/
def orphanUnlink (ino prev next : Nat) : Op Unit := do
  Routine.modify fun s => s.linked ino 0
  if prev = 0 then Routine.modify fun s => { s with orphanHead := next }
  else do
    getDiskInode prev
    Routine.modify fun s => s.linked prev next

/-- The walk of `cryexts_orphan_clear`, with `guard` turns left. -/
def orphanRemove (ino : Nat) : (guard prev cur : Nat) → Op Unit
  | 0, _, _ => return ()
  | guard + 1, prev, cur =>
    if cur = 0 then return ()
    else do
      getDiskInode cur
      let s ← Routine.read
      let next := s.nextOrphan cur
      if cur = ino then orphanUnlink ino prev next
      else orphanRemove ino guard cur next

/-- `cryexts_orphan_clear`. -/
def orphanClear (ino : Nat) : Op Unit := do
  let s ← Routine.read
  if !s.orphanFeature then return ()
  else if ¬ s.InRange ino then Routine.fail .einval
  else orphanRemove ino s.inodesCount 0 s.orphanHead

/-- What `cryexts_write_inode_to_disk` does to the link in a slot. It clears the reserved area
first; `extents` is the outcome of the writes of extent blocks that follow, and a failing one
leaves the link cleared in the buffer. -/
def writeInodeToDisk (ino : Nat) (extents : Except Errno Unit) : Op Unit := do
  getDiskInode ino
  Routine.modify fun s => { s with nextOrphan := store s.nextOrphan ino 0 }
  match extents with
  | .error reason => Routine.fail reason
  | .ok () => Routine.modify fun s =>
    { s with
      nextOrphan := store s.nextOrphan ino ((s.cached ino).getD 0)
      dirty := store s.dirty (s.slotBlock ino) true }

/-- The superblock and the inode table hold the list, no inode twice, and every cached inode
has the link its slot has. -/
structure Holds (s : OrphanTable) (chain : List Nat) : Prop where
  links : Chain 0 s.nextOrphan s.orphanHead chain
  once : chain.Nodup
  agree : ∀ ino next, s.cached ino = some next → next = s.nextOrphan ino

/-- Head, links and cached inodes are as they were. -/
structure SameList (s after : OrphanTable) : Prop where
  head : after.orphanHead = s.orphanHead
  links : after.nextOrphan = s.nextOrphan
  cached : after.cached = s.cached

/-- The list is there, and a write of a cached inode that succeeds leaves it alone. -/
structure Settled (s : OrphanTable) (chain : List Nat) : Prop extends Holds s chain where
  rewrite : ∀ ino next extents, s.cached ino = some next →
    (writeInodeToDisk ino extents s).1 = .ok () → SameList s (writeInodeToDisk ino extents s).2

/-- How many of these reads the device has to answer. -/
def OrphanTable.misses (s : OrphanTable) (inos : List Nat) : Nat :=
  inos.countP fun ino => !s.dirty (s.slotBlock ino)

/-- The next reads of the inode table, one for each inode, all succeed. -/
def Readable (s : OrphanTable) (inos : List Nat) : Prop :=
  (∀ ino ∈ inos, s.Located ino) ∧ true ∉ s.faults.take (s.misses inos)

/-- The slots of `before`, `prev` and `ino` have been read and the one of `ino` written: now that
of `prev` can be read again. -/
def ReadsAgain (s : OrphanTable) (before : List Nat) (prev ino : Nat) : Prop :=
  s.slotBlock prev = s.slotBlock ino ∨ s.dirty (s.slotBlock prev) = true ∨
    s.faults[s.misses (before ++ [prev, ino])]? ≠ some true

/-- The inodes whose slots `cryexts_orphan_set` reads. -/
def setReads (ino : Nat) (chain : List Nat) : List Nat :=
  chain.takeWhile (· ≠ ino) ++ if ino ∈ chain then [] else [ino]

/-- The inodes whose slots `cryexts_orphan_clear` reads on its walk. -/
def clearReads (ino : Nat) (chain : List Nat) : List Nat :=
  chain.takeWhile (· ≠ ino) ++ if ino ∈ chain then [ino] else []

/-- `cryexts_orphan_set` succeeds when it can read the slots it needs and puts the inode at the
head, unless it is in the list already; an error changes nothing. -/
structure SetRight (ino : Nat) (chain : List Nat) (s : OrphanTable) : Prop where
  succeeds : Readable s (setReads ino chain) → (orphanSet ino s).1 = .ok ()
  present : (orphanSet ino s).1 = .ok () → ino ∈ chain →
    SameList s (orphanSet ino s).2 ∧ Settled (orphanSet ino s).2 chain
  absent : (orphanSet ino s).1 = .ok () → ino ∉ chain → Settled (orphanSet ino s).2 (ino :: chain)
  failed : ∀ reason, (orphanSet ino s).1 = .error reason → Settled (orphanSet ino s).2 chain

/-- `cryexts_orphan_clear` succeeds when it can read the slots it needs and takes the inode out;
an error changes nothing. -/
structure ClearRight (ino : Nat) (chain : List Nat) (s : OrphanTable) : Prop where
  succeeds : Readable s (clearReads ino chain) →
    (∀ before prev rest, chain = before ++ prev :: ino :: rest → ReadsAgain s before prev ino) →
      (orphanClear ino s).1 = .ok ()
  removed : (orphanClear ino s).1 = .ok () → Settled (orphanClear ino s).2 (chain.erase ino)
  failed : ∀ reason, (orphanClear ino s).1 = .error reason → Settled (orphanClear ino s).2 chain

/-- Where the inode stands between two others and the walk reads its slot, the slot of the one
before it can then be read again. -/
def Rereads (ino : Nat) (chain : List Nat) (s : OrphanTable) : Prop :=
  ∀ before prev next rest, chain = before ++ prev :: ino :: next :: rest →
    Readable s (before ++ [prev, ino]) → ReadsAgain s before prev ino

/-- Both copies of a link are written. -/
theorem linked_agree {s : OrphanTable} (ino next : Nat)
    (agree : ∀ other link, s.cached other = some link → link = s.nextOrphan other) :
    ∀ other link, (s.linked ino next).cached other = some link →
      link = (s.linked ino next).nextOrphan other := by
  intro other link held
  simp only [OrphanTable.linked] at held ⊢
  by_cases here : other = ino
  · subst here
    rw [store_same] at held ⊢
    cases there : s.cached other with
    | none => simp [there] at held
    | some old =>
        simp only [there, Option.map_some, Option.some.injEq] at held
        exact held.symm
  · rw [store_other _ _ _ _ here] at held ⊢
    exact agree other link held

/-- The state behind reads that have all succeeded. -/
def OrphanTable.afterReads (s : OrphanTable) (inos : List Nat) : OrphanTable :=
  { s with faults := s.faults.drop (s.misses inos) }

section Reads

variable (s : OrphanTable) (ino : Nat)

theorem misses_append (first second : List Nat) :
    s.misses (first ++ second) = s.misses first + s.misses second :=
  List.countP_append

@[simp] theorem readable_nil : Readable s [] := by
  simp [Readable, OrphanTable.misses]

theorem readable_append (first second : List Nat) :
    Readable s (first ++ second) ↔ Readable s first ∧ Readable (s.afterReads first) second := by
  have located : ∀ node, (s.afterReads first).Located node ↔ s.Located node := fun _ => Iff.rfl
  have misses : (s.afterReads first).misses second = s.misses second := rfl
  simp only [Readable, located, misses, misses_append, List.take_add, List.mem_append, not_or]
  show _ ↔ _ ∧ _ ∧ true ∉ (s.faults.drop (s.misses first)).take (s.misses second)
  constructor
  · intro ⟨inside, early, late⟩
    exact ⟨⟨fun node here => inside node (Or.inl here), early⟩,
      fun node here => inside node (Or.inr here), late⟩
  · intro ⟨⟨inside, early⟩, behind, late⟩
    exact ⟨fun node here => here.elim (inside node) (behind node), early, late⟩

theorem afterReads_append (first second : List Nat) :
    s.afterReads (first ++ second) = (s.afterReads first).afterReads second := by
  show ({ s with faults := _ } : OrphanTable) =
    { s with faults := (s.faults.drop (s.misses first)).drop (s.misses second) }
  rw [List.drop_drop, ← misses_append]

theorem readable_single : Readable s [ino] ↔
    s.Located ino ∧ (s.dirty (s.slotBlock ino) = true ∨ s.faults.head? ≠ some true) := by
  cases held : s.dirty (s.slotBlock ino) with
  | true => simp [Readable, OrphanTable.misses, held]
  | false =>
      cases faults : s.faults with
      | nil => simp [Readable, OrphanTable.misses, held, faults]
      | cons fault rest => simp [Readable, OrphanTable.misses, held, faults]

theorem getDiskInode_ok (readable : Readable s [ino]) :
    getDiskInode ino s = (.ok (), s.afterReads [ino]) := by
  obtain ⟨located, calm⟩ := (readable_single s ino).mp readable
  rw [getDiskInode, Routine.read_bind, if_neg (not_not_intro located)]
  cases held : s.dirty (s.slotBlock ino) with
  | true =>
      rw [if_pos rfl, Routine.pure_run, OrphanTable.afterReads]
      simp [OrphanTable.misses, held]
  | false =>
      have quiet : s.faults.head? ≠ some true := by
        simpa [held] using calm
      rw [if_neg Bool.false_ne_true, Routine.modify_bind, if_neg quiet, Routine.pure_run,
        OrphanTable.afterReads]
      simp [OrphanTable.misses, held]

theorem getDiskInode_error (unreadable : ¬ Readable s [ino]) :
    ∃ faults, getDiskInode ino s = (.error .eio, { s with faults := faults }) := by
  rw [readable_single] at unreadable
  rw [getDiskInode, Routine.read_bind]
  by_cases located : s.Located ino
  · have clean : ¬ s.dirty (s.slotBlock ino) = true := by tauto
    have fault : s.faults.head? = some true := by tauto
    rw [if_neg (not_not_intro located), if_neg clean, Routine.modify_bind, if_pos fault,
      Routine.fail_run]
    exact ⟨_, rfl⟩
  · rw [if_pos located, Routine.fail_run]
    exact ⟨s.faults, rfl⟩

end Reads

/-- A later write of any cached inode leaves every link as it is. -/
theorem writeInodeToDisk_keeps {s : OrphanTable} {chain : List Nat} (holds : Holds s chain)
    (ino next : Nat) (extents : Except Errno Unit) (cached : s.cached ino = some next)
    (written : (writeInodeToDisk ino extents s).1 = .ok ()) :
    SameList s (writeInodeToDisk ino extents s).2 := by
  have same : store (store s.nextOrphan ino 0) ino next = s.nextOrphan := by
    rw [WriteLog.store_store]
    apply WriteLog.store_eq_self
    exact (holds.agree ino next cached).symm
  by_cases readable : Readable s [ino]
  · unfold writeInodeToDisk at written ⊢
    rw [Routine.bind_ok _ _ _ _ _ (getDiskInode_ok s ino readable), Routine.modify_bind]
      at written ⊢
    cases extents with
    | error reason => cases written
    | ok done =>
        refine ⟨rfl, ?_, rfl⟩
        show store (store s.nextOrphan ino 0) ino ((s.cached ino).getD 0) = s.nextOrphan
        rw [cached]
        exact same
  · obtain ⟨faults, failed⟩ := getDiskInode_error s ino readable
    unfold writeInodeToDisk at written
    rw [Routine.bind_error _ _ _ _ _ failed] at written
    cases written

theorem Holds.settled {s : OrphanTable} {chain : List Nat} (holds : Holds s chain) :
    Settled s chain :=
  ⟨holds, fun ino next extents => writeInodeToDisk_keeps holds ino next extents⟩

/-- Reads leave the list as it is. -/
theorem Holds.unread {s : OrphanTable} {chain : List Nat} (holds : Holds s chain)
    (faults : List Bool) : Settled { s with faults := faults } chain :=
  Holds.settled ⟨holds.links, holds.once, holds.agree⟩

/-- A walk for an inode that has gone through `visited` and has `guard` turns left. -/
structure Walking (s : OrphanTable) (ino : Nat) (visited : List Nat) (guard : Nat) : Prop where
  target : s.InRange ino
  once : visited.Nodup
  range : ∀ node ∈ visited, s.InRange node
  fresh : ino ∉ visited
  turns : guard + visited.length = s.inodesCount

section Walks

variable {s : OrphanTable} {ino : Nat} {visited : List Nat} {guard : Nat}

/-- There are no more inodes than turns, so the guard never ends a walk. -/
theorem Walking.guard_pos (walking : Walking s ino visited guard) : 0 < guard := by
  have distinct : (ino :: visited).Nodup := List.nodup_cons.mpr ⟨walking.fresh, walking.once⟩
  have inside : ino :: visited ⊆ List.range' 1 s.inodesCount := by
    intro node member
    have range : s.InRange node := by
      rcases List.mem_cons.mp member with rfl | later
      · exact walking.target
      · exact walking.range node later
    rw [List.mem_range'_1]
    exact ⟨range.1, by have high := range.2; omega⟩
  have short := (List.subperm_of_subset distinct inside).length_le
  have turns := walking.turns
  rw [List.length_cons, List.length_range'] at short
  omega

theorem Walking.step {guard : Nat} (walking : Walking s ino visited (guard + 1)) (node : Nat)
    (readable : Readable s [node]) (new : node ∉ visited) (other : node ≠ ino) :
    Walking (s.afterReads [node]) ino (visited ++ [node]) guard := by
  have located := ((readable_single s node).mp readable).1
  have turns := walking.turns
  constructor
  · exact walking.target
  · rw [List.nodup_append]
    refine ⟨walking.once, List.nodup_singleton _, ?_⟩
    intro early member late single same
    rw [List.mem_singleton.mp single] at same
    exact new (same ▸ member)
  · intro earlier member
    rcases List.mem_append.mp member with old | single
    · exact walking.range earlier old
    · rw [List.mem_singleton.mp single]
      exact located.1
  · rw [List.mem_append, List.mem_singleton, not_or]
    exact ⟨walking.fresh, fun same => other same.symm⟩
  · rw [List.length_append, List.length_singleton]
    show guard + (visited.length + 1) = s.inodesCount
    omega

/-- The walk of `cryexts_orphan_set` finds out whether the inode is in the list, or a read of it
fails. -/
theorem orphanFind_run (rest : List Nat) (walk : Nat) (links : Chain 0 s.nextOrphan walk rest)
    (once : (visited ++ rest).Nodup) (walking : Walking s ino visited guard) :
    (Readable s (rest.takeWhile (· ≠ ino)) ∧ orphanFind ino guard walk s =
      (.ok (decide (ino ∈ rest)), s.afterReads (rest.takeWhile (· ≠ ino)))) ∨
    (¬ Readable s (rest.takeWhile (· ≠ ino)) ∧ ∃ faults, orphanFind ino guard walk s =
      (.error .eio, { s with faults := faults })) := by
  induction rest generalizing s visited guard walk with
  | nil =>
      left
      obtain ⟨left, rfl⟩ := Nat.exists_eq_succ_of_ne_zero (Nat.ne_of_gt walking.guard_pos)
      have ended : walk = 0 := links
      rw [orphanFind, if_pos ended]
      exact ⟨readable_nil s, rfl⟩
  | cons node rest ih =>
      obtain ⟨left, rfl⟩ := Nat.exists_eq_succ_of_ne_zero (Nat.ne_of_gt walking.guard_pos)
      obtain ⟨rfl, named, later⟩ := links
      have new : walk ∉ visited := by
        intro member
        exact (List.nodup_append.mp once).2.2 walk member walk List.mem_cons_self rfl
      rw [orphanFind, if_neg named]
      by_cases here : walk = ino
      · left
        have stops : (walk :: rest).takeWhile (· ≠ ino) = [] := by simp [here]
        rw [stops, if_pos here]
        exact ⟨readable_nil s, by simp [here, OrphanTable.afterReads, OrphanTable.misses]⟩
      · have goes : (walk :: rest).takeWhile (· ≠ ino) =
            [walk] ++ rest.takeWhile (· ≠ ino) := by simp [here]
        rw [if_neg here, goes, readable_append, afterReads_append]
        by_cases readable : Readable s [walk]
        · rw [Routine.bind_ok _ _ _ _ _ (getDiskInode_ok s walk readable), Routine.read_bind]
          have found : decide (ino ∈ walk :: rest) = decide (ino ∈ rest) := by
            simp [Ne.symm here]
          have ahead : ((visited ++ [walk]) ++ rest).Nodup := by
            rw [List.append_assoc]
            exact once
          have run := @ih (s.afterReads [walk]) (visited ++ [walk]) left (s.nextOrphan walk)
            later ahead (walking.step walk readable new here)
          rw [found]
          rcases run with ⟨calm, done⟩ | ⟨refused, failed⟩
          · exact Or.inl ⟨⟨readable, calm⟩, done⟩
          · exact Or.inr ⟨fun both => refused both.2, failed⟩
        · obtain ⟨faults, failed⟩ := getDiskInode_error s walk readable
          exact Or.inr ⟨fun both => readable both.1, faults,
            Routine.bind_error _ _ _ _ _ failed⟩

/-- The walk of `cryexts_orphan_clear` past inodes that are not the one it looks for. -/
theorem orphanRemove_past (before rest : List Nat) (prev cur : Nat)
    (links : Chain 0 s.nextOrphan cur (before ++ rest))
    (once : (visited ++ (before ++ rest)).Nodup) (absent : ino ∉ before)
    (walking : Walking s ino visited guard) :
    (Readable s before ∧ ∃ left now, Walking (s.afterReads before) ino (visited ++ before) left ∧
      Chain 0 s.nextOrphan now rest ∧ orphanRemove ino guard prev cur s =
        orphanRemove ino left (before.getLast?.getD prev) now (s.afterReads before)) ∨
    (¬ Readable s before ∧ ∃ faults, orphanRemove ino guard prev cur s =
      (.error .eio, { s with faults := faults })) := by
  induction before generalizing s visited guard prev cur with
  | nil =>
      left
      refine ⟨readable_nil s, guard, cur, ?_, links, rfl⟩
      rw [List.append_nil]
      exact walking
  | cons node more ih =>
      obtain ⟨left, rfl⟩ := Nat.exists_eq_succ_of_ne_zero (Nat.ne_of_gt walking.guard_pos)
      obtain ⟨rfl, named, later⟩ := links
      have apart : ino ≠ cur ∧ ino ∉ more := by simpa using absent
      have new : cur ∉ visited := by
        intro member
        exact (List.nodup_append.mp once).2.2 cur member cur List.mem_cons_self rfl
      rw [orphanRemove, if_neg named, show cur :: more = [cur] ++ more from rfl, readable_append,
        afterReads_append]
      by_cases readable : Readable s [cur]
      · have ahead : ((visited ++ [cur]) ++ (more ++ rest)).Nodup := by
          rw [List.append_assoc]
          exact once
        rw [Routine.bind_ok _ _ _ _ _ (getDiskInode_ok s cur readable), Routine.read_bind]
        simp only [Ne.symm apart.1, ↓reduceIte]
        have run := @ih (s.afterReads [cur]) (visited ++ [cur]) left cur (s.nextOrphan cur) later
          ahead apart.2 (walking.step cur readable new (Ne.symm apart.1))
        have last : ([cur] ++ more).getLast?.getD prev = more.getLast?.getD cur := by
          cases more with
          | nil => rfl
          | cons first behind => simp [List.getLast?_cons]
        rw [last]
        rcases run with ⟨calm, guard, now, walked, links, done⟩ | ⟨refused, failed⟩
        · rw [List.append_assoc] at walked
          exact Or.inl ⟨⟨readable, calm⟩, guard, now, walked, links, done⟩
        · exact Or.inr ⟨fun both => refused both.2, failed⟩
      · obtain ⟨faults, failed⟩ := getDiskInode_error s cur readable
        exact Or.inr ⟨fun both => readable both.1, faults, Routine.bind_error _ _ _ _ _ failed⟩

/-- The walk of `cryexts_orphan_clear` for an inode that is not in the list. -/
theorem orphanRemove_absent (chain : List Nat) (prev cur : Nat)
    (links : Chain 0 s.nextOrphan cur chain) (once : (visited ++ chain).Nodup)
    (absent : ino ∉ chain) (walking : Walking s ino visited guard) :
    (∃ faults, orphanRemove ino guard prev cur s = (.ok (), { s with faults := faults })) ∨
    (¬ Readable s chain ∧ ∃ faults, orphanRemove ino guard prev cur s =
      (.error .eio, { s with faults := faults })) := by
  rcases orphanRemove_past chain [] prev cur (by rw [List.append_nil]; exact links)
    (by rw [List.append_nil]; exact once) absent walking with
    ⟨_, guard, now, walked, ended, done⟩ | refused
  · left
    obtain ⟨left, rfl⟩ := Nat.exists_eq_succ_of_ne_zero (Nat.ne_of_gt walked.guard_pos)
    have nothing : now = 0 := ended
    rw [done, orphanRemove, if_pos nothing, Routine.pure_run]
    exact ⟨_, rfl⟩
  · exact Or.inr refused

/-- The walk of `cryexts_orphan_clear` up to an inode of the list. -/
theorem orphanRemove_found (before tail : List Nat) (prev cur : Nat)
    (links : Chain 0 s.nextOrphan cur (before ++ ino :: tail))
    (once : (visited ++ (before ++ ino :: tail)).Nodup) (walking : Walking s ino visited guard) :
    (Readable s (before ++ [ino]) ∧ orphanRemove ino guard prev cur s =
      orphanUnlink ino (before.getLast?.getD prev) (s.nextOrphan ino)
        (s.afterReads (before ++ [ino]))) ∨
    (¬ Readable s (before ++ [ino]) ∧ ∃ faults, orphanRemove ino guard prev cur s =
      (.error .eio, { s with faults := faults })) := by
  have absent : ino ∉ before := fun member =>
    (List.nodup_append.mp (List.nodup_append.mp once).2.1).2.2 ino member ino List.mem_cons_self rfl
  rw [readable_append, afterReads_append]
  rcases orphanRemove_past before (ino :: tail) prev cur links once absent walking with
    ⟨calm, guard, now, walked, ⟨rfl, named, _⟩, done⟩ | ⟨refused, failed⟩
  · obtain ⟨left, rfl⟩ := Nat.exists_eq_succ_of_ne_zero (Nat.ne_of_gt walked.guard_pos)
    rw [done, orphanRemove, if_neg named]
    by_cases readable : Readable (s.afterReads before) [now]
    · left
      refine ⟨⟨calm, readable⟩, ?_⟩
      rw [Routine.bind_ok _ _ _ _ _ (getDiskInode_ok _ now readable), Routine.read_bind]
      simp only [↓reduceIte]
      rfl
    · right
      obtain ⟨faults, failed⟩ := getDiskInode_error _ now readable
      exact ⟨fun both => readable both.2, faults, Routine.bind_error _ _ _ _ _ failed⟩
  · exact Or.inr ⟨fun both => refused both.1, failed⟩

end Walks

/-- An inode stands in one place of a list without repetition. -/
theorem only_place {ino : Nat} {before tail other rest : List Nat} {prev prev' : Nat}
    (once : (before ++ prev :: ino :: tail).Nodup)
    (same : before ++ prev :: ino :: tail = other ++ prev' :: ino :: rest) :
    before = other ∧ prev = prev' ∧ tail = rest := by
  have joined : ∀ (front back : List Nat) (node : Nat),
      front ++ node :: ino :: back = (front ++ [node]) ++ ino :: back := by simp
  rw [joined] at once
  rw [joined, joined] at same
  have apart := List.nodup_append.mp once
  have early : ino ∉ before ++ [prev] :=
    fun member => apart.2.2 ino member ino List.mem_cons_self rfl
  have late : ino ∉ tail := (List.nodup_cons.mp apart.2.1).1
  have parts := (List.append_cons_inj_of_notMem early late).mp same
  have ends := List.append_inj' parts.1 rfl
  exact ⟨ends.1, List.singleton_inj.mp ends.2, parts.2.2⟩

theorem takeWhile_place {ino : Nat} {before tail : List Nat} (absent : ino ∉ before) :
    (before ++ ino :: tail).takeWhile (· ≠ ino) = before := by
  rw [List.takeWhile_append_of_pos]
  · simp
  · intro node member
    simp only [ne_eq, decide_eq_true_eq]
    rintro rfl
    exact absent member

section Calls

variable {s : OrphanTable} {ino : Nat} {chain : List Nat} (enabled : s.orphanFeature = true)
  (target : s.InRange ino) (holds : Holds s chain)

theorem Walking.start {s : OrphanTable} {ino : Nat} (target : s.InRange ino) :
    Walking s ino [] s.inodesCount :=
  ⟨target, List.nodup_nil, by simp, by simp, rfl⟩

include holds in
/-- A call that a read stops changes nothing. -/
theorem SetRight.stopped {faults : List Bool} {reason : Errno}
    (run : orphanSet ino s = (.error reason, { s with faults := faults }))
    (unreadable : ¬ Readable s (setReads ino chain)) : SetRight ino chain s := by
  constructor
  · exact fun readable => absurd readable unreadable
  · intro done _
    rw [run] at done
    cases done
  · intro done _
    rw [run] at done
    cases done
  · intro _ _
    rw [run]
    exact holds.unread faults

include holds in
theorem ClearRight.stopped {faults : List Bool} {reason : Errno}
    (run : orphanClear ino s = (.error reason, { s with faults := faults }))
    (unreadable : ¬ Readable s (clearReads ino chain)) : ClearRight ino chain s := by
  constructor
  · exact fun readable => absurd readable unreadable
  · intro done
    rw [run] at done
    cases done
  · intro _ _
    rw [run]
    exact holds.unread faults

theorem ClearRight.done (done : (orphanClear ino s).1 = .ok ())
    (after : Holds (orphanClear ino s).2 (chain.erase ino)) : ClearRight ino chain s := by
  constructor
  · exact fun _ _ => done
  · exact fun _ => after.settled
  · intro reason refused
    rw [done] at refused
    cases refused

include enabled target holds

theorem orphanSet_right : SetRight ino chain s := by
  have positive : ino ≠ 0 := by
    have low : 1 ≤ ino := target.1
    omega
  have opened : orphanSet ino s = (do
      if ← orphanFind ino s.inodesCount s.orphanHead then return ()
      else do
        getDiskInode ino
        Routine.modify fun now => now.linked ino s.orphanHead
        Routine.modify fun now => { now with orphanHead := ino } : Op Unit) s := by
    simp [orphanSet, enabled, target]
  rcases orphanFind_run chain s.orphanHead holds.links (show ([] ++ chain).Nodup from holds.once)
    (Walking.start target) with ⟨readable, found⟩ | ⟨unreadable, faults, failed⟩
  · rw [Routine.bind_ok _ _ _ _ _ found] at opened
    by_cases member : ino ∈ chain
    · simp only [member, decide_true, ↓reduceIte, Routine.pure_run] at opened
      constructor
      · intro _
        rw [opened]
      · intro _ _
        rw [opened]
        exact ⟨⟨rfl, rfl, rfl⟩, holds.unread _⟩
      · intro _ absent
        exact absurd member absent
      · intro reason refused
        rw [opened] at refused
        cases refused
    · simp only [member, decide_false, Bool.false_eq_true, ↓reduceIte] at opened
      by_cases last : Readable (s.afterReads (chain.takeWhile (· ≠ ino))) [ino]
      · rw [Routine.bind_ok _ _ _ _ _ (getDiskInode_ok _ ino last), Routine.modify_bind,
          Routine.modify_run] at opened
        constructor
        · intro _
          rw [opened]
        · intro _ present
          exact absurd present member
        · intro _ _
          rw [opened]
          apply Holds.settled
          constructor
          · exact Chain.push holds.links positive member
          · exact List.nodup_cons.mpr ⟨member, holds.once⟩
          · exact linked_agree ino s.orphanHead holds.agree
        · intro reason refused
          rw [opened] at refused
          cases refused
      · obtain ⟨faults, failed⟩ := getDiskInode_error _ ino last
        apply SetRight.stopped holds (opened.trans (Routine.bind_error _ _ _ _ _ failed))
        rw [setReads, if_neg member, readable_append]
        exact fun both => last both.2
  · apply SetRight.stopped holds (opened.trans (Routine.bind_error _ _ _ _ _ failed))
    rw [setReads, readable_append]
    exact fun both => unreadable both.1

omit holds in
theorem orphanClear_opened :
    orphanClear ino s = orphanRemove ino s.inodesCount 0 s.orphanHead s := by
  simp [orphanClear, enabled, target]

/-- The inode at the head: the list goes on behind it. -/
theorem orphanClear_head (tail : List Nat) (shape : chain = ino :: tail) :
    ClearRight ino chain s := by
  subst shape
  have opened := orphanClear_opened enabled target
  rcases orphanRemove_found [] tail 0 s.orphanHead holds.links
    (show ([] ++ (ino :: tail)).Nodup from holds.once) (Walking.start target) with
    ⟨_, run⟩ | ⟨unreadable, faults, failed⟩
  · rw [run] at opened
    simp only [orphanUnlink, List.getLast?_nil, Option.getD_none, Routine.modify_bind, ↓reduceIte,
      Routine.modify_run] at opened
    apply ClearRight.done
    · rw [opened]
    · rw [opened, List.erase_cons_head]
      constructor
      · have popped := Chain.pop holds.links holds.once
        exact popped
      · exact (List.nodup_cons.mp holds.once).2
      · exact linked_agree ino 0 holds.agree
  · apply ClearRight.stopped holds (opened.trans failed)
    rw [clearReads, if_pos List.mem_cons_self]
    simpa using unreadable

/-- The inode behind another: it is taken out, or the second read of the one before it fails and
the list ends with the inode. -/
theorem orphanClear_behind (before tail : List Nat) (prev : Nat)
    (shape : chain = before ++ prev :: ino :: tail) :
    (¬ Readable s (before ++ [prev, ino]) ∧
      ∃ faults, orphanClear ino s = (.error .eio, { s with faults := faults })) ∨
    (Readable s (before ++ [prev, ino]) ∧ ReadsAgain s before prev ino ∧
      (orphanClear ino s).1 = .ok () ∧ Holds (orphanClear ino s).2 (before ++ prev :: tail)) ∨
    (Readable s (before ++ [prev, ino]) ∧ ¬ ReadsAgain s before prev ino ∧
      (orphanClear ino s).1 = .error .eio ∧ Holds (orphanClear ino s).2 (before ++ [prev, ino])) := by
  subst shape
  have joined : before ++ prev :: ino :: tail = (before ++ [prev]) ++ ino :: tail := by simp
  have slots : before ++ [prev, ino] = (before ++ [prev]) ++ [ino] := by simp
  have opened := orphanClear_opened enabled target
  have links := holds.links
  have once := holds.once
  rw [joined] at links once
  rw [slots]
  rcases orphanRemove_found (before ++ [prev]) tail 0 s.orphanHead links
    (show ([] ++ ((before ++ [prev]) ++ ino :: tail)).Nodup from once) (Walking.start target) with
    ⟨readable, run⟩ | ⟨unreadable, faults, failed⟩
  · right
    have named : prev ≠ 0 := holds.links.ne_nil prev (by simp)
    rw [run] at opened
    simp only [orphanUnlink, List.getLast?_append, List.getLast?_singleton, Option.some_or,
      Option.getD_some, Routine.modify_bind, named, ↓reduceIte] at opened
    have located : s.Located prev := readable.1 prev (by simp)
    have unlinked := linked_agree ino 0 holds.agree
    have again : Readable ((s.afterReads ((before ++ [prev]) ++ [ino])).linked ino 0) [prev] ↔
        ReadsAgain s before prev ino := by
      have calm : (s.faults.drop (s.misses (before ++ [prev, ino]))).head? =
          s.faults[s.misses (before ++ [prev, ino])]? := List.head?_drop
      rw [readable_single, ReadsAgain, ← calm, slots]
      show s.Located prev ∧ (store s.dirty (s.slotBlock ino) true (s.slotBlock prev) = true ∨
        (s.faults.drop (s.misses ((before ++ [prev]) ++ [ino]))).head? ≠ some true) ↔ _
      by_cases shared : s.slotBlock prev = s.slotBlock ino
      · simp [shared, located]
      · rw [store_other _ _ _ _ shared]
        simp [shared, located]
    by_cases calm : ReadsAgain s before prev ino
    · left
      rw [Routine.bind_ok _ _ _ _ _ (getDiskInode_ok _ prev (again.mpr calm)),
        Routine.modify_run] at opened
      refine ⟨readable, calm, by rw [opened], ?_⟩
      rw [opened]
      constructor
      · exact Chain.unlink holds.links holds.once
      · apply List.Nodup.sublist _ holds.once
        exact List.Sublist.append_left
          (List.cons_sublist_cons.mpr (List.sublist_cons_self ino tail)) _
      · exact linked_agree prev (s.nextOrphan ino) unlinked
    · right
      obtain ⟨faults, failed⟩ := getDiskInode_error _ prev (mt again.mp calm)
      rw [Routine.bind_error _ _ _ _ _ failed] at opened
      refine ⟨readable, calm, by rw [opened], ?_⟩
      rw [opened]
      constructor
      · exact Chain.cut links once
      · apply List.Nodup.sublist _ once
        exact List.Sublist.append_left (List.cons_sublist_cons.mpr (List.nil_sublist tail)) _
      · exact unlinked
  · left
    exact ⟨unreadable, faults, opened.trans failed⟩

/-- Clearing is right just when no second read fails that the rest of the list hangs on. -/
theorem orphanClear_right_iff : ClearRight ino chain s ↔ Rereads ino chain s := by
  by_cases member : ino ∈ chain
  · obtain ⟨early, tail, shape, fresh⟩ := List.eq_append_cons_of_mem member
    rcases List.eq_nil_or_concat' early with rfl | ⟨before, prev, rfl⟩
    · refine iff_of_true (orphanClear_head enabled target holds tail shape) ?_
      intro before prev next rest other
      have once := holds.once
      rw [other] at once
      cases before with
      | nil =>
          have same := shape.symm.trans other
          simp only [List.nil_append, List.cons.injEq] at same
          simp [same.1] at once
      | cons first more =>
          have same := shape.symm.trans other
          simp only [List.nil_append, List.cons_append, List.cons.injEq] at same
          simp [same.1] at once
    · have placed : chain = before ++ prev :: ino :: tail := by rw [shape]; simp
      have once := holds.once
      rw [placed] at once
      have erased : chain.erase ino = before ++ prev :: tail := by
        rw [shape, List.erase_append_right _ fresh, List.erase_cons_head]
        simp
      have walked : clearReads ino chain = before ++ [prev, ino] := by
        rw [clearReads, if_pos member, shape, takeWhile_place fresh]
        simp
      rcases orphanClear_behind enabled target holds before tail prev placed with
        ⟨unreadable, faults, failed⟩ | ⟨_, calm, done, after⟩ | ⟨readable, fault, failed, after⟩
      · apply iff_of_true
        · apply ClearRight.stopped holds failed
          rw [walked]
          exact unreadable
        · intro other prev' next rest shape' readable
          obtain ⟨rfl, rfl, _⟩ := only_place once (placed.symm.trans shape')
          exact absurd readable unreadable
      · apply iff_of_true
        · apply ClearRight.done done
          rw [erased]
          exact after
        · intro other prev' next rest shape' _
          obtain ⟨rfl, rfl, _⟩ := only_place once (placed.symm.trans shape')
          exact calm
      · cases tail with
        | nil =>
            apply iff_of_true
            · constructor
              · intro _ again
                exact absurd (again before prev [] placed) fault
              · intro done
                rw [failed] at done
                cases done
              · intro _ _
                rw [placed]
                exact after.settled
            · intro other prev' next rest shape' _
              have ends := (only_place once (placed.symm.trans shape')).2.2
              cases ends
        | cons next rest =>
            apply iff_of_false
            · intro right
              have whole := right.failed .eio failed
              have cut := Chain.unique whole.links after.links
              rw [placed] at cut
              simp at cut
            · intro rereads
              exact fault (rereads before prev next rest placed readable)
  · have opened := orphanClear_opened enabled target
    have unmoved : Rereads ino chain s := by
      intro before prev next rest shape
      exact absurd (by rw [shape]; simp) member
    apply iff_of_true _ unmoved
    rcases orphanRemove_absent chain 0 s.orphanHead holds.links
      (show ([] ++ chain).Nodup from holds.once) member (Walking.start target) with
      ⟨faults, done⟩ | ⟨unreadable, faults, failed⟩
    · rw [done] at opened
      apply ClearRight.done
      · rw [opened]
      · rw [opened, List.erase_of_not_mem member]
        exact ⟨holds.links, holds.once, holds.agree⟩
    · apply ClearRight.stopped holds (opened.trans failed)
      rw [clearReads, if_neg member, List.append_nil]
      intro readable
      have all : chain.takeWhile (· ≠ ino) = chain := by
        apply List.takeWhile_eq_self_iff.mpr
        intro node here
        simp only [ne_eq, decide_eq_true_eq]
        rintro rfl
        exact member here
      rw [all] at readable
      exact unreadable readable

end Calls

/-- Both calls are right, for an inode and a list of a superblock with an orphan list, just when
clearing does not have to give up between its two writes. -/
theorem orphanOps_right_iff (s : OrphanTable) (ino : Nat) (chain : List Nat)
    (target : s.InRange ino) (holds : Holds s chain) :
    SetRight ino chain s ∧ ClearRight ino chain s ↔
      s.orphanFeature = true ∧ Rereads ino chain s := by
  cases enabled : s.orphanFeature with
  | true =>
      have set := orphanSet_right enabled target holds
      have clear := orphanClear_right_iff enabled target holds
      simp [set, clear]
  | false =>
      have unset : orphanSet ino s = (.ok (), s) := by simp [orphanSet, enabled]
      have uncleared : orphanClear ino s = (.ok (), s) := by simp [orphanClear, enabled]
      simp only [Bool.false_eq_true, false_and, iff_false, not_and]
      intro set clear
      by_cases member : ino ∈ chain
      · have removed := clear.removed (by rw [uncleared])
        rw [uncleared] at removed
        have same := holds.links.unique removed.links
        have gone : ino ∉ chain.erase ino := holds.once.not_mem_erase
        rw [← same] at gone
        exact gone member
      · have added := set.absent (by rw [unset]) member
        rw [unset] at added
        have same := holds.links.unique added.links
        exact absurd (congrArg List.length same) (by simp)

/-- Inodes 20, 2 and 1 on the list, in this order and all in the inode cache. The slot of
inode 20 lies in the second block of the inode table. -/
def threeOrphans (faults : List Bool) : OrphanTable where
  orphanFeature := true
  inodesCount := 112
  blockGroups := false
  inodesPerGroup := 112
  groupCount := 1
  inodeTableStart := fun _ => 3
  orphanHead := 20
  nextOrphan := fun ino => if ino = 20 then 2 else if ino = 2 then 1 else 0
  cached := fun ino => some (if ino = 20 then 2 else if ino = 2 then 1 else 0)
  dirty := fun _ => false
  faults := faults

theorem threeOrphans_holds (faults : List Bool) : Holds (threeOrphans faults) [20, 2, 1] := by
  constructor
  · simp [threeOrphans, Chain]
  · decide
  · intro ino next held
    exact (Option.some.inj held).symm

/-- Inode 5 is put on the list, inode 2 taken out. -/
theorem orphanOps_right_three :
    (SetRight 5 [20, 2, 1] (threeOrphans []) ∧ ClearRight 5 [20, 2, 1] (threeOrphans [])) ∧
      (SetRight 2 [20, 2, 1] (threeOrphans []) ∧ ClearRight 2 [20, 2, 1] (threeOrphans [])) ∧
      (orphanSet 5 (threeOrphans [])).2.orphanHead = 5 ∧
      (orphanClear 2 (threeOrphans [])).2.nextOrphan 20 = 1 := by
  refine ⟨?_, ?_, rfl, rfl⟩
  · exact (orphanOps_right_iff (threeOrphans []) 5 [20, 2, 1] (by decide)
      (threeOrphans_holds [])).mpr ⟨rfl, fun _ _ _ _ _ _ => Or.inr (Or.inr (by simp [threeOrphans]))⟩
  · exact (orphanOps_right_iff (threeOrphans []) 2 [20, 2, 1] (by decide)
      (threeOrphans_holds [])).mpr ⟨rfl, fun _ _ _ _ _ _ => Or.inr (Or.inr (by simp [threeOrphans]))⟩

/-- Inode 2 is to be cleared. The buffer with the slot of inode 20 has left the memory, and its
block cannot be read a second time: the call answers `-EIO`, and inode 1 has fallen off the
list. -/
theorem orphanClear_drops :
    Holds (threeOrphans [false, false, true]) [20, 2, 1] ∧
      (orphanClear 2 (threeOrphans [false, false, true])).1 = .error .eio ∧
      Holds (orphanClear 2 (threeOrphans [false, false, true])).2 [20, 2] ∧
      ¬ (SetRight 2 [20, 2, 1] (threeOrphans [false, false, true]) ∧
        ClearRight 2 [20, 2, 1] (threeOrphans [false, false, true])) := by
  have holds := threeOrphans_holds [false, false, true]
  have failed : (orphanClear 2 (threeOrphans [false, false, true])).1 = .error .eio := rfl
  have after : Holds (orphanClear 2 (threeOrphans [false, false, true])).2 [20, 2] := by
    constructor
    · exact ⟨rfl, by decide, rfl, by decide, rfl⟩
    · decide
    · exact linked_agree 2 0 holds.agree
  have lost : ¬ ClearRight 2 [20, 2, 1] (threeOrphans [false, false, true]) := by
    intro right
    have same := (right.failed .eio failed).links.unique after.links
    exact absurd same (by decide)
  exact ⟨holds, failed, after, fun both => lost both.2⟩

end Orphan

end Cryexts
