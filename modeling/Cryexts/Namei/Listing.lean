import Cryexts.Namei.Ops

set_option autoImplicit false

namespace Cryexts

namespace Namei

open Dir (DirEntry DirOp DirState DirSuper HoldsNames entries)
open Routine (Moves)

/-- What a directory shows: its dots, and the names it holds with the types of their inodes. -/
def Shows (mode : Nat → Nat) (dir parent : Nat) (held : List UInt8 → Nat → Prop)
    (name : List UInt8) (ino kind : Nat) : Prop :=
  (name = DOT ∧ ino = dir ∧ kind = Dir.DT_DIR) ∨
    (name = DOTDOT ∧ ino = parent ∧ kind = Dir.DT_DIR) ∨
    (held name ino ∧ kind = Dir.dtype (fileType (mode ino)))

/-- A directory without an index whose records are just what it is to show. -/
structure Listing (sb : DirSuper) (state : DirState) (mode : Nat → Nat) (dir parent : Nat)
    (held : List UInt8 → Nat → Prop) : Prop where
  names : ∃ names, HoldsNames sb state names ∧ ∀ name ino kind,
    names name = some (ino, kind) ↔ Shows mode dir parent held name ino kind
  dots : ∀ ino, ¬ held DOT ino ∧ ¬ held DOTDOT ino

section Reading

variable {sb : DirSuper} {state : DirState} {mode : Nat → Nat} {dir parent : Nat}
  {held : List UInt8 → Nat → Prop} (listing : Listing sb state mode dir parent held)

include listing

/-- The blocks and the index are all that counts. -/
theorem Listing.reads {after : DirState} (blocks : after.blocks = state.blocks)
    (index : after.index = state.index) : Listing sb after mode dir parent held := by
  obtain ⟨names, holds, shows⟩ := listing.names
  have same : entries after = entries state := by rw [entries, blocks, entries]
  refine ⟨⟨names, ⟨?_, ?_, ?_, ?_⟩, shows⟩, listing.dots⟩
  · rw [blocks]
    exact holds.wellformed
  · rw [index]
    exact holds.bare
  · rw [same]
    exact holds.distinct
  · rw [same]
    exact holds.listed

theorem Listing.congr {other : Nat → Nat} {holds : List UInt8 → Nat → Prop}
    (same : ∀ name ino, holds name ino ↔ held name ino)
    (modes : ∀ name ino, held name ino → other ino = mode ino) :
    Listing sb state other dir parent holds := by
  obtain ⟨names, kept, shows⟩ := listing.names
  refine ⟨⟨names, kept, ?_⟩, ?_⟩
  · intro name ino kind
    rw [shows, Shows, Shows]
    apply or_congr_right
    apply or_congr_right
    rw [same]
    apply and_congr_right
    intro here
    rw [modes name ino here]
  · intro ino
    rw [same, same]
    exact listing.dots ino

theorem Listing.single {name : List UInt8} {first second : Nat} (one : held name first)
    (two : held name second) : first = second := by
  obtain ⟨names, _, shows⟩ := listing.names
  have left := (shows name first _).mpr (Or.inr (Or.inr ⟨one, rfl⟩))
  have right := (shows name second _).mpr (Or.inr (Or.inr ⟨two, rfl⟩))
  rw [left] at right
  exact (Prod.mk.inj (Option.some.inj right)).1

/-- A live record is one of the entries. -/
theorem entry_listed (records : List DirEntry) (de : DirEntry) (logical position : Nat)
    (block : state.blocks[logical]? = some records) (found : records[position]? = some de)
    (live : de.live = true) :
    Shows mode dir parent held de.name de.inode (Dir.dtype de.fileType) := by
  obtain ⟨names, holds, shows⟩ := listing.names
  obtain ⟨front, rest, whole, _⟩ := Dir.flatten_at state.blocks records de _ _ block found
  rw [← shows, ← holds.listed]
  refine ⟨Dir.extent front, ?_⟩
  rw [entries, whole, List.append_assoc, Dir.spots_append, List.singleton_append, Dir.spots,
    if_pos live, Nat.zero_add]
  exact List.mem_append_right _ List.mem_cons_self

theorem Listing.shown (name : List UInt8) (ino : Nat) :
    (∃ pos kind, (pos, ⟨name, ino, kind⟩) ∈ entries state) ↔
      ∃ kind, Shows mode dir parent held name ino kind := by
  obtain ⟨names, holds, shows⟩ := listing.names
  constructor
  · rintro ⟨pos, kind, member⟩
    exact ⟨kind, (shows name ino kind).mp ((holds.listed name ino kind).mp ⟨pos, member⟩)⟩
  · rintro ⟨kind, here⟩
    obtain ⟨pos, member⟩ := (holds.listed name ino kind).mpr ((shows name ino kind).mpr here)
    exact ⟨pos, kind, member⟩

/-- The record that a successful lookup finds. -/
theorem Listing.found {name : List UInt8} {place : Nat × Nat} {after : DirState}
    (ran : Dir.findEntry sb name state = (.ok place, after)) :
    ∃ records de, state.blocks[place.1]? = some records ∧ records[place.2]? = some de ∧
      de.live = true ∧ de.name = name := by
  obtain ⟨names, holds, _⟩ := listing.names
  obtain ⟨records, block, chose⟩ := Dir.findEntry_ok sb name state after place.1 place.2
    holds.wellformed.valid ran
  obtain ⟨low, chosen, _⟩ := List.findIdx?_eq_some_iff_getElem.mp chose
  have member : records[place.2]? = some records[place.2] := List.getElem?_eq_getElem low
  simp only [DirEntry.named, Bool.and_eq_true, bne_iff_ne, beq_iff_eq] at chosen
  have titled := holds.wellformed.named records (List.mem_of_getElem? block) _
    (List.mem_of_getElem? member) chosen.1
  refine ⟨records, _, block, member, ?_, chosen.2⟩
  simp [DirEntry.live, chosen.1, titled]

/-- The parent that `cryexts_dir_parent_ino` returns is the one the directory shows. -/
theorem Listing.parentIno {ino : Nat} {before after : DirState}
    (ran : dirParentIno sb before = (.ok ino, after)) (blocks : before.blocks = state.blocks)
    (index : before.index = state.index) : ino = parent := by
  have listing := listing.reads blocks index
  obtain ⟨place, seen, found, ran⟩ := Routine.of_bind_ok _ _ _ _ _ ran
  rw [Routine.read_bind] at ran
  have reads := (Dir.findEntry_reads sb DOTDOT).of_run found
  obtain ⟨records, de, block, here, live, name⟩ := listing.found found
  have value : ino = de.inode := by
    have same := Except.ok.inj (Prod.mk.inj ran).1
    rw [record, reads.blocks, List.getD_eq_getElem?_getD, block] at same
    simp only [Option.getD_some, here, Option.map_some] at same
    exact same.symm
  have shown := entry_listed listing records de _ _ block here live
  rw [name, ← value] at shown
  rcases shown with ⟨dot, _⟩ | ⟨_, above, _⟩ | ⟨here, _⟩
  · exact absurd dot (by decide)
  · exact above
  · exact absurd here (listing.dots ino).2

/-- A directory taken for an empty one holds no name. -/
theorem Listing.vacant {seen after : DirState} (ran : dirEmpty sb seen = (.ok true, after))
    (blocks : seen.blocks = state.blocks) : ∀ name ino, ¬ held name ino := by
  intro name ino here
  obtain ⟨names, holds, shows⟩ := listing.names
  unfold dirEmpty at ran
  split at ran
  · rename_i searched
    rw [blocks] at searched
    have missed := Dir.searchBlocks_ok sb 0 _ 0 state.blocks seen _ none holds.wellformed.valid
      searched
    have others := Dir.lookupFrom_none _ 0 state.blocks missed.symm
    obtain ⟨pos, member⟩ := (holds.listed name ino _).mpr
      ((shows name ino _).mpr (Or.inr (Or.inr ⟨here, rfl⟩)))
    obtain ⟨de, inside, live, shown⟩ := Dir.spots_live 0 _ _ member
    obtain ⟨records, block, found⟩ := List.mem_flatten.mp inside
    have passed := others records block de found
    have title : de.name = name := congrArg Dir.Emitted.name shown
    simp only [DirEntry.live, Bool.and_eq_true, bne_iff_ne] at live
    have dot : name ≠ DOT := by
      rintro rfl
      exact (listing.dots ino).1 here
    have dots : name ≠ DOTDOT := by
      rintro rfl
      exact (listing.dots ino).2 here
    simp [DirEntry.keeps, live.1, title, dot, dots] at passed
  · cases ran

end Reading

section Reads

variable (sb : DirSuper)

theorem dirEmpty_reads : Moves Dir.OnlyReads (dirEmpty sb) := by
  intro s
  have moved := Dir.searchBlocks_reads sb 0 DirEntry.keeps 0 s.blocks s
  unfold dirEmpty
  split
  · rename_i ran
    rw [ran] at moved
    exact moved
  · rename_i ran
    rw [ran] at moved
    exact moved

theorem dirParentIno_reads : Moves Dir.OnlyReads (dirParentIno sb) := by
  unfold dirParentIno
  refine Moves.bind (Dir.findEntry_reads sb DOTDOT) fun place => ?_
  exact Moves.bind Moves.read fun s => Moves.pure _

end Reads

section Retargeting

variable (sb : DirSuper) (s : DirState) (logical position ino : Nat)

/-- The directory with another inode in one record. -/
def retargeted : DirState :=
  { s with blocks := s.blocks.modify logical fun records => records.modify position (retarget ino) }

theorem retarget_valid (low : ROOT_INO ≤ ino) (high : ino ≤ sb.maxInodes) (offset : Nat)
    (records : List DirEntry) (valid : Dir.ValidFrom sb.maxInodes offset records) :
    Dir.ValidFrom sb.maxInodes offset (records.modify position (retarget ino)) := by
  induction records generalizing offset position with
  | nil =>
      rw [List.modify_nil]
      exact valid
  | cons de rest ih =>
      cases position with
      | succ position =>
          rw [List.modify_succ_cons]
          exact ⟨valid.1, ih position _ valid.2⟩
      | zero =>
          rw [List.modify_zero_cons]
          obtain ⟨checked, tail⟩ := valid
          rw [Dir.validateDirent_iff] at checked
          obtain ⟨header, aligned, inside, capacity, length, _, kind⟩ := checked
          refine ⟨(Dir.validateDirent_iff _ _ _).mpr ?_, tail⟩
          exact ⟨header, aligned, inside, capacity, length, Or.inr ⟨low, high⟩, kind⟩

variable (records : List DirEntry) (de : DirEntry) (block : s.blocks[logical]? = some records)
  (found : records[position]? = some de)

include block found

theorem retargeted_wellformed (low : ROOT_INO ≤ ino) (high : ino ≤ sb.maxInodes)
    (titled : de.name ≠ []) (wellformed : Dir.Wellformed sb s.blocks) :
    Dir.Wellformed sb (retargeted s logical position ino).blocks := by
  obtain ⟨early, late, whole, rfl⟩ := ListAt.of_getElem? s.blocks logical records block
  have changed : (retargeted s early.length position ino).blocks =
      early ++ records.modify position (retarget ino) :: late := by
    rw [retargeted, whole, ListAt.modify_at]
  have before := wellformed.valid
  have named := wellformed.named
  have few := wellformed.few
  rw [whole] at before named few
  have here : records ∈ early ++ records :: late :=
    List.mem_append_right _ List.mem_cons_self
  have others : ∀ other, other ∈ early ++ records.modify position (retarget ino) :: late →
      other = records.modify position (retarget ino) ∨ other ∈ early ++ records :: late := by
    intro other member
    rcases List.mem_append.mp member with first | second
    · exact Or.inr (List.mem_append_left _ first)
    · rcases List.mem_cons.mp second with same | last
      · exact Or.inl same
      · exact Or.inr (List.mem_append_right _ (List.mem_cons_of_mem _ last))
  rw [changed]
  refine ⟨?_, ?_, ?_⟩
  · intro other member
    rcases others other member with rfl | old
    · exact retarget_valid sb position ino low high 0 records (before records here)
    · exact before other old
  · simpa using few
  · intro other member entry inside used
    rcases others other member with rfl | old
    · obtain ⟨front, rest, split, rfl⟩ := ListAt.of_getElem? records position de found
      rw [split, ListAt.modify_at] at inside
      have inner := named records here
      rw [split] at inner
      rcases List.mem_append.mp inside with first | second
      · exact inner entry (List.mem_append_left _ first) used
      · rcases List.mem_cons.mp second with rfl | last
        · exact titled
        · exact inner entry (List.mem_append_right _ (List.mem_cons_of_mem _ last)) used
    · exact named other old entry inside used

/-- The entries of a directory before and after a live record has got another inode. -/
theorem retargeted_entries (used : ino ≠ 0) (live : de.live = true) :
    ∃ front rest pos, entries s = front ++ (pos, de.emitted) :: rest ∧
      entries (retargeted s logical position ino) =
        front ++ (pos, (retarget ino de).emitted) :: rest := by
  obtain ⟨early, late, whole, rfl⟩ := ListAt.of_getElem? s.blocks logical records block
  obtain ⟨before, behind, split, rfl⟩ := ListAt.of_getElem? records position de found
  have alive : (retarget ino de).live = true := by
    simp only [DirEntry.live, Bool.and_eq_true, bne_iff_ne] at live ⊢
    exact ⟨used, live.2⟩
  have size : (retarget ino de).recLen = de.recLen := rfl
  have changed : (retargeted s early.length before.length ino).blocks.flatten =
      (early.flatten ++ before) ++ retarget ino de :: (behind ++ late.flatten) := by
    rw [retargeted, whole, ListAt.modify_at, split, ListAt.modify_at]
    simp
  have original : s.blocks.flatten =
      (early.flatten ++ before) ++ de :: (behind ++ late.flatten) := by
    rw [whole, split]
    simp
  refine ⟨Dir.spots 0 (early.flatten ++ before),
    Dir.spots (0 + Dir.extent (early.flatten ++ before) + de.recLen) (behind ++ late.flatten),
    0 + Dir.extent (early.flatten ++ before), ?_, ?_⟩
  · rw [entries, original, Dir.spots_append, Dir.spots, if_pos live]
  · rw [entries, changed, Dir.spots_append, Dir.spots, if_pos alive, size]

end Retargeting

section Changes

variable {sb : DirSuper} (plain : sb.dirIndex = false) {state : DirState} {mode : Nat → Nat}
  {dir parent : Nat} {held : List UInt8 → Nat → Prop}
  (listing : Listing sb state mode dir parent held) {after : DirState} (name : List UInt8)

include plain listing

/-- A successful addition was of a free name, which the directory then shows. -/
theorem Listing.add (ino : Nat) (named : name ≠ []) (low : ROOT_INO ≤ ino)
    (high : ino ≤ sb.maxInodes)
    (ran : Dir.addEntry sb name ino (fileType (mode ino)) state = (.ok (), after)) :
    (∀ other, ¬ held name other) ∧
      Listing sb after mode dir parent
        fun other target => (other = name ∧ target = ino) ∨ held other target := by
  obtain ⟨names, holds, shows⟩ := listing.names
  have known : fileType (mode ino) = Dir.FT_UNKNOWN ∨ fileType (mode ino) = Dir.FT_REG_FILE ∨
      fileType (mode ino) = Dir.FT_DIR ∨ fileType (mode ino) = Dir.FT_SYMLINK := by
    unfold fileType
    split
    · simp
    · split
      · simp
      · split
        · simp
        · simp
  obtain ⟨free, kept, _, _⟩ := Dir.addEntry_holds sb plain name state after names holds ino _
    (fun short => ⟨named, short, low, high, known⟩) ran
  have unshown : ∀ target kind, ¬ Shows mode dir parent held name target kind := by
    intro target kind here
    rw [← shows, free] at here
    cases here
  have away : name ≠ DOT ∧ name ≠ DOTDOT := by
    constructor
    · intro dot
      exact unshown _ _ (Or.inl ⟨dot, rfl, rfl⟩)
    · intro dots
      exact unshown _ _ (Or.inr (Or.inl ⟨dots, rfl, rfl⟩))
  refine ⟨fun other here => unshown other _ (Or.inr (Or.inr ⟨here, rfl⟩)),
    ⟨_, kept, ?_⟩, ?_⟩
  · intro other target kind
    by_cases same : other = name
    · rw [same, Function.update_self]
      have below : Shows mode dir parent
          (fun other target => (other = name ∧ target = ino) ∨ held other target) name target kind ↔
          target = ino ∧ kind = Dir.dtype (fileType (mode target)) := by
        simp only [Shows, away.1, away.2, false_and, false_or, true_and]
        apply and_congr_left
        intro _
        apply or_iff_left
        intro here
        exact unshown target _ (Or.inr (Or.inr ⟨here, rfl⟩))
      rw [below]
      constructor
      · intro binding
        have both := Prod.mk.inj (Option.some.inj binding)
        rw [← both.1, ← both.2]
        exact ⟨rfl, rfl⟩
      · rintro ⟨rfl, rfl⟩
        rfl
    · rw [Function.update_of_ne same, shows]
      simp only [Shows, same, false_and, false_or]
  · intro target
    have dots := listing.dots target
    constructor
    · rintro (⟨same, _⟩ | here)
      · exact away.1 same.symm
      · exact dots.1 here
    · rintro (⟨same, _⟩ | here)
      · exact away.2 same.symm
      · exact dots.2 here

/-- A successful deletion takes one name away. -/
theorem Listing.delete (dot : name ≠ DOT) (dots : name ≠ DOTDOT)
    (ran : Dir.deleteEntry sb name state = (.ok (), after)) :
    Listing sb after mode dir parent fun other target => other ≠ name ∧ held other target := by
  obtain ⟨names, holds, shows⟩ := listing.names
  obtain ⟨kept, _, _⟩ := Dir.deleteEntry_holds sb plain name state after names holds ran
  refine ⟨⟨_, kept, ?_⟩, fun target => ⟨fun here => (listing.dots target).1 here.2,
    fun here => (listing.dots target).2 here.2⟩⟩
  intro other target kind
  by_cases same : other = name
  · rw [same, Function.update_self]
    simp [Shows, dot, dots]
  · rw [Function.update_of_ne same, shows]
    simp only [Shows, ne_eq, same, not_false_iff, true_and]

omit plain in
/-- A successful update of the parent shows the new parent under the old name. -/
theorem Listing.reparent (ino : Nat) (low : ROOT_INO ≤ ino) (high : ino ≤ sb.maxInodes)
    (ran : retargetEntry sb ino state = (.ok (), after)) :
    Listing sb after mode dir ino held := by
  obtain ⟨place, seen, found, ran⟩ := Routine.of_bind_ok _ _ _ _ _ ran
  rw [Routine.modify_bind] at ran
  have reads := (Dir.findEntry_reads sb DOTDOT).of_run found
  have wrote := Dir.buffer_reads.of_run ran
  have kept := (listing.reads reads.blocks reads.index)
  obtain ⟨records, de, block, here, live, name⟩ := listing.found found
  rw [← reads.blocks] at block
  have used : ino ≠ 0 := Nat.pos_iff_ne_zero.mp low
  obtain ⟨names, holds, shows⟩ := kept.names
  obtain ⟨front, rest, pos, before, now⟩ := retargeted_entries seen place.1 place.2 ino records de
    block here used live
  have titled : de.name ≠ [] := by
    rw [name]
    decide
  refine (?_ : Listing sb (retargeted seen place.1 place.2 ino) mode dir ino held).reads
    wrote.blocks wrote.index
  have old : names DOTDOT = some (parent, Dir.DT_DIR) :=
    (shows _ _ _).mpr (Or.inr (Or.inl ⟨rfl, rfl, rfl⟩))
  have emitted : de.emitted = ⟨DOTDOT, parent, Dir.DT_DIR⟩ := by
    have bound := (holds.listed de.name de.inode (Dir.dtype de.fileType)).mp ⟨pos, by
      rw [before]
      exact List.mem_append_right _ List.mem_cons_self⟩
    rw [name, old] at bound
    have both := Prod.mk.inj (Option.some.inj bound)
    rw [Dir.DirEntry.emitted, name, ← both.1, ← both.2]
  have again : (retarget ino de).emitted = ⟨DOTDOT, ino, Dir.DT_DIR⟩ := by
    rw [Dir.DirEntry.emitted, Dir.Emitted.mk.injEq]
    exact ⟨name, rfl, congrArg Dir.Emitted.dtype emitted⟩
  rw [emitted] at before
  rw [again] at now
  have distinct := holds.distinct
  rw [before, Cursor.Distinct, List.map_append, List.map_cons] at distinct
  refine ⟨⟨Function.update names DOTDOT (some (ino, Dir.DT_DIR)), ⟨?_, holds.bare, ?_, ?_⟩, ?_⟩,
    listing.dots⟩
  · exact retargeted_wellformed sb seen _ _ ino records de block here low high titled
      holds.wellformed
  · rw [now, Cursor.Distinct, List.map_append, List.map_cons]
    exact distinct
  · intro other target kind
    have others : ∀ spot ∈ front ++ rest, spot.2.name ≠ DOTDOT := by
      intro spot member equal
      have apart := (List.nodup_middle.mp distinct).notMem
      rw [← List.map_append] at apart
      exact apart (List.mem_map.mpr ⟨spot, member, equal⟩)
    by_cases same : other = DOTDOT
    · rw [same, Function.update_self]
      constructor
      · rintro ⟨there, member⟩
        rw [now] at member
        rcases List.mem_append.mp member with first | second
        · exact absurd rfl (others _ (List.mem_append_left _ first))
        · rcases List.mem_cons.mp second with equal | last
          · have item := (Prod.mk.inj equal).2
            rw [Dir.Emitted.mk.injEq] at item
            rw [item.2.1, item.2.2]
          · exact absurd rfl (others _ (List.mem_append_right _ last))
      · intro binding
        have both := Prod.mk.inj (Option.some.inj binding)
        rw [← both.1, ← both.2, now]
        exact ⟨pos, List.mem_append_right _ List.mem_cons_self⟩
    · rw [Function.update_of_ne same, ← holds.listed]
      apply exists_congr
      intro there
      rw [now, before]
      simp only [List.mem_append, List.mem_cons, Prod.mk.injEq, Dir.Emitted.mk.injEq, same,
        false_and, and_false, false_or]
  · intro other target kind
    by_cases same : other = DOTDOT
    · rw [same, Function.update_self]
      have dot : DOTDOT ≠ DOT := by decide
      simp only [Shows, dot, (listing.dots target).2, false_and, false_or, or_false, true_and]
      constructor
      · intro binding
        have both := Prod.mk.inj (Option.some.inj binding)
        exact ⟨both.1.symm, both.2.symm⟩
      · rintro ⟨rfl, rfl⟩
        rfl
    · rw [Function.update_of_ne same, shows]
      simp only [Shows, same, false_and, false_or]

omit listing in
/-- A directory that `cryexts_init_dir_block` has just made shows its dots only. -/
theorem fresh_listing (ino parent : Nat) (low : ROOT_INO ≤ ino) (high : ino ≤ sb.maxInodes)
    (parent_low : ROOT_INO ≤ parent) (parent_high : parent ≤ sb.maxInodes)
    (ran : initDirBlock sb ino parent state = (.ok (), after)) (bare : state.index = none) :
    Listing sb after mode ino parent fun _ _ => False := by
  obtain ⟨_, seen, wrote, ran⟩ := Routine.of_bind_ok _ _ _ _ _ ran
  rw [Routine.modify_bind, Dir.dirIndexRebuild, if_pos plain] at ran
  have reads := Dir.buffer_reads.of_run wrote
  have made := (Dir.created_sound sb ino parent low high parent_low parent_high).holds
  have final := (Prod.mk.inj ran).2
  refine (?_ : Listing sb (Dir.created ino parent).dir mode ino parent fun _ _ => False).reads
    ?_ ?_
  · refine ⟨⟨_, made, ?_⟩, fun _ => ⟨id, id⟩⟩
    intro name target kind
    change Function.update (Function.update (fun _ => none) DOT (some (ino, Dir.DT_DIR))) DOTDOT
      (some (parent, Dir.DT_DIR)) name = some (target, kind) ↔ _
    rw [Shows]
    by_cases second : name = DOTDOT
    · have other : DOTDOT ≠ DOT := by decide
      rw [second, Function.update_self]
      simp [other, eq_comm]
    · rw [Function.update_of_ne second]
      by_cases first : name = DOT
      · rw [first, Function.update_self]
        have other : DOT ≠ DOTDOT := by decide
        simp [other, eq_comm]
      · rw [Function.update_of_ne first]
        simp [first, second]
  · rw [← final]
    rfl
  · rw [← final]
    exact reads.index.trans bare

end Changes

end Namei

end Cryexts
