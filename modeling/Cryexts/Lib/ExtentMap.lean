import Mathlib.Data.List.Perm.Basic
import Cryexts.Lib.ListAt

set_option autoImplicit false

/-- `length` blocks of a file from `logicalStart` on, kept in as many blocks of a store from
`physicalStart` on. -/
structure Extent where
  logicalStart : Nat
  physicalStart : Nat
  length : Nat
  flags : Nat
  deriving DecidableEq, Repr

namespace Extent

def stop (e : Extent) : Nat := e.logicalStart + e.length

def Covers (e : Extent) (logical : Nat) : Prop := e.logicalStart ≤ logical ∧ logical < e.stop

instance (e : Extent) (logical : Nat) : Decidable (e.Covers logical) :=
  inferInstanceAs (Decidable (_ ∧ _))

def blockAt (e : Extent) (logical : Nat) : Nat := e.physicalStart + (logical - e.logicalStart)

/-- The store's blocks that extents occupy. -/
def stored (extents : List Extent) : List Nat :=
  extents.flatMap fun e => List.range' e.physicalStart e.length

/-- The first extent that covers a block decides where it is. -/
def lookup : List Extent → Nat → Option Nat
  | [], _ => none
  | e :: rest, logical => if e.Covers logical then some (e.blockAt logical) else lookup rest logical

/-- Extents from `low` on, none empty, each one starting at or behind the end of the last. -/
def Ordered : Nat → List Extent → Prop
  | _, [] => True
  | low, e :: rest => low ≤ e.logicalStart ∧ 0 < e.length ∧ Ordered e.stop rest

/-- Where a list of extents ends. -/
def reach : Nat → List Extent → Nat
  | low, [] => low
  | _, e :: rest => reach e.stop rest

@[simp] theorem stored_nil : stored [] = [] := rfl

@[simp] theorem stored_cons (e : Extent) (rest : List Extent) :
    stored (e :: rest) = List.range' e.physicalStart e.length ++ stored rest := rfl

@[simp] theorem stored_append (first second : List Extent) :
    stored (first ++ second) = stored first ++ stored second := by
  simp only [stored, List.flatMap_append]

@[simp] theorem lookup_nil (logical : Nat) : lookup [] logical = none := rfl

@[simp] theorem reach_nil (low : Nat) : reach low [] = low := rfl

@[simp] theorem reach_cons (low : Nat) (e : Extent) (rest : List Extent) :
    reach low (e :: rest) = reach e.stop rest := rfl

@[simp] theorem ordered_nil (low : Nat) : Ordered low [] := trivial

@[simp] theorem ordered_cons (low : Nat) (e : Extent) (rest : List Extent) :
    Ordered low (e :: rest) ↔ low ≤ e.logicalStart ∧ 0 < e.length ∧ Ordered e.stop rest := Iff.rfl

theorem lookup_cons (e : Extent) (rest : List Extent) (logical : Nat) :
    lookup (e :: rest) logical =
      if e.Covers logical then some (e.blockAt logical) else lookup rest logical := rfl

theorem lookup_append (first second : List Extent) (logical : Nat) :
    lookup (first ++ second) logical = (lookup first logical).or (lookup second logical) := by
  induction first with
  | nil => simp
  | cons e rest ih =>
      rw [List.cons_append, lookup_cons, lookup_cons, ih]
      split
      · simp
      · rfl

theorem ordered_append (low : Nat) (first second : List Extent) :
    Ordered low (first ++ second) ↔ Ordered low first ∧ Ordered (reach low first) second := by
  induction first generalizing low with
  | nil => simp
  | cons e rest ih => simp only [List.cons_append, ordered_cons, reach_cons, ih, and_assoc]

theorem reach_append (low : Nat) (first second : List Extent) :
    reach low (first ++ second) = reach (reach low first) second := by
  induction first generalizing low with
  | nil => rfl
  | cons e rest ih => exact ih e.stop

theorem Ordered.mono {low high : Nat} {extents : List Extent} (ordered : Ordered high extents)
    (below : low ≤ high) : Ordered low extents := by
  cases extents with
  | nil => trivial
  | cons e rest => exact ⟨Nat.le_trans below ordered.1, ordered.2⟩

section Ordering

variable {low : Nat} {extents : List Extent} (ordered : Ordered low extents)

include ordered

theorem Ordered.le_reach : low ≤ reach low extents := by
  induction extents generalizing low with
  | nil => exact Nat.le_refl low
  | cons e rest ih =>
      obtain ⟨start, _, tail⟩ := ordered
      have later := ih tail
      simp only [stop, reach_cons] at later ⊢
      omega

theorem Ordered.bounds (e : Extent) (member : e ∈ extents) :
    low ≤ e.logicalStart ∧ 0 < e.length ∧ e.stop ≤ reach low extents := by
  induction extents generalizing low with
  | nil => cases member
  | cons first rest ih =>
      obtain ⟨start, size, tail⟩ := ordered
      rcases List.mem_cons.mp member with rfl | later
      · exact ⟨start, size, tail.le_reach⟩
      · have here := ih tail later
        simp only [stop, reach_cons] at here ⊢
        omega

/-- Ordered extents are sorted and pairwise apart. -/
theorem Ordered.pairwise :
    extents.Pairwise fun first second => first.stop ≤ second.logicalStart := by
  induction extents generalizing low with
  | nil => exact List.Pairwise.nil
  | cons e rest ih =>
      obtain ⟨start, _, tail⟩ := ordered
      apply List.Pairwise.cons
      · intro other member
        exact (tail.bounds other member).1
      · exact ih tail

theorem Ordered.lookup_below (logical : Nat) (below : logical < low) :
    lookup extents logical = none := by
  induction extents generalizing low with
  | nil => rfl
  | cons e rest ih =>
      obtain ⟨start, _, tail⟩ := ordered
      have absent : ¬ e.Covers logical := fun covered => by
        have := covered.1
        omega
      rw [lookup_cons, if_neg absent]
      apply ih tail
      simp only [stop]
      omega

theorem Ordered.lookup_beyond (logical : Nat) (beyond : reach low extents ≤ logical) :
    lookup extents logical = none := by
  induction extents generalizing low with
  | nil => rfl
  | cons e rest ih =>
      obtain ⟨_, _, tail⟩ := ordered
      have last := tail.le_reach
      have absent : ¬ e.Covers logical := fun covered => by
        have := covered.2
        simp only [reach_cons] at beyond
        omega
      rw [lookup_cons, if_neg absent]
      exact ih tail beyond

/-- A block without a place, behind the start of each extent, lies behind them all. -/
theorem Ordered.reach_le (logical : Nat) (start : low ≤ logical)
    (unmapped : lookup extents logical = none)
    (behind : ∀ e, e ∈ extents → e.logicalStart ≤ logical) : reach low extents ≤ logical := by
  induction extents generalizing low with
  | nil => exact start
  | cons e rest ih =>
      rw [lookup_cons] at unmapped
      by_cases covered : e.Covers logical
      · rw [if_pos covered] at unmapped
        cases unmapped
      · rw [if_neg covered] at unmapped
        have here := behind e List.mem_cons_self
        simp only [Covers] at covered
        exact ih ordered.2.2 (by omega) unmapped
          fun other member => behind other (List.mem_cons_of_mem _ member)

end Ordering

theorem lookup_covers (extents : List Extent) (logical block : Nat)
    (found : lookup extents logical = some block) : ∃ e, e ∈ extents ∧ e.Covers logical := by
  induction extents with
  | nil => cases found
  | cons e rest ih =>
      rw [lookup_cons] at found
      by_cases covered : e.Covers logical
      · exact ⟨e, List.mem_cons_self, covered⟩
      · rw [if_neg covered] at found
        obtain ⟨other, member, there⟩ := ih found
        exact ⟨other, List.mem_cons_of_mem _ member, there⟩

/-! ### One more extent -/

theorem Ordered.insert {low : Nat} {before after : List Extent} (e : Extent)
    (ordered : Ordered low (before ++ after)) (size : 0 < e.length)
    (behind : reach low before ≤ e.logicalStart) (room : Ordered e.stop after) :
    Ordered low (before ++ e :: after) := by
  rw [ordered_append] at ordered ⊢
  exact ⟨ordered.1, behind, size, room⟩

theorem lookup_insert {low : Nat} {before after : List Extent} (e : Extent)
    (ordered : Ordered low before) (behind : reach low before ≤ e.logicalStart) (logical : Nat) :
    lookup (before ++ e :: after) logical =
      if e.Covers logical then some (e.blockAt logical)
      else lookup (before ++ after) logical := by
  rw [lookup_append, lookup_cons, lookup_append]
  by_cases covered : e.Covers logical
  · rw [if_pos covered, if_pos covered, ordered.lookup_beyond logical (Nat.le_trans behind covered.1)]
    rfl
  · rw [if_neg covered, if_neg covered]

theorem stored_insert (before after : List Extent) (e : Extent) :
    (stored (before ++ e :: after)).Perm
      (List.range' e.physicalStart e.length ++ stored (before ++ after)) := by
  rw [stored_append, stored_cons, stored_append, ← List.append_assoc, ← List.append_assoc]
  exact (List.perm_append_comm).append_right _

/-- The last extent with one more block. -/
def grown (e : Extent) : Extent := { e with length := e.length + 1 }

theorem lookup_grown {low : Nat} (before : List Extent) (e : Extent)
    (ordered : Ordered low (before ++ [e])) (logical : Nat) :
    lookup (before ++ [e.grown]) logical =
      if logical = e.stop then some (e.physicalStart + e.length)
      else lookup (before ++ [e]) logical := by
  rw [ordered_append] at ordered
  obtain ⟨first, behind, _, _⟩ := ordered
  rw [lookup_append, lookup_append, lookup_cons, lookup_cons]
  by_cases here : logical = e.stop
  · have covered : e.grown.Covers logical := by
      simp only [Covers, grown, stop] at here ⊢
      omega
    have beyond : reach low before ≤ logical := by
      simp only [stop] at here
      omega
    rw [if_pos here, if_pos covered, first.lookup_beyond logical beyond, here, blockAt, grown, stop]
    simp
  · have same : e.grown.Covers logical ↔ e.Covers logical := by
      simp only [Covers, grown, stop] at here ⊢
      omega
    rw [if_neg here]
    by_cases covered : e.Covers logical
    · rw [if_pos covered, if_pos (same.mpr covered)]
      rfl
    · rw [if_neg covered, if_neg fun more => covered (same.mp more)]

/-! ### Cutting a range out -/

/-- The blocks of an extent below `first`. -/
def front (first : Nat) (e : Extent) : List Extent :=
  if e.logicalStart < first then [{ e with length := min first e.stop - e.logicalStart }] else []

/-- The blocks of an extent from `last` on. -/
def back (last flags : Nat) (e : Extent) : List Extent :=
  if last < e.stop then
    [{ logicalStart := max last e.logicalStart
       physicalStart := e.physicalStart + (max last e.logicalStart - e.logicalStart)
       length := e.stop - max last e.logicalStart
       flags := flags }]
  else []

/-- What is left of an extent without the blocks from `first` to `last`. A piece split off has
no flags. -/
def cut (first last : Nat) (e : Extent) : List Extent :=
  front first e ++ back last (if e.logicalStart < first then 0 else e.flags) e

/-- The store's blocks that cutting a range out of an extent gives back. -/
def removed (first last : Nat) (e : Extent) : List Nat :=
  List.range' (e.physicalStart + (max first e.logicalStart - e.logicalStart))
    (min last e.stop - max first e.logicalStart)

def cutAll (first last : Nat) (extents : List Extent) : List Extent :=
  extents.flatMap (cut first last)

def removedAll (first last : Nat) (extents : List Extent) : List Nat :=
  extents.flatMap (removed first last)

theorem range_join (start count next more : Nat) (meets : next = start + count) :
    List.range' start count ++ List.range' next more = List.range' start (count + more) := by
  rw [meets, List.range'_append_1]

theorem lookup_front (first : Nat) (e : Extent) (logical : Nat) :
    lookup (front first e) logical = if logical < first then lookup [e] logical else none := by
  unfold front
  by_cases start : e.logicalStart < first
  · have covers : (Covers { e with length := min first e.stop - e.logicalStart } logical) ↔
        logical < first ∧ e.Covers logical := by
      simp only [Covers, stop]
      omega
    rw [if_pos start, lookup_cons, lookup_cons]
    simp only [covers, lookup_nil]
    by_cases low : logical < first
    · simp only [low, true_and, ↓reduceIte]
      rfl
    · simp only [low, false_and, ↓reduceIte]
  · rw [if_neg start, lookup_cons]
    split_ifs with low covered
    · have := covered.1
      omega
    · rfl
    · rfl

theorem lookup_back (last flags : Nat) (e : Extent) (logical : Nat) :
    lookup (back last flags e) logical =
      if last ≤ logical then lookup [e] logical else none := by
  unfold back
  by_cases right : last < e.stop
  · have covers : (Covers { logicalStart := max last e.logicalStart
                            physicalStart :=
                              e.physicalStart + (max last e.logicalStart - e.logicalStart)
                            length := e.stop - max last e.logicalStart
                            flags := flags } logical) ↔ last ≤ logical ∧ e.Covers logical := by
      simp only [Covers, stop] at right ⊢
      omega
    rw [if_pos right, lookup_cons, lookup_cons]
    simp only [covers, lookup_nil]
    by_cases high : last ≤ logical
    · by_cases covered : e.Covers logical
      · simp only [high, covered, and_self, ↓reduceIte, blockAt]
        have := covered.1
        congr 1
        omega
      · simp only [covered, and_false, ↓reduceIte, ite_self]
    · simp only [high, false_and, ↓reduceIte]
  · rw [if_neg right, lookup_cons]
    split_ifs with high covered
    · have := covered.2
      omega
    · rfl
    · rfl

section Cut

variable (first last : Nat)

@[simp] theorem cutAll_nil : cutAll first last [] = [] := rfl

@[simp] theorem cutAll_cons (e : Extent) (rest : List Extent) :
    cutAll first last (e :: rest) = cut first last e ++ cutAll first last rest := rfl

@[simp] theorem removedAll_nil : removedAll first last [] = [] := rfl

@[simp] theorem removedAll_cons (e : Extent) (rest : List Extent) :
    removedAll first last (e :: rest) = removed first last e ++ removedAll first last rest := rfl

theorem removed_apart (e : Extent) (apart : last ≤ e.logicalStart ∨ e.stop ≤ first) :
    removed first last e = [] := by
  rw [removed, show min last e.stop - max first e.logicalStart = 0 by omega]
  rfl

theorem cut_apart (e : Extent) (range : first ≤ last) (size : 0 < e.length)
    (apart : last ≤ e.logicalStart ∨ e.stop ≤ first) : cut first last e = [e] := by
  have stopped : e.stop = e.logicalStart + e.length := rfl
  rw [cut, front, back]
  rcases apart with behind | before
  · have low : ¬ e.logicalStart < first := by omega
    have high : last < e.stop := by omega
    simp only [low, high, ↓reduceIte, List.nil_append, Nat.max_eq_right behind]
    simp [stop]
  · have low : e.logicalStart < first := by omega
    have high : ¬ last < e.stop := by omega
    simp only [low, high, ↓reduceIte, List.append_nil, Nat.min_eq_right before]
    simp [stop]

/-- A range before or behind each extent takes nothing out of them. -/
theorem cutAll_apart {low : Nat} {extents : List Extent} (ordered : Ordered low extents)
    (range : first ≤ last)
    (apart : ∀ e, e ∈ extents → last ≤ e.logicalStart ∨ e.stop ≤ first) :
    cutAll first last extents = extents ∧ removedAll first last extents = [] := by
  induction extents generalizing low with
  | nil => exact ⟨rfl, rfl⟩
  | cons e rest ih =>
      have here := apart e List.mem_cons_self
      have later := ih ordered.2.2 fun other member => apart other (List.mem_cons_of_mem _ member)
      rw [cutAll_cons, removedAll_cons, cut_apart first last e range ordered.2.1 here,
        removed_apart first last e here, later.1, later.2]
      exact ⟨rfl, rfl⟩

theorem lookup_cut (range : first ≤ last) (e : Extent) (logical : Nat) :
    lookup (cut first last e) logical =
      if first ≤ logical ∧ logical < last then none else lookup [e] logical := by
  rw [cut, lookup_append, lookup_front, lookup_back]
  by_cases low : logical < first
  · rw [if_pos low, if_neg (by omega), if_neg (by omega), Option.or_none]
  · rw [if_neg low, Option.none_or]
    by_cases high : last ≤ logical
    · rw [if_pos high, if_neg (by omega)]
    · rw [if_neg high, if_pos (by omega)]

theorem lookup_cutAll (range : first ≤ last) (extents : List Extent) (logical : Nat) :
    lookup (cutAll first last extents) logical =
      if first ≤ logical ∧ logical < last then none else lookup extents logical := by
  induction extents with
  | nil => simp
  | cons e rest ih =>
      rw [cutAll_cons, lookup_append, lookup_cut _ _ range, ih, ← List.singleton_append (l := rest),
        lookup_append]
      split_ifs
      · rfl
      · rfl

/-- The pieces of an extent lie inside it. -/
theorem cut_member (e piece : Extent) (member : piece ∈ cut first last e) :
    piece.length ≤ e.length ∧ piece.stop ≤ e.stop := by
  have size : e.stop = e.logicalStart + e.length := rfl
  rw [cut, List.mem_append] at member
  rcases member with left | right
  · by_cases low : e.logicalStart < first
    · rw [front, if_pos low] at left
      rw [List.mem_singleton.mp left]
      simp only [stop] at *
      omega
    · rw [front, if_neg low] at left
      cases left
  · by_cases high : last < e.stop
    · rw [back, if_pos high] at right
      rw [List.mem_singleton.mp right]
      simp only [stop] at *
      omega
    · rw [back, if_neg high] at right
      cases right

theorem Ordered.cut {low : Nat} (range : first ≤ last) (e : Extent)
    (start : low ≤ e.logicalStart) (size : 0 < e.length) :
    Ordered low (cut first last e) ∧ reach low (cut first last e) ≤ e.stop := by
  have stopped : e.stop = e.logicalStart + e.length := rfl
  rw [Extent.cut, front, back]
  split_ifs with left right right
  · simp only [List.cons_append, List.nil_append, ordered_cons, ordered_nil, and_true, reach_cons,
      reach_nil, stop] at *
    omega
  · simp only [List.append_nil, ordered_cons, ordered_nil, and_true, reach_cons, reach_nil, stop]
      at *
    omega
  · simp only [List.nil_append, ordered_cons, ordered_nil, and_true, reach_cons, reach_nil, stop]
      at *
    omega
  · simp only [List.append_nil, ordered_nil, reach_nil, true_and]
    omega

theorem Ordered.cutAll {low : Nat} {extents : List Extent} (ordered : Ordered low extents)
    (range : first ≤ last) : Ordered low (cutAll first last extents) := by
  induction extents generalizing low with
  | nil => trivial
  | cons e rest ih =>
      obtain ⟨start, size, tail⟩ := ordered
      have here := Ordered.cut first last range e start size
      rw [cutAll_cons, ordered_append]
      exact ⟨here.1, (ih tail).mono here.2⟩

theorem cutAll_member (extents : List Extent) (piece : Extent)
    (member : piece ∈ cutAll first last extents) :
    ∃ e, e ∈ extents ∧ piece.length ≤ e.length ∧ piece.stop ≤ e.stop := by
  obtain ⟨e, here, inside⟩ := List.mem_flatMap.mp member
  exact ⟨e, here, cut_member first last e piece inside⟩

/-- Cutting keeps or gives back each block of an extent. -/
theorem stored_cut (range : first ≤ last) (e : Extent) :
    (stored (cut first last e) ++ removed first last e).Perm
      (List.range' e.physicalStart e.length) := by
  have size : e.stop = e.logicalStart + e.length := rfl
  have whole : List.range' e.physicalStart e.length =
      List.range' e.physicalStart (min first e.stop - e.logicalStart) ++
        removed first last e ++
        List.range' (e.physicalStart + (max last e.logicalStart - e.logicalStart))
          (e.stop - max last e.logicalStart) := by
    rw [removed, List.append_assoc]
    by_cases behind : e.stop ≤ first
    · rw [show min first e.stop - e.logicalStart = e.length by omega,
        show min last e.stop - max first e.logicalStart = 0 by omega,
        show e.stop - max last e.logicalStart = 0 by omega]
      simp
    · by_cases before : e.stop ≤ last
      · rw [show e.stop - max last e.logicalStart = 0 by omega, List.range'_zero, List.append_nil,
          range_join _ _ _ _ (by omega)]
        congr 1
        omega
      · rw [range_join _ _ _ _ (by omega), range_join _ _ _ _ (by omega)]
        congr 1
        omega
  have left : stored (front first e) =
      List.range' e.physicalStart (min first e.stop - e.logicalStart) := by
    unfold front
    split_ifs with low
    · simp
    · rw [show min first e.stop - e.logicalStart = 0 by omega]
      rfl
  have right (flags : Nat) : stored (back last flags e) =
      List.range' (e.physicalStart + (max last e.logicalStart - e.logicalStart))
        (e.stop - max last e.logicalStart) := by
    unfold back
    split_ifs with high
    · simp
    · rw [show e.stop - max last e.logicalStart = 0 by omega]
      rfl
  rw [cut, stored_append, left, right, whole, List.append_assoc, List.append_assoc]
  exact List.perm_append_comm.append_left _

theorem stored_cutAll (range : first ≤ last) (extents : List Extent) :
    (stored (cutAll first last extents) ++ removedAll first last extents).Perm
      (stored extents) := by
  induction extents with
  | nil => exact List.Perm.refl _
  | cons e rest ih =>
      rw [cutAll_cons, removedAll_cons, stored_append, stored_cons]
      have swap : (stored (cut first last e) ++ stored (cutAll first last rest) ++
          (removed first last e ++ removedAll first last rest)).Perm
          (stored (cut first last e) ++ removed first last e ++
            (stored (cutAll first last rest) ++ removedAll first last rest)) := by
        simp only [List.append_assoc]
        apply List.Perm.append_left
        simp only [← List.append_assoc]
        exact List.perm_append_comm.append_right _
      exact swap.trans ((stored_cut first last range e).append ih)

end Cut

/-! ### The blocks of a range, one by one -/

/-- The store's blocks of the file's blocks from `first` to `last`, in order. -/
def placed (find : Nat → Option Nat) (first last : Nat) : List Nat :=
  (List.range' first (last - first)).filterMap find

theorem filterMap_none {α β : Type} (find : α → Option β) (entries : List α)
    (absent : ∀ entry, entry ∈ entries → find entry = none) : entries.filterMap find = [] :=
  List.filterMap_eq_nil_iff.mpr absent

theorem placed_single (first count : Nat) (e : Extent) :
    (List.range' first count).filterMap (lookup [e]) = removed first (first + count) e := by
  have size : e.stop = e.logicalStart + e.length := rfl
  induction count with
  | zero =>
      rw [removed, show min (first + 0) e.stop - max first e.logicalStart = 0 by omega]
      rfl
  | succ count ih =>
      rw [List.range'_concat, List.filterMap_append, ih, removed, removed, Nat.one_mul]
      by_cases covered : e.Covers (first + count)
      · have bounds := covered
        simp only [Covers] at bounds
        have found : [first + count].filterMap (lookup [e]) = [e.blockAt (first + count)] := by
          simp [lookup_cons, covered]
        rw [found, blockAt, show min (first + (count + 1)) e.stop - max first e.logicalStart =
          (min (first + count) e.stop - max first e.logicalStart) + 1 by omega, List.range'_concat]
        congr 2
        omega
      · have bounds := covered
        simp only [Covers] at bounds
        have absent : [first + count].filterMap (lookup [e]) = [] := by
          simp [lookup_cons, covered]
        rw [absent, List.append_nil]
        congr 1
        omega

/-- An extent serves the blocks of a range before the extents behind it do. -/
theorem placed_split (first count : Nat) (e : Extent) (rest : List Extent)
    (tail : Ordered e.stop rest) :
    (List.range' first count).filterMap (lookup (e :: rest)) =
      (List.range' first count).filterMap (lookup [e]) ++
        (List.range' first count).filterMap (lookup rest) := by
  have split (logical : Nat) : lookup (e :: rest) logical =
      (lookup [e] logical).or (lookup rest logical) := by
    rw [← List.singleton_append, lookup_append]
  induction count generalizing first with
  | zero => rfl
  | succ count ih =>
      rw [List.range'_succ, List.filterMap_cons, List.filterMap_cons, List.filterMap_cons, ih, split]
      by_cases low : first < e.stop
      · rw [tail.lookup_below first low, Option.or_none]
        cases lookup [e] first with
        | none => rfl
        | some block => rfl
      · have absent (logical : Nat) (high : first ≤ logical) : lookup [e] logical = none := by
          apply if_neg
          simp only [Covers]
          omega
        rw [absent first (Nat.le_refl first), Option.none_or,
          filterMap_none (lookup [e]) _ fun logical member =>
            absent logical (by have := List.mem_range'_1.mp member; omega)]
        cases lookup rest first with
        | none => rfl
        | some block => rfl

/-- Cutting a range out gives back what the range's blocks were kept in. -/
theorem placed_lookup {low : Nat} (first last : Nat) (extents : List Extent)
    (range : first ≤ last) (ordered : Ordered low extents) :
    placed (lookup extents) first last = removedAll first last extents := by
  induction extents generalizing low with
  | nil => exact filterMap_none _ _ fun _ _ => rfl
  | cons e rest ih =>
      rw [removedAll_cons, ← ih ordered.2.2, placed, placed_split _ _ _ _ ordered.2.2,
        placed_single, show first + (last - first) = last by omega]
      rfl

end Extent
