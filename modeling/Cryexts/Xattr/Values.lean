import Cryexts.Xattr.Handlers

set_option autoImplicit false

namespace Cryexts

namespace Xattr

/-- The item holds the attribute; memory of its own may be longer than the value. -/
structure Stores (item : XattrItem) (a : Attribute) : Prop where
  name : item.name = a.name
  valueLen : item.valueLen = a.value.length
  value : (item.value.getD []).take item.valueLen = a.value

/-- The attributes of an inode as they lie in its blocks. -/
structure Layout where
  first : List Attribute
  rest : List Attribute
  overflowBlock : Nat

def Layout.attributes (layout : Layout) : List Attribute := layout.first ++ layout.rest

def Layout.items (layout : Layout) : List XattrItem := layout.attributes.map Attribute.item

/-- No get tells the two apart. -/
def SameValues (first second : List XattrItem) : Prop :=
  ∀ name, name ≠ [] → name ≠ POLICY_NAME → valueOf first name = valueOf second name

section Items

theorem item_stores (a : Attribute) : Stores a.item a :=
  ⟨rfl, rfl, a.item_value⟩

theorem items_store (attributes : List Attribute) :
    List.Forall₂ Stores (attributes.map Attribute.item) attributes := by
  induction attributes with
  | nil => exact .nil
  | cons a rest ih => exact .cons (item_stores a) ih

theorem Stores.nameLen {item : XattrItem} {a : Attribute} (stores : Stores item a) :
    item.nameLen = a.name.length := by
  rw [← a.item_nameLen, XattrItem.nameLen, XattrItem.nameLen, stores.name, Attribute.item_name]

theorem Stores.size {item : XattrItem} {a : Attribute} (stores : Stores item a) :
    item.size = a.size := by
  rw [XattrItem.size, Attribute.size, stores.nameLen, stores.valueLen]

/-- What is packed of an item is the attribute it holds. -/
theorem Stores.packEntry {item : XattrItem} {a : Attribute} (stores : Stores item a) (offset : Nat)
    (buf : Block) : packEntry item offset buf = Xattr.packEntry a.item offset buf := by
  have value := stores.value
  rw [stores.valueLen] at value
  have own := a.item_value
  simp only [Xattr.packEntry, stores.nameLen, stores.valueLen, stores.name, value, own,
    Attribute.item_nameLen, Attribute.item_valueLen, Attribute.item_name]

theorem stores_at {items : List XattrItem} {attributes : List Attribute}
    (stores : List.Forall₂ Stores items attributes) (slot : Nat) (inside : slot < attributes.length) :
    Stores (itemAt items slot) attributes[slot] := by
  induction stores generalizing slot with
  | nil => cases inside
  | cons here _ ih =>
      cases slot with
      | zero => exact here
      | succ slot => exact ih slot (Nat.lt_of_succ_lt_succ inside)

theorem itemsOf_at (attributes : List Attribute) (slot : Nat) (inside : slot < attributes.length) :
    itemsOf attributes slot = attributes[slot].item := by
  rw [itemsOf, List.getElem?_eq_getElem inside]
  rfl

theorem packEntries_stores {items : List XattrItem} {attributes : List Attribute}
    (stores : List.Forall₂ Stores items attributes) (left slot offset : Nat) (buf : Block)
    (inside : slot + left ≤ attributes.length) :
    packEntries (itemAt items) left slot offset buf =
      packEntries (itemsOf attributes) left slot offset buf := by
  induction left generalizing slot offset buf with
  | zero => rfl
  | succ left ih =>
      have here := stores_at stores slot (by omega)
      have size : (itemAt items slot).size = (itemsOf attributes slot).size := by
        rw [here.size, itemsOf_at attributes slot (by omega), Attribute.item_size]
      have entry : packEntry (itemAt items slot) offset buf =
          packEntry (itemsOf attributes slot) offset buf := by
        rw [here.packEntry, itemsOf_at attributes slot (by omega)]
      rw [packEntries, packEntries, size, entry]
      split
      · rfl
      · exact ih _ _ _ (by omega)

/-- A packed block holds the part of the attributes that was packed. -/
theorem pack_held {items : List XattrItem} {attributes : List Attribute}
    (stores : List.Forall₂ Stores items attributes) (few : attributes.length ≤ XATTR_MAX_ITEMS)
    (start entries overflowBlock : Nat) (wide : overflowBlock < 2 ^ 64) (buf : Block)
    (inside : start + entries ≤ attributes.length)
    (ran : packXattrBlock (itemAt items) start entries overflowBlock = .ok buf) :
    BlockHeld buf overflowBlock ((attributes.drop start).take entries) := by
  have length : ((attributes.drop start).take entries).length = entries := by
    rw [List.length_take, List.length_drop]
    omega
  have most : XATTR_MAX_ITEMS = 32 := rfl
  apply packXattrBlock_held (itemsOf attributes) _ start overflowBlock buf (by omega) wide
  · intro index low
    rw [itemsOf_at attributes (start + index) (by omega)]
    simp
  · rw [length, ← ran, packXattrBlock, packXattrBlock, packEntries_stores stores _ _ _ _ inside]

/-- The value that a list of attributes gives a name. -/
def binding (attributes : List Attribute) (name : List UInt8) : Option (List UInt8) :=
  (attributes.find? fun a => a.name == name).map Attribute.value

theorem valueOf_cons (item : XattrItem) (rest : List XattrItem) (name : List UInt8) :
    valueOf (item :: rest) name =
      if item.name.takeWhile (· != 0) == name then some ((item.value.getD []).take item.valueLen)
      else valueOf rest name := by
  rw [valueOf, findXattrItem, List.findIdx?_cons]
  split
  · rfl
  · rw [Option.map_map]
    rfl

theorem valueOf_stores {items : List XattrItem} {attributes : List Attribute}
    (stores : List.Forall₂ Stores items attributes) (name : List UInt8) :
    valueOf items name = binding attributes name := by
  induction stores with
  | nil => rfl
  | @cons item a items attributes here _ ih =>
      have whole : item.name.takeWhile (· != 0) = a.name := by
        rw [here.name]
        apply List.takeWhile_eq_self_iff.mpr
        intro byte member
        have apart : byte ≠ 0 := fun zero => a.ended (zero ▸ member)
        simpa using apart
      rw [valueOf_cons, whole, here.value, ih, binding, binding, List.find?_cons]
      cases a.name == name with
      | true => rfl
      | false => rfl

theorem valueOf_items {items : List XattrItem} {attributes : List Attribute}
    (stores : List.Forall₂ Stores items attributes) (name : List UInt8) :
    valueOf items name = valueOf (attributes.map Attribute.item) name := by
  rw [valueOf_stores stores, valueOf_stores (items_store attributes)]

end Items

section Loads

variable (sup : XattrSuper) (o : Outcomes)

theorem answer_bind {β : Type} (outcome : Option Errno) (next : Unit → XattrOp β)
    (s : XattrState) : (answer outcome >>= next) s =
      outcome.elim (next () s) fun reason => (.error (.error reason), s) := by
  rw [answer, Routine.answer_bind]
  cases outcome with
  | none => rfl
  | some reason => rfl

/-- A load fails, or returns what it would return if no step failed; it changes nothing. -/
theorem loadXattrs_cases (s : XattrState) :
    (∃ reason, loadXattrs sup o s = (.error reason, s)) ∨
      loadXattrs sup o s = loadXattrs sup .calm s := by
  unfold loadXattrs
  rw [Routine.read_bind, Routine.read_bind]
  split
  · exact Or.inr rfl
  · rw [answer_bind, answer_bind, answer_bind, answer_bind]
    cases o.loadBuffer with
    | some reason => exact Or.inl ⟨_, rfl⟩
    | none =>
        cases o.rootRead with
        | some reason => exact Or.inl ⟨_, rfl⟩
        | none =>
            simp only [Outcomes.calm, Option.elim]
            generalize parseXattrBlock (s.buffers s.xattrBlock) 0 (XattrParse.start []) = root
            split
            · exact Or.inr rfl
            · rw [answer_bind, answer_bind]
              cases o.values with
              | some reason => exact Or.inl ⟨_, rfl⟩
              | none =>
                  simp only [Option.elim]
                  split
                  · exact Or.inr rfl
                  · split
                    · exact Or.inr rfl
                    · rw [answer_bind, answer_bind]
                      cases o.overflowRead with
                      | some reason => exact Or.inl ⟨_, rfl⟩
                      | none => exact Or.inr rfl

theorem listed_items (attributes : List Attribute) (overflowBlock : Nat) (faults : List Bool) :
    listed ⟨itemsOf attributes, attributes.length, overflowBlock, faults⟩ =
      attributes.map Attribute.item := by
  apply List.ext_getElem
  · simp [listed]
  · intro index low high
    simp only [List.length_map] at high
    simp [listed, itemsOf_at attributes index high]

/-- Too many attributes behind those already read. -/
theorem parseXattrBlock_many (block : Block) (overflowBlock base : Nat) (rest : List Attribute)
    (now : XattrParse) (held : BlockHeld block overflowBlock rest) (small : base ≤ XATTR_MAX_ITEMS)
    (many : XATTR_MAX_ITEMS < base + rest.length) :
    (parseXattrBlock block base now).1 = .error (.error .euclean) := by
  have most : XATTR_MAX_ITEMS = 32 := rfl
  have short : rest.length < 2 ^ 16 := by
    rw [← held.entries]
    exact block.get_lt Header.entries
  have sum : u32 (base + rest.length) = base + rest.length := Nat.mod_eq_of_lt (by omega)
  rw [parseXattrBlock, Checked.load_bind _ _ _ _ (by decide), held.magic, if_neg (by simp),
    Checked.load_bind _ _ _ _ (by decide), Checked.load_bind _ _ _ _ (by decide), held.entries, sum,
    if_pos (Or.inl many), Routine.fail_run]

variable (s : XattrState)

theorem load_bare (bare : s.xattrBlock = 0) : loadXattrs sup .calm s = (.ok [], s) := by
  rw [loadXattrs, Routine.read_bind, if_pos bare]
  rfl

section Root

variable (used : s.xattrBlock ≠ 0) (first rest : List Attribute) (overflowBlock : Nat)
  (root : BlockHeld (s.buffers s.xattrBlock) overflowBlock first)
  (few : first.length ≤ XATTR_MAX_ITEMS)

include used root few

/-- The load of the root block, and what follows it. -/
theorem load_root : ∃ faults, Ample faults ∧ loadXattrs sup .calm s =
    if overflowBlock = 0 then (.ok (first.map Attribute.item), s)
    else if sup.largeXattr = false then (.error (.error .euclean), s)
    else
      match parseXattrBlock (s.buffers overflowBlock) first.length
          ⟨itemsOf first, first.length, overflowBlock, faults⟩ with
      | (.error reason, _) => (.error reason, s)
      | (.ok (), after) =>
        if after.overflowBlock ≠ 0 then (.error (.error .euclean), s)
        else (.ok (listed after), s) := by
  obtain ⟨faults, ample, ran⟩ := parseXattrBlock_held (s.buffers s.xattrBlock) overflowBlock [] first
    (XattrParse.start []) root (by simpa using few) rfl (by simp [Ample, XattrParse.start])
  simp only [List.nil_append, List.length_nil, Nat.zero_add] at ran
  refine ⟨faults, ample, ?_⟩
  rw [loadXattrs, Routine.read_bind, if_neg used, answer_bind, answer_bind]
  simp only [Outcomes.calm, Option.elim]
  rw [ran]
  simp only
  rw [answer_bind]
  simp only [Option.elim]
  split
  · rw [listed_items]
    rfl
  · split
    · rfl
    · rw [answer_bind]
      simp only [Option.elim]
      generalize parseXattrBlock (s.buffers overflowBlock) _ _ = parsed
      obtain ⟨outcome, after⟩ := parsed
      cases outcome with
      | error reason => rfl
      | ok done =>
          simp only
          split
          · rfl
          · rfl

theorem load_first (alone : overflowBlock = 0) :
    loadXattrs sup .calm s = (.ok (first.map Attribute.item), s) := by
  obtain ⟨faults, _, ran⟩ := load_root sup s used first overflowBlock root few
  rw [ran, if_pos alone]

variable (large : sup.largeXattr = true) (behind : overflowBlock ≠ 0)
  (second : BlockHeld (s.buffers overflowBlock) 0 rest)

include large behind second

theorem load_both (whole : first.length + rest.length ≤ XATTR_MAX_ITEMS) :
    loadXattrs sup .calm s = (.ok ((first ++ rest).map Attribute.item), s) := by
  obtain ⟨faults, ample, ran⟩ := load_root sup s used first overflowBlock root few
  obtain ⟨left, _, parsed⟩ := parseXattrBlock_held (s.buffers overflowBlock) 0 first rest
    ⟨itemsOf first, first.length, overflowBlock, faults⟩ second whole rfl ample
  rw [ran, if_neg behind, if_neg (by simp [large]), parsed]
  simp only
  rw [if_neg (by simp), ← List.length_append, listed_items]

theorem load_many (many : XATTR_MAX_ITEMS < first.length + rest.length) :
    loadXattrs sup .calm s = (.error (.error .euclean), s) := by
  obtain ⟨faults, _, ran⟩ := load_root sup s used first overflowBlock root few
  have parsed := parseXattrBlock_many (s.buffers overflowBlock) 0 first.length rest
    ⟨itemsOf first, first.length, overflowBlock, faults⟩ second few many
  rw [ran, if_neg behind, if_neg (by simp [large])]
  cases outcome : parseXattrBlock (s.buffers overflowBlock) first.length
      ⟨itemsOf first, first.length, overflowBlock, faults⟩ with
  | mk result after =>
      rw [outcome] at parsed
      simp only at parsed
      rw [parsed]

end Root

end Loads

section Gets

variable (sup : XattrSuper)

theorem decimal_injective : Function.Injective decimal := by
  have inverse : ∀ value, Nat.ofDigits 10 ((decimal value).reverse.map fun byte =>
      byte.toNat - 0x30) = value := by
    intro value
    unfold decimal
    split
    · rename_i zero
      rw [zero]
      decide
    · rw [← List.map_reverse, List.reverse_reverse, List.map_map]
      have same : (Nat.digits 10 value).map
          ((fun byte : UInt8 => byte.toNat - 0x30) ∘ fun digit => UInt8.ofNat (0x30 + digit)) =
          Nat.digits 10 value := by
        apply (List.map_congr_left _).trans (List.map_id _)
        intro digit member
        have small := Nat.digits_lt_base (by decide : 1 < 10) member
        simp only [Function.comp_apply, UInt8.toNat_ofNat', id]
        omega
      rw [same, Nat.ofDigits_digits]
  intro first second equal
  rw [← inverse first, equal, inverse second]

/-- What a get answers, from what a load returns and the policy of the inode. -/
def getAnswer (loaded : Except (Stop Errno) (List XattrItem)) (policyId : Nat) (name : List UInt8)
    (buffer : Option Nat) (s : XattrState) : Except (Stop Errno) (Nat × List UInt8) :=
  if name = [] then .error (.error .einval)
  else if sup.xattr = false ∧ name ≠ POLICY_NAME then .error (.error .eopnotsupp)
  else if name = POLICY_NAME then
    if sup.policy = false then .error (.error .eopnotsupp)
    else (handOut (decimal policyId) buffer s).1
  else
    match loaded with
    | .error reason => .error reason
    | .ok items =>
      match valueOf items name with
      | none => .error (.error .enodata)
      | some value => (handOut value buffer s).1

theorem handOut_answer (value : List UInt8) (buffer : Option Nat) (s t : XattrState) :
    (handOut value buffer s).1 = (handOut value buffer t).1 := by
  unfold handOut
  cases buffer with
  | none => rfl
  | some size =>
      simp only
      split
      · rfl
      · rfl

theorem userXattrGet_answer (name : List UInt8) (buffer : Option Nat) (s t : XattrState) :
    (userXattrGet sup .calm name buffer s).1 =
      getAnswer sup (loadXattrs sup .calm s).1 s.policyId name buffer t := by
  unfold userXattrGet getAnswer
  rw [answer_bind, show Outcomes.calm.items = none from rfl]
  simp only [Option.elim]
  split
  · rfl
  · split
    · rfl
    · split
      · split
        · rfl
        · rw [Routine.read_bind]
          exact handOut_answer _ _ _ _
      · cases ran : loadXattrs sup .calm s with
        | mk outcome after =>
            cases outcome with
            | error reason => rw [Routine.bind_error _ _ _ _ _ ran]
            | ok items =>
                rw [Routine.bind_ok _ _ _ _ _ ran]
                simp only
                cases valueOf items name with
                | none => rfl
                | some value => exact handOut_answer _ _ _ _

/-- Gets that differ in no name. -/
def SameGets (s t : XattrState) : Prop :=
  ∀ name buffer, (userXattrGet sup .calm name buffer t).1 = (userXattrGet sup .calm name buffer s).1

theorem sameGets_of_values (s t : XattrState) (first second : List XattrItem)
    (before : (loadXattrs sup .calm s).1 = .ok first)
    (after : (loadXattrs sup .calm t).1 = .ok second) (policy : t.policyId = s.policyId)
    (same : SameValues second first) : SameGets sup s t := by
  intro name buffer
  rw [userXattrGet_answer sup name buffer t s, userXattrGet_answer sup name buffer s s, before,
    after, policy]
  unfold getAnswer
  split
  · rfl
  · rename_i named
    split
    · rfl
    · split
      · rfl
      · rename_i other
        simp only
        rw [same name named other]

theorem values_of_sameGets (s t : XattrState) (first second : List XattrItem)
    (xattr : sup.xattr = true) (before : (loadXattrs sup .calm s).1 = .ok first)
    (after : (loadXattrs sup .calm t).1 = .ok second) (same : SameGets sup s t) :
    SameValues second first := by
  intro name named other
  -- A buffer that is long enough for both values.
  have asked := same name (some (((valueOf first name).getD []).length +
    ((valueOf second name).getD []).length))
  rw [userXattrGet_answer sup name _ t s, userXattrGet_answer sup name _ s s, before, after] at asked
  simp only [getAnswer, if_neg named, if_neg other, xattr, Bool.true_eq_false, false_and,
    if_false] at asked
  have given : ∀ value size, List.length value ≤ size →
      (handOut value (some size) s).1 = .ok (value.length, value) := by
    intro value size room
    simp only [handOut, if_neg (Nat.not_lt.mpr room), Routine.pure_run]
  cases old : valueOf first name with
  | none =>
      cases new : valueOf second name with
      | none => rfl
      | some value =>
          rw [old, new] at asked
          simp only [Option.getD] at asked
          rw [given value _ (Nat.le_add_left _ _)] at asked
          cases asked
  | some value =>
      cases new : valueOf second name with
      | none =>
          rw [old, new] at asked
          simp only [Option.getD] at asked
          rw [given value _ (Nat.le_add_right _ _)] at asked
          cases asked
      | some other =>
          rw [old, new] at asked
          simp only [Option.getD] at asked
          rw [given value _ (Nat.le_add_right _ _), given other _ (Nat.le_add_left _ _)] at asked
          rw [(Prod.mk.inj (Except.ok.inj asked)).2]

/-- A load that fails is seen by a get of a name that had no value. -/
theorem not_sameGets_of_error (s t : XattrState) (first : List XattrItem)
    (xattr : sup.xattr = true) (before : (loadXattrs sup .calm s).1 = .ok first)
    (after : (loadXattrs sup .calm t).1 = .error (.error .euclean)) : ¬ SameGets sup s t := by
  intro same
  have asked := same [0x61] none
  rw [userXattrGet_answer sup _ _ t s, userXattrGet_answer sup _ _ s s, before, after] at asked
  have other : [0x61] ≠ POLICY_NAME := by decide
  simp only [getAnswer, List.cons_ne_self, if_neg other, xattr, Bool.true_eq_false, false_and,
    if_false] at asked
  cases value : valueOf first [0x61] with
  | none =>
      rw [value] at asked
      cases asked
  | some bytes =>
      rw [value] at asked
      cases asked

theorem policy_of_sameGets (s t : XattrState) (policy : sup.policy = true)
    (same : SameGets sup s t) : t.policyId = s.policyId := by
  have asked := same POLICY_NAME (some ((decimal t.policyId).length + (decimal s.policyId).length))
  rw [userXattrGet_answer sup _ _ t s, userXattrGet_answer sup _ _ s s] at asked
  have named : POLICY_NAME ≠ [] := by decide
  simp only [getAnswer, if_neg named, policy, ne_eq, not_true_eq_false, and_false, if_true, if_false,
    Bool.true_eq_false, handOut] at asked
  rw [if_neg (by omega), if_neg (by omega)] at asked
  exact decimal_injective (Prod.mk.inj (Except.ok.inj asked)).2

end Gets

end Xattr

end Cryexts
