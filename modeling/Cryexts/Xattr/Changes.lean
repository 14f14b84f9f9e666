import Cryexts.Xattr.Stored

set_option autoImplicit false

namespace Cryexts

namespace Xattr

/-- The change that a set or remove call asks of the attributes of an inode. -/
inductive Changes (call : SetCall) (attributes : List Attribute) : List Attribute → Prop
  | removed (idx : Nat) (asked : call.value = none)
      (found : attributes.findIdx? (fun a => a.name == call.name) = some idx) :
      Changes call attributes (attributes.eraseIdx idx)
  | replaced (idx : Nat) (value : List UInt8) (a : Attribute) (asked : call.value = some value)
      (found : attributes.findIdx? (fun a => a.name == call.name) = some idx)
      (named : a.name = call.name) (given : a.value = value.take (value.length % 2 ^ 16)) :
      Changes call attributes (attributes.set idx a)
  | added (value : List UInt8) (a : Attribute) (asked : call.value = some value)
      (absent : attributes.findIdx? (fun a => a.name == call.name) = none)
      (named : a.name = call.name) (given : a.value = value.take (value.length % 2 ^ 16)) :
      Changes call attributes (attributes ++ [a])

section Items

theorem stores_eraseIdx {items : List XattrItem} {attributes : List Attribute}
    (stores : List.Forall₂ Stores items attributes) (idx : Nat) :
    List.Forall₂ Stores (items.eraseIdx idx) (attributes.eraseIdx idx) := by
  induction stores generalizing idx with
  | nil => exact .nil
  | cons here rest ih =>
      cases idx with
      | zero => exact rest
      | succ idx => exact .cons here (ih idx)

theorem stores_set {items : List XattrItem} {attributes : List Attribute}
    (stores : List.Forall₂ Stores items attributes) (idx : Nat) (item : XattrItem) (a : Attribute)
    (new : Stores item a) : List.Forall₂ Stores (items.set idx item) (attributes.set idx a) := by
  induction stores generalizing idx with
  | nil => exact .nil
  | cons here rest ih =>
      cases idx with
      | zero => exact .cons new rest
      | succ idx => exact .cons here (ih idx)

theorem Stores.whole {item : XattrItem} {a : Attribute} (stores : Stores item a) :
    item.name.takeWhile (· != 0) = a.name := by
  rw [stores.name]
  apply List.takeWhile_eq_self_iff.mpr
  intro byte member
  have apart : byte ≠ 0 := fun zero => a.ended (zero ▸ member)
  simpa using apart

theorem findXattrItem_stores {items : List XattrItem} {attributes : List Attribute}
    (stores : List.Forall₂ Stores items attributes) (name : List UInt8) :
    findXattrItem items name = attributes.findIdx? fun a => a.name == name := by
  rw [findXattrItem]
  induction stores with
  | nil => rfl
  | cons here rest ih => rw [List.findIdx?_cons, List.findIdx?_cons, here.whole, ih]

variable (call : SetCall) (named : call.name ≠ [])
  (short : call.name.length ≤ XATTR_MAX_NAME_LEN)

include named short in
/-- The attribute that a new value becomes. -/
theorem exists_attribute (value : List UInt8) : ∃ a : Attribute, a.name = call.name ∧
    a.value = value.take (value.length % 2 ^ 16) ∧ Stores (newItem call.name value) a := by
  have narrow : (value.take (value.length % 2 ^ 16)).length = value.length % 2 ^ 16 := by
    rw [List.length_take]
    exact Nat.min_eq_left (Nat.mod_le _ _)
  refine ⟨⟨call.name, value.take (value.length % 2 ^ 16), named, call.ended, short, ?_⟩, rfl, rfl,
    rfl, narrow.symm, ?_⟩
  · rw [narrow]
    exact Nat.mod_lt _ (by decide)
  · simp only [newItem]
    split
    · rename_i empty
      rw [empty]
      rfl
    · rfl

variable (o : Outcomes) {items : List XattrItem} {attributes : List Attribute}
  (stores : List.Forall₂ Stores items attributes) (few : attributes.length ≤ XATTR_MAX_ITEMS)

include named short stores few

theorem changeItems_cases (s : XattrState) :
    (∃ reason, changeItems o call items s = (.error reason, s)) ∨
    ∃ after changed, changeItems o call items s = (.ok after, s) ∧
      Changes call attributes changed ∧ List.Forall₂ Stores after changed ∧
      changed.length ≤ XATTR_MAX_ITEMS := by
  have lengths := stores.length_eq
  have found := findXattrItem_stores stores call.name
  unfold changeItems
  simp only
  split
  · exact Or.inl ⟨_, rfl⟩
  · split
    · exact Or.inl ⟨_, rfl⟩
    · rw [found]
      cases here : attributes.findIdx? (fun a => a.name == call.name) with
      | none =>
          cases asked : call.value with
          | none => exact Or.inl ⟨_, rfl⟩
          | some value =>
              simp only
              by_cases full : XATTR_MAX_ITEMS ≤ items.length
              · left
                rw [if_pos full]
                exact ⟨_, rfl⟩
              · obtain ⟨a, sameName, sameValue, new⟩ := exists_attribute call named short value
                rw [if_neg full, answer_bind]
                cases (if value = [] then none else o.newValue) with
                | some reason => exact Or.inl ⟨_, rfl⟩
                | none =>
                    refine Or.inr ⟨_, _, rfl, .added value a asked here sameName sameValue, ?_, ?_⟩
                    · exact List.rel_append stores (.cons new .nil)
                    · rw [List.length_append, List.length_singleton]
                      omega
      | some idx =>
          cases asked : call.value with
          | none =>
              refine Or.inr ⟨_, _, rfl, .removed idx asked here, stores_eraseIdx stores idx, ?_⟩
              exact (List.length_eraseIdx_le attributes idx).trans few
          | some value =>
              simp only
              obtain ⟨a, sameName, sameValue, new⟩ := exists_attribute call named short value
              rw [answer_bind]
              cases (if value = [] then none else o.newValue) with
              | some reason => exact Or.inl ⟨_, rfl⟩
              | none =>
                  refine Or.inr ⟨_, _, rfl, .replaced idx value a asked here sameName sameValue, ?_,
                    ?_⟩
                  · apply stores_set stores idx
                    obtain ⟨inside, matching, _⟩ := List.findIdx?_eq_some_iff_getElem.mp here
                    have old := stores_at stores idx inside
                    refine ⟨?_, new.valueLen, new.value⟩
                    have same : attributes[idx].name = call.name := by simpa using matching
                    rw [sameName, ← same]
                    exact old.name
                  · rw [List.length_set]
                    exact few

end Items

section Names

variable {call : SetCall} {attributes changed : List Attribute}

theorem binding_cons (a : Attribute) (rest : List Attribute) (name : List UInt8) :
    binding (a :: rest) name = if a.name = name then some a.value else binding rest name := by
  rw [binding, binding, List.find?_cons]
  by_cases same : a.name = name
  · simp [same]
  · rw [if_neg same, beq_false_of_ne same]

theorem binding_append (first second : List Attribute) (name : List UInt8) :
    binding (first ++ second) name = (binding first name).or (binding second name) := by
  rw [binding, binding, binding, List.find?_append, Option.map_or]

/-- What a set or remove call makes of the values that the names have. -/
def updated (call : SetCall) (values : List UInt8 → Option (List UInt8)) :
    List UInt8 → Option (List UInt8) :=
  Function.update values call.name
    (call.value.map fun value => value.take (value.length % 2 ^ 16))

theorem binding_eq_none (name : List UInt8) :
    binding attributes name = none ↔ name ∉ attributes.map Attribute.name := by
  simp only [binding, Option.map_eq_none_iff, List.find?_eq_none, beq_iff_eq, List.mem_map, not_exists,
    not_and]

theorem binding_eraseIdx (idx : Nat) (name other : List UInt8)
    (unique : (attributes.map Attribute.name).Nodup)
    (found : attributes.findIdx? (fun a => a.name == name) = some idx) :
    binding (attributes.eraseIdx idx) other =
      if other = name then none else binding attributes other := by
  induction attributes generalizing idx with
  | nil => simp at found
  | cons a rest ih =>
      rw [List.map_cons, List.nodup_cons] at unique
      rw [List.findIdx?_cons] at found
      by_cases here : a.name = name
      · rw [if_pos (by simpa using here)] at found
        obtain rfl := Option.some.inj found
        rw [List.eraseIdx_zero, List.tail_cons, binding_cons]
        by_cases same : other = name
        · rw [if_pos same, same, ← here]
          exact (binding_eq_none a.name).mpr unique.1
        · rw [if_neg same, if_neg (by rw [here]; exact fun equal => same equal.symm)]
      · rw [if_neg (by simpa using here)] at found
        obtain ⟨idx, later, rfl⟩ := Option.map_eq_some_iff.mp found
        rw [List.eraseIdx_cons_succ, binding_cons, binding_cons, ih idx unique.2 later]
        by_cases same : other = name
        · rw [if_pos same, if_pos same, if_neg (by rw [same]; exact here)]
        · rw [if_neg same, if_neg same]

theorem binding_set (idx : Nat) (a : Attribute) (other : List UInt8)
    (found : attributes.findIdx? (fun b => b.name == a.name) = some idx) :
    binding (attributes.set idx a) other =
      if other = a.name then some a.value else binding attributes other := by
  induction attributes generalizing idx with
  | nil => simp at found
  | cons b rest ih =>
      rw [List.findIdx?_cons] at found
      by_cases here : b.name = a.name
      · rw [if_pos (by simpa using here)] at found
        obtain rfl := Option.some.inj found
        rw [List.set_cons_zero, binding_cons, binding_cons, here]
        by_cases same : other = a.name
        · rw [if_pos same, if_pos same.symm]
        · rw [if_neg same, if_neg fun equal => same equal.symm,
            if_neg fun equal => same equal.symm]
      · rw [if_neg (by simpa using here)] at found
        obtain ⟨idx, later, rfl⟩ := Option.map_eq_some_iff.mp found
        rw [List.set_cons_succ, binding_cons, binding_cons, ih idx later]
        by_cases same : other = a.name
        · rw [if_pos same, if_pos same, if_neg (by rw [same]; exact here)]
        · rw [if_neg same, if_neg same]

theorem binding_concat (a : Attribute) (other : List UInt8)
    (absent : attributes.findIdx? (fun b => b.name == a.name) = none) :
    binding (attributes ++ [a]) other =
      if other = a.name then some a.value else binding attributes other := by
  have fresh : binding attributes a.name = none := by
    rw [binding_eq_none, List.mem_map]
    rintro ⟨b, member, same⟩
    have apart := List.findIdx?_eq_none_iff.mp absent b member
    rw [same, beq_self_eq_true] at apart
    cases apart
  rw [binding_append, binding_cons]
  by_cases same : other = a.name
  · rw [if_pos same, same, fresh, if_pos rfl, Option.none_or]
  · rw [if_neg same, if_neg fun equal => same equal.symm]
    exact Option.or_none

/-- A change is one update of the map from names to values. -/
theorem Changes.binding_eq (changes : Changes call attributes changed)
    (unique : (attributes.map Attribute.name).Nodup) :
    binding changed = updated call (binding attributes) := by
  funext other
  rw [updated, Function.update_apply]
  cases changes with
  | removed idx asked found => rw [binding_eraseIdx idx call.name other unique found, asked]; rfl
  | replaced idx value a asked found named given =>
      rw [← named] at found
      rw [binding_set idx a other found, asked, given, named]
      rfl
  | added value a asked absent named given =>
      rw [← named] at absent
      rw [binding_concat a other absent, asked, given, named]
      rfl

/-- No change gives two attributes one name. -/
theorem Changes.unique (changes : Changes call attributes changed)
    (unique : (attributes.map Attribute.name).Nodup) : (changed.map Attribute.name).Nodup := by
  cases changes with
  | removed idx asked found =>
      exact unique.sublist ((List.eraseIdx_sublist attributes idx).map Attribute.name)
  | replaced idx value a asked found named given =>
      obtain ⟨inside, matching, _⟩ := List.findIdx?_eq_some_iff_getElem.mp found
      have wide : idx < (attributes.map Attribute.name).length := by simpa using inside
      have same : (attributes.map Attribute.name)[idx] = a.name := by simpa [named] using matching
      rw [List.map_set, ← same, List.set_getElem_self]
      exact unique
  | added value a asked absent named given =>
      rw [List.map_append, List.map_singleton, List.nodup_append]
      refine ⟨unique, List.nodup_singleton _, ?_⟩
      intro name member other last same
      rw [List.mem_singleton.mp last] at same
      obtain ⟨b, inside, rfl⟩ := List.mem_map.mp member
      have apart := List.findIdx?_eq_none_iff.mp absent b inside
      rw [same, named, beq_self_eq_true] at apart
      cases apart

theorem Changes.not_nil (changes : Changes call attributes changed) (empty : changed = []) :
    attributes ≠ [] := by
  rintro rfl
  cases changes with
  | removed idx asked found => simp at found
  | replaced idx value a asked found named given => simp at found
  | added value a asked absent named given => simp at empty

end Names

end Xattr

end Cryexts
