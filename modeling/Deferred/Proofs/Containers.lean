import Deferred.Proofs.Positions

/-!
# What containers say of themselves

The methods of an object and access to its fields are separate ways to the same fields. They are
tied to one list of keys and one list of values (`Builtin.KeepsTo`): the keys that are listed are
those under which there is a field, and the values are the fields under them, in their order. The
methods of an array are tied to the number of its items that are equal to what is looked for
(`Builtin.Counted`), and its ends to its first and last positions.

Main statement: `containers_agree`.
-/

namespace Deferred

/-! ## Objects -/

namespace Dict

variable {α : Type} (d : Dict α)

theorem length_values : d.values.length = d.keys.toList.length := by
  simp [values]

/-- What is the same of each key and of its value is the same along all keys and values. -/
theorem map_keys_eq_map_values {β : Type} {f : String → β} {g : α → β}
    (h : ∀ i, f d.keys.toList[i] = g (d.entry i)) : d.keys.toList.map f = d.values.map g := by
  apply List.ext_getElem
  · simp [length_values]
  · intro i hi hi'
    rw [List.length_map] at hi
    simpa [values] using h ⟨i, hi⟩

end Dict

namespace Value

/-- The field under a key, looked up as an item. -/
theorem item_object (fields : Dict Value) (k : String) :
    (object fields).item (string k) = foundOr (.noKey k) (fields.get? k) := by
  rw [item, fieldItem]
  cases fields.get? k <;> rfl

theorem foundOr_eq_ok_iff {fault : AccessFault} {found : Option Value} {v : Value} :
    foundOr fault found = .ok v ↔ found = some v := by
  cases found <;> simp [foundOr]

@[simp] theorem toOption_foundOr (fault : AccessFault) (found : Option Value) :
    (foundOr fault found).toOption = found := by
  cases found <;> rfl

end Value

namespace Builtin

/-- What the methods of an object and access to its fields say, all in terms of these keys and
values. -/
structure KeepsTo [Patterns] (o : Value) (keys : List String) (values : List Value) : Prop where
  keys_eq : ∀ args named, invoke o "keys" args named = .ok (.array (keys.map .string))
  values_eq : ∀ args named, invoke o "values" args named = .ok (.array values)
  len : ∀ args named, Counts keys.length (invoke o "len" args named)
  ascending : keys.Pairwise (· < ·)
  length_values : values.length = keys.length
  fields : keys.map (fun k => o.item (.string k)) = values.map .ok
  listed_iff : ∀ k, k ∈ keys ↔ ∃ v, o.item (.string k) = .ok v
  contains : ∀ k rest named,
    invoke o "contains" (.string k :: rest) named = .ok (.boolean (decide (k ∈ keys)))
  get : ∀ k default rest named, invoke o "get" (.string k :: default :: rest) named =
    .ok ((o.item (.string k)).toOption.getD default)
  get_named : ∀ k default (named : Named),
    invoke o "get" [.string k] (named.insert "default" default) =
      .ok ((o.item (.string k)).toOption.getD default)
  probe_get : ∀ k default,
    (Probe.mk o).get k default = (o.item (.string k)).toOption.getD default

theorem keepsTo [Patterns] (fields : Dict Value) :
    KeepsTo (.object fields) fields.keys.toList fields.values where
  keys_eq args named := rfl
  values_eq args named := rfl
  len args named := counts_countOf fields.size
  ascending := fields.keys.pairwise
  length_values := fields.length_values
  fields := by
    apply Dict.map_keys_eq_map_values
    intro i
    rw [Value.item_object, Dict.get?_getElem]
    rfl
  listed_iff k := by
    simp only [Value.item_object, Value.foundOr_eq_ok_iff]
    exact Dict.mem_keys_iff
  contains k rest named := rfl
  get k default rest named := by
    rw [Value.item_object, Value.toOption_foundOr]
    rfl
  get_named k default named := by
    rw [Value.item_object, Value.toOption_foundOr]
    show Except.ok _ = _
    simp [Dict.get?_insert]
  probe_get k default := by
    rw [Value.item_object, Value.toOption_foundOr]
    rfl

/-! ## Arrays -/

/-- What the methods of an array say, in terms of the items that are equal to what is looked for. -/
structure Counted [Patterns] (items : List Value) : Prop where
  len : ∀ args named, Counts items.length (invoke (.array items) "len" args named)
  count_all : ∀ named, Counts items.length (invoke (.array items) "count" [] named)
  count : ∀ x rest named,
    Counts (items.countP (· == x)) (invoke (.array items) "count" (x :: rest) named)
  count_le : ∀ x : Value, items.countP (· == x) ≤ items.length
  contains : ∀ x rest named, invoke (.array items) "contains" (x :: rest) named =
    .ok (.boolean (decide (0 < items.countP (· == x))))
  first : ∀ args named, invoke (.array items) "first" args named =
    if items.isEmpty then .ok .null else (Value.array items).item (.integer 0)
  last : ∀ args named, invoke (.array items) "last" args named =
    if items.isEmpty then .ok .null else (Value.array items).item (.integer (-1))

theorem any_eq_decide_countP {α : Type} (p : α → Bool) (items : List α) :
    items.any p = decide (0 < items.countP p) := by
  rw [Bool.eq_iff_iff, List.any_eq_true, decide_eq_true_iff, List.countP_pos_iff]

theorem counted [Patterns] (items : List Value) : Counted items where
  len args named := counts_countOf items.length
  count_all named := counts_countOf items.length
  count x rest named := counts_countOf (items.countP (· == x))
  count_le x := List.countP_le_length
  contains x rest named := by
    rw [← any_eq_decide_countP]
    rfl
  first args named := by
    rw [Value.item_array, atIndex?_zero]
    cases items <;> rfl
  last args named := by
    rw [Value.item_array, atIndex?_neg_one]
    cases items with
    | nil => rfl
    | cons v vs => simp [invoke, invokeArray, List.getLast?_cons, Value.foundOr]

/-- Every object keeps to one list of keys and one of values, whether its methods are asked or its
fields are looked up; and the methods of every array agree on which of its items they find. -/
theorem containers_agree [Patterns] :
    (∀ fields, KeepsTo (.object fields) fields.keys.toList fields.values) ∧
      ∀ items, Counted items :=
  ⟨keepsTo, counted⟩

/-- An integer is found where there is a float that is equal to it. -/
example : invoke (.array [.integer 1, .string "1", .float 1]) "count" [.integer 1] ∅ =
    .ok (.integer 2) := rfl

end Builtin

end Deferred
