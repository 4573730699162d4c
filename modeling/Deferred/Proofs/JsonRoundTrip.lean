import Deferred.Proofs.IntegerFloats
import Deferred.Proofs.Members

/-!
# Values and JSON trees

A tree read as a value and written again differs from what it was only in integers beyond 63 bits,
which have become floats; a value written as a tree and read again only in what JSON cannot express,
which has become null, at any depth (`Value.nulled`).

Main statement (`Json.round_trip`): where there are no such integers, or nothing that JSON cannot
express, both ways are inverse to each other, and no integer becomes a float or the other way round.
-/

namespace Deferred

namespace Value

/-- Whether JSON has a form for the value, apart from its members. -/
def hasJsonForm : Value → Bool
  | unset | function _ | method _ _ => false
  | float x => x.isFinite
  | _ => true

mutual

/-- The value with null in the place of everything that has no form in JSON. -/
def nulled : Value → Value
  | array items => array (nulledItems items)
  | object ⟨keys, entry⟩ => object ⟨keys, fun i => nulled (entry i)⟩
  | v => if v.hasJsonForm then v else null
termination_by structural v => v

/-- Values with null in the place of everything that has no form in JSON. -/
def nulledItems : List Value → List Value
  | [] => []
  | v :: vs => nulled v :: nulledItems vs
termination_by structural vs => vs

end

theorem nulledItems_eq_map (vs : List Value) : nulledItems vs = vs.map nulled := by
  induction vs with
  | nil => rfl
  | cons v vs ih => rw [nulledItems, ih, List.map_cons]

end Value

/-! ## Containers are read and written member by member -/

theorem Json.toValue_array (items : List Json) :
    (array items).toValue = .array (items.map toValue) := by
  rw [toValue, toValues_eq_map]

theorem Json.toValue_object (fields : Dict Json) :
    (object fields).toValue = .object (fields.map toValue) := by
  rw [toValue]
  rfl

namespace Value

theorem toJson_array (items : List Value) : (array items).toJson = .array (items.map toJson) := by
  rw [toJson, toJsons_eq_map]

theorem toJson_object (fields : Dict Value) :
    (object fields).toJson = .object (fields.map toJson) := by
  rw [toJson]
  rfl

theorem nulled_array (items : List Value) : (array items).nulled = .array (items.map nulled) := by
  rw [nulled, nulledItems_eq_map]

theorem nulled_object (fields : Dict Value) :
    (object fields).nulled = .object (fields.map nulled) := by
  rw [nulled]
  rfl

theorem toJson_float {x : Float} (h : x.isFinite = true) :
    (float x).toJson = .number (.real x h) := by
  rw [toJson, dif_pos h]

/-! ## From values to trees and back -/

/-- A value written and read again has null where it has no form in JSON. -/
theorem toValue_toJson (v : Value) : v.toJson.toValue = v.nulled := by
  induction v using Value.ind with
  | value v ih =>
    cases v with
    | array items =>
      rw [toJson_array, Json.toValue_array, nulled_array, List.map_map]
      exact congrArg Value.array (List.map_congr_left ih)
    | object fields =>
      rw [toJson_object, Json.toValue_object, nulled_object]
      exact congrArg Value.object (Dict.map_congr ih)
    | float x =>
      by_cases h : x.isFinite = true
      · rw [toJson_float h]
        exact (if_pos h).symm
      · rw [toJson, dif_neg h]
        exact (if_neg h).symm
    | _ => rfl

/-- Nothing is replaced in a value that JSON can express at every depth. -/
theorem nulled_eq_self {v : Value} (h : ∀ w ∈ v.parts, w.hasJsonForm = true) : v.nulled = v := by
  induction v using Value.ind with
  | value v ih =>
    have hmembers : ∀ w ∈ v.members, w.nulled = w := fun w hw =>
      ih w hw (forall_parts_of_mem_members h hw)
    have hself := h v v.self_mem_parts
    cases v with
    | array items =>
      rw [nulled_array]
      exact congrArg Value.array ((List.map_congr_left hmembers).trans (List.map_id items))
    | object fields =>
      rw [nulled_object]
      exact congrArg Value.object (Dict.map_eq_self hmembers)
    | float x => exact if_pos hself
    | null => rfl
    | boolean b => rfl
    | integer n => rfl
    | string s => rfl
    | unset => cases hself
    | function f => cases hself
    | method receiver name => cases hself

end Value

namespace JsonNumber

/-- Whether the number is an integer that needs all of 64 bits. -/
def isLarge : JsonNumber → Bool
  | large _ _ => true
  | _ => false

theorem isFinite_ofInt_large {n : UInt64} (h : twoTo 63 ≤ n.toNat) :
    (Binary64.ofInt n.toNat).isFinite = true := by
  have hlow : twoTo 53 ≤ n.toNat := Nat.le_trans (by decide) h
  exact Binary64.isFinite_ofInt hlow n.toNat_lt

end JsonNumber

namespace Json

/-- What is read from a tree can be expressed in JSON. -/
theorem nulled_toValue (j : Json) : j.toValue.nulled = j.toValue := by
  induction j using Json.ind with
  | tree j ih =>
    cases j with
    | array items =>
      rw [toValue_array, Value.nulled_array, List.map_map]
      exact congrArg Value.array (List.map_congr_left ih)
    | object fields =>
      rw [toValue_object, Value.nulled_object]
      exact congrArg Value.object (Dict.map_congr ih)
    | number n =>
      cases n with
      | integer n => rfl
      | large n hn => exact if_pos (JsonNumber.isFinite_ofInt_large hn)
      | real x hx => exact if_pos hx
    | null => rfl
    | boolean b => rfl
    | string s => rfl

/-- A tree without integers beyond 63 bits is written as it was read. -/
theorem toJson_toValue {j : Json} (h : ∀ n ∈ j.numbers, n.isLarge = false) :
    j.toValue.toJson = j := by
  induction j using Json.ind with
  | tree j ih =>
    have hmembers : ∀ k ∈ j.members, k.toValue.toJson = k := fun k hk =>
      ih k hk fun n hn => h n (mem_numbers_of_mem_members hk hn)
    cases j with
    | array items =>
      rw [toValue_array, Value.toJson_array, List.map_map]
      exact congrArg Json.array ((List.map_congr_left hmembers).trans (List.map_id items))
    | object fields =>
      rw [toValue_object, Value.toJson_object]
      exact congrArg Json.object (Dict.map_eq_self hmembers)
    | number n =>
      cases n with
      | integer n => rfl
      | large n hn => cases h _ List.mem_cons_self
      | real x hx => exact Value.toJson_float hx
    | null => rfl
    | boolean b => rfl
    | string s => rfl

/-- Trees without integers beyond 63 bits are written as they were read, and all trees are read
again as they were read before. Values that JSON can express are read as they were written, and of
others just what it cannot express is null. -/
theorem round_trip :
    (∀ j : Json, (∀ n ∈ j.numbers, n.isLarge = false) → j.toValue.toJson = j) ∧
    (∀ j : Json, j.toValue.toJson.toValue = j.toValue) ∧
    (∀ v : Value, (∀ w ∈ v.parts, w.hasJsonForm = true) → v.toJson.toValue = v) ∧
    ∀ v : Value, v.toJson.toValue = v.nulled := by
  refine ⟨fun j h => toJson_toValue h, fun j => ?_, fun v h => ?_, Value.toValue_toJson⟩
  · rw [Value.toValue_toJson, nulled_toValue]
  · rw [Value.toValue_toJson, Value.nulled_eq_self h]

/-- A record in which whole floats and a negative zero stand beside integers. -/
def shipment : Json :=
  .object (Dict.ofList
    [("parcels",
        .array [.number (.integer 2), .number (.real 2.0 rfl), .number (.real (-0.0) rfl)]),
      ("to", .object (Dict.ofList [("street", .null), ("number", .number (.integer (-7)))]))])

/-- The smallest integer that is read as a float, as the only item of an array. -/
def smallestLarge : Json := .array [.number (.large 9223372036854775808 (by decide))]

theorem round_trip_shipment :
    shipment.toValue.toJson = shipment ∧
    shipment.toValue.toJson.toValue = shipment.toValue ∧
    smallestLarge.toValue.toJson.toValue = .array [.float 9223372036854775808.0] ∧
    (Value.array [.unset, .float (1.0 / 0.0), .array [.float 2.0, .integer 2]]).toJson.toValue =
      .array [.null, .null, .array [.float 2.0, .integer 2]] := by
  have hnumbers : ∀ n ∈ shipment.numbers, n.isLarge = false := by decide
  have hparts : ∀ v ∈ shipment.toValue.parts, v.hasJsonForm = true :=
    List.all_eq_true.1 (by decide)
  exact ⟨round_trip.1 shipment hnumbers, round_trip.2.2.1 shipment.toValue hparts,
    round_trip.2.1 smallestLarge, round_trip.2.2.2 _⟩

end Json

end Deferred
