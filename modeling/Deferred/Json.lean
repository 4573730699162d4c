import Deferred.Value.Basic

/-!
# JSON

Records arrive and leave as JSON trees. A number is an integer of 64 bits, with or without a sign,
or a finite float; these three do not overlap. `Json.toValue` reads a tree as a value and
`Value.toJson` writes a value as a tree, with null for what JSON cannot express.
-/

namespace Deferred

/-- A number of a JSON tree. -/
inductive JsonNumber where
  /-- An integer with at most 63 bits and a sign. -/
  | integer (n : Int64)
  /-- A positive integer that needs all of 64 bits. -/
  | large (n : UInt64) (ge : twoTo 63 ≤ n.toNat)
  /-- A float that is neither infinite nor a NaN. -/
  | real (x : Float) (finite : x.isFinite = true)

/-- A JSON tree. -/
inductive Json where
  | null
  | boolean (b : Bool)
  | number (n : JsonNumber)
  | string (s : String)
  | array (items : List Json)
  | object (fields : Dict Json)
deriving Inhabited

namespace JsonNumber

/-- A number as a value: an integer beyond 63 bits becomes the nearest float. -/
def toValue : JsonNumber → Value
  | integer n => .integer n
  | large n _ => .float (Binary64.ofInt n.toNat)
  | real x _ => .float x

end JsonNumber

namespace Json

mutual

/-- The value of a tree. -/
def toValue : Json → Value
  | null => .null
  | boolean b => .boolean b
  | number n => n.toValue
  | string s => .string s
  | array items => .array (toValues items)
  | object ⟨keys, entry⟩ => .object ⟨keys, fun i => toValue (entry i)⟩
termination_by structural j => j

/-- The values of trees, one by one. -/
def toValues : List Json → List Value
  | [] => []
  | j :: js => toValue j :: toValues js
termination_by structural js => js

end

theorem toValues_eq_map (js : List Json) : toValues js = js.map toValue := by
  induction js with
  | nil => rfl
  | cons j js ih => simp [toValues, ih]

end Json

namespace Value

mutual

/-- The tree of a value. Absence, functions, methods and floats that are not finite become null. -/
def toJson : Value → Json
  | null | unset | function _ | method _ _ => .null
  | boolean b => .boolean b
  | integer n => .number (.integer n)
  | float x => if h : x.isFinite = true then .number (.real x h) else .null
  | string s => .string s
  | array items => .array (toJsons items)
  | object ⟨keys, entry⟩ => .object ⟨keys, fun i => toJson (entry i)⟩
termination_by structural v => v

/-- The trees of values, one by one. -/
def toJsons : List Value → List Json
  | [] => []
  | v :: vs => toJson v :: toJsons vs
termination_by structural vs => vs

end

theorem toJsons_eq_map (vs : List Value) : toJsons vs = vs.map toJson := by
  induction vs with
  | nil => rfl
  | cons v vs ih => simp [toJsons, ih]

end Value

end Deferred
