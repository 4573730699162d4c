import Deferred.Number.Binary64
import Deferred.Order.Dict

/-!
# Values

What flows through the evaluation of an expression: the JSON-like data of a record, with integers
kept apart from floats, and three things that exist only during evaluation. `unset` stands for a
field or an item that does not exist, `function` for a function that the host provides, and `method`
for a built-in method bound to the value it was looked up on.
-/

namespace Deferred

/-- A function of the host. Two functions may share their name and still differ by their tag. -/
structure Function where
  name : String
  tag : Option String
deriving DecidableEq, Repr

inductive Value where
  | null
  | boolean (b : Bool)
  | integer (n : Int64)
  | float (x : Float)
  | string (s : String)
  | array (items : List Value)
  | object (fields : Dict Value)
  | unset
  | function (f : Function)
  | method (receiver : Value) (name : String)
deriving Inhabited

/-- Arguments by name. -/
abbrev Named := Dict Value

/-- What sort of thing a value is. -/
inductive Kind where
  | null
  | boolean
  | integer
  | float
  | string
  | array
  | object
  | unset
  | function
  | method
deriving DecidableEq, Repr

/-- The name of a kind, as messages give it. -/
def Kind.name : Kind → String
  | .null => "null"
  | .boolean => "boolean"
  | .integer => "integer"
  | .float => "float"
  | .string => "string"
  | .array => "array"
  | .object => "object"
  | .unset => "unset"
  | .function => "function"
  | .method => "method"

namespace Value

def kind : Value → Kind
  | null => .null
  | boolean _ => .boolean
  | integer _ => .integer
  | float _ => .float
  | string _ => .string
  | array _ => .array
  | object _ => .object
  | unset => .unset
  | function _ => .function
  | method _ _ => .method

/-- Whether the value is the absence of one. -/
def isUnset : Value → Bool
  | unset => true
  | _ => false

/-- Whether a condition with this value holds: absence, null, zero and what is empty do not. A NaN
is not zero. -/
def truthy : Value → Bool
  | null | unset => false
  | boolean b => b
  | float x => !(x == 0)
  | integer n => n != 0
  | string s => !s.isEmpty
  | array items => !items.isEmpty
  | object fields => !fields.isEmpty
  | function _ | method _ _ => true

/-- The float nearest to an integer. -/
def floatOfInteger (n : Int64) : Float := Binary64.ofInt n.toInt

/-- A number as a float. -/
def asFloat? : Value → Option Float
  | integer n => some (floatOfInteger n)
  | float x => some x
  | _ => none

/-- A number as an integer: a float is rounded, a half away from zero, and held within 64 bits. -/
def asInteger? : Value → Option Int64
  | integer n => some n
  | float x => some (Binary64.toInt64 x)
  | _ => none

def asString? : Value → Option String
  | string s => some s
  | _ => none

@[simp] theorem isUnset_iff {v : Value} : v.isUnset = true ↔ v = unset := by
  cases v <;> simp [isUnset]

end Value

end Deferred
