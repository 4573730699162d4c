import Deferred.Fault
import Deferred.Libraries
import Deferred.Text.Case
import Deferred.Text.Split
import Deferred.Value.Equality

/-!
# Built-in methods

Strings, arrays and objects have methods of their own. `names` lists them by kind, and `invoke` says
what each does with the value it was looked up on. Arguments beyond those a method takes are
ignored.
-/

namespace Deferred

namespace Builtin

/-- The methods of strings. -/
def stringNames : List String :=
  ["upper", "lower", "trim", "strip", "contains", "startswith", "endswith", "matches", "split",
    "len"]

/-- The methods of arrays. -/
def arrayNames : List String := ["len", "count", "contains", "first", "last"]

/-- The methods of objects. -/
def objectNames : List String := ["keys", "values", "get", "len", "contains"]

/-- The methods of a value. -/
def names : Value → List String
  | .string _ => stringNames
  | .array _ => arrayNames
  | .object _ => objectNames
  | _ => []

/-- Whether a value has a method with this name. -/
def has (v : Value) (name : String) : Bool := (names v).contains name

/-- The first argument of a method. -/
def argument (method : String) (args : List Value) : Except Fault Value :=
  match args with
  | v :: _ => .ok v
  | [] => .error (.type (.argumentMissing method))

/-- The first argument of a method that has to be a string. -/
def textArgument (method : String) (args : List Value) : Except Fault String := do
  match ← argument method args with
  | .string s => .ok s
  | v => .error (.type (.argumentNotString method v.kind))

/-- A list of texts as a value. -/
def textArray (pieces : List (List Char)) : Value :=
  .array (pieces.map fun p => .string (String.ofList p))

/-- The number of things as a value. -/
def countOf (n : Nat) : Value := .integer (Int64.ofNat n)

/-- The pieces of a text: its words without a separator, its characters with an empty one. -/
def split (s : String) (args : List Value) : Except Fault Value :=
  match args with
  | [] => .ok (textArray (Text.words s.toList))
  | args => do
    match (← textArgument "split" args).toList with
    | [] => .ok (textArray (s.toList.map ([·])))
    | c :: cs => .ok (textArray (Text.splitOn c cs s.toList))

variable [Patterns]

/-- Whether a text has a match of a pattern. -/
def hasMatch (s pattern : String) : Except Fault Value :=
  match Patterns.compile pattern with
  | .ok isMatch => .ok (.boolean (isMatch s))
  | .error text => .error (.type (.invalidPattern text))

/-- The methods of a string. -/
def invokeString (s : String) (name : String) (args : List Value) : Except Fault Value :=
  match name with
  | "upper" => .ok (.string (String.ofList (Text.upper s.toList)))
  | "lower" => .ok (.string (String.ofList (Text.lower s.toList)))
  | "trim" | "strip" => .ok (.string (String.ofList (Text.trim s.toList)))
  | "contains" => do
    let needle ← textArgument "contains" args
    .ok (.boolean (Text.contains needle.toList s.toList))
  | "startswith" => do
    let start ← textArgument "startswith" args
    .ok (.boolean (start.toList.isPrefixOf s.toList))
  | "endswith" => do
    let tail ← textArgument "endswith" args
    .ok (.boolean (tail.toList.isSuffixOf s.toList))
  | "matches" => do hasMatch s (← textArgument "matches" args)
  | "split" => split s args
  | "len" => .ok (countOf s.length)
  | name => .error (.type (.unknownMethod name .string))

/-- The methods of an array. -/
def invokeArray (items : List Value) (name : String) (args : List Value) : Except Fault Value :=
  match name with
  | "len" => .ok (countOf items.length)
  | "count" =>
    match args with
    | [] => .ok (countOf items.length)
    | needle :: _ => .ok (countOf (items.countP (· == needle)))
  | "contains" => do
    let needle ← argument "contains" args
    .ok (.boolean (items.any (· == needle)))
  | "first" => .ok (items.head?.getD .null)
  | "last" => .ok (items.getLast?.getD .null)
  | name => .error (.type (.unknownMethod name .array))

/-- The methods of an object. -/
def invokeObject (fields : Dict Value) (name : String) (args : List Value) (named : Named) :
    Except Fault Value :=
  match name with
  | "keys" => .ok (.array (fields.keys.toList.map .string))
  | "values" => .ok (.array fields.values)
  | "get" => do
    let key ← textArgument "get" args
    let default := (args[1]?.or (named.get? "default")).getD .null
    .ok ((fields.get? key).getD default)
  | "len" => .ok (countOf fields.size)
  | "contains" => do
    let key ← textArgument "contains" args
    .ok (.boolean (fields.contains key))
  | name => .error (.type (.unknownMethod name .object))

/-- Calls the method `name` on a value. -/
def invoke (receiver : Value) (name : String) (args : List Value) (named : Named) :
    Except Fault Value :=
  match receiver with
  | .string s => invokeString s name args
  | .array items => invokeArray items name args
  | .object fields => invokeObject fields name args named
  | v => .error (.type (.unknownMethod name v.kind))

end Builtin

end Deferred
