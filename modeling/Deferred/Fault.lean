import Deferred.Expr.Placeholder
import Deferred.Number.Shortest
import Deferred.Operator.Basic
import Deferred.Text.Escaped
import Deferred.Text.Integer
import Deferred.Value.Basic

/-!
# Faults of evaluation

Why an evaluation has no value. A fault names its cause; `Fault.message` alone holds the wording.
-/

namespace Deferred

/-- A value of the wrong kind, or an argument that is not what it should be. -/
inductive TypeFault where
  /-- Two kinds without an order between them. -/
  | incomparable (left : Kind) (op : OrderOp) (right : Kind)
  /-- A binary operator that these kinds do not have. -/
  | operands (op : BinaryOp) (left right : Kind)
  /-- A unary operator that this kind does not have. -/
  | operand (op : UnaryOp) (kind : Kind)
  | negativeShift (count : Int64)
  /-- A built-in method without its first argument. -/
  | argumentMissing (method : String)
  /-- A built-in method whose argument has to be a string. -/
  | argumentNotString (method : String) (kind : Kind)
  /-- A text that is no pattern, for a reason in the words of the library. -/
  | invalidPattern (text : String)
  | unknownMethod (name : String) (receiver : Kind)
  | stringKeyOnArray (key : String)
  /-- A kind that has no items under keys of this kind. -/
  | noItems (value key : Kind)
  /-- Raised by a function of the host. -/
  | raised (text : String)
deriving DecidableEq, Repr

/-- Data that is not there. -/
inductive AccessFault where
  | noField (name : String)
  | noAttribute (kind : Kind) (name : String)
  | noMethodOrField (name : String)
  | noMethod (kind : Kind) (name : String)
  | noKey (key : String)
  | arrayIndex (index : Int64) (length : Nat)
  | stringIndex (index : Int64) (length : Nat)
  /-- Raised by a function of the host. -/
  | raised (text : String)
deriving DecidableEq, Repr

/-- A result too large to be held. -/
inductive Excess where
  | integers (left : Int64) (op : BinaryOp) (right : Int64)
  | floats (left : Float) (op : BinaryOp) (right : Float)
  | negation (n : Int64)
  | repetition (s : String) (count : Int64)
  /-- Raised by a function of the host. -/
  | raised (text : String)
deriving DecidableEq, Repr

inductive Fault where
  | type (cause : TypeFault)
  | access (cause : AccessFault)
  | divisionByZero
  | overflow (cause : Excess)
  | notCallable (kind : Kind)
  /-- A placeholder without its argument. -/
  | missingArgument (placeholder : Placeholder)
  /-- A value was wanted of an expression, here given by its text, that still lacks arguments. -/
  | unresolved (text : String)
  /-- Raised by a function of the host. -/
  | failed (text : String)
deriving DecidableEq, Repr

namespace TypeFault

def message : TypeFault → String
  | incomparable left op right =>
    "Cannot compare " ++ left.name ++ " " ++ op.symbol ++ " " ++ right.name
  | operands op left right =>
    "Unsupported operand types for " ++ op.symbol ++ ": " ++ left.name ++ " and " ++ right.name
  | operand op kind => "Bad operand type for unary " ++ op.symbol ++ ": " ++ kind.name
  | negativeShift count => "negative shift count " ++ Text.ofInteger count
  | argumentMissing method => "." ++ method ++ "() requires an argument"
  | argumentNotString method kind =>
    "." ++ method ++ "() argument must be string, got " ++ kind.name
  | invalidPattern text => "invalid regex: " ++ text
  | unknownMethod name receiver => "Unknown method " ++ name ++ " on " ++ receiver.name
  | stringKeyOnArray key =>
    "Cannot use string key '" ++ key ++ "' on array; use integer index instead"
  | noItems value key => "Cannot access " ++ value.name ++ " with " ++ key.name ++ " key"
  | raised text => text

end TypeFault

namespace AccessFault

def message : AccessFault → String
  | noField name => "Field '" ++ name ++ "' not found"
  | noAttribute kind name => kind.name ++ " has no attribute '" ++ name ++ "'"
  | noMethodOrField name => "object has no method or field '" ++ name ++ "'"
  | noMethod kind name => kind.name ++ " has no method '" ++ name ++ "'"
  | noKey key => "Key '" ++ key ++ "' not found"
  | arrayIndex index length =>
    "Array index " ++ Text.ofInteger index ++ " out of bounds (length: " ++ toString length ++ ")"
  | stringIndex index length =>
    "String index " ++ Text.ofInteger index ++ " out of bounds (length: " ++ toString length ++ ")"
  | raised text => text

end AccessFault

namespace Excess

def message : Excess → String
  | integers left op right =>
    Text.ofInteger left ++ " " ++ op.symbol ++ " " ++ Text.ofInteger right
  | floats left op right =>
    Binary64.shortText left ++ " " ++ op.symbol ++ " " ++ Binary64.shortText right
  | negation n => "-(" ++ Text.ofInteger n ++ ")"
  | repetition s count => Escaped.quote s ++ " * " ++ Text.ofInteger count
  | raised text => text

end Excess

namespace Fault

/-- The wording of a fault. -/
def message : Fault → String
  | type cause => "Type error: " ++ cause.message
  | access cause => "Access error: " ++ cause.message
  | divisionByZero => "Division by zero"
  | overflow cause => "Integer overflow: " ++ cause.message
  | notCallable kind => "Value of type " ++ kind.name ++ " is not callable"
  | missingArgument placeholder => "Missing argument for placeholder " ++ placeholder.render
  | unresolved text => "Expression " ++ text ++ " still requires arguments"
  | failed text => text

end Fault

end Deferred
