import Deferred.Operator.Float
import Deferred.Value.Equality

/-!
# Applying operators

What each operator means on values of any kind. Absence on either side comes before everything
else: it equals only absence, it stands in no order, and every other operator passes it on.
-/

namespace Deferred

variable [Decimals]

namespace Value

/-- The order of two floats; a NaN has none. -/
def compareFloats (a b : Float) : Option Ordering :=
  if a < b then some .lt else if a == b then some .eq else if b < a then some .gt else none

/-- The order between two numbers, two strings or two booleans. Integers are compared exactly with
each other and as floats with floats. -/
def compare? : Value → Value → Option Ordering
  | integer a, integer b => some (compare a.toInt b.toInt)
  | string a, string b => some (compare a b)
  | boolean a, boolean b => some (compare a b)
  | v, w =>
    match v.asFloat?, w.asFloat? with
    | some a, some b => compareFloats a b
    | _, _ => none

/-- The fault of a binary operator that the kinds of two values do not have. -/
def unsupported (op : BinaryOp) (v w : Value) : Except Fault Value :=
  .error (.type (.operands op v.kind w.kind))

/-- Arithmetic on two numbers. -/
def arith (op : ArithOp) (v w : Value) : Except Fault Value :=
  match v, w with
  | integer a, integer b => integerArith op a b
  | float a, float b => floatArith op a b
  | integer a, float b =>
    mixedArith op (Decimals.ofInteger? a) (Decimals.ofFloat? b) (floatOfInteger a) b
  | float a, integer b =>
    mixedArith op (Decimals.ofFloat? a) (Decimals.ofInteger? b) a (floatOfInteger b)
  | v, w => unsupported (.arith op) v w

/-- `count` copies of a text after each other; none for a negative count. The result has to have
fewer than 2^63 bytes. -/
def repeated (s : String) (count : Int64) : Except Fault Value :=
  let n := count.toInt.toNat
  if twoTo 63 ≤ s.utf8ByteSize * n then .error (.overflow (.repetition s count))
  -- Copies of the empty text are not counted out one by one.
  else if s.isEmpty then .ok (.string "")
  else .ok (.string (String.join (List.replicate n s)))

/-- Bit operations, which are the logical ones on booleans. -/
def bits (op : BitOp) (v w : Value) : Except Fault Value :=
  match v, w with
  | boolean a, boolean b =>
    .ok (.boolean (match op with
      | .and => a && b
      | .or => a || b
      | .xor => a != b))
  | integer a, integer b => .ok (.integer (integerBits op a b))
  | v, w => unsupported (.bits op) v w

/-- Shifts. -/
def shift (op : ShiftOp) (v w : Value) : Except Fault Value :=
  match v, w with
  | integer a, integer b => integerShift op a b
  | v, w => unsupported (.shift op) v w

end Value

namespace BinaryOp

/-- The operator on two values neither of which is absent. -/
def applyPresent (op : BinaryOp) (v w : Value) : Except Fault Value :=
  match op with
  | equal => .ok (.boolean (v == w))
  | notEqual => .ok (.boolean (!(v == w)))
  | order o =>
    match v.compare? w with
    | some c => .ok (.boolean (o.holds c))
    | none => .error (.type (.incomparable v.kind o w.kind))
  | arith .add =>
    match v, w with
    | .string s, .string t => .ok (.string (s ++ t))
    | .array xs, .array ys => .ok (.array (xs ++ ys))
    | v, w => v.arith .add w
  | arith .multiply =>
    match v, w with
    | .string s, .integer n => Value.repeated s n
    | .integer n, .string s => Value.repeated s n
    | v, w => v.arith .multiply w
  | arith o => v.arith o w
  | bits o => v.bits o w
  | shift o => v.shift o w

/-- The operator where one of the two values is absent. -/
def applyAbsent (op : BinaryOp) (v w : Value) : Value :=
  match op with
  | equal => .boolean (v == w)
  | notEqual => .boolean (!(v == w))
  | order _ => .boolean false
  | _ => .unset

/-- The value of `v op w`. -/
def apply (op : BinaryOp) (v w : Value) : Except Fault Value :=
  if v.isUnset || w.isUnset then .ok (op.applyAbsent v w) else op.applyPresent v w

end BinaryOp

namespace UnaryOp

/-- The value of `op v`. -/
def apply (op : UnaryOp) (v : Value) : Except Fault Value :=
  match op, v with
  | _, .unset => .ok .unset
  | negate, .integer n =>
    match Integer.ofInt? (-n.toInt) with
    | some r => .ok (.integer r)
    | none => .error (.overflow (.negation n))
  | negate, .float x => .ok (.float (-x))
  | plus, .integer n => .ok (.integer n)
  | plus, .float x => .ok (.float x)
  | invert, .boolean b => .ok (.boolean !b)
  | invert, .integer n => .ok (.integer (~~~n))
  | op, v => .error (.type (.operand op v.kind))

end UnaryOp

end Deferred
