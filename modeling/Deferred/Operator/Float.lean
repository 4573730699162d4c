import Deferred.Libraries
import Deferred.Operator.Integer

/-!
# Arithmetic with floats

Two floats are computed with as binary numbers. An integer and a float are computed with as
decimals of a library, so that `100 * 1.1` is the integer 110; where the decimals cannot hold an
operand or the result, the two are computed with as floats.
-/

namespace Deferred

namespace Value

/-- The remainder of `a` on division by `b`, with the sign of `b`. -/
def floatModulo (a b : Float) : Float :=
  let r := Binary64.remainder a b
  if !(r == 0) && decide (r < 0) != decide (b < 0) then r + b else r

/-- Arithmetic on two floats. -/
def floatArith (op : ArithOp) (a b : Float) : Except Fault Value :=
  if op.divides && b == 0 then .error .divisionByZero
  else
    match op with
    | .add => .ok (.float (a + b))
    | .subtract => .ok (.float (a - b))
    | .multiply => .ok (.float (a * b))
    | .divide => .ok (.float (a / b))
    | .floorDivide => .ok (.float (Binary64.floor (a / b)))
    | .modulo => .ok (.float (floatModulo a b))
    | .power => floatPower a b

section Decimals

open Decimals

variable [Decimals]

/-- The value of a decimal: an integer if it is whole and fits, else a float. -/
def ofDecimal (d : Decimal) : Option Value :=
  match toInteger? d with
  | some n => some (integer n)
  | none => (toFloat? d).map float

/-- The remainder of `a` on division by `b`, with the sign of `b`. -/
def decimalModulo (a b : Decimal) : Option Decimal :=
  (remainder a b).bind fun r =>
    if !isZero r && isNegative r != isNegative b then Decimals.add r b else some r

/-- Arithmetic on two decimals; there is no decimal power. -/
def decimalArith (op : ArithOp) (a b : Decimal) : Option Decimal :=
  match op with
  | .add => Decimals.add a b
  | .subtract => subtract a b
  | .multiply => multiply a b
  | .divide => divide a b
  | .floorDivide => (divide a b).map Decimals.floor
  | .modulo => decimalModulo a b
  | .power => none

/-- Arithmetic on two numbers of which one is an integer and one a float; `x` and `y` are their
floats. -/
def mixedArith (op : ArithOp) (a b : Option Decimal) (x y : Float) : Except Fault Value :=
  match a, b with
  | some a, some b =>
    if op.divides && isZero b then .error .divisionByZero
    else
      match (decimalArith op a b).bind ofDecimal with
      | some v => .ok v
      | none => floatArith op x y
  | _, _ => floatArith op x y

end Decimals

end Value

end Deferred
