import Deferred.Fault
import Deferred.Number.Integer

/-!
# Operators on two integers

Results are exact or refused. A quotient is an integer when the divisor goes in without a remainder
and a float otherwise; floor division rounds down and the remainder has the sign of the divisor.
-/

namespace Deferred

namespace Value

/-- The value of an exact result, or the fault of `a op b` when it does not fit. -/
def exact (op : BinaryOp) (a b : Int64) : Option Int64 → Except Fault Value
  | some r => .ok (.integer r)
  | none => .error (.overflow (.integers a op b))

/-- The power of two floats. Zero has no negative power, and a finite base and exponent have no
infinite one. -/
def floatPower (a b : Float) : Except Fault Value :=
  if a == 0 && b < 0 then .error .divisionByZero
  else
    let r := a.pow b
    if r.isInf && a.isFinite && b.isFinite then
      .error (.overflow (.floats a (.arith .power) b))
    else .ok (.float r)

/-- Arithmetic on two integers. A quotient is looked at only where the remainder is not refused. -/
def integerArith (op : ArithOp) (a b : Int64) : Except Fault Value :=
  if op.divides && b == 0 then .error .divisionByZero
  else
    match op with
    | .add => exact (.arith op) a b (Integer.ofInt? (a.toInt + b.toInt))
    | .subtract => exact (.arith op) a b (Integer.ofInt? (a.toInt - b.toInt))
    | .multiply => exact (.arith op) a b (Integer.ofInt? (a.toInt * b.toInt))
    | .divide =>
      match Integer.rem? a b with
      | some r =>
        if r == 0 then exact (.arith op) a b (Integer.div? a b)
        else .ok (.float (floatOfInteger a / floatOfInteger b))
      | none => exact (.arith op) a b none
    | .floorDivide => exact (.arith op) a b (Integer.floorDiv? a b)
    | .modulo => exact (.arith op) a b (Integer.floorMod? a b)
    | .power =>
      if b < 0 then
        if a == 0 then .error .divisionByZero
        else floatPower (floatOfInteger a) (floatOfInteger b)
      else exact (.arith op) a b (Integer.power? a b)

/-- Shifts of an integer. Bits that leave at the top are not lost but refused. -/
def integerShift (op : ShiftOp) (a b : Int64) : Except Fault Value :=
  if b < 0 then .error (.type (.negativeShift b))
  else
    match op with
    | .left => exact (.shift op) a b (Integer.shiftLeft? a (Integer.places b))
    | .right => .ok (.integer (Integer.shiftRight a (Integer.places b)))

/-- Operations on the bits of two integers. -/
def integerBits (op : BitOp) (a b : Int64) : Int64 :=
  match op with
  | .and => a &&& b
  | .or => a ||| b
  | .xor => a ^^^ b

end Value

end Deferred
