import Deferred.Number.Power

/-!
# Exact readings of binary floating-point numbers

A finite `Float` is ± m · 2^e for naturals `m` and integers `e`. This module reads the three parts
off the bit pattern and computes on them in exact arithmetic what needs a whole number: the integer
part, the floor, the nearest integer, and the remainder of a division.
-/

namespace Deferred

/-- The number ± `mantissa` · 2^`exponent`. -/
structure Dyadic where
  negative : Bool
  mantissa : Nat
  exponent : Int
deriving DecidableEq, Repr

namespace Dyadic

/-- The exact value of a finite float; `none` for an infinity and for a NaN. -/
def ofFloat? (x : Float) : Option Dyadic :=
  let bits := x.toBits.toNat
  let negative := bits / twoTo 63 == 1
  let field : Nat := bits / twoTo 52 % twoTo 11
  let fraction := bits % twoTo 52
  if field = 2047 then none
  else if field = 0 then some ⟨negative, fraction, -1074⟩
  else some ⟨negative, twoTo 52 + fraction, field - 1075⟩

/-- The magnitude without its fraction. -/
def truncated (d : Dyadic) : Nat :=
  if 0 ≤ d.exponent then d.mantissa * twoTo d.exponent.toNat
  else d.mantissa / twoTo (-d.exponent).toNat

/-- Whether the number is whole. -/
def isWhole (d : Dyadic) : Bool :=
  decide (0 ≤ d.exponent) || d.mantissa % twoTo (-d.exponent).toNat == 0

/-- The integer nearest to the number; a half goes away from zero. -/
def rounded (d : Dyadic) : Int :=
  let magnitude : Nat :=
    if 0 ≤ d.exponent then d.mantissa * twoTo d.exponent.toNat
    else
      let unit := twoTo (-d.exponent).toNat
      (2 * d.mantissa + unit) / (2 * unit)
  if d.negative then -magnitude else magnitude

/-- The magnitude `mantissa` · 2^`exponent` as a float, the nearest one if it is none itself. -/
def toFloat (d : Dyadic) : Float :=
  let magnitude :=
    if 0 ≤ d.exponent then Float.ofNat (d.mantissa * twoTo d.exponent.toNat)
    else
      let places := (-d.exponent).toNat
      Float.ofScientific (d.mantissa * Nat.pow 5 places) true places
  if d.negative then -magnitude else magnitude

/-- What is left of `d` when the whole multiples of `e` are taken away, with the sign of `d`. -/
def remainder (d e : Dyadic) : Dyadic :=
  let low := min d.exponent e.exponent
  let m := d.mantissa * twoTo (d.exponent - low).toNat
  let n := e.mantissa * twoTo (e.exponent - low).toNat
  ⟨d.negative, m % n, low⟩

end Dyadic

namespace Binary64

/-- The float of an integer, the nearest one if it is none itself. -/
def ofInt (n : Int) : Float := Float.ofInt n

/-- The greatest whole float that is not above `x`; infinities and NaN stay what they are. -/
def floor (x : Float) : Float :=
  match Dyadic.ofFloat? x with
  | none => x
  | some d =>
    if d.isWhole then x
    else if d.negative then -Float.ofNat (d.truncated + 1)
    else Float.ofNat d.truncated

/-- The nearest integer, a half away from zero, held within 64 bits; zero for NaN. -/
def toInt64 (x : Float) : Int64 :=
  match Dyadic.ofFloat? x with
  | some d => Int64.ofIntClamp d.rounded
  | none => if x.isNaN then 0 else if x < 0 then Int64.minValue else Int64.maxValue

/-- The remainder of `x` on division by `y`, exact and with the sign of `x`. -/
def remainder (x y : Float) : Float :=
  match Dyadic.ofFloat? x, Dyadic.ofFloat? y with
  | some d, some e => if e.mantissa = 0 then 0 / 0 else (d.remainder e).toFloat
  | some _, none => if y.isNaN then y else x
  | none, _ => 0 / 0

end Binary64

end Deferred
