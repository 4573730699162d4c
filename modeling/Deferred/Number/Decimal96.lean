import Deferred.Number.Binary64

/-!
# Decimal numbers of 96 bits

A `Decimal96` is a coefficient of at most 96 bits over a power of ten with at most 28 places. Sums,
products and quotients are computed exactly first and then brought within those bounds by dropping
places, a half going to the even neighbour; what has no places left to drop has no result.

Binary floats enter with the digits that matter: a float such as 1.1 becomes 11/10, not the long
expansion of its exact value.
-/

namespace Deferred

/-- The number `coefficient` / 10^`places`. -/
structure Decimal96 where
  coefficient : Int
  places : Nat
deriving DecidableEq, Repr

namespace Decimal96

/-- The first coefficient magnitude that is too large. -/
def bound : Nat := twoTo 96

/-- The greatest number of places. -/
def maxPlaces : Nat := 28

def ofInt (n : Int) : Decimal96 := ⟨n, 0⟩

def isZero (d : Decimal96) : Bool := d.coefficient == 0

def isNegative (d : Decimal96) : Bool := d.coefficient < 0

/-! ### Rounding -/

/-- The whole number nearest to `num` / `den`, of two equally near the even one. -/
def roundHalfEven (num den : Nat) : Nat :=
  let q := num / den
  match compare (2 * (num % den)) den with
  | .lt => q
  | .eq => q + q % 2
  | .gt => q + 1

/-- How many last digits have to go before a magnitude has at most 96 bits. -/
def excessDigits (m : Nat) : Nat :=
  if m < bound then 0 else excessDigits (m / 10) + 1
termination_by m
decreasing_by
  next h =>
    have : 0 < bound := by decide
    omega

/-- Drops the `drop` last places of a magnitude. -/
def dropPlaces (m places drop : Nat) : Option (Nat × Nat) :=
  if places < drop then none
  else
    let r := roundHalfEven m (tenTo drop)
    if r < bound then some (r, places - drop)
    -- Rounding can carry into a digit too many; one more place goes then.
    else if places < drop + 1 then none
    else some ((r + 5) / 10, places - drop - 1)

/-- The number ± `m` / 10^`places`, with as many places dropped as the bounds require. -/
def within (negative : Bool) (m places : Nat) : Option Decimal96 :=
  (dropPlaces m places (max (excessDigits m) (places - maxPlaces))).map fun (r, p) =>
    ⟨if negative then -r else r, p⟩

/-- Removes zeros at the end of the places. -/
def trimZeros (m : Nat) : Nat → Nat × Nat
  | 0 => (m, 0)
  | places + 1 => if m % 10 = 0 then trimZeros (m / 10) places else (m, places + 1)

/-! ### Arithmetic -/

/-- The coefficients of two numbers over the greater number of places. -/
def align (a b : Decimal96) : Int × Int × Nat :=
  let p := max a.places b.places
  (a.coefficient * tenTo (p - a.places), b.coefficient * tenTo (p - b.places), p)

def add (a b : Decimal96) : Option Decimal96 :=
  if a.isZero then some b
  else if b.isZero then some a
  else
    let (m, n, p) := align a b
    within (m + n < 0) (m + n).natAbs p

def neg (a : Decimal96) : Decimal96 := ⟨-a.coefficient, a.places⟩

def sub (a b : Decimal96) : Option Decimal96 := a.add b.neg

def mul (a b : Decimal96) : Option Decimal96 :=
  if a.isZero || b.isZero then some ⟨0, 0⟩
  else
    let m := a.coefficient * b.coefficient
    within (m < 0) m.natAbs (a.places + b.places)

/-- The greatest number of places at which the whole part of `num` · 10^places / `den` has at most
96 bits, tried from `places` down. -/
def quotientPlaces (num den : Nat) : Nat → Option Nat
  | 0 => if num / den < bound then some 0 else none
  | p + 1 => if num * tenTo (p + 1) / den < bound then some (p + 1) else quotientPlaces num den p

/-- The quotient at the greatest number of places it can have, without zeros at the end; `none` for
a zero divisor. -/
def div (a b : Decimal96) : Option Decimal96 :=
  if b.isZero then none
  else if a.isZero then some ⟨0, 0⟩
  else
    let num := a.coefficient.natAbs * tenTo b.places
    let den := b.coefficient.natAbs * tenTo a.places
    (quotientPlaces num den maxPlaces).bind fun p =>
      let q := roundHalfEven (num * tenTo p) den
      -- Rounding can carry into a digit too many; one more place goes then.
      let (q, p) := if q < bound then (q, p) else ((q + 5) / 10, p - 1)
      let (q, p) := trimZeros q p
      some ⟨if a.isNegative != b.isNegative then -q else q, p⟩

/-- What is left of `a` when the whole multiples of `b` are taken away, with the sign of `a`; `none`
for a zero divisor. -/
def rem (a b : Decimal96) : Option Decimal96 :=
  if b.isZero then none
  else
    let (m, n, p) := align a b
    match compare m.natAbs n.natAbs with
    | .lt => some a
    | .eq => some ⟨0, 0⟩
    | .gt => some ⟨m.tmod n, p⟩

/-- The greatest whole number that is not above `a`. -/
def floor (a : Decimal96) : Decimal96 := ⟨a.coefficient.fdiv (tenTo a.places), 0⟩

/-- The number as an integer, if it is whole. -/
def toInt? (a : Decimal96) : Option Int :=
  if a.coefficient % tenTo a.places = 0 then some (a.coefficient / tenTo a.places) else none

/-! ### Floats -/

/-- The steps by which m · 2^`-twos` turns into a decimal: a factor of two is cancelled while there
is one, else m is multiplied by five over one more place, and when that is too large half of m is
dropped. Answers the magnitude and its places. -/
def cancelTwos : Nat → Nat → Nat → Nat × Nat
  | 0, m, places => (m, places)
  | twos + 1, m, places =>
    if m % 2 = 0 then cancelTwos twos (m / 2) places
    else if m * 5 < bound then cancelTwos twos (m * 5) (places + 1)
    else cancelTwos twos (m / 2) places

/-- The steps by which m · 2^`twos` turns into a decimal: m is doubled while that keeps it within
96 bits, else a fifth of it is kept and the exponent of ten grows. -/
def absorbTwos : Nat → Nat → Nat → Nat × Nat
  | 0, m, tens => (m, tens)
  | twos + 1, m, tens =>
    if m < bound / 2 then absorbTwos twos (m * 2) tens
    else absorbTwos twos (m / 5) (tens + 1)

/-- Multiplies by ten `tens` times while 96 bits hold the result. -/
def scaleUp : Nat → Nat → Option Nat
  | 0, m => some m
  | tens + 1, m => if m * 10 < bound then scaleUp tens (m * 10) else none

/-- Divides by ten with rounding until at most 28 places are left; a magnitude that vanishes on the
way is zero without places. -/
def limitPlaces (m : Nat) : Nat → Nat × Nat
  | 0 => (m, 0)
  | places + 1 =>
    if places + 1 ≤ maxPlaces then (m, places + 1)
    else if m / 10 = 0 then (0, 0)
    else limitPlaces (if 5 ≤ m % 10 then m / 10 + 1 else m / 10) places

/-- Divides by ten with rounding until the magnitude has at most 52 bits, which leaves the digits
that a float can tell apart. -/
def limitDigits (m : Nat) : Nat → Nat × Nat
  | 0 => (m, 0)
  | places + 1 =>
    if m < twoTo 52 then (m, places + 1)
    else limitDigits (if 5 ≤ m % 10 then m / 10 + 1 else m / 10) places

/-- The decimal of a float; `none` for what is not finite or has more than 96 bits before the
point. A magnitude below 10^-28 may become zero. -/
def ofFloat? (x : Float) : Option Decimal96 :=
  (Dyadic.ofFloat? x).bind fun d =>
    let magnitude : Option (Nat × Nat) :=
      if d.mantissa = 0 then some (0, 0)
      else if d.exponent < 0 then some (cancelTwos (-d.exponent).toNat d.mantissa 0)
      else
        let (m, tens) := absorbTwos d.exponent.toNat d.mantissa 0
        (scaleUp tens m).map (·, 0)
    magnitude.map fun (m, places) =>
      let (m, places) := limitPlaces m places
      let (m, places) := limitDigits m places
      let (m, places) := trimZeros m places
      ⟨if d.negative then -m else m, places⟩

/-- A float near the number: the whole part and the fraction are converted one by one and added, and
the sum is rounded to the places of the number again. -/
def toFloat (a : Decimal96) : Float :=
  let m := a.coefficient.natAbs
  let unit := tenTo a.places
  let whole := Float.ofNat (m / unit)
  let fraction := Float.ofNat (m % unit) / Float.ofNat unit
  let magnitude :=
    if fraction == 0 then whole
    else
      -- The sum is inexact in its last bits; the nearest number with these places is meant.
      let shifted := (whole + fraction) * Float.ofNat unit
      match Dyadic.ofFloat? shifted with
      | some d => Float.ofInt d.rounded / Float.ofNat unit
      | none => shifted
  if a.isNegative then -magnitude else magnitude

end Decimal96

end Deferred
