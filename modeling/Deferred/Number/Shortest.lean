import Deferred.Number.Binary64

/-!
# The shortest decimal that reads back

Every decimal inside the rounding interval of a finite float reads back as that float. `shortest`
takes the one with the fewest digits, of two such the nearer, and of two equally near the greater.
All comparisons are in exact natural arithmetic.
-/

namespace Deferred

/-- The number `digits` · 10^`exponent`. -/
structure Scientific where
  digits : Nat
  exponent : Int
deriving DecidableEq, Repr

namespace Dyadic

/-- A quarter of the distance between neighbours of a 53-bit number is 2^`quarter`. -/
def quarter (d : Dyadic) : Int := d.exponent - 2

/-- The distance to the lower end of the rounding interval, in units of 2^`quarter`: half of it
where the next lower number lies in the finer binade below. -/
def lowerGap (d : Dyadic) : Nat :=
  if d.mantissa = twoTo 52 ∧ -1074 < d.exponent then 1 else 2

/-- Compares `digits` · 10^`k` with `quarters` · 2^`q`. -/
def compareScientific (s : Scientific) (quarters : Nat) (q : Int) : Ordering :=
  compare (s.digits * tenTo s.exponent.toNat * twoTo (-q).toNat)
    (quarters * twoTo q.toNat * tenTo (-s.exponent).toNat)

/-- Whether a decimal lies in the rounding interval; the ends belong to it when the mantissa is
even. -/
def readsBack (d : Dyadic) (s : Scientific) : Bool :=
  let low := compareScientific s (4 * d.mantissa - d.lowerGap) d.quarter
  let high := compareScientific s (4 * d.mantissa + 2) d.quarter
  if d.mantissa % 2 = 0 then low.isGE && high.isLE else low.isGT && high.isLT

/-- The decimal ⌊`|d|` / 10^`k`⌋ · 10^`k`. -/
def truncateAt (d : Dyadic) (k : Int) : Scientific :=
  ⟨d.mantissa * twoTo d.exponent.toNat * tenTo (-k).toNat /
    (twoTo (-d.exponent).toNat * tenTo k.toNat), k⟩

/-- The multiple of 10^`k` that reads back, if one does: of the two next to the number the
nearer. -/
def onGrid (d : Dyadic) (k : Int) : Option Scientific :=
  let below := d.truncateAt k
  let above : Scientific := ⟨below.digits + 1, k⟩
  let middle : Scientific := ⟨2 * below.digits + 1, k⟩
  let upper := (compareScientific middle (8 * d.mantissa) d.quarter).isLE
  match d.readsBack below && below.digits != 0, d.readsBack above with
  | true, true => some (if upper then above else below)
  | true, false => some below
  | false, true => some above
  | false, false => none

/-- The greatest `k` with 10^`k` ≤ `|d|`, for a number other than zero. -/
def magnitude (d : Dyadic) : Int :=
  let estimate := ((d.mantissa.log2 : Int) + d.exponent) * 30103 / 100000
  if (d.truncateAt (estimate + 1)).digits = 0 then
    if (d.truncateAt estimate).digits = 0 then estimate - 1 else estimate
  else estimate + 1

/-- The shortest decimal that reads back: grids of one to seventeen digits, the coarsest first. On
the first grid ten units are one of the next. -/
def shortest (d : Dyadic) : Scientific :=
  if d.mantissa = 0 then ⟨0, 0⟩
  else
    let top := d.magnitude
    let s := ((List.range 17).findSome? fun (n : Nat) => d.onGrid (top - n)).getD
      (d.truncateAt (top - 16))
    -- Only the first grid can answer ten units, which are one unit of the grid above it.
    if s.digits = 10 then ⟨1, s.exponent + 1⟩ else s

end Dyadic

namespace Scientific

/-- The digits with leading zeros up to `width`. -/
def padded (width n : Nat) : String :=
  let s := toString n
  String.ofList (List.replicate (width - s.length) '0') ++ s

/-- Positional notation without an exponent; a whole number has no point. -/
def positional (s : Scientific) : String :=
  if 0 ≤ s.exponent then toString (s.digits * tenTo s.exponent.toNat)
  else
    let places := (-s.exponent).toNat
    toString (s.digits / tenTo places) ++ "." ++ padded places (s.digits % tenTo places)

end Scientific

namespace Binary64

/-- The text around a finite magnitude: sign, or the name of what is not finite. -/
def signed (x : Float) (magnitude : Dyadic → String) : String :=
  match Dyadic.ofFloat? x with
  | some d => (if d.negative then "-" else "") ++ magnitude d
  | none => if x.isNaN then "NaN" else if x < 0 then "-inf" else "inf"

/-- The shortest digits in positional notation. -/
def shortText (x : Float) : String := signed x fun d => d.shortest.positional

/-- Like `shortText`, but a whole number is written out exactly and with one place after the point,
so that it never reads as an integer. -/
def text (x : Float) : String :=
  signed x fun d => if d.isWhole then toString d.truncated ++ ".0" else d.shortest.positional

end Binary64

end Deferred
