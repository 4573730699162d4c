import Deferred.Libraries
import Deferred.Number.Decimal96
import Deferred.Number.Integer
import Deferred.Pattern.Parser

/-!
# The stock libraries

Decimal numbers of 96 bits, and patterns that are matched place by place. Of the properties of
characters the patterns know the general categories, the scripts and a few more; one that asks for
another is no pattern here.
-/

namespace Deferred

instance Decimals.stock : Decimals where
  Decimal := Decimal96
  ofInteger? n := some (.ofInt n.toInt)
  ofFloat? := Decimal96.ofFloat?
  isZero := Decimal96.isZero
  isNegative := Decimal96.isNegative
  add := Decimal96.add
  subtract := Decimal96.sub
  multiply := Decimal96.mul
  divide := Decimal96.div
  remainder := Decimal96.rem
  floor := Decimal96.floor
  toInteger? d := d.toInt?.bind Integer.ofInt?
  toFloat? d := some d.toFloat

instance Patterns.stock : Patterns where
  compile pattern :=
    match Pattern.parse? pattern with
    | some p => .ok fun s => p.isMatch s.toList
    | none => .error "not a pattern"

end Deferred
