/-!
# Libraries

Evaluation leaves two things to libraries: decimal arithmetic, for an integer and a float together,
and the matching of patterns. What it uses of them is declared here, as classes, so that whatever is
said of evaluation is said of it with any libraries. `Deferred.Stock` has an instance of each.
-/

namespace Deferred

/-- Decimal numbers. An operation has no result where the library cannot hold it. -/
class Decimals where
  Decimal : Type
  ofInteger? : Int64 → Option Decimal
  ofFloat? : Float → Option Decimal
  isZero : Decimal → Bool
  isNegative : Decimal → Bool
  add : Decimal → Decimal → Option Decimal
  subtract : Decimal → Decimal → Option Decimal
  multiply : Decimal → Decimal → Option Decimal
  divide : Decimal → Decimal → Option Decimal
  /-- What is left of the first number after whole multiples of the second, with the sign of the
  first. -/
  remainder : Decimal → Decimal → Option Decimal
  floor : Decimal → Decimal
  /-- The number as an integer, if it is whole and fits. -/
  toInteger? : Decimal → Option Int64
  toFloat? : Decimal → Option Float

/-- Patterns of texts. -/
class Patterns where
  /-- Reads a pattern. The result says whether it has a match in a text; a text that is no pattern
  has an error, in the words of the library. -/
  compile : String → Except String (String → Bool)

end Deferred
