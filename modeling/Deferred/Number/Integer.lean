import Deferred.Number.Power

/-!
# Integers of 64 bits

Integer arithmetic is exact or has no result. Sums, differences and products are those of `Int`, and
come back to 64 bits only where they fit. Quotients, remainders and shifts are those of 64 bits,
which round towards zero and lose what leaves at the top; they are checked for the operands where
that would show, and corrected by the signs where a result has to be rounded down.
-/

namespace Deferred

namespace Integer

/-- The integer of 64 bits with this value, if there is one. -/
def ofInt? (n : Int) : Option Int64 :=
  if Int64.minValue.toInt ≤ n ∧ n ≤ Int64.maxValue.toInt then some (Int64.ofInt n) else none

/-- Whether the quotient by `b` does not exist or does not fit. -/
def refusesQuotient (a b : Int64) : Bool := b == 0 || a == Int64.minValue && b == -1

/-- The quotient, rounded towards zero. -/
def div? (a b : Int64) : Option Int64 := if refusesQuotient a b then none else some (a / b)

/-- The remainder with the sign of `a`. It is refused where the quotient is. -/
def rem? (a b : Int64) : Option Int64 := if refusesQuotient a b then none else some (a % b)

/-- The quotient, rounded down. -/
def floorDiv? (a b : Int64) : Option Int64 :=
  (div? a b).map fun q =>
    if a % b != 0 && decide (a < 0) != decide (b < 0) then q - 1 else q

/-- The remainder with the sign of `b`. -/
def floorMod? (a b : Int64) : Option Int64 :=
  (rem? a b).map fun r => if r != 0 && decide (r < 0) != decide (b < 0) then r + b else r

/-- The exact power, if it fits; bases other than 0, 1 and -1 leave the range before the exponent
reaches 64. -/
def pow? (base : Int) (exponent : Nat) : Option Int64 :=
  if base.natAbs ≤ 1 then ofInt? (base.pow (if exponent = 0 then 0 else 2 - exponent % 2))
  else if 64 ≤ exponent then none
  else ofInt? (base.pow exponent)

/-- The power with an exponent that is not negative. From 2^32 on only the bases 0, 1 and -1 have
one. -/
def power? (a b : Int64) : Option Int64 :=
  if b.toInt < twoTo 32 then pow? a.toInt b.toInt.toNat
  else if a == 0 || a == 1 then some a
  else if a == -1 then some (if b % 2 == 0 then 1 else -1)
  else none

/-- The bits moved up by `count` places, unless moving them back does not give `n` again. -/
def shiftLeft? (n : Int64) (count : Nat) : Option Int64 :=
  if n = 0 then some 0
  else if 64 ≤ count then none
  else
    let moved := n <<< Int64.ofNat count
    if moved >>> Int64.ofNat count = n then some moved else none

/-- The bits moved down by `count` places, with the sign kept. -/
def shiftRight (n : Int64) (count : Nat) : Int64 :=
  if 64 ≤ count then (if n < 0 then -1 else 0) else n >>> Int64.ofNat count

/-- The number of places that a count means: one of more than 32 bits is the greatest of them. -/
def places (count : Int64) : Nat := min count.toInt.toNat (twoTo 32 - 1)

/-- The checked constructor succeeds exactly on the integer that its result is. -/
theorem ofInt?_eq_some_iff {n : Int} {r : Int64} : ofInt? n = some r ↔ r.toInt = n := by
  unfold ofInt?
  constructor
  · intro h
    split at h
    · next hn =>
      cases h
      exact Int64.toInt_ofInt_of_le hn.1 (Int.lt_of_le_of_lt hn.2 (by decide))
    · cases h
  · rintro rfl
    rw [if_pos ⟨Int64.minValue_le_toInt r, Int64.toInt_le r⟩, Int64.ofInt_toInt]

theorem ofInt?_eq_none_iff {n : Int} :
    ofInt? n = none ↔ n < Int64.minValue.toInt ∨ Int64.maxValue.toInt < n := by
  unfold ofInt?
  split <;> simp only [reduceCtorEq, false_iff, true_iff] <;> omega

end Integer

end Deferred
