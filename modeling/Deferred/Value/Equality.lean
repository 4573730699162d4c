import Deferred.Value.Basic

/-!
# Equality of values

Integers are equal when they are the same number, floats when they are numerically equal, and an
integer equals a float when the float nearest to it does. Containers are compared member by member,
objects by their keys. A function equals only itself, and absence only absence.
-/

namespace Deferred

namespace Value

mutual

/-- Whether two values are equal. -/
def equal : Value → Value → Bool
  | null, null => true
  | unset, unset => true
  | boolean a, boolean b => a == b
  | integer a, integer b => a == b
  | float a, float b => a == b
  | integer a, float b => floatOfInteger a == b
  | float a, integer b => floatOfInteger b == a
  | string a, string b => a == b
  | array as, array bs => equalItems as bs
  | object ⟨keys, entry⟩, object ⟨others, value⟩ =>
    if h : keys.toList = others.toList then
      (List.finRange _).all fun i => equal (entry i) (value (i.cast (by rw [h])))
    else false
  | function f, function g => f == g
  | method r n, method s m => equal r s && n == m
  | _, _ => false
termination_by structural v => v

/-- Whether two lists have equal values at equal places and nothing else. -/
def equalItems : List Value → List Value → Bool
  | [], [] => true
  | a :: as, b :: bs => equal a b && equalItems as bs
  | _, _ => false
termination_by structural vs => vs

end

instance : BEq Value := ⟨equal⟩

theorem beq_def (v w : Value) : (v == w) = equal v w := rfl

end Value

end Deferred
