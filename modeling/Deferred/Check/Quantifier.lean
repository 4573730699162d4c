/-!
# Quantifiers

How many items of a view have to match.
-/

namespace Deferred

inductive Quantifier where
  | all
  | any
  | none
  | one
  | exactly (n : Nat)
deriving DecidableEq, Repr

namespace Quantifier

/-- Whether `matched` matching items of `total` are the right number. -/
def judge (q : Quantifier) (matched total : Nat) : Bool :=
  match q with
  | all => matched == total
  | any => decide (0 < matched)
  | none => matched == 0
  | one => matched == 1
  | exactly n => matched == n

/-- The number of matching items that is expected of `total`, in words. -/
def expectation (q : Quantifier) (total : Nat) : String :=
  match q with
  | all => "all " ++ toString total
  | any => "at least 1"
  | none => "none"
  | one => "exactly 1"
  | exactly n => "exactly " ++ toString n

/-- The text of a quantifier. -/
def render : Quantifier → String
  | all => "for_all"
  | any => "for_any"
  | none => "for_none"
  | one => "for_one"
  | exactly n => "exactly(" ++ toString n ++ ")"

end Quantifier

end Deferred
