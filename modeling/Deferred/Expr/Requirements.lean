import Deferred.Expr.Traverse

/-!
# What an expression needs

The arguments that an expression lacks, found without evaluating it. Every anonymous placeholder
needs a positional argument of its own; the indexed ones need all positions up to the greatest
index; the named ones need their names. How many positions the indexed ones need is counted in
machine words, where zero comes after the greatest index of all.
-/

namespace Deferred

structure Requirements where
  /-- Occurrences of the anonymous placeholder. -/
  anonymous : Nat
  /-- Positions asked for by index. -/
  indexed : Ascending Nat
  /-- Names asked for. -/
  named : Ascending String

namespace Requirements

/-- One more placeholder. -/
def add (r : Requirements) : Placeholder → Requirements
  | .anonymous => { r with anonymous := r.anonymous + 1 }
  | .indexed i => { r with indexed := r.indexed.insert i.toNat }
  | .named key => { r with named := r.named.insert key }

/-- What a list of placeholders needs. -/
def ofPlaceholders (ps : List Placeholder) : Requirements := ps.foldl add ⟨0, ∅, ∅⟩

/-- How many positions the indexed placeholders reach: one more than the greatest index, as a
machine word. -/
def reach (r : Requirements) : Nat :=
  match r.indexed.max? with
  | some i => (UInt64.ofNat i + 1).toNat
  | none => 0

/-- How many positional arguments are needed. -/
def positional (r : Requirements) : Nat := max r.anonymous r.reach

/-- Whether `count` positional arguments and the named ones are enough. -/
def satisfiedBy (r : Requirements) (count : Nat) (named : Named) : Bool :=
  decide (r.positional ≤ count) && r.named.toList.all fun k => named.contains k

/-- Whether nothing is needed. -/
def isEmpty (r : Requirements) : Bool := r.positional == 0 && r.named.isEmpty

end Requirements

namespace Expr

/-- What the expression needs. -/
def requirements (e : Expr) : Requirements := .ofPlaceholders e.placeholders

/-- How many positional arguments the expression needs. -/
def arity (e : Expr) : Nat := e.requirements.positional

/-- Whether these arguments are all that the expression needs. -/
def resolvableWith (e : Expr) (count : Nat) (named : Named) : Bool :=
  e.requirements.satisfiedBy count named

end Expr

end Deferred
