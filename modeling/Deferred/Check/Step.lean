import Deferred.Check.View

/-!
# Steps from view to view

A step filters or selects records, or it sets the quantifier or the options. Only a filter can fail,
and then the view stays as it is.
-/

namespace Deferred

variable [Decimals] [Patterns]

namespace View

inductive Step where
  | keepIf (spec : Spec)
  | dropIf (spec : Spec)
  | first
  | last
  | atIndex (index : Int64)
  | cap (n : Nat)
  | quantify (q : Quantifier)
  | withOptions (options : CheckOptions)

/-- Takes a step. -/
def step (host : Host) (view : View) : Step → Except Fault View
  | .keepIf spec => view.keepIf host spec
  | .dropIf spec => view.dropIf host spec
  | .first => .ok view.first
  | .last => .ok view.last
  | .atIndex index => .ok (view.atIndex index)
  | .cap n => .ok (view.cap n)
  | .quantify q => .ok (view.quantify q)
  | .withOptions options => .ok (view.withOptions options)

/-- The view after a step, which is the same view where the step fails. -/
def stepOrStay (host : Host) (view : View) (s : Step) : View :=
  match view.step host s with
  | .ok next => next
  | .error _ => view

/-- Takes steps one after the other and leaves out those that fail. -/
def run (host : Host) (view : View) (ss : List Step) : View := ss.foldl (stepOrStay host) view

end View

end Deferred
