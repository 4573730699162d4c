import Deferred.Check.View

/-!
# Judging a view

The records of a view are matched against a spec one after the other; the quantifier then judges how
many of them matched. A failure tells what was expected and shows either the first record that does
not match or the first few that do.
-/

namespace Deferred

variable [Decimals] [Patterns]

/-- Why a view does not pass. -/
structure CheckFailure where
  quantifier : Quantifier
  /-- The text of the spec. -/
  spec : String
  matched : Nat
  total : Nat
  /-- The first record that does not match, where all are required. -/
  offending : Option Value
  detail : String

/-- The judgement of a view. -/
structure Outcome where
  quantifier : Quantifier
  matched : Nat
  total : Nat
  failure : Option CheckFailure

/-- Why a required check fails. -/
inductive CheckFault where
  /-- The number of matching records is not the right one. -/
  | assertion (failure : CheckFailure)
  /-- A record could not be matched. -/
  | eval (fault : Fault)

namespace CheckFailure

/-- The wording of a failure. -/
def message (f : CheckFailure) : String :=
  f.quantifier.render ++ " check failed for " ++ f.spec ++ ": " ++ f.detail

end CheckFailure

namespace Outcome

def passed (o : Outcome) : Bool := o.failure.isNone

end Outcome

namespace CheckFault

/-- The wording of a fault. -/
def message : CheckFault → String
  | assertion failure => failure.message
  | eval fault => "Evaluation error: " ++ fault.message

end CheckFault

/-- What a walk through records has found: those that match, in order, and the first that does not,
with its index. -/
structure Tally where
  matching : List Value
  firstMiss : Option (Nat × Value)

namespace Tally

/-- Walks through records of which the first has the index `index`. -/
def ofItems (accept : Value → Except Fault Bool) (index : Nat) :
    List Value → Except Fault Tally
  | [] => .ok ⟨[], none⟩
  | v :: vs => do
    let b ← accept v
    let rest ← ofItems accept (index + 1) vs
    return if b then { rest with matching := v :: rest.matching }
      else { rest with firstMiss := some (index, v) }

/-- What was expected and what was found, with the first `limit` matching records. -/
def countDetail (t : Tally) (q : Quantifier) (limit total : Nat) : String :=
  let shown := (t.matching.take limit).map Value.render
  "expected " ++ q.expectation total ++ " matching, found " ++ toString t.matching.length ++
    " of " ++ toString total ++
    (if shown.isEmpty then "" else "; matching: [" ++ ", ".intercalate shown ++ "]")

/-- The record to blame and the wording of it. -/
def blame (t : Tally) (q : Quantifier) (limit total : Nat) : Option Value × String :=
  match q, t.firstMiss with
  | .all, some (index, v) =>
    (some v,
      "item " ++ toString index ++ " of " ++ toString total ++ " did not match: " ++ v.render)
  | _, _ => (none, t.countDetail q limit total)

end Tally

namespace View

/-- How many records meet a spec. -/
def countMatching (host : Host) (view : View) (spec : Spec) : Except Fault Nat :=
  view.items.foldlM (fun n v => do
    return if ← spec.accepts host view.options v then n + 1 else n) 0

/-- Judges the view by its quantifier. -/
def evaluate (host : Host) (view : View) (spec : Spec) : Except Fault Outcome := do
  let tally ← Tally.ofItems (spec.accepts host view.options) 0 view.items
  let total := view.items.length
  let matched := tally.matching.length
  let failure :=
    if view.quantifier.judge matched total then none
    else
      let (offending, detail) := tally.blame view.quantifier view.options.limit total
      some ⟨view.quantifier, spec.render, matched, total, offending, detail⟩
  return ⟨view.quantifier, matched, total, failure⟩

/-- Requires the view to pass. -/
def require (host : Host) (view : View) (spec : Spec) : Except CheckFault Unit :=
  match view.evaluate host spec with
  | .error fault => .error (.eval fault)
  | .ok outcome =>
    match outcome.failure with
    | some failure => .error (.assertion failure)
    | none => .ok ()

end View

end Deferred
