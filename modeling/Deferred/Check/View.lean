import Deferred.Check.Quantifier
import Deferred.Check.Spec

/-!
# Views

A view is a list of records with a quantifier and options. Filters and positional selectors give
views of some of the records, in their order; quantifiers and options leave the records as they are.
-/

namespace Deferred

variable [Decimals] [Patterns]

structure View where
  items : List Value
  quantifier : Quantifier := .all
  options : CheckOptions := {}

namespace View

/-- The view of all records, with all of them required. -/
def ofRecords (records : List Value) : View := { items := records }

/-- The records for which `accept` gives `keep`; the first fault ends the matter. -/
def filterItems (accept : Value → Except Fault Bool) (keep : Bool) :
    List Value → Except Fault (List Value)
  | [] => .ok []
  | v :: vs => do
    let b ← accept v
    let rest ← filterItems accept keep vs
    return if b = keep then v :: rest else rest

/-- The view of the records that meet a spec, or of those that do not. -/
def filter (host : Host) (view : View) (spec : Spec) (keep : Bool) : Except Fault View :=
  return { view with items := ← filterItems (spec.accepts host view.options) keep view.items }

/-- Keeps the records that meet a spec. -/
def keepIf (host : Host) (view : View) (spec : Spec) : Except Fault View :=
  view.filter host spec true

/-- Drops the records that meet a spec. -/
def dropIf (host : Host) (view : View) (spec : Spec) : Except Fault View :=
  view.filter host spec false

/-- The first record. -/
def first (view : View) : View := { view with items := view.items.head?.toList }

/-- The last record. -/
def last (view : View) : View := { view with items := view.items.getLast?.toList }

/-- The record at an index, counted from the end if it is negative. -/
def atIndex (view : View) (index : Int64) : View :=
  { view with items := (Value.atIndex? view.items index).toList }

/-- At most the first `n` records. -/
def cap (view : View) (n : Nat) : View := { view with items := view.items.take n }

/-- Requires another number of matching records. -/
def quantify (view : View) (q : Quantifier) : View := { view with quantifier := q }

/-- Changes the options. -/
def withOptions (view : View) (options : CheckOptions) : View := { view with options := options }

/-- The number of records. -/
def count (view : View) : Nat := view.items.length

/-- Whether there are no records. -/
def isEmpty (view : View) : Bool := view.items.isEmpty

/-- Whether there are records. -/
def nonempty (view : View) : Bool := !view.isEmpty

end View

end Deferred
