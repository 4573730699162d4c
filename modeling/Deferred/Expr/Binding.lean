import Deferred.Expr.Context
import Deferred.Expr.Requirements

/-!
# Partial application and numbering

`Expr.bind` puts the arguments of a context in the place of the placeholders that stand for them.
What remains is renumbered: positions not supplied move down by the number of those supplied, and
the anonymous placeholders past that number stay anonymous, in their order. `Expr.numbered` gives
every anonymous placeholder the index that it has anyway.

Both walk with a counter of the anonymous placeholders met so far.
-/

namespace Deferred

namespace Origin

/-- Binds an origin to the first `supplied` positional arguments and to the named ones. -/
def bind (c : Context) (supplied : Nat) : Origin → StateM Nat Origin
  | .bound v => return .bound v
  | .placeholder .anonymous => do
    let slot ← get
    set (slot + 1)
    match (c.positional.take supplied)[slot]? with
    | some v => return .bound v
    | none => return .placeholder .anonymous
  | .placeholder (.indexed i) =>
    match (c.positional.take supplied)[i.toNat]? with
    | some v => return .bound v
    | none => return .placeholder (.indexed (.ofNat (i.toNat - supplied)))
  | .placeholder (.named key) =>
    match c.named.get? key with
    | some v => return .bound v
    | none => return .placeholder (.named key)

/-- Gives an anonymous placeholder its number as its index. -/
def number : Origin → StateM Nat Origin
  | .placeholder .anonymous => do
    let slot ← get
    set (slot + 1)
    return .placeholder (.indexed (.ofNat slot))
  | o => return o

end Origin

namespace Expr

/-- How many positional arguments of a context go into the expression. -/
def supplied (e : Expr) (c : Context) : Nat := min c.positional.length e.requirements.positional

/-- What remains of the expression when the arguments of a context are put in. -/
def bind (e : Expr) (c : Context) : Expr :=
  (e.mapOriginsM (Origin.bind c (e.supplied c))).run 0 |>.1

/-- The expression with an index in place of each anonymous placeholder. -/
def numbered (e : Expr) : Expr := (e.mapOriginsM Origin.number).run 0 |>.1

end Expr

end Deferred
