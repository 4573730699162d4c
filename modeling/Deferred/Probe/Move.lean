import Deferred.Expr.Basic
import Deferred.Probe

/-!
# Moves

A move takes a probe to a member of its value, or to the result of a call. Every move can be
recorded on an expression as well, as the operation that makes it on a running value.
-/

namespace Deferred

namespace Probe

inductive Move where
  | attr (name : String)
  | item (key : Value)
  | call (args : List Value) (named : Named)
  | method (name : String) (args : List Value) (named : Named)

/-- Makes a move. -/
def move [Patterns] (host : Host) (p : Probe) : Move → Except Fault Probe
  | .attr name => .ok (p.attr name)
  | .item key => .ok (p.item key)
  | .call args named => p.call host args named
  | .method name args named => p.method host name args named

/-- Makes moves one after the other, up to the first fault. -/
def moves [Patterns] (host : Host) (p : Probe) : List Move → Except Fault Probe
  | [] => .ok p
  | m :: ms => do moves host (← p.move host m) ms

/-- Named arguments as operands. -/
def literals (named : Named) : NamedOperands := named.toList.map fun (k, v) => (k, .literal v)

/-- The operation that makes the move on a running value. -/
def Move.operation : Move → Operation
  | attr name => .attr name
  | item key => .item (.literal key)
  | call args named => .call (args.map .literal) (literals named)
  | method name args named => .method name (args.map .literal) (literals named)

/-- The expression that makes moves on its argument. -/
def Move.expr (ms : List Move) : Expr := Expr.it.steps (ms.map operation)

end Probe

end Deferred
