import Deferred.Access
import Deferred.Expr.Binding
import Deferred.Expr.Render

/-!
# Resolution

Resolving an expression in a context that has all the arguments it needs evaluates it; otherwise it
gives what remains once the arguments there are have been put in. Evaluation walks through the
expression with a counter of the anonymous placeholders met so far, each of which takes the argument
at its number.
-/

namespace Deferred

/-- What an expression resolves to. -/
inductive Resolution where
  | value (v : Value)
  /-- The expression that remains. -/
  | pending (rest : Expr)

/-- Evaluation: it counts anonymous placeholders and may fail. -/
abbrev Eval := StateT Nat (Except Fault)

/-- The outcome of an evaluation that begins with the first argument. -/
def Eval.fromStart {α : Type} (x : Eval α) : Except Fault α := (x.run 0).map (·.1)

/-- The outcome of access under a way of navigation. -/
def Navigation.access (n : Navigation) (found : Except Fault Value) : Except Fault Value :=
  match n, found with
  | .safe, .error _ => .ok .unset
  | _, found => found

/-- The argument of a placeholder, which has to be there. -/
def Placeholder.supply (p : Placeholder) : Option Value → Except Fault Value
  | some v => .ok v
  | none => .error (.missingArgument p)

/-- The value of an origin. -/
def Origin.eval (c : Context) : Origin → Eval Value
  | .bound v => return v
  | .placeholder .anonymous => do
    let slot ← get
    set (slot + 1)
    Placeholder.anonymous.supply c.positional[slot]?
  | .placeholder (.indexed i) => (Placeholder.indexed i).supply c.positional[i.toNat]?
  | .placeholder (.named key) => (Placeholder.named key).supply (c.named.get? key)

variable [Decimals] [Patterns]

mutual

/-- The value of an expression. -/
def Expr.eval (host : Host) (c : Context) : Expr → Eval Value
  | .origin o => o.eval c
  | .step target op => do op.evalOn host c (← target.eval host c)
termination_by structural e => e

/-- The value of an operation on the running value `v`. -/
def Operation.evalOn (host : Host) (c : Context) (v : Value) : Operation → Eval Value
  | .binary op right => do op.apply v (← right.eval host c)
  | .reflected op left => do op.apply (← left.eval host c) v
  | .unary op => op.apply v
  | .attr name => c.navigation.access (v.attr name)
  | .item key => do c.navigation.access (v.item (← key.eval host c))
  | .call args named => do
    let args ← evalOperands host c args
    let named ← evalNamed host c named
    v.call host args (Dict.ofList named)
  | .method name args named => do
    -- What is called is looked up first, so its fault comes before one of the arguments.
    let callee ← c.navigation.access (v.callee name)
    let args ← evalOperands host c args
    let named ← evalNamed host c named
    callee.call host args (Dict.ofList named)
  | .apply target => target.run host v
termination_by structural op => op

/-- The value of an operand. -/
def Operand.eval (host : Host) (c : Context) : Operand → Eval Value
  | .literal v => return v
  | .expr e => e.eval host c
termination_by structural o => o

/-- The values of operands, one after the other. -/
def evalOperands (host : Host) (c : Context) : List Operand → Eval (List Value)
  | [] => return []
  | o :: os => do
    let v ← o.eval host c
    let vs ← evalOperands host c os
    return v :: vs
termination_by structural os => os

/-- The values of operands with names, one after the other. -/
def evalNamed (host : Host) (c : Context) : List (String × Operand) → Eval (List (String × Value))
  | [] => return []
  | (k, o) :: os => do
    let v ← o.eval host c
    let vs ← evalNamed host c os
    return (k, v) :: vs
termination_by structural os => os

/-- Passes a value through a function or a pipeline. -/
def Target.run (host : Host) (v : Value) : Target → Except Fault Value
  | .function f => host f [v] ∅
  | .pipeline stages => runStages host v stages
termination_by structural t => t

/-- Passes a value through one stage. -/
def Stage.run (host : Host) (v : Value) : Stage → Except Fault Value
  | .expr e =>
    if e.resolvableWith 1 ∅ then Eval.fromStart (e.eval host { positional := [v] })
    else .error (.unresolved (e.bind { positional := [v] }).render)
  | .function f => host f [v] ∅
termination_by structural s => s

/-- Passes a value through stages, one after the other. -/
def runStages (host : Host) (v : Value) : List Stage → Except Fault Value
  | [] => .ok v
  | s :: ss => do runStages host (← s.run host v) ss
termination_by structural ss => ss

end

/-- The value of a resolution; what still lacks arguments has none. -/
def Resolution.toValue : Resolution → Except Fault Value
  | .value v => .ok v
  | .pending rest => .error (.unresolved rest.render)

namespace Expr

/-- Evaluates the expression from the first argument on. -/
def evaluate (host : Host) (e : Expr) (c : Context) : Except Fault Value :=
  Eval.fromStart (e.eval host c)

/-- The value of the expression in a context, or what remains of it. -/
def resolve (host : Host) (e : Expr) (c : Context) : Except Fault Resolution :=
  if e.resolvableWith c.positional.length c.named then (e.evaluate host c).map .value
  else .ok (.pending (e.bind c))

/-- The value of the expression in a context that has to have all arguments. -/
def value (host : Host) (e : Expr) (c : Context) : Except Fault Value := do
  (← e.resolve host c).toValue

end Expr

namespace Pipeline

/-- Passes a value through the stages of a pipeline. -/
def run (host : Host) (stages : Pipeline) (v : Value) : Except Fault Value :=
  runStages host v stages

end Pipeline

/-- A stage that is an expression resolves it with the running value as its only argument. -/
theorem Stage.run_expr (host : Host) (v : Value) (e : Expr) :
    (Stage.expr e).run host v = e.value host { positional := [v] } := by
  simp only [Stage.run, Expr.value, Expr.resolve, List.length_singleton]
  split
  · simp only [Expr.evaluate]
    cases Eval.fromStart (e.eval host { positional := [v] }) <;> rfl
  · rfl

end Deferred
