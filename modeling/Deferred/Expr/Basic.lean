import Deferred.Expr.Placeholder
import Deferred.Operator.Basic
import Deferred.Value.Basic

/-!
# Deferred expressions

An expression is an origin, which is a placeholder or a known value, followed by the operations
recorded on it. Operations have operands, which are values or expressions in turn, and an expression
can end in a pipeline whose steps are expressions or functions of the host. Building an expression
evaluates nothing.
-/

namespace Deferred

/-- Where an expression starts. -/
inductive Origin where
  | placeholder (p : Placeholder)
  | bound (v : Value)

mutual

inductive Expr where
  | origin (o : Origin)
  /-- One more operation, recorded on `target`. -/
  | step (target : Expr) (op : Operation)

/-- An operation on a running value. -/
inductive Operation where
  | binary (op : BinaryOp) (right : Operand)
  /-- A binary operator with the running value on its right. -/
  | reflected (op : BinaryOp) (left : Operand)
  | unary (op : UnaryOp)
  | attr (name : String)
  | item (key : Operand)
  | call (args : List Operand) (named : List (String × Operand))
  | method (name : String) (args : List Operand) (named : List (String × Operand))
  | apply (target : Target)

/-- An operand of an operation. -/
inductive Operand where
  | literal (v : Value)
  | expr (e : Expr)

/-- What a running value is passed through. -/
inductive Target where
  | function (f : Function)
  | pipeline (steps : List Stage)

/-- One stage of a pipeline. -/
inductive Stage where
  /-- The value of an expression with the running value as its only argument. -/
  | expr (e : Expr)
  | function (f : Function)

end

/-- Operands by name, in the order they were recorded. -/
abbrev NamedOperands := List (String × Operand)

/-- Values are passed through the stages one after the other. -/
abbrev Pipeline := List Stage

namespace Operation

/-- The operands in the order of their evaluation: those without a name first. -/
def operands : Operation → List Operand
  | binary _ right => [right]
  | reflected _ left => [left]
  | item key => [key]
  | call args named => args ++ named.map (·.2)
  | method _ args named => args ++ named.map (·.2)
  | unary _ | attr _ | apply _ => []

/-- Rebuilds the operation from what `f` makes of its operands, which it meets in the order of
`operands`. -/
def mapOperandsM {m : Type → Type} [Monad m] (f : Operand → m Operand) : Operation → m Operation
  | binary op right => return binary op (← f right)
  | reflected op left => return reflected op (← f left)
  | item key => return item (← f key)
  | call args named => do
    let args ← args.mapM f
    let named ← named.mapM fun (k, o) => return (k, ← f o)
    return call args named
  | method name args named => do
    let args ← args.mapM f
    let named ← named.mapM fun (k, o) => return (k, ← f o)
    return method name args named
  | unary op => return unary op
  | attr name => return attr name
  | apply target => return apply target

end Operation

namespace Expr

/-- The expression that is a placeholder. -/
def placeholder (p : Placeholder) : Expr := origin (.placeholder p)

/-- The anonymous placeholder; each of its occurrences takes an argument of its own. -/
def it : Expr := placeholder .anonymous

/-- The placeholder of the positional argument at `i`. -/
def arg (i : Nat) : Expr := placeholder (.indexed (.ofNat i))

/-- An expression that starts from a known value. -/
def bound (v : Value) : Expr := origin (.bound v)

/-- The expression that passes its argument through a pipeline. -/
def pipe (stages : Pipeline) : Expr := it.step (.apply (.pipeline stages))

def binary (e : Expr) (op : BinaryOp) (right : Operand) : Expr := e.step (.binary op right)

/-- `left op e`. -/
def reflected (e : Expr) (op : BinaryOp) (left : Operand) : Expr := e.step (.reflected op left)

def unary (e : Expr) (op : UnaryOp) : Expr := e.step (.unary op)

def attr (e : Expr) (name : String) : Expr := e.step (.attr name)

def item (e : Expr) (key : Operand) : Expr := e.step (.item key)

def call (e : Expr) (args : List Operand) (named : NamedOperands) : Expr :=
  e.step (.call args named)

def method (e : Expr) (name : String) (args : List Operand) (named : NamedOperands) : Expr :=
  e.step (.method name args named)

/-- Passes the value of `e` through a function of the host. -/
def apply (e : Expr) (f : Function) : Expr := e.step (.apply (.function f))

/-- Records operations in their order. -/
def steps (e : Expr) (ops : List Operation) : Expr := ops.foldl step e

end Expr

end Deferred
