import Deferred.Expr.Basic

/-!
# Walking through an expression

All walks visit the same places in the same order: the origin of an expression, then the operands of
its operations as they were recorded, each of them as a whole. `mapOriginsM` replaces the origins
met on the walk, and `placeholders` lists those that are placeholders. The stages of a pipeline are
no operands; they get their argument from the pipeline.

`Operation.placeholders_eq` and `Operation.mapOriginsM_eq` say that through an operation both are
walks through its operands, in the order of `Operation.operands`.
-/

namespace Deferred

section Map

variable {m : Type → Type} [Monad m]

mutual

/-- Replaces every origin by what `f` makes of it, in the order of the walk. -/
def Expr.mapOriginsM (f : Origin → m Origin) : Expr → m Expr
  | .origin o => return .origin (← f o)
  | .step target op => do
    let target ← target.mapOriginsM f
    let op ← op.mapOriginsM f
    return .step target op
termination_by structural e => e

/-- Replaces the origins of the operands of an operation. -/
def Operation.mapOriginsM (f : Origin → m Origin) : Operation → m Operation
  | .binary op right => return .binary op (← right.mapOriginsM f)
  | .reflected op left => return .reflected op (← left.mapOriginsM f)
  | .unary op => return .unary op
  | .attr name => return .attr name
  | .item key => return .item (← key.mapOriginsM f)
  | .call args named => do
    let args ← mapOperandsOriginsM f args
    let named ← mapNamedOriginsM f named
    return .call args named
  | .method name args named => do
    let args ← mapOperandsOriginsM f args
    let named ← mapNamedOriginsM f named
    return .method name args named
  | .apply target => return .apply target
termination_by structural op => op

/-- Replaces the origins of an operand. -/
def Operand.mapOriginsM (f : Origin → m Origin) : Operand → m Operand
  | .literal v => return .literal v
  | .expr e => return .expr (← e.mapOriginsM f)
termination_by structural o => o

/-- Replaces the origins of operands, one operand after the other. -/
def mapOperandsOriginsM (f : Origin → m Origin) : List Operand → m (List Operand)
  | [] => return []
  | o :: os => do
    let o ← o.mapOriginsM f
    let os ← mapOperandsOriginsM f os
    return o :: os
termination_by structural os => os

/-- Replaces the origins of operands with names, one operand after the other. -/
def mapNamedOriginsM (f : Origin → m Origin) : List (String × Operand) → m (List (String × Operand))
  | [] => return []
  | (k, o) :: os => do
    let o ← o.mapOriginsM f
    let os ← mapNamedOriginsM f os
    return (k, o) :: os
termination_by structural os => os

end

end Map

/-- The placeholder that an origin is, if it is one. -/
def Origin.placeholders : Origin → List Placeholder
  | .placeholder p => [p]
  | .bound _ => []

mutual

/-- The placeholders of an expression, in the order of the walk. -/
def Expr.placeholders : Expr → List Placeholder
  | .origin o => o.placeholders
  | .step target op => target.placeholders ++ op.placeholders
termination_by structural e => e

/-- The placeholders in the operands of an operation. -/
def Operation.placeholders : Operation → List Placeholder
  | .binary _ right => right.placeholders
  | .reflected _ left => left.placeholders
  | .item key => key.placeholders
  | .call args named => operandsPlaceholders args ++ namedPlaceholders named
  | .method _ args named => operandsPlaceholders args ++ namedPlaceholders named
  | .unary _ | .attr _ | .apply _ => []
termination_by structural op => op

/-- The placeholders of an operand. -/
def Operand.placeholders : Operand → List Placeholder
  | .literal _ => []
  | .expr e => e.placeholders
termination_by structural o => o

/-- The placeholders of operands. -/
def operandsPlaceholders : List Operand → List Placeholder
  | [] => []
  | o :: os => o.placeholders ++ operandsPlaceholders os
termination_by structural os => os

/-- The placeholders of operands with names. -/
def namedPlaceholders : List (String × Operand) → List Placeholder
  | [] => []
  | (_, o) :: os => o.placeholders ++ namedPlaceholders os
termination_by structural os => os

end

/-! ### The operands of an operation -/

theorem operandsPlaceholders_eq (os : List Operand) :
    operandsPlaceholders os = os.flatMap Operand.placeholders := by
  induction os with
  | nil => rfl
  | cons o os ih => simp [operandsPlaceholders, ih]

theorem namedPlaceholders_eq (os : List (String × Operand)) :
    namedPlaceholders os = (os.map (·.2)).flatMap Operand.placeholders := by
  induction os with
  | nil => rfl
  | cons o os ih => simp [namedPlaceholders, ih]

/-- The placeholders of an operation are those of its operands, one operand after the other. -/
theorem Operation.placeholders_eq (op : Operation) :
    op.placeholders = op.operands.flatMap Operand.placeholders := by
  cases op <;>
    simp [placeholders, operands, operandsPlaceholders_eq, namedPlaceholders_eq,
      List.flatMap_append]

section Map

variable {m : Type → Type} [Monad m] [LawfulMonad m]

theorem mapOperandsOriginsM_eq (f : Origin → m Origin) (os : List Operand) :
    mapOperandsOriginsM f os = os.mapM (Operand.mapOriginsM f) := by
  induction os with
  | nil => simp [mapOperandsOriginsM]
  | cons o os ih => simp [mapOperandsOriginsM, ih]

theorem mapNamedOriginsM_eq (f : Origin → m Origin) (os : List (String × Operand)) :
    mapNamedOriginsM f os = os.mapM fun (k, o) => return (k, ← o.mapOriginsM f) := by
  induction os with
  | nil => simp [mapNamedOriginsM]
  | cons o os ih => simp [mapNamedOriginsM, ih]

/-- The walk through an operation is the walk through its operands. -/
theorem Operation.mapOriginsM_eq (f : Origin → m Origin) (op : Operation) :
    op.mapOriginsM f = op.mapOperandsM (Operand.mapOriginsM f) := by
  cases op <;>
    simp [Operation.mapOriginsM, mapOperandsM, mapOperandsOriginsM_eq, mapNamedOriginsM_eq]

end Map

end Deferred
