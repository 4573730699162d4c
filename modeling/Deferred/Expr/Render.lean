import Deferred.Expr.Basic
import Deferred.Value.Render

/-!
# The text of an expression

Operators are written with parentheses around them, members and calls after what they belong to. The
stages of a pipeline are not shown.
-/

namespace Deferred

/-- The text of an origin. -/
def Origin.render : Origin → String
  | .placeholder p => p.render
  | .bound v => v.render

/-- The name under which an expression shows what it applies. -/
def Target.name : Target → String
  | .function f => f.name
  | .pipeline _ => "pipe"

mutual

/-- The text of an expression. -/
def Expr.render : Expr → String
  | .origin o => o.render
  | .step target op => op.renderOn target.render
termination_by structural e => e

/-- The text of an operation on what has the text `target`. -/
def Operation.renderOn (target : String) : Operation → String
  | .binary op right => "(" ++ target ++ " " ++ op.symbol ++ " " ++ right.render ++ ")"
  | .reflected op left => "(" ++ left.render ++ " " ++ op.symbol ++ " " ++ target ++ ")"
  | .unary op => "(" ++ op.symbol ++ target ++ ")"
  | .attr name => target ++ "." ++ name
  | .item key => target ++ "[" ++ key.render ++ "]"
  | .call args named =>
    target ++ "(" ++ ", ".intercalate (renderOperands args ++ renderNamed named) ++ ")"
  | .method name args named =>
    target ++ "." ++ name ++ "(" ++
      ", ".intercalate (renderOperands args ++ renderNamed named) ++ ")"
  | .apply callee => callee.name ++ "(" ++ target ++ ")"
termination_by structural op => op

/-- The text of an operand. -/
def Operand.render : Operand → String
  | .literal v => v.render
  | .expr e => e.render
termination_by structural o => o

/-- The texts of operands without names. -/
def renderOperands : List Operand → List String
  | [] => []
  | o :: os => o.render :: renderOperands os
termination_by structural os => os

/-- The texts of operands with names. -/
def renderNamed : List (String × Operand) → List String
  | [] => []
  | (k, o) :: os => (k ++ "=" ++ o.render) :: renderNamed os
termination_by structural os => os

end

end Deferred
