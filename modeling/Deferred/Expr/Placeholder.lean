/-!
# Placeholders

A placeholder stands for an argument that an expression still lacks: the next positional one, the
positional one at an index, or the one with a name.
-/

namespace Deferred

inductive Placeholder where
  /-- Takes the next positional argument that no anonymous placeholder before it has taken. -/
  | anonymous
  /-- Always the positional argument at `i`, which is a machine word. -/
  | indexed (i : UInt64)
  /-- The argument with this name. -/
  | named (key : String)
deriving DecidableEq, Repr

/-- Why a placeholder cannot be made. -/
inductive PlaceholderFault where
  | negativeIndex (i : Int)
  | emptyName
  | reservedName (key : String)
deriving DecidableEq, Repr

namespace PlaceholderFault

def message : PlaceholderFault → String
  | negativeIndex i => "placeholder index must be non-negative, got " ++ toString i
  | emptyName => "placeholder name must not be empty"
  | reservedName key => "placeholder name `" ++ key ++ "` uses the reserved `__` prefix"

end PlaceholderFault

namespace Placeholder

/-- The text of a placeholder. -/
def render : Placeholder → String
  | anonymous => "_"
  | indexed i => "_" ++ toString i
  | named key => "@" ++ key

/-- Names that begin like this are kept back. -/
def reservedStart : String := "__"

/-- The placeholder of the positional argument at `i`. -/
def atIndex (i : Int) : Except PlaceholderFault Placeholder :=
  if i < 0 then .error (.negativeIndex i) else .ok (.indexed (.ofNat i.toNat))

/-- The placeholder of the argument with a name. -/
def withName (key : String) : Except PlaceholderFault Placeholder :=
  if key.isEmpty then .error .emptyName
  else if reservedStart.toList.isPrefixOf key.toList then .error (.reservedName key)
  else .ok (.named key)

end Placeholder

end Deferred
