/-!
# Operators

The binary and the unary operators that an expression can record, and their symbols.
-/

namespace Deferred

/-- Orderings. -/
inductive OrderOp where
  | less
  | greater
  | lessEqual
  | greaterEqual
deriving DecidableEq, Repr

/-- Arithmetic; `add` also joins and `multiply` also repeats. -/
inductive ArithOp where
  | add
  | subtract
  | multiply
  | divide
  | floorDivide
  | modulo
  | power
deriving DecidableEq, Repr

/-- Operations on bits, which are the logical ones on booleans. -/
inductive BitOp where
  | and
  | or
  | xor
deriving DecidableEq, Repr

/-- Shifts of an integer. -/
inductive ShiftOp where
  | left
  | right
deriving DecidableEq, Repr

/-- Binary operators. -/
inductive BinaryOp where
  | equal
  | notEqual
  | order (op : OrderOp)
  | arith (op : ArithOp)
  | bits (op : BitOp)
  | shift (op : ShiftOp)
deriving DecidableEq, Repr

/-- Unary operators. -/
inductive UnaryOp where
  | negate
  | plus
  | invert
deriving DecidableEq, Repr

def OrderOp.symbol : OrderOp → String
  | .less => "<"
  | .greater => ">"
  | .lessEqual => "<="
  | .greaterEqual => ">="

/-- Whether two things in this order stand in the relation. -/
def OrderOp.holds : OrderOp → Ordering → Bool
  | .less, o => o.isLT
  | .greater, o => o.isGT
  | .lessEqual, o => o.isLE
  | .greaterEqual, o => o.isGE

def ArithOp.symbol : ArithOp → String
  | .add => "+"
  | .subtract => "-"
  | .multiply => "*"
  | .divide => "/"
  | .floorDivide => "//"
  | .modulo => "%"
  | .power => "**"

/-- Whether the operator divides, so that a zero on its right is refused. -/
def ArithOp.divides : ArithOp → Bool
  | .divide | .floorDivide | .modulo => true
  | _ => false

def BitOp.symbol : BitOp → String
  | .and => "&"
  | .or => "|"
  | .xor => "^"

def ShiftOp.symbol : ShiftOp → String
  | .left => "<<"
  | .right => ">>"

namespace BinaryOp

def symbol : BinaryOp → String
  | equal => "=="
  | notEqual => "!="
  | order op => op.symbol
  | arith op => op.symbol
  | bits op => op.symbol
  | shift op => op.symbol

/-- All binary operators. -/
def all : List BinaryOp :=
  [equal, notEqual, order .less, order .greater, order .lessEqual, order .greaterEqual,
    arith .add, arith .subtract, arith .multiply, arith .divide, arith .floorDivide, arith .modulo,
    arith .power, bits .and, bits .or, bits .xor, shift .left, shift .right]

/-- The operator with a symbol. -/
def ofSymbol? (s : String) : Option BinaryOp := all.find? fun op => op.symbol == s

/-- Whether the operator answers with a boolean on operands of every kind it accepts. -/
def isComparison : BinaryOp → Bool
  | equal | notEqual | order _ => true
  | _ => false

end BinaryOp

namespace UnaryOp

def symbol : UnaryOp → String
  | negate => "-"
  | plus => "+"
  | invert => "~"

/-- The operator with a symbol. -/
def ofSymbol? (s : String) : Option UnaryOp := [negate, plus, invert].find? fun op => op.symbol == s

end UnaryOp

end Deferred
