import Deferred.Operator.Apply
import Deferred.Stock
import Deferred.Value.Render

/-!
# Functions of the host

Expressions can call functions that they know only by identity. A `Host` says what each of them does
with its positional and its named arguments. `Host.stock` is a small set of such functions.
-/

namespace Deferred

/-- What functions do with their arguments. -/
abbrev Host := Function → List Value → Named → Except Fault Value

namespace Host

variable [Decimals]

/-- A function of its first positional argument, which it needs. -/
def unary (name : String) (f : Value → Except Fault Value) (args : List Value) :
    Except Fault Value :=
  match args with
  | v :: _ => f v
  | [] => .error (.type (.raised (name ++ "() requires one argument")))

/-- Twice a number, rounded to an integer before. -/
def double (v : Value) : Except Fault Value :=
  match v.asInteger? with
  | none => .error (.type (.raised "double() needs a number"))
  | some n =>
    match Integer.ofInt? (2 * n.toInt) with
    | some r => .ok (.integer r)
    | none => .error (.overflow (.raised "double"))

/-- The sum of the first two arguments. -/
def add (args : List Value) : Except Fault Value :=
  match args with
  | v :: w :: _ => BinaryOp.apply (.arith .add) v w
  | _ => .error (.type (.raised "add() needs two arguments"))

/-- The arguments of a call, as an object. -/
def echo (args : List Value) (named : Named) : Value :=
  .object (Dict.ofList [("args", .array args), ("kwargs", .object named)])

/-- A few functions, by name. -/
def stock : Host := fun f args named =>
  match f.name with
  | "id" => unary f.name .ok args
  | "double" => unary f.name double args
  | "type" => unary f.name (fun v => .ok (.string v.kind.name)) args
  | "bytes" => unary f.name (fun v => .ok (.integer (Int64.ofNat v.asText.utf8ByteSize))) args
  | "boom" => .error (.failed "boom")
  | "deny" => .error (.access (.raised "denied"))
  | "gone" => .ok .unset
  | "echo" => .ok (echo args named)
  | "add" => add args
  | name => .error (.failed ("unknown function " ++ name))

end Host

end Deferred
