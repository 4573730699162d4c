import Deferred.Number.Integer

/-!
# Integers in decimal notation

Numbers of 64 bits with a sign: written as decimal digits after a minus sign where one is due, read
with either sign in front.
-/

namespace Deferred

namespace Text

/-- The decimal digits of a number, after a minus sign if it is negative. -/
def ofInteger (n : Int64) : String := toString n.toInt

/-- The value of decimal digits, if there is at least one and nothing else. -/
def digits? (cs : List Char) : Option Nat :=
  if cs.isEmpty then none
  else cs.foldlM (fun n c => if c.isDigit then some (10 * n + (c.toNat - '0'.toNat)) else none) 0

/-- Reads a text as a number of 64 bits: a plus or a minus sign is allowed, blanks are not. -/
def integer? (cs : List Char) : Option Int64 :=
  match cs with
  | '-' :: ds => (digits? ds).bind fun n => Integer.ofInt? (-(n : Int))
  | '+' :: ds => (digits? ds).bind fun n => Integer.ofInt? n
  | ds => (digits? ds).bind fun n => Integer.ofInt? n

end Text

end Deferred
