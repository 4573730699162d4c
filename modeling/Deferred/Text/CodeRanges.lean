import Deferred.Text.Segments

/-!
# Ranges of code points

A set of characters given by ranges of code points, as tables of character properties are. The
tables are written as texts of hexadecimal numbers, `41-5A` for a range and `AA` for a single code
point, with blanks between them.
-/

namespace Deferred

/-- A set of code points: each pair is a first and a last member. -/
structure CodeRanges where
  ranges : List (Nat × Nat)
deriving Repr

namespace CodeRanges

/-- The value of a hexadecimal digit. -/
def hexDigit? (c : Char) : Option Nat :=
  if '0' ≤ c ∧ c ≤ '9' then some (c.toNat - '0'.toNat)
  else if 'A' ≤ c ∧ c ≤ 'F' then some (c.toNat - 'A'.toNat + 10)
  else if 'a' ≤ c ∧ c ≤ 'f' then some (c.toNat - 'a'.toNat + 10)
  else none

/-- Reads hexadecimal digits, most significant first; other characters are passed over. -/
def hexValue (cs : List Char) : Nat :=
  (cs.filterMap hexDigit?).foldl (fun n d => 16 * n + d) 0

/-- Reads one entry of a table. -/
def entry (cs : List Char) : Nat × Nat :=
  match Text.segments '-' cs with
  | [first, last] => (hexValue first, hexValue last)
  | _ => (hexValue cs, hexValue cs)

/-- The entries of a table, which stand between blanks. -/
def tokens (table : List Char) : List (List Char) :=
  (Text.segments ' ' (table.map fun c => if c = '\n' then ' ' else c)).filter (!·.isEmpty)

/-- Reads a table. -/
def ofHex (table : String) : CodeRanges := ⟨(tokens table.toList).map entry⟩

/-- Whether a code point is in one of the ranges. -/
def containsCode (s : CodeRanges) (n : Nat) : Bool :=
  s.ranges.any fun (first, last) => decide (first ≤ n) && decide (n ≤ last)

/-- Whether a character is in one of the ranges. -/
def contains (s : CodeRanges) (c : Char) : Bool := s.containsCode c.toNat

end CodeRanges

end Deferred
