import Deferred.Text.CharProperty

/-!
# Escaped texts

A quoted form that shows every character that has no shape of its own, or that would merge with the
one before it, by its number.
-/

namespace Deferred

namespace Escaped

/-- Lower-case hexadecimal digits without leading zeros. -/
def hex (n : Nat) : List Char := Nat.toDigits 16 n

/-- How one character is written. -/
def encodeChar (c : Char) : List Char :=
  if c = '\x00' then ['\\', '0']
  else if c = '\t' then ['\\', 't']
  else if c = '\r' then ['\\', 'r']
  else if c = '\n' then ['\\', 'n']
  else if c = '"' then ['\\', '"']
  else if c = '\\' then ['\\', '\\']
  else if CharProperty.isGraphemeExtend c || !CharProperty.isPrintable c then
    ['\\', 'u', '\x7b'] ++ hex c.toNat ++ ['\x7d']
  else [c]

/-- The escaped form of a text, between double quotes. -/
def quote (s : String) : String := String.ofList ('"' :: (s.toList.flatMap encodeChar ++ ['"']))

end Escaped

end Deferred
