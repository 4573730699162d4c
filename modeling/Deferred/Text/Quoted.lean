import Deferred.Text.CharProperty

/-!
# Quoted texts

`encode` writes a text between double quotes on one line: quotes, backslashes and control characters
are written with a backslash, all else stands for itself.
-/

namespace Deferred

namespace Quoted

/-- The lower-case hexadecimal digit of a number below 16. -/
def hexDigit (n : Nat) : Char := Nat.digitChar n

/-- Four hexadecimal digits. -/
def hex4 (n : Nat) : List Char :=
  [hexDigit (n / 4096 % 16), hexDigit (n / 256 % 16), hexDigit (n / 16 % 16), hexDigit (n % 16)]

/-- How one character is written. -/
def encodeChar (c : Char) : List Char :=
  if c = '"' then ['\\', '"']
  else if c = '\\' then ['\\', '\\']
  else if c = '\n' then ['\\', 'n']
  else if c = '\r' then ['\\', 'r']
  else if c = '\t' then ['\\', 't']
  else if CharProperty.isControl c then '\\' :: 'u' :: hex4 c.toNat
  else [c]

/-- The quoted form of a text. -/
def encode (s : List Char) : List Char := '"' :: (s.flatMap encodeChar ++ ['"'])

/-- The quoted form of a text. -/
def quote (s : String) : String := String.ofList (encode s.toList)

end Quoted

end Deferred
