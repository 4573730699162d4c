import Deferred.Pattern.Basic
import Deferred.Text.CaseMapping
import Deferred.Text.Script

/-!
# Sets of characters

The sets that a pattern can name: classes of digits, blanks and words, classes of the ASCII range,
general categories, scripts and a few other properties.
-/

namespace Deferred

namespace CharSet

/-- The characters from `first` to `last`. -/
def range (first last : Char) : CharSet := fun c => decide (first ≤ c) && decide (c ≤ last)

def one (c : Char) : CharSet := (· == c)

def none : CharSet := fun _ => false

def all : CharSet := fun _ => true

def compl (s : CharSet) : CharSet := fun c => !s c

def union (s t : CharSet) : CharSet := fun c => s c || t c

def inter (s t : CharSet) : CharSet := fun c => s c && t c

def diff (s t : CharSet) : CharSet := fun c => s c && !t c

def symmDiff (s t : CharSet) : CharSet := fun c => s c != t c

/-- The characters that differ from a member in case only. -/
def foldCase (s : CharSet) : CharSet := fun c => s c || (CaseMapping.variants c).any s

/-- Whether the character is in the ASCII range. -/
def ascii : CharSet := fun c => decide (c.toNat < 128)

/-- The other case of an ASCII letter, or the character itself. -/
def asciiSwap (c : Char) : Char := if c.isLower then c.toUpper else c.toLower

/-- Like `foldCase`, within the ASCII range. -/
def foldAscii (s : CharSet) : CharSet := fun c => s c || s (asciiSwap c)

/-! ### Classes with a letter -/

def asciiDigit : CharSet := range '0' '9'

def asciiSpace : CharSet := fun c => c == ' ' || range '\t' '\r' c

def asciiWord : CharSet := fun c =>
  range '0' '9' c || range 'A' 'Z' c || range 'a' 'z' c || c == '_'

/-- The class with a lower-case letter: digits, blanks or word characters. -/
def ofLetter? (unicode : Bool) : Char → Option CharSet
  | 'd' => some (if unicode then CharProperty.isDigit else asciiDigit)
  | 's' => some (if unicode then CharProperty.isBlank else asciiSpace)
  | 'w' => some (if unicode then CharProperty.isWord else asciiWord)
  | _ => Option.none

/-- The classes of the ASCII range that are named between colons. -/
def asciiClass? : String → Option CharSet
  | "alnum" => some fun c => range '0' '9' c || range 'A' 'Z' c || range 'a' 'z' c
  | "alpha" => some fun c => range 'A' 'Z' c || range 'a' 'z' c
  | "ascii" => some ascii
  | "blank" => some fun c => c == '\t' || c == ' '
  | "cntrl" => some fun c => decide (c.toNat < 0x20) || c.toNat == 0x7F
  | "digit" => some asciiDigit
  | "graph" => some (range '!' '~')
  | "lower" => some (range 'a' 'z')
  | "print" => some (range ' ' '~')
  | "punct" => some fun c =>
    range '!' '/' c || range ':' '@' c || range '[' '\x60' c || range '\x7b' '~' c
  | "space" => some asciiSpace
  | "upper" => some (range 'A' 'Z')
  | "word" => some asciiWord
  | "xdigit" => some fun c => range '0' '9' c || range 'A' 'F' c || range 'a' 'f' c
  | _ => Option.none

/-! ### Properties -/

open Category

/-- The groups of categories, by their names in lower case and without underscores. -/
def categoryGroups : List (List String × List Category) :=
  [(["l", "letter"],
      [uppercaseLetter, lowercaseLetter, titlecaseLetter, modifierLetter, otherLetter]),
   (["lc", "casedletter"], [uppercaseLetter, lowercaseLetter, titlecaseLetter]),
   (["lu", "uppercaseletter"], [uppercaseLetter]),
   (["ll", "lowercaseletter"], [lowercaseLetter]),
   (["lt", "titlecaseletter"], [titlecaseLetter]),
   (["lm", "modifierletter"], [modifierLetter]),
   (["lo", "otherletter"], [otherLetter]),
   (["m", "mark", "combiningmark"], [nonspacingMark, spacingMark, enclosingMark]),
   (["mn", "nonspacingmark"], [nonspacingMark]),
   (["mc", "spacingmark"], [spacingMark]),
   (["me", "enclosingmark"], [enclosingMark]),
   (["n", "number"], [decimalNumber, letterNumber, otherNumber]),
   (["nd", "decimalnumber", "digit"], [decimalNumber]),
   (["nl", "letternumber"], [letterNumber]),
   (["no", "othernumber"], [otherNumber]),
   (["p", "punctuation", "punct"],
      [connectorPunctuation, dashPunctuation, openPunctuation, closePunctuation,
       initialPunctuation, finalPunctuation, otherPunctuation]),
   (["pc", "connectorpunctuation"], [connectorPunctuation]),
   (["pd", "dashpunctuation"], [dashPunctuation]),
   (["ps", "openpunctuation"], [openPunctuation]),
   (["pe", "closepunctuation"], [closePunctuation]),
   (["pi", "initialpunctuation"], [initialPunctuation]),
   (["pf", "finalpunctuation"], [finalPunctuation]),
   (["po", "otherpunctuation"], [otherPunctuation]),
   (["s", "symbol"], [mathSymbol, currencySymbol, modifierSymbol, otherSymbol]),
   (["sm", "mathsymbol"], [mathSymbol]),
   (["sc", "currencysymbol"], [currencySymbol]),
   (["sk", "modifiersymbol"], [modifierSymbol]),
   (["so", "othersymbol"], [otherSymbol]),
   (["z", "separator"], [spaceSeparator, lineSeparator, paragraphSeparator]),
   (["zs", "spaceseparator"], [spaceSeparator]),
   (["zl", "lineseparator"], [lineSeparator]),
   (["zp", "paragraphseparator"], [paragraphSeparator]),
   (["c", "other"], [control, format, privateUse, unassigned]),
   (["cc", "control", "cntrl"], [control]),
   (["cf", "format"], [format]),
   (["co", "privateuse"], [privateUse]),
   (["cn", "unassigned"], [unassigned])]

/-- A general category, or a group of them, by name. -/
def category? (name : String) : Option CharSet :=
  if name = "any" then some all
  else if name = "assigned" then some (compl (CharProperty.isOf [unassigned]))
  else if name = "ascii" then some ascii
  else
    (categoryGroups.find? fun (names, _) => names.contains name).map fun (_, categories) =>
      CharProperty.isOf categories

/-- A script by name. -/
def script? (name : String) : Option CharSet := (Script.ranges? name).map (·.contains)

/-- A property that a character has or has not, by name. -/
def property? : String → Option CharSet
  | "alphabetic" | "alpha" => some CharProperty.isAlphabetic
  | "lowercase" | "lower" => some CharProperty.isLowercase
  | "uppercase" | "upper" => some CharProperty.isUppercase
  | "whitespace" | "space" | "wspace" => some CharProperty.isBlank
  | "cased" => some CharProperty.isCased
  | "caseignorable" | "ci" => some CharProperty.isCaseIgnorable
  | "graphemeextend" | "grext" => some CharProperty.isGraphemeExtend
  | "asciihexdigit" | "ahex" => asciiClass? "xdigit"
  | "joincontrol" | "joinc" => some fun c => c == '\u200C' || c == '\u200D'
  | _ => Option.none

/-- A name of a property without what does not count in it: case, blanks, underscores, hyphens and
the word "is" in front. -/
def plainName (name : List Char) : String :=
  let isKept (c : Char) : Bool := c.toNat < 128 && c != ' ' && c != '_' && c != '-'
  let kept := (name.filter isKept).map Char.toLower
  match kept with
  | ['i', 's', 'c'] => "isc"
  | 'i' :: 's' :: rest => String.ofList rest
  | rest => String.ofList rest

/-- The set with one name: a property, a general category or a script. -/
def ofName? (name : List Char) : Option CharSet :=
  let name := plainName name
  if name = "cf" ∨ name = "sc" ∨ name = "lc" then category? name
  else ((property? name).or (category? name)).or (script? name)

/-- The set with a value of a property that has several. -/
def ofNameAndValue? (name value : List Char) : Option CharSet :=
  match plainName name with
  | "gc" | "generalcategory" => category? (plainName value)
  | "sc" | "script" | "scx" | "scriptextensions" => script? (plainName value)
  | _ => Option.none

end CharSet

end Deferred
