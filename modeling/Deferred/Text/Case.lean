import Deferred.Text.CaseMapping
import Deferred.Text.CharProperty

/-!
# Upper and lower case of texts

Each character is mapped on its own, except that a capital sigma at the end of a word has the final
form as its lower case.
-/

namespace Deferred

namespace Text

/-- The upper case of a text. -/
def upper (s : List Char) : List Char := s.flatMap CaseMapping.upper

/-- Whether the first character that is not case-ignorable has a case. -/
def meetsCased (s : List Char) : Bool :=
  match s.dropWhile CharProperty.isCaseIgnorable with
  | [] => false
  | c :: _ => CharProperty.isCased c

/-- The lower case of a text that follows the characters `before`, nearest first: a capital sigma is
final when a cased character comes before it and none comes after it. -/
def lowerAfter (before : List Char) : List Char → List Char
  | [] => []
  | c :: cs =>
    let image :=
      if c = 'Σ' then [if meetsCased before && !meetsCased cs then 'ς' else 'σ']
      else CaseMapping.lower c
    image ++ lowerAfter (c :: before) cs

/-- The lower case of a text. -/
def lower (s : List Char) : List Char := lowerAfter [] s

end Text

end Deferred
