import Deferred.Text.CharProperty
import Deferred.Text.Segments

/-!
# Searching and dividing texts

Looking for a text inside another, and cutting a text at every occurrence of a separator or at white
space. Pieces between separators may be empty; words never are.
-/

namespace Deferred

namespace Text

/-- Whether `needle` stands somewhere in the text. -/
def contains (needle : List Char) : List Char → Bool
  | [] => needle.isEmpty
  | c :: cs => needle.isPrefixOf (c :: cs) || contains needle cs

/-- The pieces between the occurrences of the separator `first :: rest`, the leftmost first and none
overlapping the one before it. -/
def splitOn (first : Char) (rest : List Char) : List Char → List (List Char)
  | [] => [[]]
  | c :: cs =>
    if (first :: rest).isPrefixOf (c :: cs) then [] :: splitOn first rest (cs.drop rest.length)
    else consFirst c (splitOn first rest cs)
termination_by s => s.length

/-- The maximal runs without white space. -/
def words (s : List Char) : List (List Char) :=
  match _h : s.dropWhile CharProperty.isBlank with
  | [] => []
  | c :: cs =>
    (c :: cs).takeWhile (!CharProperty.isBlank ·) ::
      words ((c :: cs).dropWhile (!CharProperty.isBlank ·))
termination_by s.length
decreasing_by
  have hc : CharProperty.isBlank c = false := by
    have := List.head?_dropWhile_not CharProperty.isBlank s
    simpa [_h] using this
  have h₁ : (c :: cs).length ≤ s.length := _h ▸ (List.dropWhile_suffix _).length_le
  have h₂ : (cs.dropWhile (!CharProperty.isBlank ·)).length ≤ cs.length :=
    (List.dropWhile_suffix _).length_le
  rw [List.dropWhile_cons]
  simp only [hc, Bool.not_false, if_true, List.length_cons] at h₁ ⊢
  omega

/-- The text without white space at its ends. -/
def trim (s : List Char) : List Char :=
  ((s.dropWhile CharProperty.isBlank).reverse.dropWhile CharProperty.isBlank).reverse

end Text

end Deferred
