/-!
# Segments of a text

Cutting a text at every occurrence of one character. Segments may be empty, and there is always one
more of them than there are separators.
-/

namespace Deferred

namespace Text

/-- Puts `c` in front of the first piece. -/
def consFirst (c : Char) : List (List Char) → List (List Char)
  | [] => [[c]]
  | p :: ps => (c :: p) :: ps

/-- The pieces between the characters equal to `sep`. -/
def segments (sep : Char) : List Char → List (List Char)
  | [] => [[]]
  | c :: cs => if c = sep then [] :: segments sep cs else consFirst c (segments sep cs)

theorem segments_ne_nil (sep : Char) (s : List Char) : segments sep s ≠ [] := by
  cases s with
  | nil => simp [segments]
  | cons c cs =>
    simp only [segments]
    split
    · simp
    · cases segments sep cs <;> simp [consFirst]

theorem consFirst_append {ps : List (List Char)} (h : ps ≠ []) (c : Char)
    (qs : List (List Char)) : consFirst c (ps ++ qs) = consFirst c ps ++ qs := by
  cases ps with
  | nil => exact absurd rfl h
  | cons p ps => rfl

/-- A separator divides the segments before it from those behind it. -/
theorem segments_append (sep : Char) (s t : List Char) :
    segments sep (s ++ sep :: t) = segments sep s ++ segments sep t := by
  induction s with
  | nil => simp [segments]
  | cons c cs ih =>
    simp only [List.cons_append, segments]
    split
    · rw [ih, List.cons_append]
    · rw [ih, consFirst_append (segments_ne_nil sep cs)]

/-- A text without separators is one segment. -/
theorem segments_of_not_mem {sep : Char} {s : List Char} (h : sep ∉ s) : segments sep s = [s] := by
  induction s with
  | nil => rfl
  | cons c cs ih =>
    obtain ⟨hc, hcs⟩ := not_or.1 (mt List.mem_cons.2 h)
    rw [segments, if_neg (Ne.symm hc), ih hcs, consFirst]

/-- Pieces without separators are the segments of the text that they are joined to. -/
theorem segments_intercalate {sep : Char} {ps : List (List Char)} (hps : ps ≠ [])
    (h : ∀ p ∈ ps, sep ∉ p) : segments sep ([sep].intercalate ps) = ps := by
  induction ps with
  | nil => exact absurd rfl hps
  | cons p ps ih =>
    obtain ⟨hp, hrest⟩ := List.forall_mem_cons.1 h
    cases ps with
    | nil => rw [List.intercalate_singleton, segments_of_not_mem hp]
    | cons q qs =>
      rw [List.intercalate_cons_cons, List.append_assoc, List.singleton_append, segments_append,
        segments_of_not_mem hp, ih (List.cons_ne_nil q qs) hrest, List.singleton_append]

end Text

end Deferred
