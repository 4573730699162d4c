import Deferred.Proofs.Positions
import Mathlib.Data.List.TakeWhile

/-!
# Splitting texts

What a text is cut into is said without the functions that cut it, by two relations. Its pieces
between the leftmost occurrences of a separator (`Text.Divided`) have the separator between them and
nowhere inside; its words (`Text.Spaced`) are runs without white space that cannot be made longer.
Either relation leaves only one way to cut, and `Text.splitOn` and `Text.words` find it
(`Text.splitOn_eq_iff`, `Text.words_eq_iff`), so what is claimed of the pieces is proved of the
relation, and no proof about them follows the search.

Main statement: `Builtin.split_loses_nothing`.
-/

namespace Deferred

namespace Text

/-! ## Pieces between separators -/

/-- No occurrence of the separator in `before ++ sep ++ after` begins further left than this one. -/
def Leftmost (sep before after : List Char) : Prop :=
  ∀ p q, before ++ sep ++ after = p ++ sep ++ q → before.length ≤ p.length

/-- A text and its pieces between the occurrences of the separator, the leftmost first and none
overlapping the one before it. -/
inductive Divided (sep : List Char) : List Char → List (List Char) → Prop where
  | whole {s : List Char} (h : ¬ sep <:+: s) : Divided sep s [s]
  | cut {before after : List Char} {ps : List (List Char)} (h : Leftmost sep before after)
    (hafter : Divided sep after ps) : Divided sep (before ++ sep ++ after) (before :: ps)

namespace Divided

variable {sep s : List Char} {ps qs : List (List Char)}

theorem ne_nil (h : Divided sep s ps) : ps ≠ [] := by
  cases h <;> simp

/-- A character at which no separator begins goes to the first piece. -/
theorem consFirst {c : Char} (h : Divided sep s ps) (hc : ¬ sep <+: c :: s) :
    Divided sep (c :: s) (Text.consFirst c ps) := by
  cases h with
  | whole h =>
    refine .whole fun hinfix => ?_
    rcases List.infix_cons_iff.1 hinfix with hprefix | hinfix
    · exact hc hprefix
    · exact h hinfix
  | @cut before after ps h hafter =>
    have hleft : Leftmost sep (c :: before) after := by
      intro p q heq
      cases p with
      | nil =>
        have hprefix : sep <+: c :: (before ++ sep ++ after) := ⟨q, heq.symm⟩
        exact absurd hprefix hc
      | cons a p =>
        have hle := h p q (List.cons.inj heq).2
        exact Nat.succ_le_succ hle
    exact .cut hleft hafter

/-- Nothing is lost but the separators. -/
theorem intercalate_eq (h : Divided sep s ps) : sep.intercalate ps = s := by
  induction h with
  | whole h => exact List.intercalate_singleton
  | cut h hafter ih => rw [List.intercalate_cons_of_ne_nil hafter.ne_nil, ih]

/-- No separator is left in a piece: it would begin further left than the one behind the piece. -/
theorem not_infix (hsep : sep ≠ []) (h : Divided sep s ps) : ∀ p ∈ ps, ¬ sep <:+: p := by
  induction h with
  | whole h => exact List.forall_mem_singleton.2 h
  | @cut before after ps h hafter ih =>
    refine List.forall_mem_cons.2 ⟨?_, ih⟩
    rintro ⟨p, q, rfl⟩
    have hle := h p (q ++ sep ++ after) (by simp only [List.append_assoc])
    have hpos := List.length_pos_iff.2 hsep
    simp only [List.length_append] at hle
    omega

/-- There is something to cut exactly where there is a separator. -/
theorem several_iff (h : Divided sep s ps) : 1 < ps.length ↔ sep <:+: s := by
  cases h with
  | whole h => exact iff_of_false (Nat.lt_irrefl 1) h
  | @cut before after ps h hafter =>
    have hlen := List.length_pos_iff.2 hafter.ne_nil
    exact iff_of_true (Nat.succ_lt_succ hlen) ⟨before, after, rfl⟩

/-- There is only one way to cut. -/
theorem unique (h : Divided sep s ps) (h' : Divided sep s qs) : ps = qs := by
  induction h generalizing qs with
  | whole h =>
    cases h' with
    | whole h' => rfl
    | @cut before after qs h' hafter' => exact absurd ⟨before, after, rfl⟩ h
  | @cut before after ps h hafter ih =>
    generalize hs : before ++ sep ++ after = s at h'
    cases h' with
    | whole h' => exact absurd ⟨before, after, hs⟩ h'
    | @cut before' after' qs h' hafter' =>
      have hlen : before.length = before'.length :=
        Nat.le_antisymm (h before' after' hs) (h' before after hs.symm)
      rw [List.append_assoc, List.append_assoc] at hs
      obtain ⟨rfl, hrest⟩ := List.append_inj hs hlen
      obtain rfl := List.append_cancel_left hrest
      rw [ih hafter']

end Divided

theorem divided_splitOn (first : Char) (rest s : List Char) :
    Divided (first :: rest) s (splitOn first rest s) := by
  induction s using splitOn.induct first rest with
  | case1 =>
    rw [splitOn]
    exact .whole (by simp)
  | case2 c cs hprefix ih =>
    rw [splitOn, if_pos hprefix]
    obtain ⟨after, hafter⟩ := List.isPrefixOf_iff_prefix.1 hprefix
    obtain ⟨rfl, hcs⟩ := List.cons.inj hafter
    have hdrop : cs.drop rest.length = after := by
      rw [← hcs]
      exact List.drop_left
    have hleft : Leftmost (first :: rest) [] after := fun p q _ => Nat.zero_le p.length
    rw [hdrop] at ih ⊢
    rw [← hafter]
    exact .cut hleft ih
  | case3 c cs hprefix ih =>
    rw [splitOn, if_neg hprefix]
    exact ih.consFirst (mt List.isPrefixOf_iff_prefix.2 hprefix)

/-- The pieces found are those between the leftmost separators. -/
theorem splitOn_eq_iff {first : Char} {rest s : List Char} {ps : List (List Char)} :
    splitOn first rest s = ps ↔ Divided (first :: rest) s ps := by
  constructor
  · rintro rfl
    exact divided_splitOn first rest s
  · exact (divided_splitOn first rest s).unique

/-! ## Words -/

open CharProperty (isBlank)

/-- A text and its words: runs without white space, and white space around each of them. -/
inductive Spaced : List Char → List (List Char) → Prop where
  | blank {s : List Char} (h : ∀ c ∈ s, isBlank c = true) : Spaced s []
  | word {gap w after : List Char} {ws : List (List Char)} (hgap : ∀ c ∈ gap, isBlank c = true)
    (hne : w ≠ []) (hw : ∀ c ∈ w, isBlank c = false) (hend : ∀ c ∈ after.head?, isBlank c = true)
    (hafter : Spaced after ws) : Spaced (gap ++ w ++ after) (w :: ws)

theorem words_of_dropWhile_nil {s : List Char} (h : s.dropWhile isBlank = []) : words s = [] := by
  rw [words]
  split
  · rfl
  · next c cs hcons => rw [h] at hcons; cases hcons

theorem words_of_dropWhile_cons {c : Char} {s cs : List Char}
    (h : s.dropWhile isBlank = c :: cs) :
    words s = (c :: cs).takeWhile (!isBlank ·) :: words ((c :: cs).dropWhile (!isBlank ·)) := by
  rw [words]
  split
  · next hnil => rw [h] at hnil; cases hnil
  · next c' cs' hcons => rw [h] at hcons; cases hcons; rfl

/-- What is left behind a run does not go on with it. -/
theorem of_mem_head?_dropWhile {p : Char → Bool} {s : List Char} :
    ∀ c ∈ (s.dropWhile p).head?, p c = false := by
  intro c hc
  have hnot := List.head?_dropWhile_not p s
  rwa [Option.mem_def.1 hc] at hnot

theorem spaced_words (s : List Char) : Spaced s (words s) := by
  induction s using words.induct with
  | case1 s hblank =>
    rw [words_of_dropWhile_nil hblank]
    exact .blank (List.dropWhile_eq_nil_iff.1 hblank)
  | case2 s c cs hrun ih =>
    have hc : isBlank c = false := of_mem_head?_dropWhile c (by rw [hrun]; rfl)
    have hend : ∀ a ∈ ((c :: cs).dropWhile (!isBlank ·)).head?, isBlank a = true := by
      intro a ha
      simpa using of_mem_head?_dropWhile a ha
    have hword : ∀ a ∈ (c :: cs).takeWhile (!isBlank ·), isBlank a = false := by
      intro a ha
      simpa using List.mem_takeWhile_imp ha
    have hne : (c :: cs).takeWhile (!isBlank ·) ≠ [] := by
      rw [List.takeWhile_cons_of_pos (by simp [hc])]
      exact List.cons_ne_nil _ _
    have hgap : ∀ a ∈ s.takeWhile isBlank, isBlank a = true := fun a => List.mem_takeWhile_imp
    have hs : s.takeWhile isBlank ++ (c :: cs).takeWhile (!isBlank ·) ++
        (c :: cs).dropWhile (!isBlank ·) = s := by
      rw [List.append_assoc, List.takeWhile_append_dropWhile, ← hrun,
        List.takeWhile_append_dropWhile]
    have hspaced := Spaced.word hgap hne hword hend ih
    rwa [hs, ← words_of_dropWhile_cons hrun] at hspaced

/-- Whatever is a way to cut a text into words, the words found are the same. -/
theorem Spaced.words_eq {s : List Char} {ws : List (List Char)} (h : Spaced s ws) :
    words s = ws := by
  induction h with
  | blank h => exact words_of_dropWhile_nil (List.dropWhile_eq_nil_iff.2 h)
  | @word gap w after ws hgap hne hw hend hafter ih =>
    obtain ⟨c, cs, rfl⟩ := List.exists_cons_of_ne_nil hne
    have hc : isBlank c = false := hw c List.mem_cons_self
    have hrun : (gap ++ (c :: cs) ++ after).dropWhile isBlank = c :: (cs ++ after) := by
      rw [List.append_assoc, List.dropWhile_append_of_pos hgap]
      exact List.dropWhile_cons_of_neg (by simp [hc])
    have hword : ∀ a ∈ c :: cs, (!isBlank a) = true := fun a ha => by simp [hw a ha]
    have hstop : after.takeWhile (!isBlank ·) = [] ∧ after.dropWhile (!isBlank ·) = after := by
      cases after with
      | nil => exact ⟨rfl, rfl⟩
      | cons a as =>
        have ha : isBlank a = true := hend a rfl
        exact ⟨List.takeWhile_cons_of_neg (by simp [ha]), List.dropWhile_cons_of_neg (by simp [ha])⟩
    rw [words_of_dropWhile_cons hrun, ← List.cons_append, List.takeWhile_append_of_pos hword,
      List.dropWhile_append_of_pos hword, hstop.1, hstop.2, List.append_nil, ih]

/-- The words found are those with white space around them. -/
theorem words_eq_iff {s : List Char} {ws : List (List Char)} : words s = ws ↔ Spaced s ws := by
  constructor
  · rintro rfl
    exact spaced_words s
  · exact Spaced.words_eq

theorem Spaced.of_mem {s w : List Char} {ws : List (List Char)} (h : Spaced s ws) (hw : w ∈ ws) :
    w ≠ [] ∧ ∀ c ∈ w, isBlank c = false := by
  induction h with
  | blank h => cases hw
  | word hgap hne hrun hend hafter ih =>
    rcases List.mem_cons.1 hw with rfl | hw
    · exact ⟨hne, hrun⟩
    · exact ih hw

/-- Nothing is lost but the white space. -/
theorem Spaced.flatten_eq {s : List Char} {ws : List (List Char)} (h : Spaced s ws) :
    ws.flatten = s.filter (!isBlank ·) := by
  induction h with
  | blank h =>
    symm
    rw [List.flatten_nil, List.filter_eq_nil_iff]
    intro c hc
    simp [h c hc]
  | @word gap w after ws hgap hne hw hend hafter ih =>
    have hnone : gap.filter (!isBlank ·) = [] := by
      rw [List.filter_eq_nil_iff]
      intro c hc
      simp [hgap c hc]
    have hall : w.filter (!isBlank ·) = w := by
      rw [List.filter_eq_self]
      intro c hc
      simp [hw c hc]
    rw [List.flatten_cons, ih, List.filter_append, List.filter_append, hnone, hall,
      List.nil_append]

end Text

/-! ## The method -/

namespace Builtin

open CharProperty (isBlank)

section Texts

variable {ps : List (List Char)}

/-- Pieces as texts and as lists of characters are the same. -/
theorem map_toList_eq_iff {qs : List String} :
    qs.map String.toList = ps ↔ qs = ps.map String.ofList := by
  constructor
  · rintro rfl
    simp [Function.comp_def]
  · rintro rfl
    simp [Function.comp_def]

theorem textArray_eq (ps : List (List Char)) :
    textArray ps = .array ((ps.map String.ofList).map .string) := by
  rw [textArray, List.map_map]
  rfl

end Texts

section Pieces

variable [Patterns] (s : String)

/-- With a text as its argument, `split` looks whether it has a first character. -/
theorem invoke_split_string (d : String) (rest : List Value) (named : Named) :
    invoke (.string s) "split" (.string d :: rest) named =
      .ok (textArray (match d.toList with
        | [] => s.toList.map ([·])
        | c :: cs => Text.splitOn c cs s.toList)) := by
  show (match d.toList with
    | [] => .ok (textArray (s.toList.map ([·])))
    | c :: cs => .ok (textArray (Text.splitOn c cs s.toList)) : Except Fault Value) = _
  cases d.toList <;> rfl

/-- Split at a separator, a text is given back by its pieces with the separator between them. -/
theorem split_separator {d : String} (hd : d ≠ "") (rest : List Value) (named : Named) :
    ∃ pieces : List String,
      invoke (.string s) "split" (.string d :: rest) named =
        .ok (.array (pieces.map .string)) ∧
      (∀ qs : List String,
        Text.Divided d.toList s.toList (qs.map String.toList) ↔ qs = pieces) ∧
      d.intercalate pieces = s ∧
      (∀ p ∈ pieces, ¬ d.toList <:+: p.toList) ∧
      ∀ more others, invoke (.string s) "contains" (.string d :: more) others =
        .ok (.boolean (decide (1 < pieces.length))) := by
  have hchars : d.toList ≠ [] := mt String.toList_eq_nil_iff.1 hd
  obtain ⟨c, cs, hcs⟩ := List.exists_cons_of_ne_nil hchars
  have hdivided : Text.Divided d.toList s.toList (Text.splitOn c cs s.toList) :=
    hcs ▸ Text.divided_splitOn c cs s.toList
  refine ⟨(Text.splitOn c cs s.toList).map String.ofList, ?_, ?_, ?_, ?_, ?_⟩
  · rw [invoke_split_string, hcs, textArray_eq]
  · intro qs
    rw [hcs, ← Text.splitOn_eq_iff, eq_comm, map_toList_eq_iff]
  · apply String.toList_injective
    rw [String.toList_intercalate, map_toList_eq_iff.2 rfl, hdivided.intercalate_eq]
  · intro p hp
    obtain ⟨piece, hpiece, rfl⟩ := List.mem_map.1 hp
    rw [String.toList_ofList]
    exact hdivided.not_infix hchars piece hpiece
  · intro more others
    have hcontains : Text.contains d.toList s.toList =
        decide (1 < (Text.splitOn c cs s.toList).length) := by
      rw [Bool.eq_iff_iff, Text.contains_iff_infix, decide_eq_true_iff, hdivided.several_iff]
    rw [List.length_map, ← hcontains]
    rfl

/-- Split at the empty text, a text is cut into its characters. -/
theorem split_characters (rest : List Value) (named : Named) :
    ∃ pieces : List String,
      invoke (.string s) "split" (.string "" :: rest) named =
        .ok (.array (pieces.map .string)) ∧
      pieces = s.toList.map String.singleton ∧
      ∀ args others, Counts pieces.length (invoke (.string s) "len" args others) := by
  refine ⟨s.toList.map String.singleton, ?_, rfl, fun args others => ?_⟩
  · have hsingle : (s.toList.map ([·])).map String.ofList = s.toList.map String.singleton := by
      rw [List.map_map]
      exact List.map_congr_left fun c _ => String.singleton_eq_ofList.symm
    rw [invoke_split_string, textArray_eq]
    exact congrArg (fun ps : List String => Except.ok (Value.array (ps.map .string))) hsingle
  · rw [List.length_map, String.length_toList]
    exact counts_countOf s.length

/-- Split without a separator, a text is cut into its words. -/
theorem split_words (named : Named) :
    ∃ pieces : List String,
      invoke (.string s) "split" [] named = .ok (.array (pieces.map .string)) ∧
      (∀ qs : List String, Text.Spaced s.toList (qs.map String.toList) ↔ qs = pieces) ∧
      (∀ p ∈ pieces, p ≠ "" ∧ ∀ c ∈ p.toList, isBlank c = false) ∧
      String.join pieces = String.ofList (s.toList.filter (!isBlank ·)) := by
  have hspaced := Text.spaced_words s.toList
  refine ⟨(Text.words s.toList).map String.ofList, ?_, ?_, ?_, ?_⟩
  · rw [← textArray_eq]
    rfl
  · intro qs
    rw [← Text.words_eq_iff, eq_comm, map_toList_eq_iff]
  · intro p hp
    obtain ⟨w, hw, rfl⟩ := List.mem_map.1 hp
    obtain ⟨hne, hrun⟩ := hspaced.of_mem hw
    rw [String.toList_ofList]
    exact ⟨mt String.ofList_eq_empty_iff.1 hne, hrun⟩
  · apply String.toList_injective
    rw [String.toList_join, String.toList_ofList, ← hspaced.flatten_eq, List.flatMap_def,
      map_toList_eq_iff.2 rfl]

/-- Splitting a text loses nothing. Between its pieces at a separator are the separators, of which
none is left in a piece, and there is more than one piece if the text contains one. The pieces at
the empty text are the characters. Without a separator the pieces are the words, which have all
characters but white space. -/
theorem split_loses_nothing :
    (∀ d rest named, d ≠ "" → ∃ pieces : List String,
      invoke (.string s) "split" (.string d :: rest) named =
        .ok (.array (pieces.map .string)) ∧
      (∀ qs : List String,
        Text.Divided d.toList s.toList (qs.map String.toList) ↔ qs = pieces) ∧
      d.intercalate pieces = s ∧
      (∀ p ∈ pieces, ¬ d.toList <:+: p.toList) ∧
      ∀ more others, invoke (.string s) "contains" (.string d :: more) others =
        .ok (.boolean (decide (1 < pieces.length)))) ∧
    (∀ rest named, ∃ pieces : List String,
      invoke (.string s) "split" (.string "" :: rest) named =
        .ok (.array (pieces.map .string)) ∧
      pieces = s.toList.map String.singleton ∧
      ∀ args others, Counts pieces.length (invoke (.string s) "len" args others)) ∧
    ∀ named, ∃ pieces : List String,
      invoke (.string s) "split" [] named = .ok (.array (pieces.map .string)) ∧
      (∀ qs : List String, Text.Spaced s.toList (qs.map String.toList) ↔ qs = pieces) ∧
      (∀ p ∈ pieces, p ≠ "" ∧ ∀ c ∈ p.toList, isBlank c = false) ∧
      String.join pieces = String.ofList (s.toList.filter (!isBlank ·)) :=
  ⟨fun _ rest named hd => split_separator s hd rest named, split_characters s, split_words s⟩

end Pieces

/-- Separators that overlap: the leftmost one counts. -/
theorem split_loses_nothing_overlap :
    "aa" ≠ "" ∧ ∃ pieces : List String,
      invoke (.string "aaa") "split" [.string "aa"] ∅ = .ok (.array (pieces.map .string)) ∧
      pieces = ["", "a"] ∧ "aa".intercalate pieces = "aaa" := by
  have hd : "aa" ≠ "" := by decide
  obtain ⟨pieces, hsplit, hdivided, hjoined, -⟩ := (split_loses_nothing "aaa").1 "aa" [] ∅ hd
  have hpieces : Text.Divided "aa".toList "aaa".toList (["", "a"].map String.toList) := by
    show Text.Divided ['a', 'a'] ['a', 'a', 'a'] [[], ['a']]
    rw [← Text.splitOn_eq_iff]
    simp [Text.splitOn, Text.consFirst]
  obtain rfl := (hdivided _).1 hpieces
  exact ⟨hd, _, hsplit, rfl, hjoined⟩

end Builtin

end Deferred
