import Deferred.Probe

/-!
# Paths in a row

Following a path is a run over its segments with two probes, the container and the member. A run
over the segments of two paths is two runs in a row (`Probe.follow_append`), and since a path has at
least one segment, the second run does not depend on the container in which it starts
(`Probe.follow_of_ne_nil`).

Main statement (`Probe.locate_in_row`): two paths with a separator between them lead where the
second one leads from the end of the first, with the same container, and nothing lies behind
absence.
-/

namespace Deferred

namespace Probe

/-! ## Runs over segments -/

theorem follow_append (parent current : Probe) (ss ts : List (List Char)) :
    follow parent current (ss ++ ts) =
      follow (follow parent current ss).1 (follow parent current ss).2 ts := by
  -- Both probes are general, since every segment moves them.
  induction ss generalizing parent current with
  | nil => rfl
  | cons s ss ih => exact ih current (current.segment s)

/-- The first segment leaves the container behind. -/
theorem follow_of_ne_nil {ss : List (List Char)} (h : ss ≠ []) (parent other current : Probe) :
    follow parent current ss = follow other current ss := by
  cases ss with
  | nil => exact absurd rfl h
  | cons s ss => rfl

theorem segment_unset (s : List Char) : unset.segment s = unset := rfl

theorem follow_unset (parent : Probe) (ss : List (List Char)) :
    (follow parent unset ss).2 = unset := by
  induction ss generalizing parent with
  | nil => rfl
  | cons s ss ih =>
    rw [follow, segment_unset]
    exact ih unset

/-! ## Paths -/

variable (here : Probe) (sep : Char) (p q : String)

theorem segments_in_row :
    Text.segments sep (p ++ String.singleton sep ++ q).toList =
      Text.segments sep p.toList ++ Text.segments sep q.toList := by
  rw [String.toList_append, String.toList_append, String.toList_singleton, List.append_assoc]
  exact Text.segments_append sep p.toList q.toList

theorem locate_append :
    here.locate (p ++ String.singleton sep ++ q) sep = (here.path p sep).locate q sep := by
  rw [locate, segments_in_row, follow_append]
  exact follow_of_ne_nil (Text.segments_ne_nil sep q.toList) _ _ _

variable {sep p} in
/-- A path of one segment leads to a member of the probe itself. -/
theorem locate_of_not_mem (h : sep ∉ p.toList) :
    here.locate p sep = (here, here.segment p.toList) := by
  rw [locate, Text.segments_of_not_mem h]
  rfl

theorem path_unset : unset.path q sep = unset := follow_unset unset (Text.segments sep q.toList)

/-- Two paths with a separator between them lead to the member, and to its container, that the
second path has from the end of the first. So a last segment is looked up in what the path before it
leads to, and a path of one segment in the probe itself; and what lies behind an absent member is
absent. -/
theorem locate_in_row :
    here.path (p ++ String.singleton sep ++ q) sep = (here.path p sep).path q sep ∧
    here.locate (p ++ String.singleton sep ++ q) sep = (here.path p sep).locate q sep ∧
    (sep ∉ q.toList →
      (here.locate (p ++ String.singleton sep ++ q) sep).1 = here.path p sep) ∧
    (sep ∉ p.toList → (here.locate p sep).1 = here) ∧
    (here.path p sep = unset → here.path (p ++ String.singleton sep ++ q) sep = unset) := by
  have hpath : here.path (p ++ String.singleton sep ++ q) sep = (here.path p sep).path q sep :=
    congrArg Prod.snd (locate_append here sep p q)
  refine ⟨hpath, locate_append here sep p q, ?_, ?_, ?_⟩
  · intro hq
    rw [locate_append, locate_of_not_mem _ hq]
  · intro hp
    rw [locate_of_not_mem here hp]
  · intro hunset
    rw [hpath, hunset, path_unset]

/-- An array under the empty key. -/
def drawer : Probe :=
  ⟨.object (Dict.ofList [("a", .object (Dict.ofList [("", .array [.integer 5, .null])]))])⟩

/-- The path `a.` has an empty segment at its end, and `b.` one that is looked up in absence. -/
theorem locate_drawer_in_row :
    '.' ∉ "-1".toList ∧
    (drawer.locate ("a." ++ String.singleton '.' ++ "-1") '.').1 = drawer.path "a." '.' ∧
    drawer.locate ("a." ++ String.singleton '.' ++ "-1") '.' =
      (⟨.array [.integer 5, .null]⟩, ⟨.null⟩) ∧
    '.' ∉ "a".toList ∧ (drawer.locate "a" '.').1 = drawer ∧
    drawer.path "b." '.' = unset ∧
    drawer.path ("b." ++ String.singleton '.' ++ "0.0") '.' = unset := by
  have hlast : '.' ∉ "-1".toList := by decide
  have hsingle : '.' ∉ "a".toList := by decide
  have habsent : drawer.path "b." '.' = unset := rfl
  refine ⟨hlast, (locate_in_row drawer '.' "a." "-1").2.2.1 hlast, rfl, hsingle,
    (locate_in_row drawer '.' "a" "").2.2.2.1 hsingle, habsent,
    (locate_in_row drawer '.' "b." "0.0").2.2.2.2 habsent⟩

end Probe

end Deferred
