import Deferred.Proofs.Filters
import Mathlib.Logic.ExistsUnique

/-!
# Laws of quantifiers

A required check passes or misses by two numbers, of the records that a spec splits off and of the
others (`View.passes_or_misses`). The same records are what filters keep and drop, so what a
quantifier says of a view can be read off the filters, and verdicts under different quantifiers are
compared by arithmetic.

Main statement (`View.quantifiers_lawful`): the laws hold of every view all of whose records have a
verdict.
-/

namespace Deferred

/-! ## Splits of splits -/

namespace Splits

variable {accept : Value → Except Fault Bool} {vs ws kept dropped : List Value}

/-- All that was kept is kept again. -/
theorem kept_again (h : Splits accept vs kept dropped) : Splits accept kept kept [] := by
  induction h with
  | nil => exact .nil
  | keep hv _ ih => exact .keep hv ih
  | drop _ _ ih => exact ih

/-- All that was dropped is dropped again. -/
theorem dropped_again (h : Splits accept vs kept dropped) : Splits accept dropped [] dropped := by
  induction h with
  | nil => exact .nil
  | keep _ _ ih => exact ih
  | drop hv _ ih => exact .drop hv ih

/-- In another order, the same records are kept and the same are dropped. -/
theorem of_perm (hperm : vs.Perm ws) (h : Splits accept vs kept dropped) :
    ∃ ks ds, Splits accept ws ks ds ∧ ks.Perm kept ∧ ds.Perm dropped := by
  induction hperm generalizing kept dropped with
  | nil => exact ⟨kept, dropped, h, .refl _, .refl _⟩
  | cons v _ ih =>
    cases h with
    | keep hv h =>
      obtain ⟨ks, ds, hsplits, hks, hds⟩ := ih h
      exact ⟨v :: ks, ds, .keep hv hsplits, hks.cons v, hds⟩
    | drop hv h =>
      obtain ⟨ks, ds, hsplits, hks, hds⟩ := ih h
      exact ⟨ks, v :: ds, .drop hv hsplits, hks, hds.cons v⟩
  | swap v w vs =>
    cases h with
    | keep hw h =>
      cases h with
      | keep hv h => exact ⟨_, _, .keep hv (.keep hw h), .swap _ _ _, .refl _⟩
      | drop hv h => exact ⟨_, _, .drop hv (.keep hw h), .refl _, .refl _⟩
    | drop hw h =>
      cases h with
      | keep hv h => exact ⟨_, _, .keep hv (.drop hw h), .refl _, .refl _⟩
      | drop hv h => exact ⟨_, _, .drop hv (.drop hw h), .refl _, .swap _ _ _⟩
  | trans _ _ ih ih' =>
    obtain ⟨ks, ds, hsplits, hks, hds⟩ := ih h
    obtain ⟨ks', ds', hsplits', hks', hds'⟩ := ih' hsplits
    exact ⟨ks', ds', hsplits', hks'.trans hks, hds'.trans hds⟩

end Splits

namespace View

/-! ## Two numbers -/

section Verdicts

variable [Decimals] [Patterns]

/-- The view passes with the quantifier `q`. -/
def Passes (host : Host) (view : View) (q : Quantifier) (spec : Spec) : Prop :=
  (view.quantify q).require host spec = .ok ()

/-- The view does not pass with the quantifier `q`, for the number of records that match and not for
a fault. -/
def Misses (host : Host) (view : View) (q : Quantifier) (spec : Spec) : Prop :=
  ∃ failure, (view.quantify q).require host spec = .error (.assertion failure)

section Numbers

variable {host : Host} (view : View) {spec : Spec} {kept dropped : List Value} {q : Quantifier}

/-- A required check passes or misses as the quantifier judges the two numbers. -/
theorem passes_or_misses (h : Splits (spec.accepts host view.options) view.items kept dropped) :
    (q.judge kept.length (kept.length + dropped.length) = true ∧ view.Passes host q spec) ∨
      (q.judge kept.length (kept.length + dropped.length) = false ∧ view.Misses host q spec) := by
  obtain ⟨outcome, houtcome, -, -, hpassed⟩ :=
    evaluate_of_splits (show Splits (spec.accepts host (view.quantify q).options) _ _ _ from h)
  have hjudge : outcome.passed = q.judge kept.length (kept.length + dropped.length) := by
    rw [← h.length_eq]
    exact hpassed
  rcases require_of_evaluate houtcome with ⟨hpasses, hrequire⟩ | ⟨failure, -, hmisses, hrequire⟩
  · exact .inl ⟨hjudge ▸ hpasses, hrequire⟩
  · exact .inr ⟨hjudge ▸ hmisses, failure, hrequire⟩

variable {view} in
theorem not_passes_of_misses (h : view.Misses host q spec) : ¬ view.Passes host q spec := by
  obtain ⟨failure, hfailure⟩ := h
  intro hpasses
  rw [Passes, hfailure] at hpasses
  cases hpasses

theorem passes_iff_judge (h : Splits (spec.accepts host view.options) view.items kept dropped) :
    view.Passes host q spec ↔ q.judge kept.length (kept.length + dropped.length) = true := by
  rcases passes_or_misses view h with ⟨hjudge, hpasses⟩ | ⟨hjudge, hmisses⟩
  · exact iff_of_true hpasses hjudge
  · exact iff_of_false (not_passes_of_misses hmisses) (Bool.eq_false_iff.1 hjudge)

/-- Where all records have a verdict, a view that does not pass misses. -/
theorem misses_iff_not_passes
    (h : Splits (spec.accepts host view.options) view.items kept dropped) :
    view.Misses host q spec ↔ ¬ view.Passes host q spec := by
  refine ⟨not_passes_of_misses, fun hfails => ?_⟩
  rcases passes_or_misses view h with ⟨-, hpasses⟩ | ⟨-, hmisses⟩
  · exact absurd hpasses hfails
  · exact hmisses

end Numbers

/-! ## Laws -/

/-- What is asked of the verdicts on a view under all quantifiers, and of the views of the records
that filters keep and drop. -/
structure LawfulVerdicts (host : Host) (spec : Spec) (view kept dropped : View) : Prop where
  misses_iff : ∀ q, view.Misses host q spec ↔ ¬ view.Passes host q spec
  all_iff : view.Passes host .all spec ↔ dropped.items = []
  any_iff : view.Passes host .any spec ↔ kept.items ≠ []
  any_iff_misses_none : view.Passes host .any spec ↔ view.Misses host .none spec
  exactly_iff : ∀ n, view.Passes host (.exactly n) spec ↔ kept.count = n
  exactly_zero_iff : view.Passes host (.exactly 0) spec ↔ view.Passes host .none spec
  exactly_one_iff : view.Passes host (.exactly 1) spec ↔ view.Passes host .one spec
  exactly_unique : ∃! n, view.Passes host (.exactly n) spec
  any_of_all : view.items ≠ [] → view.Passes host .all spec → view.Passes host .any spec
  all_kept : kept.Passes host .all spec
  none_dropped : dropped.Passes host .none spec
  eq_nil_of_all_of_none :
    view.Passes host .all spec → view.Passes host .none spec → view.items = []
  /-- The order of the records does not matter. -/
  reordered : ∀ items : List Value, items.Perm view.items → ∀ q,
    (Passes host { view with items := items } q spec ↔ view.Passes host q spec) ∧
      (Misses host { view with items := items } q spec ↔ view.Misses host q spec)

section Laws

variable {host : Host} (view : View) {spec : Spec} {kept dropped : List Value}
  (h : Splits (spec.accepts host view.options) view.items kept dropped)

include h

theorem passes_all_iff : view.Passes host .all spec ↔ dropped = [] := by
  rw [passes_iff_judge view h, Quantifier.judge, beq_iff_eq, ← List.length_eq_zero_iff]
  omega

theorem passes_any_iff : view.Passes host .any spec ↔ kept ≠ [] := by
  rw [passes_iff_judge view h, Quantifier.judge, decide_eq_true_iff, List.length_pos_iff]

theorem passes_none_iff : view.Passes host .none spec ↔ kept = [] := by
  rw [passes_iff_judge view h, Quantifier.judge, beq_iff_eq, List.length_eq_zero_iff]

theorem passes_exactly_iff (n : Nat) : view.Passes host (.exactly n) spec ↔ kept.length = n := by
  rw [passes_iff_judge view h, Quantifier.judge, beq_iff_eq]

theorem passes_one_iff : view.Passes host .one spec ↔ kept.length = 1 := by
  rw [passes_iff_judge view h, Quantifier.judge, beq_iff_eq]

theorem passes_reordered {items : List Value} (hperm : items.Perm view.items) (q : Quantifier) :
    (Passes host { view with items := items } q spec ↔ view.Passes host q spec) ∧
      (Misses host { view with items := items } q spec ↔ view.Misses host q spec) := by
  obtain ⟨ks, ds, hsplits, hks, hds⟩ := h.of_perm hperm.symm
  have hpasses : Passes host { view with items := items } q spec ↔ view.Passes host q spec := by
    rw [passes_iff_judge { view with items := items } hsplits, passes_iff_judge view h,
      hks.length_eq, hds.length_eq]
  refine ⟨hpasses, ?_⟩
  rw [misses_iff_not_passes { view with items := items } hsplits, hpasses,
    misses_iff_not_passes view h]

theorem lawfulVerdicts_of_splits :
    LawfulVerdicts host spec view { view with items := kept } { view with items := dropped } where
  misses_iff := fun _ => misses_iff_not_passes view h
  all_iff := passes_all_iff view h
  any_iff := passes_any_iff view h
  any_iff_misses_none := by
    rw [misses_iff_not_passes view h, passes_any_iff view h, passes_none_iff view h]
  exactly_iff := passes_exactly_iff view h
  exactly_zero_iff := by
    rw [passes_exactly_iff view h, passes_none_iff view h, List.length_eq_zero_iff]
  exactly_one_iff := by
    rw [passes_exactly_iff view h, passes_one_iff view h]
  exactly_unique := by
    refine ⟨kept.length, (passes_exactly_iff view h _).2 rfl, fun n hn => ?_⟩
    exact ((passes_exactly_iff view h n).1 hn).symm
  any_of_all := by
    intro hne hall
    rw [passes_any_iff view h, ← List.length_pos_iff]
    rw [passes_all_iff view h] at hall
    have hlength := h.length_eq
    rw [hall, List.length_nil, Nat.add_zero] at hlength
    exact hlength ▸ List.length_pos_iff.2 hne
  all_kept := (passes_all_iff { view with items := kept } h.kept_again).2 rfl
  none_dropped := (passes_none_iff { view with items := dropped } h.dropped_again).2 rfl
  eq_nil_of_all_of_none := by
    intro hall hnone
    rw [passes_all_iff view h] at hall
    rw [passes_none_iff view h] at hnone
    have hlength := h.length_eq
    rw [hall, hnone] at hlength
    exact List.length_eq_zero_iff.1 hlength
  reordered := fun _ hperm q => passes_reordered view h hperm q

end Laws

theorem dropIf_of_splits {host : Host} {view : View} {spec : Spec} {kept dropped : List Value}
    (h : Splits (spec.accepts host view.options) view.items kept dropped) :
    view.dropIf host spec = .ok { view with items := dropped } := by
  rw [dropIf, filter, h.filterItems_eq]
  rfl

/-- If all records of a view have a verdict of a spec, both filters succeed, and the verdicts on the
view and on the filtered views are lawful under all quantifiers. -/
theorem quantifiers_lawful {host : Host} {view : View} {spec : Spec}
    (hdecides : view.Decides host spec) :
    ∃ kept dropped, view.keepIf host spec = .ok kept ∧ view.dropIf host spec = .ok dropped ∧
      LawfulVerdicts host spec view kept dropped := by
  have h := Splits.of_verdicts fun v hv => eq_ok_verdict (hdecides v hv)
  exact ⟨_, _, keepIf_eq_ok_iff.2 ⟨_, _, h, rfl⟩, dropIf_of_splits h,
    lawfulVerdicts_of_splits view h⟩

end Verdicts

/-- Two of the three readings are sizes, which an exact count says in any order. -/
theorem quantifiers_lawful_readings :
    readings.Decides Host.stock sizes ∧
    ∃ kept dropped, readings.keepIf Host.stock sizes = .ok kept ∧
      readings.dropIf Host.stock sizes = .ok dropped ∧ kept.count = 2 ∧ dropped.count = 1 ∧
      LawfulVerdicts Host.stock sizes readings kept dropped ∧
      readings.Passes Host.stock (.exactly 2) sizes ∧ ¬ readings.Passes Host.stock .all sizes ∧
      Passes Host.stock { readings with items := readings.items.reverse } (.exactly 2) sizes := by
  have hdecides : readings.Decides Host.stock sizes :=
    List.forall_mem_cons.2 ⟨⟨true, rfl⟩,
      List.forall_mem_cons.2 ⟨⟨false, rfl⟩, List.forall_mem_singleton.2 ⟨true, rfl⟩⟩⟩
  obtain ⟨kept, dropped, hkeep, hdrop, hlaws⟩ := quantifiers_lawful hdecides
  cases hkeep
  cases hdrop
  have htwo := (hlaws.exactly_iff 2).2 rfl
  refine ⟨hdecides, _, _, rfl, rfl, rfl, rfl, hlaws, htwo, ?_, ?_⟩
  · rw [hlaws.all_iff]
    exact nofun
  · exact ((hlaws.reordered _ (List.reverse_perm _) _).1).2 htwo

end View

end Deferred
