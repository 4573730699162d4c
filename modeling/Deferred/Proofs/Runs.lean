import Deferred.Check.Step
import Deferred.Proofs.Filters

/-!
# Views after many steps

A step that filters or selects leaves out records and changes nothing else, and every other step
sets the quantifier or the options and changes nothing else (`View.stepOrStay_cases`); a step that
fails is a filter and changes nothing at all. By induction on the steps, records are only ever left
out, and the last of what was set is in force.

Main statement (`View.run_parts`): after any steps a view has some of its first records, in their
order, with the quantifier and the options that were set last.
-/

namespace Deferred

namespace View

namespace Step

/-- Whether a step filters or selects records. -/
def selects : Step → Bool
  | .keepIf _ | .dropIf _ | .first | .last | .atIndex _ | .cap _ => true
  | .quantify _ | .withOptions _ => false

/-- The quantifier that a step sets. -/
def quantifier? : Step → Option Quantifier
  | .quantify q => some q
  | _ => none

/-- The options that a step sets. -/
def options? : Step → Option CheckOptions
  | .withOptions options => some options
  | _ => none

theorem quantifier?_of_selects {s : Step} (h : s.selects = true) : s.quantifier? = none := by
  cases s with
  | quantify q => cases h
  | _ => rfl

theorem options?_of_selects {s : Step} (h : s.selects = true) : s.options? = none := by
  cases s with
  | withOptions options => cases h
  | _ => rfl

end Step

/-! ## One step -/

section OneStep

variable {host : Host} {view next : View} {s : Step}

theorem toList_sublist {α : Type} {o : Option α} {items : List α} (h : ∀ a ∈ o, a ∈ items) :
    o.toList.Sublist items := by
  cases o with
  | none => exact List.nil_sublist items
  | some a => exact List.singleton_sublist.2 (h a rfl)

variable [Decimals] [Patterns]

/-- A filter that succeeds leaves out records. -/
theorem filter_leaves {spec : Spec} {keep : Bool} (h : view.filter host spec keep = .ok next) :
    ∃ items, items.Sublist view.items ∧ next = { view with items := items } := by
  rcases splits_or_stopsAt (spec.accepts host view.options) view.items with
    ⟨kept, dropped, hsplits⟩ | ⟨f, hstops⟩
  · rw [filter, hsplits.filterItems_eq] at h
    cases h
    cases keep with
    | true => exact ⟨kept, hsplits.sublist_kept, rfl⟩
    | false => exact ⟨dropped, hsplits.sublist_dropped, rfl⟩
  · rw [filter, hstops.filterItems_eq] at h
    cases h

/-- A step that succeeds leaves out records, or it sets the quantifier or the options. -/
theorem step_cases (h : view.step host s = .ok next) :
    (s.selects = true ∧ ∃ items, items.Sublist view.items ∧ next = { view with items := items }) ∨
      (∃ q, s = .quantify q ∧ next = view.quantify q) ∨
      ∃ options, s = .withOptions options ∧ next = view.withOptions options := by
  cases s with
  | keepIf spec => exact .inl ⟨rfl, filter_leaves h⟩
  | dropIf spec => exact .inl ⟨rfl, filter_leaves h⟩
  | first =>
    cases h
    exact .inl ⟨rfl, _, toList_sublist fun a ha => List.mem_of_head? ha, rfl⟩
  | last =>
    cases h
    exact .inl ⟨rfl, _, toList_sublist fun a ha => List.mem_of_getLast? ha, rfl⟩
  | atIndex index =>
    cases h
    exact .inl ⟨rfl, _, toList_sublist fun a ha => Value.mem_of_atIndex? ha, rfl⟩
  | cap n =>
    cases h
    exact .inl ⟨rfl, _, List.take_sublist n view.items, rfl⟩
  | quantify q =>
    cases h
    exact .inr (.inl ⟨q, rfl, rfl⟩)
  | withOptions options =>
    cases h
    exact .inr (.inr ⟨options, rfl, rfl⟩)

/-- Only a filter fails. -/
theorem filters_of_step_error {f : Fault} (h : view.step host s = .error f) :
    ∃ spec, s = .keepIf spec ∨ s = .dropIf spec := by
  cases s with
  | keepIf spec => exact ⟨spec, .inl rfl⟩
  | dropIf spec => exact ⟨spec, .inr rfl⟩
  | _ => cases h

variable (host view s)

/-- A step that may fail leaves out records, or it sets the quantifier or the options. -/
theorem stepOrStay_cases :
    (s.selects = true ∧
        ∃ items, items.Sublist view.items ∧
          view.stepOrStay host s = { view with items := items }) ∨
      (∃ q, s = .quantify q ∧ view.stepOrStay host s = view.quantify q) ∨
      ∃ options, s = .withOptions options ∧ view.stepOrStay host s = view.withOptions options := by
  unfold stepOrStay
  cases h : view.step host s with
  | ok next => exact step_cases h
  | error f =>
    -- A filter that fails leaves out nothing.
    obtain ⟨spec, rfl | rfl⟩ := filters_of_step_error h
    · exact .inl ⟨rfl, view.items, .refl _, rfl⟩
    · exact .inl ⟨rfl, view.items, .refl _, rfl⟩

/-- What becomes of each part of a view by a step. -/
structure Step.Changes (s : Step) (view next : View) : Prop where
  items_sublist : next.items.Sublist view.items
  quantifier : next.quantifier = s.quantifier?.getD view.quantifier
  options : next.options = s.options?.getD view.options
  items : s.selects = false → next.items = view.items

theorem changes_stepOrStay : s.Changes view (view.stepOrStay host s) := by
  rcases stepOrStay_cases host view s with ⟨hs, items, hitems, h⟩ | ⟨q, rfl, h⟩ | ⟨options, rfl, h⟩
  · rw [h]
    exact {
      items_sublist := hitems
      quantifier := by rw [Step.quantifier?_of_selects hs]; rfl
      options := by rw [Step.options?_of_selects hs]; rfl
      items := fun hsets => by rw [hs] at hsets; cases hsets }
  · rw [h]
    exact ⟨.refl _, rfl, rfl, fun _ => rfl⟩
  · rw [h]
    exact ⟨.refl _, rfl, rfl, fun _ => rfl⟩

end OneStep

/-! ## Many steps -/

section ManySteps

theorem getLastD_filterMap_cons {α β : Type} (f : α → Option β) (a : α) (as : List α) (b : β) :
    ((a :: as).filterMap f).getLastD b = (as.filterMap f).getLastD ((f a).getD b) := by
  cases h : f a with
  | none => rw [List.filterMap_cons_none h, Option.getD_none]
  | some c => rw [List.filterMap_cons_some h, List.getLastD_cons, Option.getD_some]

/-- What only other steps set is set by none of these. -/
theorem filterMap_of_selects {α : Type} {f : Step → Option α} {ss : List Step}
    (hf : ∀ {s : Step}, s.selects = true → f s = none) (h : ∀ s ∈ ss, s.selects = true) :
    ss.filterMap f = [] := by
  rw [List.filterMap_eq_nil_iff]
  intro s hs
  exact hf (h s hs)

variable [Decimals] [Patterns] (host : Host) (view : View) (ss : List Step)

theorem items_run_sublist : (view.run host ss).items.Sublist view.items := by
  -- The view is general, since the other steps start from the one that the first leads to.
  induction ss generalizing view with
  | nil => exact .refl _
  | cons s ss ih => exact (ih _).trans (changes_stepOrStay host view s).items_sublist

theorem quantifier_run :
    (view.run host ss).quantifier = (ss.filterMap Step.quantifier?).getLastD view.quantifier := by
  induction ss generalizing view with
  | nil => rfl
  | cons s ss ih =>
    rw [getLastD_filterMap_cons, ← (changes_stepOrStay host view s).quantifier]
    exact ih _

theorem options_run :
    (view.run host ss).options = (ss.filterMap Step.options?).getLastD view.options := by
  induction ss generalizing view with
  | nil => rfl
  | cons s ss ih =>
    rw [getLastD_filterMap_cons, ← (changes_stepOrStay host view s).options]
    exact ih _

variable {ss}

theorem items_run (h : ∀ s ∈ ss, s.selects = false) : (view.run host ss).items = view.items := by
  induction ss generalizing view with
  | nil => rfl
  | cons s ss ih =>
    obtain ⟨hs, hss⟩ := List.forall_mem_cons.1 h
    exact (ih _ hss).trans ((changes_stepOrStay host view s).items hs)

theorem quantifier_run_of_selects (h : ∀ s ∈ ss, s.selects = true) :
    (view.run host ss).quantifier = view.quantifier := by
  rw [quantifier_run, filterMap_of_selects Step.quantifier?_of_selects h, List.getLastD_nil]

theorem options_run_of_selects (h : ∀ s ∈ ss, s.selects = true) :
    (view.run host ss).options = view.options := by
  rw [options_run, filterMap_of_selects Step.options?_of_selects h, List.getLastD_nil]

/-- After any steps, those that fail left out, a view has some of its first records in their order,
the quantifier that was set last and the options that were set last. From whatever view they start,
filters and selectors leave the quantifier and the options alone, and the other steps the
records. -/
theorem run_parts (host : Host) (records : List Value) (ss : List Step) :
    ((ofRecords records).run host ss).items.Sublist records ∧
      ((ofRecords records).run host ss).quantifier =
        (ss.filterMap Step.quantifier?).getLastD .all ∧
      ((ofRecords records).run host ss).options = (ss.filterMap Step.options?).getLastD {} ∧
      ∀ (view : View) (ts : List Step),
        ((∀ t ∈ ts, t.selects = true) →
          (view.run host ts).quantifier = view.quantifier ∧
            (view.run host ts).options = view.options) ∧
        ((∀ t ∈ ts, t.selects = false) → (view.run host ts).items = view.items) := by
  refine ⟨items_run_sublist host _ ss, quantifier_run host _ ss, options_run host _ ss, ?_⟩
  intro view ts
  constructor
  · intro hselects
    exact ⟨quantifier_run_of_selects host view hselects, options_run_of_selects host view hselects⟩
  · intro hsets
    exact items_run host view hsets

end ManySteps

/-- Steps that set the quantifier twice and the options never. The filter by `notOne` fails on the
note, so the last record that is no five is kept. -/
def detour : List Step :=
  [.quantify .none, .keepIf notOne, .dropIf fives, .quantify .one, .last]

/-- After `detour` one record has to match, with the default options. -/
theorem run_parts_readings :
    ((ofRecords readings.items).run Host.stock detour).items.Sublist readings.items ∧
    ((ofRecords readings.items).run Host.stock detour).quantifier = .one ∧
    ((ofRecords readings.items).run Host.stock detour).options = {} ∧
    ((readings.quantify .any).run Host.stock [.keepIf sizes, .atIndex (-1)]).quantifier = .any ∧
    (readings.run Host.stock [.quantify .any, .withOptions { marker := '?' }]).items =
      readings.items := by
  obtain ⟨hitems, hquantifier, hoptions, hparts⟩ := run_parts Host.stock readings.items detour
  have hselects := (hparts (readings.quantify .any) [.keepIf sizes, .atIndex (-1)]).1 (by decide)
  have hsets := (hparts readings [.quantify .any, .withOptions { marker := '?' }]).2 (by decide)
  exact ⟨hitems, hquantifier, hoptions, hselects.1, hsets⟩

end View

end Deferred
