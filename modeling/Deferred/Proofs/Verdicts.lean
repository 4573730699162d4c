import Deferred.Check.Report

/-!
# One verdict on each record

Filters, counting and judging all walk through the records of a view and ask for a verdict on each.
What they find is either a split of the records by their verdicts (`Splits`) or the fault of the
first record that has none (`StopsAt`), and it is one of the two (`splits_or_stopsAt`). Each walk is
compared with these two relations once, by induction on them.

Main statement (`View.consumers_agree`): so whatever is done with a spec on a view, it is about the
same split or ends in the same fault.
-/

namespace Deferred

variable {accept : Value → Except Fault Bool}

/-- Every record has a verdict, and `kept` are those with a good one, `dropped` those with a bad
one, each in their order. -/
inductive Splits (accept : Value → Except Fault Bool) :
    List Value → List Value → List Value → Prop where
  | nil : Splits accept [] [] []
  | keep {v : Value} {vs kept dropped : List Value} (hv : accept v = .ok true)
    (h : Splits accept vs kept dropped) : Splits accept (v :: vs) (v :: kept) dropped
  | drop {v : Value} {vs kept dropped : List Value} (hv : accept v = .ok false)
    (h : Splits accept vs kept dropped) : Splits accept (v :: vs) kept (v :: dropped)

/-- Not every record has a verdict, and the first without one has the fault `f`. -/
inductive StopsAt (accept : Value → Except Fault Bool) (f : Fault) : List Value → Prop where
  | here {v : Value} {vs : List Value} (hv : accept v = .error f) : StopsAt accept f (v :: vs)
  | later {v : Value} {vs : List Value} {b : Bool} (hv : accept v = .ok b)
    (h : StopsAt accept f vs) : StopsAt accept f (v :: vs)

/-- The record `v` at `index` does not match, and all before it do. -/
def FirstMiss (accept : Value → Except Fault Bool) (vs : List Value) (index : Nat) (v : Value) :
    Prop :=
  ∃ before after, vs = before ++ v :: after ∧ before.length = index ∧
    (∀ u ∈ before, accept u = .ok true) ∧ accept v = .ok false

theorem FirstMiss.cons {vs : List Value} {index : Nat} {u v : Value} (hu : accept u = .ok true)
    (h : FirstMiss accept vs index v) : FirstMiss accept (u :: vs) (index + 1) v := by
  obtain ⟨before, after, rfl, rfl, hbefore, hv⟩ := h
  exact ⟨u :: before, after, rfl, rfl, List.forall_mem_cons.2 ⟨hu, hbefore⟩, hv⟩

theorem splits_or_stopsAt (accept : Value → Except Fault Bool) (vs : List Value) :
    (∃ kept dropped, Splits accept vs kept dropped) ∨ ∃ f, StopsAt accept f vs := by
  induction vs with
  | nil => exact .inl ⟨[], [], .nil⟩
  | cons v vs ih =>
    cases hv : accept v with
    | error f => exact .inr ⟨f, .here hv⟩
    | ok b =>
      rcases ih with ⟨kept, dropped, h⟩ | ⟨f, h⟩
      · cases b with
        | true => exact .inl ⟨v :: kept, dropped, .keep hv h⟩
        | false => exact .inl ⟨kept, v :: dropped, .drop hv h⟩
      · exact .inr ⟨f, .later hv h⟩

/-! ## Walks through records that all have a verdict -/

namespace Splits

variable {vs kept dropped : List Value}

theorem sublist_kept (h : Splits accept vs kept dropped) : kept.Sublist vs := by
  induction h with
  | nil => exact .slnil
  | keep _ _ ih => exact ih.cons_cons _
  | drop _ _ ih => exact ih.cons _

theorem sublist_dropped (h : Splits accept vs kept dropped) : dropped.Sublist vs := by
  induction h with
  | nil => exact .slnil
  | keep _ _ ih => exact ih.cons _
  | drop _ _ ih => exact ih.cons_cons _

theorem length_eq (h : Splits accept vs kept dropped) :
    vs.length = kept.length + dropped.length := by
  induction h with
  | nil => rfl
  | keep _ _ ih =>
    rw [List.length_cons, List.length_cons, ih]
    omega
  | drop _ _ ih =>
    rw [List.length_cons, List.length_cons, ih]
    omega

theorem filterItems_eq (h : Splits accept vs kept dropped) (keep : Bool) :
    View.filterItems accept keep vs = .ok (if keep then kept else dropped) := by
  induction h with
  | nil => cases keep <;> rfl
  | keep hv _ ih =>
    rw [View.filterItems, hv, ih]
    cases keep <;> rfl
  | drop hv _ ih =>
    rw [View.filterItems, hv, ih]
    cases keep <;> rfl

theorem count_eq (h : Splits accept vs kept dropped) (n : Nat) :
    (vs.foldlM (fun n v => do return if ← accept v then n + 1 else n) n : Except Fault Nat) =
      .ok (n + kept.length) := by
  -- The count so far is general, since each record adds to it before the others are met.
  induction h generalizing n with
  | nil => rfl
  | keep hv _ ih =>
    rw [List.foldlM_cons, hv]
    show List.foldlM _ (n + 1) _ = _
    rw [ih, List.length_cons, Nat.add_assoc, Nat.add_comm 1]
  | drop hv _ ih =>
    rw [List.foldlM_cons, hv]
    exact ih n

/-- A walk finds the records that match, and the first that does not if there is one. -/
theorem tally_found (h : Splits accept vs kept dropped) (start : Nat) :
    ∃ t, Tally.ofItems accept start vs = .ok t ∧ t.matching = kept ∧
      ((t.firstMiss = none ∧ dropped = []) ∨
        ∃ index v, t.firstMiss = some (start + index, v) ∧ FirstMiss accept vs index v) := by
  -- The index of the first record is general, since every record shifts it for the others.
  induction h generalizing start with
  | nil => exact ⟨⟨[], none⟩, rfl, rfl, .inl ⟨rfl, rfl⟩⟩
  | @keep v vs kept dropped hv _ ih =>
    obtain ⟨t, ht, hmatching, hmiss⟩ := ih (start + 1)
    refine ⟨{ t with matching := v :: t.matching }, ?_, congrArg (v :: ·) hmatching, ?_⟩
    · rw [Tally.ofItems, hv, ht]
      rfl
    rcases hmiss with hnone | ⟨index, w, hw, hfirst⟩
    · exact .inl hnone
    · refine .inr ⟨index + 1, w, ?_, hfirst.cons hv⟩
      rw [show start + (index + 1) = start + 1 + index by omega]
      exact hw
  | @drop v vs kept dropped hv _ ih =>
    obtain ⟨t, ht, hmatching, -⟩ := ih (start + 1)
    refine ⟨{ t with firstMiss := some (start, v) }, ?_, hmatching, ?_⟩
    · rw [Tally.ofItems, hv, ht]
      rfl
    · exact .inr ⟨0, v, rfl, [], vs, rfl, rfl, nofun, hv⟩

theorem tally_eq (h : Splits accept vs kept dropped) (index : Nat) :
    ∃ t, Tally.ofItems accept index vs = .ok t ∧ t.matching = kept := by
  obtain ⟨t, ht, hmatching, -⟩ := h.tally_found index
  exact ⟨t, ht, hmatching⟩

end Splits

/-! ## Walks that stop -/

namespace StopsAt

variable {f : Fault} {vs : List Value}

theorem filterItems_eq (h : StopsAt accept f vs) (keep : Bool) :
    View.filterItems accept keep vs = .error f := by
  induction h with
  | here hv =>
    rw [View.filterItems, hv]
    rfl
  | later hv _ ih =>
    rw [View.filterItems, hv, ih]
    rfl

theorem count_eq (h : StopsAt accept f vs) (n : Nat) :
    (vs.foldlM (fun n v => do return if ← accept v then n + 1 else n) n : Except Fault Nat) =
      .error f := by
  induction h generalizing n with
  | here hv =>
    rw [List.foldlM_cons, hv]
    rfl
  | later hv _ ih =>
    rw [List.foldlM_cons, hv]
    exact ih _

theorem tally_eq (h : StopsAt accept f vs) (index : Nat) :
    Tally.ofItems accept index vs = .error f := by
  induction h generalizing index with
  | here hv =>
    rw [Tally.ofItems, hv]
    rfl
  | later hv _ ih =>
    rw [Tally.ofItems, hv, ih]
    rfl

end StopsAt

/-! ## Views -/

namespace View

variable [Decimals] [Patterns]

/-- A passed judgement requires nothing more, and a failed one is passed on. -/
theorem require_of_evaluate {host : Host} {view : View} {spec : Spec} {outcome : Outcome}
    (h : view.evaluate host spec = .ok outcome) :
    (outcome.passed = true ∧ view.require host spec = .ok ()) ∨
      ∃ failure, outcome.failure = some failure ∧ outcome.passed = false ∧
        view.require host spec = .error (.assertion failure) := by
  obtain ⟨quantifier, matched, total, failure⟩ := outcome
  cases failure with
  | none => exact .inl ⟨rfl, by rw [require, h]⟩
  | some failure => exact .inr ⟨failure, rfl, rfl, by rw [require, h]⟩

/-- The judgement of records that all have a verdict. -/
theorem evaluate_of_splits {host : Host} {view : View} {spec : Spec} {kept dropped : List Value}
    (h : Splits (spec.accepts host view.options) view.items kept dropped) :
    ∃ outcome, view.evaluate host spec = .ok outcome ∧ outcome.matched = kept.length ∧
      outcome.total = view.count ∧
      outcome.passed = view.quantifier.judge kept.length view.count := by
  obtain ⟨tally, htally, rfl⟩ := h.tally_eq 0
  rw [evaluate, htally]
  refine ⟨_, rfl, rfl, rfl, ?_⟩
  show Option.isNone (if _ then _ else _) = _
  split
  · next hjudge => exact hjudge.symm
  · next hjudge => exact (Bool.eq_false_iff.2 hjudge).symm

/-- Whatever is done with a spec on a view, it ends in one and the same fault, that of the first
record without a verdict, or it is about one and the same split of the records by their verdicts. -/
theorem consumers_agree (host : Host) (view : View) (spec : Spec) :
    (∃ f, StopsAt (spec.accepts host view.options) f view.items ∧
      view.keepIf host spec = .error f ∧ view.dropIf host spec = .error f ∧
      view.countMatching host spec = .error f ∧ view.evaluate host spec = .error f ∧
      view.require host spec = .error (.eval f)) ∨
    ∃ kept dropped outcome,
      Splits (spec.accepts host view.options) view.items kept.items dropped.items ∧
      view.keepIf host spec = .ok kept ∧ view.dropIf host spec = .ok dropped ∧
      kept.items.Sublist view.items ∧ dropped.items.Sublist view.items ∧
      view.evaluate host spec = .ok outcome ∧
      view.countMatching host spec = .ok outcome.matched ∧ outcome.matched = kept.count ∧
      outcome.total = view.count ∧ view.count = kept.count + dropped.count ∧
      outcome.passed = view.quantifier.judge outcome.matched outcome.total ∧
      ((outcome.passed = true ∧ view.require host spec = .ok ()) ∨
        ∃ failure, outcome.failure = some failure ∧ outcome.passed = false ∧
          view.require host spec = .error (.assertion failure)) := by
  rcases splits_or_stopsAt (spec.accepts host view.options) view.items with
    ⟨kept, dropped, h⟩ | ⟨f, h⟩
  · right
    obtain ⟨outcome, houtcome, hmatched, htotal, hpassed⟩ := evaluate_of_splits h
    refine ⟨{ view with items := kept }, { view with items := dropped }, outcome, h, ?_, ?_,
      h.sublist_kept, h.sublist_dropped, houtcome, ?_, hmatched, htotal, h.length_eq, ?_,
      require_of_evaluate houtcome⟩
    · rw [keepIf, filter, h.filterItems_eq]
      rfl
    · rw [dropIf, filter, h.filterItems_eq]
      rfl
    · rw [countMatching, h.count_eq, hmatched, Nat.zero_add]
    · rw [hpassed, hmatched, htotal]
  · left
    have hevaluate : view.evaluate host spec = .error f := by
      rw [evaluate, h.tally_eq]
      rfl
    refine ⟨f, h, ?_, ?_, ?_, hevaluate, ?_⟩
    · rw [keepIf, filter, h.filterItems_eq]
      rfl
    · rw [dropIf, filter, h.filterItems_eq]
      rfl
    · rw [countMatching, h.count_eq]
    · rw [require, hevaluate]

end View

end Deferred
