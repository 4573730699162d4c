import Deferred.Proofs.Filters

/-!
# What a report says

A walk through records that all have a verdict finds those that match and the first that does not
(`Splits.tally_found`). A judgement is made of nothing else (`View.evaluate_of_tally`), and where
all records have to match and not all do, there is a first one that does not (`View.blame_all`).

Main statement (`View.reports_truthful`): a failure is reported exactly when the numbers are not
right; it blames the first record that does not match or lists the first that do, and nothing but
the length of that list depends on the limit of the options.
-/

namespace Deferred

/-! ## The limit of a report -/

/-- No verdict depends on how much a report shows. -/
theorem Spec.accepts_limit [Decimals] [Patterns] (host : Host) (options : CheckOptions)
    (limit : Nat) (v : Value) (s : Spec) :
    s.accepts host { options with limit := limit } v = s.accepts host options v := by
  induction s with
  | nil => rfl
  | cons f fs ih =>
    have hfield : f.accepts host { options with limit := limit } v = f.accepts host options v := rfl
    rw [accepts, accepts, hfield, ih]

theorem Tally.blame_fst (t : Tally) (q : Quantifier) (limit other total : Nat) :
    (t.blame q limit total).1 = (t.blame q other total).1 := by
  unfold blame
  split <;> rfl

namespace View

variable {host : Host} {view : View} {spec : Spec} {outcome : Outcome}

/-- What is reported of a view in which a walk has found `t`. -/
def report? (view : View) (spec : Spec) (t : Tally) : Option CheckFailure :=
  if view.quantifier.judge t.matching.length view.count then none
  else
    let blame := t.blame view.quantifier view.options.limit view.count
    some ⟨view.quantifier, spec.render, t.matching.length, view.count, blame.1, blame.2⟩

/-- A judgement is made of what the walk through the records has found. -/
theorem evaluate_of_tally [Decimals] [Patterns] {t : Tally}
    (ht : Tally.ofItems (spec.accepts host view.options) 0 view.items = .ok t) :
    view.evaluate host spec =
      .ok ⟨view.quantifier, t.matching.length, view.count, view.report? spec t⟩ := by
  rw [evaluate, ht]
  rfl

theorem isSome_report? (view : View) (spec : Spec) (t : Tally) :
    (view.report? spec t).isSome = !view.quantifier.judge t.matching.length view.count := by
  unfold report?
  cases view.quantifier.judge t.matching.length view.count <;> rfl

theorem report?_eq_some {t : Tally} {failure : CheckFailure}
    (h : view.report? spec t = some failure) :
    view.quantifier.judge t.matching.length view.count = false ∧
      failure = ⟨view.quantifier, spec.render, t.matching.length, view.count,
        (t.blame view.quantifier view.options.limit view.count).1,
        (t.blame view.quantifier view.options.limit view.count).2⟩ := by
  unfold report? at h
  split at h
  · cases h
  · next hjudge => exact ⟨Bool.eq_false_iff.2 hjudge, (Option.some.inj h).symm⟩

/-- The record to blame does not depend on the limit. -/
theorem offending_report?_limit (view : View) (spec : Spec) (t : Tally) (limit : Nat) :
    ((view.withOptions { view.options with limit := limit }).report? spec t).bind (·.offending) =
      (view.report? spec t).bind (·.offending) := by
  unfold report?
  show (if view.quantifier.judge t.matching.length view.count = true then none else _).bind _ = _
  split
  · rfl
  · exact t.blame_fst view.quantifier limit view.options.limit view.count

/-- Where a judgement is made, all records have a verdict. -/
theorem splits_of_evaluate [Decimals] [Patterns] (h : view.evaluate host spec = .ok outcome) :
    ∃ kept dropped, Splits (spec.accepts host view.options) view.items kept dropped := by
  rcases splits_or_stopsAt (spec.accepts host view.options) view.items with hsplits | ⟨f, hstops⟩
  · exact hsplits
  · rw [evaluate, hstops.tally_eq] at h
    cases h

/-- What a report has to say of a view of which the records `kept` match. -/
structure Truthful [Decimals] [Patterns] (host : Host) (view : View) (spec : Spec)
    (kept : List Value) (failure : CheckFailure) : Prop where
  quantifier_eq : failure.quantifier = view.quantifier
  spec_eq : failure.spec = spec.render
  matched_eq : failure.matched = kept.length
  total_eq : failure.total = view.count
  /-- Where all records have to match, the first that does not is blamed. -/
  first_miss : view.quantifier = .all → ∃ index v,
    FirstMiss (spec.accepts host view.options) view.items index v ∧ failure.offending = some v ∧
      failure.detail = "item " ++ toString index ++ " of " ++ toString view.count ++
        " did not match: " ++ v.render
  /-- Where another number of them has to match, the first ones are listed, up to the limit. -/
  listed : view.quantifier ≠ .all → failure.offending = none ∧ ∃ shown, shown <+: kept ∧
    shown.length = min view.options.limit kept.length ∧
      failure.detail = "expected " ++ view.quantifier.expectation view.count ++
        " matching, found " ++ toString kept.length ++ " of " ++ toString view.count ++
        (if min view.options.limit kept.length = 0 then ""
          else "; matching: [" ++ ", ".intercalate (shown.map Value.render) ++ "]")

/-- Where all records have to match and not all do, there is a first one to blame. -/
theorem blame_all [Decimals] [Patterns] {kept dropped : List Value} {t : Tally}
    (h : Splits (spec.accepts host view.options) view.items kept dropped)
    (ht : Tally.ofItems (spec.accepts host view.options) 0 view.items = .ok t)
    (hjudge : Quantifier.all.judge kept.length view.count = false) :
    ∃ index v, FirstMiss (spec.accepts host view.options) view.items index v ∧
      ∀ limit, t.blame .all limit view.count = (some v, "item " ++ toString index ++ " of " ++
        toString view.count ++ " did not match: " ++ v.render) := by
  obtain ⟨t', ht', -, hmiss⟩ := h.tally_found 0
  obtain rfl : t = t' := Except.ok.inj (ht.symm.trans ht')
  rcases hmiss with ⟨-, rfl⟩ | ⟨index, v, hv, hfirst⟩
  · -- Nothing was dropped, so the two numbers are the same.
    rw [count, h.length_eq] at hjudge
    simp [Quantifier.judge] at hjudge
  · refine ⟨index, v, hfirst, fun limit => ?_⟩
    simp only [Tally.blame, hv, Nat.zero_add]

theorem blame_other {t : Tally} {q : Quantifier} (hq : q ≠ .all) (limit total : Nat) :
    t.blame q limit total = (none, t.countDetail q limit total) := by
  unfold Tally.blame
  split
  · exact absurd rfl hq
  · rfl

theorem countDetail_eq (t : Tally) (q : Quantifier) (limit total : Nat) :
    t.countDetail q limit total = "expected " ++ q.expectation total ++ " matching, found " ++
      toString t.matching.length ++ " of " ++ toString total ++
      (if min limit t.matching.length = 0 then ""
        else "; matching: [" ++ ", ".intercalate ((t.matching.take limit).map Value.render) ++
          "]") := by
  have hempty : ((t.matching.take limit).map Value.render).isEmpty = true ↔
      min limit t.matching.length = 0 := by
    rw [List.isEmpty_iff, List.map_eq_nil_iff, ← List.length_eq_zero_iff, List.length_take]
  unfold Tally.countDetail
  simp only [hempty]

/-- What is reported is true. -/
theorem truthful_of_report? [Decimals] [Patterns] {dropped : List Value} {t : Tally}
    {failure : CheckFailure}
    (h : Splits (spec.accepts host view.options) view.items t.matching dropped)
    (ht : Tally.ofItems (spec.accepts host view.options) 0 view.items = .ok t)
    (hreport : view.report? spec t = some failure) :
    Truthful host view spec t.matching failure := by
  obtain ⟨hjudge, rfl⟩ := report?_eq_some hreport
  refine ⟨rfl, rfl, rfl, rfl, ?_, ?_⟩
  · intro hq
    rw [hq] at hjudge
    obtain ⟨index, v, hfirst, hblame⟩ := blame_all h ht hjudge
    rw [hq, hblame]
    exact ⟨index, v, hfirst, rfl, rfl⟩
  · intro hq
    rw [blame_other hq, countDetail_eq]
    exact ⟨rfl, t.matching.take view.options.limit, List.take_prefix _ _, List.length_take, rfl⟩

/-- If a view is judged, a failure is reported exactly when the numbers are not right, and then it
tells the truth. With another limit the same is reported, but for the length of a list. -/
theorem reports_truthful [Decimals] [Patterns] (h : view.evaluate host spec = .ok outcome) :
    ∃ kept dropped, Splits (spec.accepts host view.options) view.items kept dropped ∧
      outcome.quantifier = view.quantifier ∧ outcome.matched = kept.length ∧
      outcome.total = view.count ∧
      (outcome.failure.isSome = true ↔
        view.quantifier.judge outcome.matched outcome.total = false) ∧
      (∀ failure, outcome.failure = some failure → Truthful host view spec kept failure) ∧
      ∀ limit, ∃ other,
        (view.withOptions { view.options with limit := limit }).evaluate host spec = .ok other ∧
          other.matched = outcome.matched ∧ other.total = outcome.total ∧
          other.passed = outcome.passed ∧
          other.failure.bind (·.offending) = outcome.failure.bind (·.offending) := by
  obtain ⟨kept, dropped, hsplits⟩ := splits_of_evaluate h
  obtain ⟨t, ht, rfl, -⟩ := hsplits.tally_found 0
  have hlimit : ∀ limit, Tally.ofItems
      (spec.accepts host (view.withOptions { view.options with limit := limit }).options) 0
        view.items = .ok t := by
    intro limit
    rw [← ht]
    exact congrArg (Tally.ofItems · 0 view.items)
      (funext fun v => Spec.accepts_limit host view.options limit v spec)
  rw [evaluate_of_tally ht] at h
  cases h
  refine ⟨t.matching, dropped, hsplits, rfl, rfl, rfl, ?_, ?_, ?_⟩
  · rw [isSome_report?, Bool.not_eq_true']
  · exact fun failure hfailure => truthful_of_report? hsplits ht hfailure
  · intro limit
    refine ⟨_, evaluate_of_tally (hlimit limit), rfl, rfl, ?_,
      offending_report?_limit view spec t limit⟩
    rw [Outcome.passed, Outcome.passed, ← Option.not_isSome, ← Option.not_isSome, isSome_report?,
      isSome_report?]
    rfl

/-- The second of the three readings is the first that is no size. Where none may be a size, the two
that are would be listed, and with the limit 1 the first of them is. -/
theorem reports_truthful_readings :
    (∃ outcome failure kept, readings.evaluate Host.stock sizes = .ok outcome ∧
      outcome.failure = some failure ∧ Truthful Host.stock readings sizes kept failure ∧
      failure.detail =
        "item 1 of 3 did not match: \x7b\"kind\":\"note\",\"n\":\"one\"\x7d") ∧
    ∃ outcome other, (readings.quantify .none).evaluate Host.stock sizes = .ok outcome ∧
      ((readings.quantify .none).withOptions { limit := 1 }).evaluate Host.stock sizes = .ok other ∧
      other.matched = outcome.matched ∧ other.passed = outcome.passed ∧
      other.failure.map CheckFailure.detail = some
        "expected none matching, found 2 of 3; matching: [\x7b\"kind\":\"size\",\"n\":1\x7d]" := by
  constructor
  · have h : readings.evaluate Host.stock sizes = .ok _ := rfl
    obtain ⟨kept, -, -, -, -, -, -, htruthful, -⟩ := reports_truthful h
    exact ⟨_, _, kept, h, rfl, htruthful _ rfl, rfl⟩
  · have h : (readings.quantify .none).evaluate Host.stock sizes = .ok _ := rfl
    obtain ⟨-, -, -, -, -, -, -, -, hlimit⟩ := reports_truthful h
    obtain ⟨other, hother, hmatched, -, hpassed, -⟩ := hlimit 1
    cases hother
    exact ⟨_, _, h, rfl, hmatched, hpassed, rfl⟩

end View

end Deferred
