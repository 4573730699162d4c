import Deferred.Proofs.Verdicts

/-!
# Filters in a row

A record passes two filters, one after the other, if it meets the first spec and then the second,
and this is what it means to meet the fields of both as one spec (`Spec.accepts_append`). The two
ways do not look at the same records in the same order, so they may end in different faults; but one
of them ends in a fault only if the other does (`Splits.allOf`, `Splits.exists_of_allOf`).

Main statement (`View.keepIf_conjunction`): filters in a row are one filter by all the fields. Where
no record is without a verdict, a filter is the one of lists, so the order of filters and of fields
does not matter and a filter by the same spec again changes nothing.
-/

namespace Deferred

/-! ## Two verdicts in a row -/

/-- The verdict of `first`, and where it is good that of `second`. -/
def allOf (first second : Value → Except Fault Bool) (v : Value) : Except Fault Bool := do
  if ← first v then second v else return false

section AllOf

variable {first second : Value → Except Fault Bool} {v : Value}

theorem allOf_eq_true_iff : allOf first second v = .ok true ↔
    first v = .ok true ∧ second v = .ok true := by
  unfold allOf
  cases first v with
  | error f => simp [bind, Except.bind]
  | ok b => cases b <;> simp [bind, Except.bind, pure, Except.pure]

theorem allOf_eq_false_iff : allOf first second v = .ok false ↔
    first v = .ok false ∨ first v = .ok true ∧ second v = .ok false := by
  unfold allOf
  cases first v with
  | error f => simp [bind, Except.bind]
  | ok b => cases b <;> simp [bind, Except.bind, pure, Except.pure]

variable {vs kept dropped : List Value}

/-- What is kept by two splits, the second of what the first kept, is kept by one. -/
theorem Splits.allOf {kept' dropped' : List Value} (h : Splits first vs kept dropped)
    (h' : Splits second kept kept' dropped') : ∃ ds, Splits (allOf first second) vs kept' ds := by
  induction h generalizing kept' dropped' with
  | nil =>
    cases h'
    exact ⟨[], .nil⟩
  | @keep v vs kept dropped hv _ ih =>
    cases h' with
    | keep hv' h' =>
      obtain ⟨ds, hds⟩ := ih h'
      exact ⟨ds, .keep (allOf_eq_true_iff.2 ⟨hv, hv'⟩) hds⟩
    | drop hv' h' =>
      obtain ⟨ds, hds⟩ := ih h'
      exact ⟨v :: ds, .drop (allOf_eq_false_iff.2 (.inr ⟨hv, hv'⟩)) hds⟩
  | @drop v vs kept dropped hv _ ih =>
    obtain ⟨ds, hds⟩ := ih h'
    exact ⟨v :: ds, .drop (allOf_eq_false_iff.2 (.inl hv)) hds⟩

/-- Two verdicts in a row split the records as the first does, and what it keeps as the second
does. -/
theorem Splits.exists_of_allOf (h : Splits (Deferred.allOf first second) vs kept dropped) :
    ∃ ks ds ds', Splits first vs ks ds ∧ Splits second ks kept ds' := by
  induction h with
  | nil => exact ⟨[], [], [], .nil, .nil⟩
  | @keep v vs kept dropped hv _ ih =>
    obtain ⟨ks, ds, ds', h, h'⟩ := ih
    obtain ⟨hfirst, hsecond⟩ := allOf_eq_true_iff.1 hv
    exact ⟨v :: ks, ds, ds', .keep hfirst h, .keep hsecond h'⟩
  | @drop v vs kept dropped hv _ ih =>
    obtain ⟨ks, ds, ds', h, h'⟩ := ih
    rcases allOf_eq_false_iff.1 hv with hfirst | ⟨hfirst, hsecond⟩
    · exact ⟨ks, v :: ds, ds', .drop hfirst h, h'⟩
    · exact ⟨v :: ks, ds, v :: ds', .keep hfirst h, .drop hsecond h'⟩

end AllOf

/-- A record meets the fields of two specs if it meets the first spec and then the second. -/
theorem Spec.accepts_append [Decimals] [Patterns] (host : Host) (options : CheckOptions)
    (s t : Spec) (v : Value) :
    Spec.accepts host options v (s ++ t) =
      allOf (Spec.accepts host options · s) (Spec.accepts host options · t) v := by
  induction s with
  | nil => rfl
  | cons f fs ih =>
    unfold allOf at ih ⊢
    simp only [List.cons_append, Spec.accepts, ih, bind_assoc]
    refine bind_congr fun b => ?_
    cases b with
    | true => rfl
    | false => rfl

/-! ## Verdicts without faults -/

/-- Whether the verdict is a good one. -/
def verdict : Except Fault Bool → Bool
  | .ok b => b
  | .error _ => false

theorem eq_ok_verdict {x : Except Fault Bool} (h : ∃ b, x = .ok b) : x = .ok (verdict x) := by
  obtain ⟨b, rfl⟩ := h
  rfl

/-- Records with a verdict each are split as a list is by a boolean test. -/
theorem Splits.of_verdicts {accept : Value → Except Fault Bool} {vs : List Value}
    {good : Value → Bool} (h : ∀ v ∈ vs, accept v = .ok (good v)) :
    Splits accept vs (vs.filter good) (vs.filter fun v => !good v) := by
  induction vs with
  | nil => exact .nil
  | cons v vs ih =>
    obtain ⟨hv, hvs⟩ := List.forall_mem_cons.1 h
    cases hgood : good v with
    | true =>
      rw [hgood] at hv
      simpa [hgood] using Splits.keep hv (ih hvs)
    | false =>
      rw [hgood] at hv
      simpa [hgood] using Splits.drop hv (ih hvs)

/-- A spec whose fields all have a verdict has the verdict that all of them have. -/
theorem Spec.accepts_eq_all [Decimals] [Patterns] {host : Host} {options : CheckOptions} {v : Value}
    {s : Spec} {good : FieldCheck → Bool} (h : ∀ f ∈ s, f.accepts host options v = .ok (good f)) :
    s.accepts host options v = .ok (s.all good) := by
  induction s with
  | nil => rfl
  | cons f fs ih =>
    obtain ⟨hf, hfs⟩ := List.forall_mem_cons.1 h
    rw [accepts, hf, List.all_cons]
    cases good f with
    | true => exact ih hfs
    | false => rfl

/-! ## Views -/

namespace View

section Filters

variable [Decimals] [Patterns] {host : Host} {view w : View} {s t : Spec}

/-- A filter keeps one side of the split of the records, and nothing else changes. -/
theorem keepIf_eq_ok_iff : view.keepIf host s = .ok w ↔
    ∃ kept dropped, Splits (Spec.accepts host view.options · s) view.items kept dropped ∧
      w = { view with items := kept } := by
  rcases splits_or_stopsAt (Spec.accepts host view.options · s) view.items with
    ⟨kept, dropped, h⟩ | ⟨f, h⟩
  · have hkeep : view.keepIf host s = .ok { view with items := kept } := by
      rw [keepIf, filter, h.filterItems_eq]
      rfl
    constructor
    · intro hw
      rw [hkeep] at hw
      cases hw
      exact ⟨kept, dropped, h, rfl⟩
    · rintro ⟨kept', dropped', h', rfl⟩
      rw [keepIf, filter, h'.filterItems_eq]
      rfl
  · have hfails := h.filterItems_eq true
    constructor
    · intro hw
      rw [keepIf, filter, hfails] at hw
      cases hw
    · rintro ⟨kept', dropped', h', rfl⟩
      rw [h'.filterItems_eq] at hfails
      cases hfails

/-- No record of the view is without a verdict of the spec. -/
def Decides (host : Host) (view : View) (s : Spec) : Prop :=
  ∀ v ∈ view.items, ∃ b, s.accepts host view.options v = .ok b

/-- Where all records have a verdict, a filter is one of lists. -/
theorem keepIf_of_verdicts {good : Value → Bool}
    (h : ∀ v ∈ view.items, s.accepts host view.options v = .ok (good v)) :
    view.keepIf host s = .ok { view with items := view.items.filter good } :=
  keepIf_eq_ok_iff.2 ⟨_, _, Splits.of_verdicts h, rfl⟩

theorem keepIf_of_decides (h : view.Decides host s) : view.keepIf host s =
    .ok { view with items := view.items.filter fun v => verdict (s.accepts host view.options v) } :=
  keepIf_of_verdicts fun v hv => eq_ok_verdict (h v hv)

/-- What has a verdict on all records has one on those that another filter keeps. -/
theorem Decides.filter (h : view.Decides host s) (good : Value → Bool) :
    Decides host { view with items := view.items.filter good } s :=
  fun v hv => h v ((List.mem_filter.1 hv).1)

/-- Filters in a row succeed as one filter by the fields of both specs does. -/
theorem keepIf_keepIf_iff : (view.keepIf host s >>= fun kept => kept.keepIf host t) = .ok w ↔
    view.keepIf host (s ++ t) = .ok w := by
  have happend : (Spec.accepts host view.options · (s ++ t)) =
      allOf (Spec.accepts host view.options · s) (Spec.accepts host view.options · t) :=
    funext (Spec.accepts_append host view.options s t)
  rw [keepIf_eq_ok_iff (s := s ++ t), happend]
  constructor
  · intro h
    cases hs : view.keepIf host s with
    | error f =>
      rw [hs] at h
      cases h
    | ok mid =>
      rw [hs] at h
      obtain ⟨ks, ds, hsplit, rfl⟩ := keepIf_eq_ok_iff.1 hs
      obtain ⟨ks', ds', hsplit', rfl⟩ := keepIf_eq_ok_iff.1 h
      obtain ⟨rest, hboth⟩ := hsplit.allOf hsplit'
      exact ⟨ks', rest, hboth, rfl⟩
  · rintro ⟨kept, dropped, hboth, rfl⟩
    obtain ⟨ks, ds, ds', hsplit, hsplit'⟩ := hboth.exists_of_allOf
    have hs : view.keepIf host s = .ok { view with items := ks } :=
      keepIf_eq_ok_iff.2 ⟨ks, ds, hsplit, rfl⟩
    rw [hs]
    exact keepIf_eq_ok_iff.2 ⟨kept, ds', hsplit', rfl⟩

/-- Two filters in a row are one filter by the fields of both specs: either succeeds where the other
does, with the same view. If all records have verdicts of both, the filters may change places and
the first may be repeated; if they have verdicts of all fields of a spec, its fields may change
places. -/
theorem keepIf_conjunction (host : Host) (view : View) (s t : Spec) :
    (∀ w, (view.keepIf host s >>= fun kept => kept.keepIf host t) = .ok w ↔
      view.keepIf host (s ++ t) = .ok w) ∧
    (view.Decides host s → view.Decides host t →
      ∃ once both, view.keepIf host s = .ok once ∧ once.keepIf host s = .ok once ∧
        once.keepIf host t = .ok both ∧
        (view.keepIf host t >>= fun kept => kept.keepIf host s) = .ok both) ∧
    ∀ s' : Spec, s.Perm s' →
      (∀ f ∈ s, ∀ v ∈ view.items, ∃ b, f.accepts host view.options v = .ok b) →
      ∃ w, view.keepIf host s = .ok w ∧ view.keepIf host s' = .ok w := by
  refine ⟨fun w => keepIf_keepIf_iff, fun hs ht => ?_, fun s' hperm hfields => ?_⟩
  · refine ⟨_, _, keepIf_of_decides hs, ?_, keepIf_of_decides (ht.filter _), ?_⟩
    · rw [keepIf_of_decides (hs.filter _)]
      simp [List.filter_filter]
    · rw [keepIf_of_decides ht]
      show View.keepIf host _ s = _
      rw [keepIf_of_decides (hs.filter _)]
      simp [List.filter_filter, Bool.and_comm]
  · have hall : ∀ v ∈ view.items, s.accepts host view.options v =
        .ok (s.all fun f => verdict (f.accepts host view.options v)) := fun v hv =>
      Spec.accepts_eq_all fun f hf => eq_ok_verdict (hfields f hf v hv)
    have hall' : ∀ v ∈ view.items, s'.accepts host view.options v =
        .ok (s.all fun f => verdict (f.accepts host view.options v)) := by
      intro v hv
      rw [hperm.all_eq]
      exact Spec.accepts_eq_all fun f hf => eq_ok_verdict (hfields f (hperm.mem_iff.2 hf) v hv)
    exact ⟨_, keepIf_of_verdicts hall, keepIf_of_verdicts hall'⟩

end Filters

/-- Two sizes, and a note with a text in place of a number. -/
def readings : View :=
  .ofRecords
    [.object (Dict.ofList [("kind", .string "size"), ("n", .integer 1)]),
      .object (Dict.ofList [("kind", .string "note"), ("n", .string "one")]),
      .object (Dict.ofList [("kind", .string "size"), ("n", .integer 5)])]

/-- Asks for sizes. -/
def sizes : Spec := [⟨"kind", .literal (.string "size")⟩]

/-- Asks for a number that is not 1, and has no verdict on a text. -/
def notOne : Spec := [⟨"n", .expr (Expr.it.binary (.arith .subtract) (.literal (.integer 1)))⟩]

/-- Asks for the number 5. -/
def fives : Spec := [⟨"n", .expr (Expr.it.binary .equal (.literal (.integer 5)))⟩]

/-- By itself `notOne` fails on the note, but not behind `sizes`, be it as a filter or as a field.
The filters by `sizes` and `fives` change places. -/
theorem keepIf_conjunction_readings :
    (∃ f, readings.keepIf Host.stock notOne = .error f) ∧
    (∃ w, (readings.keepIf Host.stock sizes >>= fun kept => kept.keepIf Host.stock notOne) = .ok w ∧
      readings.keepIf Host.stock (sizes ++ notOne) = .ok w ∧ w.count = 1) ∧
    (∃ once both, readings.keepIf Host.stock sizes = .ok once ∧
      once.keepIf Host.stock sizes = .ok once ∧ once.keepIf Host.stock fives = .ok both ∧
      (readings.keepIf Host.stock fives >>= fun kept => kept.keepIf Host.stock sizes) = .ok both) ∧
    ∃ w, readings.keepIf Host.stock (sizes ++ fives) = .ok w ∧
      readings.keepIf Host.stock (fives ++ sizes) = .ok w := by
  have hkinds : ∀ v ∈ readings.items,
      ∃ b, FieldCheck.accepts Host.stock readings.options v ⟨"kind", .literal (.string "size")⟩ =
        .ok b :=
    fun v _ => ⟨_, rfl⟩
  have hnumbers : ∀ v ∈ readings.items,
      ∃ b, FieldCheck.accepts Host.stock readings.options v
        ⟨"n", .expr (Expr.it.binary .equal (.literal (.integer 5)))⟩ = .ok b :=
    List.forall_mem_cons.2 ⟨⟨false, rfl⟩,
      List.forall_mem_cons.2 ⟨⟨false, rfl⟩, List.forall_mem_singleton.2 ⟨true, rfl⟩⟩⟩
  have hsizes : readings.Decides Host.stock sizes :=
    List.forall_mem_cons.2 ⟨⟨true, rfl⟩,
      List.forall_mem_cons.2 ⟨⟨false, rfl⟩, List.forall_mem_singleton.2 ⟨true, rfl⟩⟩⟩
  have hfives : readings.Decides Host.stock fives :=
    List.forall_mem_cons.2 ⟨⟨false, rfl⟩,
      List.forall_mem_cons.2 ⟨⟨false, rfl⟩, List.forall_mem_singleton.2 ⟨true, rfl⟩⟩⟩
  refine ⟨⟨_, rfl⟩, ?_, (keepIf_conjunction Host.stock readings sizes fives).2.1 hsizes hfives, ?_⟩
  · exact ⟨_, rfl, ((keepIf_conjunction Host.stock readings sizes notOne).1 _).1 rfl, rfl⟩
  · exact (keepIf_conjunction Host.stock readings (sizes ++ fives) []).2.2 _
      List.perm_append_comm
      (List.forall_mem_cons.2 ⟨hkinds, List.forall_mem_singleton.2 hnumbers⟩)

end View

end Deferred
