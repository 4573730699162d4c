import Deferred.Proofs.Evaluation

/-!
# Partial application

What remains of an expression when it lacks arguments is a substitution of the arguments there are
(`Expr.bind_eq_subst`). Two contexts one after the other act like one context that has the arguments
of both (`Context.argument_followedBy`), and everything about partial application in stages comes
from that.
-/

namespace Deferred

/-! ## Contexts as substitutions -/

/-- The placeholder once the first `k` positional arguments are gone. -/
def Placeholder.lower (k : Nat) : Placeholder → Placeholder
  | .anonymous => .anonymous
  | .indexed i => .indexed (.ofNat (i.toNat - k))
  | .named key => .named key

/-- A lower index is a machine word as well. -/
theorem toNat_ofNat_sub (i : UInt64) (k : Nat) : (UInt64.ofNat (i.toNat - k)).toNat = i.toNat - k :=
  UInt64.toNat_ofNat_of_lt' (Nat.lt_of_le_of_lt (Nat.sub_le ..) i.toNat_lt_size)

theorem Placeholder.lower_lower (j k : Nat) (p : Placeholder) :
    (p.lower j).lower k = p.lower (j + k) := by
  cases p with
  | anonymous => rfl
  | indexed i => rw [lower, lower, lower, toNat_ofNat_sub, Nat.sub_sub]
  | named key => rfl

namespace Context

/-- Puts in all arguments of a context. -/
def binding (c : Context) : Substitution := fun n p =>
  match c.argument n p with
  | some v => .bound v
  | none => .placeholder (p.lower c.positional.length)

/-- The arguments of one context and then those of another. Of two arguments with one name the
earlier counts, of two ways of navigation the later. -/
def followedBy (c₁ c₂ : Context) : Context where
  positional := c₁.positional ++ c₂.positional
  named := c₂.named.override c₁.named
  navigation := c₂.navigation

/-- What the first context has no argument for, the second one may have under its new number. -/
theorem argument_followedBy (c₁ c₂ : Context) (n : Nat) (p : Placeholder) :
    (c₁.followedBy c₂).argument n p =
      (c₁.argument n p).or
        (c₂.argument (n - c₁.positional.length) (p.lower c₁.positional.length)) := by
  have hget : ∀ i, (c₁.positional ++ c₂.positional)[i]? =
      c₁.positional[i]?.or c₂.positional[i - c₁.positional.length]? := by
    intro i
    rcases Nat.lt_or_ge i c₁.positional.length with h | h
    · rw [List.getElem?_append_left h, List.getElem?_eq_getElem h, Option.some_or]
    · rw [List.getElem?_append_right h, List.getElem?_eq_none h, Option.none_or]
  cases p with
  | anonymous => exact hget n
  | indexed i =>
    show _ = c₁.positional[i.toNat]?.or c₂.positional[(UInt64.ofNat _).toNat]?
    rw [toNat_ofNat_sub]
    exact hget i.toNat
  | named key => exact Dict.get?_override ..

/-- Putting in the arguments of two contexts one after the other is putting in those of both. -/
theorem binding_andThen (c₁ c₂ : Context) :
    c₁.binding.andThen c₂.binding (· - c₁.positional.length) = (c₁.followedBy c₂).binding := by
  funext n p
  simp only [Substitution.andThen, binding, argument_followedBy]
  cases c₁.argument n p with
  | some v => rfl
  | none =>
    show c₂.binding _ _ = _
    rw [binding, Option.none_or, Placeholder.lower_lower]
    simp only [followedBy, List.length_append]

/-- The anonymous placeholders that remain are numbered from zero again. -/
theorem renumbers_binding (c : Context) : c.binding.Renumbers (· - c.positional.length) := by
  intro n p
  simp only [binding]
  cases p with
  | anonymous =>
    show n + 1 - _ = _
    cases h : c.argument n .anonymous with
    | some v =>
      have := isSome_argument_anonymous.1 (Option.isSome_of_eq_some h)
      show n + 1 - _ = n - _ + 0
      omega
    | none =>
      have : ¬ n < c.positional.length := by
        rw [← isSome_argument_anonymous, h]
        exact Bool.false_ne_true
      show n + 1 - _ = n - _ + 1
      omega
  | indexed i => cases c.argument n (.indexed i) <;> rfl
  | named key => cases c.argument n (.named key) <;> rfl

end Context

/-- The walk that puts in the first `s` positional arguments is that of a substitution. -/
theorem Origin.bind_eq_walk {c : Context} {s : Nat} (hs : s ≤ c.positional.length) :
    Origin.bind c s = { c with positional := c.positional.take s : Context }.binding.walk := by
  have hlen : (c.positional.take s).length = s := by
    rw [List.length_take]
    omega
  funext o n
  cases o with
  | bound v => rfl
  | placeholder p =>
    cases p with
    | anonymous =>
      have hrun : (bind c s (.placeholder .anonymous)).run n =
          (match (c.positional.take s)[n]? with
            | some v => (return .bound v : StateM Nat Origin)
            | none => return .placeholder .anonymous).run (n + 1) := rfl
      refine hrun.trans ?_
      simp only [Substitution.walk, Substitution.origin, Context.binding, Context.argument]
      cases (c.positional.take s)[n]? <;> rfl
    | indexed i =>
      simp only [bind, Substitution.walk, Substitution.origin, Context.binding, Context.argument,
        hlen]
      cases (c.positional.take s)[i.toNat]? <;> rfl
    | named key =>
      simp only [bind, Substitution.walk, Substitution.origin, Context.binding, Context.argument]
      cases c.named.get? key <;> rfl

namespace Expr

/-- The part of a context that goes into an expression: no more positional arguments than it
needs. -/
def part (e : Expr) (c : Context) : Context :=
  { c with positional := c.positional.take (e.supplied c) }

theorem supplied_le (e : Expr) (c : Context) : e.supplied c ≤ c.positional.length :=
  Nat.min_le_left ..

theorem length_part (e : Expr) (c : Context) : (e.part c).positional.length = e.supplied c := by
  have := e.supplied_le c
  rw [part, List.length_take]
  omega

/-- Partial application puts in the part of the context that goes into the expression. -/
theorem bind_eq_subst (e : Expr) (c : Context) : e.bind c = e.subst (e.part c).binding 0 := by
  rw [bind, Origin.bind_eq_walk (e.supplied_le c), run_mapOriginsM]
  rfl

end Expr

/-! ## What remains -/

namespace Context

section Remains

variable {c : Context} {n : Nat} {ps : List Placeholder}

/-- A placeholder remains, lowered, if it has no argument. -/
theorem mem_placeholders_binding {p q : Placeholder} :
    q ∈ (c.binding n p).placeholders ↔
      c.argument n p = none ∧ q = p.lower c.positional.length := by
  rw [binding]
  cases c.argument n p with
  | some v => simp [Origin.placeholders]
  | none => simp [Origin.placeholders]

theorem mem_remains {q : Placeholder} :
    q ∈ c.binding.remains n ps ↔
      ∃ k p, (k, p) ∈ slots n ps ∧ c.argument k p = none ∧ q = p.lower c.positional.length := by
  simp only [Substitution.remains, List.mem_flatMap, Prod.exists, mem_placeholders_binding]

theorem width_remains : width (c.binding.remains 0 ps) = width ps - c.positional.length := by
  have := c.renumbers_binding.remains 0 ps
  omega

/-- The positions that remain are those past the positional arguments, counted from there. -/
theorem indexed_mem_remains {i : Nat} :
    (∃ j, .indexed j ∈ c.binding.remains n ps ∧ j.toNat = i) ↔
      ∃ j, .indexed j ∈ ps ∧ j.toNat = i + c.positional.length := by
  constructor
  · rintro ⟨j', hj', rfl⟩
    obtain ⟨k, p, hp, hnone, hlower⟩ := mem_remains.1 hj'
    cases p with
    | anonymous => cases hlower
    | named key => cases hlower
    | indexed j =>
      have hj : c.positional.length ≤ j.toNat := List.getElem?_eq_none_iff.1 hnone
      refine ⟨j, mem_of_mem_slots hp, ?_⟩
      rw [Placeholder.indexed.inj hlower, toNat_ofNat_sub, Nat.sub_add_cancel hj]
  · rintro ⟨j, hj, hi⟩
    obtain ⟨k, hk⟩ := exists_mem_slots n hj
    have hnone : c.argument k (.indexed j) = none :=
      List.getElem?_eq_none_iff.2 (hi ▸ Nat.le_add_left ..)
    refine ⟨_, mem_remains.2 ⟨k, _, hk, hnone, rfl⟩, ?_⟩
    rw [toNat_ofNat_sub, hi, Nat.add_sub_cancel]

/-- The names that remain are those without an argument. -/
theorem named_mem_remains {key : String} :
    .named key ∈ c.binding.remains n ps ↔ .named key ∈ ps ∧ c.named.get? key = none := by
  rw [mem_remains]
  constructor
  · rintro ⟨k, p, hp, hnone, hlower⟩
    cases p with
    | anonymous => cases hlower
    | indexed j => cases hlower
    | named key' =>
      cases hlower
      exact ⟨mem_of_mem_slots hp, hnone⟩
  · rintro ⟨h, hnone⟩
    obtain ⟨k, hk⟩ := exists_mem_slots n h
    exact ⟨k, _, hk, hnone, rfl⟩

end Remains

end Context

namespace Expr

section Bind

variable {e : Expr} {c : Context}

theorem placeholders_bind :
    (e.bind c).placeholders = (e.part c).binding.remains 0 e.placeholders := by
  rw [bind_eq_subst, placeholders_subst]

theorem anonymous_bind :
    (e.bind c).requirements.anonymous = e.requirements.anonymous - e.supplied c := by
  rw [requirements, requirements, Requirements.anonymous_ofPlaceholders,
    Requirements.anonymous_ofPlaceholders, placeholders_bind, Context.width_remains, length_part]

theorem mem_indexed_bind {i : Nat} :
    i ∈ (e.bind c).requirements.indexed ↔ i + e.supplied c ∈ e.requirements.indexed := by
  rw [requirements, requirements, Requirements.mem_indexed, Requirements.mem_indexed,
    placeholders_bind, Context.indexed_mem_remains, length_part]

theorem mem_named_bind {key : String} :
    key ∈ (e.bind c).requirements.named ↔
      key ∈ e.requirements.named ∧ c.named.get? key = none := by
  rw [requirements, requirements, Requirements.mem_named, Requirements.mem_named,
    placeholders_bind, Context.named_mem_remains]
  rfl

/-- Positions that can be counted can still be counted when some are gone. -/
theorem countable_bind (h : e.requirements.Countable) : (e.bind c).requirements.Countable := by
  intro i hi
  have := h _ (mem_indexed_bind.1 hi)
  omega

/-- So many positional arguments fewer are needed as were put in. -/
theorem positional_bind (hcount : e.requirements.Countable) :
    (e.bind c).requirements.positional = e.requirements.positional - e.supplied c := by
  -- The two maxima are compared by what they are at most, where each position has its own say.
  have hle : ∀ m, (e.bind c).requirements.positional ≤ m ↔
      e.requirements.positional ≤ m + e.supplied c := by
    intro m
    rw [Requirements.positional_le_iff (countable_bind hcount),
      Requirements.positional_le_iff hcount, anonymous_bind]
    refine and_congr (by omega) ⟨fun h j hj => ?_, fun h i hi => ?_⟩
    · by_cases hs : e.supplied c ≤ j
      · have := h (j - e.supplied c) (mem_indexed_bind.2 (by rwa [Nat.sub_add_cancel hs]))
        omega
      · omega
    · have := h _ (mem_indexed_bind.1 hi)
      omega
  have h₁ := (hle (e.bind c).requirements.positional).1 (Nat.le_refl _)
  have h₂ := (hle (e.requirements.positional - e.supplied c)).2 (by omega)
  omega

end Bind

end Expr

/-! ## Value or remainder -/

namespace Expr

variable {e : Expr} {c : Context}

/-- The arguments of a context are all that the expression needs. -/
abbrev Ready (e : Expr) (c : Context) : Prop :=
  e.resolvableWith c.positional.length c.named = true

theorem ready_iff : e.Ready c ↔ e.requirements.positional ≤ c.positional.length ∧
    ∀ key ∈ e.requirements.named, c.named.contains key = true :=
  Requirements.satisfiedBy_iff

/-- Arguments for all placeholders are enough. -/
theorem ready_of_supplies (h : c.Supplies 0 e.placeholders) : e.Ready c :=
  Requirements.satisfiedBy_of_supplies h

/-- No others are, if the positions that are asked for can be counted. -/
theorem ready_iff_supplies (hcount : e.requirements.Countable) :
    e.Ready c ↔ c.Supplies 0 e.placeholders :=
  ⟨Requirements.supplies_of_satisfiedBy hcount, ready_of_supplies⟩

section Resolution

variable [Decimals] [Patterns] {host : Host} {r : Expr}

theorem resolve_of_ready (h : e.Ready c) : e.resolve host c = (e.evaluate host c).map .value :=
  if_pos h

theorem resolve_of_not_ready (h : ¬ e.Ready c) : e.resolve host c = .ok (.pending (e.bind c)) :=
  if_neg h

/-- Resolution leaves something pending exactly when arguments are missing, and then what partial
application leaves. -/
theorem resolve_eq_pending_iff :
    e.resolve host c = .ok (.pending r) ↔ ¬ e.Ready c ∧ r = e.bind c := by
  by_cases h : e.Ready c
  · rw [resolve_of_ready h]
    constructor
    · intro hr
      cases hv : e.evaluate host c with
      | ok v => rw [hv] at hr; cases hr
      | error fault => rw [hv] at hr; cases hr
    · exact fun hr => absurd h hr.1
  · rw [resolve_of_not_ready h]
    constructor
    · intro hr
      cases hr
      exact ⟨h, rfl⟩
    · rintro ⟨-, rfl⟩
      rfl

/-- Resolution gives a value exactly when evaluation does. -/
theorem resolve_eq_value_iff {v : Value} :
    e.resolve host c = .ok (.value v) ↔ (e.eval host c).outcome 0 = .ok v := by
  constructor
  · intro h
    by_cases hready : e.Ready c
    · rw [resolve_of_ready hready, evaluate] at h
      change ((e.eval host c).outcome 0).map Resolution.value = _ at h
      cases hv : (e.eval host c).outcome 0 with
      | error fault =>
        rw [hv] at h
        cases h
      | ok w =>
        rw [hv] at h
        cases h
        rfl
    · rw [resolve_of_not_ready hready] at h
      cases h
  · intro h
    rw [resolve_of_ready (ready_of_supplies (supplies_of_outcome h)), evaluate]
    show ((e.eval host c).outcome 0).map _ = _
    rw [h]
    rfl

end Resolution

/-! ## What is still needed -/

theorem indexed_bind : (e.bind c).requirements.indexed = .ofList
    ((e.requirements.indexed.toList.filter (e.supplied c ≤ ·)).map (· - e.supplied c)) := by
  refine Ascending.ext_mem fun i => ?_
  rw [mem_indexed_bind, Ascending.mem_ofList, List.mem_map]
  constructor
  · intro hi
    exact ⟨_, List.mem_filter.2 ⟨hi, by simp⟩, Nat.add_sub_cancel ..⟩
  · rintro ⟨j, hj, rfl⟩
    obtain ⟨hj, hle⟩ := List.mem_filter.1 hj
    rwa [Nat.sub_add_cancel (of_decide_eq_true hle)]

theorem named_bind : (e.bind c).requirements.named =
    .ofList (e.requirements.named.toList.filter fun key => !c.named.contains key) := by
  refine Ascending.ext_mem fun key => ?_
  rw [mem_named_bind, Ascending.mem_ofList, List.mem_filter, Dict.get?_eq_none_iff, Dict.contains]
  simp [Ascending.mem_def]

/-- If nothing is needed any more, then nothing was missing. -/
theorem ready_of_isEmpty_bind (h : (e.bind c).requirements.isEmpty = true) : e.Ready c := by
  rw [Requirements.isEmpty, Bool.and_eq_true, beq_iff_eq] at h
  obtain ⟨hpos, hnamed⟩ := h
  refine ready_iff.2 ⟨?_, fun key hkey => decide_eq_true ?_⟩
  · by_cases hcount : e.requirements.Countable
    · have := e.supplied_le c
      rw [positional_bind hcount] at hpos
      omega
    · -- Nothing but anonymous placeholders needs an argument, and none of these is left.
      have hall : e.requirements.positional = e.requirements.anonymous :=
        Requirements.positional_of_not_countable hcount
      have hleft := (Nat.max_eq_zero_iff.1 hpos).1
      have := e.supplied_le c
      rw [anonymous_bind] at hleft
      omega
  · by_cases hmem : key ∈ c.named.keys
    · exact hmem
    · have hrest : key ∈ (e.bind c).requirements.named :=
        mem_named_bind.2 ⟨hkey, Dict.get?_eq_none_iff.2 hmem⟩
      rw [Ascending.mem_def, List.isEmpty_iff.1 hnamed] at hrest
      cases hrest

/-- `_ + _2 * @scale`. -/
def scaledSum : Expr :=
  it.binary (.arith .add)
    (.expr ((arg 2).binary (.arith .multiply) (.expr (placeholder (.named "scale")))))

/-- `1 + _1 * @scale`. -/
def scaledRest : Expr :=
  (bound (.integer 1)).binary (.arith .add)
    (.expr ((arg 1).binary (.arith .multiply) (.expr (placeholder (.named "scale")))))

/-- The placeholder of the greatest index of all. -/
def lastArg : Expr := arg (UInt64.size - 1)

/-- `_ + _18446744073709551615 + @k`. -/
def lastSum : Expr :=
  (it.binary (.arith .add) (.expr lastArg)).binary (.arith .add)
    (.expr (placeholder (.named "k")))

/-- `1 + _18446744073709551614 + @k`. -/
def lastRest : Expr :=
  ((bound (.integer 1)).binary (.arith .add) (.expr (arg (UInt64.size - 2)))).binary (.arith .add)
    (.expr (placeholder (.named "k")))

end Expr

end Deferred
