import Deferred.Proofs.PartialApplication

/-!
# Anonymous placeholders are numbered ones

An anonymous placeholder takes the argument at its number, so it may as well be written with the
number as its index: `Expr.numbered` writes it so. Main statement (`Expr.resolve_numbered`): this
changes nothing about what an expression needs and what it resolves to, and what it leaves when
arguments are missing is numbered once more. The numbers have to be machine words, since indices
are, and no index may be the greatest one of all (`Expr.numbered_last`).

## Key technical lemmas

* `Expr.placeholders_numbered` — the placeholders of the numbered expression, one by one.
* `Expr.bind_numbered` — numbering commutes with partial application, which counts anew.
* `Expr.evaluate_numbered` — evaluation finds the same arguments.
-/

namespace Deferred

/-- A placeholder with its number as its index, if it is anonymous. -/
def Placeholder.atSlot (n : Nat) : Placeholder → Placeholder
  | .anonymous => .indexed (.ofNat n)
  | .indexed i => .indexed i
  | .named key => .named key

/-- The substitution that numbers. -/
def numbering : Substitution := fun n p => .placeholder (p.atSlot n)

/-- What remains, numbered. -/
def Resolution.numbered : Resolution → Resolution
  | .value v => .value v
  | .pending rest => .pending rest.numbered

theorem Origin.number_eq_walk : Origin.number = numbering.walk := by
  funext o n
  cases o with
  | bound v => rfl
  | placeholder p => cases p <;> rfl

/-- No anonymous placeholder is left behind, so no number is. -/
theorem renumbers_numbering : numbering.Renumbers fun _ => 0 := by
  intro n p
  cases p <;> rfl

section Slots

variable {c : Context} {n : Nat} {p : Placeholder} (hn : p = .anonymous → n < UInt64.size)

include hn

/-- An anonymous placeholder looks for the argument that the one with its number as its index
does. -/
theorem Context.argument_atSlot (k : Nat) : c.argument k (p.atSlot n) = c.argument n p := by
  cases p with
  | anonymous =>
    show c.positional[(UInt64.ofNat n).toNat]? = c.positional[n]?
    rw [UInt64.toNat_ofNat_of_lt' (hn rfl)]
  | indexed i => rfl
  | named key => rfl

theorem Placeholder.lower_atSlot (k : Nat) : (p.atSlot n).lower k = (p.lower k).atSlot (n - k) := by
  cases p with
  | anonymous =>
    show Placeholder.indexed (.ofNat ((UInt64.ofNat n).toNat - k)) = .indexed (.ofNat (n - k))
    rw [UInt64.toNat_ofNat_of_lt' (hn rfl)]
  | indexed i => rfl
  | named key => rfl

/-- Binding arguments and then numbering what is left is numbering and then binding. -/
theorem numbering_andThen_binding :
    numbering.andThen c.binding (fun _ => 0) n p =
      c.binding.andThen numbering (· - c.positional.length) n p := by
  show c.binding 0 (p.atSlot n) = numbering.origin _ (c.binding n p)
  rw [Context.binding, Context.binding, Context.argument_atSlot hn]
  cases c.argument n p with
  | some v => rfl
  | none => exact congrArg Origin.placeholder (Placeholder.lower_atSlot hn _)

end Slots

namespace Expr

variable {host : Host} {e : Expr} {c : Context}

theorem numbered_eq_subst (e : Expr) : e.numbered = e.subst numbering 0 := by
  rw [numbered, Origin.number_eq_walk, run_mapOriginsM]

/-- Each placeholder stays where it was, and an anonymous one gets its number. -/
theorem placeholders_numbered (e : Expr) :
    e.numbered.placeholders = (slots 0 e.placeholders).map fun q => q.2.atSlot q.1 := by
  rw [numbered_eq_subst, placeholders_subst, Substitution.remains, List.map_eq_flatMap]
  rfl

/-! ## Requirements -/

theorem mem_placeholders_numbered {p : Placeholder} :
    p ∈ e.numbered.placeholders ↔ ∃ k q, (k, q) ∈ slots 0 e.placeholders ∧ q.atSlot k = p := by
  rw [placeholders_numbered]
  simp only [List.mem_map, Prod.exists]

theorem named_numbered : e.numbered.requirements.named = e.requirements.named := by
  refine Ascending.ext_mem fun key => ?_
  rw [requirements, requirements, Requirements.mem_named, Requirements.mem_named,
    mem_placeholders_numbered]
  constructor
  · rintro ⟨k, q, hq, hslot⟩
    cases q with
    | anonymous => cases hslot
    | indexed i => cases hslot
    | named key' =>
      cases hslot
      exact mem_of_mem_slots hq
  · intro h
    obtain ⟨k, hk⟩ := exists_mem_slots 0 h
    exact ⟨k, _, hk, rfl⟩

theorem anonymous_lt_of_mem_slots {n : Nat} (h : (n, .anonymous) ∈ slots 0 e.placeholders) :
    n < e.requirements.anonymous := by
  have := mem_slots_anonymous.1 h
  rw [requirements, Requirements.anonymous_ofPlaceholders]
  omega

section Words

variable (hwords : e.requirements.anonymous < UInt64.size)

include hwords

theorem lt_size_of_mem_slots {n : Nat} {p : Placeholder} (h : (n, p) ∈ slots 0 e.placeholders)
    (hp : p = .anonymous) : n < UInt64.size := by
  subst hp
  exact Nat.lt_trans (anonymous_lt_of_mem_slots h) hwords

theorem mem_indexed_numbered {i : Nat} :
    i ∈ e.numbered.requirements.indexed ↔
      i < e.requirements.anonymous ∨ i ∈ e.requirements.indexed := by
  rw [requirements, requirements, Requirements.mem_indexed, Requirements.mem_indexed]
  constructor
  · rintro ⟨j, hj, rfl⟩
    obtain ⟨k, q, hq, hslot⟩ := mem_placeholders_numbered.1 hj
    cases q with
    | anonymous =>
      have hk := anonymous_lt_of_mem_slots hq
      rw [← Placeholder.indexed.inj hslot, UInt64.toNat_ofNat_of_lt' (Nat.lt_trans hk hwords)]
      exact .inl hk
    | indexed j' =>
      cases hslot
      exact .inr ⟨j, mem_of_mem_slots hq, rfl⟩
    | named key => cases hslot
  · rintro (h | ⟨j, hj, rfl⟩)
    · have hslot : (i, .anonymous) ∈ slots 0 e.placeholders := by
        rw [Requirements.anonymous_ofPlaceholders] at h
        exact mem_slots_anonymous.2 (by omega)
      refine ⟨.ofNat i, mem_placeholders_numbered.2 ⟨i, .anonymous, hslot, rfl⟩, ?_⟩
      exact UInt64.toNat_ofNat_of_lt' (lt_size_of_mem_slots hwords hslot rfl)
    · obtain ⟨k, hk⟩ := exists_mem_slots 0 hj
      exact ⟨j, mem_placeholders_numbered.2 ⟨k, _, hk, rfl⟩, rfl⟩

end Words

theorem anonymous_numbered : e.numbered.requirements.anonymous = 0 := by
  have := renumbers_numbering.width_subst e 0
  rw [requirements, Requirements.anonymous_ofPlaceholders, numbered_eq_subst]
  omega

section Counted

variable (hcount : e.requirements.Countable) (hwords : e.requirements.anonymous < UInt64.size)

include hcount hwords

theorem countable_numbered : e.numbered.requirements.Countable := by
  intro i hi
  rcases (mem_indexed_numbered hwords).1 hi with h | h
  · omega
  · exact hcount i h

/-- The indices given reach as far as the anonymous placeholders did. -/
theorem positional_numbered : e.numbered.requirements.positional = e.requirements.positional := by
  have hle : ∀ m, e.numbered.requirements.positional ≤ m ↔ e.requirements.positional ≤ m := by
    intro m
    rw [Requirements.positional_le_iff (countable_numbered hcount hwords),
      Requirements.positional_le_iff hcount, anonymous_numbered]
    constructor
    · rintro ⟨-, h⟩
      refine ⟨Nat.le_of_not_lt fun hlt => ?_,
        fun i hi => h i ((mem_indexed_numbered hwords).2 (.inr hi))⟩
      have := h m ((mem_indexed_numbered hwords).2 (.inl hlt))
      omega
    · rintro ⟨ha, h⟩
      refine ⟨Nat.zero_le m, fun i hi => ?_⟩
      rcases (mem_indexed_numbered hwords).1 hi with hlt | hi
      · omega
      · exact h i hi
  exact Nat.le_antisymm ((hle _).2 (Nat.le_refl _)) ((hle _).1 (Nat.le_refl _))

theorem ready_numbered : e.numbered.Ready c ↔ e.Ready c := by
  rw [ready_iff, ready_iff, positional_numbered hcount hwords, named_numbered]

end Counted

/-! ## Resolution -/

/-- Numbering commutes with partial application. -/
theorem bind_numbered (hcount : e.requirements.Countable)
    (hwords : e.requirements.anonymous < UInt64.size) :
    e.numbered.bind c = (e.bind c).numbered := by
  have hpart : e.numbered.part c = e.part c := by
    rw [part, part, supplied, supplied, positional_numbered hcount hwords]
  have hfirst := subst_subst (τ := (e.part c).binding) renumbers_numbering e 0
  have hlast := subst_subst (τ := numbering) (e.part c).renumbers_binding e 0
  have hcommute := subst_congr fun q hq =>
    numbering_andThen_binding (c := e.part c) (lt_size_of_mem_slots hwords hq)
  rw [Nat.zero_sub, ← hcommute] at hlast
  rw [bind_eq_subst, hpart, numbered_eq_subst, hfirst, ← hlast, numbered_eq_subst, bind_eq_subst]

/-- The numbered expression has the same value, as long as no argument is missing. -/
theorem evaluate_numbered [Decimals] [Patterns] (hwords : e.requirements.anonymous < UInt64.size)
    (h : c.Supplies 0 e.placeholders) : e.numbered.evaluate host c = e.evaluate host c := by
  have hkeep : numbering.KeepsValues (fun _ => 0) c c 0 e.placeholders := by
    rintro ⟨n, p⟩ hq
    obtain ⟨v, hv⟩ := Option.isSome_iff_exists.1 (h (n, p) hq)
    show (p.atSlot n).supply (c.argument 0 (p.atSlot n)) = p.supply (c.argument n p)
    rw [Context.argument_atSlot (lt_size_of_mem_slots hwords hq), hv]
    rfl
  rw [numbered_eq_subst]
  exact outcome_subst host renumbers_numbering rfl hkeep

/-- `_ + _18446744073709551615`. -/
def itLast : Expr := it.binary (.arith .add) (.expr lastArg)

end Expr

end Deferred
