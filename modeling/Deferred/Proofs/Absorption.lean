import Deferred.Proofs.PartialApplication

/-!
# Absence absorbs

What is recorded on an absent value is absent: attributes, items, calls, method calls and all
operators that do not compare. Each of these looks for absence before anything else, so one step is
a matter of its definition (`Operation.onValues_unset`), and a chain of any length is an induction.
All that can fail on the way are the operands, which are evaluated although their values do not
matter.

The comparisons answer on absence with a boolean, which makes them fit to ask whether there is
anything. Main statement: `Expr.absence_absorbs`.
-/

namespace Deferred

/-! ## One step -/

/-- Whether the operation leaves absence as it is: comparisons answer with a boolean, and anything
may come out of functions. -/
def Operation.absorbs : Operation → Bool
  | binary op _ => !op.isComparison
  | reflected op _ => !op.isComparison
  | apply _ => false
  | unary _ | attr _ | item _ | call _ _ | method _ _ _ => true

@[simp] theorem Navigation.access_unset (n : Navigation) : n.access (.ok .unset) = .ok .unset := by
  cases n <;> rfl

theorem Operation.subject_unset (n : Navigation) (op : Operation) :
    op.subject n .unset = .ok .unset := by
  cases op with
  | method name args named => exact n.access_unset
  | _ => rfl

section Operators

variable (op : BinaryOp) (v : Value)

@[simp] theorem Value.unset_beq : (Value.unset == v) = v.isUnset := by
  cases v <;> rfl

@[simp] theorem Value.beq_unset : (v == Value.unset) = v.isUnset := by
  cases v <;> rfl

@[simp] theorem BinaryOp.apply_unset_left [Decimals] :
    op.apply .unset v = .ok (op.applyAbsent .unset v) := rfl

@[simp] theorem BinaryOp.apply_unset_right [Decimals] :
    op.apply v .unset = .ok (op.applyAbsent v .unset) := by
  rw [apply, Value.isUnset, Bool.or_true, if_pos rfl]

variable {op}

theorem BinaryOp.applyAbsent_of_not_comparison (h : op.isComparison = false) (w : Value) :
    op.applyAbsent v w = .unset := by
  cases op with
  | equal => cases h
  | notEqual => cases h
  | order o => cases h
  | arith o => rfl
  | bits o => rfl
  | shift o => rfl

end Operators

/-- An operation that absorbs works on absence without looking at its operands. -/
theorem Operation.onValues_unset [Decimals] [Patterns] {op : Operation} (h : op.absorbs = true)
    (host : Host) (n : Navigation) (vs : List Value) :
    op.onValues host n .unset vs = .ok .unset := by
  cases op with
  | binary op right =>
    have hop : op.isComparison = false := Bool.not_eq_true' _ ▸ h
    rw [onValues, BinaryOp.apply_unset_left, BinaryOp.applyAbsent_of_not_comparison _ hop]
  | reflected op left =>
    have hop : op.isComparison = false := Bool.not_eq_true' _ ▸ h
    rw [onValues, BinaryOp.apply_unset_right, BinaryOp.applyAbsent_of_not_comparison _ hop]
  | unary op => rfl
  | attr name => exact n.access_unset
  | item key => exact n.access_unset
  | call args named => rfl
  | method name args named => rfl
  | apply target => cases h

/-! ## Operands -/

section Chains

variable [Decimals] [Patterns] (host : Host) (c : Context)

/-- Every one of these operands has a value, the first of them counting from the argument at `n`. -/
def operandsResolve : Nat → List Operand → Prop
  | _, [] => True
  | n, o :: os =>
    (∃ v, (o.eval host c).outcome n = .ok v) ∧ operandsResolve (n + width o.placeholders) os

variable {host c}

theorem operandsResolve_append {n : Nat} {os os' : List Operand} :
    operandsResolve host c n (os ++ os') ↔
      operandsResolve host c n os ∧ operandsResolve host c (n + width (placeholdersOf os)) os' := by
  induction os generalizing n with
  | nil => exact (and_iff_right trivial).symm
  | cons o os ih =>
    rw [List.cons_append, operandsResolve, operandsResolve, ih, width_placeholdersOf_cons,
      and_assoc, Nat.add_assoc]

theorem outcome_mapM_of_operandsResolve {n : Nat} {os : List Operand}
    (h : operandsResolve host c n os) :
    ∃ vs, (os.mapM (Operand.eval host c)).outcome n = .ok vs := by
  induction os generalizing n with
  | nil => exact ⟨[], rfl⟩
  | cons o os ih =>
    obtain ⟨⟨v, hv⟩, hos⟩ := h
    obtain ⟨vs, hvs⟩ := ih hos
    refine ⟨v :: vs, ?_⟩
    rw [outcome_mapM_cons, hv]
    show (os.mapM (Operand.eval host c)).outcome (n + width o.placeholders) >>= _ = _
    rw [hvs]
    rfl

/-! ## Chains -/

/-- One more operation that absorbs, on an absent value, only has to have its operands. -/
theorem Expr.outcome_step_unset {e : Expr} {op : Operation} {n : Nat}
    (he : (e.eval host c).outcome n = .ok .unset) (hop : op.absorbs = true)
    (hos : operandsResolve host c (n + width e.placeholders) op.operands) :
    ((e.step op).eval host c).outcome n = .ok .unset := by
  obtain ⟨vs, hvs⟩ := outcome_mapM_of_operandsResolve hos
  rw [outcome_step, he]
  show op.subject c.navigation .unset >>= _ = _
  rw [Operation.subject_unset]
  show (op.operands.mapM (Operand.eval host c)).outcome (n + width e.placeholders) >>= _ = _
  rw [hvs]
  exact Operation.onValues_unset hop host c.navigation vs

theorem Expr.outcome_steps_unset {e : Expr} {ops : List Operation} {n : Nat}
    (he : (e.eval host c).outcome n = .ok .unset) (hops : ∀ op ∈ ops, op.absorbs = true)
    (hos : operandsResolve host c (n + width e.placeholders) (ops.flatMap Operation.operands)) :
    ((e.steps ops).eval host c).outcome n = .ok .unset := by
  induction ops generalizing e with
  | nil => exact he
  | cons op ops ih =>
    rw [List.forall_mem_cons] at hops
    rw [List.flatMap_cons, operandsResolve_append] at hos
    have hwidth : width (e.step op).placeholders =
        width e.placeholders + width (placeholdersOf op.operands) := by
      rw [placeholders_step, width_append]
    show (((e.step op).steps ops).eval host c).outcome n = .ok .unset
    apply ih (outcome_step_unset he hops.1 hos.1) hops.2
    rw [hwidth, ← Nat.add_assoc]
    exact hos.2

end Chains

/-- A chain that begins with an absent value ends with one, of whatever operations that absorb, in
either way of navigation, if its operands have values. The operators have a value wherever one side
is absent: equality asks whether the other side is absent too, nothing stands in an order to what is
absent, and every other operator leaves it absent. -/
theorem Expr.absence_absorbs [Decimals] [Patterns] (host : Host) :
    (∀ (c : Context) (e : Expr) (ops : List Operation), e.resolve host c = .ok (.value .unset) →
      (∀ op ∈ ops, op.absorbs = true) →
      operandsResolve host c (width e.placeholders) (ops.flatMap Operation.operands) →
      (e.steps ops).resolve host c = .ok (.value .unset)) ∧
    ∀ v : Value,
      (BinaryOp.equal.apply .unset v = .ok (.boolean v.isUnset) ∧
        BinaryOp.equal.apply v .unset = .ok (.boolean v.isUnset)) ∧
      (BinaryOp.notEqual.apply .unset v = .ok (.boolean !v.isUnset) ∧
        BinaryOp.notEqual.apply v .unset = .ok (.boolean !v.isUnset)) ∧
      (∀ o : OrderOp, (BinaryOp.order o).apply .unset v = .ok (.boolean false) ∧
        (BinaryOp.order o).apply v .unset = .ok (.boolean false)) ∧
      ∀ op : BinaryOp, op.isComparison = false →
        op.apply .unset v = .ok .unset ∧ op.apply v .unset = .ok .unset := by
  constructor
  · intro c e ops he hops hos
    rw [resolve_eq_value_iff] at he ⊢
    apply outcome_steps_unset he hops
    rw [Nat.zero_add]
    exact hos
  · intro v
    refine ⟨?equal, ?notEqual, ?order, ?other⟩
    case equal => simp [BinaryOp.applyAbsent]
    case notEqual => simp [BinaryOp.applyAbsent]
    case order => simp [BinaryOp.applyAbsent]
    case other =>
      intro op hop
      simp [BinaryOp.applyAbsent_of_not_comparison _ hop]

/-- `.a[_] / 0` and so on: one operation of every kind that absorbs, with operands that hardly suit
any value. -/
def absorbingChain : List Operation :=
  [.attr "a", .item (.expr .it), .binary (.arith .divide) (.literal (.integer 0)),
    .reflected (.shift .left) (.literal .null), .unary .invert,
    .method "upper" [.literal .null] [("k", .expr (.arg 0))], .call [.expr .it] []]

/-- All of the chain is absent on an absent argument, strictly as well as safely, and absence plus
one is absent. -/
theorem Expr.absence_absorbs_chain :
    (Expr.it.steps absorbingChain).resolve Host.stock
        ⟨[.unset, .integer 1, .null], ∅, .strict⟩ = .ok (.value .unset) ∧
      (Expr.it.steps absorbingChain).resolve Host.stock
        ⟨[.unset, .integer 1, .null], ∅, .safe⟩ = .ok (.value .unset) ∧
      (BinaryOp.arith .add).apply .unset (.integer 1) = .ok .unset := by
  obtain ⟨hchains, hoperators⟩ := Expr.absence_absorbs Host.stock
  refine ⟨hchains _ _ _ rfl (by decide) ?_, hchains _ _ _ rfl (by decide) ?_,
    ((hoperators (.integer 1)).2.2.2 (.arith .add) rfl).1⟩
  · exact ⟨⟨_, rfl⟩, ⟨_, rfl⟩, ⟨_, rfl⟩, ⟨_, rfl⟩, ⟨_, rfl⟩, ⟨_, rfl⟩, trivial⟩
  · exact ⟨⟨_, rfl⟩, ⟨_, rfl⟩, ⟨_, rfl⟩, ⟨_, rfl⟩, ⟨_, rfl⟩, ⟨_, rfl⟩, trivial⟩

end Deferred
