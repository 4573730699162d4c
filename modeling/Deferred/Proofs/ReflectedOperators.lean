import Deferred.Expr.Render
import Deferred.Proofs.PartialApplication

/-!
# Reflected operators

`v op e` can be recorded in two ways: on `e`, as an operator with its value on the right, or on `v`,
with `e` as an operand. The two expressions are different trees, and evaluation, partial application
and rendering meet their parts in a different order; but the only placeholders are those of `e`, so
nothing comes of it.

Two expressions are interchangeable (`Expr.Interchangeable`) if they look alike and need the same,
and if in every context they have the same outcome or leave expressions that are interchangeable
again. That is a greatest fixed point: a relation that is kept by one resolution is enough to show
it, whatever the number of resolutions that follow.

Main statement: `Expr.reflected_agrees`.
-/

namespace Deferred

/-! ## Interchangeable expressions -/

/-- Two resolutions agree up to `R`: they have the same value or the same fault, or they leave
expressions that `R` relates. -/
inductive Resolution.Agrees (R : Expr → Expr → Prop) :
    Except Fault Resolution → Except Fault Resolution → Prop where
  | value (v : Value) : Agrees R (.ok (.value v)) (.ok (.value v))
  | fault (f : Fault) : Agrees R (.error f) (.error f)
  | pending {e e' : Expr} (h : R e e') : Agrees R (.ok (.pending e)) (.ok (.pending e'))

theorem Resolution.Agrees.mono {R S : Expr → Expr → Prop} {x y : Except Fault Resolution}
    (h : Agrees R x y) (hRS : ∀ e e', R e e' → S e e') : Agrees S x y := by
  cases h with
  | value v => exact .value v
  | fault f => exact .fault f
  | pending h => exact .pending (hRS _ _ h)

theorem Resolution.agrees_map_value (R : Expr → Expr → Prop) (x : Except Fault Value) :
    Agrees R (x.map .value) (x.map .value) := by
  cases x with
  | ok v => exact .value v
  | error f => exact .fault f

namespace Expr

section Resolutions

variable [Decimals] [Patterns]

/-- What is seen of two expressions before and after one resolution is the same up to `R`. -/
structure LookAlike (host : Host) (R : Expr → Expr → Prop) (e e' : Expr) : Prop where
  render_eq : e.render = e'.render
  requirements_eq : e.requirements = e'.requirements
  resolve : ∀ c, Resolution.Agrees R (e.resolve host c) (e'.resolve host c)

/-- Two expressions that look alike in any number of resolutions. -/
def Interchangeable (host : Host) (e e' : Expr) : Prop :=
  ∃ R : Expr → Expr → Prop, (∀ a b, R a b → LookAlike host R a b) ∧ R e e'

/-- Interchangeable expressions look alike, and what they leave is interchangeable. -/
theorem Interchangeable.lookAlike {host : Host} {e e' : Expr} (h : Interchangeable host e e') :
    LookAlike host (Interchangeable host) e e' := by
  obtain ⟨R, hR, hee'⟩ := h
  obtain ⟨hrender, hrequirements, hresolve⟩ := hR e e' hee'
  refine ⟨hrender, hrequirements, ?_⟩
  intro c
  exact (hresolve c).mono fun a b hab => ⟨R, hR, hab⟩

end Resolutions

/-! ## The two ways to record an operator -/

/-- `v op e`, recorded on `e` and recorded on `v`. -/
inductive Mirrors : Expr → Expr → Prop where
  | intro (op : BinaryOp) (v : Value) (e : Expr) :
    Mirrors (e.reflected op (.literal v)) ((bound v).binary op (.expr e))

/-- Expressions that need the same are ready in the same contexts. -/
theorem ready_of_requirements_eq {e e' : Expr} (h : e.requirements = e'.requirements)
    (c : Context) : e.Ready c ↔ e'.Ready c := by
  rw [ready_iff, ready_iff, h]

/-- As many arguments go into expressions that need the same. -/
theorem part_of_requirements_eq {e e' : Expr} (h : e.requirements = e'.requirements) (c : Context) :
    e.part c = e'.part c := by
  rw [part, part, supplied, supplied, h]

section Mirrors

variable (op : BinaryOp) (v : Value) (e : Expr)

theorem placeholders_reflected :
    (e.reflected op (.literal v)).placeholders = e.placeholders := by
  rw [reflected, placeholders_step]
  exact List.append_nil _

theorem placeholders_binary_bound :
    ((bound v).binary op (.expr e)).placeholders = e.placeholders := by
  rw [binary, placeholders_step]
  exact List.append_nil _

theorem requirements_reflected :
    (e.reflected op (.literal v)).requirements = e.requirements := by
  rw [requirements, placeholders_reflected, requirements]

theorem requirements_binary_bound :
    ((bound v).binary op (.expr e)).requirements = e.requirements := by
  rw [requirements, placeholders_binary_bound, requirements]

/-- Partial application passes by the operator and its known side. -/
theorem bind_reflected (c : Context) :
    (e.reflected op (.literal v)).bind c = (e.bind c).reflected op (.literal v) := by
  rw [bind_eq_subst, bind_eq_subst, part_of_requirements_eq (requirements_reflected op v e),
    reflected, subst_step]
  rfl

theorem bind_binary_bound (c : Context) :
    ((bound v).binary op (.expr e)).bind c = (bound v).binary op (.expr (e.bind c)) := by
  rw [bind_eq_subst, bind_eq_subst, part_of_requirements_eq (requirements_binary_bound op v e),
    binary, subst_step]
  rfl

theorem evaluate_reflected [Decimals] [Patterns] (host : Host) (c : Context) :
    (e.reflected op (.literal v)).evaluate host c =
      e.evaluate host c >>= fun w => op.apply v w := by
  show ((e.step (.reflected op (.literal v))).eval host c).outcome 0 = _
  rw [outcome_step]
  rfl

theorem evaluate_binary_bound [Decimals] [Patterns] (host : Host) (c : Context) :
    ((bound v).binary op (.expr e)).evaluate host c =
      e.evaluate host c >>= fun w => op.apply v w := by
  show (((bound v).step (.binary op (.expr e))).eval host c).outcome 0 = _
  rw [outcome_step]
  show (List.mapM (Operand.eval host c) [.expr e]).outcome 0 >>= _ = _
  rw [outcome_mapM_cons]
  show ((e.eval host c).outcome 0 >>= _) >>= _ = (e.eval host c).outcome 0 >>= _
  cases (e.eval host c).outcome 0 <;> rfl

end Mirrors

theorem Mirrors.lookAlike [Decimals] [Patterns] {a b : Expr} (h : Mirrors a b) (host : Host) :
    LookAlike host Mirrors a b := by
  obtain ⟨op, v, e⟩ := h
  refine ⟨rfl, ?_, ?_⟩
  · rw [requirements_reflected, requirements_binary_bound]
  · intro c
    have hreflected := ready_of_requirements_eq (requirements_reflected op v e) c
    have hbinary := ready_of_requirements_eq (requirements_binary_bound op v e) c
    by_cases hready : e.Ready c
    · rw [resolve_of_ready (hreflected.2 hready), resolve_of_ready (hbinary.2 hready),
        evaluate_reflected, evaluate_binary_bound]
      exact Resolution.agrees_map_value _ _
    · rw [resolve_of_not_ready (mt hreflected.1 hready),
        resolve_of_not_ready (mt hbinary.1 hready), bind_reflected, bind_binary_bound]
      exact .pending (.intro op v (e.bind c))

/-- An operator with a known value on its left means the same on whichever side it is recorded: the
texts are the same, the same arguments are needed, and in every context there is the same value or
the same fault, or what remains is interchangeable, in all contexts that follow. -/
theorem reflected_agrees [Decimals] [Patterns] (host : Host) (op : BinaryOp) (v : Value)
    (e : Expr) :
    (e.reflected op (.literal v)).render = ((bound v).binary op (.expr e)).render ∧
      (e.reflected op (.literal v)).requirements =
        ((bound v).binary op (.expr e)).requirements ∧
      ∀ c, Resolution.Agrees (Interchangeable host)
        ((e.reflected op (.literal v)).resolve host c)
        (((bound v).binary op (.expr e)).resolve host c) := by
  have hinterchangeable : Interchangeable host (e.reflected op (.literal v))
      ((bound v).binary op (.expr e)) :=
    ⟨Mirrors, fun a b hab => hab.lookAlike host, .intro op v e⟩
  obtain ⟨hrender, hrequirements, hresolve⟩ := hinterchangeable.lookAlike
  exact ⟨hrender, hrequirements, hresolve⟩

end Expr

end Deferred
