import Deferred.Proofs.Readiness

/-!
# Safe navigation extends strict navigation

Main statement (`Expr.resolve_safe_extends_strict`): where strict resolution gives something, safe
resolution gives the same, and where strict resolution fails for another reason than navigation, it
fails for the same reason.

The two resolutions walk through the expression side by side. They do the same until an access
fails; there the strict one ends, with a fault of navigation, and what the safe one does from then
on is its own matter. `SameUnless` says this of two outcomes, and it follows the way outcomes are
put together (`SameUnless.bind`), so nothing needs to be known of the safe walk after its first
absent value.
-/

namespace Deferred

/-! ## Outcomes that agree up to some faults -/

/-- The outcome `y` is `x`, unless `x` has a fault in `P`. -/
def SameUnless {α : Type} (P : Fault → Prop) (x y : Except Fault α) : Prop :=
  y = x ∨ ∃ f, x = .error f ∧ P f

namespace SameUnless

variable {α β : Type} {P : Fault → Prop}

theorem refl (x : Except Fault α) : SameUnless P x x := .inl rfl

theorem bind {x y : Except Fault α} {f g : α → Except Fault β} (hxy : SameUnless P x y)
    (hfg : ∀ a, SameUnless P (f a) (g a)) : SameUnless P (x >>= f) (y >>= g) := by
  rcases hxy with rfl | ⟨fault, rfl, hP⟩
  · cases y with
    | error fault => exact refl _
    | ok a => exact hfg a
  · exact .inr ⟨fault, rfl, hP⟩

theorem map {x y : Except Fault α} (hxy : SameUnless P x y) (f : α → β) :
    SameUnless P (x.map f) (y.map f) := by
  rcases hxy with rfl | ⟨fault, rfl, hP⟩
  · exact refl _
  · exact .inr ⟨fault, rfl, hP⟩

variable {x y : Except Fault α}

theorem eq_of_ok (hxy : SameUnless P x y) {a : α} (hx : x = .ok a) : y = .ok a := by
  rcases hxy with rfl | ⟨fault, herror, -⟩
  · exact hx
  · rw [hx] at herror
    cases herror

theorem eq_of_error (hxy : SameUnless P x y) {f : Fault} (hx : x = .error f) (hf : ¬ P f) :
    y = .error f := by
  rcases hxy with rfl | ⟨fault, herror, hP⟩
  · exact hx
  · rw [hx] at herror
    cases herror
    exact absurd hP hf

/-- If the second outcome is a fault, the first one is a fault, the same or one in `P`. -/
theorem exists_error (hxy : SameUnless P x y) {f : Fault} (hy : y = .error f) :
    ∃ g, x = .error g ∧ (g = f ∨ P g) := by
  rcases hxy with rfl | ⟨fault, herror, hP⟩
  · exact ⟨f, hy, .inl rfl⟩
  · exact ⟨fault, herror, .inr hP⟩

end SameUnless

/-! ## Strict and safe side by side -/

/-- Safe navigation differs from strict navigation only where access fails. -/
theorem Navigation.sameUnless_access {x : Except Fault Value}
    (h : FailsOnly Fault.IsNavigation x) :
    SameUnless Fault.IsNavigation (strict.access x) (safe.access x) := by
  cases x with
  | error f => exact .inr ⟨f, rfl, h f rfl⟩
  | ok v => exact .refl _

namespace Operation

theorem sameUnless_subject (v : Value) (op : Operation) :
    SameUnless Fault.IsNavigation (op.subject .strict v) (op.subject .safe v) := by
  cases op with
  | method name args named => exact Navigation.sameUnless_access (v.failsOnly_callee name)
  | _ => exact .refl _

/-- Of the operations only attributes and items navigate once their operands have values. -/
theorem sameUnless_onValues [Decimals] [Patterns] (host : Host) (v : Value) (op : Operation)
    (vs : List Value) :
    SameUnless Fault.IsNavigation (op.onValues host .strict v vs)
      (op.onValues host .safe v vs) := by
  cases op with
  | attr name => exact Navigation.sameUnless_access (v.failsOnly_attr name)
  | item key => exact Navigation.sameUnless_access (v.failsOnly_item _)
  | _ => exact .refl _

end Operation

namespace Expr

section Walk

variable [Decimals] [Patterns] {host : Host} {positional : List Value} {named : Named}

theorem sameUnless_mapM_eval {os : List Operand} {n : Nat}
    (he : ∀ e, .expr e ∈ os → ∀ n, SameUnless Fault.IsNavigation
      ((e.eval host ⟨positional, named, .strict⟩).outcome n)
      ((e.eval host ⟨positional, named, .safe⟩).outcome n)) :
    SameUnless Fault.IsNavigation
      ((os.mapM (Operand.eval host ⟨positional, named, .strict⟩)).outcome n)
      ((os.mapM (Operand.eval host ⟨positional, named, .safe⟩)).outcome n) := by
  induction os generalizing n with
  | nil => exact .refl _
  | cons o os ih =>
    rw [outcome_mapM_cons, outcome_mapM_cons]
    have ho : SameUnless Fault.IsNavigation
        ((o.eval host ⟨positional, named, .strict⟩).outcome n)
        ((o.eval host ⟨positional, named, .safe⟩).outcome n) := by
      cases o with
      | literal v => exact .refl _
      | expr e => exact he e List.mem_cons_self n
    refine .bind ho fun v => .bind ?_ fun vs => .refl _
    exact ih fun e hm => he e (List.mem_cons_of_mem _ hm)

/-- Strict and safe evaluation stay side by side up to the first access that fails. -/
theorem sameUnless_outcome (e : Expr) (n : Nat) :
    SameUnless Fault.IsNavigation
      ((e.eval host ⟨positional, named, .strict⟩).outcome n)
      ((e.eval host ⟨positional, named, .safe⟩).outcome n) := by
  induction e using Expr.ind generalizing n with
  | origin o =>
    rw [outcome_origin, outcome_origin]
    exact .refl _
  | step target op ht hop =>
    rw [outcome_step, outcome_step]
    refine .bind (ht n) fun v => .bind (op.sameUnless_subject v) fun w => ?_
    exact .bind (sameUnless_mapM_eval hop) fun vs => op.sameUnless_onValues host w vs

theorem sameUnless_resolve (e : Expr) :
    SameUnless Fault.IsNavigation (e.resolve host ⟨positional, named, .strict⟩)
      (e.resolve host ⟨positional, named, .safe⟩) := by
  -- Whether an argument is missing, and what then remains, is no matter of navigation.
  by_cases hready : e.resolvableWith positional.length named = true
  · rw [resolve, resolve, if_pos hready, if_pos hready]
    exact (sameUnless_outcome e 0).map _
  · rw [resolve, resolve, if_neg hready, if_neg hready]
    exact .refl _

end Walk

/-- Safe resolution gives the value, or what remains of the expression, that strict resolution
gives, and has its faults, but for those of navigation. It fails only where strict resolution
does. -/
theorem resolve_safe_extends_strict [Decimals] [Patterns] (host : Host) (e : Expr)
    (positional : List Value) (named : Named) :
    (∀ v, e.resolve host ⟨positional, named, .strict⟩ = .ok (.value v) →
      e.resolve host ⟨positional, named, .safe⟩ = .ok (.value v)) ∧
    (∀ r, e.resolve host ⟨positional, named, .strict⟩ = .ok (.pending r) →
      e.resolve host ⟨positional, named, .safe⟩ = .ok (.pending r)) ∧
    (∀ f, e.resolve host ⟨positional, named, .strict⟩ = .error f → ¬ f.IsNavigation →
      e.resolve host ⟨positional, named, .safe⟩ = .error f) ∧
    (∀ f, e.resolve host ⟨positional, named, .safe⟩ = .error f →
      ∃ g, e.resolve host ⟨positional, named, .strict⟩ = .error g ∧ (g = f ∨ g.IsNavigation)) := by
  have hsame : SameUnless Fault.IsNavigation (e.resolve host ⟨positional, named, .strict⟩)
      (e.resolve host ⟨positional, named, .safe⟩) := sameUnless_resolve e
  refine ⟨fun v => hsame.eq_of_ok, fun r => hsame.eq_of_ok, fun f => hsame.eq_of_error, ?_⟩
  exact fun f => hsame.exists_error

/-- A field over twice another field of one record. -/
def share : Expr :=
  ((arg 0).attr "part").binary (.arith .divide)
    (.expr (((arg 0).attr "half").apply ⟨"double", none⟩))

/-- A record for `share`. -/
def shareRecord (part half : Int64) : Value :=
  .object (Dict.ofList [("part", .integer part), ("half", .integer half)])

/-- With a record `share` is a number, without one it waits, and a zero ends both ways alike. On the
empty record the strict way ends at the first field; the safe way goes on and fails in the host. -/
theorem resolve_share_safe :
    share.resolve Host.stock ⟨[shareRecord 6 1], ∅, .safe⟩ = .ok (.value (.integer 3)) ∧
    share.resolve Host.stock ⟨[], ∅, .safe⟩ = .ok (.pending share) ∧
    share.resolve Host.stock ⟨[shareRecord 6 0], ∅, .safe⟩ = .error .divisionByZero ∧
    share.resolve Host.stock ⟨[.object ∅], ∅, .safe⟩ =
      .error (.type (.raised "double() needs a number")) ∧
    ∃ g, share.resolve Host.stock ⟨[.object ∅], ∅, .strict⟩ = .error g ∧
      (g = .type (.raised "double() needs a number") ∨ g.IsNavigation) := by
  have hvalue := (resolve_safe_extends_strict Host.stock share [shareRecord 6 1] ∅).1 (.integer 3)
  have hrest := (resolve_safe_extends_strict Host.stock share [] ∅).2.1 share
  have hfault := (resolve_safe_extends_strict Host.stock share [shareRecord 6 0] ∅).2.2.1
    .divisionByZero
  have hempty := (resolve_safe_extends_strict Host.stock share [.object ∅] ∅).2.2.2
    (.type (.raised "double() needs a number"))
  exact ⟨hvalue rfl, hrest rfl, hfault rfl id, rfl, hempty rfl⟩

end Expr

end Deferred
