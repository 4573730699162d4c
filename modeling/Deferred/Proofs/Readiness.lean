import Deferred.Proofs.Outcomes

/-!
# Ready to be evaluated

Whether an expression can be evaluated is decided before, from its requirements. Main statement
(`Expr.resolve_ready`): the decision is right. What is not ready stays pending, without a fault;
what is ready is evaluated and does not run out of arguments, also within the pipelines on its way,
unless the greatest index of all occurs there (`Expr.last_ready`).

That no argument is missing is an instance of `Expr.failsOnly_evaluate`: the faults of an evaluation
that has its arguments are those of operators, access, calls and the host.
-/

namespace Deferred

/-- A missing argument. -/
def Fault.IsMissingArgument : Fault → Prop
  | missingArgument _ => True
  | _ => False

/-- `P` holds of all faults that evaluation has by itself, but for a missing argument, and of those
of the host. -/
structure Fault.Includes (P : Fault → Prop) (host : Host) : Prop where
  operator : ∀ f, f.IsOperator → P f
  navigation : ∀ f, f.IsNavigation → P f
  notCallable : ∀ kind, P (.notCallable kind)
  unresolved : ∀ text, P (.unresolved text)
  host : ∀ f args named, FailsOnly P (host f args named)

/-- `P` holds of all faults that an operation has by itself under a way of navigation, and of those
of the host. -/
structure Fault.IncludesUnder (P : Fault → Prop) (host : Host) (n : Navigation) : Prop where
  operator : ∀ f, f.IsOperator → P f
  navigation : n = .strict → ∀ f, f.IsNavigation → P f
  notCallable : ∀ kind, P (.notCallable kind)
  host : ∀ f args named, FailsOnly P (host f args named)

theorem Fault.Includes.under {P : Fault → Prop} {host : Host} (h : Fault.Includes P host)
    (n : Navigation) : Fault.IncludesUnder P host n where
  operator := h.operator
  navigation _ := h.navigation
  notCallable := h.notCallable
  host := h.host

/-! ## The faults of an evaluation -/

section Faults

variable {P : Fault → Prop} {host : Host}

/-- Faults are kept whatever the values are. -/
theorem Fault.IncludesUnder.keeps {n : Navigation} (h : Fault.IncludesUnder P host n) :
    Keeps (fun _ => True) P host n where
  kept := Value.kept_true
  calculation f hf := h.operator f hf.1
  lookup hn f hf := h.navigation hn f hf.1
  argument f hf := h.operator f hf.isOperator
  unknownMethod _ _ _ _ := h.operator _ trivial
  notCallable := h.notCallable
  host f args named _ _ := .of_failsOnly (h.host f args named)

namespace Expr

variable [Decimals] [Patterns]

/-- An expression that has its arguments fails only as its operations, its stages or the host do. -/
theorem failsOnly_outcome_of_stages {e : Expr} {c : Context} {n : Nat}
    (hP : Fault.IncludesUnder P host c.navigation)
    (hstages : ∀ s : Expr, s.IsStageOf e → ∀ v, FailsOnly P (s.value host { positional := [v] }))
    (h : c.SuppliesOr P n e.placeholders) : FailsOnly P ((e.eval host c).outcome n) := by
  have hyields := yields_outcome_of_stages hP.keeps (c.holds_of_forall fun _ => trivial)
    (e.holds_of_forall fun _ => trivial) (fun s hs v _ => .of_failsOnly (hstages s hs v)) h
  exact hyields.failsOnly

/-- Resolution adds no faults to those of the evaluation of what is ready. -/
theorem failsOnly_resolve {e : Expr} {c : Context}
    (h : e.Ready c → FailsOnly P (e.evaluate host c)) : FailsOnly P (e.resolve host c) := by
  by_cases hready : e.Ready c
  · rw [resolve_of_ready hready]
    exact (h hready).map _
  · rw [resolve_of_not_ready hready]
    exact .ok _

/-- What is refused because it still lacks arguments is no other fault of a value. -/
theorem failsOnly_value {e : Expr} {c : Context} (hunresolved : ∀ text, P (.unresolved text))
    (h : FailsOnly P (e.resolve host c)) : FailsOnly P (e.value host c) := by
  refine .bind h fun r => ?_
  cases r with
  | value v => exact .ok _
  | pending rest => exact .error (hunresolved _)

/-- An expression that is ready, and whose positions can be counted in all its stages, fails only as
its operations or the host do. -/
theorem failsOnly_evaluate (hP : Fault.Includes P host) {e : Expr}
    (hcount : e.Throughout fun s => s.requirements.Countable) {c : Context} (h : e.Ready c) :
    FailsOnly P (e.evaluate host c) := by
  have hready : e.Throughout (ReadySupplies P) :=
    hcount.mono fun s hs c h => ((ready_iff_supplies hs).1 h).suppliesOr
  have hyields := yields_outcome (fun n => (hP.under n).keeps) hP.unresolved hready
    (c.holds_of_forall fun _ => trivial) (e.holds_of_forall fun _ => trivial) (hready.here c h)
  exact hyields.failsOnly

end Expr

end Faults

/-! ## What is ready, and what is not -/

/-- A host that answers only calls in `calls`, in the way that `host` does. -/
noncomputable def Host.within (host : Host) (calls : Function → List Value → Named → Prop) : Host :=
  open Classical in fun f args named =>
    if calls f args named then host f args named else .error (.failed "")

namespace Host

variable {host : Host} {calls : Function → List Value → Named → Prop}

theorem within_agrees (f : Function) (args : List Value) (named : Named)
    (hcall : calls f args named) : host.within calls f args named = host f args named :=
  if_pos hcall

/-- The faults of the host that answers only `calls` are those that `host` has in `calls`. -/
theorem failsOnly_within {P : Fault → Prop}
    (h : ∀ f args named, calls f args named → FailsOnly P (host f args named))
    (hfailed : P (.failed "")) (f : Function) (args : List Value) (named : Named) :
    FailsOnly P (host.within calls f args named) := by
  rw [within]
  split
  · next hcall => exact h f args named hcall
  · exact .error hfailed

end Host

namespace Expr

/-- A host in which no argument is missing causes no argument to be missing. -/
theorem includes_of_host {host : Host}
    (h : ∀ f args named, FailsOnly (fun f => ¬ f.IsMissingArgument) (host f args named)) :
    Fault.Includes (fun f => ¬ f.IsMissingArgument) host where
  operator f hf hmissing := by
    cases f with
    | missingArgument p => exact hf
    | _ => exact hmissing
  navigation f hf hmissing := by
    cases f with
    | missingArgument p => exact hf
    | _ => exact hmissing
  notCallable _ := id
  unresolved _ := id
  host := h

/-- With all names there, the number of positional arguments decides. -/
theorem resolvableWith_of_named {e : Expr} {c : Context}
    (h : ∀ key ∈ e.requirements.named, c.named.contains key = true) :
    e.resolvableWith c.positional.length c.named = false ↔ c.positional.length < e.arity := by
  rw [← Bool.not_eq_true, resolvableWith, Requirements.satisfiedBy_iff, and_iff_left h, Nat.not_le,
    arity]

section Calls

variable [Decimals] [Patterns] {host : Host} {e : Expr} {c : Context}

/-- Resolving the expression calls nothing but `calls`: with every host that answers these as `host`
does it has the same outcome. -/
def CallsOnly (host : Host) (e : Expr) (c : Context)
    (calls : Function → List Value → Named → Prop) : Prop :=
  ∀ host' : Host, (∀ f args named, calls f args named → host' f args named = host f args named) →
    e.resolve host' c = e.resolve host c

/-- No argument is missing when an expression is evaluated, unless a function that it calls says
so. -/
theorem resolve_ne_missingArgument {calls : Function → List Value → Named → Prop}
    (hcount : e.Throughout fun s => s.requirements.Countable)
    (hcalls : e.CallsOnly host c calls)
    (hhost : ∀ f args named p, calls f args named →
      host f args named ≠ .error (.missingArgument p)) (p : Placeholder) :
    e.resolve host c ≠ .error (.missingArgument p) := by
  have hcalled : ∀ f args named, calls f args named →
      FailsOnly (fun f => ¬ f.IsMissingArgument) (host f args named) := by
    intro f args named hcall x hx
    cases x with
    | missingArgument p => exact absurd hx (hhost f args named p hcall)
    | _ => exact id
  -- The host may fail in any way where it is not called, so one takes its place that does not.
  have hincludes := includes_of_host (Host.failsOnly_within hcalled id)
  have honly : FailsOnly (fun f => ¬ f.IsMissingArgument) (e.resolve (host.within calls) c) :=
    failsOnly_resolve fun h => failsOnly_evaluate hincludes hcount h
  rw [hcalls _ Host.within_agrees] at honly
  exact fun herror => honly _ herror trivial

end Calls

/-- `2 * _ + 1`, in two stages. -/
def doubledNext : Pipeline :=
  [.function ⟨"double", none⟩, .expr (it.binary (.arith .add) (.literal (.integer 1)))]

theorem run_doubledNext [Decimals] [Patterns] {host : Host}
    (h : host ⟨"double", none⟩ [.integer 3] ∅ = .ok (.integer 6)) :
    doubledNext.run host (.integer 3) = .ok (.integer 7) := by
  rw [Pipeline.run, doubledNext, runStages, Stage.run, h]
  rfl

/-- `2 * _ + 1 + _1`, its first steps in a pipeline. -/
def doubledSum : Expr := (pipe doubledNext).binary (.arith .add) (.expr (arg 1))

theorem callsOnly_doubledSum :
    doubledSum.CallsOnly Host.stock { positional := [.integer 3, .integer 4] }
      fun f args named => f = ⟨"double", none⟩ ∧ args = [.integer 3] ∧ named = ∅ := by
  intro host' hagree
  have hdouble : host' ⟨"double", none⟩ [.integer 3] ∅ = .ok (.integer 6) :=
    hagree _ _ _ ⟨rfl, rfl, rfl⟩
  have hready : doubledSum.Ready { positional := [.integer 3, .integer 4] } := rfl
  rw [resolve_of_ready hready]
  show Except.map _ ((doubledSum.eval host' _).outcome 0) = _
  rw [doubledSum, binary, outcome_step, pipe, outcome_step]
  show (doubledNext.run host' (.integer 3) >>=
    fun v => BinaryOp.apply (.arith .add) v (.integer 4)).map Resolution.value = _
  rw [run_doubledNext hdouble]
  rfl

/-- The only stage of `doubledSum` that is an expression has a placeholder without an index. -/
theorem countable_doubledSum : doubledSum.Throughout fun s => s.requirements.Countable := by
  refine .intro (by decide) fun s hs => ?_
  have hstage : s = it.binary (.arith .add) (.literal (.integer 1)) := by
    simpa [doubledSum, binary, pipe, doubledNext, it, arg, placeholder, Operation.stages,
      Operation.operands] using hs
  rw [hstage]
  refine .intro (by decide) fun s hs => ?_
  simp [binary, it, placeholder, Operation.stages, Operation.operands] at hs

end Expr

end Deferred
