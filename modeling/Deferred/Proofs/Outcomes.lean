import Deferred.Proofs.Faults
import Deferred.Proofs.PartialApplication

/-!
# What evaluation keeps

`Keeps P Q host n` says that a step of an evaluation makes of values with the property `P` nothing
but values with `P` and faults with the property `Q`. Then a whole evaluation does so, of an
expression whose own values have `P` with arguments that have it (`Expr.yields_outcome`), and what
resolution leaves pending has values with `P` as well (`Expr.yields_resolve`). The steps are looked
at one by one in `Deferred.Proofs.Faults`; here they are put together, by induction over expressions
and over the stages of their pipelines.
-/

namespace Deferred

/-! ## Where the values of an evaluation come from -/

section Sources

variable {P : Value → Prop}

/-- The values written in an expression have the property `P`. -/
inductive Expr.Holds (P : Value → Prop) : Expr → Prop where
  | placeholder (p : Placeholder) : Holds P (.origin (.placeholder p))
  | bound {v : Value} (h : P v) : Holds P (.origin (.bound v))
  | step {target : Expr} {op : Operation} (htarget : Holds P target)
    (hliteral : ∀ v, .literal v ∈ op.operands → P v)
    (hoperand : ∀ e, .expr e ∈ op.operands → Holds P e)
    (hstage : ∀ e, .expr e ∈ op.stages → Holds P e) : Holds P (.step target op)

/-- The arguments in a context have the property `P`. -/
structure Context.Holds (P : Value → Prop) (c : Context) : Prop where
  positional : ∀ v ∈ c.positional, P v
  named : ∀ v ∈ c.named.values, P v

/-- What an expression resolves to has the property `P`. -/
def Resolution.Holds (P : Value → Prop) : Resolution → Prop
  | value v => P v
  | pending rest => rest.Holds P

theorem Expr.holds_of_forall (h : ∀ v, P v) (e : Expr) : e.Holds P := by
  induction e using Expr.ind with
  | origin o =>
    cases o with
    | placeholder p => exact .placeholder p
    | bound v => exact .bound (h v)
  | step target op ht hop hst => exact .step ht (fun v _ => h v) hop hst

theorem Context.holds_of_forall (h : ∀ v, P v) (c : Context) : c.Holds P where
  positional v _ := h v
  named v _ := h v

theorem Expr.IsStageOf.holds {s e : Expr} (hs : s.IsStageOf e) (he : e.Holds P) : s.Holds P := by
  induction hs with
  | here h =>
    cases he with
    | step ht hlit hop hst => exact hst _ h
  | target hs ih =>
    cases he with
    | step ht hlit hop hst => exact ih ht
  | operand h hs ih =>
    cases he with
    | step ht hlit hop hst => exact ih (hop _ h)

variable {c : Context}

/-- A single argument, as the stages of a pipeline have it. -/
theorem Context.holds_single {v : Value} (h : P v) : ({ positional := [v] } : Context).Holds P where
  positional := List.forall_mem_singleton.2 h
  named := List.forall_mem_nil _

theorem Context.Holds.argument (hc : c.Holds P) {n : Nat} {p : Placeholder} {v : Value}
    (h : c.argument n p = some v) : P v := by
  cases p with
  | anonymous => exact hc.positional v (List.mem_of_getElem? h)
  | indexed i => exact hc.positional v (List.mem_of_getElem? h)
  | named key => exact hc.named v (Dict.mem_values_iff.2 ⟨key, h⟩)

/-! ### What remains pending -/

theorem mem_substOperands {σ : Substitution} {n : Nat} {o : Operand} {os : List Operand}
    (h : o ∈ substOperands σ n os) : ∃ o' ∈ os, ∃ k, o = o'.subst σ k := by
  induction os generalizing n with
  | nil => cases h
  | cons o' os ih =>
    rcases List.mem_cons.1 h with rfl | h
    · exact ⟨o', List.mem_cons_self, n, rfl⟩
    · obtain ⟨o'', ho'', k, hk⟩ := ih h
      exact ⟨o'', List.mem_cons_of_mem _ ho'', k, hk⟩

theorem Operation.stages_withOperands (op : Operation) (os : List Operand) :
    (op.withOperands os).stages = op.stages := by
  unfold withOperands
  split <;> rfl

/-- A substitution that puts in values with `P` keeps to such values. -/
theorem Expr.Holds.subst {σ : Substitution} (hσ : ∀ n p v, σ n p = .bound v → P v) {e : Expr}
    (he : e.Holds P) (n : Nat) : (e.subst σ n).Holds P := by
  induction he generalizing n with
  | placeholder p =>
    rw [subst_origin]
    show (Expr.origin (σ n p)).Holds P
    cases hp : σ n p with
    | placeholder q => exact .placeholder q
    | bound v => exact .bound (hσ n p v hp)
  | bound h => exact .bound h
  | @step target op ht hlit hop hst iht ihop ihst =>
    rw [subst_step]
    -- The operands are those from before, each after the substitution; the stages stay.
    have hoperands := Operation.operands_withOperands
      (length_substOperands σ (n + width target.placeholders) op.operands)
    refine .step (iht n) (fun v hv => ?_) (fun e he => ?_) fun e he => ?_
    · rw [hoperands] at hv
      obtain ⟨o, ho, k, heq⟩ := mem_substOperands hv
      cases o with
      | literal w =>
        cases heq
        exact hlit v ho
      | expr e => cases heq
    · rw [hoperands] at he
      obtain ⟨o, ho, k, heq⟩ := mem_substOperands he
      cases o with
      | literal w => cases heq
      | expr e' =>
        cases heq
        exact ihop e' ho k
    · rw [Operation.stages_withOperands] at he
      exact hst e he

/-- What partial application leaves holds values of the expression and arguments. -/
theorem Expr.Holds.bind {e : Expr} (he : e.Holds P) (hc : c.Holds P) : (e.bind c).Holds P := by
  have hpart : (e.part c).Holds P := {
    positional := fun v hv => hc.positional v (List.mem_of_mem_take hv)
    named := hc.named }
  rw [bind_eq_subst]
  refine he.subst (fun n p v h => ?_) 0
  rw [Context.binding] at h
  split at h
  · next w hw =>
    cases h
    exact hpart.argument hw
  · cases h

end Sources

/-! ## Steps that keep what they work on -/

/-- All that a step of an evaluation makes of values with `P` under a way of navigation are values
with `P` and faults with `Q`, also if the step is a call of the host. -/
structure Keeps (P : Value → Prop) (Q : Fault → Prop) (host : Host) (n : Navigation) : Prop where
  kept : Value.Kept P
  calculation : ∀ f, f.IsCalculation → Q f
  /-- Safe navigation has no such faults. -/
  lookup : n = .strict → ∀ f, f.IsLookup → Q f
  argument : ∀ f, f.IsArgument → Q f
  unknownMethod : ∀ v name, P (.method v name) → Builtin.has v name = false →
    Q (.type (.unknownMethod name v.kind))
  notCallable : ∀ kind, Q (.notCallable kind)
  host : ∀ f args named, (∀ v ∈ args, P v) → (∀ v ∈ named.values, P v) →
    Yields P Q (host f args named)

variable {P : Value → Prop} {Q : Fault → Prop} {host : Host}

/-- Safe navigation gives absence in place of a fault. -/
theorem Navigation.yields_access {n : Navigation} (hP : Value.Kept P) {x : Except Fault Value}
    (hx : Yields P Fault.IsLookup x) (hQ : n = .strict → ∀ f, f.IsLookup → Q f) :
    Yields P Q (n.access x) := by
  cases n with
  | strict => exact hx.mono (hQ rfl)
  | safe =>
    cases x with
    | error f => exact .ok (hP.plain _ trivial)
    | ok v => exact .ok (hx.value v rfl)

section Steps

variable {n : Navigation} (h : Keeps P Q host n)

include h

theorem yields_call [Patterns] {v : Value} (hv : P v) {args : List Value} (hargs : ∀ w ∈ args, P w)
    {named : Named} (hnamed : ∀ w ∈ named.values, P w) : Yields P Q (v.call host args named) := by
  cases v with
  | unset => exact .ok hv
  | function f => exact h.host f args named hargs hnamed
  | method receiver name =>
    have hreceiver := h.kept.receiver _ _ hv
    refine (Builtin.yields_invoke h.kept hreceiver name hargs hnamed).mono fun f hf => ?_
    rcases hf with hf | ⟨hhas, rfl⟩
    · exact h.argument f hf
    · exact h.unknownMethod receiver name hv hhas
  | _ => exact .error (h.notCallable _)

theorem yields_subject {v : Value} (hv : P v) (op : Operation) : Yields P Q (op.subject n v) := by
  cases op with
  | method name args named =>
    exact Navigation.yields_access h.kept (Value.yields_callee h.kept hv name) h.lookup
  | _ => exact .ok hv

theorem yields_runStages [Decimals] [Patterns] {stages : List Stage}
    (hstages : ∀ s, .expr s ∈ stages → ∀ v, P v → Yields P Q (s.value host { positional := [v] }))
    {v : Value} (hv : P v) : Yields P Q (runStages host v stages) := by
  induction stages generalizing v with
  | nil => exact .ok hv
  | cons s ss ih =>
    refine .bind ?_ fun w hw => ih (fun e he => hstages e (List.mem_cons_of_mem _ he)) hw
    cases s with
    | function f => exact h.host f [v] ∅ (List.forall_mem_singleton.2 hv) (List.forall_mem_nil _)
    | expr e =>
      rw [Stage.run_expr]
      exact hstages e List.mem_cons_self v hv

/-- An operation works on its subject and the values of its operands; a pipeline moreover on what
its stages make of its subject. -/
theorem yields_onValues [Decimals] [Patterns] {op : Operation}
    (hstages : ∀ s, .expr s ∈ op.stages → ∀ v, P v →
      Yields P Q (s.value host { positional := [v] }))
    {v : Value} (hv : P v) {vs : List Value} (hvs : ∀ w ∈ vs, P w) :
    Yields P Q (op.onValues host n v vs) := by
  have hhead : P (vs.headD .unset) := by
    cases vs with
    | nil => exact h.kept.plain _ trivial
    | cons w ws => exact hvs w List.mem_cons_self
  have hargs : ∀ k, ∀ w ∈ vs.take k, P w := fun k w hw => hvs w (List.mem_of_mem_take hw)
  have hnamed : ∀ (keys : List String) (k : Nat),
      ∀ w ∈ (Dict.ofList (keys.zip (vs.drop k))).values, P w := by
    intro keys k w hw
    obtain ⟨key, hkey⟩ := Dict.mem_values_iff.1 hw
    have hpair := Dict.mem_of_get?_ofList hkey
    exact hvs w (List.mem_of_mem_drop (List.of_mem_zip hpair).2)
  cases op with
  | binary op right => exact (op.yields_apply h.kept hv hhead).mono h.calculation
  | reflected op left => exact (op.yields_apply h.kept hhead hv).mono h.calculation
  | unary op => exact (op.yields_apply h.kept v).mono h.calculation
  | attr name => exact Navigation.yields_access h.kept (Value.yields_attr h.kept hv name) h.lookup
  | item key => exact Navigation.yields_access h.kept (Value.yields_item h.kept hv _) h.lookup
  | call args named => exact yields_call h hv (hargs _) (hnamed _ _)
  | method name args named => exact yields_call h hv (hargs _) (hnamed _ _)
  | apply target =>
    cases target with
    | function f => exact h.host f [v] ∅ (List.forall_mem_singleton.2 hv) (List.forall_mem_nil _)
    | pipeline stages => exact yields_runStages h hstages hv

end Steps

/-! ## Evaluations -/

/-- The context has an argument for each of these placeholders, whose first number is `n`, or the
lack of it is a fault with `Q`. -/
def Context.SuppliesOr (Q : Fault → Prop) (c : Context) (n : Nat) (ps : List Placeholder) : Prop :=
  ∀ q ∈ slots n ps, c.argument q.1 q.2 = none → Q (.missingArgument q.2)

namespace Context

variable {c : Context} {n : Nat} {ps qs : List Placeholder}

theorem suppliesOr_append :
    c.SuppliesOr Q n (ps ++ qs) ↔ c.SuppliesOr Q n ps ∧ c.SuppliesOr Q (n + width ps) qs := by
  simp only [SuppliesOr, slots_append, List.forall_mem_append]

theorem Supplies.suppliesOr (h : c.Supplies n ps) : c.SuppliesOr Q n ps := by
  intro q hq hnone
  have hsome := h q hq
  rw [hnone] at hsome
  cases hsome

theorem suppliesOr_of_forall (h : ∀ p, Q (.missingArgument p)) : c.SuppliesOr Q n ps :=
  fun q _ _ => h q.2

end Context

variable [Decimals] [Patterns]

/-- Operands have values with `P` if each of them does. -/
theorem yields_mapM_eval {c : Context} {os : List Operand} {n : Nat}
    (hliteral : ∀ v, .literal v ∈ os → P v)
    (hexpr : ∀ e, .expr e ∈ os → ∀ n, c.SuppliesOr Q n e.placeholders →
      Yields P Q ((e.eval host c).outcome n))
    (h : c.SuppliesOr Q n (placeholdersOf os)) :
    Yields (fun vs => ∀ v ∈ vs, P v) Q ((os.mapM (Operand.eval host c)).outcome n) := by
  induction os generalizing n with
  | nil => exact .ok (List.forall_mem_nil _)
  | cons o os ih =>
    rw [placeholdersOf, List.flatMap_cons, Context.suppliesOr_append] at h
    have ho : Yields P Q ((o.eval host c).outcome n) := by
      cases o with
      | literal v => exact .ok (hliteral v List.mem_cons_self)
      | expr e => exact hexpr e List.mem_cons_self n h.1
    have hos := ih (fun v hv => hliteral v (List.mem_cons_of_mem _ hv))
      (fun e he => hexpr e (List.mem_cons_of_mem _ he)) h.2
    rw [outcome_mapM_cons]
    exact .bind ho fun v hv => .bind hos fun vs hvs => .ok (List.forall_mem_cons.2 ⟨hv, hvs⟩)

namespace Expr

/-- Evaluation keeps what its steps keep, provided that the stages of pipelines do. -/
theorem yields_outcome_of_stages {e : Expr} {c : Context} {n : Nat}
    (h : Keeps P Q host c.navigation) (hc : c.Holds P) (he : e.Holds P)
    (hstages : ∀ s : Expr, s.IsStageOf e → ∀ v, P v →
      Yields P Q (s.value host { positional := [v] }))
    (hsup : c.SuppliesOr Q n e.placeholders) : Yields P Q ((e.eval host c).outcome n) := by
  induction he generalizing n with
  | placeholder p =>
    rw [outcome_origin, Context.valueOf]
    cases hv : c.argument n p with
    | some v => exact .ok (hc.argument hv)
    | none => exact .error (hsup (n, p) List.mem_cons_self hv)
  | bound hv =>
    rw [outcome_origin]
    exact .ok hv
  | @step target op ht hlit hop hst iht ihop ihst =>
    rw [Expr.placeholders_step, Context.suppliesOr_append] at hsup
    rw [outcome_step]
    have htarget := iht (fun s hs => hstages s (.target hs)) hsup.1
    have hoperands := yields_mapM_eval hlit
      (fun e he n => ihop e he (fun s hs => hstages s (.operand he hs))) hsup.2
    refine .bind htarget fun v hv => .bind (yields_subject h hv op) fun w hw => ?_
    exact .bind hoperands fun vs hvs =>
      yields_onValues h (fun s hs => hstages s (.here hs)) hw hvs

/-- Resolution either evaluates or puts in arguments. -/
theorem yields_resolve_of_outcome {e : Expr} {c : Context} (hc : c.Holds P) (he : e.Holds P)
    (h : e.Ready c → Yields P Q ((e.eval host c).outcome 0)) :
    Yields (Resolution.Holds P) Q (e.resolve host c) := by
  by_cases hready : e.Ready c
  · rw [resolve_of_ready hready]
    show Yields _ _ (((e.eval host c).outcome 0).map _)
    have hvalue := h hready
    cases hx : (e.eval host c).outcome 0 with
    | error f => exact .error (hvalue.failsOnly f hx)
    | ok v => exact .ok (hvalue.value v hx)
  · rw [resolve_of_not_ready hready]
    exact .ok (he.bind hc)

/-- What is ready to be evaluated lacks no argument, unless the lack is a fault with `Q`. -/
def ReadySupplies (Q : Fault → Prop) (e : Expr) : Prop :=
  ∀ c, e.Ready c → c.SuppliesOr Q 0 e.placeholders

/-- Evaluation keeps what its steps keep under any navigation. -/
theorem yields_outcome (h : ∀ n, Keeps P Q host n) (hunresolved : ∀ text, Q (.unresolved text))
    {e : Expr} (hready : e.Throughout (ReadySupplies Q)) {c : Context} {n : Nat} (hc : c.Holds P)
    (he : e.Holds P) (hsup : c.SuppliesOr Q n e.placeholders) :
    Yields P Q ((e.eval host c).outcome n) := by
  -- The context is general, since a stage has one of its own: its argument, and strict navigation.
  induction hready generalizing c n with
  | intro _ hstages ih =>
    refine yields_outcome_of_stages (h c.navigation) hc he (fun s hs v hv => ?_) hsup
    have hsingle := Context.holds_single hv
    have hresolve := yields_resolve_of_outcome hsingle (hs.holds he)
      fun hready => ih s hs hsingle (hs.holds he) ((hstages s hs).here _ hready)
    refine .bind hresolve fun r hr => ?_
    cases r with
    | value w => exact .ok hr
    | pending rest => exact .error (hunresolved _)

/-- So does resolution. -/
theorem yields_resolve (h : ∀ n, Keeps P Q host n) (hunresolved : ∀ text, Q (.unresolved text))
    {e : Expr} (hready : e.Throughout (ReadySupplies Q)) {c : Context} (hc : c.Holds P)
    (he : e.Holds P) : Yields (Resolution.Holds P) Q (e.resolve host c) :=
  yields_resolve_of_outcome hc he fun h₀ => yields_outcome h hunresolved hready hc he
    (hready.here c h₀)

end Expr

end Deferred
