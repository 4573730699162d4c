import Deferred.Check.Spec
import Deferred.Proofs.Readiness

/-!
# Absent data

Safe navigation goes on with absence where data is not there, and so do specs, whose expressions
resolve safely. There is one exception: the stages of a pipeline resolve strictly whatever the
navigation around them, and their faults are passed on (`safe_memberPipe_fails`).

Main statement (`absent_data_settled`): there is no other exception. Unless a function of the host
or a stage of a pipeline reports absent data, neither safe resolution nor matching does.
-/

namespace Deferred

/-- A fault of data that is not there. -/
def Fault.IsAccess : Fault → Prop
  | access _ => True
  | _ => False

theorem Fault.IsOperator.not_isAccess {f : Fault} (h : f.IsOperator) : ¬ f.IsAccess := by
  cases f with
  | access cause => exact False.elim h
  | _ => exact id

/-- The outcome is no fault of data that is not there. -/
def Settled {α : Type} (x : Except Fault α) : Prop := FailsOnly (fun f => ¬ f.IsAccess) x

/-- The host settles these calls. -/
def Host.Settles (host : Host) (calls : Function → List Value → Named → Prop) : Prop :=
  ∀ f args named, calls f args named → Settled (host f args named)

/-- The stages on the way through the expression are settled, each resolved by itself. -/
def Expr.StagesSettled [Decimals] [Patterns] (host : Host) (e : Expr) : Prop :=
  ∀ s : Expr, s.IsStageOf e → ∀ v, Settled (s.value host { positional := [v] })

/-- Matching the record calls nothing but `calls`: with every host that answers these as `host` does
it has the same outcome. -/
def Spec.CallsOnly [Decimals] [Patterns] (host : Host) (spec : Spec) (options : CheckOptions)
    (record : Value) (calls : Function → List Value → Named → Prop) : Prop :=
  ∀ host' : Host, (∀ f args named, calls f args named → host' f args named = host f args named) →
    spec.accepts host' options record = spec.accepts host options record

/-! ## Hosts that settle all calls -/

section Settled

variable [Decimals] [Patterns] {host : Host} (hhost : ∀ f args named, Settled (host f args named))

include hhost

theorem Expr.settled_resolve {e : Expr} (hstages : e.StagesSettled host) {c : Context}
    (hnav : c.navigation = .safe) : Settled (e.resolve host c) := by
  have hincludes : Fault.IncludesUnder (fun f => ¬ f.IsAccess) host c.navigation := {
    operator := fun f hf => hf.not_isAccess
    -- Safe navigation has no faults that would have to be settled.
    navigation := fun hstrict => by rw [hnav] at hstrict; cases hstrict
    notCallable := fun kind => id
    host := hhost }
  exact failsOnly_resolve fun _ => failsOnly_outcome_of_stages hincludes hstages
    (Context.suppliesOr_of_forall fun _ => id)

/-- Only an expression can keep a matcher from its verdict. -/
theorem Matcher.settled_accepts {m : Matcher} (hm : ∀ e, m = .expr e → e.StagesSettled host)
    (options : CheckOptions) (root parent field : Value) :
    Settled (m.accepts host options root parent field) := by
  rw [accepts.eq_def]
  split
  · split
    · exact .ok _
    · exact .ok _
  · exact .ok _
  · exact .ok _
  · exact .ok _
  · next e =>
    have hresolve : Settled (e.resolve host (context root parent field)) :=
      Expr.settled_resolve hhost (hm e rfl) rfl
    exact .bind (Expr.failsOnly_value (fun _ => id) hresolve) fun v => .ok _
  · exact .ok _

theorem Spec.settled_accepts {spec : Spec}
    (hspec : ∀ f ∈ spec, ∀ e, f.matcher = .expr e → e.StagesSettled host)
    (options : CheckOptions) (record : Value) : Settled (spec.accepts host options record) := by
  induction spec with
  | nil => exact .ok _
  | cons f fs ih =>
    have hf : Settled (f.accepts host options record) :=
      Matcher.settled_accepts hhost (hspec f List.mem_cons_self) options _ _ _
    refine .bind hf fun accepted => ?_
    cases accepted with
    | true => exact ih fun g hg => hspec g (List.mem_cons_of_mem _ hg)
    | false => exact .ok _

end Settled

/-! ## Hosts that settle the calls that are made -/

/-- If the functions that are called report no absent data, and neither do the stages of pipelines,
each resolved by itself, then safe resolution does not, and matching a record does not. -/
theorem absent_data_settled [Decimals] [Patterns] (host : Host) :
    (∀ (e : Expr) (positional : List Value) (named : Named) calls,
      e.CallsOnly host ⟨positional, named, .safe⟩ calls → host.Settles calls →
      e.StagesSettled (host.within calls) →
      ∀ cause, e.resolve host ⟨positional, named, .safe⟩ ≠ .error (.access cause)) ∧
    ∀ (spec : Spec) (options : CheckOptions) (record : Value) calls,
      spec.CallsOnly host options record calls → host.Settles calls →
      (∀ f ∈ spec, ∀ e, f.matcher = .expr e → e.StagesSettled (host.within calls)) →
      ∀ cause, spec.accepts host options record ≠ .error (.access cause) := by
  constructor
  · intro e positional named calls hcalls hhost hstages cause hfault
    have hsettled : Settled (e.resolve (host.within calls) ⟨positional, named, .safe⟩) :=
      Expr.settled_resolve (Host.failsOnly_within hhost id) hstages rfl
    rw [hcalls _ Host.within_agrees] at hsettled
    exact hsettled _ hfault trivial
  · intro spec options record calls hcalls hhost hstages cause hfault
    have hsettled : Settled (spec.accepts (host.within calls) options record) :=
      Spec.settled_accepts (Host.failsOnly_within hhost id) hstages options record
    rw [hcalls _ Host.within_agrees] at hsettled
    exact hsettled _ hfault trivial

/-- A member of `2 * _ + 1`, which as a number has none. -/
def memberOfNext : Expr := (Expr.pipe Expr.doubledNext).attr "id"

theorem callsOnly_memberOfNext :
    memberOfNext.CallsOnly Host.stock ⟨[.integer 3], ∅, .safe⟩
      fun f args named => f = ⟨"double", none⟩ ∧ args = [.integer 3] ∧ named = ∅ := by
  intro host' hagree
  have hdouble : host' ⟨"double", none⟩ [.integer 3] ∅ = .ok (.integer 6) :=
    hagree _ _ _ ⟨rfl, rfl, rfl⟩
  have hready : memberOfNext.Ready { positional := [.integer 3], navigation := .safe } := rfl
  rw [Expr.resolve_of_ready hready]
  show Except.map _ ((memberOfNext.eval host' _).outcome 0) = _
  rw [memberOfNext, Expr.attr, Expr.outcome_step, Expr.pipe, Expr.outcome_step]
  show (Expr.doubledNext.run host' (.integer 3) >>=
    fun v => Navigation.safe.access (v.attr "id")).map Resolution.value = _
  rw [Expr.run_doubledNext hdouble]
  rfl

/-- The only stage of `memberOfNext` that is an expression adds one. -/
theorem stagesSettled_memberOfNext [Decimals] [Patterns] (host : Host) :
    memberOfNext.StagesSettled host := by
  intro s hs v
  have hstage : s = Expr.it.binary (.arith .add) (.literal (.integer 1)) := by
    simpa [memberOfNext, Expr.attr, Expr.pipe, Expr.doubledNext, Expr.it, Expr.placeholder,
      Operation.stages, Operation.operands] using hs
  rw [hstage]
  refine Expr.failsOnly_value (fun _ => id) (Expr.failsOnly_resolve fun hsup => ?_)
  show FailsOnly _ (((Expr.it.binary _ _).eval host _).outcome 0)
  rw [Expr.binary, Expr.outcome_step]
  refine .bind (.ok v) fun v => .bind (.ok v) fun w => .bind (.ok [Value.integer 1]) fun vs => ?_
  exact (BinaryOp.failsOnly_apply _ _ _).mono fun f hf => hf.not_isAccess

/-- Asks for a name that is null. -/
def unnamed : Spec :=
  [⟨"from.id", .expr ((Expr.it.attr "name").binary .equal (.literal .null))⟩]

/-- A record whose sender is a number. -/
def numberedSender : Value :=
  .object (Dict.ofList [("from", .object (Dict.ofList [("id", .integer 7)]))])

/-- A number has no members, and neither resolution nor matching reports it, with a host that would
report absent data if it were asked to. -/
theorem absent_members_settled :
    (∀ cause, memberOfNext.resolve Host.stock ⟨[.integer 3], ∅, .safe⟩ ≠
      .error (.access cause)) ∧
    (∀ cause, unnamed.accepts Host.stock {} numberedSender ≠ .error (.access cause)) ∧
    Host.stock ⟨"deny", none⟩ [] ∅ = .error (.access (.raised "denied")) := by
  obtain ⟨hresolve, haccepts⟩ := absent_data_settled Host.stock
  refine ⟨hresolve _ _ _ _ callsOnly_memberOfNext ?_ (stagesSettled_memberOfNext _),
    haccepts unnamed {} numberedSender (fun _ _ _ => False) (fun host' _ => rfl) nofun ?_, rfl⟩
  · rintro f args named ⟨rfl, rfl, rfl⟩
    exact .ok _
  · intro f hf e he s hs v
    cases List.mem_singleton.1 hf
    cases he
    simp [Expr.binary, Expr.attr, Expr.it, Expr.placeholder, Operation.stages,
      Operation.operands] at hs

/-! ## Stages of pipelines -/

/-- A member of the argument, looked up in a pipeline. -/
def memberPipe : Expr := Expr.pipe [.expr (Expr.it.attr "id")]

/-- Answers every call with absence. -/
def Host.silent : Host := fun _ _ _ => .ok .unset

/-- With a host that settles all calls, a member that is not there is absent in safe resolution, but
a fault if a pipeline looks it up, and matching passes the fault on. -/
theorem safe_memberPipe_fails :
    (∀ f args named, Settled (Host.silent f args named)) ∧
    (Expr.it.attr "id").resolve Host.silent ⟨[.object ∅], ∅, .safe⟩ = .ok (.value .unset) ∧
    memberPipe.resolve Host.silent ⟨[.object ∅], ∅, .safe⟩ = .error (.access (.noField "id")) ∧
    Spec.accepts Host.silent {} (.object (Dict.ofList [("from", .object ∅)]))
      [⟨"from", .expr memberPipe⟩] = .error (.access (.noField "id")) :=
  ⟨fun _ _ _ => .ok _, rfl, rfl, rfl⟩

end Deferred
