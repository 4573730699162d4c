import Deferred.Expr.Resolve
import Deferred.Proofs.Requirements

/-!
# Evaluation without a counter

Evaluation hands a counter from operand to operand, and a fault ends it. How far the counter goes up
does not depend on the values, only on how many anonymous placeholders there are
(`Expr.takes_eval`). So the place where an operand starts counting is known beforehand, and the
`Eval.outcome` of an expression is built from those of its parts, each at its own place
(`Expr.outcome_step`). Nothing after this module runs the counter again.

An operation is taken apart in the same way: it looks up its subject, evaluates its operands, and
works on their values (`Operation.evalOn_eq`), and only the second step looks at the operands.

From this follows the substitution lemma, `Expr.outcome_subst`.
-/

namespace Deferred

namespace Eval

variable {α β : Type}

/-- The outcome of an evaluation that begins with the argument at `n`. -/
def outcome (x : Eval α) (n : Nat) : Except Fault α := (x.run n).map (·.1)

/-- The evaluation takes `w` positional arguments for anonymous placeholders. -/
def Takes (x : Eval α) (w : Nat) : Prop := ∀ n, x.run n = (x.outcome n).map (·, n + w)

@[simp] theorem outcome_lift (x : Except Fault α) (n : Nat) : (liftM x : Eval α).outcome n = x := by
  cases x <;> rfl

@[simp] theorem lift_ok (a : α) : (liftM (Except.ok a : Except Fault α) : Eval α) = pure a := rfl

theorem takes_pure (a : α) : Takes (pure a) 0 := fun _ => rfl

theorem takes_lift (x : Except Fault α) : Takes (liftM x) 0 := by
  intro n
  cases x <;> rfl

/-- What an evaluation takes before and after are taken together, in this order. -/
theorem run_bind {x : Eval α} {a : Nat} (hx : x.Takes a) (f : α → Eval β) (n : Nat) :
    (x >>= f).run n = x.outcome n >>= fun v => (f v).run (n + a) := by
  rw [StateT.run_bind, hx n]
  cases x.outcome n <;> rfl

theorem outcome_bind {x : Eval α} {a : Nat} (hx : x.Takes a) (f : α → Eval β) (n : Nat) :
    (x >>= f).outcome n = x.outcome n >>= fun v => (f v).outcome (n + a) := by
  rw [outcome, run_bind hx]
  cases x.outcome n <;> rfl

theorem takes_bind {x : Eval α} {f : α → Eval β} {a b : Nat} (hx : x.Takes a)
    (hf : ∀ v, (f v).Takes b) : (x >>= f).Takes (a + b) := by
  intro n
  rw [run_bind hx, outcome_bind hx]
  cases x.outcome n with
  | error fault => rfl
  | ok v => exact (hf v (n + a)).trans (by rw [Nat.add_assoc]; rfl)

end Eval

namespace Operation

/-- What an operation on `v` works on: `v` itself, or the method of it that is called. -/
def subject (n : Navigation) (v : Value) : Operation → Except Fault Value
  | method name _ _ => n.access (v.callee name)
  | _ => .ok v

theorem subject_withOperands (op : Operation) (os : List Operand) (n : Navigation) (v : Value) :
    (op.withOperands os).subject n v = op.subject n v := by
  unfold withOperands
  split <;> rfl

variable [Decimals] [Patterns]

/-- The outcome of an operation on its subject, given the values of its operands. -/
def onValues (host : Host) (n : Navigation) (v : Value) :
    Operation → List Value → Except Fault Value
  | binary op _, vs => op.apply v (vs.headD .unset)
  | reflected op _, vs => op.apply (vs.headD .unset) v
  | unary op, _ => op.apply v
  | attr name, _ => n.access (v.attr name)
  | item _, vs => n.access (v.item (vs.headD .unset))
  | call args named, vs =>
    v.call host (vs.take args.length)
      (Dict.ofList ((named.map (·.1)).zip (vs.drop args.length)))
  | method _ args named, vs =>
    v.call host (vs.take args.length)
      (Dict.ofList ((named.map (·.1)).zip (vs.drop args.length)))
  | apply target, _ => target.run host v

end Operation

section Operands

variable [Decimals] [Patterns]

theorem evalOperands_eq (host : Host) (c : Context) (os : List Operand) :
    evalOperands host c os = os.mapM (Operand.eval host c) := by
  induction os with
  | nil => simp [evalOperands]
  | cons o os ih => simp [evalOperands, ih]

theorem evalNamed_eq (host : Host) (c : Context) (os : List (String × Operand)) :
    evalNamed host c os = os.mapM fun (k, o) => return (k, ← o.eval host c) := by
  induction os with
  | nil => simp [evalNamed]
  | cons o os ih => simp [evalNamed, ih]

/-- Every operation looks up its subject, evaluates its operands in their order, and then works on
the values. -/
theorem Operation.evalOn_eq (host : Host) (c : Context) (v : Value) (op : Operation) :
    op.evalOn host c v = (do
      let w ← op.subject c.navigation v
      let vs ← op.operands.mapM (Operand.eval host c)
      op.onValues host c.navigation w vs : Eval Value) := by
  cases op with
  | binary op right => simp [evalOn, subject, onValues, operands]
  | reflected op left => simp [evalOn, subject, onValues, operands]
  | unary op => simp [evalOn, subject, onValues, operands]
  | attr name => simp [evalOn, subject, onValues, operands]
  | item key => simp [evalOn, subject, onValues, operands]
  | call args named =>
    simp only [evalOn, subject, operands, evalOperands_eq, evalNamed_eq, Eval.lift_ok, pure_bind]
    exact mapM_args (Operand.eval host c) args named fun as ns => v.call host as (Dict.ofList ns)
  | method name args named =>
    simp only [evalOn, subject, operands, evalOperands_eq, evalNamed_eq]
    refine bind_congr fun w => ?_
    exact mapM_args (Operand.eval host c) args named fun as ns => w.call host as (Dict.ofList ns)
  | apply target => simp [evalOn, subject, onValues, operands]

/-! ## Other operands -/

/-- What is done with the values of the operands does not depend on the operands. -/
theorem Operation.onValues_withOperands {op : Operation} {os : List Operand}
    (h : os.length = op.operands.length) (host : Host) (n : Navigation) (v : Value)
    (vs : List Value) : (op.withOperands os).onValues host n v vs = op.onValues host n v vs := by
  cases op with
  | binary op right =>
    obtain ⟨o, rfl⟩ := List.length_eq_one_iff.1 h
    rfl
  | reflected op left =>
    obtain ⟨o, rfl⟩ := List.length_eq_one_iff.1 h
    rfl
  | item key =>
    obtain ⟨o, rfl⟩ := List.length_eq_one_iff.1 h
    rfl
  | call args named =>
    obtain ⟨hlen, hnames, -⟩ := cut_operands h
    simp only [withOperands, onValues, hlen, hnames]
  | method name args named =>
    obtain ⟨hlen, hnames, -⟩ := cut_operands h
    simp only [withOperands, onValues, hlen, hnames]
  | unary op => rfl
  | attr name => rfl
  | apply target => rfl

end Operands

/-! ## How many arguments are taken -/

theorem Origin.takes_eval (c : Context) (o : Origin) : (o.eval c).Takes o.width := by
  intro n
  cases o with
  | bound v => rfl
  | placeholder p =>
    cases p with
    | anonymous =>
      show (liftM (Placeholder.anonymous.supply c.positional[n]?) : Eval Value).run (n + 1) = _
      exact Eval.takes_lift _ (n + 1)
    | indexed i => exact Eval.takes_lift _ n
    | named key => exact Eval.takes_lift _ n

section Takes

variable [Decimals] [Patterns] (host : Host) (c : Context)

theorem takes_mapM_eval {os : List Operand}
    (h : ∀ e, .expr e ∈ os → (e.eval host c).Takes (width e.placeholders)) :
    (os.mapM (Operand.eval host c)).Takes (width (placeholdersOf os)) := by
  induction os with
  | nil => exact Eval.takes_pure []
  | cons o os ih =>
    have ho : (o.eval host c).Takes (width o.placeholders) := by
      cases o with
      | literal v => exact Eval.takes_pure v
      | expr e => exact h e List.mem_cons_self
    have hos := ih fun e he => h e (List.mem_cons_of_mem _ he)
    rw [List.mapM_cons, placeholdersOf, List.flatMap_cons, width_append]
    exact Eval.takes_bind ho fun v => Eval.takes_bind hos fun vs => Eval.takes_pure (v :: vs)

theorem Operation.takes_evalOn {op : Operation}
    (h : ∀ e, .expr e ∈ op.operands → (e.eval host c).Takes (width e.placeholders)) (v : Value) :
    (op.evalOn host c v).Takes (width (placeholdersOf op.operands)) := by
  -- Only the operands count: finding the subject before and working on the values after do not.
  rw [op.evalOn_eq, ← Nat.zero_add (width _)]
  refine Eval.takes_bind (Eval.takes_lift _) fun w => ?_
  exact Eval.takes_bind (takes_mapM_eval host c h) fun vs => Eval.takes_lift _

/-- Evaluating an expression takes one positional argument for each anonymous placeholder. -/
theorem Expr.takes_eval (e : Expr) : (e.eval host c).Takes (width e.placeholders) := by
  induction e using Expr.ind with
  | origin o => exact o.takes_eval c
  | step target op ht hop =>
    rw [Expr.eval, Expr.placeholders_step, width_append]
    exact Eval.takes_bind ht fun v => Operation.takes_evalOn host c hop v

theorem Operand.takes_eval (o : Operand) : (o.eval host c).Takes (width o.placeholders) := by
  cases o with
  | literal v => exact Eval.takes_pure v
  | expr e => exact e.takes_eval host c

end Takes

/-! ## Outcomes -/

/-- The value of an origin at a number. -/
def Context.valueOf (c : Context) (n : Nat) : Origin → Except Fault Value
  | .bound v => .ok v
  | .placeholder p => p.supply (c.argument n p)

section Outcomes

variable [Decimals] [Patterns] (host : Host) (c : Context)

@[simp] theorem Expr.outcome_origin (o : Origin) (n : Nat) :
    ((Expr.origin o).eval host c).outcome n = c.valueOf n o := by
  cases o with
  | bound v => rfl
  | placeholder p =>
    cases p with
    | anonymous =>
      show (liftM (Placeholder.anonymous.supply c.positional[n]?) : Eval Value).outcome (n + 1) = _
      exact Eval.outcome_lift _ _
    | indexed i => exact Eval.outcome_lift _ n
    | named key => exact Eval.outcome_lift _ n

/-- The values of operands are found one after the other. -/
theorem outcome_mapM_cons (o : Operand) (os : List Operand) (n : Nat) :
    ((o :: os).mapM (Operand.eval host c)).outcome n = (do
      let v ← (o.eval host c).outcome n
      let vs ← (os.mapM (Operand.eval host c)).outcome (n + width o.placeholders)
      .ok (v :: vs)) := by
  rw [List.mapM_cons, Eval.outcome_bind (o.takes_eval host c)]
  refine bind_congr fun v => ?_
  rw [Eval.outcome_bind (takes_mapM_eval host c fun e _ => e.takes_eval host c)]
  rfl

/-- An expression has its value once it is known of the expression before its last operation, and of
the operands of that. -/
theorem Expr.outcome_step (target : Expr) (op : Operation) (n : Nat) :
    ((target.step op).eval host c).outcome n = (do
      let v ← (target.eval host c).outcome n
      let w ← op.subject c.navigation v
      let vs ← (op.operands.mapM (Operand.eval host c)).outcome (n + width target.placeholders)
      op.onValues host c.navigation w vs) := by
  rw [Expr.eval, Eval.outcome_bind (target.takes_eval host c)]
  refine bind_congr fun v => ?_
  rw [op.evalOn_eq, Eval.outcome_bind (Eval.takes_lift _), Eval.outcome_lift]
  refine bind_congr fun w => ?_
  rw [Nat.add_zero, Eval.outcome_bind (takes_mapM_eval host c fun e _ => e.takes_eval host c)]
  refine bind_congr fun vs => ?_
  rw [Eval.outcome_lift]

end Outcomes

/-! ## Values need all arguments -/

/-- An outcome of two steps is a value only if both steps have one. -/
theorem bind_eq_ok_iff {α β : Type} {x : Except Fault α} {f : α → Except Fault β} {b : β} :
    x >>= f = .ok b ↔ ∃ a, x = .ok a ∧ f a = .ok b := by
  cases x with
  | error fault => exact iff_of_false nofun fun ⟨a, ha, _⟩ => nomatch ha
  | ok a =>
    constructor
    · intro h
      exact ⟨a, rfl, h⟩
    · rintro ⟨_, ⟨⟩, h⟩
      exact h

section Supplies

variable [Decimals] [Patterns] {host : Host} {c : Context}

theorem supplies_of_outcome_mapM {os : List Operand} {n : Nat} {vs : List Value}
    (he : ∀ e, .expr e ∈ os → ∀ n v, (e.eval host c).outcome n = .ok v →
      c.Supplies n e.placeholders)
    (h : (os.mapM (Operand.eval host c)).outcome n = .ok vs) :
    c.Supplies n (placeholdersOf os) := by
  induction os generalizing n vs with
  | nil => exact List.forall_mem_nil _
  | cons o os ih =>
    rw [outcome_mapM_cons] at h
    obtain ⟨v, hv, hrest⟩ := bind_eq_ok_iff.1 h
    obtain ⟨ws, hws, -⟩ := bind_eq_ok_iff.1 hrest
    rw [placeholdersOf, List.flatMap_cons, Context.supplies_append]
    refine ⟨?_, ih (fun e hm => he e (List.mem_cons_of_mem _ hm)) hws⟩
    cases o with
    | literal w => exact List.forall_mem_nil _
    | expr e => exact he e List.mem_cons_self n v hv

/-- An expression has a value only if none of its placeholders lacks an argument. -/
theorem Expr.supplies_of_outcome {e : Expr} {n : Nat} {v : Value}
    (h : (e.eval host c).outcome n = .ok v) : c.Supplies n e.placeholders := by
  induction e using Expr.ind generalizing n v with
  | origin o =>
    rw [outcome_origin] at h
    cases o with
    | bound w => exact nofun
    | placeholder p =>
      cases harg : c.argument n p with
      | none =>
        rw [Context.valueOf, harg] at h
        cases h
      | some w =>
        show c.Supplies n [p]
        rw [Context.Supplies, slots, slots, List.forall_mem_singleton, harg]
        rfl
  | step target op ht hop =>
    rw [outcome_step] at h
    obtain ⟨u, hu, hrest⟩ := bind_eq_ok_iff.1 h
    obtain ⟨w, -, hrest⟩ := bind_eq_ok_iff.1 hrest
    obtain ⟨vs, hvs, -⟩ := bind_eq_ok_iff.1 hrest
    rw [placeholders_step, Context.supplies_append]
    exact ⟨ht hu, supplies_of_outcome_mapM (fun e hm n v => hop e hm) hvs⟩

end Supplies

/-! ## Evaluation after a substitution -/

/-- What `σ` puts in for these placeholders, whose first number is `n`, has in `c'` and at the new
number the value that the placeholder has in `c`. -/
def Substitution.KeepsValues (σ : Substitution) (φ : Nat → Nat) (c c' : Context) (n : Nat)
    (ps : List Placeholder) : Prop :=
  ∀ q ∈ slots n ps, c'.valueOf (φ q.1) (σ q.1 q.2) = c.valueOf q.1 (.placeholder q.2)

section Substitution

variable [Decimals] [Patterns] {σ : Substitution} {φ : Nat → Nat} {c c' : Context} (host : Host)

theorem outcome_mapM_substOperands (hφ : σ.Renumbers φ) {os : List Operand} {n : Nat}
    (he : ∀ e, .expr e ∈ os → ∀ n, σ.KeepsValues φ c c' n e.placeholders →
      ((e.subst σ n).eval host c').outcome (φ n) = (e.eval host c).outcome n)
    (h : σ.KeepsValues φ c c' n (placeholdersOf os)) :
    ((substOperands σ n os).mapM (Operand.eval host c')).outcome (φ n) =
      (os.mapM (Operand.eval host c)).outcome n := by
  induction os generalizing n with
  | nil => rfl
  | cons o os ih =>
    rw [Substitution.KeepsValues, placeholdersOf, List.flatMap_cons, slots_append,
      List.forall_mem_append] at h
    have hos := ih (fun e hm => he e (List.mem_cons_of_mem _ hm)) h.2
    rw [substOperands, outcome_mapM_cons, outcome_mapM_cons]
    cases o with
    | literal v => exact bind_congr fun v => congrArg (· >>= _) hos
    | expr e =>
      show ((e.subst σ n).eval host c').outcome (φ n) >>= _ = (e.eval host c).outcome n >>= _
      rw [he e List.mem_cons_self n h.1]
      refine bind_congr fun v => congrArg (· >>= _) ?_
      rw [← hos]
      exact congrArg _ (hφ.width_subst e n).symm

/-- The substitution lemma: an expression has after a substitution that keeps values the value that
it had before. -/
theorem Expr.outcome_subst (hφ : σ.Renumbers φ) (hnav : c'.navigation = c.navigation) {e : Expr}
    {n : Nat} (h : σ.KeepsValues φ c c' n e.placeholders) :
    ((e.subst σ n).eval host c').outcome (φ n) = (e.eval host c).outcome n := by
  induction e using Expr.ind generalizing n with
  | origin o =>
    rw [subst_origin, outcome_origin, outcome_origin]
    cases o with
    | placeholder p => exact h (n, p) List.mem_cons_self
    | bound v => rfl
  | step target op ht hop =>
    rw [Substitution.KeepsValues, Expr.placeholders_step, slots_append,
      List.forall_mem_append] at h
    have hlen := length_substOperands σ (n + width target.placeholders) op.operands
    have hos := outcome_mapM_substOperands host hφ (fun e hm n => hop e hm) h.2
    rw [Expr.subst_step, Expr.outcome_step, Expr.outcome_step, ht h.1, hnav]
    refine bind_congr fun v => ?_
    rw [op.subject_withOperands]
    refine bind_congr fun w => ?_
    -- The operands now start counting at `φ` of where they did before.
    rw [Operation.operands_withOperands hlen, ← hφ.width_subst, hos]
    exact bind_congr fun vs => op.onValues_withOperands hlen host c.navigation w vs

/-- Contexts that agree on the arguments of the placeholders that occur give one outcome. -/
theorem Expr.outcome_congr (hnav : c'.navigation = c.navigation) {e : Expr} {n : Nat}
    (h : ∀ q ∈ slots n e.placeholders, c'.argument q.1 q.2 = c.argument q.1 q.2) :
    (e.eval host c').outcome n = (e.eval host c).outcome n := by
  have hid : Substitution.Renumbers (fun _ => .placeholder) id := by
    intro n p
    cases p <;> rfl
  have hkeep : Substitution.KeepsValues (fun _ => .placeholder) id c c' n e.placeholders :=
    fun q hq => congrArg q.2.supply (h q hq)
  have := Expr.outcome_subst host hid hnav hkeep
  rwa [e.subst_placeholder] at this

end Substitution

end Deferred
