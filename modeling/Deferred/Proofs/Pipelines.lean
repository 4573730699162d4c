import Deferred.Proofs.PartialApplication
import Mathlib.Logic.Relation

/-!
# Pipelines

A pipeline runs its stages one after the other, so running two pipelines joined is running one and
then the other (`Pipeline.run_append`). As an expression it takes one argument and runs it through
the stages (`Expr.resolve_pipe`).

A stage may itself be a pipeline, made into an expression, and its stages may be put in its place.
This may happen anywhere: in a pipeline that an expression ends in, or one of its operands, or a
stage, at any depth (`Expr.FlattensTo`). It changes neither what an expression needs nor its text
nor how it takes arguments, which are the three things that a failing stage reports, so that no run
ends otherwise (`Pipeline.run_flattened`).

Main statement: `Pipeline.compose_and_flatten`.
-/

namespace Deferred

/-! ## Composition -/

namespace Pipeline

variable [Decimals] [Patterns] (host : Host)

theorem run_cons (s : Stage) (ss : Pipeline) (v : Value) :
    run host (s :: ss) v = s.run host v >>= run host ss := rfl

/-- Stages behind others get what these give. -/
theorem run_append (a b : Pipeline) (v : Value) :
    run host (a ++ b) v = run host a v >>= run host b := by
  induction a generalizing v with
  | nil => rfl
  | cons s ss ih =>
    rw [List.cons_append, run_cons, run_cons, bind_assoc]
    exact bind_congr ih

theorem run_append_congr {b b' : Pipeline} (h : ∀ v, run host b v = run host b' v) (a : Pipeline)
    (v : Value) : run host (a ++ b) v = run host (a ++ b') v := by
  rw [run_append, run_append]
  exact bind_congr h

end Pipeline

/-! ## Pipelines as expressions -/

namespace Expr

variable (p : Pipeline)

theorem arity_pipe : (pipe p).arity = 1 := rfl

theorem ready_pipe_iff {c : Context} : (pipe p).Ready c ↔ 0 < c.positional.length := by
  show (decide (1 ≤ c.positional.length) && true) = true ↔ _
  rw [Bool.and_true, decide_eq_true_eq, Nat.succ_le_iff]

variable [Decimals] [Patterns] (host : Host)

theorem evaluate_pipe {c : Context} {v : Value} {rest : List Value}
    (h : c.positional = v :: rest) : (pipe p).evaluate host c = p.run host v := by
  have hfirst : c.valueOf 0 (.placeholder .anonymous) = .ok v := by
    show Placeholder.anonymous.supply c.positional[0]? = .ok v
    rw [h]
    rfl
  show ((it.step (.apply (.pipeline p))).eval host c).outcome 0 = _
  rw [outcome_step, it, placeholder, outcome_origin, hfirst]
  rfl

/-- A pipeline that has its argument runs it, whatever else there is. -/
theorem resolve_pipe {c : Context} {v : Value} {rest : List Value}
    (h : c.positional = v :: rest) : (pipe p).resolve host c = (p.run host v).map .value := by
  have hready : (pipe p).Ready c := by
    rw [ready_pipe_iff, h]
    exact Nat.zero_lt_succ _
  rw [resolve_of_ready hready, evaluate_pipe p host h]

/-- A pipeline without an argument stays what it is. -/
theorem resolve_pipe_of_nil {c : Context} (h : c.positional = []) :
    (pipe p).resolve host c = .ok (.pending (pipe p)) := by
  have hready : ¬ (pipe p).Ready c := by
    rw [ready_pipe_iff, h]
    exact Nat.lt_irrefl 0
  have hnone : ((pipe p).part c).argument 0 .anonymous = none := by
    show (c.positional.take _)[0]? = none
    rw [h, List.take_nil]
    rfl
  have hbind : (pipe p).bind c = pipe p := by
    rw [bind_eq_subst, pipe, subst_step]
    show (Expr.origin (((pipe p).part c).binding 0 .anonymous)).step (.apply (.pipeline p)) = _
    rw [Context.binding, hnone]
    rfl
  rw [resolve_of_not_ready hready, hbind]

end Expr

/-! ## Flattening -/

/-- In one place of an expression, at any depth, a stage that is a pipeline is replaced by the
stages of that pipeline. -/
inductive Expr.FlattensTo : Expr → Expr → Prop where
  | here {target : Expr} (before inner after : Pipeline) :
    FlattensTo (target.step (.apply (.pipeline (before ++ .expr (.pipe inner) :: after))))
      (target.step (.apply (.pipeline (before ++ inner ++ after))))
  | stage {target e e' : Expr} (before after : Pipeline) (h : FlattensTo e e') :
    FlattensTo (target.step (.apply (.pipeline (before ++ .expr e :: after))))
      (target.step (.apply (.pipeline (before ++ .expr e' :: after))))
  | target {e e' : Expr} (op : Operation) (h : FlattensTo e e') :
    FlattensTo (e.step op) (e'.step op)
  | operand {target e e' : Expr} {op : Operation} {before after : List Operand}
    (hop : op.operands = before ++ .expr e :: after) (h : FlattensTo e e') :
    FlattensTo (target.step op) (target.step (op.withOperands (before ++ .expr e' :: after)))

/-! ### Texts -/

theorem renderOperands_eq (os : List Operand) : renderOperands os = os.map Operand.render := by
  induction os with
  | nil => rfl
  | cons o os ih => rw [renderOperands, ih, List.map_cons]

theorem renderNamed_eq (named : NamedOperands) :
    renderNamed named =
      List.zipWith (fun k text => k ++ "=" ++ text) (named.map (·.1))
        ((named.map (·.2)).map Operand.render) := by
  induction named with
  | nil => rfl
  | cons o named ih => rw [renderNamed, ih]; rfl

theorem Operation.renderArguments_withOperands {args os : List Operand} {named : NamedOperands}
    (h : os.map Operand.render = (args ++ named.map (·.2)).map Operand.render) :
    renderOperands (os.take args.length) ++
        renderNamed ((named.map (·.1)).zip (os.drop args.length)) =
      renderOperands args ++ renderNamed named := by
  have hlen : os.length = (args ++ named.map (·.2)).length := by
    rw [← List.length_map (f := Operand.render), h, List.length_map]
  obtain ⟨-, hkeys, hvalues⟩ := cut_operands hlen
  have hargs : (os.take args.length).map Operand.render = args.map Operand.render := by
    rw [List.map_take, h, List.map_append, List.take_left' (List.length_map _)]
  have hnamed : (os.drop args.length).map Operand.render =
      (named.map (·.2)).map Operand.render := by
    rw [List.map_drop, h, List.map_append, List.drop_left' (List.length_map _)]
  rw [renderOperands_eq, renderOperands_eq, renderNamed_eq, renderNamed_eq, hkeys, hvalues, hargs,
    hnamed]

/-- The text of an operation tells no more of its operands than their texts. -/
theorem Operation.renderOn_withOperands {op : Operation} {os : List Operand}
    (h : os.map Operand.render = op.operands.map Operand.render) (target : String) :
    (op.withOperands os).renderOn target = op.renderOn target := by
  have hlen : os.length = op.operands.length := by
    rw [← List.length_map (f := Operand.render), h, List.length_map]
  cases op with
  | binary op right =>
    obtain ⟨o, rfl⟩ := List.length_eq_one_iff.1 hlen
    have hright : o.render = right.render := (List.cons.inj h).1
    simp only [withOperands, renderOn, hright]
  | reflected op left =>
    obtain ⟨o, rfl⟩ := List.length_eq_one_iff.1 hlen
    have hleft : o.render = left.render := (List.cons.inj h).1
    simp only [withOperands, renderOn, hleft]
  | item key =>
    obtain ⟨o, rfl⟩ := List.length_eq_one_iff.1 hlen
    have hkey : o.render = key.render := (List.cons.inj h).1
    simp only [withOperands, renderOn, hkey]
  | call args named => simp only [withOperands, renderOn, renderArguments_withOperands h]
  | method name args named => simp only [withOperands, renderOn, renderArguments_withOperands h]
  | unary op => rfl
  | attr name => rfl
  | apply callee => rfl

namespace Expr.FlattensTo

variable {e e' : Expr}

theorem length_replaced {op : Operation} {before after : List Operand} (e' : Expr)
    (hop : op.operands = before ++ .expr e :: after) :
    (before ++ .expr e' :: after).length = op.operands.length := by
  rw [hop, List.length_append, List.length_append, List.length_cons, List.length_cons]

theorem placeholders_eq (h : e.FlattensTo e') : e'.placeholders = e.placeholders := by
  induction h with
  | here before inner after => rfl
  | stage before after h ih => rfl
  | target op h ih => rw [placeholders_step, placeholders_step, ih]
  | operand hop h ih =>
    rw [placeholders_step, placeholders_step,
      Operation.operands_withOperands (length_replaced _ hop), hop]
    simp only [placeholdersOf, List.flatMap_append, List.flatMap_cons, Operand.placeholders, ih]

theorem render_eq (h : e.FlattensTo e') : e'.render = e.render := by
  induction h with
  | here before inner after => rfl
  | stage before after h ih => rfl
  | target op h ih => rw [render, render, ih]
  | operand hop h ih =>
    rw [render, render]
    apply Operation.renderOn_withOperands
    rw [hop, List.map_append, List.map_append, List.map_cons, List.map_cons]
    simp only [Operand.render, ih]

end Expr.FlattensTo

theorem substOperands_append (σ : Substitution) (n : Nat) (os os' : List Operand) :
    substOperands σ n (os ++ os') =
      substOperands σ n os ++ substOperands σ (n + width (placeholdersOf os)) os' := by
  induction os generalizing n with
  | nil => rfl
  | cons o os ih =>
    rw [List.cons_append, substOperands, substOperands, ih, width_placeholdersOf_cons,
      Nat.add_assoc, List.cons_append]

namespace Expr.FlattensTo

variable {e e' : Expr}

/-- What is put in for placeholders does not reach into stages. -/
theorem subst (σ : Substitution) (n : Nat) (h : e.FlattensTo e') :
    (e.subst σ n).FlattensTo (e'.subst σ n) := by
  induction h generalizing n with
  | here before inner after =>
    rw [subst_step, subst_step]
    exact .here before inner after
  | stage before after h ih =>
    rw [subst_step, subst_step]
    exact .stage before after h
  | target op h ih =>
    rw [subst_step, subst_step, h.placeholders_eq]
    exact .target _ (ih n)
  | @operand target e e' op before after hop h ih =>
    have hlen := length_replaced e' hop
    have hsubst := length_substOperands σ (n + width target.placeholders)
    have hkeep := (hsubst (before ++ .expr e' :: after)).trans hlen
    rw [subst_step, subst_step, Operation.operands_withOperands hlen,
      Operation.withOperands_withOperands hlen hkeep,
      ← Operation.withOperands_withOperands (hsubst op.operands) hkeep, substOperands_append,
      substOperands, Operand.subst, Operand.placeholders, h.placeholders_eq]
    refine .operand ?_ (ih _)
    rw [Operation.operands_withOperands (hsubst op.operands), hop, substOperands_append]
    rfl

theorem bind (c : Context) (h : e.FlattensTo e') : (e.bind c).FlattensTo (e'.bind c) := by
  have hpart : e'.part c = e.part c := by
    rw [part, part, supplied, supplied, requirements, requirements, h.placeholders_eq]
  rw [bind_eq_subst, bind_eq_subst, hpart]
  exact h.subst _ 0

end Expr.FlattensTo

section Outcomes

variable [Decimals] [Patterns] (host : Host)

theorem outcome_mapM_replaced {c : Context} {e e' : Expr} (hps : e'.placeholders = e.placeholders)
    (h : ∀ n, (e'.eval host c).outcome n = (e.eval host c).outcome n) (before after : List Operand)
    (n : Nat) :
    ((before ++ .expr e' :: after).mapM (Operand.eval host c)).outcome n =
      ((before ++ .expr e :: after).mapM (Operand.eval host c)).outcome n := by
  induction before generalizing n with
  | nil =>
    have hwidth : (Operand.expr e').placeholders = (Operand.expr e).placeholders := hps
    rw [List.nil_append, List.nil_append, outcome_mapM_cons, outcome_mapM_cons, hwidth]
    exact congrArg (· >>= _) (h n)
  | cons o before ih =>
    rw [List.cons_append, List.cons_append, outcome_mapM_cons, outcome_mapM_cons]
    exact bind_congr fun v => congrArg (· >>= _) (ih _)

/-- An expression that gives the same outcomes, with the same needs and the same text, is the same
as a stage. -/
theorem Expr.FlattensTo.run_stage {e e' : Expr} (h : e.FlattensTo e')
    (heval : ∀ (c : Context) (n : Nat), (e'.eval host c).outcome n = (e.eval host c).outcome n)
    (v : Value) : (Stage.expr e').run host v = (Stage.expr e).run host v := by
  have hneeds : e'.resolvableWith 1 ∅ = e.resolvableWith 1 ∅ := by
    rw [resolvableWith, resolvableWith, requirements, requirements, h.placeholders_eq]
  have heval' : Eval.fromStart (e'.eval host { positional := [v] }) =
      Eval.fromStart (e.eval host { positional := [v] }) := heval { positional := [v] } 0
  have htext := (h.bind { positional := [v] }).render_eq
  rw [Stage.run, Stage.run, hneeds, heval', htext]

theorem Stage.run_pipe (inner : Pipeline) (v : Value) :
    (Stage.expr (.pipe inner)).run host v = inner.run host v := by
  have hneeds : (Expr.pipe inner).resolvableWith 1 ∅ = true := rfl
  rw [Stage.run, if_pos hneeds]
  exact Expr.evaluate_pipe inner host (c := { positional := [v] }) rfl

theorem Expr.FlattensTo.outcome_eq {e e' : Expr} (h : e.FlattensTo e') (c : Context) (n : Nat) :
    (e'.eval host c).outcome n = (e.eval host c).outcome n := by
  induction h generalizing c n with
  | here before inner after =>
    rw [outcome_step, outcome_step]
    refine bind_congr fun v => bind_congr fun w => bind_congr fun vs => ?_
    show Pipeline.run host (before ++ inner ++ after) w = Pipeline.run host (before ++ _) w
    rw [List.append_assoc]
    apply Pipeline.run_append_congr
    intro u
    rw [Pipeline.run_append, Pipeline.run_cons, Stage.run_pipe]
  | stage before after h ih =>
    rw [outcome_step, outcome_step]
    refine bind_congr fun v => bind_congr fun w => bind_congr fun vs => ?_
    show Pipeline.run host (before ++ _) w = Pipeline.run host (before ++ _) w
    apply Pipeline.run_append_congr
    intro u
    rw [Pipeline.run_cons, Pipeline.run_cons, h.run_stage host ih]
  | target op h ih => rw [outcome_step, outcome_step, ih, h.placeholders_eq]
  | @operand target e e' op before after hop h ih =>
    have hlen := length_replaced e' hop
    rw [outcome_step, outcome_step]
    refine bind_congr fun v => ?_
    rw [op.subject_withOperands]
    refine bind_congr fun w => ?_
    rw [Operation.operands_withOperands hlen, hop,
      outcome_mapM_replaced host h.placeholders_eq (ih c)]
    exact bind_congr fun vs => Operation.onValues_withOperands hlen host c.navigation w vs

end Outcomes

namespace Pipeline

/-- A pipeline is flattened as the expression that it makes. -/
def FlattensTo (p p' : Pipeline) : Prop := (Expr.pipe p).FlattensTo (.pipe p')

theorem run_flattened [Decimals] [Patterns] (host : Host) {p p' : Pipeline} (h : p.FlattensTo p')
    (v : Value) : run host p' v = run host p v := by
  rw [← Stage.run_pipe, ← Stage.run_pipe]
  exact Expr.FlattensTo.run_stage host h (Expr.FlattensTo.outcome_eq host h) v

/-- Pipelines that are joined run one after the other, and a fault ends the run. As an expression a
pipeline takes one argument: it runs the first one if there is any, whatever the other arguments and
the way of navigation are, and waits for it if there is none. Pipelines among the stages, at any
depth, can be replaced by their own stages, any number of them, without changing the outcome of a
run. -/
theorem compose_and_flatten [Decimals] [Patterns] (host : Host) :
    (∀ (a b : Pipeline) (v : Value), run host (a ++ b) v = run host a v >>= run host b) ∧
    (∀ p : Pipeline, (Expr.pipe p).arity = 1 ∧
      (∀ (c : Context) (v : Value) (rest : List Value), c.positional = v :: rest →
        (Expr.pipe p).resolve host c = (run host p v).map .value) ∧
      ∀ c : Context, c.positional = [] →
        (Expr.pipe p).resolve host c = .ok (.pending (.pipe p))) ∧
    ∀ (p p' : Pipeline) (v : Value), Relation.ReflTransGen FlattensTo p p' →
      run host p' v = run host p v := by
  refine ⟨run_append host, ?_, ?_⟩
  · intro p
    refine ⟨Expr.arity_pipe p, ?_, ?_⟩
    · intro c v rest h
      exact Expr.resolve_pipe p host h
    · intro c h
      exact Expr.resolve_pipe_of_nil p host h
  · intro p p' v h
    induction h with
    | refl => rfl
    | tail _ hlast ih => rw [run_flattened host hlast, ih]

/-- `it * 2`, then `it + 1`. -/
def doubledAndOne : Pipeline :=
  [.expr (.binary .it (.arith .multiply) (.literal (.integer 2))),
    .expr (.binary .it (.arith .add) (.literal (.integer 1)))]

/-- `1 + pipe(it)`, with a pipeline in an operand. -/
def onePlus (p : Pipeline) : Pipeline :=
  [.expr (.binary (.bound (.integer 1)) (.arith .add) (.expr (.pipe p)))]

theorem flattensTo_onePlus (p : Pipeline) : FlattensTo (onePlus [.expr (.pipe p)]) (onePlus p) := by
  have hpipe : (Expr.pipe [.expr (.pipe p)]).FlattensTo (.pipe p) := by
    have here := @Expr.FlattensTo.here .it [] p []
    rwa [List.append_nil] at here
  have hop : (Operation.binary (.arith .add) (.expr (.pipe [.expr (.pipe p)]))).operands =
      [] ++ .expr (.pipe [.expr (.pipe p)]) :: [] := rfl
  exact .stage [] [] (.operand hop hpipe)

/-- A pipeline runs as an expression and waits without an argument, and one that is nested twice in
an operand of a stage runs as it does without the nesting. -/
theorem compose_and_flatten_nested :
    (Expr.pipe doubledAndOne).resolve Host.stock ⟨[.integer 5, .null], ∅, .safe⟩ =
      .ok (.value (.integer 11)) ∧
    (Expr.pipe doubledAndOne).resolve Host.stock ⟨[], ∅, .strict⟩ =
      .ok (.pending (.pipe doubledAndOne)) ∧
    Relation.ReflTransGen FlattensTo (onePlus [.expr (.pipe [.expr (.pipe doubledAndOne)])])
      (onePlus doubledAndOne) ∧
    run Host.stock (onePlus doubledAndOne) (.integer 5) =
      run Host.stock (onePlus [.expr (.pipe [.expr (.pipe doubledAndOne)])]) (.integer 5) := by
  have hflat : Relation.ReflTransGen FlattensTo
      (onePlus [.expr (.pipe [.expr (.pipe doubledAndOne)])]) (onePlus doubledAndOne) :=
    .tail (.single (flattensTo_onePlus _)) (flattensTo_onePlus doubledAndOne)
  obtain ⟨-, hexpr, hruns⟩ := compose_and_flatten Host.stock
  obtain ⟨-, hvalue, hpending⟩ := hexpr doubledAndOne
  refine ⟨?_, hpending _ rfl, hflat, hruns _ _ _ hflat⟩
  rw [hvalue ⟨[.integer 5, .null], ∅, .safe⟩ (.integer 5) [.null] rfl]
  rfl

end Pipeline

end Deferred
