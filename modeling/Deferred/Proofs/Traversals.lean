import Deferred.Expr.Binding
import Deferred.Proofs.Requirements
import Mathlib.Data.List.Basic

/-!
# Walks that go the same way

An operation lists its operands and can be rebuilt from what becomes of them, and an expression is
searched for its placeholders and can be rebuilt from what becomes of its origins. For each of the
two, listing and rebuilding are written apart and have to go the same way: the k-th result has to
come from the k-th element listed, and the state has to be handed on in this order. That is what
`InTurn` says of a list, its results and the states at both ends, without a walk.

Main statement: `traversals_agree`. What holds of operands by `Operation.inTurn_mapOperandsM` holds
of the origins of a whole expression by induction (`Expr.inTurn_mapOriginsM`), so the walk that puts
in arguments meets every anonymous placeholder at the number that the requirements have counted up
to it (`InTurn.numbered`).
-/

namespace Deferred

/-! ## One after the other -/

/-- `f` is applied once to each element of a list, one after the other and each time in the state
that the one before has left: from the first state, with these results, to the last state. -/
inductive InTurn {σ α : Type} (f : α → StateM σ α) : σ → List α → List α → σ → Prop where
  | nil (s : σ) : InTurn f s [] [] s
  | cons {s s' t : σ} {a b : α} {as bs : List α} (h : (f a).run s = (b, s'))
    (hrest : InTurn f s' as bs t) : InTurn f s (a :: as) (b :: bs) t

namespace InTurn

variable {σ α β : Type} {f : α → StateM σ α} {s t u : σ} {as as' bs bs' : List α}

theorem length_eq (h : InTurn f s as bs t) : bs.length = as.length := by
  induction h with
  | nil s => rfl
  | cons h hrest ih => exact congrArg (· + 1) ih

theorem append (h : InTurn f s as bs t) (h' : InTurn f t as' bs' u) :
    InTurn f s (as ++ as') (bs ++ bs') u := by
  induction h with
  | nil s => exact h'
  | cons h hrest ih => exact .cons h (ih h')

/-- A walk along a list with a state takes its elements in turn. -/
theorem mapM (f : α → StateM σ α) (as : List α) (s : σ) :
    InTurn f s as ((as.mapM f).run s).1 ((as.mapM f).run s).2 := by
  induction as generalizing s with
  | nil => exact .nil s
  | cons a as ih =>
    have hrest := ih ((f a).run s).2
    rw [List.mapM_cons]
    exact .cons rfl hrest

/-- If elements are taken in turn, and the parts of each element are, then all the parts are. -/
theorem flatMap {g : β → StateM σ β} {parts : α → List β}
    (hparts : ∀ a ∈ as, ∀ s, InTurn g s (parts a) (parts ((f a).run s).1) ((f a).run s).2)
    (h : InTurn f s as bs t) : InTurn g s (as.flatMap parts) (bs.flatMap parts) t := by
  induction h with
  | nil s => exact .nil s
  | @cons s s' t a b as bs h hrest ih =>
    have ha := hparts a List.mem_cons_self s
    rw [h] at ha
    exact ha.append (ih fun a' ha' => hparts a' (List.mem_cons_of_mem _ ha'))

end InTurn

namespace Operation

/-! ## Operands -/

/-- Two operations are the same but for their operands, of which they have as many in the same
places, under the same names. -/
inductive SameFrame : Operation → Operation → Prop where
  | binary (op : BinaryOp) (right right' : Operand) :
    SameFrame (.binary op right) (.binary op right')
  | reflected (op : BinaryOp) (left left' : Operand) :
    SameFrame (.reflected op left) (.reflected op left')
  | unary (op : UnaryOp) : SameFrame (.unary op) (.unary op)
  | attr (name : String) : SameFrame (.attr name) (.attr name)
  | item (key key' : Operand) : SameFrame (.item key) (.item key')
  | call {args args' : List Operand} {named named' : NamedOperands}
    (hargs : args'.length = args.length) (hnamed : named'.map (·.1) = named.map (·.1)) :
    SameFrame (.call args named) (.call args' named')
  | method (name : String) {args args' : List Operand} {named named' : NamedOperands}
    (hargs : args'.length = args.length) (hnamed : named'.map (·.1) = named.map (·.1)) :
    SameFrame (.method name args named) (.method name args' named')
  | apply (target : Target) : SameFrame (.apply target) (.apply target)

theorem sameFrame_withOperands {op : Operation} {os : List Operand}
    (h : os.length = op.operands.length) : op.SameFrame (op.withOperands os) := by
  cases op with
  | binary op right =>
    obtain ⟨o, rfl⟩ := List.length_eq_one_iff.1 h
    exact .binary op right o
  | reflected op left =>
    obtain ⟨o, rfl⟩ := List.length_eq_one_iff.1 h
    exact .reflected op left o
  | item key =>
    obtain ⟨o, rfl⟩ := List.length_eq_one_iff.1 h
    exact .item key o
  | call args named =>
    obtain ⟨hargs, hnamed, -⟩ := cut_operands h
    exact .call hargs hnamed
  | method name args named =>
    obtain ⟨hargs, hnamed, -⟩ := cut_operands h
    exact .method name hargs hnamed
  | unary op => exact .unary op
  | attr name => exact .attr name
  | apply target => exact .apply target

section Walk

variable {σ : Type} (f : Operand → StateM σ Operand) (op : Operation) (s : σ)

theorem run_mapOperandsM : (op.mapOperandsM f).run s =
    (op.withOperands ((op.operands.mapM f).run s).1, ((op.operands.mapM f).run s).2) := by
  rw [mapOperandsM_eq]
  rfl

/-- Rebuilding takes the operands in turn, and its results are the operands of what is rebuilt. -/
theorem inTurn_mapOperandsM : InTurn f s op.operands ((op.mapOperandsM f).run s).1.operands
    ((op.mapOperandsM f).run s).2 := by
  have h := InTurn.mapM f op.operands s
  rw [run_mapOperandsM]
  show InTurn f s op.operands (op.withOperands _).operands _
  rwa [operands_withOperands h.length_eq]

/-- Nothing else is changed. -/
theorem sameFrame_mapOperandsM : op.SameFrame ((op.mapOperandsM f).run s).1 := by
  rw [run_mapOperandsM]
  exact sameFrame_withOperands (InTurn.mapM f op.operands s).length_eq

end Walk

end Operation

/-! ## Origins -/

mutual

/-- The origins in an expression: its own, and then those of the operands as they were recorded. -/
def Expr.origins : Expr → List Origin
  | .origin o => [o]
  | .step target op => target.origins ++ op.origins
termination_by structural e => e

/-- The origins in the operands of an operation. -/
def Operation.origins : Operation → List Origin
  | .binary _ right => right.origins
  | .reflected _ left => left.origins
  | .item key => key.origins
  | .call args named => operandsOrigins args ++ namedOrigins named
  | .method _ args named => operandsOrigins args ++ namedOrigins named
  | .unary _ | .attr _ | .apply _ => []
termination_by structural op => op

/-- The origins in an operand. -/
def Operand.origins : Operand → List Origin
  | .literal _ => []
  | .expr e => e.origins
termination_by structural o => o

/-- The origins in operands. -/
def operandsOrigins : List Operand → List Origin
  | [] => []
  | o :: os => o.origins ++ operandsOrigins os
termination_by structural os => os

/-- The origins in operands with names. -/
def namedOrigins : List (String × Operand) → List Origin
  | [] => []
  | (_, o) :: os => o.origins ++ namedOrigins os
termination_by structural os => os

end

theorem operandsOrigins_eq (os : List Operand) :
    operandsOrigins os = os.flatMap Operand.origins := by
  induction os with
  | nil => rfl
  | cons o os ih => simp [operandsOrigins, ih]

theorem namedOrigins_eq (os : List (String × Operand)) :
    namedOrigins os = (os.map (·.2)).flatMap Operand.origins := by
  induction os with
  | nil => rfl
  | cons o os ih => simp [namedOrigins, ih]

theorem Operation.origins_eq (op : Operation) :
    op.origins = op.operands.flatMap Operand.origins := by
  cases op <;>
    simp [origins, operands, operandsOrigins_eq, namedOrigins_eq, List.flatMap_append]

namespace Expr

/-- The origins of one more operation are those before it and those of its operands. -/
theorem origins_step (target : Expr) (op : Operation) :
    (target.step op).origins = target.origins ++ op.operands.flatMap Operand.origins := by
  rw [origins, Operation.origins_eq]

/-- The placeholders are found in the order of the origins. -/
theorem placeholders_eq_flatMap_origins (e : Expr) :
    e.placeholders = e.origins.flatMap Origin.placeholders := by
  induction e using Expr.ind with
  | origin o => exact (List.append_nil _).symm
  | step target op ht hop =>
    have hoperands : placeholdersOf op.operands =
        (op.operands.flatMap Operand.origins).flatMap Origin.placeholders := by
      rw [List.flatMap_assoc]
      refine List.flatMap_congr fun o ho => ?_
      cases o with
      | literal v => rfl
      | expr e => exact hop e ho
    rw [placeholders_step, origins_step, List.flatMap_append, ht, hoperands]

end Expr

section Walk

variable {σ : Type} (f : Origin → StateM σ Origin)

theorem Operand.inTurn_mapOriginsM {o : Operand}
    (h : ∀ e, .expr e = o → ∀ s,
      InTurn f s e.origins ((e.mapOriginsM f).run s).1.origins ((e.mapOriginsM f).run s).2)
    (s : σ) :
    InTurn f s o.origins ((o.mapOriginsM f).run s).1.origins ((o.mapOriginsM f).run s).2 := by
  cases o with
  | literal v => exact .nil s
  | expr e => exact h e rfl s

/-- Rebuilding an expression takes its origins in turn. -/
theorem Expr.inTurn_mapOriginsM (e : Expr) (s : σ) :
    InTurn f s e.origins ((e.mapOriginsM f).run s).1.origins ((e.mapOriginsM f).run s).2 := by
  induction e using Expr.ind generalizing s with
  | origin o => exact .cons rfl (.nil _)
  | step target op ht hop =>
    have hoperands : ∀ t, InTurn f t (op.operands.flatMap Operand.origins)
        (((op.mapOriginsM f).run t).1.operands.flatMap Operand.origins)
        ((op.mapOriginsM f).run t).2 := by
      intro t
      rw [Operation.mapOriginsM_eq]
      refine (op.inTurn_mapOperandsM (Operand.mapOriginsM f) t).flatMap fun o ho => ?_
      exact Operand.inTurn_mapOriginsM f fun e he => hop e (he ▸ ho)
    have hrun : ((target.step op).mapOriginsM f).run s =
        (((target.mapOriginsM f).run s).1.step
            ((op.mapOriginsM f).run ((target.mapOriginsM f).run s).2).1,
          ((op.mapOriginsM f).run ((target.mapOriginsM f).run s).2).2) := rfl
    rw [hrun, origins_step, origins_step]
    exact (ht s).append (hoperands _)

end Walk

/-! ## Numbers -/

/-- How many anonymous placeholders the requirements count among these origins. -/
def anonymousAmong (os : List Origin) : Nat :=
  (Requirements.ofPlaceholders (os.flatMap Origin.placeholders)).anonymous

theorem anonymousAmong_cons (o : Origin) (os : List Origin) :
    anonymousAmong (o :: os) = o.width + anonymousAmong os := by
  simp only [anonymousAmong, Requirements.anonymous_ofPlaceholders, List.flatMap_cons, width_append,
    Origin.width]

/-- A walk that counts anonymous placeholders comes to each origin with the count of those before
it. -/
theorem InTurn.numbered {f : Origin → StateM Nat Origin}
    (hf : ∀ o n, ((f o).run n).2 = n + o.width) {n m : Nat} {os os' : List Origin}
    (h : InTurn f n os os' m) :
    m = n + anonymousAmong os ∧
      os' = os.mapIdx fun i o => ((f o).run (n + anonymousAmong (os.take i))).1 := by
  induction h with
  | nil n => exact ⟨rfl, rfl⟩
  | @cons n n' m o o' os os' h hrest ih =>
    obtain ⟨hm, hos'⟩ := ih
    have hn' : n' = n + o.width := by
      rw [← hf o n, h]
    have ho' : o' = ((f o).run (n + anonymousAmong [])).1 := by
      show o' = ((f o).run n).1
      rw [h]
    constructor
    · rw [hm, hn', anonymousAmong_cons, Nat.add_assoc]
    · simp only [List.mapIdx_cons, List.take_zero, List.take_succ_cons, anonymousAmong_cons]
      rw [← ho', hos', hn']
      simp only [Nat.add_assoc]

/-- Putting in arguments counts the anonymous placeholders. -/
theorem Origin.run_bind_snd (c : Context) (supplied : Nat) (o : Origin) (n : Nat) :
    ((o.bind c supplied).run n).2 = n + o.width := by
  cases o with
  | bound v => rfl
  | placeholder p =>
    cases p with
    | anonymous =>
      cases harg : (c.positional.take supplied)[n]? with
      | some v =>
        simp [bind, harg]
        rfl
      | none =>
        simp [bind, harg]
        rfl
    | indexed i =>
      rw [bind]
      cases (c.positional.take supplied)[i.toNat]? <;> rfl
    | named key =>
      rw [bind]
      cases c.named.get? key <;> rfl

/-- Listing and rebuilding go the same way. Through an operation: whatever is done to the operands
is done once to each, in the order in which they are listed, and its results are the operands of an
operation that is otherwise the same. Through an expression: arguments are put in for every origin
at the number of anonymous placeholders that the requirements count before it, and all that they
count have been met at the end. -/
theorem traversals_agree :
    (∀ (σ : Type) (f : Operand → StateM σ Operand) (op : Operation) (s : σ),
      ∃ op' t, (op.mapOperandsM f).run s = (op', t) ∧
        InTurn f s op.operands op'.operands t ∧ op.SameFrame op') ∧
    ∀ (c : Context) (supplied : Nat) (e : Expr) (n : Nat),
      e.placeholders = e.origins.flatMap Origin.placeholders ∧
      ∃ e', (e.mapOriginsM (Origin.bind c supplied)).run n =
          (e', n + e.requirements.anonymous) ∧
        e'.origins = e.origins.mapIdx fun i o =>
          ((o.bind c supplied).run (n + anonymousAmong (e.origins.take i))).1 := by
  constructor
  · intro σ f op s
    exact ⟨_, _, rfl, op.inTurn_mapOperandsM f s, op.sameFrame_mapOperandsM f s⟩
  · intro c supplied e n
    have hplaceholders := e.placeholders_eq_flatMap_origins
    obtain ⟨hcount, horigins⟩ := (e.inTurn_mapOriginsM (Origin.bind c supplied) n).numbered
      (Origin.run_bind_snd c supplied)
    have hanonymous : anonymousAmong e.origins = e.requirements.anonymous := by
      rw [anonymousAmong, ← hplaceholders, Expr.requirements]
    rw [hanonymous] at hcount
    exact ⟨hplaceholders, _, Prod.ext rfl hcount, horigins⟩

end Deferred
