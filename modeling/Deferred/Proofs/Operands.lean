import Deferred.Expr.Traverse

/-!
# Operations as frames around their operands

What all walks through an expression have in common is said once here. An operation is a frame with
places for operands; `Operation.withOperands` puts other operands into the places, and rebuilding an
operation is nothing but a walk along the list of its operands (`Operation.mapOperandsM_eq`). So an
induction over expressions has two cases only, an origin and one more operation (`Expr.ind`), and
does not look at the kinds of operations. Where all that matters is how pipelines are nested, there
is an induction over their stages (`Expr.ind_stages`).
-/

namespace Deferred

/-! ## Lists walked through with effects -/

section Walk

variable {m : Type → Type} [Monad m] [LawfulMonad m] {α β γ : Type}

/-- What follows a walk through a list may assume that as many results came out as elements went
in. -/
theorem mapM_bind_congr {f : α → m β} {l : List α} {k₁ k₂ : List β → m γ}
    (h : ∀ bs, bs.length = l.length → k₁ bs = k₂ bs) : l.mapM f >>= k₁ = l.mapM f >>= k₂ := by
  induction l generalizing k₁ k₂ with
  | nil => simpa using h [] rfl
  | cons a l ih =>
    simp only [List.mapM_cons, bind_assoc, pure_bind]
    refine bind_congr fun b => ih fun bs hbs => h (b :: bs) ?_
    simp [hbs]

/-- A walk through named elements is one through the elements, which get their names back. -/
theorem mapM_named (f : α → m β) (l : List (String × α)) :
    (l.mapM fun (k, a) => return (k, ← f a)) =
      return (l.map (·.1)).zip (← (l.map (·.2)).mapM f) := by
  induction l with
  | nil => simp
  | cons p l ih =>
    obtain ⟨k, a⟩ := p
    simp only [List.map_cons, List.mapM_cons, ih, bind_assoc, pure_bind, List.zip_cons_cons]

/-- Arguments without and then with names are one list walked through. -/
theorem mapM_args (f : α → m β) (args : List α) (named : List (String × α))
    (next : List β → List (String × β) → m γ) :
    (do
      let as ← args.mapM f
      let ns ← named.mapM fun (k, a) => return (k, ← f a)
      next as ns : m γ) =
    (do
      let bs ← (args ++ named.map (·.2)).mapM f
      next (bs.take args.length) ((named.map (·.1)).zip (bs.drop args.length))) := by
  simp only [mapM_named, List.mapM_append, bind_assoc, pure_bind]
  refine mapM_bind_congr fun as has => bind_congr fun bs => ?_
  rw [← has, List.take_left, List.drop_left]

end Walk

namespace Operation

/-! ## Other operands in the same places -/

/-- The operation with other operands in the places of its own, as many as it has. -/
def withOperands : Operation → List Operand → Operation
  | binary op _, [right] => binary op right
  | reflected op _, [left] => reflected op left
  | item _, [key] => item key
  | call args named, os =>
    call (os.take args.length) ((named.map (·.1)).zip (os.drop args.length))
  | method name args named, os =>
    method name (os.take args.length) ((named.map (·.1)).zip (os.drop args.length))
  | op, _ => op

/-- The stages that the operation passes a value through. -/
def stages : Operation → List Stage
  | apply (.pipeline stages) => stages
  | _ => []

/-- As many operands as there were are cut into as many arguments and the same names. -/
theorem cut_operands {args : List Operand} {named : NamedOperands} {os : List Operand}
    (h : os.length = (args ++ named.map (·.2)).length) :
    (os.take args.length).length = args.length ∧
      ((named.map (·.1)).zip (os.drop args.length)).map (·.1) = named.map (·.1) ∧
      ((named.map (·.1)).zip (os.drop args.length)).map (·.2) = os.drop args.length := by
  simp only [List.length_append, List.length_map] at h
  refine ⟨?_, List.map_fst_zip ?_, List.map_snd_zip ?_⟩
  · rw [List.length_take]
    omega
  · rw [List.length_drop, List.length_map]
    omega
  · rw [List.length_drop, List.length_map]
    omega

/-- The operands put into an operation are its operands from then on. -/
theorem operands_withOperands {op : Operation} {os : List Operand}
    (h : os.length = op.operands.length) : (op.withOperands os).operands = os := by
  cases op with
  | binary op right =>
    obtain ⟨o, rfl⟩ := List.length_eq_one_iff.1 h
    rfl
  | reflected op left =>
    obtain ⟨o, rfl⟩ := List.length_eq_one_iff.1 h
    rfl
  | item key =>
    obtain ⟨o, rfl⟩ := List.length_eq_one_iff.1 h
    rfl
  | call args named =>
    show os.take args.length ++ List.map _ _ = os
    rw [(cut_operands h).2.2, List.take_append_drop]
  | method name args named =>
    show os.take args.length ++ List.map _ _ = os
    rw [(cut_operands h).2.2, List.take_append_drop]
  | unary op => exact (List.length_eq_zero_iff.1 h).symm
  | attr name => exact (List.length_eq_zero_iff.1 h).symm
  | apply target => exact (List.length_eq_zero_iff.1 h).symm

/-- An operation keeps its own operands. -/
theorem withOperands_operands (op : Operation) : op.withOperands op.operands = op := by
  cases op with
  | call args named =>
    simp only [withOperands, operands, List.take_left, List.drop_left]
    rw [← List.unzip_fst, ← List.unzip_snd, List.zip_unzip]
  | method name args named =>
    simp only [withOperands, operands, List.take_left, List.drop_left]
    rw [← List.unzip_fst, ← List.unzip_snd, List.zip_unzip]
  | _ => rfl

/-- Of operands put in one after the other only the last remain. -/
theorem withOperands_withOperands {op : Operation} {os os' : List Operand}
    (h : os.length = op.operands.length) (h' : os'.length = op.operands.length) :
    (op.withOperands os).withOperands os' = op.withOperands os' := by
  cases op with
  | binary op right =>
    obtain ⟨o, rfl⟩ := List.length_eq_one_iff.1 h
    obtain ⟨o', rfl⟩ := List.length_eq_one_iff.1 h'
    rfl
  | reflected op left =>
    obtain ⟨o, rfl⟩ := List.length_eq_one_iff.1 h
    obtain ⟨o', rfl⟩ := List.length_eq_one_iff.1 h'
    rfl
  | item key =>
    obtain ⟨o, rfl⟩ := List.length_eq_one_iff.1 h
    obtain ⟨o', rfl⟩ := List.length_eq_one_iff.1 h'
    rfl
  | call args named =>
    obtain ⟨hlen, hnames, -⟩ := cut_operands h
    simp only [withOperands, hlen, hnames]
  | method name args named =>
    obtain ⟨hlen, hnames, -⟩ := cut_operands h
    simp only [withOperands, hlen, hnames]
  | unary op => rfl
  | attr name => rfl
  | apply target => rfl

section Walk

variable {m : Type → Type} [Monad m] [LawfulMonad m]

/-- Rebuilding an operation is a walk along its operands, whose results take their places. -/
theorem mapOperandsM_eq (f : Operand → m Operand) (op : Operation) :
    op.mapOperandsM f = op.withOperands <$> op.operands.mapM f := by
  cases op with
  | binary op right => simp [mapOperandsM, operands, withOperands]
  | reflected op left => simp [mapOperandsM, operands, withOperands]
  | item key => simp [mapOperandsM, operands, withOperands]
  | call args named =>
    simp only [mapOperandsM, operands, withOperands, map_eq_pure_bind]
    exact mapM_args f args named fun as ns => return call as ns
  | method name args named =>
    simp only [mapOperandsM, operands, withOperands, map_eq_pure_bind]
    exact mapM_args f args named fun as ns => return method name as ns
  | unary op => simp [mapOperandsM, operands, withOperands]
  | attr name => simp [mapOperandsM, operands, withOperands]
  | apply target => simp [mapOperandsM, operands, withOperands]

end Walk

end Operation

/-! ## Induction over expressions -/

/-- What holds of origins, and of one more operation if it holds of the expression before it, of the
operands and of the stages, holds of all expressions. -/
theorem Expr.ind {motive : Expr → Prop} (origin : ∀ o, motive (.origin o))
    (step : ∀ target op, motive target → (∀ e, .expr e ∈ op.operands → motive e) →
      (∀ e, .expr e ∈ op.stages → motive e) → motive (.step target op)) :
    ∀ e, motive e := by
  -- Every other layer of the syntax stands for the expressions right below it.
  refine @Expr.rec motive
    (fun op => (∀ e, .expr e ∈ op.operands → motive e) ∧ ∀ e, .expr e ∈ op.stages → motive e)
    (fun o => ∀ e, .expr e = o → motive e)
    (fun t => ∀ e, .expr e ∈ (Operation.apply t).stages → motive e)
    (fun s => ∀ e, .expr e = s → motive e)
    (fun os => ∀ e, .expr e ∈ os → motive e)
    (fun os => ∀ e, .expr e ∈ os.map (·.2) → motive e)
    (fun ss => ∀ e, .expr e ∈ ss → motive e)
    (fun p => ∀ e, .expr e = p.2 → motive e)
    origin (fun target op ht hop => step target op ht hop.1 hop.2)
    ?binary ?reflected ?unary ?attr ?item ?call ?method (fun t ht => ⟨nofun, ht⟩)
    nofun ?operandExpr ?function (fun ss hss => hss) ?stageExpr nofun
    nofun ?operandsCons nofun ?namedCons nofun ?stagesCons (fun k o ho => ho)
  case binary => exact fun op right hr => ⟨fun e h => hr e (List.mem_singleton.1 h), nofun⟩
  case reflected => exact fun op left hl => ⟨fun e h => hl e (List.mem_singleton.1 h), nofun⟩
  case unary => exact fun op => ⟨nofun, nofun⟩
  case attr => exact fun name => ⟨nofun, nofun⟩
  case item => exact fun key hk => ⟨fun e h => hk e (List.mem_singleton.1 h), nofun⟩
  case call =>
    intro args named ha hn
    exact ⟨fun e h => (List.mem_append.1 h).elim (ha e) (hn e), nofun⟩
  case method =>
    intro name args named ha hn
    exact ⟨fun e h => (List.mem_append.1 h).elim (ha e) (hn e), nofun⟩
  case operandExpr => exact fun e he e' h => Operand.expr.inj h ▸ he
  case function => exact fun f => nofun
  case stageExpr => exact fun e he e' h => Stage.expr.inj h ▸ he
  case operandsCons => exact fun o os ho hos e h => (List.mem_cons.1 h).elim (ho e) (hos e)
  case namedCons => exact fun p os hp hos e h => (List.mem_cons.1 h).elim (hp e) (hos e)
  case stagesCons => exact fun s ss hs hss e h => (List.mem_cons.1 h).elim (hs e) (hss e)

/-- `s` is a stage of a pipeline on the way through the expression or through one of its operands.
Pipelines within `s` have stages of their own. -/
inductive Expr.IsStageOf (s : Expr) : Expr → Prop where
  | here {target : Expr} {op : Operation} (h : .expr s ∈ op.stages) : IsStageOf s (.step target op)
  | target {target : Expr} {op : Operation} (h : IsStageOf s target) :
    IsStageOf s (.step target op)
  | operand {target e : Expr} {op : Operation} (he : .expr e ∈ op.operands) (h : IsStageOf s e) :
    IsStageOf s (.step target op)

@[simp] theorem Expr.not_isStageOf_origin {s : Expr} {o : Origin} : ¬ s.IsStageOf (.origin o) :=
  nofun

@[simp] theorem Expr.isStageOf_step {s target : Expr} {op : Operation} :
    s.IsStageOf (.step target op) ↔
      .expr s ∈ op.stages ∨ s.IsStageOf target ∨ ∃ e, .expr e ∈ op.operands ∧ s.IsStageOf e := by
  constructor
  · rintro (h | h | ⟨he, h⟩)
    · exact .inl h
    · exact .inr (.inl h)
    · exact .inr (.inr ⟨_, he, h⟩)
  · rintro (h | h | ⟨e, he, h⟩)
    · exact .here h
    · exact .target h
    · exact .operand he h

/-- What holds of an expression whenever it holds of all its stages, holds of all expressions. -/
theorem Expr.ind_stages {motive : Expr → Prop}
    (expr : ∀ e, (∀ s : Expr, s.IsStageOf e → motive s) → motive e) : ∀ e, motive e := by
  suffices hstages : ∀ e s : Expr, s.IsStageOf e → motive s from fun e => expr e (hstages e)
  intro e
  induction e using Expr.ind with
  | origin o => exact nofun
  | step target op ht hop hst =>
    intro s hs
    cases hs with
    | here h => exact expr s (hst s h)
    | target h => exact ht s h
    | operand he h => exact hop _ he s h

/-- `P` holds of an expression, of its stages, of their stages, and so on. -/
inductive Expr.Throughout (P : Expr → Prop) : Expr → Prop where
  | intro {e : Expr} (here : P e) (stages : ∀ s : Expr, s.IsStageOf e → Throughout P s) :
    Throughout P e

namespace Expr.Throughout

variable {P Q : Expr → Prop} {e : Expr}

theorem here (he : e.Throughout P) : P e := by
  cases he with
  | intro here stages => exact here

theorem of_forall (h : ∀ e, P e) (e : Expr) : e.Throughout P := by
  induction e using Expr.ind_stages with
  | expr e ih => exact .intro (h e) ih

theorem mono (h : ∀ e, P e → Q e) (he : e.Throughout P) : e.Throughout Q := by
  induction he with
  | intro here _ ih => exact .intro (h _ here) ih

end Expr.Throughout

end Deferred
