import Deferred.Expr.Traverse
import Deferred.Proofs.Operands

/-!
# Substitutions

A walk that counts anonymous placeholders gives each placeholder a number, the count before it. What
such a walk puts in the place of a placeholder may depend on the number, and that is all: such a
walk is a *substitution* (`Expr.run_mapOriginsM`), and its counter needs no further thought.

The laws are those of substitutions anywhere:

* `Expr.subst_placeholder` — placeholders put in for themselves change nothing;
* `Expr.subst_congr` — what is put in for placeholders that do not occur does not matter;
* `Expr.placeholders_subst` — what occurs afterwards is what was put in;
* `Expr.subst_subst` — two substitutions, one after the other, are one.

The one thing to watch is that a substitution that takes anonymous placeholders away changes the
numbers of those behind them. In `Expr.subst_subst` the new number is a function `φ` of the old one.
-/

namespace Deferred

/-! ## Numbers of placeholders -/

/-- How many positional arguments a placeholder has for itself. -/
def Placeholder.width : Placeholder → Nat
  | .anonymous => 1
  | .indexed _ => 0
  | .named _ => 0

/-- How many anonymous placeholders a list has. -/
def width : List Placeholder → Nat
  | [] => 0
  | p :: ps => p.width + width ps

@[simp] theorem width_nil : width [] = 0 := rfl

@[simp] theorem width_cons (p : Placeholder) (ps : List Placeholder) :
    width (p :: ps) = p.width + width ps := rfl

@[simp] theorem width_append (ps qs : List Placeholder) :
    width (ps ++ qs) = width ps + width qs := by
  induction ps with
  | nil => simp
  | cons p ps ih => simp [ih, Nat.add_assoc]

/-- Placeholders with their numbers, the first of which is `n`. -/
def slots (n : Nat) : List Placeholder → List (Nat × Placeholder)
  | [] => []
  | p :: ps => (n, p) :: slots (n + p.width) ps

@[simp] theorem slots_append (n : Nat) (ps qs : List Placeholder) :
    slots n (ps ++ qs) = slots n ps ++ slots (n + width ps) qs := by
  induction ps generalizing n with
  | nil => rfl
  | cons p ps ih => simp [slots, ih, Nat.add_assoc]

/-- The numbers do not change which placeholders there are. -/
theorem map_snd_slots (n : Nat) (ps : List Placeholder) : (slots n ps).map (·.2) = ps := by
  induction ps generalizing n with
  | nil => rfl
  | cons p ps ih => simp [slots, ih]

theorem mem_of_mem_slots {n k : Nat} {p : Placeholder} {ps : List Placeholder}
    (h : (k, p) ∈ slots n ps) : p ∈ ps := by
  rw [← map_snd_slots n ps]
  exact List.mem_map_of_mem h

theorem exists_mem_slots {p : Placeholder} {ps : List Placeholder} (n : Nat) (h : p ∈ ps) :
    ∃ k, (k, p) ∈ slots n ps := by
  rw [← map_snd_slots n ps] at h
  obtain ⟨⟨k, q⟩, hq, rfl⟩ := List.mem_map.1 h
  exact ⟨k, hq⟩

/-- The numbers of the anonymous placeholders are all from the first one up, without a gap. -/
theorem mem_slots_anonymous {n k : Nat} {ps : List Placeholder} :
    (k, .anonymous) ∈ slots n ps ↔ n ≤ k ∧ k < n + width ps := by
  induction ps generalizing n with
  | nil => simp [slots]
  | cons p ps ih =>
    simp only [slots, List.mem_cons, ih, width_cons, Prod.mk.injEq]
    cases p with
    | anonymous => simp [Placeholder.width]; omega
    | indexed i => simp [Placeholder.width]
    | named key => simp [Placeholder.width]

/-! ## Substitutions -/

/-- A substitution says which origin takes the place of a placeholder at a number. -/
abbrev Substitution := Nat → Placeholder → Origin

/-- How many anonymous placeholders an origin is. -/
def Origin.width (o : Origin) : Nat := Deferred.width o.placeholders

namespace Substitution

/-- The origin in the place of an origin at a number. -/
def origin (σ : Substitution) (n : Nat) : Origin → Origin
  | .placeholder p => σ n p
  | .bound v => .bound v

/-- The walk that makes the substitution and counts. -/
def walk (σ : Substitution) (o : Origin) : StateM Nat Origin := fun n => (σ.origin n o, n + o.width)

/-- `σ` and then `τ`, where the numbers are `φ` of what they were before. -/
def andThen (σ τ : Substitution) (φ : Nat → Nat) : Substitution := fun n p => τ.origin (φ n) (σ n p)

theorem origin_andThen (σ τ : Substitution) (φ : Nat → Nat) (n : Nat) (o : Origin) :
    (σ.andThen τ φ).origin n o = τ.origin (φ n) (σ.origin n o) := by
  cases o <;> rfl

end Substitution

/-- The expression after a substitution, its first anonymous placeholder having the number `n`. -/
def Expr.subst (σ : Substitution) (n : Nat) (e : Expr) : Expr := ((e.mapOriginsM σ.walk).run n).1

/-- The operand after a substitution. -/
def Operand.subst (σ : Substitution) (n : Nat) : Operand → Operand
  | .literal v => .literal v
  | .expr e => .expr (e.subst σ n)

/-- Operands after a substitution, one counted after the other. -/
def substOperands (σ : Substitution) (n : Nat) : List Operand → List Operand
  | [] => []
  | o :: os => o.subst σ n :: substOperands σ (n + width o.placeholders) os

/-- The placeholders of operands, one operand after the other. -/
abbrev placeholdersOf (os : List Operand) : List Placeholder := os.flatMap Operand.placeholders

theorem width_placeholdersOf_cons (o : Operand) (os : List Operand) :
    width (placeholdersOf (o :: os)) = width o.placeholders + width (placeholdersOf os) := by
  rw [placeholdersOf, List.flatMap_cons, width_append]

@[simp] theorem length_substOperands (σ : Substitution) (n : Nat) (os : List Operand) :
    (substOperands σ n os).length = os.length := by
  induction os generalizing n with
  | nil => rfl
  | cons o os ih => simp [substOperands, ih]

/-! ### The counting walk is the substitution -/

/-- What is done after a step that has been run. -/
theorem run_bind_of {α β : Type} {x : StateM Nat α} {f : α → StateM Nat β} {n k : Nat} {a : α}
    (h : x.run n = (a, k)) : (x >>= f).run n = (f a).run k := by
  rw [StateT.run_bind, h]
  rfl

theorem Operand.run_mapOriginsM {σ : Substitution} {o : Operand} {n : Nat}
    (h : ∀ e, .expr e = o →
      (e.mapOriginsM σ.walk).run n = (e.subst σ n, n + width e.placeholders)) :
    (o.mapOriginsM σ.walk).run n = (o.subst σ n, n + width o.placeholders) := by
  cases o with
  | literal v => rfl
  | expr e => rw [Operand.mapOriginsM, run_bind_of (h e rfl)]; rfl

theorem run_mapM_mapOriginsM {σ : Substitution} {os : List Operand}
    (h : ∀ e, .expr e ∈ os → ∀ n,
      (e.mapOriginsM σ.walk).run n = (e.subst σ n, n + width e.placeholders)) (n : Nat) :
    (os.mapM (Operand.mapOriginsM σ.walk)).run n =
      (substOperands σ n os, n + width (placeholdersOf os)) := by
  induction os generalizing n with
  | nil => rfl
  | cons o os ih =>
    have ho : (o.mapOriginsM σ.walk).run n = (o.subst σ n, n + width o.placeholders) :=
      Operand.run_mapOriginsM fun e he => h e (by simp [he]) n
    have hos := ih (fun e he => h e (List.mem_cons_of_mem _ he)) (n + width o.placeholders)
    rw [List.mapM_cons, run_bind_of ho, run_bind_of hos]
    simp [placeholdersOf, substOperands, Nat.add_assoc]
    rfl

theorem Operation.run_mapOriginsM {σ : Substitution} {op : Operation}
    (h : ∀ e, .expr e ∈ op.operands → ∀ n,
      (e.mapOriginsM σ.walk).run n = (e.subst σ n, n + width e.placeholders)) (n : Nat) :
    (op.mapOriginsM σ.walk).run n =
      (op.withOperands (substOperands σ n op.operands), n + width op.placeholders) := by
  rw [Operation.mapOriginsM_eq, Operation.mapOperandsM_eq, map_eq_pure_bind,
    run_bind_of (run_mapM_mapOriginsM h n), Operation.placeholders_eq]
  rfl

/-- A walk that puts in origins by number counts the anonymous placeholders that it meets. -/
theorem Expr.run_mapOriginsM (σ : Substitution) (e : Expr) (n : Nat) :
    (e.mapOriginsM σ.walk).run n = (e.subst σ n, n + width e.placeholders) := by
  -- What the walk returns is `subst` by definition, so the induction is about the counter.
  refine Prod.ext rfl ?_
  induction e using Expr.ind generalizing n with
  | origin o => rfl
  | step target op ht hop =>
    have ht : (target.mapOriginsM σ.walk).run n =
        (target.subst σ n, n + width target.placeholders) := Prod.ext rfl (ht n)
    have hop : (op.mapOriginsM σ.walk).run (n + width target.placeholders) = _ :=
      Operation.run_mapOriginsM (fun e he n => Prod.ext rfl (hop e he n)) _
    rw [Expr.mapOriginsM, run_bind_of ht, run_bind_of hop]
    simp [Expr.placeholders, Nat.add_assoc]
    rfl

/-! ## Substitution through the syntax -/

@[simp] theorem Expr.subst_origin (σ : Substitution) (n : Nat) (o : Origin) :
    (Expr.origin o).subst σ n = .origin (σ.origin n o) := rfl

@[simp] theorem Expr.subst_step (σ : Substitution) (n : Nat) (target : Expr) (op : Operation) :
    (target.step op).subst σ n =
      (target.subst σ n).step
        (op.withOperands (substOperands σ (n + width target.placeholders) op.operands)) := by
  have hop : (op.mapOriginsM σ.walk).run (n + width target.placeholders) = _ :=
    Operation.run_mapOriginsM (fun e _ n => e.run_mapOriginsM σ n) _
  rw [Expr.subst, Expr.mapOriginsM, run_bind_of (target.run_mapOriginsM σ n), run_bind_of hop]
  rfl

/-- The placeholders of one more operation are those before it and those of its operands. -/
theorem Expr.placeholders_step (target : Expr) (op : Operation) :
    (target.step op).placeholders = target.placeholders ++ placeholdersOf op.operands := by
  rw [Expr.placeholders, Operation.placeholders_eq]

/-! ### Nothing is changed -/

theorem substOperands_placeholder {os : List Operand}
    (he : ∀ e, .expr e ∈ os → ∀ n, e.subst (fun _ => .placeholder) n = e) (n : Nat) :
    substOperands (fun _ => .placeholder) n os = os := by
  induction os generalizing n with
  | nil => rfl
  | cons o os ih =>
    have ho : o.subst (fun _ => .placeholder) n = o := by
      cases o with
      | literal v => rfl
      | expr e => exact congrArg Operand.expr (he e List.mem_cons_self n)
    rw [substOperands, ho, ih fun e hm => he e (List.mem_cons_of_mem _ hm)]

/-- Placeholders put in for themselves change nothing. -/
theorem Expr.subst_placeholder (e : Expr) (n : Nat) : e.subst (fun _ => .placeholder) n = e := by
  induction e using Expr.ind generalizing n with
  | origin o => cases o <;> rfl
  | step target op ht hop =>
    rw [Expr.subst_step, ht, substOperands_placeholder hop, Operation.withOperands_operands]

/-! ### Only what occurs counts -/

theorem substOperands_congr {σ τ : Substitution} {os : List Operand} {n : Nat}
    (he : ∀ e, .expr e ∈ os → ∀ n, (∀ q ∈ slots n e.placeholders, σ q.1 q.2 = τ q.1 q.2) →
      e.subst σ n = e.subst τ n)
    (h : ∀ q ∈ slots n (placeholdersOf os), σ q.1 q.2 = τ q.1 q.2) :
    substOperands σ n os = substOperands τ n os := by
  induction os generalizing n with
  | nil => rfl
  | cons o os ih =>
    rw [placeholdersOf, List.flatMap_cons, slots_append, List.forall_mem_append] at h
    have ho : o.subst σ n = o.subst τ n := by
      cases o with
      | literal v => rfl
      | expr e => exact congrArg Operand.expr (he e List.mem_cons_self n h.1)
    rw [substOperands, substOperands, ho, ih (fun e hm => he e (List.mem_cons_of_mem _ hm)) h.2]

/-- Substitutions that agree on the placeholders of an expression, at their numbers, agree on the
expression. -/
theorem Expr.subst_congr {σ τ : Substitution} {e : Expr} {n : Nat}
    (h : ∀ q ∈ slots n e.placeholders, σ q.1 q.2 = τ q.1 q.2) : e.subst σ n = e.subst τ n := by
  induction e using Expr.ind generalizing n with
  | origin o =>
    cases o with
    | placeholder p => exact congrArg Expr.origin (h (n, p) List.mem_cons_self)
    | bound v => rfl
  | step target op ht hop =>
    rw [Expr.placeholders_step, slots_append, List.forall_mem_append] at h
    rw [subst_step, subst_step, ht h.1, substOperands_congr (fun e hm n => hop e hm) h.2]

/-! ### What occurs afterwards -/

/-- What a substitution leaves of placeholders that begin with the number `n`. -/
def Substitution.remains (σ : Substitution) (n : Nat) (ps : List Placeholder) : List Placeholder :=
  (slots n ps).flatMap fun q => (σ q.1 q.2).placeholders

section Remains

variable (σ : Substitution)

theorem Substitution.remains_append (n : Nat) (ps qs : List Placeholder) :
    σ.remains n (ps ++ qs) = σ.remains n ps ++ σ.remains (n + width ps) qs := by
  simp [remains]

theorem placeholdersOf_substOperands {os : List Operand}
    (he : ∀ e, .expr e ∈ os → ∀ n, (e.subst σ n).placeholders = σ.remains n e.placeholders)
    (n : Nat) : placeholdersOf (substOperands σ n os) = σ.remains n (placeholdersOf os) := by
  induction os generalizing n with
  | nil => rfl
  | cons o os ih =>
    have ho : (o.subst σ n).placeholders = σ.remains n o.placeholders := by
      cases o with
      | literal v => rfl
      | expr e => exact he e List.mem_cons_self n
    simp only [placeholdersOf, substOperands, List.flatMap_cons, σ.remains_append, ho]
    rw [← ih (fun e hm => he e (List.mem_cons_of_mem _ hm))]

/-- The placeholders after a substitution are those that it put in, in the order of the walk. -/
theorem Expr.placeholders_subst (e : Expr) (n : Nat) :
    (e.subst σ n).placeholders = σ.remains n e.placeholders := by
  induction e using Expr.ind generalizing n with
  | origin o =>
    cases o with
    | placeholder p => simp [placeholders, Origin.placeholders, Substitution.remains, slots,
        Substitution.origin]
    | bound v => rfl
  | step target op ht hop =>
    have hlen := length_substOperands σ (n + width target.placeholders) op.operands
    rw [Expr.subst_step, Expr.placeholders_step, Expr.placeholders_step,
      Operation.operands_withOperands hlen, ht, placeholdersOf_substOperands σ hop,
      σ.remains_append]

end Remains

/-! ### Two substitutions are one -/

/-- `φ` renumbers for `σ`: it goes up with what `σ` leaves of the anonymous placeholders. -/
def Substitution.Renumbers (σ : Substitution) (φ : Nat → Nat) : Prop :=
  ∀ n p, φ (n + p.width) = φ n + (σ n p).width

section AndThen

variable {σ τ : Substitution} {φ : Nat → Nat}

theorem Substitution.Renumbers.remains (hφ : σ.Renumbers φ) (n : Nat) (ps : List Placeholder) :
    φ (n + Deferred.width ps) = φ n + Deferred.width (σ.remains n ps) := by
  induction ps generalizing n with
  | nil => rfl
  | cons p ps ih =>
    calc φ (n + Deferred.width (p :: ps))
        = φ (n + p.width + Deferred.width ps) := by rw [width_cons, Nat.add_assoc]
      _ = φ n + (σ n p).width + Deferred.width (σ.remains (n + p.width) ps) := by rw [ih, hφ]
      _ = φ n + Deferred.width (σ.remains n (p :: ps)) := by
        simp [Substitution.remains, slots, Origin.width, Nat.add_assoc]

theorem Substitution.Renumbers.width_subst (hφ : σ.Renumbers φ) (e : Expr) (n : Nat) :
    φ (n + width e.placeholders) = φ n + width (e.subst σ n).placeholders := by
  rw [e.placeholders_subst, hφ.remains]

theorem substOperands_substOperands (hφ : σ.Renumbers φ) {os : List Operand}
    (he : ∀ e, .expr e ∈ os → ∀ n, (e.subst σ n).subst τ (φ n) = e.subst (σ.andThen τ φ) n)
    (n : Nat) :
    substOperands τ (φ n) (substOperands σ n os) = substOperands (σ.andThen τ φ) n os := by
  induction os generalizing n with
  | nil => rfl
  | cons o os ih =>
    have ih := ih fun e hm => he e (List.mem_cons_of_mem _ hm)
    cases o with
    | literal v => exact congrArg (Operand.literal v :: ·) (ih n)
    | expr e =>
      simp only [substOperands, Operand.subst, Operand.placeholders]
      rw [he e List.mem_cons_self n, ← hφ.width_subst, ih]

/-- Two substitutions, one after the other, are one, if `φ` follows the numbers. -/
theorem Expr.subst_subst (hφ : σ.Renumbers φ) (e : Expr) (n : Nat) :
    (e.subst σ n).subst τ (φ n) = e.subst (σ.andThen τ φ) n := by
  induction e using Expr.ind generalizing n with
  | origin o => rw [subst_origin, subst_origin, subst_origin, Substitution.origin_andThen]
  | step target op ht hop =>
    have hlen := length_substOperands σ (n + width target.placeholders) op.operands
    simp only [Expr.subst_step, Operation.operands_withOperands hlen]
    rw [ht, ← hφ.width_subst, substOperands_substOperands hφ hop,
      Operation.withOperands_withOperands hlen (length_substOperands ..)]

end AndThen

end Deferred
