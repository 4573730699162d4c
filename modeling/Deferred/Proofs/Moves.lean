import Deferred.Probe.Move
import Deferred.Proofs.PartialApplication
import Mathlib.Data.List.Forall2

/-!
# Probes move as safe expressions do

A probe makes its moves at once; an expression records them as operations and makes them later. Main
statement (`Probe.resolve_moves`): both end at the same value or in the same fault.

The two treat absence in different places. A probe puts absence where an access fails, move by move,
and evaluation does so for all operations at once, by the way of navigation of its context. So one
move is compared with one operation (`Probe.Move.RecordedAs.evalOn_eq`), and a chain of any length
follows by induction (`Probe.eval_steps`).
-/

namespace Deferred

/-! ## Literal operands -/

section Literals

variable [Decimals] [Patterns] (host : Host) (c : Context)

theorem evalOperands_literals (vs : List Value) :
    evalOperands host c (vs.map .literal) = pure vs := by
  induction vs with
  | nil => rfl
  | cons v vs ih => simp [evalOperands, Operand.eval, ih]

theorem evalNamed_literals (named : List (String × Value)) :
    evalNamed host c (named.map fun (k, v) => (k, .literal v)) = pure named := by
  induction named with
  | nil => rfl
  | cons p named ih => simp [evalNamed, Operand.eval, ih]

end Literals

/-- Safe navigation gives absence where a probe does. -/
theorem Navigation.safe_access (x : Except Fault Value) :
    safe.access x = .ok (Probe.orUnset x) := by
  cases x <;> rfl

namespace Probe

/-- The operations that record a move: arguments are literals, and those with names come in any
order, in which the last value of a name counts. -/
inductive Move.RecordedAs : Move → Operation → Prop where
  | attr (name : String) : RecordedAs (.attr name) (.attr name)
  | item (key : Value) : RecordedAs (.item key) (.item (.literal key))
  | call (args : List Value) (named : List (String × Value)) :
    RecordedAs (.call args (Dict.ofList named))
      (.call (args.map .literal) (named.map fun (k, v) => (k, .literal v)))
  | method (name : String) (args : List Value) (named : List (String × Value)) :
    RecordedAs (.method name args (Dict.ofList named))
      (.method name (args.map .literal) (named.map fun (k, v) => (k, .literal v)))

/-- `Move.operation` records the names in their ascending order. -/
theorem Move.recordedAs_operation (m : Move) : m.RecordedAs m.operation := by
  cases m with
  | attr name => exact .attr name
  | item key => exact .item key
  | call args named =>
    have h := RecordedAs.call args named.toList
    rwa [named.ofList_toList] at h
  | method name args named =>
    have h := RecordedAs.method name args named.toList
    rwa [named.ofList_toList] at h

/-! ## One move -/

/-- A probe at the outcome of a call is nothing more than the outcome. -/
theorem map_value_probe (x : Except Fault Value) :
    (x >>= fun v => pure (⟨v⟩ : Probe)).map value = x := by
  cases x <;> rfl

/-- A recorded move has on a running value the outcome that it has on a probe there. -/
theorem Move.RecordedAs.evalOn_eq [Decimals] [Patterns] {m : Move} {op : Operation}
    (h : m.RecordedAs op) (host : Host) {c : Context} (hnav : c.navigation = .safe) (v : Value) :
    op.evalOn host c v = liftM ((move host ⟨v⟩ m).map value) := by
  cases h with
  | attr name =>
    rw [Operation.evalOn, hnav, Navigation.safe_access]
    rfl
  | item key =>
    rw [Operation.evalOn, hnav, Operand.eval, pure_bind, Navigation.safe_access]
    rfl
  | call args named =>
    rw [Operation.evalOn, evalOperands_literals, evalNamed_literals, pure_bind, pure_bind, move,
      Probe.call, map_value_probe]
  | method name args named =>
    rw [Operation.evalOn, evalOperands_literals, evalNamed_literals, hnav, Navigation.safe_access,
      Eval.lift_ok, pure_bind, pure_bind, pure_bind, move, Probe.method, map_value_probe]

/-- Nothing that a move records is an expression. -/
theorem Move.RecordedAs.placeholders_eq_nil {m : Move} {op : Operation} (h : m.RecordedAs op) :
    op.placeholders = [] := by
  have hargs : ∀ (args : List Value) (named : List (String × Value)),
      ∀ o ∈ args.map Operand.literal ++ (named.map fun (k, v) => (k, Operand.literal v)).map (·.2),
        ∃ v, o = .literal v := by
    intro args named o ho
    rw [List.map_map] at ho
    rcases List.mem_append.1 ho with ho | ho
    · obtain ⟨v, -, rfl⟩ := List.mem_map.1 ho
      exact ⟨v, rfl⟩
    · obtain ⟨⟨k, v⟩, -, rfl⟩ := List.mem_map.1 ho
      exact ⟨v, rfl⟩
  have hliterals : ∀ o ∈ op.operands, ∃ v, o = .literal v := by
    cases h with
    | attr name => exact nofun
    | item key => exact fun o ho => ⟨key, List.mem_singleton.1 ho⟩
    | call args named => exact hargs args named
    | method name args named => exact hargs args named
  rw [op.placeholders_eq, List.flatMap_eq_nil_iff]
  intro o ho
  obtain ⟨v, rfl⟩ := hliterals o ho
  rfl

/-! ## Any number of moves -/

variable {ms : List Move} {ops : List Operation}

/-- Recording moves on an expression makes them from its value on. -/
theorem eval_steps [Decimals] [Patterns] (h : List.Forall₂ Move.RecordedAs ms ops) (host : Host)
    {c : Context} (hnav : c.navigation = .safe) (e : Expr) :
    (e.steps ops).eval host c =
      e.eval host c >>= fun v => liftM ((moves host ⟨v⟩ ms).map value) := by
  -- The expression is general, since every operation comes after those before it.
  induction h generalizing e with
  | nil => exact (bind_pure _).symm
  | @cons m op ms ops hm _ ih =>
    show ((e.step op).steps ops).eval host c = _
    rw [ih, Expr.eval, bind_assoc]
    refine bind_congr fun v => ?_
    rw [hm.evalOn_eq host hnav v, moves]
    cases move host ⟨v⟩ m with
    | error f => rfl
    | ok p => rfl

theorem placeholders_steps (h : List.Forall₂ Move.RecordedAs ms ops) (e : Expr) :
    (e.steps ops).placeholders = e.placeholders := by
  induction h generalizing e with
  | nil => rfl
  | @cons m op ms ops hm _ ih =>
    show ((e.step op).steps ops).placeholders = _
    rw [ih, Expr.placeholders, hm.placeholders_eq_nil, List.append_nil]

/-- Moves made by a probe at a value, and the same moves recorded on a placeholder and resolved
safely with that value, end at the same value or in the same fault, in whatever order names are
recorded. -/
theorem resolve_moves [Decimals] [Patterns] (host : Host) (v : Value) (ms : List Move) :
    (Move.expr ms).resolve host ⟨[v], ∅, .safe⟩ =
      (moves host ⟨v⟩ ms).map (fun p => .value p.value) ∧
    ∀ ops, List.Forall₂ Move.RecordedAs ms ops →
      (Expr.it.steps ops).resolve host ⟨[v], ∅, .safe⟩ =
        (moves host ⟨v⟩ ms).map fun p => .value p.value := by
  have hrecorded : ∀ ops, List.Forall₂ Move.RecordedAs ms ops →
      (Expr.it.steps ops).resolve host ⟨[v], ∅, .safe⟩ =
        (moves host ⟨v⟩ ms).map fun p => .value p.value := by
    intro ops h
    have hready : (Expr.it.steps ops).Ready { positional := [v], navigation := .safe } := by
      rw [Expr.Ready, Expr.resolvableWith, Expr.requirements, placeholders_steps h]
      rfl
    rw [Expr.resolve_of_ready hready]
    show Except.map _ (Eval.outcome _ 0) = _
    rw [eval_steps h host rfl, Eval.outcome_bind (Expr.it.takes_eval host _)]
    show (Eval.outcome (liftM _) _).map _ = _
    rw [Eval.outcome_lift]
    cases moves host ⟨v⟩ ms with
    | error f => rfl
    | ok p => rfl
  have hoperations : List.Forall₂ Move.RecordedAs ms (ms.map Move.operation) :=
    List.forall₂_map_right_iff.2 (List.forall₂_same.2 fun m _ => m.recordedAs_operation)
  exact ⟨hrecorded _ hoperations, hrecorded⟩

/-- Named arguments, not in the order of their names. -/
def fallback : List (String × Value) := [("strict", .null), ("default", .string "abc")]

/-- To the length of the last letter of a text, which `fallback` replaces if it is not there. -/
def lastLetter : List Move :=
  [.method "get" [.string "text"] (Dict.ofList fallback),
    .method "split" [.string ""] (Dict.ofList []), .item (.integer (-1)), .attr "len",
    .call [] (Dict.ofList [])]

/-- `lastLetter`, recorded, and a call of the length. -/
def lastLetterCalled : List Operation :=
  [.method "get" [.literal (.string "text")] (fallback.map fun (k, v) => (k, .literal v)),
    .method "split" [.literal (.string "")] [], .item (.literal (.integer (-1))), .attr "len",
    .call [] [], .call [] []]

/-- On an object without a text the length is one, and calling it is a fault; on absence everything
is absent. -/
theorem resolve_lastLetter :
    List.Forall₂ Move.RecordedAs (lastLetter ++ [.call [] (Dict.ofList [])]) lastLetterCalled ∧
    moves Host.stock ⟨.object ∅⟩ lastLetter = .ok ⟨.integer 1⟩ ∧
    (Expr.it.steps lastLetterCalled).resolve Host.stock ⟨[.object ∅], ∅, .safe⟩ =
      .error (.notCallable .integer) ∧
    (Expr.it.steps lastLetterCalled).resolve Host.stock ⟨[.unset], ∅, .safe⟩ =
      .ok (.value .unset) := by
  have hrecorded :
      List.Forall₂ Move.RecordedAs (lastLetter ++ [.call [] (Dict.ofList [])]) lastLetterCalled :=
    .cons (.method _ _ _) (.cons (.method _ [.string ""] []) (.cons (.item _) (.cons (.attr _)
      (.cons (.call [] []) (.cons (.call [] []) .nil)))))
  refine ⟨hrecorded, rfl, ?_, ?_⟩
  · rw [(resolve_moves Host.stock (.object ∅) _).2 _ hrecorded]
    rfl
  · rw [(resolve_moves Host.stock .unset _).2 _ hrecorded]
    rfl

end Probe

end Deferred
