import Deferred.Proofs.Members
import Deferred.Proofs.Outcomes

/-!
# The tables of built-in methods and what is behind them

Which methods a value has is written down twice: `Builtin.has` looks a name up in a table, and
`Builtin.invoke` tells the names apart once more. A method is bound by the table and called, perhaps
much later and far away, by the implementation.

Main statement (`Builtin.tables_agree`): the two agree on all values and names. So a method that was
looked up can be called, and no evaluation reports an unknown method unless it was given one. For
that, evaluation has to keep to methods that are there or were given (`Value.Known`).
-/

namespace Deferred

/-- A method is reported as unknown in other words than a bad argument of a method. -/
theorem Fault.IsArgument.message_ne {f : Fault} (h : f.IsArgument) (name kind : String) :
    f.message ≠ "Type error: " ++ ("Unknown method " ++ name ++ " on " ++ kind) := by
  intro hmessage
  cases f with
  | type cause =>
    have hcause : cause.message = "Unknown method " ++ name ++ " on " ++ kind :=
      (String.append_right_inj _).1 hmessage
    -- The first letter tells the two apart.
    have hletter : cause.message.toList.head? ≠ some 'U' := by
      cases cause with
      | argumentMissing method =>
        show ("." ++ method ++ "() requires an argument").toList.head? ≠ _
        simp
      | argumentNotString method kind =>
        show ("." ++ method ++ "() argument must be string, got " ++ kind.name).toList.head? ≠ _
        simp
      | invalidPattern text =>
        show ("invalid regex: " ++ text).toList.head? ≠ _
        simp
      | _ => exact h.elim
    rw [hcause] at hletter
    exact hletter (by simp)
  | _ => exact h

/-! ## Tables and implementation -/

namespace Builtin

variable [Patterns] {v : Value} {name : String} {args : List Value} {named : Named}

/-- The methods of a value fail for their arguments, unless there is no such method. -/
theorem isFaultOf_of_invoke {f : Fault} (h : invoke v name args named = .error f) :
    IsFaultOf v name f :=
  (yields_invoke Value.kept_true trivial name (fun _ _ => trivial) fun _ _ => trivial).failsOnly f h

/-- Nothing is implemented under a name that is not in the table. -/
theorem invoke_of_not_has (h : has v name = false) (args : List Value) (named : Named) :
    invoke v name args named = .error (.type (.unknownMethod name v.kind)) := by
  -- All branches but the last one are under names that the table has.
  cases v with
  | string s =>
    show invokeString s name args = _
    rw [invokeString.eq_def]
    split
    all_goals first | rfl | cases h
  | array items =>
    show invokeArray items name args = _
    rw [invokeArray.eq_def]
    split
    all_goals first | rfl | cases h
  | object fields =>
    show invokeObject fields name args named = _
    rw [invokeObject.eq_def]
    split
    all_goals first | rfl | cases h
  | _ => rfl

theorem invoke_isUnknownMethod_iff :
    (∃ f, invoke v name args named = .error f ∧ f.IsUnknownMethod) ↔ has v name = false := by
  constructor
  · rintro ⟨f, hf, hunknown⟩
    rcases isFaultOf_of_invoke hf with harg | ⟨hhas, -⟩
    · exact absurd hunknown harg.not_isUnknownMethod
    · exact hhas
  · exact fun h => ⟨_, invoke_of_not_has h args named, trivial⟩

theorem invoke_message_iff :
    (∃ f, invoke v name args named = .error f ∧
      f.message = "Type error: " ++ ("Unknown method " ++ name ++ " on " ++ v.kind.name)) ↔
      has v name = false := by
  constructor
  · rintro ⟨f, hf, hmessage⟩
    rcases isFaultOf_of_invoke hf with harg | ⟨hhas, -⟩
    · exact absurd hmessage (harg.message_ne name v.kind.name)
    · exact hhas
  · exact fun h => ⟨_, invoke_of_not_has h args named, rfl⟩

/-- A call of a method that is there has no other faults than those of its arguments. -/
theorem not_isUnknownMethod_of_call {host : Host} (hhas : has v name = true) {f : Fault}
    (h : (Value.method v name).call host args named = .error f) : ¬ f.IsUnknownMethod := by
  intro hunknown
  have hnot : has v name = false := invoke_isUnknownMethod_iff.1 ⟨f, h, hunknown⟩
  rw [hnot] at hhas
  cases hhas

end Builtin

/-! ## Looking up methods -/

namespace Value

variable {v r : Value} {name m : String}

/-- A method that is looked up is stored in the value, or it is its own of this name. -/
def LooksUp (v : Value) (name : String) (r : Value) (m : String) : Prop :=
  method r m ∈ v.members ∨ r = v ∧ m = name ∧ Builtin.has v name = true

theorem looksUp_of_attr (h : v.attr name = .ok (method r m)) : v.LooksUp name r m := by
  rw [attr.eq_def] at h
  split at h
  · cases h
  · split at h
    · next hw =>
      cases h
      exact .inl (Dict.mem_values_iff.2 ⟨name, hw⟩)
    · cases h
  · split at h
    · next hhas =>
      cases h
      exact .inr ⟨rfl, rfl, hhas⟩
    · cases h

theorem looksUp_of_callee (h : v.callee name = .ok (method r m)) : v.LooksUp name r m := by
  rw [callee.eq_def] at h
  split at h
  · cases h
  · split at h
    · next hhas =>
      cases h
      exact .inr ⟨rfl, rfl, hhas⟩
    · split at h
      · split at h
        · next hw =>
          cases h
          exact .inl (Dict.mem_values_iff.2 ⟨name, hw⟩)
        · cases h
      · cases h

/-- A method call finds every method of a value. -/
theorem callee_of_has (h : Builtin.has v name = true) : v.callee name = .ok (method v name) := by
  rw [callee.eq_def]
  split
  · cases h
  · exact if_pos h

end Value

/-- What is not absent was found, also by safe navigation. -/
theorem Navigation.eq_ok_of_access {n : Navigation} {x : Except Fault Value} {v : Value}
    (h : n.access x = .ok v) (hv : v ≠ .unset) : x = .ok v := by
  cases n with
  | strict => exact h
  | safe =>
    cases x with
    | error f =>
      cases h
      exact absurd rfl hv
    | ok w => exact h

/-! ## Methods in a whole evaluation -/

section Known

variable {given : Value → String → Prop}

/-- All methods in a value, at every depth, are there or given. -/
inductive Value.Known (given : Value → String → Prop) : Value → Prop where
  | intro {v : Value}
    (hmethod : ∀ r m, v = .method r m → Builtin.has r m = true ∨ given r m)
    (hconstituents : ∀ w ∈ v.constituents, Known given w) : Known given v

/-- The functions of the host return no other methods than those that are there or given, if they
get no others. -/
def Host.KeepsKnown (host : Host) (given : Value → String → Prop) : Prop :=
  ∀ f args named v, (∀ w ∈ args, w.Known given) → (∀ w ∈ named.values, w.Known given) →
    host f args named = .ok v → v.Known given

/-- If the fault is an unknown method, then that of a given one, unless the host reports it. -/
def Fault.BlamesGiven (host : Host) (given : Value → String → Prop) (f : Fault) : Prop :=
  f.IsUnknownMethod →
    (∃ r m, given r m ∧ Builtin.has r m = false ∧ f = .type (.unknownMethod m r.kind)) ∨
      ∃ g args named, host g args named = .error f

theorem Value.Known.of_mem_constituents {v w : Value} (h : v.Known given)
    (hw : w ∈ v.constituents) : w.Known given := by
  cases h with
  | intro hmethod hconstituents => exact hconstituents w hw

theorem Value.Known.method {r : Value} {m : String} (h : (Value.method r m).Known given) :
    Builtin.has r m = true ∨ given r m := by
  cases h with
  | intro hmethod hconstituents => exact hmethod r m rfl

theorem Value.Known.of_method {r : Value} {m : String} (h : Builtin.has r m = true ∨ given r m)
    (hr : r.Known given) : (Value.method r m).Known given := by
  refine .intro (fun r' m' heq => ?_) (List.forall_mem_singleton.2 hr)
  cases heq
  exact h

theorem Value.kept_known : Value.Kept (Value.Known given) where
  plain v hv := by
    cases v with
    | array items => exact hv.elim
    | object fields => exact hv.elim
    | function f => exact hv.elim
    | method r m => exact hv.elim
    | _ => exact .intro nofun nofun
  array_iff items := ⟨fun h w hw => h.of_mem_constituents hw, fun h => .intro nofun h⟩
  field fields h v hv := h.of_mem_constituents hv
  method v name hv hhas := .of_method (.inl hhas) hv
  receiver v name h := h.of_mem_constituents List.mem_cons_self

/-- No step of an evaluation makes a method that is neither there nor given. -/
theorem keeps_known {host : Host} (h : host.KeepsKnown given) (n : Navigation) :
    Keeps (Value.Known given) (Fault.BlamesGiven host given) host n where
  kept := Value.kept_known
  calculation f hf hunknown := absurd hunknown hf.2
  lookup _ f hf hunknown := absurd hunknown hf.2
  argument f hf hunknown := absurd hunknown hf.not_isUnknownMethod
  unknownMethod v name hv hhas _ := by
    rcases hv.method with htrue | hgiven
    · rw [hhas] at htrue
      cases htrue
    · exact .inl ⟨v, name, hgiven, hhas, rfl⟩
  notCallable _ hunknown := hunknown.elim
  host f args named hargs hnamed := {
    value := fun v hv => h f args named v hargs hnamed hv
    failsOnly := fun fault hfault _ => .inr ⟨f, args, named, hfault⟩ }

/-! ### The functions of `Host.stock` -/

theorem Host.exists_of_unary {name : String} {f : Value → Except Fault Value} {args : List Value}
    {v : Value} (h : unary name f args = .ok v) : ∃ w ∈ args, f w = .ok v := by
  cases args with
  | nil => cases h
  | cons w ws => exact ⟨w, List.mem_cons_self, h⟩

theorem Host.isPlain_of_double {v w : Value} (h : double v = .ok w) : w.IsPlain := by
  rw [double] at h
  split at h
  · cases h
  · split at h
    · cases h
      trivial
    · cases h

theorem Value.Known.echo {args : List Value} {named : Named} (hargs : ∀ w ∈ args, w.Known given)
    (hnamed : ∀ w ∈ named.values, w.Known given) : (Host.echo args named).Known given := by
  refine .intro nofun fun w hw => ?_
  obtain ⟨key, hkey⟩ := Dict.mem_values_iff.1 hw
  have hpair := Dict.mem_of_get?_ofList hkey
  rcases List.mem_pair.1 hpair with h | h
  · cases h
    exact .intro nofun hargs
  · cases h
    exact .intro nofun hnamed

/-- These functions make no methods. -/
theorem Host.stock_keepsKnown [Decimals] : Host.stock.KeepsKnown given := by
  intro f args named v hargs hnamed h
  have hplain : ∀ w : Value, w.IsPlain → w.Known given := Value.kept_known.plain
  rw [stock] at h
  split at h
  · obtain ⟨w, hw, hv⟩ := exists_of_unary h
    cases hv
    exact hargs _ hw
  · obtain ⟨w, hw, hv⟩ := exists_of_unary h
    exact hplain v (isPlain_of_double hv)
  · obtain ⟨w, hw, hv⟩ := exists_of_unary h
    cases hv
    exact hplain _ trivial
  · obtain ⟨w, hw, hv⟩ := exists_of_unary h
    cases hv
    exact hplain _ trivial
  · cases h
  · cases h
  · cases h
    exact hplain _ trivial
  · cases h
    exact .echo hargs hnamed
  · rw [add.eq_def] at h
    split at h
    · next v' w' ws =>
      have hv' : v'.Known given := hargs v' (by simp)
      have hw' : w'.Known given := hargs w' (by simp)
      exact (BinaryOp.yields_apply Value.kept_known _ hv' hw').value v h
    · cases h
  · cases h

end Known

/-- A call fails for an unknown method exactly if the name is not in the table, also by its message.
A method call finds every method in the table, and a method that is looked up, under any navigation,
is stored in the value or never fails like that. An evaluation that is given some methods that are
not there, in its expression, by its arguments or by the host, makes no others, and reports no other
as unknown; if it is given none, only the host can report one. -/
theorem Builtin.tables_agree [Decimals] [Patterns] (host : Host) :
    (∀ v name args named,
      ((∃ f, invoke v name args named = .error f ∧ f.IsUnknownMethod) ↔ has v name = false) ∧
      ((∃ f, invoke v name args named = .error f ∧
        f.message = "Type error: " ++ ("Unknown method " ++ name ++ " on " ++ v.kind.name)) ↔
        has v name = false)) ∧
    (∀ (n : Navigation) v name,
      (has v name = true → n.access (v.callee name) = .ok (.method v name)) ∧
      ∀ r m, n.access (v.attr name) = .ok (.method r m) ∨
          n.access (v.callee name) = .ok (.method r m) →
        .method r m ∈ v.members ∨ r = v ∧ m = name ∧
          ∀ args named f, (Value.method r m).call host args named = .error f →
            ¬ f.IsUnknownMethod) ∧
    ∀ given, host.KeepsKnown given → ∀ (e : Expr) (c : Context),
      e.Holds (Value.Known given) → c.Holds (Value.Known given) →
      Yields (Resolution.Holds (Value.Known given)) (Fault.BlamesGiven host given)
        (e.resolve host c) := by
  refine ⟨fun v name args named => ?_, fun n v name => ⟨fun hhas => ?_, fun r m h => ?_⟩,
    fun given hhost e c he hc => ?_⟩
  · exact ⟨invoke_isUnknownMethod_iff, invoke_message_iff⟩
  · rw [Value.callee_of_has hhas]
    cases n <;> rfl
  · have hlooksUp : v.LooksUp name r m := by
      rcases h with h | h
      · exact Value.looksUp_of_attr (Navigation.eq_ok_of_access h Value.noConfusion)
      · exact Value.looksUp_of_callee (Navigation.eq_ok_of_access h Value.noConfusion)
    rcases hlooksUp with hstored | ⟨rfl, rfl, hhas⟩
    · exact .inl hstored
    · exact .inr ⟨rfl, rfl, fun args named f hf => not_isUnknownMethod_of_call hhas hf⟩
  · have hmissing : e.Throughout (Expr.ReadySupplies (Fault.BlamesGiven host given)) :=
      .of_forall (fun e c _ => Context.suppliesOr_of_forall fun p hunknown => hunknown.elim) e
    exact Expr.yields_resolve (keeps_known hhost) (fun _ hunknown => hunknown.elim) hmissing hc he

/-- Calls the first item of its argument. -/
def Expr.firstCalled : Expr := ((it.attr "first").call [] []).call [] []

theorem Expr.holds_firstCalled {P : Value → Prop} : firstCalled.Holds P := by
  have hfirst : (it.attr "first").Holds P := .step (.placeholder _) nofun nofun nofun
  exact .step (.step hfirst nofun nofun nofun) nofun nofun nofun

/-- The method `m` of a text, in an array. -/
def Value.methodInArray (m : String) : Value := array [method (string "ab") m]

theorem Value.known_methodInArray (given : Value → String → Prop) (m : String)
    (h : Builtin.has (string "ab") m = true ∨ given (string "ab") m) :
    (methodInArray m).Known given := by
  have hmethod : (method (string "ab") m).Known given := .of_method h (kept_known.plain _ trivial)
  exact (kept_known.array_iff _).2 (List.forall_mem_singleton.2 hmethod)

/-- The method in the array is one of texts and lacks its argument, or texts do not have it and it
was given. -/
theorem Builtin.tables_agree_firstCalled :
    (Expr.firstCalled.resolve Host.stock { positional := [.methodInArray "contains"] } =
        .error (.type (.argumentMissing "contains")) ∧
      Fault.BlamesGiven Host.stock (fun _ _ => False) (.type (.argumentMissing "contains"))) ∧
    Expr.firstCalled.resolve Host.stock { positional := [.methodInArray "size"] } =
        .error (.type (.unknownMethod "size" .string)) ∧
      Fault.BlamesGiven Host.stock (fun r m => r = .string "ab" ∧ m = "size")
        (.type (.unknownMethod "size" .string)) := by
  have hresolve := (tables_agree Host.stock).2.2
  have hcontains := Value.known_methodInArray (fun _ _ => False) "contains" (.inl rfl)
  have hsize := Value.known_methodInArray (fun r m => r = .string "ab" ∧ m = "size") "size"
    (.inr ⟨rfl, rfl⟩)
  have hmissing := (hresolve _ Host.stock_keepsKnown Expr.firstCalled _ Expr.holds_firstCalled
    (Context.holds_single hcontains)).failsOnly
  have hunknown := (hresolve _ Host.stock_keepsKnown Expr.firstCalled _ Expr.holds_firstCalled
    (Context.holds_single hsize)).failsOnly
  exact ⟨⟨rfl, hmissing _ rfl⟩, rfl, hunknown _ rfl⟩

end Deferred
