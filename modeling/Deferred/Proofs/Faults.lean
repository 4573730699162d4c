import Deferred.Access

/-!
# Which values and which faults arise where

Operators fail for reasons of arithmetic or of types, access for missing data or types, built-in
methods for their arguments. `FailsOnly P x` says that whatever fault `x` has is one of `P`, and
`Yields P Q x` that moreover a value has `P`. Both follow the way an outcome is put together
(`Yields.bind`), so each operation is looked at once: with any property of values that it keeps
(`Value.Kept`), of which being a value is one.
-/

namespace Deferred

/-! ## Outcomes that fail only in some way -/

/-- Every fault of an outcome has the property `P`. -/
def FailsOnly {α : Type} (P : Fault → Prop) (x : Except Fault α) : Prop := ∀ f, x = .error f → P f

namespace FailsOnly

variable {α β : Type} {P Q : Fault → Prop}

theorem ok (a : α) : FailsOnly P (.ok a) := nofun

theorem error {f : Fault} (h : P f) : FailsOnly P (.error f : Except Fault α) := by
  intro g hg
  cases hg
  exact h

theorem bind {x : Except Fault α} {f : α → Except Fault β} (hx : FailsOnly P x)
    (hf : ∀ a, FailsOnly P (f a)) : FailsOnly P (x >>= f) := by
  cases x with
  | error g => exact error (hx g rfl)
  | ok a => exact hf a

theorem map {x : Except Fault α} (h : FailsOnly P x) (f : α → β) : FailsOnly P (x.map f) := by
  cases x with
  | error g => exact error (h g rfl)
  | ok a => exact ok (f a)

theorem mono {x : Except Fault α} (h : FailsOnly P x) (hPQ : ∀ f, P f → Q f) : FailsOnly Q x :=
  fun f hf => hPQ f (h f hf)

end FailsOnly

/-- The value of an outcome, if it has one, has the property `P`, and its fault the property `Q`. -/
structure Yields {α : Type} (P : α → Prop) (Q : Fault → Prop) (x : Except Fault α) : Prop where
  value : ∀ a, x = .ok a → P a
  failsOnly : FailsOnly Q x

namespace Yields

variable {α β : Type} {P : α → Prop} {P' : β → Prop} {Q Q' : Fault → Prop}

theorem ok {a : α} (h : P a) : Yields P Q (.ok a) where
  value b hb := by
    cases hb
    exact h
  failsOnly := .ok a

theorem error {f : Fault} (h : Q f) : Yields P Q (.error f) where
  value := nofun
  failsOnly := .error h

theorem bind {x : Except Fault α} {f : α → Except Fault β} (hx : Yields P Q x)
    (hf : ∀ a, P a → Yields P' Q (f a)) : Yields P' Q (x >>= f) := by
  cases x with
  | error g => exact .error (hx.failsOnly g rfl)
  | ok a => exact hf a (hx.value a rfl)

theorem mono {x : Except Fault α} (h : Yields P Q x) (hQ : ∀ f, Q f → Q' f) : Yields P Q' x where
  value := h.value
  failsOnly := h.failsOnly.mono hQ

/-- Nothing is said of the value. -/
theorem of_failsOnly {x : Except Fault α} (h : FailsOnly Q x) : Yields (fun _ => True) Q x where
  value _ _ := trivial
  failsOnly := h

end Yields

namespace Fault

/-- Faults of operators. -/
def IsOperator : Fault → Prop
  | type _ | divisionByZero | overflow _ => True
  | _ => False

/-- Faults of looking for something in a value. -/
def IsNavigation : Fault → Prop
  | type _ | access _ => True
  | _ => False

/-- A method that there is not. -/
def IsUnknownMethod : Fault → Prop
  | type (.unknownMethod _ _) => True
  | _ => False

/-- The argument of a method is missing or is not what it should be. -/
def IsArgument : Fault → Prop
  | type (.argumentMissing _) | type (.argumentNotString _ _) | type (.invalidPattern _) => True
  | _ => False

theorem IsArgument.isOperator {f : Fault} (h : f.IsArgument) : f.IsOperator := by
  cases f with
  | type cause => trivial
  | _ => exact h.elim

theorem IsArgument.not_isUnknownMethod {f : Fault} (h : f.IsArgument) : ¬ f.IsUnknownMethod := by
  cases f with
  | type cause =>
    cases cause with
    | unknownMethod name receiver => exact fun _ => h
    | _ => exact id
  | _ => exact id

end Fault

namespace Value

/-- Neither a container nor something to be called. -/
def IsPlain : Value → Prop
  | null | boolean _ | integer _ | float _ | string _ | unset => True
  | _ => False

theorem isPlain_of_ofDecimal [Decimals] {d : Decimals.Decimal} {v : Value}
    (h : ofDecimal d = some v) : v.IsPlain := by
  rw [ofDecimal] at h
  split at h
  · cases h
    trivial
  · obtain ⟨x, -, rfl⟩ := Option.map_eq_some_iff.1 h
    trivial

/-- A property that is kept by operators, access and built-in methods: what has no members has it,
an array has it if and only if its items do, an object only if its fields do, and a value shares it
with the methods that it has. -/
structure Kept (P : Value → Prop) : Prop where
  plain : ∀ v : Value, v.IsPlain → P v
  array_iff : ∀ items, P (array items) ↔ ∀ v ∈ items, P v
  field : ∀ fields, P (object fields) → ∀ v ∈ fields.values, P v
  method : ∀ v name, P v → Builtin.has v name = true → P (method v name)
  receiver : ∀ v name, P (.method v name) → P v

theorem kept_true : Kept fun _ => True where
  plain _ _ := trivial
  array_iff _ := iff_of_true trivial fun _ _ => trivial
  field _ _ _ _ := trivial
  method _ _ _ _ := trivial
  receiver _ _ _ := trivial

variable {P : Value → Prop}

theorem Kept.get? (hP : Kept P) {fields : Dict Value} (h : P (object fields)) {key : String}
    {v : Value} (hv : fields.get? key = some v) : P v :=
  hP.field fields h v (Dict.mem_values_iff.2 ⟨key, hv⟩)

end Value

/-- A fault of an operator, and not one of a method. -/
def Fault.IsCalculation (f : Fault) : Prop := f.IsOperator ∧ ¬ f.IsUnknownMethod

/-- A fault of access, and not one of a method. -/
def Fault.IsLookup (f : Fault) : Prop := f.IsNavigation ∧ ¬ f.IsUnknownMethod

/-! ## Operators -/

section Operators

variable {P : Value → Prop} (hP : Value.Kept P)

include hP

namespace Value

theorem yields_exact (op : BinaryOp) (a b : Int64) (r : Option Int64) :
    Yields P Fault.IsCalculation (exact op a b r) := by
  cases r with
  | some n => exact .ok (hP.plain _ trivial)
  | none => exact .error ⟨trivial, id⟩

theorem yields_floatPower (a b : Float) : Yields P Fault.IsCalculation (floatPower a b) := by
  rw [floatPower]
  split
  · exact .error ⟨trivial, id⟩
  · dsimp only
    split
    · exact .error ⟨trivial, id⟩
    · exact .ok (hP.plain _ trivial)

theorem yields_integerArith (op : ArithOp) (a b : Int64) :
    Yields P Fault.IsCalculation (integerArith op a b) := by
  unfold integerArith
  split
  · exact .error ⟨trivial, id⟩
  · cases op with
    | add => exact yields_exact hP _ _ _ _
    | subtract => exact yields_exact hP _ _ _ _
    | multiply => exact yields_exact hP _ _ _ _
    | divide =>
      dsimp only
      split
      · split
        · exact yields_exact hP _ _ _ _
        · exact .ok (hP.plain _ trivial)
      · exact yields_exact hP _ _ _ _
    | floorDivide => exact yields_exact hP _ _ _ _
    | modulo => exact yields_exact hP _ _ _ _
    | power =>
      dsimp only
      split
      · split
        · exact .error ⟨trivial, id⟩
        · exact yields_floatPower hP _ _
      · exact yields_exact hP _ _ _ _

theorem yields_integerShift (op : ShiftOp) (a b : Int64) :
    Yields P Fault.IsCalculation (integerShift op a b) := by
  unfold integerShift
  split
  · exact .error ⟨trivial, id⟩
  · cases op with
    | left => exact yields_exact hP _ _ _ _
    | right => exact .ok (hP.plain _ trivial)

theorem yields_floatArith (op : ArithOp) (a b : Float) :
    Yields P Fault.IsCalculation (floatArith op a b) := by
  unfold floatArith
  split
  · exact .error ⟨trivial, id⟩
  · cases op with
    | power => exact yields_floatPower hP a b
    | _ => exact .ok (hP.plain _ trivial)

theorem yields_mixedArith [Decimals] (op : ArithOp) (a b : Option Decimals.Decimal) (x y : Float) :
    Yields P Fault.IsCalculation (mixedArith op a b x y) := by
  rw [mixedArith.eq_def]
  split
  · split
    · exact .error ⟨trivial, id⟩
    · split
      · next v hv =>
        obtain ⟨d, -, hd⟩ := Option.bind_eq_some_iff.1 hv
        exact .ok (hP.plain _ (isPlain_of_ofDecimal hd))
      · exact yields_floatArith hP _ _ _
  · exact yields_floatArith hP _ _ _

theorem yields_arith [Decimals] (op : ArithOp) (v w : Value) :
    Yields P Fault.IsCalculation (arith op v w) := by
  rw [arith.eq_def]
  split
  · exact yields_integerArith hP _ _ _
  · exact yields_floatArith hP _ _ _
  · exact yields_mixedArith hP _ _ _ _ _
  · exact yields_mixedArith hP _ _ _ _ _
  · exact .error ⟨trivial, id⟩

theorem yields_repeated (s : String) (count : Int64) :
    Yields P Fault.IsCalculation (repeated s count) := by
  rw [repeated]
  split
  · exact .error ⟨trivial, id⟩
  · split
    · exact .ok (hP.plain _ trivial)
    · exact .ok (hP.plain _ trivial)

theorem yields_bits (op : BitOp) (v w : Value) : Yields P Fault.IsCalculation (bits op v w) := by
  rw [bits.eq_def]
  split
  · exact .ok (hP.plain _ trivial)
  · exact .ok (hP.plain _ trivial)
  · exact .error ⟨trivial, id⟩

theorem yields_shift (op : ShiftOp) (v w : Value) :
    Yields P Fault.IsCalculation (shift op v w) := by
  rw [shift.eq_def]
  split
  · exact yields_integerShift hP _ _ _
  · exact .error ⟨trivial, id⟩

end Value

/-- Binary operators fail for types, a zero divisor or a result too large. Only joined arrays have
members, and these are those of the two. -/
theorem BinaryOp.yields_apply [Decimals] (op : BinaryOp) {v w : Value} (hv : P v) (hw : P w) :
    Yields P Fault.IsCalculation (op.apply v w) := by
  rw [apply]
  split
  · refine .ok (hP.plain _ ?_)
    cases op <;> trivial
  · rw [applyPresent.eq_def]
    split
    · exact .ok (hP.plain _ trivial)
    · exact .ok (hP.plain _ trivial)
    · split
      · exact .ok (hP.plain _ trivial)
      · exact .error ⟨trivial, id⟩
    · split
      · exact .ok (hP.plain _ trivial)
      · next xs ys _ =>
        refine .ok ((hP.array_iff _).2 ?_)
        exact List.forall_mem_append.2 ⟨(hP.array_iff xs).1 hv, (hP.array_iff ys).1 hw⟩
      · exact Value.yields_arith hP _ _ _
    · split
      · exact Value.yields_repeated hP _ _
      · exact Value.yields_repeated hP _ _
      · exact Value.yields_arith hP _ _ _
    · exact Value.yields_arith hP _ _ _
    · exact Value.yields_bits hP _ _ _
    · exact Value.yields_shift hP _ _ _

/-- Unary operators fail for types or a result too large. -/
theorem UnaryOp.yields_apply (op : UnaryOp) (v : Value) :
    Yields P Fault.IsCalculation (op.apply v) := by
  rw [apply.eq_def]
  split
  · exact .ok (hP.plain _ trivial)
  · split
    · exact .ok (hP.plain _ trivial)
    · exact .error ⟨trivial, id⟩
  · exact .ok (hP.plain _ trivial)
  · exact .ok (hP.plain _ trivial)
  · exact .ok (hP.plain _ trivial)
  · exact .ok (hP.plain _ trivial)
  · exact .ok (hP.plain _ trivial)
  · exact .error ⟨trivial, id⟩

end Operators

/-! ## Access -/

namespace Value

section Access

variable {P : Value → Prop} (hP : Kept P) {v : Value}

include hP

theorem yields_attr (hv : P v) (name : String) : Yields P Fault.IsLookup (v.attr name) := by
  rw [attr.eq_def]
  split
  · exact .ok hv
  · split
    · next hw => exact .ok (hP.get? hv hw)
    · exact .error ⟨trivial, id⟩
  · split
    · next hhas => exact .ok (hP.method _ _ hv hhas)
    · exact .error ⟨trivial, id⟩

theorem yields_callee (hv : P v) (name : String) : Yields P Fault.IsLookup (v.callee name) := by
  rw [callee.eq_def]
  split
  · exact .ok hv
  · split
    · next hhas => exact .ok (hP.method _ _ hv hhas)
    · split
      · split
        · next hw => exact .ok (hP.get? hv hw)
        · exact .error ⟨trivial, id⟩
      · exact .error ⟨trivial, id⟩

theorem yields_fieldItem {fields : Dict Value} (h : P (object fields)) (key : String) :
    Yields P Fault.IsLookup (fieldItem fields key) := by
  rw [fieldItem]
  split
  · next hw => exact .ok (hP.get? h hw)
  · exact .error ⟨trivial, id⟩

theorem yields_item (hv : P v) (key : Value) : Yields P Fault.IsLookup (v.item key) := by
  rw [item.eq_def]
  split
  · exact .ok hv
  · exact yields_fieldItem hP hv _
  · exact yields_fieldItem hP hv _
  · exact yields_fieldItem hP hv _
  · exact yields_fieldItem hP hv _
  · split
    · next hw => exact .ok ((hP.array_iff _).1 hv _ (mem_of_atIndex? hw))
    · exact .error ⟨trivial, id⟩
  · split
    · exact .ok (hP.plain _ trivial)
    · exact .error ⟨trivial, id⟩
  · exact .error ⟨trivial, id⟩
  · exact .error ⟨trivial, id⟩

end Access

end Value

/-! ## Calls -/

namespace Builtin

theorem failsOnly_argument (method : String) (args : List Value) :
    FailsOnly Fault.IsArgument (argument method args) := by
  cases args with
  | nil => exact .error trivial
  | cons v vs => exact .ok _

theorem failsOnly_textArgument (method : String) (args : List Value) :
    FailsOnly Fault.IsArgument (textArgument method args) := by
  refine .bind (failsOnly_argument method args) fun v => ?_
  cases v with
  | string s => exact .ok _
  | _ => exact .error trivial

/-- A fault of the method `name` of a value: of its argument, or that there is no such method. -/
def IsFaultOf (v : Value) (name : String) (f : Fault) : Prop :=
  f.IsArgument ∨ has v name = false ∧ f = .type (.unknownMethod name v.kind)

/-- What is done with an argument, given that there is one. -/
theorem yields_withArgument {α : Type} {P : Value → Prop} {v : Value} {name : String}
    {x : Except Fault α} {f : α → Except Fault Value} (hx : FailsOnly Fault.IsArgument x)
    (hf : ∀ a, Yields P Fault.IsArgument (f a)) : Yields P (IsFaultOf v name) (x >>= f) :=
  (Yields.bind (.of_failsOnly hx) fun a _ => hf a).mono fun _ h => .inl h

section Methods

variable {P : Value → Prop} (hP : Value.Kept P)

include hP

theorem keeps_textArray (pieces : List (List Char)) : P (textArray pieces) := by
  refine (hP.array_iff _).2 fun v hv => ?_
  obtain ⟨piece, -, rfl⟩ := List.mem_map.1 hv
  exact hP.plain _ trivial

theorem yields_hasMatch [Patterns] (s pattern : String) :
    Yields P Fault.IsArgument (hasMatch s pattern) := by
  rw [hasMatch]
  split
  · exact .ok (hP.plain _ trivial)
  · exact .error trivial

theorem yields_split (s : String) (args : List Value) :
    Yields P Fault.IsArgument (split s args) := by
  rw [split.eq_def]
  split
  · exact .ok (keeps_textArray hP _)
  · refine .bind (.of_failsOnly (failsOnly_textArgument _ _)) fun t _ => ?_
    split
    · exact .ok (keeps_textArray hP _)
    · exact .ok (keeps_textArray hP _)

theorem yields_invokeString [Patterns] (s name : String) (args : List Value) :
    Yields P (IsFaultOf (.string s) name) (invokeString s name args) := by
  have hplain : ∀ f : String → Bool,
      Yields P (IsFaultOf (.string s) name)
        (textArgument name args >>= fun t => .ok (.boolean (f t))) :=
    fun f => yields_withArgument (failsOnly_textArgument _ _) fun t => .ok (hP.plain _ trivial)
  rw [invokeString.eq_def]
  split
  · exact .ok (hP.plain _ trivial)
  · exact .ok (hP.plain _ trivial)
  · exact .ok (hP.plain _ trivial)
  · exact .ok (hP.plain _ trivial)
  · exact hplain _
  · exact hplain _
  · exact hplain _
  · exact yields_withArgument (failsOnly_textArgument _ _) fun t => yields_hasMatch hP s t
  · exact (yields_split hP s args).mono fun _ h => .inl h
  · exact .ok (hP.plain _ trivial)
  · exact .error (.inr ⟨by simp_all [has, names, stringNames], rfl⟩)

theorem yields_invokeArray {items : List Value} (h : P (.array items)) (name : String)
    (args : List Value) :
    Yields P (IsFaultOf (.array items) name) (invokeArray items name args) := by
  have hitem : ∀ o : Option Value, (∀ v ∈ o, v ∈ items) → P (o.getD .null) := by
    intro o ho
    cases o with
    | none => exact hP.plain _ trivial
    | some v => exact (hP.array_iff items).1 h v (ho v rfl)
  rw [invokeArray.eq_def]
  split
  · exact .ok (hP.plain _ trivial)
  · split
    · exact .ok (hP.plain _ trivial)
    · exact .ok (hP.plain _ trivial)
  · exact yields_withArgument (failsOnly_argument _ _) fun v => .ok (hP.plain _ trivial)
  · exact .ok (hitem _ fun v hv => List.mem_of_head? hv)
  · exact .ok (hitem _ fun v hv => List.mem_of_getLast? hv)
  · exact .error (.inr ⟨by simp_all [has, names, arrayNames], rfl⟩)

theorem yields_invokeObject {fields : Dict Value} (h : P (.object fields)) (name : String)
    {args : List Value} (hargs : ∀ v ∈ args, P v) {named : Named}
    (hnamed : ∀ v ∈ named.values, P v) :
    Yields P (IsFaultOf (.object fields) name) (invokeObject fields name args named) := by
  rw [invokeObject.eq_def]
  split
  · refine .ok ((hP.array_iff _).2 fun v hv => ?_)
    obtain ⟨key, -, rfl⟩ := List.mem_map.1 hv
    exact hP.plain _ trivial
  · exact .ok ((hP.array_iff _).2 (hP.field fields h))
  · refine yields_withArgument (failsOnly_textArgument _ _) fun key => .ok ?_
    cases hfield : fields.get? key with
    | some v => exact hP.get? h hfield
    | none =>
      -- The default is the second argument, else the named one, else null.
      show P ((args[1]?.or (named.get? "default")).getD .null)
      cases hsecond : args[1]? with
      | some v => exact hargs v (List.mem_of_getElem? hsecond)
      | none =>
        cases hdefault : named.get? "default" with
        | some v => exact hnamed v (Dict.mem_values_iff.2 ⟨_, hdefault⟩)
        | none => exact hP.plain _ trivial
  · exact .ok (hP.plain _ trivial)
  · exact yields_withArgument (failsOnly_textArgument _ _) fun key => .ok (hP.plain _ trivial)
  · exact .error (.inr ⟨by simp_all [has, names, objectNames], rfl⟩)

/-- Built-in methods fail for their arguments, or because there is no such method. -/
theorem yields_invoke [Patterns] {v : Value} (hv : P v) (name : String) {args : List Value}
    (hargs : ∀ v ∈ args, P v) {named : Named} (hnamed : ∀ v ∈ named.values, P v) :
    Yields P (IsFaultOf v name) (invoke v name args named) := by
  cases v with
  | string s => exact yields_invokeString hP s name args
  | array items => exact yields_invokeArray hP hv name args
  | object fields => exact yields_invokeObject hP hv name hargs hnamed
  | _ => exact .error (.inr ⟨rfl, rfl⟩)

end Methods

end Builtin

/-! ## Faults alone -/

theorem BinaryOp.failsOnly_apply [Decimals] (op : BinaryOp) (v w : Value) :
    FailsOnly Fault.IsOperator (op.apply v w) :=
  (op.yields_apply Value.kept_true trivial trivial).failsOnly.mono fun _ h => h.1

theorem Value.failsOnly_attr (v : Value) (name : String) :
    FailsOnly Fault.IsNavigation (v.attr name) :=
  (yields_attr kept_true trivial name).failsOnly.mono fun _ h => h.1

theorem Value.failsOnly_callee (v : Value) (name : String) :
    FailsOnly Fault.IsNavigation (v.callee name) :=
  (yields_callee kept_true trivial name).failsOnly.mono fun _ h => h.1

theorem Value.failsOnly_item (v key : Value) : FailsOnly Fault.IsNavigation (v.item key) :=
  (yields_item kept_true trivial key).failsOnly.mono fun _ h => h.1

end Deferred
