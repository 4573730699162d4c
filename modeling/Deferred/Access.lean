import Deferred.Builtin
import Deferred.Host

/-!
# Access to members, and calls

An attribute of an object is one of its fields; strings and arrays have their built-in methods as
attributes. A method call prefers a built-in method to a field. Items are found by key in an object,
and by position, counted from the end if negative, in an array or a string. All of these are absent
on what is absent.
-/

namespace Deferred

namespace Value

/-- `v.name`. -/
def attr (v : Value) (name : String) : Except Fault Value :=
  match v with
  | unset => .ok unset
  | object fields =>
    match fields.get? name with
    | some w => .ok w
    | none => .error (.access (.noField name))
  | v =>
    if Builtin.has v name then .ok (method v name)
    else .error (.access (.noAttribute v.kind name))

/-- What `v.name(…)` calls: a built-in method bound to `v`, else a field of an object. -/
def callee (v : Value) (name : String) : Except Fault Value :=
  match v with
  | unset => .ok unset
  | v =>
    if Builtin.has v name then .ok (method v name)
    else
      match v with
      | object fields =>
        match fields.get? name with
        | some w => .ok w
        | none => .error (.access (.noMethodOrField name))
      | v => .error (.access (.noMethod v.kind name))

/-- The position that an index means among `length` items: a negative one counts from the end. The
position may lie behind the last item. -/
def position? (index : Int64) (length : Nat) : Option Nat :=
  let n := index.toInt
  if n < 0 then if n.natAbs ≤ length then some (length - n.natAbs) else none
  else some n.toNat

/-- The item of a list at an index. -/
def atIndex? {α : Type} (items : List α) (index : Int64) : Option α :=
  (position? index items.length).bind fun i => items[i]?

theorem atIndex?_of_nonneg {α : Type} {items : List α} {index : Int64} {n : Nat}
    (h : index.toInt = n) : atIndex? items index = items[n]? := by
  have hneg : ¬ (n : Int) < 0 := by omega
  rw [atIndex?, position?, h, if_neg hneg, Int.toNat_natCast, Option.bind_some]

/-- The index -1 means the last item, and so on. -/
theorem atIndex?_of_neg {α : Type} {items : List α} {index : Int64} {n : Nat}
    (h : index.toInt = -(n + 1 : Int)) : atIndex? items index = items.reverse[n]? := by
  have hneg : -(n + 1 : Int) < 0 := by omega
  have habs : (-(n + 1 : Int)).natAbs = n + 1 := by omega
  rw [atIndex?, position?, h, if_pos hneg, habs]
  by_cases hn : n + 1 ≤ items.length
  · rw [if_pos hn, Option.bind_some, List.getElem?_reverse hn, Nat.sub_right_comm, Nat.sub_sub]
  · rw [if_neg hn, Option.bind_none, List.getElem?_eq_none]
    rw [List.length_reverse]
    exact Nat.le_of_not_lt hn

theorem atIndex?_of_out_of_range {α : Type} {items : List α} {index : Int64}
    (h : index.toInt < -(items.length : Int) ∨ items.length ≤ index.toInt) :
    atIndex? items index = none := by
  rcases Int.lt_or_le index.toInt 0 with hneg | hnonneg
  · have hindex : index.toInt = -((-index.toInt - 1).toNat + 1 : Int) := by omega
    rw [atIndex?_of_neg hindex, List.getElem?_eq_none_iff, List.length_reverse]
    omega
  · have hindex : index.toInt = (index.toInt.toNat : Int) := (Int.toNat_of_nonneg hnonneg).symm
    rw [atIndex?_of_nonneg hindex, List.getElem?_eq_none_iff]
    omega

theorem mem_of_atIndex? {α : Type} {items : List α} {index : Int64} {a : α}
    (h : a ∈ atIndex? items index) : a ∈ items := by
  obtain ⟨i, -, hi⟩ := Option.bind_eq_some_iff.1 h
  exact List.mem_of_getElem? hi

/-- The field of an object under a key. -/
def fieldItem (fields : Dict Value) (key : String) : Except Fault Value :=
  match fields.get? key with
  | some w => .ok w
  | none => .error (.access (.noKey key))

/-- `v[key]`. -/
def item (v key : Value) : Except Fault Value :=
  match v, key with
  | unset, _ => .ok unset
  | object fields, string k => fieldItem fields k
  | object fields, integer n => fieldItem fields (integer n).asText
  | object fields, float x => fieldItem fields (float x).asText
  | object fields, boolean b => fieldItem fields (boolean b).asText
  | array items, integer n =>
    match atIndex? items n with
    | some w => .ok w
    | none => .error (.access (.arrayIndex n items.length))
  | string s, integer n =>
    match atIndex? s.toList n with
    | some c => .ok (string (String.singleton c))
    | none => .error (.access (.stringIndex n s.length))
  | array _, string k => .error (.type (.stringKeyOnArray k))
  | v, key => .error (.type (.noItems v.kind key.kind))

/-- Calls a function or a bound method. -/
def call [Patterns] (host : Host) (v : Value) (args : List Value) (named : Named) :
    Except Fault Value :=
  match v with
  | unset => .ok unset
  | function f => host f args named
  | method receiver name => Builtin.invoke receiver name args named
  | v => .error (.notCallable v.kind)

end Value

end Deferred
