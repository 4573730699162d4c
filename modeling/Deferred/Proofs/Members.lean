import Deferred.Json
import Deferred.Value.Equality
import Mathlib.Data.List.Forall2

/-!
# Values and trees by their members

The members of an array are its items, those of an object the values of its fields; nothing else has
members. An induction over values or over JSON trees has one step, from the members to the whole
(`Value.ind`, `Json.ind`), and does not look at how a container holds its members.

What is asked of a value at every depth is asked of its parts, which are the value itself and the
parts of its members (`Value.parts`). The receiver of a bound method is no part of it. Equality
looks at receivers too: they are counted among the constituents of a value (`Value.constituents`).
Two containers of one kind, objects of the same keys, are equal when their members are equal in
pairs (`Value.equalItems_iff_forall₂`, `Value.beq_object_iff`).
-/

namespace Deferred

universe u v

namespace Dict

variable {α : Type u} {β : Type v} {d : Dict α}

theorem entry_mem_values (i : Fin d.keys.toList.length) : d.entry i ∈ d.values :=
  List.mem_map_of_mem (List.mem_finRange i)

theorem value_mem_values {field : String × α} (h : field ∈ d.toList) : field.2 ∈ d.values := by
  obtain ⟨i, -, rfl⟩ := List.mem_map.1 h
  exact entry_mem_values i

/-- A map is not changed by functions that change none of its values. -/
theorem map_eq_self {f : α → α} (h : ∀ a ∈ d.values, f a = a) : d.map f = d :=
  congrArg (Dict.mk d.keys) (funext fun i => h _ (entry_mem_values i))

theorem map_congr {f g : α → β} (h : ∀ a ∈ d.values, f a = g a) : d.map f = d.map g :=
  congrArg (Dict.mk d.keys) (funext fun i => h _ (entry_mem_values i))

/-- A map is told by its keys and its values. -/
theorem ext_values {e : Dict α} (hkeys : d.keys.toList = e.keys.toList)
    (hvalues : d.values = e.values) : d = e := by
  obtain ⟨keys, entry⟩ := d
  obtain ⟨keys', entry'⟩ := e
  obtain rfl := Ascending.ext_toList hkeys
  have hentry : ∀ i, entry i = entry' i := fun i =>
    List.map_inj_left.1 hvalues i (List.mem_finRange i)
  exact congrArg (Dict.mk keys) (funext hentry)

/-- A map is told by its keys and values in their order. -/
theorem toList_injective {e : Dict α} (h : d.toList = e.toList) : d = e := by
  rw [← d.ofList_toList, h, e.ofList_toList]

end Dict

/-! ## Values -/

namespace Value

/-- The items of an array, and the values of the fields of an object. -/
def members : Value → List Value
  | array items => items
  | object fields => fields.values
  | _ => []

/-- The members of a container, and the receiver of a method. -/
def constituents : Value → List Value
  | method receiver _ => [receiver]
  | v => v.members

theorem mem_constituents_of_mem_members {v w : Value} (h : v ∈ w.members) : v ∈ w.constituents := by
  cases w with
  | method receiver name => cases h
  | _ => exact h

/-- What holds of every value of which it holds of the constituents, holds of all values. -/
theorem ind_constituents {motive : Value → Prop}
    (value : ∀ v : Value, (∀ w ∈ v.constituents, motive w) → motive v) : ∀ v, motive v := by
  refine @Value.rec motive (fun items => ∀ v ∈ items, motive v)
    (fun fields => ∀ v ∈ fields.values, motive v)
    (value _ nofun) (fun b => value _ nofun) (fun n => value _ nofun) (fun x => value _ nofun)
    (fun s => value _ nofun) (fun items h => value _ h) (fun fields h => value _ h)
    (value _ nofun) (fun f => value _ nofun)
    (fun receiver name h => value _ (List.forall_mem_singleton.2 h)) nofun ?cons ?fields
  case cons => exact fun v vs hv hvs => List.forall_mem_cons.2 ⟨hv, hvs⟩
  case fields =>
    intro keys entry h v hv
    obtain ⟨i, -, rfl⟩ := List.mem_map.1 hv
    exact h i

/-- What holds of every value of which it holds of the members, holds of all values. -/
theorem ind {motive : Value → Prop}
    (value : ∀ v : Value, (∀ w ∈ v.members, motive w) → motive v) : ∀ v, motive v := by
  intro v
  induction v using ind_constituents with
  | value v ih => exact value v fun w hw => ih w (mem_constituents_of_mem_members hw)

/-! ### Equality of containers -/

theorem equalItems_iff_forall₂ {as bs : List Value} :
    equalItems as bs = true ↔ List.Forall₂ (fun a b => (a == b) = true) as bs := by
  induction as generalizing bs with
  | nil =>
    cases bs with
    | nil => exact iff_of_true rfl .nil
    | cons b bs => exact iff_of_false nofun nofun
  | cons a as ih =>
    cases bs with
    | nil => exact iff_of_false nofun nofun
    | cons b bs => rw [equalItems, Bool.and_eq_true, ih, List.forall₂_cons, beq_def]

theorem beq_object_iff {d e : Dict Value} :
    (object d == object e) = true ↔
      d.keys.toList = e.keys.toList ∧
        List.Forall₂ (fun a b => (a == b) = true) d.values e.values := by
  obtain ⟨keys, entry⟩ := d
  obtain ⟨keys', entry'⟩ := e
  rw [beq_def, equal]
  split
  · next hkeys =>
    obtain rfl := Ascending.ext_toList hkeys
    rw [Dict.values, Dict.values, List.forall₂_map_left_iff, List.forall₂_map_right_iff,
      List.forall₂_same, List.all_eq_true]
    exact (and_iff_right rfl).symm
  · next hkeys => exact iff_of_false Bool.false_ne_true fun h => hkeys h.1

/-! ### Parts -/

mutual

/-- The value, its members, theirs, and so on. -/
def parts : Value → List Value
  | array items => array items :: itemsParts items
  | object ⟨keys, entry⟩ =>
    object ⟨keys, entry⟩ :: (List.finRange _).flatMap fun i => parts (entry i)
  | v => [v]
termination_by structural v => v

/-- The parts of values, one after the other. -/
def itemsParts : List Value → List Value
  | [] => []
  | v :: vs => parts v ++ itemsParts vs
termination_by structural vs => vs

end

theorem itemsParts_eq (vs : List Value) : itemsParts vs = vs.flatMap parts := by
  induction vs with
  | nil => rfl
  | cons v vs ih => rw [itemsParts, ih, List.flatMap_cons]

theorem parts_eq (v : Value) : v.parts = v :: v.members.flatMap parts := by
  cases v with
  | array items => rw [parts, itemsParts_eq, members]
  | object fields => rw [parts, members, Dict.values, List.flatMap_map]
  | _ => rfl

theorem self_mem_parts (v : Value) : v ∈ v.parts := by
  rw [parts_eq]
  exact List.mem_cons_self

/-- The parts of a member are parts of the whole. -/
theorem mem_parts_of_mem_members {u v w : Value} (hv : v ∈ w.members) (hu : u ∈ v.parts) :
    u ∈ w.parts := by
  rw [parts_eq]
  exact List.mem_cons_of_mem _ (List.mem_flatMap.2 ⟨v, hv, hu⟩)

theorem mem_parts_of_mem {v w : Value} (h : v ∈ w.members) : v ∈ w.parts :=
  mem_parts_of_mem_members h v.self_mem_parts

/-- What holds of all parts of a value holds of all parts of its members. -/
theorem forall_parts_of_mem_members {motive : Value → Prop} {v w : Value}
    (h : ∀ u ∈ w.parts, motive u) (hv : v ∈ w.members) : ∀ u ∈ v.parts, motive u :=
  fun u hu => h u (mem_parts_of_mem_members hv hu)

end Value

/-! ## JSON trees -/

namespace Json

/-- The items of an array, and the values of the fields of an object. -/
def members : Json → List Json
  | array items => items
  | object fields => fields.values
  | _ => []

/-- What holds of every tree of which it holds of the members, holds of all trees. -/
theorem ind {motive : Json → Prop}
    (tree : ∀ j : Json, (∀ k ∈ j.members, motive k) → motive j) : ∀ j, motive j := by
  refine @Json.rec motive (fun items => ∀ j ∈ items, motive j)
    (fun fields => ∀ j ∈ fields.values, motive j)
    (tree _ nofun) (fun b => tree _ nofun) (fun n => tree _ nofun) (fun s => tree _ nofun)
    (fun items h => tree _ h) (fun fields h => tree _ h) nofun ?cons ?fields
  case cons => exact fun j js hj hjs => List.forall_mem_cons.2 ⟨hj, hjs⟩
  case fields =>
    intro keys entry h j hj
    obtain ⟨i, -, rfl⟩ := List.mem_map.1 hj
    exact h i

mutual

/-- The numbers in a tree, at every depth. -/
def numbers : Json → List JsonNumber
  | number n => [n]
  | array items => itemsNumbers items
  | object ⟨_, entry⟩ => (List.finRange _).flatMap fun i => numbers (entry i)
  | _ => []
termination_by structural j => j

/-- The numbers in trees, one after the other. -/
def itemsNumbers : List Json → List JsonNumber
  | [] => []
  | j :: js => numbers j ++ itemsNumbers js
termination_by structural js => js

end

theorem itemsNumbers_eq (js : List Json) : itemsNumbers js = js.flatMap numbers := by
  induction js with
  | nil => rfl
  | cons j js ih => rw [itemsNumbers, ih, List.flatMap_cons]

/-- The numbers in a member are numbers in the whole. -/
theorem mem_numbers_of_mem_members {n : JsonNumber} {j k : Json} (hj : j ∈ k.members)
    (hn : n ∈ j.numbers) : n ∈ k.numbers := by
  cases k with
  | array items =>
    rw [numbers, itemsNumbers_eq]
    exact List.mem_flatMap.2 ⟨j, hj, hn⟩
  | object fields =>
    obtain ⟨i, -, rfl⟩ := List.mem_map.1 hj
    rw [numbers]
    exact List.mem_flatMap.2 ⟨i, List.mem_finRange i, hn⟩
  | _ => cases hj

end Json

end Deferred
