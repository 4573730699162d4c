import Deferred.Order.Ascending

/-!
# Finite maps from texts

A `Dict α` is its set of keys together with one value for each of them. Neither an order of
insertion nor a repeated key can be expressed, so two maps with the same look-ups are equal
(`ext_get?`). The order of texts is that of their code points.
-/

namespace Deferred

universe u v

/-- A finite map from texts to `α`. -/
structure Dict (α : Type u) where
  keys : Ascending String
  entry : Fin keys.toList.length → α

namespace Dict

variable {α : Type u} {β : Type v}

/-- The map without keys. -/
def empty : Dict α := ⟨∅, fun i => i.elim0⟩

instance : EmptyCollection (Dict α) := ⟨empty⟩
instance : Inhabited (Dict α) := ⟨empty⟩

/-- The number of keys. -/
def size (d : Dict α) : Nat := d.keys.length

/-- Whether the map has no keys. -/
def isEmpty (d : Dict α) : Bool := d.keys.isEmpty

/-- The value of a key, if it is one of the keys. -/
def get? (d : Dict α) (key : String) : Option α := (d.keys.toList.finIdxOf? key).map d.entry

/-- Whether `key` is one of the keys. -/
def contains (d : Dict α) (key : String) : Bool := decide (key ∈ d.keys)

/-- Keys and values, keys ascending. -/
def toList (d : Dict α) : List (String × α) :=
  (List.finRange _).map fun i => (d.keys.toList[i], d.entry i)

/-- The values, in the order of their keys. -/
def values (d : Dict α) : List α := (List.finRange _).map d.entry

/-- Gives `key` the value `a`, in place of the one it may have had. -/
def insert (d : Dict α) (key : String) (a : α) : Dict α :=
  ⟨d.keys.insert key, fun i =>
    let k := (d.keys.insert key).toList.get i
    if k = key then a else (d.get? k).getD a⟩

/-- The map of a list of pairs; of two pairs with one key the later counts. -/
def ofList (pairs : List (String × α)) : Dict α :=
  pairs.foldl (fun d (k, a) => d.insert k a) ∅

/-- Applies `f` to every value. -/
def map (f : α → β) (d : Dict α) : Dict β := ⟨d.keys, fun i => f (d.entry i)⟩

/-- All of both maps; on the keys they share, `e` decides. -/
def override (d e : Dict α) : Dict α := e.toList.foldl (fun d (k, a) => d.insert k a) d

/-! ### Look-ups -/

theorem nodup_keys (d : Dict α) : d.keys.toList.Nodup := by
  refine List.nodup_iff_pairwise_ne.2 (d.keys.pairwise.imp ?_)
  rintro a _ h rfl
  exact String.lt_irrefl a h

theorem get?_getElem (d : Dict α) (i : Fin d.keys.toList.length) :
    d.get? d.keys.toList[i] = some (d.entry i) := by
  have h : d.keys.toList.finIdxOf? d.keys.toList[i] = some i :=
    List.finIdxOf?_eq_some_iff.2 ⟨rfl, fun j hj e =>
      absurd (Fin.val_eq_of_eq (Fin.ext ((List.getElem_inj d.nodup_keys).1 e))) (Nat.ne_of_lt hj)⟩
  rw [get?, h, Option.map_some]

theorem get?_eq_none_iff {d : Dict α} {key : String} : d.get? key = none ↔ key ∉ d.keys := by
  simp [get?, Ascending.mem_def]

theorem get?_isSome {d : Dict α} {key : String} : (d.get? key).isSome = decide (key ∈ d.keys) := by
  have : d.get? key = none ↔ key ∉ d.keys := get?_eq_none_iff
  cases h : d.get? key <;> simp_all

theorem mem_keys_iff {d : Dict α} {key : String} : key ∈ d.keys ↔ ∃ a, d.get? key = some a := by
  rw [← Option.isSome_iff_exists, get?_isSome, decide_eq_true_iff]

theorem get?_eq_some_iff {d : Dict α} {key : String} {a : α} :
    d.get? key = some a ↔
      ∃ i : Fin d.keys.toList.length, d.keys.toList[i] = key ∧ d.entry i = a := by
  constructor
  · intro h
    obtain ⟨i, hi, hj⟩ := List.getElem_of_mem (Ascending.mem_def.1 (mem_keys_iff.2 ⟨a, h⟩))
    refine ⟨⟨i, hi⟩, hj, ?_⟩
    have := d.get?_getElem ⟨i, hi⟩
    rw [Fin.getElem_fin, hj, h] at this
    exact (Option.some.inj this).symm
  · rintro ⟨i, rfl, rfl⟩
    exact d.get?_getElem i

@[simp] theorem get?_empty (key : String) : (∅ : Dict α).get? key = none :=
  get?_eq_none_iff.2 (Ascending.not_mem_empty key)

theorem get?_insert (d : Dict α) (k : String) (a : α) (key : String) :
    (d.insert k a).get? key = if key = k then some a else d.get? key := by
  by_cases hm : key ∈ (d.insert k a).keys
  · obtain ⟨i, hi, hj⟩ := List.getElem_of_mem (Ascending.mem_def.1 hm)
    have h := (d.insert k a).get?_getElem ⟨i, hi⟩
    have hkey : (d.keys.insert k).toList.get ⟨i, hi⟩ = key := hj
    rw [Fin.getElem_fin, hj] at h
    rw [h]
    show some (if (d.keys.insert k).toList.get ⟨i, hi⟩ = k then a
      else (d.get? ((d.keys.insert k).toList.get ⟨i, hi⟩)).getD a) = _
    rw [hkey]
    split
    · rfl
    · next hk =>
      obtain ⟨b, hb⟩ := mem_keys_iff.1 ((Ascending.mem_insert.1 hm).resolve_left hk)
      simp [hb]
  · have hk : key ≠ k := fun e => hm (Ascending.mem_insert.2 (.inl e))
    have hd : key ∉ d.keys := fun h => hm (Ascending.mem_insert.2 (.inr h))
    simp [hk, get?_eq_none_iff.2 hm, get?_eq_none_iff.2 hd]

@[simp] theorem get?_map (f : α → β) (d : Dict α) (key : String) :
    (d.map f).get? key = (d.get? key).map f := by
  simp [get?, map, Function.comp_def]

theorem mem_toList_iff {d : Dict α} {key : String} {a : α} :
    (key, a) ∈ d.toList ↔ d.get? key = some a := by
  rw [get?_eq_some_iff]
  simp [toList]

/-- The values are those found under some key. -/
theorem mem_values_iff {d : Dict α} {a : α} : a ∈ d.values ↔ ∃ key, d.get? key = some a := by
  simp only [get?_eq_some_iff, values, List.mem_map, List.mem_finRange, true_and]
  constructor
  · rintro ⟨i, hi⟩
    exact ⟨_, i, rfl, hi⟩
  · rintro ⟨key, i, -, hi⟩
    exact ⟨i, hi⟩

/-- What is found in the map of a list of pairs is in one of the pairs. -/
theorem mem_of_get?_ofList {pairs : List (String × α)} {key : String} {a : α}
    (h : (ofList pairs).get? key = some a) : (key, a) ∈ pairs := by
  -- The map so far is general, since each pair adds to it before the others are met.
  suffices hfold : ∀ d : Dict α,
      (pairs.foldl (fun d (k, a) => d.insert k a) d).get? key = some a →
        (key, a) ∈ pairs ∨ d.get? key = some a by
    exact (hfold ∅ h).resolve_right (by simp)
  clear h
  induction pairs with
  | nil => exact fun d h => .inr h
  | cons p pairs ih =>
    intro d h
    rcases ih _ h with hmem | hd
    · exact .inl (List.mem_cons_of_mem p hmem)
    · rw [get?_insert] at hd
      split at hd
      · next hkey =>
        obtain rfl := Option.some.inj hd
        exact .inl (hkey ▸ List.mem_cons_self)
      · exact .inr hd

/-- Inserting entries of `e` into `d` decides on their keys and leaves the others. -/
theorem get?_foldl_insert {d e : Dict α} {pairs : List (String × α)}
    (h : ∀ p ∈ pairs, e.get? p.1 = some p.2) (key : String) :
    (pairs.foldl (fun d (k, a) => d.insert k a) d).get? key =
      if key ∈ pairs.map (·.1) then e.get? key else d.get? key := by
  induction pairs generalizing d with
  | nil => rfl
  | cons p pairs ih =>
    obtain ⟨hp, hpairs⟩ := List.forall_mem_cons.1 h
    rw [List.foldl_cons, ih hpairs, get?_insert, List.map_cons]
    by_cases hkey : key = p.1
    · subst hkey
      simp [hp]
    · simp only [List.mem_cons, hkey, false_or, if_false]

/-- On the keys that both maps have, the second one decides. -/
theorem get?_override (d e : Dict α) (key : String) :
    (d.override e).get? key = (e.get? key).or (d.get? key) := by
  rw [override, get?_foldl_insert fun p hp => mem_toList_iff.1 hp]
  cases he : e.get? key with
  | some a =>
    have hmem : key ∈ e.toList.map (·.1) := List.mem_map.2 ⟨(key, a), mem_toList_iff.2 he, rfl⟩
    rw [if_pos hmem, Option.some_or]
  | none =>
    have hmem : key ∉ e.toList.map (·.1) := by
      intro h
      obtain ⟨p, hp, rfl⟩ := List.mem_map.1 h
      rw [mem_toList_iff.1 hp] at he
      cases he
    rw [if_neg hmem, Option.none_or]

/-- Two maps with the same look-ups are equal. -/
theorem ext_get? {d e : Dict α} (h : ∀ key, d.get? key = e.get? key) : d = e := by
  have hk : d.keys = e.keys := Ascending.ext_mem fun x => by simp [mem_keys_iff, h]
  obtain ⟨keys, f⟩ := d
  obtain ⟨_, g⟩ := e
  cases hk
  refine congrArg (Dict.mk keys) (funext fun i => ?_)
  have := h keys.toList[i]
  rw [get?_getElem ⟨keys, f⟩ i, get?_getElem ⟨keys, g⟩ i] at this
  exact Option.some.inj this

/-- A map is the map of its own keys and values. -/
theorem ofList_toList (d : Dict α) : ofList d.toList = d := by
  refine ext_get? fun key => ?_
  show ((∅ : Dict α).override d).get? key = d.get? key
  rw [get?_override, get?_empty, Option.or_none]

end Dict

end Deferred
