import Deferred.Expr.Context
import Deferred.Expr.Requirements
import Deferred.Proofs.Substitution

/-!
# Requirements and arguments

What a list of placeholders needs is a summary: a count, a set of positions and a set of names. This
module says what the summary knows about the placeholders (`mem_indexed`, `mem_named`,
`positional_le_iff`), and how it decides the one question it is for. If every placeholder, at its
number, has an argument, then the requirements are satisfied (`satisfiedBy_of_supplies`). The
converse needs that the positions asked for can be counted (`Requirements.Countable`): the word
after the greatest index is zero, so that a placeholder with this index seems to need nothing.
-/

namespace Deferred

/-! ## The summary -/

/-- No element of an ascending list is greater than its last one. -/
theorem Ascending.le_max {s : Ascending Nat} {i m : Nat} (hm : s.max? = some m) (hi : i ∈ s) :
    i ≤ m := by
  obtain ⟨init, hinit⟩ := List.getLast?_eq_some_iff.1 hm
  have hp := s.pairwise
  rw [Ascending.mem_def] at hi
  rw [hinit] at hi hp
  rcases List.mem_append.1 hi with h | h
  · exact Nat.le_of_lt ((List.pairwise_append.1 hp).2.2 i h m List.mem_cons_self)
  · exact Nat.le_of_eq (List.mem_singleton.1 h)

theorem Ascending.max_mem {s : Ascending Nat} {m : Nat} (hm : s.max? = some m) : m ∈ s :=
  Ascending.mem_def.2 (List.mem_of_getLast? hm)

/-- A list with an element has a last one. -/
theorem Ascending.exists_max {s : Ascending Nat} {i : Nat} (hi : i ∈ s) :
    ∃ m ∈ s, s.max? = some m ∧ i ≤ m := by
  cases hm : s.max? with
  | none =>
    rw [mem_def, List.getLast?_eq_none_iff.1 hm] at hi
    cases hi
  | some m => exact ⟨m, max_mem hm, rfl, le_max hm hi⟩

namespace Requirements

theorem foldl_add (ps : List Placeholder) (r : Requirements) :
    (ps.foldl add r).anonymous = r.anonymous + width ps ∧
      (∀ i, i ∈ (ps.foldl add r).indexed ↔
        i ∈ r.indexed ∨ ∃ j, .indexed j ∈ ps ∧ j.toNat = i) ∧
      ∀ k, k ∈ (ps.foldl add r).named ↔ k ∈ r.named ∨ .named k ∈ ps := by
  -- The summary so far is general, since each placeholder adds to it before the others are met.
  induction ps generalizing r with
  | nil => simp
  | cons p ps ih =>
    obtain ⟨ha, hi, hn⟩ := ih (r.add p)
    simp only [List.foldl_cons, ha, hi, hn, width_cons, List.mem_cons]
    cases p with
    | anonymous => simp [add, Placeholder.width, Nat.add_assoc]
    | indexed j =>
      simp [add, Placeholder.width, or_and_right, exists_or, or_assoc, or_left_comm, eq_comm]
    | named key => simp [add, Placeholder.width, or_assoc, or_left_comm]

variable {ps : List Placeholder}

theorem anonymous_ofPlaceholders : (ofPlaceholders ps).anonymous = width ps := by
  rw [ofPlaceholders, (foldl_add ps _).1, Nat.zero_add]

theorem mem_indexed {i : Nat} :
    i ∈ (ofPlaceholders ps).indexed ↔ ∃ j, .indexed j ∈ ps ∧ j.toNat = i := by
  rw [ofPlaceholders, (foldl_add ps _).2.1]
  simp

theorem mem_named {key : String} : key ∈ (ofPlaceholders ps).named ↔ .named key ∈ ps := by
  rw [ofPlaceholders, (foldl_add ps _).2.2]
  simp

/-- The word after each index that is asked for counts the positions up to it: no index is the
greatest one of all. -/
def Countable (r : Requirements) : Prop := ∀ i ∈ r.indexed, i + 1 < UInt64.size

instance (r : Requirements) : Decidable r.Countable :=
  inferInstanceAs (Decidable (∀ i ∈ r.indexed.toList, i + 1 < UInt64.size))

section Counts

variable {r : Requirements} {m : Nat}

/-- One more than the greatest index, in machine words. -/
theorem reach_of_max {i : Nat} (hmax : r.indexed.max? = some i) :
    r.reach = (i + 1) % UInt64.size := by
  rw [reach, hmax]
  calc (UInt64.ofNat i + 1).toNat
      = (UInt64.ofNat (i + 1)).toNat := by rw [UInt64.ofNat_add]; rfl
    _ = (i + 1) % UInt64.size := UInt64.toNat_ofNat'

/-- The indexed placeholders reach no further than all of their positions. -/
theorem reach_le (h : ∀ i ∈ r.indexed, i < m) : r.reach ≤ m := by
  cases hmax : r.indexed.max? with
  | none =>
    rw [reach, hmax]
    exact Nat.zero_le m
  | some j =>
    rw [reach_of_max hmax]
    exact Nat.le_trans (Nat.mod_le ..) (h j (Ascending.max_mem hmax))

/-- If their positions can be counted, they reach all of them. -/
theorem reach_le_iff (hr : r.Countable) : r.reach ≤ m ↔ ∀ i ∈ r.indexed, i < m := by
  refine ⟨fun h i hi => ?_, reach_le⟩
  obtain ⟨j, hj, hmax, hle⟩ := Ascending.exists_max hi
  rw [reach_of_max hmax, Nat.mod_eq_of_lt (hr j hj)] at h
  omega

/-- So many positional arguments are enough if each placeholder finds its own among them. -/
theorem positional_le (ha : r.anonymous ≤ m) (hi : ∀ i ∈ r.indexed, i < m) : r.positional ≤ m :=
  Nat.max_le.2 ⟨ha, reach_le hi⟩

theorem positional_le_iff (hr : r.Countable) :
    r.positional ≤ m ↔ r.anonymous ≤ m ∧ ∀ i ∈ r.indexed, i < m := by
  rw [positional, Nat.max_le, reach_le_iff hr]

/-- The greatest index of all is as if no position were asked for. -/
theorem positional_of_not_countable (h : ¬ (ofPlaceholders ps).Countable) :
    (ofPlaceholders ps).positional = (ofPlaceholders ps).anonymous := by
  obtain ⟨i, hi, hlast⟩ : ∃ i ∈ (ofPlaceholders ps).indexed, UInt64.size ≤ i + 1 := by
    simpa [Countable] using h
  obtain ⟨j, hj, hmax, hle⟩ := Ascending.exists_max hi
  have hj : j + 1 = UInt64.size := by
    obtain ⟨w, -, rfl⟩ := mem_indexed.1 hj
    have := w.toNat_lt_size
    omega
  rw [positional, reach_of_max hmax, hj, Nat.mod_self, Nat.max_zero]

end Counts

end Requirements

/-! ## The arguments of placeholders -/

namespace Context

/-- The argument that a context has for a placeholder at a number. -/
def argument (c : Context) (n : Nat) : Placeholder → Option Value
  | .anonymous => c.positional[n]?
  | .indexed i => c.positional[i.toNat]?
  | .named key => c.named.get? key

theorem isSome_argument_anonymous {c : Context} {n : Nat} :
    (c.argument n .anonymous).isSome ↔ n < c.positional.length := by
  simp [argument]

theorem isSome_argument_indexed {c : Context} {n : Nat} {i : UInt64} :
    (c.argument n (.indexed i)).isSome ↔ i.toNat < c.positional.length := by
  simp [argument]

/-- The context has an argument for each of these placeholders, whose first number is `n`. -/
def Supplies (c : Context) (n : Nat) (ps : List Placeholder) : Prop :=
  ∀ q ∈ slots n ps, (c.argument q.1 q.2).isSome

theorem supplies_append {c : Context} {n : Nat} {ps qs : List Placeholder} :
    c.Supplies n (ps ++ qs) ↔ c.Supplies n ps ∧ c.Supplies (n + width ps) qs := by
  simp only [Supplies, slots_append, List.forall_mem_append]

end Context

namespace Requirements

/-- Requirements are satisfied by as many positional arguments as are needed and all names. -/
theorem satisfiedBy_iff {r : Requirements} {count : Nat} {named : Named} :
    r.satisfiedBy count named = true ↔
      r.positional ≤ count ∧ ∀ key ∈ r.named, named.contains key = true := by
  rw [satisfiedBy, Bool.and_eq_true, decide_eq_true_eq, List.all_eq_true]
  rfl

section Satisfied

variable {ps : List Placeholder} {c : Context}

/-- The names that are there are those that no placeholder lacks. -/
theorem forall_named_iff :
    (∀ key ∈ (ofPlaceholders ps).named, c.named.contains key = true) ↔
      ∀ key, .named key ∈ ps → (c.named.get? key).isSome := by
  simp only [mem_named, Dict.contains, decide_eq_true_eq, Dict.get?_isSome]

/-- Arguments that leave no placeholder without one satisfy the requirements. -/
theorem satisfiedBy_of_supplies (h : c.Supplies 0 ps) :
    (ofPlaceholders ps).satisfiedBy c.positional.length c.named = true := by
  rw [satisfiedBy_iff, forall_named_iff]
  refine ⟨positional_le ?_ fun i hi => ?_, fun key hk => ?_⟩
  · -- The last anonymous placeholder, if there is one, has the greatest number.
    rw [anonymous_ofPlaceholders]
    refine Nat.le_of_not_lt fun hw => ?_
    have hlast := h (width ps - 1, .anonymous) (mem_slots_anonymous.2 (by omega))
    have := Context.isSome_argument_anonymous.1 hlast
    omega
  · obtain ⟨j, hj, rfl⟩ := mem_indexed.1 hi
    obtain ⟨k, hk⟩ := exists_mem_slots 0 hj
    exact Context.isSome_argument_indexed.1 (h _ hk)
  · obtain ⟨k, hk⟩ := exists_mem_slots 0 hk
    exact h _ hk

/-- Requirements that can be counted are satisfied by no other arguments. -/
theorem supplies_of_satisfiedBy (hps : (ofPlaceholders ps).Countable)
    (h : (ofPlaceholders ps).satisfiedBy c.positional.length c.named = true) : c.Supplies 0 ps := by
  rw [satisfiedBy_iff, forall_named_iff, positional_le_iff hps, anonymous_ofPlaceholders] at h
  obtain ⟨⟨hw, hi⟩, hn⟩ := h
  rintro ⟨k, p⟩ hq
  cases p with
  | anonymous =>
    have hk := mem_slots_anonymous.1 hq
    exact Context.isSome_argument_anonymous.2 (by omega)
  | indexed i =>
    exact Context.isSome_argument_indexed.2 (hi _ (mem_indexed.2 ⟨i, mem_of_mem_slots hq, rfl⟩))
  | named key => exact hn key (mem_of_mem_slots hq)

end Satisfied

end Requirements

end Deferred
