/-!
# Strictly ascending lists

An `Ascending α` is a finite set of a linear order, held as the one list that names its elements in
ascending order. The order and the absence of repetitions are part of the type, so two sets with the
same elements are the same list (`ext_mem`), whatever was inserted in what order.
-/

namespace Deferred

universe u

/-- A finite set, listed in strictly ascending order. -/
structure Ascending (α : Type u) [LT α] where
  toList : List α
  pairwise : toList.Pairwise (· < ·)

namespace Ascending

variable {α : Type u} [LT α]

theorem ext_toList {s t : Ascending α} (h : s.toList = t.toList) : s = t := by
  cases s; cases t; cases h; rfl

/-- The number of elements. -/
def length (s : Ascending α) : Nat := s.toList.length

/-- The set without elements. -/
def empty : Ascending α := ⟨[], .nil⟩

instance : EmptyCollection (Ascending α) := ⟨empty⟩
instance : Inhabited (Ascending α) := ⟨empty⟩

instance : Membership α (Ascending α) := ⟨fun s a => a ∈ s.toList⟩

theorem mem_def {a : α} {s : Ascending α} : a ∈ s ↔ a ∈ s.toList := Iff.rfl

@[simp] theorem not_mem_empty (a : α) : ¬ a ∈ (∅ : Ascending α) := List.not_mem_nil

instance [DecidableEq α] (a : α) (s : Ascending α) : Decidable (a ∈ s) :=
  inferInstanceAs (Decidable (a ∈ s.toList))

/-- Whether the set has no elements. -/
def isEmpty (s : Ascending α) : Bool := s.toList.isEmpty

/-- The greatest element. -/
def max? (s : Ascending α) : Option α := s.toList.getLast?

section Insert

/-- Puts `a` before the first greater element; an element that is there already is not repeated. -/
def insertInto [DecidableLT α] (a : α) : List α → List α
  | [] => [a]
  | b :: bs => if a < b then a :: b :: bs else if b < a then b :: insertInto a bs else b :: bs

variable [LE α] [Std.IsLinearOrder α] [Std.LawfulOrderLT α]

theorem eq_of_not_lt {a b : α} (h : ¬ a < b) (h₂ : ¬ b < a) : a = b := by
  rw [Std.not_lt] at h h₂
  exact Std.le_antisymm h₂ h

variable [DecidableLT α]

theorem mem_insertInto {x a : α} {l : List α} : x ∈ insertInto a l ↔ x = a ∨ x ∈ l := by
  induction l with
  | nil => simp [insertInto]
  | cons b bs ih =>
    simp only [insertInto]
    split
    · simp
    · split
      · simp only [List.mem_cons, ih]
        constructor
        · rintro (h | h | h) <;> simp [h]
        · rintro (h | h | h) <;> simp [h]
      · next h h₂ =>
        have := eq_of_not_lt h h₂
        subst this
        simp

theorem pairwise_insertInto {a : α} {l : List α} (h : l.Pairwise (· < ·)) :
    (insertInto a l).Pairwise (· < ·) := by
  induction l with
  | nil => simp [insertInto]
  | cons b bs ih =>
    obtain ⟨hb, hbs⟩ := List.pairwise_cons.1 h
    simp only [insertInto]
    split
    · next hab =>
      refine List.pairwise_cons.2 ⟨fun x hx => ?_, h⟩
      rcases List.mem_cons.1 hx with rfl | hx
      · exact hab
      · exact Std.lt_trans hab (hb x hx)
    · split
      · next hba =>
        refine List.pairwise_cons.2 ⟨fun x hx => ?_, ih hbs⟩
        rcases mem_insertInto.1 hx with rfl | hx
        · exact hba
        · exact hb x hx
      · exact h

/-- Adds one element. -/
def insert (s : Ascending α) (a : α) : Ascending α :=
  ⟨insertInto a s.toList, pairwise_insertInto s.pairwise⟩

@[simp] theorem mem_insert {x a : α} {s : Ascending α} : x ∈ s.insert a ↔ x = a ∨ x ∈ s :=
  mem_insertInto

/-- The elements of a list. -/
def ofList (l : List α) : Ascending α := l.foldl insert ∅

theorem mem_foldl_insert {x : α} {l : List α} {s : Ascending α} :
    x ∈ l.foldl insert s ↔ x ∈ s ∨ x ∈ l := by
  induction l generalizing s with
  | nil => simp
  | cons a l ih =>
    simp only [List.foldl_cons, ih, mem_insert, List.mem_cons]
    constructor
    · rintro ((h | h) | h) <;> simp [h]
    · rintro (h | h | h) <;> simp [h]

@[simp] theorem mem_ofList {x : α} {l : List α} : x ∈ ofList l ↔ x ∈ l := by
  simp [ofList, mem_foldl_insert]

end Insert

section Ext

variable [LE α] [Std.IsLinearOrder α] [Std.LawfulOrderLT α]

theorem eq_of_pairwise {l m : List α} (hl : l.Pairwise (· < ·)) (hm : m.Pairwise (· < ·))
    (h : ∀ x, x ∈ l ↔ x ∈ m) : l = m := by
  induction l generalizing m with
  | nil =>
    cases m with
    | nil => rfl
    | cons b m => exact absurd ((h b).2 (by simp)) (by simp)
  | cons a l ih =>
    cases m with
    | nil => exact absurd ((h a).1 (by simp)) (by simp)
    | cons b m =>
      obtain ⟨ha, hls⟩ := List.pairwise_cons.1 hl
      obtain ⟨hb, hms⟩ := List.pairwise_cons.1 hm
      have hab : a = b := by
        rcases List.mem_cons.1 ((h a).1 (by simp)) with e | hma
        · exact e
        rcases List.mem_cons.1 ((h b).2 (by simp)) with e | hlb
        · exact e.symm
        exact absurd (Std.lt_trans (hb a hma) (ha b hlb)) Std.lt_irrefl
      subst hab
      refine congrArg (a :: ·) (ih hls hms fun x => ?_)
      constructor
      · intro hx
        rcases List.mem_cons.1 ((h x).1 (List.mem_cons_of_mem _ hx)) with rfl | hy
        · exact absurd (ha x hx) Std.lt_irrefl
        · exact hy
      · intro hx
        rcases List.mem_cons.1 ((h x).2 (List.mem_cons_of_mem _ hx)) with rfl | hy
        · exact absurd (hb x hx) Std.lt_irrefl
        · exact hy

/-- Two sets with the same elements are equal. -/
theorem ext_mem {s t : Ascending α} (h : ∀ x, x ∈ s ↔ x ∈ t) : s = t :=
  ext_toList (eq_of_pairwise s.pairwise t.pairwise h)

end Ext

end Ascending

end Deferred
