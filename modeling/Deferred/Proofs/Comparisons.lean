import Deferred.Operator.Apply
import Deferred.Proofs.Ranks
import Deferred.Stock

/-!
# The comparison operators belong together

Equality and order are computed by different functions, and both treat numbers in two ways: two
integers are compared exactly, and a float with any number by the ranks of floats. What is
comparable and how is said once (`Value.Compared`), and each law of the six operators follows from a
law of this relation: it turns around with its sides, it is equality where it says so, and it is
transitive also where integers and floats alternate, since rounding an integer keeps the order.

Main statement: `BinaryOp.comparisons_coherent`.
-/

namespace Deferred

namespace Value

/-! ## What is comparable -/

/-- The order of two values that have one: two integers, two texts and two booleans have their own,
and two numbers of which one is a float have the order of their ranks. -/
inductive Compared : Value → Value → Ordering → Prop where
  | integers (m n : Int64) : Compared (integer m) (integer n) (compare m.toInt n.toInt)
  | strings (s t : String) : Compared (string s) (string t) (compare s t)
  | booleans (a b : Bool) : Compared (boolean a) (boolean b) (compare a b)
  | floats {v w : Value} {i j : Binary64.Rank} (hfloat : v.isFloat = true ∨ w.isFloat = true)
      (hv : v.rank? = some i) (hw : w.rank? = some j) : Compared v w (compare i j)

theorem compare?_float (x : Float) (w : Value) :
    (float x).compare? w = (float x).rank?.bind fun i => w.rank?.map (compare i) := by
  cases w with
  | float y => exact compareFloats_eq x y
  | integer n => exact compareFloats_eq x (floatOfInteger n)
  | _ => exact (Option.bind_fun_none _).symm

/-- Where a float is compared, the ranks are. -/
theorem compare?_of_isFloat {v w : Value} (h : v.isFloat = true ∨ w.isFloat = true) :
    v.compare? w = v.rank?.bind fun i => w.rank?.map (compare i) := by
  cases v with
  | float x => exact compare?_float x w
  | integer m =>
    cases w with
    | float y => exact compareFloats_eq (floatOfInteger m) y
    | _ => simp [isFloat] at h
  | _ =>
    cases w with
    | float y => rfl
    | _ => simp [isFloat] at h

theorem compared_of_rank {v w : Value} {o : Ordering} (hfloat : v.isFloat = true ∨ w.isFloat = true)
    (h : v.compare? w = some o) : Compared v w o := by
  rw [compare?_of_isFloat hfloat, Option.bind_eq_some_iff] at h
  obtain ⟨i, hi, hmap⟩ := h
  obtain ⟨j, hj, rfl⟩ := Option.map_eq_some_iff.1 hmap
  exact .floats hfloat hi hj

theorem compare?_of_compared {v w : Value} {o : Ordering} (h : Compared v w o) :
    v.compare? w = some o := by
  cases h with
  | integers m n => rfl
  | strings s t => rfl
  | booleans a b => rfl
  | floats hfloat hv hw =>
    rw [compare?_of_isFloat hfloat, hv, hw, Option.bind_some, Option.map_some]

theorem compared_of_compare? {v w : Value} {o : Ordering} (h : v.compare? w = some o) :
    Compared v w o := by
  cases v with
  | float x => exact compared_of_rank (.inl rfl) h
  | integer m =>
    cases w with
    | float y => exact compared_of_rank (.inr rfl) h
    | integer n =>
      cases h
      exact .integers m n
    | _ => cases h
  | string s =>
    cases w with
    | string t =>
      cases h
      exact .strings s t
    | _ => cases h
  | boolean a =>
    cases w with
    | boolean b =>
      cases h
      exact .booleans a b
    | _ => cases h
  | _ => cases h

/-! ## Laws of the order -/

section Laws

variable {l m r : Value} {o : Ordering}

theorem Compared.swap (h : Compared l r o) : Compared r l o.swap := by
  cases h with
  | integers m n =>
    rw [← Std.OrientedOrd.eq_swap]
    exact .integers n m
  | strings s t =>
    rw [← Std.OrientedOrd.eq_swap]
    exact .strings t s
  | booleans a b =>
    rw [← Std.OrientedOrd.eq_swap]
    exact .booleans b a
  | floats hfloat hl hr =>
    rw [← Std.OrientedOrd.eq_swap]
    exact .floats hfloat.symm hr hl

theorem compare?_eq_none_symm (h : l.compare? r = none) : r.compare? l = none := by
  cases hback : r.compare? l with
  | none => rfl
  | some c =>
    rw [compare?_of_compared (compared_of_compare? hback).swap] at h
    cases h

/-- Absence has no order. -/
theorem Compared.present (h : Compared l r o) : l ≠ unset ∧ r ≠ unset := by
  cases h with
  | floats _ hl hr =>
    constructor
    · rintro rfl
      cases hl
    · rintro rfl
      cases hr
  | _ => exact ⟨nofun, nofun⟩

/-- Two comparable values are equal exactly if they compare as equal. -/
theorem Compared.beq_iff (h : Compared l r o) : (l == r) = true ↔ o = .eq := by
  cases h with
  | integers m n => rw [beq_def, equal, beq_iff_eq, Std.compare_eq_iff_eq, Int64.toInt_inj]
  | strings s t => rw [beq_def, equal, beq_iff_eq, Std.compare_eq_iff_eq]
  | booleans a b => rw [beq_def, equal, beq_iff_eq, Std.compare_eq_iff_eq]
  | floats hfloat hl hr =>
    rw [beq_iff_of_isFloat hfloat, hl, hr, compare_eq_iff_eq]
    constructor
    · rintro ⟨k, ⟨⟩, ⟨⟩⟩
      rfl
    · rintro rfl
      exact ⟨_, rfl, rfl⟩

theorem exists_integer_of_rank {v : Value} {i : Binary64.Rank} (h : v.rank? = some i)
    (hfloat : ¬ v.isFloat = true) : ∃ n, v = integer n := by
  cases v with
  | integer n => exact ⟨n, rfl⟩
  | float x => exact absurd rfl hfloat
  | _ => cases h

/-- Numbers with different ranks compare as their ranks do, also if both are integers. -/
theorem compared_of_rank_lt {i j : Binary64.Rank} (hl : l.rank? = some i) (hr : r.rank? = some j)
    (hij : i < j) : Compared l r .lt := by
  by_cases hfloat : l.isFloat = true ∨ r.isFloat = true
  · rw [← compare_lt_iff_lt.2 hij]
    exact .floats hfloat hl hr
  · obtain ⟨m, rfl⟩ := exists_integer_of_rank hl fun h => hfloat (.inl h)
    obtain ⟨n, rfl⟩ := exists_integer_of_rank hr fun h => hfloat (.inr h)
    rw [rank?_integer, Option.some.injEq] at hl hr
    have hmn : m.toInt < n.toInt := by
      apply Int.lt_of_not_ge
      intro hle
      have hmono := Binary64.rankOfInt_mono hle
      rw [hl, hr] at hmono
      exact absurd hij hmono.not_gt
    rw [← compare_lt_iff_lt.2 hmn]
    exact .integers m n

/-- What is less than something has no larger rank; two integers may share theirs. -/
theorem Compared.rank_le {i : Binary64.Rank} (h : Compared l r o) (ho : o = .lt)
    (hl : l.rank? = some i) : ∃ j, r.rank? = some j ∧ i ≤ j := by
  cases h with
  | integers m n =>
    rw [rank?_integer, Option.some.injEq] at hl
    rw [compare_lt_iff_lt] at ho
    refine ⟨_, rank?_integer n, ?_⟩
    rw [← hl]
    exact Binary64.rankOfInt_mono (Int.le_of_lt ho)
  | floats _ hl' hr =>
    rw [hl', Option.some.injEq] at hl
    rw [compare_lt_iff_lt, hl] at ho
    exact ⟨_, hr, ho.le⟩
  | strings s t => cases hl
  | booleans a b => cases hl

theorem Compared.lt_trans {o' : Ordering} (hlm : Compared l m o) (hmr : Compared m r o')
    (ho : o = .lt) (ho' : o' = .lt) : Compared l r .lt := by
  cases hlm with
  | strings s t =>
    cases hmr with
    | strings _ u =>
      rw [← Std.TransCmp.lt_trans ho ho']
      exact .strings s u
    | floats _ hm _ => cases hm
  | booleans a b =>
    cases hmr with
    | booleans _ c =>
      rw [← Std.TransCmp.lt_trans ho ho']
      exact .booleans a c
    | floats _ hm _ => cases hm
  | floats hfloat hl hm =>
    obtain ⟨k, hr, hle⟩ := hmr.rank_le ho' hm
    exact compared_of_rank_lt hl hr ((compare_lt_iff_lt.1 ho).trans_le hle)
  | integers a b =>
    cases hmr with
    | integers _ c =>
      rw [← Std.TransCmp.lt_trans ho ho']
      exact .integers a c
    | floats _ hm hr =>
      obtain ⟨j, hj, hle⟩ := (Compared.integers a b).rank_le ho (rank?_integer a)
      rw [hm, Option.some.injEq] at hj
      rw [← hj] at hle
      exact compared_of_rank_lt (rank?_integer a) hr (hle.trans_lt (compare_lt_iff_lt.1 ho'))

end Laws

end Value

/-! ## The operators -/

namespace BinaryOp

section Operators

variable [Decimals]

/-- The operator answers with a boolean. -/
def Answers (op : BinaryOp) (l r : Value) (b : Bool) : Prop := op.apply l r = .ok (.boolean b)

/-- The orderings refuse the two values because of their kinds. -/
def Incomparable (l r : Value) : Prop :=
  ∀ o : OrderOp, (order o).apply l r = .error (.type (.incomparable l.kind o r.kind))

/-- What the six operators answer, if `l` is less than, equal to or greater than `r`. -/
structure Coherent (l r : Value) (lt eq gt : Bool) : Prop where
  exactly_one : lt.toNat + eq.toNat + gt.toNat = 1
  less : (order .less).Answers l r lt
  equal : equal.Answers l r eq
  greater : (order .greater).Answers l r gt
  less_equal : (order .lessEqual).Answers l r !gt
  greater_equal : (order .greaterEqual).Answers l r !lt
  not_equal : notEqual.Answers l r !eq

variable {l r : Value}

theorem apply_of_present (op : BinaryOp) (hl : l ≠ .unset) (hr : r ≠ .unset) :
    op.apply l r = op.applyPresent l r := by
  have habsent : ¬ (l.isUnset || r.isUnset) = true := by
    rw [Bool.or_eq_true, Value.isUnset_iff, Value.isUnset_iff]
    exact not_or.2 ⟨hl, hr⟩
  rw [apply, if_neg habsent]

theorem equal_answers (hl : l ≠ .unset) (hr : r ≠ .unset) : equal.Answers l r (l == r) :=
  apply_of_present equal hl hr

theorem notEqual_answers (hl : l ≠ .unset) (hr : r ≠ .unset) : notEqual.Answers l r !(l == r) :=
  apply_of_present notEqual hl hr

theorem incomparable_of_compare? (hl : l ≠ .unset) (hr : r ≠ .unset) (h : l.compare? r = none) :
    Incomparable l r := by
  intro o
  rw [apply_of_present _ hl hr, applyPresent, h]

theorem order_answers {c : Ordering} (h : Value.Compared l r c) (o : OrderOp) :
    (order o).Answers l r (o.holds c) := by
  obtain ⟨hl, hr⟩ := h.present
  rw [Answers, apply_of_present _ hl hr, applyPresent, Value.compare?_of_compared h]

theorem coherent_of_compared {c : Ordering} (h : Value.Compared l r c) :
    Coherent l r c.isLT (c == .eq) c.isGT := by
  obtain ⟨hl, hr⟩ := h.present
  have hbeq : (l == r) = (c == .eq) := Bool.eq_iff_iff.2 (h.beq_iff.trans beq_iff_eq.symm)
  have hle : c.isLE = !c.isGT := by cases c <;> rfl
  have hge : c.isGE = !c.isLT := by cases c <;> rfl
  exact
    { exactly_one := by cases c <;> rfl
      less := order_answers h .less
      equal := hbeq ▸ equal_answers hl hr
      greater := order_answers h .greater
      less_equal := hle ▸ order_answers h .lessEqual
      greater_equal := hge ▸ order_answers h .greaterEqual
      not_equal := hbeq ▸ notEqual_answers hl hr }

/-- Turning the sides around exchanges less and greater. -/
theorem coherent_swap_of_compared {c : Ordering} (h : Value.Compared l r c) :
    Coherent r l c.isGT (c == .eq) c.isLT := by
  have hswap := coherent_of_compared h.swap
  cases c with
  | lt => exact hswap
  | eq => exact hswap
  | gt => exact hswap

theorem less_answers_true_iff : (order .less).Answers l r true ↔ Value.Compared l r .lt := by
  constructor
  · intro h
    unfold Answers apply at h
    split at h
    · cases h
    · cases hc : l.compare? r with
      | none =>
        rw [applyPresent, hc] at h
        cases h
      | some c =>
        have hcompared := Value.compared_of_compare? hc
        rw [applyPresent, hc] at h
        cases c with
        | lt => exact hcompared
        | eq => cases h
        | gt => cases h
  · intro h
    exact order_answers h .less

end Operators

/-- Whatever two values are present, inequality is the negation of equality. Either no ordering
accepts them, on whichever sides they are, or the six operators agree on one order of them, which
turns around with the sides. Less is transitive, also where integers and floats are mixed. -/
theorem comparisons_coherent [Decimals] :
    (∀ l r : Value, l ≠ .unset → r ≠ .unset →
      (∃ eq, equal.Answers l r eq ∧ notEqual.Answers l r !eq) ∧
      (Incomparable l r ∧ Incomparable r l ∨
        ∃ lt eq gt, Coherent l r lt eq gt ∧ Coherent r l gt eq lt)) ∧
    ∀ l m r : Value, (order .less).Answers l m true → (order .less).Answers m r true →
      (order .less).Answers l r true := by
  constructor
  · intro l r hl hr
    refine ⟨⟨_, equal_answers hl hr, notEqual_answers hl hr⟩, ?_⟩
    cases h : l.compare? r with
    | some c =>
      have hcompared := Value.compared_of_compare? h
      exact .inr ⟨_, _, _, coherent_of_compared hcompared, coherent_swap_of_compared hcompared⟩
    | none =>
      have hback := Value.compare?_eq_none_symm h
      exact .inl ⟨incomparable_of_compare? hl hr h, incomparable_of_compare? hr hl hback⟩
  · intro l m r hlm hmr
    rw [less_answers_true_iff] at hlm hmr ⊢
    exact hlm.lt_trans hmr rfl rfl

/-- A chain over integers of 54 bits and a float between them. -/
theorem comparisons_coherent_mixed :
    Value.integer 9007199254740993 ≠ .unset ∧ Value.float 9007199254740992 ≠ .unset ∧
    (∃ lt eq gt,
      Coherent (.integer 9007199254740993) (.float 9007199254740992) lt eq gt ∧
      Coherent (.float 9007199254740992) (.integer 9007199254740993) gt eq lt) ∧
    (order .less).Answers (.integer 9007199254740993) (.float 9007199254740994) true ∧
    (order .less).Answers (.float 9007199254740994) (.integer 9007199254740996) true ∧
    (order .less).Answers (.integer 9007199254740993) (.integer 9007199254740996) true := by
  have hl : Value.integer 9007199254740993 ≠ .unset := nofun
  have hr : Value.float 9007199254740992 ≠ .unset := nofun
  have hordered : ¬ Incomparable (.integer 9007199254740993) (.float 9007199254740992) :=
    fun h => nomatch h .less
  have hcoherent := (comparisons_coherent.1 _ _ hl hr).2.resolve_left fun h => hordered h.1
  have hfirst : (order .less).Answers (.integer 9007199254740993) (.float 9007199254740994) true :=
    rfl
  have hsecond : (order .less).Answers (.float 9007199254740994) (.integer 9007199254740996) true :=
    rfl
  exact ⟨hl, hr, hcoherent, hfirst, hsecond, comparisons_coherent.2 _ _ _ hfirst hsecond⟩

end BinaryOp

end Deferred
