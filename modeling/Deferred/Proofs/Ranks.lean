import Deferred.Operator.Apply
import Deferred.Proofs.CheckedIntegers
import Deferred.Proofs.IntegerFloats
import Mathlib.Data.Prod.Lex

/-!
# The order of numbers

Floats are compared through their ranks: a float that is no NaN has a place in a linear order
(`Binary64.rank?`), equality of floats is equality of ranks and `<` is the order of ranks, whatever
the two floats are (`Binary64.beq_iff`, `Binary64.lt_iff`). An integer that is compared with a float
takes part with the rank of its own float (`Value.rank?`). Rounding does not turn the order of
integers around (`Binary64.rankOfInt_mono`), but it makes some of them share a rank; below 2^53 it
does not (`Binary64.rankOfInt_inj`).
-/

namespace Deferred

open Float.Model Float.Model.UnpackedFloat

theorem compare_neg (a b : Int) : compare (-a) (-b) = (compare a b).swap := by
  rw [Int.compare_swap]
  rcases lt_trichotomy a b with h | h | h
  · rw [compare_gt_iff_gt.2 h, compare_gt_iff_gt.2 (by omega)]
  · rw [h, compare_eq_iff_eq.2 rfl, compare_eq_iff_eq.2 rfl]
  · rw [compare_lt_iff_lt.2 h, compare_lt_iff_lt.2 (by omega)]

theorem compare_natCast (m n : Nat) : compare (m : Int) n = compare m n := by
  rcases lt_trichotomy m n with h | h | h
  · rw [compare_lt_iff_lt.2 h, compare_lt_iff_lt.2 (by omega)]
  · rw [h, compare_eq_iff_eq.2 rfl, compare_eq_iff_eq.2 rfl]
  · rw [compare_gt_iff_gt.2 h, compare_gt_iff_gt.2 (by omega)]

namespace Binary64

/-! ## Ranks -/

/-- The place of a number among the floats: on which side of zero it is, its exponent, and its
mantissa. -/
abbrev Rank := Int ×ₗ Int ×ₗ Int

def Rank.of (side exponent mantissa : Int) : Rank := toLex (side, toLex (exponent, mantissa))

theorem Rank.compare_of (a b c a' b' c' : Int) :
    compare (Rank.of a b c) (Rank.of a' b' c') =
      (compare a a').then ((compare b b').then (compare c c')) := rfl

theorem Rank.of_le_of {a b c a' b' c' : Int} :
    Rank.of a b c ≤ Rank.of a' b' c' ↔ a < a' ∨ a = a' ∧ (b < b' ∨ b = b' ∧ c ≤ c') := by
  rw [Rank.of, Rank.of, Prod.Lex.toLex_le_toLex, Prod.Lex.toLex_le_toLex]

theorem Rank.of_inj {a b c a' b' c' : Int} :
    Rank.of a b c = Rank.of a' b' c' ↔ a = a' ∧ b = b' ∧ c = c' := by
  rw [Rank.of, Rank.of, toLex_inj, Prod.mk.injEq, toLex_inj, Prod.mk.injEq]

/-- The rank of an unpacked float; a NaN has none. -/
def rankOf : UnpackedFloat → Option Rank
  | .notANumber => none
  | .infinity .negative => some (.of (-2) 0 0)
  | .finite .negative m e _ => some (.of (-1) (-e) (-m))
  | .zero _ => some (.of 0 0 0)
  | .finite .positive m e _ => some (.of 1 e m)
  | .infinity .positive => some (.of 2 0 0)

theorem unpackedCompare_eq (a b : UnpackedFloat) :
    a.compare b = (rankOf a).bind fun i => (rankOf b).map (compare i) := by
  cases a with
  | notANumber => rfl
  | infinity s =>
    cases s <;> cases b with
    | notANumber => rfl
    | infinity t => cases t <;> rfl
    | zero t => rfl
    | finite t m e h => cases t <;> rfl
  | zero s =>
    cases b with
    | notANumber => rfl
    | infinity t => cases t <;> rfl
    | zero t => rfl
    | finite t m e h => cases t <;> rfl
  | finite s m e h =>
    cases s <;> cases b with
    | notANumber => rfl
    | infinity t => cases t <;> rfl
    | zero t => rfl
    | finite t m' e' h' =>
      cases t <;> first
        | rfl
        | simp [UnpackedFloat.compare, rankOf, Rank.compare_of, compare_neg, compare_natCast,
            Ordering.swap_then]

/-- The rank of a float; a NaN has none. -/
def rank? (x : Float) : Option Rank := rankOf x.toModel.unpack

theorem rank?_eq_none_iff {x : Float} : rank? x = none ↔ x.isNaN = true := by
  show rankOf x.toModel.unpack = none ↔ x.toModel.unpack.isNaN = true
  cases x.toModel.unpack with
  | notANumber => exact iff_of_true rfl rfl
  | infinity s => cases s <;> exact iff_of_false nofun nofun
  | zero s => exact iff_of_false nofun nofun
  | finite s m e h => cases s <;> exact iff_of_false nofun nofun

variable {x y : Float}

theorem unpackedCompare_eq_some_iff {o : Ordering} :
    x.toModel.unpack.compare y.toModel.unpack = some o ↔
      ∃ i j, rank? x = some i ∧ rank? y = some j ∧ compare i j = o := by
  rw [unpackedCompare_eq, Option.bind_eq_some_iff]
  simp only [Option.map_eq_some_iff, rank?]
  constructor
  · rintro ⟨i, hi, j, hj, rfl⟩
    exact ⟨i, j, hi, hj, rfl⟩
  · rintro ⟨i, j, hi, hj, rfl⟩
    exact ⟨i, hi, j, hj, rfl⟩

theorem beq_iff : (x == y) = true ↔ ∃ i, rank? x = some i ∧ rank? y = some i := by
  show (x.toModel.unpack.compare y.toModel.unpack == some .eq) = true ↔ _
  rw [beq_iff_eq, unpackedCompare_eq_some_iff]
  constructor
  · rintro ⟨i, j, hi, hj, hij⟩
    obtain rfl := compare_eq_iff_eq.1 hij
    exact ⟨i, hi, hj⟩
  · rintro ⟨i, hi, hj⟩
    exact ⟨i, i, hi, hj, compare_eq_iff_eq.2 rfl⟩

theorem lt_iff : x < y ↔ ∃ i j, rank? x = some i ∧ rank? y = some j ∧ i < j := by
  have hlt : x < y ↔ x.toModel.unpack.compare y.toModel.unpack = some .lt := by
    show decide ((x.toModel.unpack.compare y.toModel.unpack == some .lt) = true) = true ↔ _
    rw [decide_eq_true_iff, beq_iff_eq]
  rw [hlt, unpackedCompare_eq_some_iff]
  simp only [compare_lt_iff_lt]

section Ranks

variable {i j : Rank} (hx : rank? x = some i) (hy : rank? y = some j)

include hx hy

theorem beq_iff_of_rank : (x == y) = true ↔ i = j := by
  rw [beq_iff, hx, hy]
  constructor
  · rintro ⟨k, hi, hj⟩
    cases hi
    cases hj
    rfl
  · rintro rfl
    exact ⟨i, rfl, rfl⟩

theorem lt_iff_of_rank : x < y ↔ i < j := by
  rw [lt_iff, hx, hy]
  constructor
  · rintro ⟨k, l, hi, hj, hlt⟩
    cases hi
    cases hj
    exact hlt
  · intro hlt
    exact ⟨i, j, rfl, rfl, hlt⟩

end Ranks

/-! ## Integers among the floats -/

/-- The rank of the float of an integer. -/
def rankOfInt (n : Int) : Rank :=
  if n = 0 then .of 0 0 0
  else .of n.sign (n.sign * (nearest n.natAbs).2) (n.sign * (nearest n.natAbs).1)

theorem rank?_ofInt {n : Int} (h : Integer.Fits n) : rank? (ofInt n) = some (rankOfInt n) := by
  obtain ⟨hlow, hhigh⟩ := h
  have hword : twoTo 64 = twoTo 63 + twoTo 63 := by decide
  cases n with
  | ofNat n =>
    cases n with
    | zero => rfl
    | succ n =>
      show rankOf (Float.ofNat (n + 1)).toModel.unpack = _
      have hhigh : (n + 1 : Int) < twoTo 63 := hhigh
      rw [unpack_ofNat (Nat.succ_pos n) (by omega)]
      show some (Rank.of 1 (nearest (n + 1)).2 (nearest (n + 1)).1) =
        some (Rank.of 1 (1 * (nearest (n + 1)).2) (1 * (nearest (n + 1)).1))
      rw [Int.one_mul, Int.one_mul]
  | negSucc n =>
    have hbits : n + 1 < twoTo 64 := by omega
    have hneg : (Float.neg (Float.ofNat (n + 1))).toModel.unpack =
        .finite .negative (nearest (n + 1)).1 (nearest (n + 1)).2
          (nearest_pos (Nat.succ_pos n)) := by
      show (Float.Model.pack (Float.ofNat (n + 1)).toModel.unpack.neg).unpack = _
      rw [unpack_ofNat (Nat.succ_pos n) hbits]
      exact unpack_pack_nearest (Nat.succ_pos n) hbits
    show rankOf (Float.neg (Float.ofNat (n + 1))).toModel.unpack = _
    rw [hneg]
    show some (Rank.of (-1) (-(nearest (n + 1)).2) (-(nearest (n + 1)).1)) =
      some (Rank.of (-1) (-1 * (nearest (n + 1)).2) (-1 * (nearest (n + 1)).1))
    rw [Int.neg_one_mul, Int.neg_one_mul]

theorem rankOfInt_pos {n : Int} (h : 0 < n) :
    rankOfInt n = .of 1 (nearest n.natAbs).2 (nearest n.natAbs).1 := by
  rw [rankOfInt, if_neg (Int.ne_of_gt h), Int.sign_eq_one_of_pos h, Int.one_mul, Int.one_mul]

theorem rankOfInt_neg {n : Int} (h : n < 0) :
    rankOfInt n = .of (-1) (-(nearest n.natAbs).2) (-(nearest n.natAbs).1) := by
  rw [rankOfInt, if_neg (Int.ne_of_lt h), Int.sign_eq_neg_one_of_neg h, Int.neg_one_mul,
    Int.neg_one_mul]

/-- Rounding integers to floats keeps their order. -/
theorem rankOfInt_mono {m n : Int} (h : m ≤ n) : rankOfInt m ≤ rankOfInt n := by
  rcases lt_trichotomy m 0 with hm | hm | hm
  · rw [rankOfInt_neg hm]
    rcases lt_trichotomy n 0 with hn | hn | hn
    · have hmono := nearest_mono (a := n.natAbs) (b := m.natAbs) (by omega) (by omega)
      rw [rankOfInt_neg hn, Rank.of_le_of]
      omega
    · rw [hn]
      exact Rank.of_le_of.2 (.inl (by decide))
    · rw [rankOfInt_pos hn]
      exact Rank.of_le_of.2 (.inl (by decide))
  · rcases Int.lt_or_eq_of_le (hm ▸ h) with hn | hn
    · rw [hm, rankOfInt_pos hn]
      exact Rank.of_le_of.2 (.inl (by decide))
    · rw [hm, hn]
  · have hmono := nearest_mono (a := m.natAbs) (b := n.natAbs) (by omega) (by omega)
    rw [rankOfInt_pos hm, rankOfInt_pos (by omega), Rank.of_le_of]
    omega

theorem rankOfInt_side (n : Int) : (ofLex (rankOfInt n)).1 = n.sign := by
  unfold rankOfInt
  split
  · next h => rw [h]; rfl
  · rfl

/-- An integer of magnitude less than 2^53 shares its float with no other one. -/
theorem rankOfInt_inj {m n : Int} (hsmall : m.natAbs < twoTo 53) (h : rankOfInt m = rankOfInt n) :
    m = n := by
  have hside : m.sign = n.sign := by rw [← rankOfInt_side, h, rankOfInt_side]
  rcases lt_trichotomy m 0 with hm | hm | hm
  · have hn : n < 0 := by
      rw [← Int.sign_eq_neg_one_iff_neg, ← hside, Int.sign_eq_neg_one_iff_neg]
      exact hm
    rw [rankOfInt_neg hm, rankOfInt_neg hn, Rank.of_inj] at h
    have hnat : m.natAbs = n.natAbs :=
      nearest_inj (by omega) (by omega) hsmall (Prod.ext (by omega) (by omega))
    omega
  · rw [hm, Int.sign_zero] at hside
    rw [hm, Int.sign_eq_zero_iff_zero.1 hside.symm]
  · have hn : 0 < n := by
      rw [← Int.sign_eq_one_iff_pos, ← hside, Int.sign_eq_one_iff_pos]
      exact hm
    rw [rankOfInt_pos hm, rankOfInt_pos hn, Rank.of_inj] at h
    have hnat : m.natAbs = n.natAbs :=
      nearest_inj (by omega) (by omega) hsmall (Prod.ext (by omega) (by omega))
    omega

end Binary64

namespace Value

/-! ## Numbers -/

/-- The rank of a number as a float; a NaN has none, and nothing else has one. -/
def rank? (v : Value) : Option Binary64.Rank := v.asFloat?.bind Binary64.rank?

theorem rank?_floatOfInteger (n : Int64) :
    Binary64.rank? (floatOfInteger n) = some (Binary64.rankOfInt n.toInt) :=
  Binary64.rank?_ofInt (Integer.fits_toInt n)

theorem rank?_integer (n : Int64) : (integer n).rank? = some (Binary64.rankOfInt n.toInt) :=
  rank?_floatOfInteger n

/-- Two floats are compared by their ranks. -/
theorem compareFloats_eq (x y : Float) :
    compareFloats x y =
      (Binary64.rank? x).bind fun i => (Binary64.rank? y).map (compare i) := by
  unfold compareFloats
  cases hx : Binary64.rank? x with
  | none =>
    have hlt : ¬ x < y := by simp [Binary64.lt_iff, hx]
    have hgt : ¬ y < x := by simp [Binary64.lt_iff, hx]
    have heq : ¬ (x == y) = true := by simp [Binary64.beq_iff, hx]
    rw [if_neg hlt, if_neg heq, if_neg hgt, Option.bind_none]
  | some i =>
    cases hy : Binary64.rank? y with
    | none =>
      have hlt : ¬ x < y := by simp [Binary64.lt_iff, hy]
      have hgt : ¬ y < x := by simp [Binary64.lt_iff, hy]
      have heq : ¬ (x == y) = true := by simp [Binary64.beq_iff, hy]
      rw [if_neg hlt, if_neg heq, if_neg hgt, Option.bind_some, Option.map_none]
    | some j =>
      have hlt := Binary64.lt_iff_of_rank hx hy
      have hgt := Binary64.lt_iff_of_rank hy hx
      have heq := Binary64.beq_iff_of_rank hx hy
      rw [Option.bind_some, Option.map_some]
      rcases lt_trichotomy i j with h | h | h
      · rw [if_pos (hlt.2 h), compare_lt_iff_lt.2 h]
      · rw [if_neg (hlt.not.2 h.not_lt), if_pos (heq.2 h), compare_eq_iff_eq.2 h]
      · rw [if_neg (hlt.not.2 h.not_gt), if_neg (heq.not.2 h.ne'), if_pos (hgt.2 h),
          compare_gt_iff_gt.2 h]

def isFloat : Value → Bool
  | float _ => true
  | _ => false

/-- What is equal to a float has its rank. -/
theorem beq_iff_of_isFloat {v w : Value} (h : v.isFloat = true ∨ w.isFloat = true) :
    (v == w) = true ↔ ∃ i, v.rank? = some i ∧ w.rank? = some i := by
  rw [beq_def]
  cases v with
  | float x =>
    cases w with
    | float y => exact Binary64.beq_iff
    | integer n =>
      -- The float of the integer comes first here.
      refine Binary64.beq_iff.trans (exists_congr fun i => ?_)
      exact and_comm
    | _ =>
      refine iff_of_false nofun ?_
      rintro ⟨i, -, ⟨⟩⟩
  | integer m =>
    cases w with
    | float y => exact Binary64.beq_iff
    | _ => simp [isFloat] at h
  | _ =>
    cases w with
    | float y =>
      refine iff_of_false nofun ?_
      rintro ⟨i, ⟨⟩, -⟩
    | _ => simp [isFloat] at h

end Value

end Deferred
