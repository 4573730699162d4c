import Deferred.Operator.Apply
import Deferred.Proofs.CheckedIntegers
import Deferred.Stock

/-!
# Operators on integers

An operator on integers answers with the exact integer where that fits and with an overflow where it
does not, however large its operands are. What counts as an answer is said once (`IsExactly`), and
the outcome of each operator has this form because the checked operation behind it is exact.

Main statements: `integers_exact` for the operators that compute on integers, and
`floor_division_law` for floor division and remainder, which belong together. The remainder keeps to
the law wherever it is not refused, but it is refused once although it fits
(`modulo_refuses_least`).
-/

namespace Deferred

/-- The outcome is the integer `n` if that fits, and an overflow if it does not. -/
inductive IsExactly (n : Int) : Except Fault Value → Prop where
  | fits {r : Int64} (h : r.toInt = n) : IsExactly n (.ok (.integer r))
  | overflow {cause : Excess} (h : ¬ Integer.Fits n) : IsExactly n (.error (.overflow cause))

theorem isExactly_exact (op : BinaryOp) (a b : Int64) (n : Int) :
    IsExactly n (Value.exact op a b (Integer.ofInt? n)) := by
  cases h : Integer.ofInt? n with
  | some r => exact .fits (Integer.ofInt?_eq_some_iff.1 h)
  | none => exact .overflow (Integer.ofInt?_eq_none_iff_not_fits.1 h)

/-- A divisor that is not zero is not refused as one. -/
theorem divides_and_eq_false {b : Int64} {op : ArithOp} (hb : b ≠ 0) :
    (op.divides && b == 0) = false := by
  rw [beq_eq_false_iff_ne.2 hb, Bool.and_false]

theorem not_neg_of_nonneg {b : Int64} (hb : 0 ≤ b) : ¬ b < 0 := Int64.not_lt.2 hb

theorem isExactly_negate (a : Int64) :
    IsExactly (-a.toInt) (UnaryOp.apply .negate (.integer a)) := by
  rw [UnaryOp.apply]
  split
  · next r h => exact .fits (Integer.ofInt?_eq_some_iff.1 h)
  · next h => exact .overflow (Integer.ofInt?_eq_none_iff_not_fits.1 h)

theorem invert_integer (a : Int64) :
    ∃ r : Int64, UnaryOp.apply .invert (.integer a) = .ok (.integer r) ∧
      r.toInt = -a.toInt - 1 := by
  have hfits := Integer.fits_toInt a
  refine ⟨~~~a, rfl, ?_⟩
  rw [Int64.toInt_not]
  refine Integer.bmod_of_fits ?_
  unfold Integer.Fits at hfits ⊢
  omega

section Operators

variable [Decimals] {a b : Int64}

/-- Arithmetic on two integers is the one of integers. -/
theorem apply_arith_integers (op : ArithOp) (a b : Int64) :
    BinaryOp.apply (.arith op) (.integer a) (.integer b) = Value.integerArith op a b := by
  cases op <;> rfl

/-- Arithmetic is exact where the checked operation behind it is. -/
theorem isExactly_arith {op : ArithOp} {n : Int}
    (h : Value.integerArith op a b = Value.exact (.arith op) a b (Integer.ofInt? n)) :
    IsExactly n (BinaryOp.apply (.arith op) (.integer a) (.integer b)) := by
  rw [apply_arith_integers, h]
  exact isExactly_exact _ _ _ _

theorem isExactly_power (hb : 0 ≤ b) : IsExactly (a.toInt.pow b.toInt.toNat)
    (BinaryOp.apply (.arith .power) (.integer a) (.integer b)) := by
  refine isExactly_arith ?_
  rw [← Integer.power?_eq hb]
  exact if_neg (not_neg_of_nonneg hb)

theorem isExactly_shiftLeft (hb : 0 ≤ b) : IsExactly (a.toInt * twoTo b.toInt.toNat)
    (BinaryOp.apply (.shift .left) (.integer a) (.integer b)) := by
  show IsExactly _ (if b < 0 then _ else _)
  rw [if_neg (not_neg_of_nonneg hb), Integer.shiftLeft?_places]
  exact isExactly_exact _ _ _ _

theorem shiftRight_rounds_down (hb : 0 ≤ b) :
    ∃ r : Int64, BinaryOp.apply (.shift .right) (.integer a) (.integer b) = .ok (.integer r) ∧
      r.toInt = a.toInt.fdiv (twoTo b.toInt.toNat) :=
  ⟨_, if_neg (not_neg_of_nonneg hb), Integer.toInt_shiftRight_places a b⟩

/-- A quotient is an integer exactly where the divisor goes in without a remainder. -/
theorem divide_integers (hb : b ≠ 0) :
    (b.toInt ∣ a.toInt → IsExactly (a.toInt / b.toInt)
      (BinaryOp.apply (.arith .divide) (.integer a) (.integer b))) ∧
    (¬ b.toInt ∣ a.toInt → BinaryOp.apply (.arith .divide) (.integer a) (.integer b) =
      .ok (.float (Value.floatOfInteger a / Value.floatOfInteger b))) := by
  rw [apply_arith_integers, Value.integerArith, divides_and_eq_false hb]
  cases h : Integer.refusesQuotient a b with
  | true =>
    obtain ⟨rfl, rfl⟩ := (Integer.refusesQuotient_iff hb).1 h
    exact ⟨fun _ => .overflow (by decide), fun hdvd => absurd (by decide) hdvd⟩
  | false =>
    have hrem : Integer.rem? a b = some (a % b) := by rw [Integer.rem?, h]; rfl
    have hdvd : (a % b == 0) = true ↔ b.toInt ∣ a.toInt := by
      rw [beq_iff_eq, ← Int64.toInt_inj, Int64.toInt_mod]
      exact Int.dvd_iff_tmod_eq_zero.symm
    rw [hrem]
    show (_ → IsExactly _ (if (a % b == 0) = true then _ else _)) ∧
      (_ → (if (a % b == 0) = true then _ else _) = _)
    refine ⟨fun hd => ?_, fun hd => ?_⟩
    · rw [if_pos (hdvd.2 hd), Integer.div?_eq hb, Int.tdiv_eq_ediv_of_dvd hd]
      exact isExactly_exact _ _ _ _
    · rw [if_neg fun hzero => hd (hdvd.1 hzero)]

end Operators

/-- Integers are computed with exactly: an outcome that fits is the integer itself and any other is
an overflow, be it of a sum, a difference, a product, a power, a shift or a negation. A shift to the
right rounds down and always fits, and so does inversion. A quotient is an integer where the divisor
goes in, and a float elsewhere. -/
theorem integers_exact [Decimals] (a b : Int64) :
    IsExactly (a.toInt + b.toInt) (BinaryOp.apply (.arith .add) (.integer a) (.integer b)) ∧
    IsExactly (a.toInt - b.toInt) (BinaryOp.apply (.arith .subtract) (.integer a) (.integer b)) ∧
    IsExactly (a.toInt * b.toInt) (BinaryOp.apply (.arith .multiply) (.integer a) (.integer b)) ∧
    (0 ≤ b →
      IsExactly (a.toInt.pow b.toInt.toNat)
        (BinaryOp.apply (.arith .power) (.integer a) (.integer b)) ∧
      IsExactly (a.toInt * twoTo b.toInt.toNat)
        (BinaryOp.apply (.shift .left) (.integer a) (.integer b)) ∧
      ∃ r : Int64, BinaryOp.apply (.shift .right) (.integer a) (.integer b) = .ok (.integer r) ∧
        r.toInt = a.toInt.fdiv (twoTo b.toInt.toNat)) ∧
    (b ≠ 0 →
      (b.toInt ∣ a.toInt → IsExactly (a.toInt / b.toInt)
        (BinaryOp.apply (.arith .divide) (.integer a) (.integer b))) ∧
      (¬ b.toInt ∣ a.toInt → BinaryOp.apply (.arith .divide) (.integer a) (.integer b) =
        .ok (.float (Value.floatOfInteger a / Value.floatOfInteger b)))) ∧
    IsExactly (-a.toInt) (UnaryOp.apply .negate (.integer a)) ∧
    ∃ r : Int64, UnaryOp.apply .invert (.integer a) = .ok (.integer r) ∧
      r.toInt = -a.toInt - 1 := by
  refine ⟨isExactly_arith rfl, isExactly_arith rfl, isExactly_arith rfl, ?_, divide_integers,
    isExactly_negate a, invert_integer a⟩
  intro hb
  exact ⟨isExactly_power hb, isExactly_shiftLeft hb, shiftRight_rounds_down hb⟩

/-- At the end of the range: `(-2) ** 63` and `-2 << 62` are the least integer, which is no integer
of 64 bits when it is divided by -1, no integer at all when it is divided by 3, and -1 when it is
moved by more places than there are. -/
theorem integers_exact_least :
    (0 : Int64) ≤ 63 ∧
    IsExactly (-twoTo 63) (BinaryOp.apply (.arith .power) (.integer (-2)) (.integer 63)) ∧
    IsExactly (-twoTo 63) (BinaryOp.apply (.shift .left) (.integer (-2)) (.integer 62)) ∧
    (∃ r : Int64,
      BinaryOp.apply (.shift .right) (.integer .minValue) (.integer 100) = .ok (.integer r) ∧
      r.toInt = -1) ∧
    IsExactly (twoTo 63) (BinaryOp.apply (.arith .divide) (.integer .minValue) (.integer (-1))) ∧
    BinaryOp.apply (.arith .divide) (.integer .minValue) (.integer 3) =
      .ok (.float (Value.floatOfInteger .minValue / Value.floatOfInteger 3)) := by
  have hcount : (0 : Int64) ≤ 63 := by decide
  have hpower := ((integers_exact (-2) 63).2.2.2.1 hcount).1
  have hleft := ((integers_exact (-2) 62).2.2.2.1 (by decide)).2.1
  have hright := ((integers_exact .minValue 100).2.2.2.1 (by decide)).2.2
  have hminus := ((integers_exact .minValue (-1)).2.2.2.2.1 (by decide)).1 (by decide)
  have hthree := ((integers_exact .minValue 3).2.2.2.2.1 (by decide)).2 (by decide)
  exact ⟨hcount, hpower, hleft, hright, hminus, hthree⟩

/-! ## Floor division and remainder -/

/-- What remains when a quotient is rounded down is zero or has the sign of the divisor, and it is
smaller than the divisor. -/
theorem fmod_bounds (x : Int) {y : Int} (hy : y ≠ 0) :
    (x.fmod y = 0 ∨ (x.fmod y).sign = y.sign) ∧ (x.fmod y).natAbs < y.natAbs := by
  rcases Int.lt_or_gt_of_ne hy with hneg | hpos
  · obtain ⟨-, hlow, hhigh⟩ := (Int.fdiv_fmod_unique' hneg (a := x)).1 ⟨rfl, rfl⟩
    refine ⟨?_, by omega⟩
    rw [Int.sign_eq_neg_one_of_neg hneg, Int.sign_eq_neg_one_iff_neg]
    omega
  · obtain ⟨-, hlow, hhigh⟩ := (Int.fdiv_fmod_unique hpos (a := x)).1 ⟨rfl, rfl⟩
    refine ⟨?_, by omega⟩
    rw [Int.sign_eq_one_of_pos hpos, Int.sign_eq_one_iff_pos]
    omega

section FloorDivision

variable [Decimals] {a b : Int64}

theorem isExactly_floorDivide (hb : b ≠ 0) : IsExactly (a.toInt.fdiv b.toInt)
    (BinaryOp.apply (.arith .floorDivide) (.integer a) (.integer b)) := by
  refine isExactly_arith ?_
  rw [← Integer.floorDiv?_eq hb, Value.integerArith, divides_and_eq_false hb]
  rfl

theorem modulo_integers (h : Integer.refusesQuotient a b = false) :
    ∃ r : Int64, BinaryOp.apply (.arith .modulo) (.integer a) (.integer b) = .ok (.integer r) ∧
      r.toInt = a.toInt.fmod b.toInt := by
  obtain ⟨r, hr, hfmod⟩ := Integer.floorMod?_eq_some h
  refine ⟨r, ?_, hfmod⟩
  rw [apply_arith_integers, Value.integerArith,
    divides_and_eq_false (Integer.ne_zero_of_not_refuses h)]
  show Value.exact _ a b (Integer.floorMod? a b) = _
  rw [hr]
  rfl

/-- Where there are a quotient and a remainder, they make up the dividend. -/
theorem add_of_floorDivide_of_modulo {q r : Int64}
    (hq : BinaryOp.apply (.arith .floorDivide) (.integer a) (.integer b) = .ok (.integer q))
    (hr : BinaryOp.apply (.arith .modulo) (.integer a) (.integer b) = .ok (.integer r)) :
    a.toInt = b.toInt * q.toInt + r.toInt := by
  cases h : Integer.refusesQuotient a b with
  | true =>
    have hrefused : ¬ ∃ r, BinaryOp.apply (.arith .modulo) (.integer a) (.integer b) = .ok r := by
      by_cases hb : b = 0
      · subst hb
        exact nofun
      · obtain ⟨rfl, rfl⟩ := (Integer.refusesQuotient_iff hb).1 h
        exact nofun
    exact absurd ⟨_, hr⟩ hrefused
  | false =>
    have hexact := isExactly_floorDivide (a := a) (Integer.ne_zero_of_not_refuses h)
    obtain ⟨s, hs, hfmod⟩ := modulo_integers h
    rw [hq] at hexact
    rw [hr] at hs
    cases hs
    cases hexact with
    | fits hfdiv => rw [hfdiv, hfmod, Int.mul_fdiv_add_fmod]

end FloorDivision

/-- By zero there is neither quotient nor remainder. Otherwise the quotient is rounded down and is
exact, and the remainder, unless the least integer is divided by -1, is what the quotient leaves: it
always fits, it is zero or has the sign of the divisor, and it is smaller. The two make up the
dividend wherever both are there. -/
theorem floor_division_law [Decimals] (a b : Int64) :
    (b = 0 →
      BinaryOp.apply (.arith .floorDivide) (.integer a) (.integer b) = .error .divisionByZero ∧
      BinaryOp.apply (.arith .modulo) (.integer a) (.integer b) = .error .divisionByZero) ∧
    (b ≠ 0 → IsExactly (a.toInt.fdiv b.toInt)
      (BinaryOp.apply (.arith .floorDivide) (.integer a) (.integer b))) ∧
    (b ≠ 0 → ¬ (a = .minValue ∧ b = -1) →
      ∃ r : Int64, BinaryOp.apply (.arith .modulo) (.integer a) (.integer b) = .ok (.integer r) ∧
        r.toInt = a.toInt - b.toInt * a.toInt.fdiv b.toInt ∧
        (r.toInt = 0 ∨ r.toInt.sign = b.toInt.sign) ∧ r.toInt.natAbs < b.toInt.natAbs) ∧
    ∀ q r : Int64,
      BinaryOp.apply (.arith .floorDivide) (.integer a) (.integer b) = .ok (.integer q) →
      BinaryOp.apply (.arith .modulo) (.integer a) (.integer b) = .ok (.integer r) →
      a.toInt = b.toInt * q.toInt + r.toInt := by
  refine ⟨fun hb => ?_, isExactly_floorDivide, fun hb hleast => ?_,
    fun q r hq hr => add_of_floorDivide_of_modulo hq hr⟩
  · subst hb
    exact ⟨rfl, rfl⟩
  · have hfits : Integer.refusesQuotient a b = false :=
      Bool.eq_false_iff.2 fun h => hleast ((Integer.refusesQuotient_iff hb).1 h)
    obtain ⟨r, hr, hfmod⟩ := modulo_integers hfits
    have hbounds := fmod_bounds a.toInt (Integer.toInt_ne_zero hb)
    rw [← hfmod] at hbounds
    exact ⟨r, hr, by rw [hfmod, Int.fmod_def], hbounds⟩

/-- All the cases of the law: no divisor, a quotient that does not fit, signs that differ. -/
theorem floor_division_law_signs :
    BinaryOp.apply (.arith .modulo) (.integer 7) (.integer 0) = .error .divisionByZero ∧
    IsExactly (twoTo 63)
      (BinaryOp.apply (.arith .floorDivide) (.integer .minValue) (.integer (-1))) ∧
    (∃ r : Int64, BinaryOp.apply (.arith .modulo) (.integer (-7)) (.integer 3) = .ok (.integer r) ∧
      r.toInt = 2) ∧
    BinaryOp.apply (.arith .floorDivide) (.integer 7) (.integer (-3)) = .ok (.integer (-3)) ∧
    BinaryOp.apply (.arith .modulo) (.integer 7) (.integer (-3)) = .ok (.integer (-2)) ∧
    (7 : Int64).toInt = (-3 : Int64).toInt * (-3 : Int64).toInt + (-2 : Int64).toInt := by
  have hzero := (floor_division_law 7 0).1 rfl
  have hleast := (floor_division_law .minValue (-1)).2.1 (by decide)
  obtain ⟨r, hr, hlaw, -⟩ := (floor_division_law (-7) 3).2.2.1 (by decide) (by decide)
  have hsum := (floor_division_law 7 (-3)).2.2.2 (-3) (-2) rfl rfl
  exact ⟨hzero.2, hleast, ⟨r, hr, hlaw⟩, rfl, rfl, hsum⟩

/-- Nothing remains when the least integer is divided by -1, but the remainder is refused as if it
did not fit. -/
theorem modulo_refuses_least :
    (-1 : Int64) ≠ 0 ∧
    Int64.minValue.toInt - (-1 : Int64).toInt * Int64.minValue.toInt.fdiv (-1 : Int64).toInt = 0 ∧
    Integer.Fits 0 ∧
    BinaryOp.apply (.arith .modulo) (.integer .minValue) (.integer (-1)) =
      .error (.overflow (.integers .minValue (.arith .modulo) (-1))) :=
  ⟨by decide, by decide, by decide, rfl⟩

end Deferred
