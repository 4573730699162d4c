import Deferred.Proofs.Comparisons
import Deferred.Proofs.IntegerOperators
import Deferred.Proofs.VanishingFloats

/-!
# Zero divisors

The operators that divide report a division by zero. Whether the divisor is zero is asked in three
places, of an integer, of a float and of a decimal (`integerArith_eq_divisionByZero_iff` and the two
after it). The answers agree with equality to the integer zero, whatever the dividend is, except for
an integer that is divided by a float that vanishes (`divide_vanishing`).

Main statement: `division_by_zero_law`, for every lawful library of decimals.
-/

namespace Deferred

namespace Value

/-- Whether the value is an integer or a float. -/
def isNumber : Value → Bool
  | integer _ => true
  | float _ => true
  | _ => false

/-! ## Zeros -/

theorem integer_beq_zero_iff {n : Int64} : (integer n == integer 0) = true ↔ n = 0 :=
  beq_iff_eq (a := n) (b := 0)

theorem floatOfInteger_beq_zero_iff {n : Int64} : (floatOfInteger n == 0) = true ↔ n = 0 := by
  have hzero : Binary64.rank? 0 = some (Binary64.rankOfInt 0) := rfl
  rw [Binary64.beq_iff_of_rank (rank?_floatOfInteger n) hzero]
  constructor
  · intro h
    have hint := Binary64.rankOfInt_inj (by decide) h.symm
    exact Int64.toInt_inj.1 hint.symm
  · rintro rfl
    rfl

theorem float_beq_zero_iff {x : Float} : (float x == integer 0) = true ↔ (x == 0) = true := by
  rw [beq_iff_of_isFloat (.inl rfl), Binary64.beq_iff]
  rfl

/-! ## The three tests -/

theorem exact_ne_divisionByZero {op : BinaryOp} {a b : Int64} {r : Option Int64} :
    exact op a b r ≠ .error .divisionByZero := by
  cases r <;> simp [exact]

theorem arith_of_not_isNumber [Decimals] (op : ArithOp) {v w : Value}
    (h : ¬ (v.isNumber = true ∧ w.isNumber = true)) :
    arith op v w = unsupported (.arith op) v w := by
  cases v with
  | integer a =>
    cases w with
    | integer b => exact absurd ⟨rfl, rfl⟩ h
    | float y => exact absurd ⟨rfl, rfl⟩ h
    | _ => rfl
  | float x =>
    cases w with
    | integer b => exact absurd ⟨rfl, rfl⟩ h
    | float y => exact absurd ⟨rfl, rfl⟩ h
    | _ => rfl
  | _ => rfl

section Divides

variable {op : ArithOp} (hop : op.divides = true)

include hop

theorem integerArith_eq_divisionByZero_iff {a b : Int64} :
    integerArith op a b = .error .divisionByZero ↔ b = 0 := by
  unfold integerArith
  by_cases hb : b = 0
  · rw [hop, hb]
    exact iff_of_true rfl rfl
  · refine iff_of_false (fun h => ?_) hb
    rw [divides_and_eq_false hb, if_neg Bool.false_ne_true] at h
    cases op with
    | divide =>
      dsimp only at h
      split at h
      · split at h
        · exact exact_ne_divisionByZero h
        · cases h
      · exact exact_ne_divisionByZero h
    | floorDivide => exact exact_ne_divisionByZero h
    | modulo => exact exact_ne_divisionByZero h
    | add | subtract | multiply | power => cases hop

theorem floatArith_eq_divisionByZero_iff {x y : Float} :
    floatArith op x y = .error .divisionByZero ↔ (y == 0) = true := by
  unfold floatArith
  by_cases hy : (y == 0) = true
  · rw [hop, hy]
    exact iff_of_true rfl rfl
  · refine iff_of_false (fun h => ?_) hy
    rw [Bool.eq_false_iff.2 hy, Bool.and_false, if_neg Bool.false_ne_true] at h
    cases op with
    | divide | floorDivide | modulo => cases h
    | add | subtract | multiply | power => cases hop

/-- Decimals are asked first, and a float only where one of the two has no decimal or the decimals
have no result. -/
theorem mixedArith_eq_divisionByZero_iff [Decimals] {a b : Option Decimals.Decimal} {x y : Float}
    (hzero : (y == 0) = true → ∃ e, b = some e ∧ Decimals.isZero e = true) :
    mixedArith op a b x y = .error .divisionByZero ↔
      (y == 0) = true ∨ a.isSome = true ∧ ∃ e, b = some e ∧ Decimals.isZero e = true := by
  cases a with
  | none =>
    rw [mixedArith, floatArith_eq_divisionByZero_iff hop]
    · simp
    · simp
  | some d =>
    cases b with
    | none =>
      rw [mixedArith, floatArith_eq_divisionByZero_iff hop]
      · simp
      · simp
    | some e =>
      rw [mixedArith, hop, Bool.true_and]
      split
      · next he =>
        exact iff_of_true rfl (.inr ⟨rfl, e, rfl, he⟩)
      · next he =>
        have hnonzero : ¬ ∃ e', some e = some e' ∧ Decimals.isZero e' = true := by
          rintro ⟨e', ⟨⟩, he'⟩
          exact he he'
        have hy : ¬ (y == 0) = true := fun h => hnonzero (hzero h)
        refine iff_of_false (fun h => ?_) fun h => h.elim hy fun h => hnonzero h.2
        split at h
        · cases h
        · exact hy ((floatArith_eq_divisionByZero_iff hop).1 h)

theorem arith_eq_divisionByZero_iff [Decimals] [Decimals.Lawful] {v w : Value}
    (hv : v.isNumber = true) (hw : w.isNumber = true) :
    arith op v w = .error .divisionByZero ↔
      (w == integer 0) = true ∨ ∃ n x, v = integer n ∧ w = float x ∧ Binary64.Vanishes x := by
  cases v with
  | integer a =>
    cases w with
    | integer b =>
      rw [arith, integerArith_eq_divisionByZero_iff hop, integer_beq_zero_iff]
      simp
    | float y =>
      obtain ⟨d, hd, -⟩ := Decimals.Lawful.ofInteger? a
      rw [arith, mixedArith_eq_divisionByZero_iff hop (Decimals.Lawful.ofFloat?_zero y),
        Decimals.isZero_iff, float_beq_zero_iff, hd]
      simp
    | _ => cases hw
  | float x =>
    cases w with
    | integer b =>
      obtain ⟨d, hd, hdecimal⟩ := Decimals.Lawful.ofInteger? b
      have hzero : (floatOfInteger b == 0) = true →
          ∃ e, Decimals.ofInteger? b = some e ∧ Decimals.isZero e = true :=
        fun h => ⟨d, hd, hdecimal.2 (floatOfInteger_beq_zero_iff.1 h)⟩
      rw [arith, mixedArith_eq_divisionByZero_iff hop hzero, floatOfInteger_beq_zero_iff,
        integer_beq_zero_iff, hd]
      simp [hdecimal]
    | float y =>
      rw [arith, floatArith_eq_divisionByZero_iff hop, float_beq_zero_iff]
      simp
    | _ => cases hw
  | _ => cases hv

end Divides

end Value

namespace BinaryOp

section Divides

variable {op : ArithOp} (hop : op.divides = true)

include hop

theorem apply_arith_of_divides [Decimals] {l r : Value} (hl : l ≠ .unset) (hr : r ≠ .unset) :
    apply (.arith op) l r = l.arith op r := by
  rw [apply_of_present _ hl hr]
  cases op with
  | divide | floorDivide | modulo => rfl
  | add | subtract | multiply | power => cases hop

theorem apply_eq_divisionByZero_iff [Decimals] [Decimals.Lawful] (l r : Value) :
    apply (.arith op) l r = .error .divisionByZero ↔
      l.isNumber = true ∧ r.isNumber = true ∧
        ((r == .integer 0) = true ∨
          ∃ n x, l = .integer n ∧ r = .float x ∧ Binary64.Vanishes x) := by
  by_cases hnumbers : l.isNumber = true ∧ r.isNumber = true
  · obtain ⟨hl, hr⟩ := hnumbers
    have hl' : l ≠ .unset := by
      rintro rfl
      cases hl
    have hr' : r ≠ .unset := by
      rintro rfl
      cases hr
    rw [apply_arith_of_divides hop hl' hr', Value.arith_eq_divisionByZero_iff hop hl hr]
    simp [hl, hr]
  · refine iff_of_false (fun h => ?_) fun h => hnumbers ⟨h.1, h.2.1⟩
    by_cases hunset : (l.isUnset || r.isUnset) = true
    · rw [apply, if_pos hunset] at h
      cases h
    · rw [Bool.or_eq_true, Value.isUnset_iff, Value.isUnset_iff, not_or] at hunset
      rw [apply_arith_of_divides hop hunset.1 hunset.2,
        Value.arith_of_not_isNumber op hnumbers] at h
      cases h

end Divides

/-- The operators that divide report a division by zero where both operands are numbers and the
divisor equals zero, and in one more case: where an integer is divided by a float that vanishes in
the decimals of the library. In those of 96 bits no float of 10^-28 or more vanishes, and every one
below 8 · 10^-29 does, but for zero. -/
theorem division_by_zero_law {op : ArithOp} (hop : op.divides = true) :
    (∀ [Decimals] [Decimals.Lawful] (l r : Value),
      apply (.arith op) l r = .error .divisionByZero ↔
        l.isNumber = true ∧ r.isNumber = true ∧
          ((r == .integer 0) = true ∨
            ∃ n x, l = .integer n ∧ r = .float x ∧ Binary64.Vanishes x)) ∧
    (∀ x, Binary64.Vanishes x → Binary64.IsTiny x ⟨1, -28⟩) ∧
    ∀ x, Binary64.IsTiny x ⟨8, -29⟩ → Binary64.Vanishes x :=
  ⟨apply_eq_divisionByZero_iff hop, fun _ => Binary64.Vanishes.isTiny,
    fun _ => Binary64.IsTiny.vanishes⟩

/-- Floor division by zero, by the text `0` and by 2^-100, which vanishes: it is refused of the
integer 7 and not of the float 7. -/
theorem division_by_zero_law_floorDivide :
    ArithOp.floorDivide.divides = true ∧
    apply (.arith .floorDivide) (.float 7) (.integer 0) = .error .divisionByZero ∧
    apply (.arith .floorDivide) (.integer 7) (.string "0") ≠ .error .divisionByZero ∧
    apply (.arith .floorDivide) (.float 7) (.float (Float.ofBits 0x39B0000000000000)) ≠
      .error .divisionByZero ∧
    apply (.arith .floorDivide) (.integer 7) (.float (Float.ofBits 0x39B0000000000000)) =
      .error .divisionByZero := by
  obtain ⟨hiff, -, htiny⟩ :=
    division_by_zero_law (show ArithOp.floorDivide.divides = true from rfl)
  have hvanishes : Binary64.Vanishes (Float.ofBits 0x39B0000000000000) :=
    htiny _ ⟨⟨false, twoTo 52, -152⟩, rfl, twoTo_pos 52, Dyadic.isBelow_iff.2 (by decide)⟩
  refine ⟨rfl, (hiff _ _).2 ⟨rfl, rfl, .inl rfl⟩, ?_, ?_, (hiff _ _).2 ⟨rfl, rfl, .inr ?_⟩⟩
  · intro h
    cases ((hiff _ _).1 h).2.1
  · intro h
    obtain ⟨-, -, hzero | ⟨n, x, hn, -⟩⟩ := (hiff _ _).1 h
    · exact Bool.false_ne_true hzero
    · cases hn
  · exact ⟨7, _, rfl, rfl, hvanishes⟩

/-- The integer 1 divided by the float 2^-100 is reported as a division by zero, although this
float does not equal zero and the float 1 is divided by it with the result 2^100. -/
theorem divide_vanishing :
    apply (.arith .divide) (.integer 1) (.float (Float.ofBits 0x39B0000000000000)) =
      .error .divisionByZero ∧
    (Value.float (Float.ofBits 0x39B0000000000000) == .integer 0) = false ∧
    apply (.arith .divide) (.float 1) (.float (Float.ofBits 0x39B0000000000000)) =
      .ok (.float (Float.ofBits 0x4630000000000000)) :=
  ⟨rfl, rfl, rfl⟩

end BinaryOp

end Deferred
