import Deferred.Number.Shortest
import Deferred.Proofs.FloatReadings
import Deferred.Stock

/-!
# Floats that vanish

A decimal has only so many places, and a float that is too small for them is given the decimal zero
although it is not zero itself: it vanishes (`Binary64.Vanishes`). Which floats vanish is left to
the library of decimals, of which no more is asked than that it tells zero apart from other integers
and gives the float zero the decimal zero (`Decimals.Lawful`).

With the stock decimals, which have at most 28 places, it depends on the errors of two loops.
Turning halves into places (`cancelTwos`) loses something only where 96 bits are used up, and then
at most five in 2^96 with each half. Removing the places from the 29th on (`limitPlaces`) rounds
each of them by itself, so that the errors add up to five ninths of the last place that stays.

Neither matters at 10^-28: a float of that magnitude or more never vanishes (`Vanishes.isTiny`), and
one below 8 · 10^-29 always does (`IsTiny.vanishes`).
-/

namespace Deferred

theorem tenTo_zero : tenTo 0 = 1 := rfl

theorem twoTo_zero : twoTo 0 = 1 := rfl

theorem tenTo_add (m n : Nat) : tenTo (m + n) = tenTo m * tenTo n := Nat.pow_add 10 m n

namespace Dyadic

/-- The magnitude is less than that of a decimal. -/
def IsBelow (d : Dyadic) (s : Scientific) : Prop :=
  compareScientific s d.mantissa d.exponent = .gt

theorem isBelow_iff {d : Dyadic} {digits places : Nat} :
    d.IsBelow ⟨digits, -(places : Int)⟩ ↔
      d.mantissa * twoTo d.exponent.toNat * tenTo places < digits * twoTo (-d.exponent).toNat := by
  have hup : (-(places : Int)).toNat = 0 := by omega
  have hdown : (-(-(places : Int))).toNat = places := by omega
  rw [IsBelow, compareScientific, compare_gt_iff_gt, hup, hdown, tenTo_zero, Nat.mul_one]

end Dyadic

namespace Binary64

/-- A float other than zero whose magnitude is less than that of a decimal. -/
def IsTiny (x : Float) (s : Scientific) : Prop :=
  ∃ d, Dyadic.ofFloat? x = some d ∧ 0 < d.mantissa ∧ d.IsBelow s

/-- A float other than zero whose decimal is zero. -/
def Vanishes [Decimals] (x : Float) : Prop :=
  ¬ (x == 0) = true ∧ ∃ d, Decimals.ofFloat? x = some d ∧ Decimals.isZero d = true

end Binary64

namespace Decimals

/-- What is asked of decimals where zero is concerned. -/
class Lawful [Decimals] : Prop where
  /-- Every integer has a decimal, and that of zero alone is zero. -/
  ofInteger? : ∀ n : Int64, ∃ d, ofInteger? n = some d ∧ (isZero d = true ↔ n = 0)
  /-- The float zero, with either sign, has a decimal that is zero. -/
  ofFloat?_zero : ∀ x : Float, (x == 0) = true → ∃ d, ofFloat? x = some d ∧ isZero d = true

/-- A decimal is zero where its float is, and where its float vanishes. -/
theorem isZero_iff [Decimals] [Lawful] {x : Float} :
    (∃ d, Decimals.ofFloat? x = some d ∧ isZero d = true) ↔
      (x == 0) = true ∨ Binary64.Vanishes x := by
  constructor
  · intro h
    by_cases hx : (x == 0) = true
    · exact .inl hx
    · exact .inr ⟨hx, h⟩
  · rintro (hx | hx)
    · exact Lawful.ofFloat?_zero x hx
    · exact hx.2

end Decimals

namespace Decimal96

/-! ## What is kept of a number that is not zero -/

/-- Division by ten with rounding, as both loops on places do it. -/
theorem tenth_eq (m : Nat) : (if 5 ≤ m % 10 then m / 10 + 1 else m / 10) = (m + 5) / 10 := by
  split <;> omega

theorem trimZeros_fst_eq_zero {m places : Nat} : (trimZeros m places).1 = 0 ↔ m = 0 := by
  induction places generalizing m with
  | zero => rfl
  | succ places ih =>
    rw [trimZeros]
    split
    · rw [ih]
      omega
    · rfl

theorem limitDigits_fst_eq_zero {m places : Nat} : (limitDigits m places).1 = 0 ↔ m = 0 := by
  have hbits : 10 ≤ twoTo 52 := by decide
  induction places generalizing m with
  | zero => rfl
  | succ places ih =>
    rw [limitDigits]
    split
    · rfl
    · rw [tenth_eq]
      exact ih.trans (by omega)

theorem cancelTwos_fst_pos {m : Nat} (hm : 0 < m) (t places : Nat) :
    0 < (cancelTwos t m places).1 := by
  have hbound : 5 < bound := by decide
  induction t generalizing m places with
  | zero => exact hm
  | succ t ih =>
    rw [cancelTwos]
    split
    · exact ih (by omega) _
    · split <;> exact ih (by omega) _

theorem absorbTwos_fst_pos {t m tens : Nat} (hm : 0 < m) : 0 < (absorbTwos t m tens).1 := by
  have hbound : 5 ≤ bound / 2 := by decide
  induction t generalizing m tens with
  | zero => exact hm
  | succ t ih =>
    rw [absorbTwos]
    split <;> exact ih (by omega)

theorem scaleUp_pos {tens m n : Nat} (hm : 0 < m) (h : scaleUp tens m = some n) : 0 < n := by
  induction tens generalizing m with
  | zero =>
    cases h
    exact hm
  | succ tens ih =>
    rw [scaleUp] at h
    split at h
    · exact ih (by omega) h
    · cases h

/-! ## Two halves of a conversion -/

/-- The magnitude of a float and its places, before the places are limited. -/
def magnitude? (d : Dyadic) : Option (Nat × Nat) :=
  if d.mantissa = 0 then some (0, 0)
  else if d.exponent < 0 then some (cancelTwos (-d.exponent).toNat d.mantissa 0)
  else (scaleUp (absorbTwos d.exponent.toNat d.mantissa 0).2
    (absorbTwos d.exponent.toNat d.mantissa 0).1).map (·, 0)

/-- The decimal that is made of a magnitude and its places. -/
def ofMagnitude (negative : Bool) (a : Nat × Nat) : Decimal96 :=
  let (m, places) := limitPlaces a.1 a.2
  let (m, places) := limitDigits m places
  let (m, places) := trimZeros m places
  ⟨if negative then -m else m, places⟩

theorem ofFloat?_eq {x : Float} {d : Dyadic} (hd : Dyadic.ofFloat? x = some d) :
    ofFloat? x = (magnitude? d).map (ofMagnitude d.negative) := by
  rw [ofFloat?, hd]
  rfl

/-- Only the limit of places makes a number zero. -/
theorem isZero_ofMagnitude {negative : Bool} {a : Nat × Nat} :
    (ofMagnitude negative a).isZero = true ↔ (limitPlaces a.1 a.2).1 = 0 := by
  have hsigned : ∀ n : Nat, ((if negative then -(n : Int) else n) == 0) = true ↔ n = 0 := by
    intro n
    rw [beq_iff_eq]
    split <;> omega
  exact (hsigned _).trans (trimZeros_fst_eq_zero.trans limitDigits_fst_eq_zero)

theorem isZero_of_beq_zero {x : Float} (h : (x == 0) = true) :
    ∃ a, ofFloat? x = some a ∧ a.isZero = true := by
  obtain ⟨d, hd, hm⟩ := Dyadic.beq_zero_iff.1 h
  refine ⟨ofMagnitude d.negative (0, 0), ?_, isZero_ofMagnitude.2 rfl⟩
  rw [ofFloat?_eq hd, magnitude?, if_pos hm]
  rfl

/-- The stock decimals of integers have no places. -/
instance lawful_stock : Decimals.Lawful where
  ofInteger? n := by
    refine ⟨_, rfl, ?_⟩
    show (n.toInt == 0) = true ↔ n = 0
    rw [beq_iff_eq]
    exact Int64.toInt_inj (y := 0)
  ofFloat?_zero _ := isZero_of_beq_zero

theorem limitPlaces_of_le {m places : Nat} (h : places ≤ 28) :
    limitPlaces m places = (m, places) := by
  cases places with
  | zero => rfl
  | succ places => exact if_pos h

/-! ## The errors of the two loops -/

theorem limitPlaces_succ {m places : Nat} (h : 28 ≤ places) :
    limitPlaces m (places + 1) =
      if m / 10 = 0 then (0, 0) else limitPlaces ((m + 5) / 10) places := by
  have hlimit : ¬ places + 1 ≤ maxPlaces := Nat.not_le.2 (Nat.lt_succ_of_le h)
  rw [limitPlaces, if_neg hlimit, tenth_eq]

/-- Places are removed from the last one on, each of them with an error of at most a half. That is
at most 5/9 in all, so that only a number of at most 10 - 5/9 in the 29th place is lost. -/
theorem le_of_limitPlaces_fst_eq_zero {m j : Nat} (h : (limitPlaces m (j + 29)).1 = 0) :
    9 * m + 4 ≤ 85 * tenTo j := by
  induction j generalizing m with
  | zero =>
    have hone := tenTo_zero
    rw [limitPlaces_succ (Nat.le_refl 28)] at h
    split at h
    · omega
    · rw [limitPlaces_of_le (Nat.le_refl 28)] at h
      omega
  | succ j ih =>
    have hpos := tenTo_pos j
    rw [tenTo_succ]
    rw [limitPlaces_succ (by omega)] at h
    split at h
    · omega
    · have hih := ih h
      omega

/-- A number of at most 9 - 5/9 in the 29th place is lost. -/
theorem limitPlaces_eq_zero {m j : Nat} (h : 9 * m ≤ 76 * tenTo j + 5) :
    limitPlaces m (j + 29) = (0, 0) := by
  induction j generalizing m with
  | zero =>
    have hone := tenTo_zero
    rw [limitPlaces_succ (Nat.le_refl 28), if_pos (by omega)]
  | succ j ih =>
    rw [tenTo_succ] at h
    rw [limitPlaces_succ (by omega)]
    split
    · rfl
    · exact ih (by omega)

/-- Turning halves into places makes no number greater. -/
theorem cancelTwos_le (t m places : Nat) :
    (cancelTwos t m places).1 * twoTo t * tenTo places ≤
      m * tenTo (cancelTwos t m places).2 := by
  induction t generalizing m places with
  | zero => exact Nat.le_of_eq (congrArg (· * tenTo places) (Nat.mul_one m))
  | succ t ih =>
    have hhalved : (cancelTwos t (m / 2) places).1 * (twoTo t * 2) * tenTo places ≤
        m * tenTo (cancelTwos t (m / 2) places).2 := by
      have hhalf : m / 2 * 2 ≤ m := Nat.div_mul_le_self m 2
      have hscaled := Nat.mul_le_mul_right (tenTo (cancelTwos t (m / 2) places).2) hhalf
      linarith [ih (m / 2) places]
    rw [cancelTwos, twoTo_succ]
    split
    · exact hhalved
    · split
      · have hih := ih (m * 5) (places + 1)
        rw [tenTo_succ] at hih
        linarith
      · exact hhalved

/-- What is lost on the way is at most five in 2^96 with each half. -/
theorem le_cancelTwos (t m places : Nat) :
    bound * (m * tenTo (cancelTwos t m places).2) ≤
      bound * ((cancelTwos t m places).1 * twoTo t * tenTo places) +
        5 * t * (m * tenTo (cancelTwos t m places).2) := by
  induction t generalizing m places with
  | zero =>
    refine Nat.le_of_eq ?_
    rw [Nat.mul_zero, Nat.zero_mul, Nat.add_zero]
    exact congrArg (bound * ·) (congrArg (· * tenTo places) (Nat.mul_one m)).symm
  | succ t ih =>
    rw [cancelTwos, twoTo_succ]
    split
    · next heven =>
      have hm : m = m / 2 * 2 := by omega
      have hih := ih (m / 2) places
      generalize cancelTwos t (m / 2) places = a at hih ⊢
      generalize m / 2 = n at hm hih
      rw [hm]
      nlinarith
    · split
      · have hih := ih (m * 5) (places + 1)
        rw [tenTo_succ] at hih
        generalize cancelTwos t (m * 5) (places + 1) = a at hih ⊢
        linarith [Nat.zero_le (m * tenTo a.2)]
      · next hodd hlarge =>
        -- A half is dropped here, which is at most one in a fifth of 2^96.
        have hm : m = m / 2 * 2 + 1 := by omega
        have hih := ih (m / 2) places
        generalize cancelTwos t (m / 2) places = a at hih ⊢
        generalize m / 2 = n at hm hih
        have hlost : bound * tenTo a.2 ≤ m * 5 * tenTo a.2 :=
          Nat.mul_le_mul_right _ (Nat.not_lt.1 hlarge)
        rw [hm] at hlost ⊢
        linarith [Nat.zero_le (t * tenTo a.2)]

/-- A number that is lost to the limit of places is less than 10^-28. -/
theorem lt_of_limitPlaces_cancelTwos {m t : Nat} (hm : 0 < m) (ht : t ≤ 1074)
    (h : (limitPlaces (cancelTwos t m 0).1 (cancelTwos t m 0).2).1 = 0) :
    m * tenTo 28 < twoTo t := by
  have hpos := cancelTwos_fst_pos hm t 0
  have hkept := le_cancelTwos t m 0
  generalize cancelTwos t m 0 = a at h hpos hkept
  obtain ⟨n, places⟩ := a
  dsimp only at h hpos hkept
  have hplaces : 28 < places := by
    by_contra hle
    rw [limitPlaces_of_le (Nat.not_lt.1 hle)] at h
    exact Nat.ne_of_gt hpos h
  obtain ⟨j, rfl⟩ : ∃ j, places = j + 29 := ⟨places - 29, by omega⟩
  have hlost := le_of_limitPlaces_fst_eq_zero h
  by_contra hlarge
  have hscaled : tenTo j * twoTo t ≤ tenTo j * (m * tenTo 28) :=
    Nat.mul_le_mul_left _ (Nat.not_lt.1 hlarge)
  have hshare : 9 * n * twoTo t ≤ 85 * tenTo j * twoTo t :=
    Nat.mul_le_mul_right _ (by omega)
  -- Both errors together would have to make up 5/90 of the number.
  have hloss : 5 * bound * (tenTo j * (m * tenTo 28)) ≤
      450 * t * (tenTo j * (m * tenTo 28)) := by
    have htop : tenTo 29 = tenTo 28 * 10 := rfl
    rw [tenTo_add, htop, tenTo_zero] at hkept
    linarith [Nat.mul_le_mul_left bound hscaled, Nat.mul_le_mul_left bound hshare]
  have hbound : 90 * 1074 < bound := by decide
  have hnumber := Nat.mul_pos (tenTo_pos j) (Nat.mul_pos hm (tenTo_pos 28))
  have hhalves := Nat.le_of_mul_le_mul_right hloss hnumber
  omega

/-- A number of less than 8 · 10^-29 is lost to the limit of places. -/
theorem limitPlaces_cancelTwos_eq_zero {m t : Nat} (hm : 0 < m) (h : m * tenTo 29 < 8 * twoTo t) :
    limitPlaces (cancelTwos t m 0).1 (cancelTwos t m 0).2 = (0, 0) := by
  have hpos := cancelTwos_fst_pos hm t 0
  have hkept := cancelTwos_le t m 0
  generalize cancelTwos t m 0 = a at hpos hkept
  obtain ⟨n, places⟩ := a
  dsimp only at hpos hkept ⊢
  have hbelow : n * tenTo 29 < 8 * tenTo places := by
    rw [tenTo_zero, Nat.mul_one] at hkept
    refine Nat.lt_of_mul_lt_mul_right (a := twoTo t) ?_
    have hnumber := Nat.mul_le_mul_right (tenTo 29) hkept
    have hsmall := Nat.mul_lt_mul_of_pos_right h (tenTo_pos places)
    linarith
  have hplaces : 28 < places := by
    by_contra hle
    have hten : tenTo places ≤ tenTo 28 := Nat.pow_le_pow_right (by decide) (Nat.not_lt.1 hle)
    have htop : tenTo 29 = tenTo 28 * 10 := rfl
    have hone : tenTo 29 ≤ n * tenTo 29 := Nat.le_mul_of_pos_left _ hpos
    have hten' := tenTo_pos 28
    omega
  obtain ⟨j, rfl⟩ : ∃ j, places = j + 29 := ⟨places - 29, by omega⟩
  apply limitPlaces_eq_zero
  rw [tenTo_add, ← Nat.mul_assoc] at hbelow
  have hdigits := Nat.lt_of_mul_lt_mul_right hbelow
  omega

end Decimal96

namespace Binary64

open Decimal96

section Reading

variable {x : Float} {d : Dyadic} (hd : Dyadic.ofFloat? x = some d)

include hd

theorem not_beq_zero_iff : ¬ (x == 0) = true ↔ 0 < d.mantissa := by
  rw [Dyadic.beq_zero_iff, hd, Nat.pos_iff_ne_zero]
  simp

/-- A float vanishes in one case only: it is not whole, and all its places are removed. -/
theorem vanishes_iff : Vanishes x ↔ 0 < d.mantissa ∧ d.exponent < 0 ∧
    (limitPlaces (cancelTwos (-d.exponent).toNat d.mantissa 0).1
      (cancelTwos (-d.exponent).toNat d.mantissa 0).2).1 = 0 := by
  show ¬ (x == 0) = true ∧ (∃ a, Decimal96.ofFloat? x = some a ∧ a.isZero = true) ↔ _
  rw [not_beq_zero_iff hd, ofFloat?_eq hd, magnitude?]
  refine and_congr_right fun hm => ?_
  rw [if_neg (Nat.ne_of_gt hm)]
  split
  · next he => simp [isZero_ofMagnitude, he]
  · next he =>
    refine iff_of_false ?_ fun h => he h.1
    rintro ⟨a, ha, hzero⟩
    simp only [Option.map_eq_some_iff] at ha
    obtain ⟨_, ⟨n, hn, rfl⟩, rfl⟩ := ha
    have hpos := scaleUp_pos (absorbTwos_fst_pos hm) hn
    exact Nat.ne_of_gt hpos (isZero_ofMagnitude.1 hzero)

end Reading

variable {x : Float}

/-- What vanishes is less than 10^-28. -/
theorem Vanishes.isTiny (h : Vanishes x) : IsTiny x ⟨1, -28⟩ := by
  obtain ⟨d, hd⟩ : ∃ d, Dyadic.ofFloat? x = some d := by
    obtain ⟨-, a, ha, -⟩ := h
    obtain ⟨d, hd, -⟩ := Option.bind_eq_some_iff.1 ha
    exact ⟨d, hd⟩
  obtain ⟨hm, he, hlost⟩ := (vanishes_iff hd).1 h
  have hexponent := Dyadic.exponent_ge hd
  have hup : d.exponent.toNat = 0 := by omega
  have hsmall := lt_of_limitPlaces_cancelTwos hm (by omega) hlost
  refine ⟨d, hd, hm, Dyadic.isBelow_iff.2 ?_⟩
  rw [hup, twoTo_zero, Nat.mul_one, Nat.one_mul]
  exact hsmall

/-- What is less than 8 · 10^-29 vanishes. -/
theorem IsTiny.vanishes (h : IsTiny x ⟨8, -29⟩) : Vanishes x := by
  obtain ⟨d, hd, hm, hbelow⟩ := h
  have hbelow : d.mantissa * twoTo d.exponent.toNat * tenTo 29 < 8 * twoTo (-d.exponent).toNat :=
    Dyadic.isBelow_iff.1 hbelow
  have he : d.exponent < 0 := by
    by_contra hwhole
    have hdown : (-d.exponent).toNat = 0 := by omega
    have hpos := Nat.mul_pos hm (twoTo_pos d.exponent.toNat)
    have hten := Nat.le_mul_of_pos_left (tenTo 29) hpos
    have hlarge : 8 * twoTo 0 < tenTo 29 := by decide
    rw [hdown] at hbelow
    exact Nat.not_lt.2 (Nat.le_trans (Nat.le_of_lt hlarge) hten) hbelow
  have hup : d.exponent.toNat = 0 := by omega
  rw [hup, twoTo_zero, Nat.mul_one] at hbelow
  refine (vanishes_iff hd).2 ⟨hm, he, ?_⟩
  rw [limitPlaces_cancelTwos_eq_zero hm hbelow]

end Binary64

end Deferred
