import Deferred.Number.Integer

/-!
# Checked operations are exact

Every checked operation on integers of 64 bits has the exact result where that fits, and none where
it does not. `Integer.ofInt? n` is the result that an exact value `n` should have, so each operation
is compared with it: `floorDiv?_eq`, `power?_eq`, `shiftLeft?_eq`.

The one exception is the remainder, which fits wherever there is one but is refused with the
quotient (`floorMod?_eq_some`).
-/

namespace Deferred

namespace Integer

/-! ## What fits -/

/-- The integer has 64 bits. -/
def Fits (n : Int) : Prop := -(twoTo 63 : Int) ≤ n ∧ n < twoTo 63

instance (n : Int) : Decidable (Fits n) := inferInstanceAs (Decidable (_ ∧ _))

theorem fits_toInt (a : Int64) : Fits a.toInt := ⟨a.le_toInt, a.toInt_lt⟩

theorem ofInt?_eq_none_iff_not_fits {n : Int} : ofInt? n = none ↔ ¬ Fits n := by
  have hmin : Int64.minValue.toInt = -(twoTo 63 : Int) := rfl
  have hmax : Int64.maxValue.toInt = twoTo 63 - 1 := rfl
  rw [ofInt?_eq_none_iff, Fits, hmin, hmax]
  omega

theorem fits_bmod (n : Int) : Fits (n.bmod Int64.size) :=
  ⟨Int.le_bmod (by decide), Int.bmod_lt (by decide)⟩

/-- What fits is not changed by arithmetic that wraps around. -/
theorem bmod_of_fits {n : Int} (h : Fits n) : n.bmod Int64.size = n := Int.bmod_eq_of_le h.1 h.2

theorem twoTo_le {m n : Nat} (h : m ≤ n) : twoTo m ≤ twoTo n := Nat.pow_le_pow_right (by decide) h

theorem not_fits_of_twoTo_le {n : Int} {count : Nat} (hcount : 64 ≤ count)
    (h : twoTo count ≤ n.natAbs) : ¬ Fits n := by
  have hle := twoTo_le hcount
  have hdouble : twoTo 64 = twoTo 63 * 2 := rfl
  have hpos := twoTo_pos 63
  rintro ⟨hlow, hhigh⟩
  omega

theorem toInt_ne_zero {b : Int64} (hb : b ≠ 0) : b.toInt ≠ 0 :=
  fun h => hb (Int64.toInt_inj.1 h)

/-! ## Rounding down

Division of 64 bits rounds towards zero, so its remainder has the sign of the dividend. -/

theorem tmod_neg_iff {a b : Int} (h : a.tmod b ≠ 0) : a.tmod b < 0 ↔ a < 0 := by
  rcases Int.lt_or_le a 0 with ha | ha
  · have hnonneg := Int.tmod_nonneg b (a := -a) (by omega)
    rw [Int.neg_tmod] at hnonneg
    omega
  · have hnonneg := Int.tmod_nonneg b ha
    omega

theorem natAbs_tmod_lt (a : Int) {b : Int} (hb : b ≠ 0) : (a.tmod b).natAbs < b.natAbs := by
  rw [Int.natAbs_tmod]
  exact Nat.mod_lt _ (Int.natAbs_pos.2 hb)

/-- The quotient rounded down and its remainder are told by the sign of the remainder. -/
theorem fdiv_fmod_of_sign {a b q r : Int} (hb : b ≠ 0) (ha : b * q + r = a)
    (hlt : r.natAbs < b.natAbs) (hsign : r = 0 ∨ (r < 0 ↔ b < 0)) :
    a.fdiv b = q ∧ a.fmod b = r := by
  rcases Int.lt_or_gt_of_ne hb with hneg | hpos
  · exact (Int.fdiv_fmod_unique' hneg).2 (by omega)
  · exact (Int.fdiv_fmod_unique hpos).2 (by omega)

/-- Rounding towards zero is rounding down where nothing remains or the signs are the same. -/
theorem fdiv_fmod_of_exact {a b : Int} (hb : b ≠ 0) (h : ¬ (a.tmod b ≠ 0 ∧ ¬ (a < 0 ↔ b < 0))) :
    a.fdiv b = a.tdiv b ∧ a.fmod b = a.tmod b := by
  refine fdiv_fmod_of_sign hb (Int.mul_tdiv_add_tmod a b) (natAbs_tmod_lt a hb) ?_
  by_cases hr : a.tmod b = 0
  · exact .inl hr
  · rw [tmod_neg_iff hr]
    exact .inr (Decidable.not_not.1 fun hsigns => h ⟨hr, hsigns⟩)

/-- Elsewhere the quotient is one less, and the remainder one divisor more. -/
theorem fdiv_fmod_of_inexact {a b : Int} (hb : b ≠ 0) (h : a.tmod b ≠ 0 ∧ ¬ (a < 0 ↔ b < 0)) :
    a.fdiv b = a.tdiv b - 1 ∧ a.fmod b = a.tmod b + b := by
  have hlt := natAbs_tmod_lt a hb
  have hsign := tmod_neg_iff h.1
  have hsum := Int.mul_tdiv_add_tmod a b
  refine fdiv_fmod_of_sign hb ?_ (by omega) (by omega)
  rw [Int.mul_sub, Int.mul_one]
  omega

/-! ## Quotients and remainders -/

section Division

variable {a b : Int64}

theorem refusesQuotient_iff (hb : b ≠ 0) :
    refusesQuotient a b = true ↔ a = Int64.minValue ∧ b = -1 := by
  simp [refusesQuotient, hb]

theorem ne_zero_of_not_refuses (h : refusesQuotient a b = false) : b ≠ 0 := by
  rintro rfl
  simp [refusesQuotient] at h

/-- A quotient that is not refused is the one of `Int`. -/
theorem toInt_div (h : refusesQuotient a b = false) : (a / b).toInt = a.toInt.tdiv b.toInt := by
  simp only [refusesQuotient, Bool.or_eq_false_iff, Bool.and_eq_false_iff,
    beq_eq_false_iff_ne] at h
  rcases h.2 with ha | hb
  · exact Int64.toInt_div_of_ne_left a b ha
  · exact Int64.toInt_div_of_ne_right a b hb

theorem div?_eq (hb : b ≠ 0) : div? a b = ofInt? (a.toInt.tdiv b.toInt) := by
  cases h : refusesQuotient a b with
  | true =>
    obtain ⟨rfl, rfl⟩ := (refusesQuotient_iff hb).1 h
    rfl
  | false =>
    rw [div?, h]
    exact (ofInt?_eq_some_iff.2 (toInt_div h)).symm

/-- The test of the signs, on the numbers. -/
theorem signs_iff {r s t : Int64} : (r != 0 && decide (s < 0) != decide (t < 0)) = true ↔
    r.toInt ≠ 0 ∧ ¬ (s.toInt < 0 ↔ t.toInt < 0) := by
  have hzero : (0 : Int64).toInt = 0 := rfl
  simp [Int64.lt_iff_toInt_lt, hzero, ← Int64.toInt_inj]

theorem floorDiv?_eq (hb : b ≠ 0) : floorDiv? a b = ofInt? (a.toInt.fdiv b.toInt) := by
  cases h : refusesQuotient a b with
  | true =>
    obtain ⟨rfl, rfl⟩ := (refusesQuotient_iff hb).1 h
    rfl
  | false =>
    have hq := toInt_div h
    rw [floorDiv?, div?, h]
    refine (ofInt?_eq_some_iff.2 ?_).symm
    dsimp only
    split
    · next hsigns =>
      rw [signs_iff, Int64.toInt_mod] at hsigns
      have hfloor := (fdiv_fmod_of_inexact (toInt_ne_zero hb) hsigns).1
      -- One less still fits, since rounding down does not lead away from zero by more than `a`.
      have hle := Int.natAbs_fdiv_le_natAbs a.toInt b.toInt
      have ha := fits_toInt a
      have hfits := fits_toInt (a / b)
      rw [hfloor, ← hq] at hle ⊢
      rw [Int64.toInt_sub]
      refine bmod_of_fits ?_
      show _ ≤ (a / b).toInt - 1 ∧ (a / b).toInt - 1 < _
      unfold Fits at ha hfits
      omega
    · next hsigns =>
      rw [signs_iff, Int64.toInt_mod] at hsigns
      rw [(fdiv_fmod_of_exact (toInt_ne_zero hb) hsigns).1, hq]

/-- Unless the quotient is refused there is a remainder, and it is the one of rounding down. -/
theorem floorMod?_eq_some (h : refusesQuotient a b = false) :
    ∃ r, floorMod? a b = some r ∧ r.toInt = a.toInt.fmod b.toInt := by
  have hb := toInt_ne_zero (ne_zero_of_not_refuses h)
  rw [floorMod?, rem?, h]
  refine ⟨_, rfl, ?_⟩
  dsimp only
  split
  · next hsigns =>
    rw [signs_iff, Int64.toInt_mod] at hsigns
    have hsigns' : a.toInt.tmod b.toInt ≠ 0 ∧ ¬ (a.toInt < 0 ↔ b.toInt < 0) :=
      ⟨hsigns.1, by rw [← tmod_neg_iff hsigns.1]; exact hsigns.2⟩
    have hlt := natAbs_tmod_lt a.toInt hb
    have hfits := fits_toInt b
    rw [(fdiv_fmod_of_inexact hb hsigns').2, Int64.toInt_add, Int64.toInt_mod]
    refine bmod_of_fits ?_
    unfold Fits at hfits ⊢
    omega
  · next hsigns =>
    rw [signs_iff, Int64.toInt_mod] at hsigns
    have hsigns' : ¬ (a.toInt.tmod b.toInt ≠ 0 ∧ ¬ (a.toInt < 0 ↔ b.toInt < 0)) :=
      fun hinexact => hsigns ⟨hinexact.1, by rw [tmod_neg_iff hinexact.1]; exact hinexact.2⟩
    rw [(fdiv_fmod_of_exact hb hsigns').2, Int64.toInt_mod]

end Division

/-! ## Powers -/

/-- The powers of 0, 1 and -1 take turns from the first one on. -/
theorem pow_of_natAbs_le_one {base : Int} (h : base.natAbs ≤ 1) (e : Nat) :
    base.pow (if e = 0 then 0 else 2 - e % 2) = base.pow e := by
  have hcube : base * base * base = base := by
    rcases show base = 0 ∨ base = 1 ∨ base = -1 by omega with rfl | rfl | rfl <;> rfl
  have hsucc : ∀ k, base.pow (k + 1) = base.pow k * base := Int.pow_succ base
  have hstep : ∀ k, base.pow (k + 3) = base.pow (k + 1) := by
    intro k
    rw [hsucc, hsucc, hsucc, Int.mul_assoc, Int.mul_assoc, ← Int.mul_assoc base, hcube]
  induction e using Nat.strongRecOn with
  | ind e ih =>
    match e with
    | 0 => rfl
    | 1 => rfl
    | 2 => rfl
    | e + 3 =>
      have hparity : (e + 3) % 2 = (e + 1) % 2 := by omega
      rw [hstep, ← ih (e + 1) (by omega), hparity]
      rfl

theorem twoTo_le_natAbs_pow {base : Int} (h : 2 ≤ base.natAbs) (e : Nat) :
    twoTo e ≤ (base.pow e).natAbs := by
  induction e with
  | zero =>
    rw [show base.pow 0 = 1 from Int.pow_zero base]
    decide
  | succ e ih =>
    have hsucc : base.pow (e + 1) = base.pow e * base := Int.pow_succ base e
    rw [hsucc, twoTo_succ, Int.natAbs_mul]
    exact Nat.mul_le_mul ih h

theorem ofInt?_pow_eq_none {base : Int} {e : Nat} (h : 2 ≤ base.natAbs) (he : 64 ≤ e) :
    ofInt? (base.pow e) = none :=
  ofInt?_eq_none_iff_not_fits.2 (not_fits_of_twoTo_le he (twoTo_le_natAbs_pow h e))

theorem pow?_eq (base : Int) (e : Nat) : pow? base e = ofInt? (base.pow e) := by
  unfold pow?
  split
  · next h => rw [pow_of_natAbs_le_one h]
  · split
    · next h he => exact (ofInt?_pow_eq_none (by omega) he).symm
    · rfl

theorem even_iff {b : Int64} (hb : 0 ≤ b.toInt) : b % 2 = 0 ↔ b.toInt.toNat % 2 = 0 := by
  have htwo : (2 : Int64).toInt = 2 := rfl
  have hzero : (0 : Int64).toInt = 0 := rfl
  rw [← Int64.toInt_inj, Int64.toInt_mod, htwo, hzero, Int.tmod_eq_emod_of_nonneg hb]
  omega

theorem power?_eq {a b : Int64} (hb : 0 ≤ b) : power? a b = ofInt? (a.toInt.pow b.toInt.toNat) := by
  have hnonneg : 0 ≤ b.toInt := Int64.le_iff_toInt_le.1 hb
  unfold power?
  split
  · exact pow?_eq _ _
  · next hlarge =>
    have hcount : 64 ≤ b.toInt.toNat := by
      have hwide : 64 ≤ twoTo 32 := by decide
      omega
    have hne : b.toInt.toNat ≠ 0 := by omega
    simp only [beq_iff_eq, Bool.or_eq_true, even_iff hnonneg]
    symm
    split
    · next ha =>
      rcases ha with rfl | rfl
      · exact ofInt?_eq_some_iff.2 (Int.zero_pow hne).symm
      · exact ofInt?_eq_some_iff.2 Int.one_pow.symm
    · split
      · next ha =>
        subst ha
        rw [ofInt?_eq_some_iff, ← pow_of_natAbs_le_one (by decide), if_neg hne]
        rcases Nat.mod_two_eq_zero_or_one b.toInt.toNat with hparity | hparity
        · rw [hparity]
          rfl
        · rw [hparity]
          rfl
      · next hsmall hminus =>
        have hzero : (0 : Int64).toInt = 0 := rfl
        have hone : (1 : Int64).toInt = 1 := rfl
        have hneg : (-1 : Int64).toInt = -1 := rfl
        rw [← Int64.toInt_inj, ← Int64.toInt_inj, hzero, hone] at hsmall
        rw [← Int64.toInt_inj, hneg] at hminus
        exact ofInt?_pow_eq_none (by omega) hcount

/-! ## Shifts -/

section Shifts

variable (n : Int64) {count : Nat}

theorem toNat_count (h : count < 64) : ((Int64.ofNat count).toBitVec.smod 64).toNat = count := by
  have hmsb : (Int64.ofNat count).toBitVec.msb = false := by
    rw [Int64.toBitVec_ofNat', BitVec.msb_eq_decide, BitVec.toNat_ofNat, decide_eq_false_iff_not]
    show ¬ 9223372036854775808 ≤ count % 18446744073709551616
    omega
  rw [BitVec.smod_eq, hmsb, show (64 : BitVec 64).msb = false from rfl]
  show (BitVec.umod _ _).toNat = _
  rw [BitVec.umod_eq, BitVec.toNat_umod, Int64.toBitVec_ofNat', BitVec.toNat_ofNat]
  show count % 18446744073709551616 % 64 = count
  omega

theorem toInt_shiftLeft (h : count < 64) :
    (n <<< Int64.ofNat count).toInt = (n.toInt * twoTo count).bmod Int64.size := by
  rw [← Int64.toInt_toBitVec, Int64.toBitVec_shiftLeft, BitVec.shiftLeft_eq',
    BitVec.toInt_shiftLeft, toNat_count h, Nat.shiftLeft_eq, ← Int64.toInt_toBitVec,
    BitVec.toInt_eq_toNat_bmod]
  exact (Int.natCast_mul _ _ ▸ Int.bmod_mul_bmod).symm

theorem toInt_shiftRight (h : count < 64) :
    (n >>> Int64.ofNat count).toInt = n.toInt / twoTo count := by
  rw [← Int64.toInt_toBitVec, Int64.toBitVec_shiftRight, BitVec.toInt_sshiftRight', toNat_count h,
    Int.shiftRight_eq_div_pow]
  rfl

/-- Wrapping around does not change the last bits, so moving them back tells whether it took
place. -/
theorem wrapped_div_eq_iff (m : Int) (h : count < 64) :
    (m * twoTo count).bmod Int64.size / twoTo count = m ↔ Fits (m * twoTo count) := by
  have hpos : (twoTo count : Int) ≠ 0 := Int.natCast_ne_zero.2 (Nat.ne_of_gt (twoTo_pos count))
  constructor
  · intro hback
    have hsize : (twoTo count : Int) ∣ Int64.size :=
      Int.natCast_dvd_natCast.2 (Nat.pow_dvd_pow 2 (Nat.le_of_lt h))
    have hdvd : (twoTo count : Int) ∣ (m * twoTo count).bmod Int64.size := by
      rw [Int.bmod_eq_self_sub_mul_bdiv]
      exact Int.dvd_sub (Int.dvd_mul_left _ _) (Int.dvd_trans hsize (Int.dvd_mul_right _ _))
    have hsame := Int.ediv_mul_cancel hdvd
    rw [hback] at hsame
    rw [hsame]
    exact fits_bmod _
  · intro hfits
    rw [bmod_of_fits hfits, Int.mul_ediv_cancel _ hpos]

theorem shiftLeft?_eq (count : Nat) : shiftLeft? n count = ofInt? (n.toInt * twoTo count) := by
  unfold shiftLeft?
  symm
  split
  · next h =>
    subst h
    rw [ofInt?_eq_some_iff, show (0 : Int64).toInt = 0 from rfl, Int.zero_mul]
  · next h =>
    split
    · next hcount =>
      refine ofInt?_eq_none_iff_not_fits.2 (not_fits_of_twoTo_le hcount ?_)
      rw [Int.natAbs_mul, Int.natAbs_natCast]
      exact Nat.le_mul_of_pos_left _ (Int.natAbs_pos.2 (toInt_ne_zero h))
    · next hcount =>
      have hmoved := toInt_shiftLeft n (Nat.lt_of_not_le hcount)
      have hback : (n <<< Int64.ofNat count) >>> Int64.ofNat count = n ↔
          Fits (n.toInt * twoTo count) := by
        rw [← wrapped_div_eq_iff n.toInt (Nat.lt_of_not_le hcount), ← Int64.toInt_inj,
          toInt_shiftRight _ (Nat.lt_of_not_le hcount), hmoved]
      dsimp only
      split
      · next hsame => rw [ofInt?_eq_some_iff, hmoved, bmod_of_fits (hback.1 hsame)]
      · next hother =>
        exact ofInt?_eq_none_iff_not_fits.2 fun hfits => hother (hback.2 hfits)

theorem toInt_shiftRight_eq (count : Nat) :
    (shiftRight n count).toInt = n.toInt.fdiv (twoTo count) := by
  have hpos : (0 : Int) < twoTo count := Int.natCast_pos.2 (twoTo_pos count)
  unfold shiftRight
  split
  · next hcount =>
    obtain ⟨hlow, hhigh⟩ := fits_toInt n
    have hle := twoTo_le (Nat.le_trans (by decide : 63 ≤ 64) hcount)
    have hquotient : ∀ q r : Int, r + twoTo count * q = n.toInt ∧ 0 ≤ r ∧ r < twoTo count →
        n.toInt.fdiv (twoTo count) = q := fun q r h => ((Int.fdiv_fmod_unique hpos).2 h).1
    symm
    split
    · next hneg =>
      have hneg : n.toInt < 0 := Int64.lt_iff_toInt_lt.1 hneg
      exact hquotient (-1) (n.toInt + twoTo count) (by omega)
    · next hnonneg =>
      have hnonneg : ¬ n.toInt < 0 := fun hneg => hnonneg (Int64.lt_iff_toInt_lt.2 hneg)
      exact hquotient 0 n.toInt (by omega)
  · next hcount =>
    rw [toInt_shiftRight n (Nat.lt_of_not_le hcount),
      Int.fdiv_eq_ediv_of_nonneg _ (Int.le_of_lt hpos)]

/-- A count is taken as it is, or it would be too large in any case. -/
theorem apply_places {α : Type} {f : Nat → α} (h : ∀ m k, 64 ≤ m → 64 ≤ k → f m = f k)
    (b : Int64) : f (places b) = f b.toInt.toNat := by
  have hwide : 65 ≤ twoTo 32 := by decide
  by_cases hcount : b.toInt.toNat < twoTo 32
  · rw [places, Nat.min_eq_left (by omega)]
  · exact h _ _ (by unfold places; omega) (by omega)

theorem shiftLeft?_places (b : Int64) :
    shiftLeft? n (places b) = ofInt? (n.toInt * twoTo b.toInt.toNat) := by
  rw [← shiftLeft?_eq]
  refine apply_places (fun m k hm hk => ?_) b
  rw [shiftLeft?, shiftLeft?, if_pos hm, if_pos hk]

theorem toInt_shiftRight_places (b : Int64) :
    (shiftRight n (places b)).toInt = n.toInt.fdiv (twoTo b.toInt.toNat) := by
  rw [← toInt_shiftRight_eq]
  refine congrArg _ (apply_places (fun m k hm hk => ?_) b)
  rw [shiftRight, shiftRight, if_pos hm, if_pos hk]

end Shifts

end Integer

end Deferred
