import Deferred.Proofs.Ranks

/-!
# Floats read from their bits

`Dyadic.ofFloat?` reads sign, mantissa and exponent off the bit pattern of a float by arithmetic on
a natural number. A float is also given without its bits, as an unpacked number, and everything that
is defined of floats, their order included, is defined on that. Here the two are shown to be one
(`ofFloat?_eq`), so that what is computed from a reading can be compared with what is computed from
the float: how small a reading can be (`exponent_ge`), and that the floats which equal zero are
those without a mantissa (`beq_zero_iff`).
-/

namespace Deferred

open Float.Model Float.Model.UnpackedFloat

namespace Dyadic

/-- The reading of an unpacked float; zero has the least exponent. -/
def ofUnpacked? : UnpackedFloat → Option Dyadic
  | .zero s => some ⟨s == .negative, 0, -1074⟩
  | .finite s m e _ => some ⟨s == .negative, m, e⟩
  | .infinity _ => none
  | .notANumber => none

/-! ## The fields of a bit pattern -/

section Fields

variable (b : BitVec Format.binary64.numBits)

theorem toNat_unpackMantissa : (unpackMantissa b).toNat = b.toNat % twoTo 52 := by
  show (b.extractLsb 51 0).toNat = _
  rw [BitVec.extractLsb_toNat, Nat.shiftRight_zero]
  rfl

theorem toNat_unpackExponent : (unpackExponent b).toNat = b.toNat / twoTo 52 % twoTo 11 := by
  show (b.extractLsb 62 52).toNat = _
  rw [BitVec.extractLsb_toNat, Nat.shiftRight_eq_div_pow]
  rfl

theorem toNat_unpackSign : (unpackSign b).toNat = b.toNat / twoTo 63 := by
  show (b.extractLsb 63 63).toNat = _
  have hb : b.toNat < twoTo 64 := b.isLt
  rw [BitVec.extractLsb_toNat, Nat.shiftRight_eq_div_pow]
  apply Nat.mod_eq_of_lt
  apply Nat.div_lt_of_lt_mul
  exact hb

theorem ofBitVec_unpackSign :
    (Sign.ofBitVec (unpackSign b) == .negative) = (b.toNat / twoTo 63 == 1) := by
  rw [← toNat_unpackSign]
  generalize unpackSign b = s
  revert s
  decide

theorem toNat_implicitBit : (1#1 ++ unpackMantissa b).toNat = twoTo 52 + b.toNat % twoTo 52 := by
  have hlt : (unpackMantissa b).toNat < 2 ^ 52 := (unpackMantissa b).isLt
  rw [BitVec.toNat_append, ← toNat_unpackMantissa]
  exact (Nat.shiftLeft_add_eq_or_of_lt hlt 1).symm

theorem unpackExponent_eq_greatest_iff :
    unpackExponent b = -1#11 ↔ b.toNat / twoTo 52 % twoTo 11 = 2047 := by
  rw [← toNat_unpackExponent]
  exact BitVec.toNat_inj.symm

theorem unpackExponent_eq_least_iff :
    unpackExponent b = 0#11 ↔ b.toNat / twoTo 52 % twoTo 11 = 0 := by
  rw [← toNat_unpackExponent]
  exact BitVec.toNat_inj.symm

theorem unpackMantissa_eq_zero_iff : unpackMantissa b = 0#52 ↔ b.toNat % twoTo 52 = 0 := by
  rw [← toNat_unpackMantissa]
  exact BitVec.toNat_inj.symm

theorem ofUnpacked?_unpack :
    ofUnpacked? (UnpackedFloat.unpack Format.binary64 b) =
      if b.toNat / twoTo 52 % twoTo 11 = 2047 then none
      else if b.toNat / twoTo 52 % twoTo 11 = 0 then
        some ⟨b.toNat / twoTo 63 == 1, b.toNat % twoTo 52, -1074⟩
      else some ⟨b.toNat / twoTo 63 == 1, twoTo 52 + b.toNat % twoTo 52,
        (b.toNat / twoTo 52 % twoTo 11 : Nat) - 1075⟩ := by
  rw [← ofBitVec_unpackSign]
  unfold UnpackedFloat.unpack
  dsimp only
  split
  · next hgreatest =>
    rw [if_pos ((unpackExponent_eq_greatest_iff b).1 hgreatest)]
    split <;> rfl
  · next hgreatest =>
    rw [if_neg ((unpackExponent_eq_greatest_iff b).not.1 hgreatest)]
    split
    · next hleast =>
      rw [if_pos ((unpackExponent_eq_least_iff b).1 hleast)]
      split
      · next hm =>
        rw [(unpackMantissa_eq_zero_iff b).1 hm]
        rfl
      · have hfield : (unpackExponent b).toNat = 0 := congrArg BitVec.toNat hleast
        rw [← toNat_unpackMantissa]
        show some (Dyadic.mk _ _ (((unpackExponent b).toNat : Int) - 1075 + 1)) = _
        rw [hfield]
        rfl
    · next hleast =>
      rw [if_neg ((unpackExponent_eq_least_iff b).not.1 hleast), ← toNat_implicitBit,
        ← toNat_unpackExponent]
      rfl

end Fields

/-! ## Readings -/

variable {x : Float}

/-- What is read off the bits of a float is the unpacked float. -/
theorem ofFloat?_eq (x : Float) : ofFloat? x = ofUnpacked? x.toModel.unpack :=
  (ofUnpacked?_unpack x.toBits.toBitVec).symm

theorem exponent_ge {d : Dyadic} (h : ofFloat? x = some d) : -1074 ≤ d.exponent := by
  unfold ofFloat? at h
  dsimp only at h
  split at h
  · cases h
  · split at h
    · cases h
      exact Int.le_refl _
    · cases h
      dsimp only
      omega

/-- The floats that equal zero are the two without a mantissa. -/
theorem beq_zero_iff : (x == 0) = true ↔ ∃ d, ofFloat? x = some d ∧ d.mantissa = 0 := by
  have hzero : Binary64.rank? 0 = some (.of 0 0 0) := rfl
  rw [Binary64.beq_iff, hzero, ofFloat?_eq, Binary64.rank?]
  cases x.toModel.unpack with
  | notANumber => simp [Binary64.rankOf, ofUnpacked?]
  | infinity s => cases s <;> simp [Binary64.rankOf, ofUnpacked?, Binary64.Rank.of_inj]
  | zero s => simp [Binary64.rankOf, ofUnpacked?]
  | finite s m e hm =>
    have hm : m ≠ 0 := Nat.ne_of_gt hm
    cases s <;> simp [Binary64.rankOf, ofUnpacked?, Binary64.Rank.of_inj, hm]

end Dyadic

end Deferred
