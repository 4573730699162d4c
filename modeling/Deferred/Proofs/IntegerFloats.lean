import Deferred.Number.Binary64
import Mathlib

/-!
# Floats of integers

What the float of an integer is, in mantissa and exponent, as a function of the integer alone
(`nearest`, `unpack_ofNat`). A float is computed in moves: the mantissa is written with bits to
spare, shifted to the exponent that the format asks for with what falls off kept in two residual
bits, rounded, and shifted once more because rounding up may have added a bit. How many bits there
were to spare does not matter, and small integers are even multiplied by one on their way. Each move
is described here by itself, and all ways come to the same `rounded` mantissa.

That is enough to compare floats of integers: they keep the order of the integers (`nearest_mono`),
below 2^53 they are told apart (`nearest_inj`), and they are never infinite (`isFinite_ofInt`).
-/

namespace Deferred

open Float.Model Float.Model.UnpackedFloat

theorem twoTo_add (m n : Nat) : twoTo (m + n) = twoTo m * twoTo n := Nat.pow_add 2 m n

namespace Binary64

/-! ## Rounding -/

/-- A mantissa with its two residual bits, as quarters of its unit. -/
def quarters (em : ExtendedMantissa) : Nat :=
  4 * em.mantissa + 2 * em.roundBit.toNat + em.stickyBit.toNat

theorem quarters_div (em : ExtendedMantissa) : quarters em / 4 = em.mantissa := by
  obtain ⟨m, r, s⟩ := em
  cases r <;> cases s <;> simp [quarters] <;> omega

/-- What is lost in a shift is kept as one quarter. -/
theorem quarters_shiftRightOne (em : ExtendedMantissa) :
    quarters em.shiftRightOne = 2 * em.mantissa + min 1 (quarters em % 4) := by
  obtain ⟨m, r, s⟩ := em
  rcases Nat.mod_two_eq_zero_or_one m with h | h <;> cases r <;> cases s <;>
    simp [quarters, ExtendedMantissa.shiftRightOne, h] <;> omega

/-- The mantissa is rounded to the nearest one, and a half to the even one. -/
theorem roundedMantissa_eq (em : ExtendedMantissa) :
    em.roundedMantissa = (quarters em + 1 + em.mantissa % 2) / 4 := by
  obtain ⟨m, r, s⟩ := em
  cases r <;> cases s <;>
    simp [quarters, ExtendedMantissa.roundedMantissa, ExtendedMantissa.accuracy,
      Accuracy.roundToNearestEven] <;> omega

theorem roundedMantissa_bounds (em : ExtendedMantissa) :
    em.mantissa ≤ em.roundedMantissa ∧ em.roundedMantissa ≤ em.mantissa + 1 := by
  rw [roundedMantissa_eq, ← quarters_div]
  omega

theorem roundedMantissa_mono {em em' : ExtendedMantissa} (h : quarters em ≤ quarters em') :
    em.roundedMantissa ≤ em'.roundedMantissa := by
  have hdiv : em.mantissa ≤ em'.mantissa := by
    rw [← quarters_div, ← quarters_div]
    exact Nat.div_le_div_right h
  rcases Nat.lt_or_eq_of_le hdiv with hlt | heq
  · have hup := (roundedMantissa_bounds em).2
    have hdown := (roundedMantissa_bounds em').1
    omega
  -- With one mantissa, both round a half in the same direction.
  · rw [roundedMantissa_eq, roundedMantissa_eq, heq]
    omega

/-! ## Shifts -/

/-- A mantissa without residue. -/
def exactly (m : Nat) : ExtendedMantissa := ⟨m, false, false⟩

theorem shiftRight_succ (em : ExtendedMantissa) (k : Nat) :
    em >>> (k + 1) = (em >>> k).shiftRightOne := rfl

theorem shiftRight_add (em : ExtendedMantissa) (j k : Nat) : em >>> (j + k) = em >>> j >>> k := by
  induction k with
  | zero => rfl
  | succ k ih => rw [← Nat.add_assoc, shiftRight_succ, shiftRight_succ, ih]

theorem quarters_shiftRight_mono {em em' : ExtendedMantissa} (h : quarters em ≤ quarters em')
    (k : Nat) : quarters (em >>> k) ≤ quarters (em' >>> k) := by
  induction k with
  | zero => exact h
  | succ k ih =>
    rw [shiftRight_succ, shiftRight_succ, quarters_shiftRightOne, quarters_shiftRightOne,
      ← quarters_div, ← quarters_div]
    omega

/-- Shifting back leaves no residue. -/
theorem exactly_shiftLeft_shiftRight (m j : Nat) : exactly (m <<< j) >>> j = exactly m := by
  induction j generalizing m with
  | zero => rfl
  | succ j ih =>
    have hbits : m <<< (j + 1) = (2 * m) <<< j := rfl
    rw [shiftRight_succ, hbits, ih]
    simp [exactly, ExtendedMantissa.shiftRightOne]

theorem mantissa_exactly_shiftRight (m k : Nat) : (exactly m >>> k).mantissa = m / twoTo k := by
  induction k with
  | zero => exact (Nat.div_one m).symm
  | succ k ih =>
    rw [shiftRight_succ, twoTo_succ, ← Nat.div_div_eq_div_mul, ← ih]
    rfl

/-! ## The first bits of a mantissa -/

theorem log2_of_bounds {m k : Nat} (hlow : twoTo k ≤ m) (hhigh : m < twoTo (k + 1)) :
    m.log2 = k := by
  have hm : m ≠ 0 := Nat.ne_of_gt (Nat.lt_of_lt_of_le (twoTo_pos k) hlow)
  exact Nat.le_antisymm (Nat.lt_succ_iff.1 ((Nat.log2_lt hm).2 hhigh)) ((Nat.le_log2 hm).2 hlow)

theorem log2_bounds {m : Nat} (hm : 0 < m) : twoTo m.log2 ≤ m ∧ m < twoTo (m.log2 + 1) :=
  ⟨Nat.log2_self_le (Nat.ne_of_gt hm), Nat.lt_log2_self⟩

theorem log2_mono {a b : Nat} (ha : 0 < a) (h : a ≤ b) : a.log2 ≤ b.log2 := by
  rw [Nat.le_log2 (Nat.ne_of_gt (Nat.lt_of_lt_of_le ha h))]
  exact Nat.le_trans (log2_bounds ha).1 h

theorem pos_of_le_log2 {m : Nat} (h : 52 ≤ m.log2) : 0 < m := by
  apply Nat.pos_of_ne_zero
  rintro rfl
  exact absurd h (by decide)

theorem log2_shiftLeft {m : Nat} (hm : 0 < m) (k : Nat) : (m <<< k).log2 = m.log2 + k := by
  obtain ⟨hlow, hhigh⟩ := log2_bounds hm
  rw [Nat.shiftLeft_eq]
  apply log2_of_bounds
  · rw [twoTo_add]
    exact Nat.mul_le_mul_right _ hlow
  · rw [Nat.add_right_comm, twoTo_add]
    exact Nat.mul_lt_mul_of_pos_right hhigh (twoTo_pos k)

theorem shiftLeft_pos {m : Nat} (hm : 0 < m) (k : Nat) : 0 < m <<< k := by
  rw [Nat.shiftLeft_eq]
  exact Nat.mul_pos hm (twoTo_pos k)

/-- The first 53 bits of a mantissa, rounded by the others; a carry makes it 54 bits. -/
def leading (m : Nat) : Nat := (exactly m >>> (m.log2 - 52)).roundedMantissa

theorem leading_bounds {m : Nat} (h : 52 ≤ m.log2) :
    twoTo 52 ≤ leading m ∧ leading m ≤ twoTo 53 := by
  obtain ⟨hlow, hhigh⟩ := log2_bounds (pos_of_le_log2 h)
  have hlog : m.log2 = 52 + (m.log2 - 52) := by omega
  have hlog' : m.log2 + 1 = 53 + (m.log2 - 52) := by omega
  rw [hlog, twoTo_add, ← Nat.le_div_iff_mul_le (twoTo_pos _)] at hlow
  rw [hlog', twoTo_add, ← Nat.div_lt_iff_lt_mul (twoTo_pos _)] at hhigh
  have hround := roundedMantissa_bounds (exactly m >>> (m.log2 - 52))
  rw [mantissa_exactly_shiftRight] at hround
  unfold leading
  omega

theorem leading_mono {m n : Nat} (hlog : m.log2 = n.log2) (h : m ≤ n) : leading m ≤ leading n := by
  unfold leading
  rw [hlog]
  apply roundedMantissa_mono
  apply quarters_shiftRight_mono
  show 4 * m + 2 * 0 + 0 ≤ 4 * n + 2 * 0 + 0
  omega

/-- Zeros at the end of a mantissa do not count. -/
theorem leading_shiftLeft {m : Nat} (h : 52 ≤ m.log2) (k : Nat) :
    leading (m <<< k) = leading m := by
  have hshift : m.log2 + k - 52 = k + (m.log2 - 52) := by omega
  rw [leading, log2_shiftLeft (pos_of_le_log2 h), hshift, shiftRight_add,
    exactly_shiftLeft_shiftRight, leading]

theorem leading_of_log2_eq {m : Nat} (h : m.log2 = 52) : leading m = m := by
  rw [leading, h]
  rfl

/-- The mantissa and the exponent that `m` in units of 2^`e` is rounded to. -/
def rounded (m : Nat) (e : Int) : Nat × Int :=
  if leading m = twoTo 53 then (twoTo 52, e + m.log2 - 51) else (leading m, e + m.log2 - 52)

theorem rounded_bounds {m : Nat} (h : 52 ≤ m.log2) (e : Int) :
    twoTo 52 ≤ (rounded m e).1 ∧ (rounded m e).1 < twoTo 53 := by
  have hbounds := leading_bounds h
  unfold rounded
  split
  · exact ⟨Nat.le_refl (twoTo 52), Nat.pow_lt_pow_succ (by decide)⟩
  · next hcarry => exact ⟨hbounds.1, Nat.lt_of_le_of_ne hbounds.2 hcarry⟩

theorem targetExponent_eq {m : Nat} {e : Int} (he : -1022 ≤ e + m.log2) :
    Format.binary64.targetExponent (totalExponent m e) = e + m.log2 - 52 := by
  have hmin : Format.binary64.minExponent = -1074 := rfl
  have hbits : Format.binary64.mantissaBits = 53 := rfl
  rw [Format.targetExponent, totalExponent, hmin, hbits]
  omega

theorem shiftToTargetExponent_eq {m : Nat} {e : Int} (h : 52 ≤ m.log2) (he : -1022 ≤ e + m.log2) :
    shiftToTargetExponent Format.binary64 m e .exact =
      (exactly m >>> (m.log2 - 52), e + m.log2 - 52) := by
  have hshift : (e + m.log2 - 52 - e).toNat = m.log2 - 52 := by omega
  unfold shiftToTargetExponent shiftToExponent
  dsimp only
  rw [targetExponent_eq he, hshift]
  refine Prod.ext rfl ?_
  show e + ((m.log2 - 52 : Nat) : Int) = _
  omega

/-- The second shift moves nothing but a carry. -/
theorem shiftToTargetExponent_leading {m : Nat} {e : Int} (h : 52 ≤ m.log2)
    (he : -1022 ≤ e + m.log2) :
    shiftToTargetExponent Format.binary64 (leading m) (e + m.log2 - 52) .exact =
      (exactly (rounded m e).1, (rounded m e).2) := by
  obtain ⟨hlow, hhigh⟩ := leading_bounds h
  unfold rounded
  split
  · next hcarry =>
    have hlog : (twoTo 53).log2 = 53 := by decide
    rw [hcarry, shiftToTargetExponent_eq (by omega) (by omega), hlog]
    refine Prod.ext rfl ?_
    show e + m.log2 - 52 + 53 - 52 = e + m.log2 - 51
    omega
  · next hcarry =>
    have hlog : (leading m).log2 = 52 := log2_of_bounds hlow (Nat.lt_of_le_of_ne hhigh hcarry)
    rw [shiftToTargetExponent_eq (by omega) (by omega), hlog]
    refine Prod.ext rfl ?_
    show e + m.log2 - 52 + 52 - 52 = e + m.log2 - 52
    omega

theorem finite_congr {s : Sign} {m m' : Nat} {e e' : Int} {hm : 0 < m} {hm' : 0 < m'}
    (h : m = m') (he : e = e') : UnpackedFloat.finite s m e hm = .finite s m' e' hm' := by
  subst h he
  rfl

/-- Shifting, rounding and shifting again comes to the rounded mantissa. -/
theorem roundWithAccuracy_eq {s : Sign} {m : Nat} {e : Int} (h : 52 ≤ m.log2)
    (he : -1022 ≤ e + m.log2) (hpos : 0 < (rounded m e).1) :
    roundWithAccuracy Format.binary64 s m e .exact =
      .finite s (rounded m e).1 (rounded m e).2 hpos := by
  have hfirst : roundWithAccuracy Format.binary64 s m e .exact =
      let last := shiftToTargetExponent Format.binary64 (leading m) (e + m.log2 - 52) .exact
      if h : last.1.mantissa = 0 then .zero s
      else .finite s last.1.mantissa last.2 (Nat.pos_of_ne_zero h) := by
    unfold roundWithAccuracy
    rw [shiftToTargetExponent_eq h he]
    rfl
  rw [hfirst, shiftToTargetExponent_leading h he]
  exact dif_neg (Nat.ne_of_gt hpos)

theorem rounded_shiftLeft {m : Nat} (h : 52 ≤ m.log2) (e : Int) (k : Nat) :
    rounded (m <<< k) (e - k) = rounded m e := by
  have hlog : e - k + ((m.log2 + k : Nat) : Int) = e + m.log2 := by omega
  rw [rounded, leading_shiftLeft h, log2_shiftLeft (pos_of_le_log2 h), hlog, rounded]

theorem rounded_of_log2_eq {m : Nat} (h : m.log2 = 52) (e : Int) : rounded m e = (m, e) := by
  have hm : m ≠ twoTo 53 := by
    rintro rfl
    exact absurd h (by decide)
  rw [rounded, leading_of_log2_eq h, if_neg hm, h]
  refine Prod.ext rfl ?_
  show e + 52 - 52 = e
  omega

/-! ## Bit patterns -/

/-- The first bit of a mantissa of 53 bits is not stored. -/
theorem toNat_implicit {m : Nat} (hlow : twoTo 52 ≤ m) (hhigh : m < twoTo 53) :
    (1#1 ++ BitVec.ofNat 52 m).toNat = m := by
  have hcut : m % twoTo 52 = m - twoTo 52 := by
    rw [Nat.mod_eq_sub_mod hlow]
    apply Nat.mod_eq_of_lt
    rw [twoTo_succ] at hhigh
    omega
  have hor : 1 <<< 52 ||| m % twoTo 52 = 1 <<< 52 + m % twoTo 52 :=
    (Nat.shiftLeft_add_eq_or_of_lt (Nat.mod_lt m (twoTo_pos 52)) 1).symm
  have hshift : 1 <<< 52 = twoTo 52 := rfl
  rw [BitVec.toNat_append, BitVec.toNat_ofNat, BitVec.toNat_ofNat]
  show 1 <<< 52 ||| m % twoTo 52 = m
  omega

theorem toNat_field {field : Nat} (h : field < 2047) : (BitVec.ofNat 11 field).toNat = field := by
  rw [BitVec.toNat_ofNat]
  exact Nat.mod_eq_of_lt (by omega)

/-- An exponent field that is neither the least nor the greatest stands for 53 bits of mantissa. -/
theorem unpack_normal {b : BitVec Format.binary64.numBits} {s : Sign} {m : Nat} {e : Int}
    (hm : 0 < m) (hgreatest : unpackExponent b ≠ -1#_) (hleast : unpackExponent b ≠ 0#11)
    (hs : Sign.ofBitVec (unpackSign b) = s) (hmantissa : (1#1 ++ unpackMantissa b).toNat = m)
    (he : ((unpackExponent b).toNat : Int) - 1075 = e) :
    UnpackedFloat.unpack Format.binary64 b = .finite s m e hm := by
  subst hs hmantissa he
  unfold UnpackedFloat.unpack
  dsimp only
  rw [if_neg hgreatest, if_neg hleast]
  rfl

theorem unpack_packComponents {s : Sign} {m field : Nat} (hm : 0 < m) (hlow : twoTo 52 ≤ m)
    (hhigh : m < twoTo 53) (hpos : 0 < field) (hlt : field < 2047) :
    UnpackedFloat.unpack Format.binary64 (packComponents Format.binary64 s
      (BitVec.ofNat 11 field) (BitVec.ofNat 52 m)) = .finite s m (field - 1075) hm := by
  have hfield := toNat_field hlt
  apply unpack_normal
  · rw [unpackExponent_packComponents]
    intro h
    have hall : (-1#11).toNat = 2047 := by decide
    rw [← h, hfield] at hall
    omega
  · rw [unpackExponent_packComponents]
    intro h
    have hnone : (0#11).toNat = 0 := by decide
    rw [← h, hfield] at hnone
    omega
  · rw [unpackSign_packComponents, Sign.ofBitVec_toBitVec]
  · rw [unpackMantissa_packComponents]
    exact toNat_implicit hlow hhigh
  · rw [unpackExponent_packComponents, hfield]

theorem pack_eq {s : Sign} {m : Nat} {e : Int} (hm : 0 < m) (hlog : m.log2 = 52) (he : e ≤ 900) :
    UnpackedFloat.pack Format.binary64 (.finite s m e hm) =
      packComponents Format.binary64 s (BitVec.ofNat 11 (e + 1075).toNat) (BitVec.ofNat 52 m) := by
  have hbias : ((Format.binary64.exponentBias : Nat) : Int) = 1023 := by decide
  have hfield : e + 1023 + 52 = e + 1075 := by omega
  have hbits : m.log2 + 1 = Format.binary64.mantissaBits := by
    rw [hlog]
    decide
  unfold UnpackedFloat.pack
  dsimp only
  rw [if_pos hbits, hbias]
  show (if 2048 ≤ (e + 1023 + 52).toNat + 1 then _
    else packComponents Format.binary64 s (BitVec.ofNat 11 (e + 1023 + 52).toNat)
      (BitVec.ofNat 52 m)) = _
  rw [if_neg (by omega), hfield]

/-- A number with a mantissa of 53 bits is read back from its bit pattern. -/
theorem unpack_pack {s : Sign} {m : Nat} {e : Int} {hm : 0 < m} (hlow : twoTo 52 ≤ m)
    (hhigh : m < twoTo 53) (he : -1074 ≤ e) (he' : e ≤ 900) :
    (Float.Model.pack (.finite s m e hm)).unpack = .finite s m e hm := by
  have hlog : m.log2 = 52 := log2_of_bounds hlow hhigh
  have hexponent : ((e + 1075).toNat : Int) - 1075 = e := by omega
  show UnpackedFloat.unpack Format.binary64
    (UnpackedFloat.pack Format.binary64 (.finite s m e hm)) = _
  rw [pack_eq hm hlog he', unpack_packComponents hm hlow hhigh (by omega) (by omega), hexponent]

/-! ## Integers -/

/-- The mantissa and the exponent of the float of an integer, which is rounded from 52 bits more
than it has. -/
def nearest (n : Nat) : Nat × Int := rounded (n <<< 52) (-52)

/-- The float of an integer below 2^53 is multiplied by the power 10^0. -/
theorem toModel_ofNat_of_lt {n : Nat} (hsmall : n < twoTo 53) :
    (Float.ofNat n).toModel = Float.Model.pack (UnpackedFloat.mul Format.binary64
      (Float.Model.pack (UnpackedFloat.ofNat Format.binary64 n)).unpack
      (.finite .positive (twoTo 52) (-52) (twoTo_pos 52))) := by
  have hword : n.toUInt64.toNat = n := by
    rw [Nat.toUInt64_eq, UInt64.toNat_ofNat']
    apply Nat.mod_eq_of_lt
    exact Nat.lt_trans hsmall (Nat.pow_lt_pow_right (by decide) (by decide))
  have hone : (Float.ofBits 0x3FF0000000000000).toModel.unpack =
    .finite .positive (twoTo 52) (-52) (twoTo_pos 52) := rfl
  show (Float.ofScientific n false 0).toModel = _
  rw [Float.ofScientific, dif_pos ⟨hsmall, by decide⟩]
  show Float.Model.pack (UnpackedFloat.mul Format.binary64
    (Float.Model.pack (UnpackedFloat.ofNat Format.binary64 n.toUInt64.toNat)).unpack
    (Float.ofBits 0x3FF0000000000000).toModel.unpack) = _
  rw [hword, hone]

section Nearest

variable {n : Nat} (hn : 0 < n)

include hn

theorem le_log2_shiftLeft : 52 ≤ (n <<< 52).log2 := by
  rw [log2_shiftLeft hn]
  omega

theorem nearest_bounds : twoTo 52 ≤ (nearest n).1 ∧ (nearest n).1 < twoTo 53 :=
  rounded_bounds (le_log2_shiftLeft hn) (-52)

theorem nearest_pos : 0 < (nearest n).1 :=
  Nat.lt_of_lt_of_le (twoTo_pos 52) (nearest_bounds hn).1

theorem nearest_eq : nearest n =
    if leading (n <<< 52) = twoTo 53 then (twoTo 52, (n.log2 : Int) - 51)
    else (leading (n <<< 52), (n.log2 : Int) - 52) := by
  have hlog : (-52 : Int) + ((n.log2 + 52 : Nat) : Int) = n.log2 := by omega
  rw [nearest, rounded, log2_shiftLeft hn, hlog]

theorem nearest_snd_bounds : n.log2 - 52 ≤ (nearest n).2 ∧ (nearest n).2 ≤ n.log2 - 51 := by
  rw [nearest_eq hn]
  split <;> dsimp only <;> omega

/-- It does not matter how many bits more than 52 an integer is given. -/
theorem rounded_eq_nearest (k : Nat) (e : Int) (he : e = -52 - k) :
    rounded ((n <<< 52) <<< k) e = nearest n := by
  rw [he, rounded_shiftLeft (le_log2_shiftLeft hn), nearest]

/-- An integer of at most 53 bits is not rounded. -/
theorem nearest_of_log2_le (h : n.log2 ≤ 52) :
    nearest n = (n <<< (52 - n.log2), (n.log2 : Int) - 52) := by
  have hlog : (n <<< (52 - n.log2)).log2 = 52 := by
    rw [log2_shiftLeft hn]
    omega
  have hshift : n <<< 52 = (n <<< (52 - n.log2)) <<< n.log2 := by
    rw [← Nat.shiftLeft_add, Nat.sub_add_cancel h]
  have hexponent : (-52 : Int) = (n.log2 - 52) - n.log2 := by omega
  rw [nearest, hshift, hexponent, rounded_shiftLeft (Nat.le_of_eq hlog.symm),
    rounded_of_log2_eq hlog]

theorem roundWithAccuracy_eq_nearest (k : Nat) {m : Nat} {e : Int} (hm : m = (n <<< 52) <<< k)
    (he : e = -52 - k) :
    roundWithAccuracy Format.binary64 .positive m e .exact =
      .finite .positive (nearest n).1 (nearest n).2 (nearest_pos hn) := by
  subst hm
  have hlog : ((n <<< 52) <<< k).log2 = n.log2 + 52 + k := by
    rw [log2_shiftLeft (shiftLeft_pos hn 52), log2_shiftLeft hn]
  have hnearest := rounded_eq_nearest hn k e he
  have hpos : 0 < (rounded ((n <<< 52) <<< k) e).1 := by
    rw [hnearest]
    exact nearest_pos hn
  rw [roundWithAccuracy_eq (by omega) (by omega) hpos]
  exact finite_congr (congrArg (·.1) hnearest) (congrArg (·.2) hnearest)

/-- The float of an integer of 64 bits is read back from its bit pattern. -/
theorem unpack_pack_nearest {s : Sign} (hbits : n < twoTo 64) :
    (Float.Model.pack (.finite s (nearest n).1 (nearest n).2 (nearest_pos hn))).unpack =
      .finite s (nearest n).1 (nearest n).2 (nearest_pos hn) := by
  have hlog : n.log2 < 64 := (Nat.log2_lt (Nat.ne_of_gt hn)).2 hbits
  have hexponent := nearest_snd_bounds hn
  exact unpack_pack (nearest_bounds hn).1 (nearest_bounds hn).2 (by omega) (by omega)

/-- A mantissa that is shifted to 53 bits before it is rounded loses nothing. -/
theorem unpackedOfNat_eq (hlog : n.log2 ≤ 52) :
    UnpackedFloat.ofNat Format.binary64 n =
      .finite .positive (nearest n).1 (nearest n).2 (nearest_pos hn) := by
  have hpos : compare (n : Int) 0 = .gt := Int.compare_eq_gt.2 (by omega)
  have htarget : Format.binary64.targetExponent (totalExponent n 0) = n.log2 - 52 := by
    rw [targetExponent_eq (by omega)]
    omega
  have hshift : ((0 : Int) - (n.log2 - 52)).toNat = 52 - n.log2 := by omega
  have hexponent : (0 : Int) - ((52 - n.log2 : Nat) : Int) = n.log2 - 52 := by omega
  have hbits : (n <<< (52 - n.log2)).log2 = 52 := by
    rw [log2_shiftLeft hn]
    omega
  have hrounded : rounded (n <<< (52 - n.log2)) ((n.log2 : Int) - 52) = nearest n := by
    rw [rounded_of_log2_eq hbits, nearest_of_log2_le hn hlog]
  unfold UnpackedFloat.ofNat UnpackedFloat.ofInt UnpackedFloat.normalize
  rw [hpos]
  unfold UnpackedFloat.round decreaseExponent
  dsimp only
  rw [Int.toNat_natCast, htarget, hshift, hexponent,
    roundWithAccuracy_eq (by omega) (by omega) (hrounded ▸ nearest_pos hn)]
  exact finite_congr (congrArg (·.1) hrounded) (congrArg (·.2) hrounded)

/-- The float of a larger integer is rounded at once. -/
theorem toModel_ofNat_of_le (hlarge : twoTo 53 ≤ n) :
    (Float.ofNat n).toModel = Float.Model.pack
      (roundWithAccuracy Format.binary64 .positive (n <<< 53) (-53) .exact) := by
  have hbits : (2 : Int) ^ Format.binary64.exponentBits = 2048 := rfl
  show (Float.ofScientific n false 0).toModel = _
  rw [Float.ofScientific, dif_neg fun h => Nat.not_lt.2 hlarge h.1]
  show Float.Model.pack (UnpackedFloat.ofScientific Format.binary64 n 0) = _
  rw [UnpackedFloat.ofScientific, dif_neg (Nat.ne_of_gt hn), hbits, if_neg (by decide),
    if_neg (by omega), if_pos (Int.le_refl 0)]
  show Float.Model.pack
    (roundWithAccuracy Format.binary64 .positive (n <<< 53 * 1) (-53) .exact) = _
  rw [Nat.mul_one]

/-- The float of an integer of 64 bits has the mantissa and the exponent nearest to it. -/
theorem unpack_ofNat (hbits : n < twoTo 64) :
    (Float.ofNat n).toModel.unpack =
      .finite .positive (nearest n).1 (nearest n).2 (nearest_pos hn) := by
  rw [← unpack_pack_nearest hn hbits]
  apply congrArg
  by_cases hsmall : n < twoTo 53
  · have hlog : n.log2 ≤ 52 := Nat.lt_succ_iff.1 ((Nat.log2_lt (Nat.ne_of_gt hn)).2 hsmall)
    rw [toModel_ofNat_of_lt hsmall, unpackedOfNat_eq hn hlog, unpack_pack_nearest hn hbits]
    apply congrArg
    show roundWithAccuracy Format.binary64 .positive ((nearest n).1 * twoTo 52)
      ((nearest n).2 + -52) .exact = _
    have hfirst := congrArg (·.1) (nearest_of_log2_le hn hlog)
    have hsecond := congrArg (·.2) (nearest_of_log2_le hn hlog)
    dsimp only at hfirst hsecond
    refine roundWithAccuracy_eq_nearest hn (52 - n.log2) ?_ (by omega)
    have hmul : (n <<< (52 - n.log2)) * twoTo 52 = (n <<< (52 - n.log2)) <<< 52 :=
      (Nat.shiftLeft_eq _ 52).symm
    rw [hfirst, hmul, ← Nat.shiftLeft_add, ← Nat.shiftLeft_add, Nat.add_comm]
  · rw [toModel_ofNat_of_le hn (Nat.le_of_not_lt hsmall)]
    apply congrArg
    exact roundWithAccuracy_eq_nearest hn 1 (Nat.shiftLeft_add n 52 1) (by decide)

end Nearest

/-! ## Order -/

/-- Of two integers the larger has the larger exponent, or else a mantissa that is no smaller. -/
theorem nearest_mono {a b : Nat} (ha : 0 < a) (h : a ≤ b) :
    (nearest a).2 < (nearest b).2 ∨
      (nearest a).2 = (nearest b).2 ∧ (nearest a).1 ≤ (nearest b).1 := by
  have hb : 0 < b := Nat.lt_of_lt_of_le ha h
  have hbounds := nearest_bounds hb
  have hfirst := leading_bounds (le_log2_shiftLeft ha)
  have hsecond := leading_bounds (le_log2_shiftLeft hb)
  rcases Nat.lt_or_eq_of_le (log2_mono ha h) with hlt | heq
  · have hexponent := (nearest_snd_bounds hb).1
    rw [nearest_eq ha]
    split <;> dsimp only <;> omega
  · have hleading : leading (a <<< 52) ≤ leading (b <<< 52) := by
      apply leading_mono
      · rw [log2_shiftLeft ha, log2_shiftLeft hb, heq]
      · rw [Nat.shiftLeft_eq, Nat.shiftLeft_eq]
        exact Nat.mul_le_mul_right _ h
    rw [nearest_eq ha, nearest_eq hb]
    split <;> split <;> dsimp only <;> omega

/-- An integer below 2^53 shares its float with no other integer. -/
theorem nearest_inj {a b : Nat} (ha : 0 < a) (hb : 0 < b) (hsmall : a < twoTo 53)
    (h : nearest a = nearest b) : a = b := by
  have hlog : a.log2 ≤ 52 := Nat.lt_succ_iff.1 ((Nat.log2_lt (Nat.ne_of_gt ha)).2 hsmall)
  have hexponent := nearest_snd_bounds hb
  rw [← h, nearest_of_log2_le ha hlog] at hexponent
  dsimp only at hexponent
  rw [nearest_of_log2_le ha hlog, nearest_of_log2_le hb (by omega), Prod.mk.injEq] at h
  obtain ⟨hmantissa, hlog'⟩ := h
  have hshift : 52 - a.log2 = 52 - b.log2 := by omega
  rw [hshift, Nat.shiftLeft_eq, Nat.shiftLeft_eq] at hmantissa
  exact Nat.eq_of_mul_eq_mul_right (twoTo_pos _) hmantissa

/-- The float of an integer of 64 bits is finite. -/
theorem isFinite_ofInt {n : Nat} (hlow : twoTo 53 ≤ n) (hhigh : n < twoTo 64) :
    (Binary64.ofInt n).isFinite = true := by
  have hn : 0 < n := Nat.lt_of_lt_of_le (twoTo_pos 53) hlow
  show (Float.ofNat n).toModel.unpack.isFinite = true
  rw [unpack_ofNat hn hhigh]
  rfl

end Binary64

end Deferred
