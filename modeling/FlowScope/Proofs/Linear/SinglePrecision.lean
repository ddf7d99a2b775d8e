import FlowScope.Linear.Bigram
import Mathlib

/-!
# Counting in single precision

A single-precision number has 24 significant bits, so it can count in steps of one up to `2 ^ 24`. The
parts of such a count are a mantissa of just 24 bits and the exponent that goes with it (`countParts`).
Rounding leads to them from every mantissa and exponent that stand for the same count
(`roundWithAccuracy_eq`, `round_eq`), and they are kept by packing (`unpack_pack_countParts`). The
number with these parts (`counted`) is what conversion gives (`ofNat_of_lt`).

So a count as a single-precision number stands for that number (`singleValue_countValue`), and adding one
to it gives the next count (`countValue_add_one`). That holds for all counts, since both sides stay where
they are from `2 ^ 24` on.
-/

namespace FlowScope

open Float.Model (Format UnpackedFloat totalExponent)
open Float.Model.UnpackedFloat

/-- The number that a single-precision float stands for. Infinities, and what is no number, stand for
none; they are read as zero. -/
def singleValue (x : Float32) : ℚ :=
  match x.toModel.unpack with
  | .finite sign mantissa exponent _ => sign.apply mantissa * 2 ^ exponent
  | _ => 0

/-! ## The parts of a count -/

variable {n : ℕ}

/-- The mantissa and exponent of a count, the mantissa being shifted to 24 bits. -/
def countParts (n : ℕ) (hn : 0 < n) : UnpackedFloat :=
  .finite .positive (n * 2 ^ (23 - n.log2)) (n.log2 - 23) (by positivity)

theorem log2_le_of_lt (hn : 0 < n) (hlt : n < 2 ^ 24) : n.log2 ≤ 23 :=
  Nat.lt_succ_iff.mp ((Nat.log2_lt hn.ne').mpr hlt)

theorem log2_mul_two_pow (hn : 0 < n) (j : ℕ) : (n * 2 ^ j).log2 = n.log2 + j := by
  rw [Nat.log2_eq_iff (by positivity), Nat.add_right_comm, pow_add, pow_add]
  constructor
  · exact Nat.mul_le_mul_right _ (Nat.log2_self_le hn.ne')
  · exact Nat.mul_lt_mul_of_pos_right Nat.lt_log2_self (by positivity)

theorem log2_mantissa (hn : 0 < n) (hlt : n < 2 ^ 24) : (n * 2 ^ (23 - n.log2)).log2 = 23 := by
  have hlog := log2_le_of_lt hn hlt
  rw [log2_mul_two_pow hn]
  omega

/-! ## Rounding -/

/-- Shifting back what was shifted loses nothing. -/
theorem shiftRight_mul_two_pow (m k : ℕ) :
    ExtendedMantissa.ofMantissaAndAccuracy (m * 2 ^ k) .exact >>> k =
      ExtendedMantissa.ofMantissaAndAccuracy m .exact := by
  show k.repeat ExtendedMantissa.shiftRightOne _ = _
  induction k generalizing m with
  | zero => rw [pow_zero, mul_one, Nat.repeat]
  | succ k ih =>
      rw [Nat.repeat, pow_succ', ← mul_assoc, ih]
      simp [ExtendedMantissa.ofMantissaAndAccuracy, ExtendedMantissa.shiftRightOne]

theorem targetExponent_eq (hn : 0 < n) (j : ℕ) :
    Format.binary32.targetExponent (totalExponent (n * 2 ^ j) (-j)) = n.log2 - 23 := by
  have hmin : Format.binary32.minExponent = -149 := by decide
  have hbits : Format.binary32.mantissaBits = 24 := rfl
  rw [Format.targetExponent, totalExponent, log2_mul_two_pow hn, hmin, hbits]
  omega

/-- A count that is shifted far enough is shifted back to 24 bits. -/
theorem shiftToTargetExponent_eq (hn : 0 < n) (hlt : n < 2 ^ 24) {j : ℕ} (hj : 23 - n.log2 ≤ j) :
    shiftToTargetExponent .binary32 (n * 2 ^ j) (-j) .exact =
      (.ofMantissaAndAccuracy (n * 2 ^ (23 - n.log2)) .exact, (n.log2 - 23 : ℤ)) := by
  have hlog := log2_le_of_lt hn hlt
  obtain ⟨k, rfl⟩ := Nat.exists_eq_add_of_le hj
  have hamount : ((n.log2 : ℤ) - 23 - -((23 - n.log2 + k : ℕ) : ℤ)).toNat = k := by omega
  rw [shiftToTargetExponent, targetExponent_eq hn, shiftToExponent]
  simp only [hamount]
  rw [pow_add, ← mul_assoc, shiftRight_mul_two_pow]
  congr 1
  omega

theorem roundWithAccuracy_eq (hn : 0 < n) (hlt : n < 2 ^ 24) {j : ℕ} (hj : 23 - n.log2 ≤ j) :
    roundWithAccuracy .binary32 .positive (n * 2 ^ j) (-j) .exact = countParts n hn := by
  have hlog := log2_le_of_lt hn hlt
  have hexponent : -((23 - n.log2 : ℕ) : ℤ) = n.log2 - 23 := by omega
  have hmantissa : n * 2 ^ (23 - n.log2) ≠ 0 := by positivity
  have hrounded : ∀ m, (ExtendedMantissa.ofMantissaAndAccuracy m .exact).roundedMantissa = m :=
    fun _ => rfl
  -- nothing is rounded off by the first shift, so there is nothing left for the second
  have hsecond := shiftToTargetExponent_eq hn hlt (le_refl (23 - n.log2))
  rw [hexponent] at hsecond
  rw [roundWithAccuracy, shiftToTargetExponent_eq hn hlt hj]
  simp only [hrounded, hsecond]
  exact dif_neg hmantissa

theorem round_eq (hn : 0 < n) (hlt : n < 2 ^ 24) (j : ℕ) :
    UnpackedFloat.round .binary32 .positive (n * 2 ^ j) (-j) = countParts n hn := by
  have hlog := log2_le_of_lt hn hlt
  have hamount : (-(j : ℤ) - ((n.log2 : ℤ) - 23)).toNat = 23 - n.log2 - j := by omega
  have hexponent : -(j : ℤ) - ((23 - n.log2 - j : ℕ) : ℤ) = -((j + (23 - n.log2 - j) : ℕ) : ℤ) := by
    omega
  rw [UnpackedFloat.round, targetExponent_eq hn, decreaseExponent]
  simp only [hamount]
  rw [Nat.shiftLeft_eq, mul_assoc, ← pow_add, hexponent]
  exact roundWithAccuracy_eq hn hlt (by omega)

theorem normalize_eq (hn : 0 < n) (hlt : n < 2 ^ 24) (j : ℕ) :
    UnpackedFloat.normalize .binary32 ((n * 2 ^ j : ℕ) : ℤ) (-j) .positive = countParts n hn := by
  have hpositive : compare ((n * 2 ^ j : ℕ) : ℤ) 0 = .gt :=
    compare_gt_iff_gt.mpr (Int.natCast_pos.mpr (by positivity))
  rw [UnpackedFloat.normalize, hpositive]
  exact round_eq hn hlt j

/-! ## Packing -/

/-- The bit that packing leaves out of a mantissa of 24 bits is put back. -/
theorem append_ofNat {m : ℕ} (hm : 2 ^ 23 ≤ m) (hlt : m < 2 ^ 24) :
    (1#1 ++ BitVec.ofNat 23 m).toNat = m := by
  rw [BitVec.toNat_append, ← Nat.shiftLeft_add_eq_or_of_lt (BitVec.ofNat 23 m).isLt, BitVec.toNat_ofNat,
    Nat.shiftLeft_eq]
  show 1 * 2 ^ 23 + m % 2 ^ 23 = m
  omega

theorem pack_countParts (hn : 0 < n) (hlt : n < 2 ^ 24) :
    UnpackedFloat.pack .binary32 (countParts n hn) =
      packComponents .binary32 .positive (BitVec.ofNat 8 (n.log2 + 127))
        (BitVec.ofNat 23 (n * 2 ^ (23 - n.log2))) := by
  have hlog := log2_le_of_lt hn hlt
  have hbits : 23 + 1 = Format.binary32.mantissaBits := rfl
  have hbias : Format.binary32.exponentBias = 127 := by decide
  have hexponent : ((n.log2 : ℤ) - 23 + (127 : ℕ) + (23 : ℕ)).toNat = n.log2 + 127 := by omega
  have hsmall : ¬ 2 ^ 8 ≤ n.log2 + 127 + 1 := by omega
  rw [countParts, UnpackedFloat.pack]
  simp only [log2_mantissa hn hlt, hbias, hexponent]
  rw [if_neg hsmall, if_pos hbits]

theorem unpack_pack_countParts (hn : 0 < n) (hlt : n < 2 ^ 24) :
    (Float32.Model.pack (countParts n hn)).unpack = countParts n hn := by
  have hlog := log2_le_of_lt hn hlt
  obtain ⟨hlower, hupper⟩ := (Nat.log2_eq_iff (by positivity)).mp (log2_mantissa hn hlt)
  have hexponent : (BitVec.ofNat 8 (n.log2 + 127)).toNat = n.log2 + 127 := by
    rw [BitVec.toNat_ofNat]
    omega
  -- the exponent is neither that of subnormal values nor that of infinity
  have hnormal : BitVec.ofNat 8 (n.log2 + 127) ≠ 0#8 := by
    rw [Ne, ← BitVec.toNat_inj, hexponent, BitVec.toNat_ofNat]
    omega
  have hfinite : BitVec.ofNat 8 (n.log2 + 127) ≠ -1#8 := by
    have hones : (-1#8).toNat = 255 := by decide
    rw [Ne, ← BitVec.toNat_inj, hexponent, hones]
    omega
  have hbias : Format.binary32.exponentBias = 127 := by decide
  show UnpackedFloat.unpack .binary32 (UnpackedFloat.pack .binary32 (countParts n hn)) = countParts n hn
  rw [pack_countParts hn hlt, UnpackedFloat.unpack]
  simp only [unpackMantissa_packComponents, unpackExponent_packComponents, unpackSign_packComponents]
  rw [if_neg hfinite, if_neg hnormal]
  simp only [hexponent, append_ofNat hlower hupper, hbias]
  rw [countParts, UnpackedFloat.finite.injEq]
  refine ⟨rfl, rfl, ?_⟩
  omega

/-! ## Counts -/

/-- A count as a single-precision number, by its parts. -/
def counted (n : ℕ) (hn : 0 < n) : Float32 := .ofModel (.pack (countParts n hn))

theorem countParts_one :
    countParts 1 Nat.one_pos = .finite .positive (2 ^ 23) (-23) (Nat.two_pow_pos 23) := rfl

/-- A product that stands for a count has its parts. -/
theorem mul_eq_countParts (hn : 0 < n) (hlt : n < 2 ^ 24) {m m' j : ℕ} {e e' : ℤ} (hm : 0 < m) (hm' : 0 < m')
    (hmantissa : m * m' = n * 2 ^ j) (hexponent : e + e' = -j) (hj : 23 - n.log2 ≤ j) :
    UnpackedFloat.mul .binary32 (.finite .positive m e hm) (.finite .positive m' e' hm') =
      countParts n hn := by
  show roundWithAccuracy .binary32 .positive (m * m') (e + e') .exact = _
  rw [hmantissa, hexponent, roundWithAccuracy_eq hn hlt hj]

theorem counted_mul_one (hn : 0 < n) (hlt : n < 2 ^ 24) :
    counted n hn * counted 1 Nat.one_pos = counted n hn := by
  have hlog := log2_le_of_lt hn hlt
  have hmantissa : n * 2 ^ (23 - n.log2) * 2 ^ 23 = n * 2 ^ (23 - n.log2 + 23) := by
    rw [mul_assoc, ← pow_add]
  have hexponent : (n.log2 : ℤ) - 23 + -23 = -((23 - n.log2 + 23 : ℕ) : ℤ) := by omega
  have hproduct : UnpackedFloat.mul .binary32 (countParts n hn) (countParts 1 Nat.one_pos) =
      countParts n hn :=
    mul_eq_countParts hn hlt _ _ hmantissa hexponent (by omega)
  show Float32.ofModel (.pack (UnpackedFloat.mul .binary32 (Float32.Model.pack (countParts n hn)).unpack
    (Float32.Model.pack (countParts 1 Nat.one_pos)).unpack)) = _
  rw [unpack_pack_countParts hn hlt, unpack_pack_countParts Nat.one_pos (by decide), hproduct]
  rfl

/-- The sum of the parts is rounded at the exponent of one, where both mantissas are shifted by 23
bits. -/
theorem add_countParts (hn : 0 < n) (hlt : n + 1 < 2 ^ 24) :
    UnpackedFloat.add .binary32 (countParts n hn) (countParts 1 Nat.one_pos) =
      countParts (n + 1) n.succ_pos := by
  have hlog := log2_le_of_lt hn (Nat.lt_of_succ_lt hlt)
  have hmin : min ((n.log2 : ℤ) - 23) (-23) = -23 := by omega
  have hamount : ((n.log2 : ℤ) - 23 - -23).toNat = n.log2 := by omega
  -- the count is brought to the exponent of one, which is the smaller of the two
  have hmantissa : (n * 2 ^ (23 - n.log2)) <<< n.log2 = n * 2 ^ 23 := by
    rw [Nat.shiftLeft_eq, mul_assoc, ← pow_add, Nat.sub_add_cancel hlog]
  have hsum : Sign.positive.apply ((n * 2 ^ 23 : ℕ) : ℤ) + Sign.positive.apply ((2 ^ 23 : ℕ) : ℤ) =
      (((n + 1) * 2 ^ 23 : ℕ) : ℤ) := by
    rw [Nat.succ_mul, Int.natCast_add]
    rfl
  rw [← normalize_eq n.succ_pos hlt 23, ← hsum, countParts_one, countParts, UnpackedFloat.add]
  simp only [decreaseExponent, hmin, hamount, hmantissa]
  rfl

theorem counted_add_one (hn : 0 < n) (hlt : n + 1 < 2 ^ 24) :
    counted n hn + counted 1 Nat.one_pos = counted (n + 1) n.succ_pos := by
  show Float32.ofModel (.pack (UnpackedFloat.add .binary32 (Float32.Model.pack (countParts n hn)).unpack
    (Float32.Model.pack (countParts 1 Nat.one_pos)).unpack)) = _
  rw [unpack_pack_countParts hn (Nat.lt_of_succ_lt hlt), unpack_pack_countParts Nat.one_pos (by decide),
    add_countParts hn hlt]
  rfl

/-! ### Conversion -/

theorem toFloat32_eq (hn : 0 < n) (hlt : n < 2 ^ 24) : n.toUInt64.toFloat32 = counted n hn := by
  have hword : n.toUInt64.toNat = n := UInt64.toNat_ofNat_of_lt' (hlt.trans (by decide))
  show Float32.ofModel (.pack (UnpackedFloat.normalize .binary32 (n.toUInt64.toNat : ℤ) 0 .positive)) = _
  rw [hword, counted, ← normalize_eq hn hlt 0, pow_zero, mul_one]
  rfl

/-- Below half of the limit, a number is converted as one word, and multiplied by one. -/
theorem ofScientific_of_small (hn : 0 < n) (hlt : n < 2 ^ 23) :
    Float32.ofScientific n false 0 = counted n hn := by
  have hlt' : n < 2 ^ 24 := hlt.trans (by decide)
  have hone : Float32.ofBits 0x3F800000 = counted 1 Nat.one_pos := by decide +kernel
  rw [Float32.ofScientific, dif_pos ⟨hlt, by decide⟩]
  show n.toUInt64.toFloat32 * Float32.ofBits 0x3F800000 = _
  rw [toFloat32_eq hn hlt', hone, counted_mul_one hn hlt']

/-- From there on, it is converted as a product of two numbers. -/
theorem ofScientific_of_large (hn : 0 < n) (hle : 2 ^ 23 ≤ n) (hlt : n < 2 ^ 24) :
    Float32.ofScientific n false 0 = counted n hn := by
  have hlarge : ¬ (n < 2 ^ 23 ∧ 0 ≤ 10) := by omega
  have hmantissa : (n <<< 24) * 10 ^ (0 : ℤ).toNat = n * 2 ^ 24 := by
    rw [Nat.shiftLeft_eq, Int.toNat_zero, pow_zero, mul_one]
  have hexponent : ¬ (0 : ℤ) < -((2 : ℤ) ^ 8 + n.log2) := by omega
  have hproduct : UnpackedFloat.ofScientific .binary32 n 0 = countParts n hn := by
    rw [UnpackedFloat.ofScientific, dif_neg hn.ne', if_neg (by decide), if_neg hexponent, if_pos le_rfl]
    exact mul_eq_countParts hn hlt _ _ hmantissa rfl (by omega)
  rw [Float32.ofScientific, dif_neg hlarge]
  show Float32.ofModel (.pack (UnpackedFloat.ofScientific .binary32 n 0)) = _
  rw [hproduct, counted]

theorem ofNat_of_lt (hn : 0 < n) (hlt : n < 2 ^ 24) : Float32.ofNat n = counted n hn := by
  show Float32.ofScientific n false 0 = _
  rcases Nat.lt_or_ge n (2 ^ 23) with hsmall | hlarge
  · exact ofScientific_of_small hn hsmall
  · exact ofScientific_of_large hn hlarge hlt

/-- Adding one to a count gives the next one, if that has 24 bits. -/
theorem ofNat_add_one_of_lt (hn : 0 < n) (hlt : n + 1 < 2 ^ 24) :
    Float32.ofNat n + 1 = Float32.ofNat (n + 1) := by
  have hone : (1 : Float32) = counted 1 Nat.one_pos := ofNat_of_lt Nat.one_pos (by decide)
  rw [ofNat_of_lt hn (Nat.lt_of_succ_lt hlt), ofNat_of_lt n.succ_pos hlt, hone, counted_add_one hn hlt]

/-- The number of a count below the limit, from its parts. -/
theorem singleValue_ofNat_of_lt (hn : 0 < n) (hlt : n < 2 ^ 24) : singleValue (Float32.ofNat n) = n := by
  have hlog := log2_le_of_lt hn hlt
  have hexponent : (n.log2 : ℤ) - 23 = -((23 - n.log2 : ℕ) : ℤ) := by omega
  have hvalue : singleValue (Float32.ofNat n) =
      (((n * 2 ^ (23 - n.log2) : ℕ) : ℤ) : ℚ) * 2 ^ ((n.log2 : ℤ) - 23) := by
    rw [ofNat_of_lt hn hlt, counted, singleValue, unpack_pack_countParts hn hlt]
    rfl
  rw [hvalue, hexponent, zpow_neg, zpow_natCast]
  push_cast
  exact mul_inv_cancel_right₀ (by positivity) _

namespace Bigram

/-- A count up to the limit stands for itself. -/
theorem singleValue_countValue (h : n ≤ countLimit) : singleValue (countValue n) = n := by
  rw [countValue, min_eq_left h]
  rcases Nat.eq_zero_or_pos n with rfl | hn
  · rfl
  rcases h.lt_or_eq with hlt | rfl
  · exact singleValue_ofNat_of_lt hn hlt
  · decide +kernel

/-- Adding one to any count gives the next one. -/
theorem countValue_add_one (n : ℕ) : countValue n + 1 = countValue (n + 1) := by
  have hlast : Float32.ofNat 0xffffff + 1 = Float32.ofNat 0x1000000 := by decide +kernel
  have hlimit : Float32.ofNat 0x1000000 + 1 = Float32.ofNat 0x1000000 := by decide +kernel
  have hzero : Float32.ofNat 0 + 1 = Float32.ofNat 1 := by decide +kernel
  unfold countValue
  rcases Nat.eq_zero_or_pos n with rfl | hn
  · exact hzero
  -- below the limit counts are exact, and at the limit one more is rounded away
  rcases Nat.lt_trichotomy (n + 1) countLimit with hlt | heq | hgt
  · rw [min_eq_left (Nat.le_of_succ_le hlt.le), min_eq_left hlt.le]
    exact ofNat_add_one_of_lt hn hlt
  · obtain rfl : n = 0xffffff := Nat.succ.inj heq
    exact hlast
  · rw [min_eq_right (Nat.le_of_lt_succ hgt), min_eq_right hgt.le]
    exact hlimit

end Bigram
end FlowScope
