import RadarOverlay.Coordinate
import RadarOverlay.Proofs.Widening

/-!
Whole numbers as double-precision numbers. A whole number that fits the significand is kept
exactly: it is shifted up until the significand is full, so nothing is rounded, and reading shifts
it back. Main statement: `readWord_ofInt` says that a word is read back from its number.
-/
namespace RadarOverlay.Binary

open Float.Model (Format totalExponent UnpackedFloat)
open Float.Model.UnpackedFloat
open Float.Model.Format (binary64)

/-- A significand that fills its bits, with an exponent far from the ends of the range. -/
structure Full (m : Nat) (e : Int) : Prop where
  least : 2 ^ 52 ≤ m
  most : m < 2 ^ 53
  above : -1000 ≤ e
  below : e ≤ 900

namespace Full

variable {m : Nat} {e : Int} {s : Sign}

theorem pos (full : Full m e) : 0 < m := Nat.lt_of_lt_of_le (by decide) full.least

theorem log2_eq (full : Full m e) : m.log2 = 52 :=
  (Nat.log2_eq_iff full.pos.ne').mpr ⟨full.least, full.most⟩

/-- A number with a full significand is packed and unpacked to itself. -/
theorem unpack_pack (full : Full m e) :
    unpack binary64 (pack binary64 (.finite s m e full.pos)) = .finite s m e full.pos := by
  have ⟨least, most, above, below⟩ := full
  let biased := (e + binary64.exponentBias + binary64.mantissaBitsWithoutImplicit).toNat
  have small : biased = (e + 1075).toNat := congrArg Int.toNat (Int.add_assoc e 1023 52)
  let field : BitVec binary64.exponentBits := BitVec.ofNat _ biased
  have field_toNat : field.toNat = (e + 1075).toNat := by
    have kept : field.toNat = biased % 2048 := BitVec.toNat_ofNat ..
    omega
  have packed : pack binary64 (.finite s m e full.pos) =
      packComponents binary64 s field (BitVec.ofNat _ m) := by
    have inRange : ¬ 2 ^ binary64.exponentBits ≤ biased + 1 := by
      change ¬ 2048 ≤ biased + 1
      omega
    simp only [pack]
    rw [if_neg inRange, if_pos (by rw [full.log2_eq]; rfl)]
  have notFull : field ≠ -1#_ := by
    intro ones
    have same : field.toNat = 2047 := congrArg BitVec.toNat ones
    omega
  have notEmpty : field ≠ 0#_ := by
    intro empty
    have same : field.toNat = 0 := congrArg BitVec.toNat empty
    omega
  have exponent : (field.toNat : Int) -
      (binary64.exponentBias + binary64.mantissaBitsWithoutImplicit) = e := by
    change (field.toNat : Int) - 1075 = e
    omega
  have significand : (1#1 ++ BitVec.ofNat binary64.mantissaBitsWithoutImplicit m).toNat = m := by
    have low : m % 2 ^ 52 < 2 ^ 52 := Nat.mod_lt _ (by decide)
    rw [BitVec.toNat_append, BitVec.toNat_ofNat, Nat.shiftLeft_eq]
    change 1 * 2 ^ 52 ||| m % 2 ^ 52 = m
    have joined := Nat.two_pow_add_eq_or_of_lt low 1
    rw [mul_one] at joined
    rw [Nat.one_mul, ← joined]
    omega
  rw [packed]
  simp only [unpack, unpackMantissa_packComponents, unpackExponent_packComponents,
    unpackSign_packComponents, Sign.ofBitVec_toBitVec, if_neg notFull, if_neg notEmpty, exponent,
    significand]

end Full

/-- Zeros behind a significand are shifted out and leave nothing to round. -/
theorem shift_trailing (m zeros : Nat) :
    ExtendedMantissa.ofMantissaAndAccuracy (m * powerOfTwo zeros) .exact >>> zeros =
      ExtendedMantissa.ofMantissaAndAccuracy m .exact := by
  induction zeros generalizing m with
  | zero => exact congrArg (ExtendedMantissa.ofMantissaAndAccuracy · .exact) (Nat.mul_one m)
  | succ zeros ih =>
    have first : ExtendedMantissa.ofMantissaAndAccuracy (m * powerOfTwo (zeros + 1)) .exact >>>
        (zeros + 1) = ExtendedMantissa.shiftRightOne
          (ExtendedMantissa.ofMantissaAndAccuracy (m * powerOfTwo (zeros + 1)) .exact >>> zeros) :=
      rfl
    rw [first, powerOfTwo_succ, ← Nat.mul_assoc, ih]
    simp [ExtendedMantissa.shiftRightOne, ExtendedMantissa.ofMantissaAndAccuracy]

theorem shiftToTarget_trailing {m : Nat} {e : Int} (full : Full m e) (zeros : Nat) :
    shiftToTargetExponent binary64 (m * powerOfTwo zeros) (e - zeros) .exact =
      (ExtendedMantissa.ofMantissaAndAccuracy m .exact, e) := by
  have target : binary64.targetExponent (totalExponent (m * powerOfTwo zeros) (e - zeros)) = e := by
    have least := full.above
    have format : (binary64.mantissaBits : Int) = 53 ∧ binary64.minExponent = -1074 := by decide
    rw [Format.targetExponent, totalExponent, log2_trailing full.pos.ne', full.log2_eq, format.1,
      format.2]
    omega
  have places : (e - (e - zeros)).toNat = zeros := by omega
  simp only [shiftToTargetExponent, target, shiftToExponent, places, shift_trailing]
  rw [Int.sub_add_cancel]

/-- Nothing is rounded of a full significand with zeros behind it. -/
theorem round_trailing {m : Nat} {e : Int} (full : Full m e) (s : Sign) (zeros : Nat) :
    roundWithAccuracy binary64 s (m * powerOfTwo zeros) (e - zeros) .exact =
      .finite s m e full.pos := by
  have again := shiftToTarget_trailing full 0
  rw [show powerOfTwo 0 = 1 from rfl, Nat.mul_one, Nat.cast_zero, Int.sub_zero] at again
  have rounded : (ExtendedMantissa.ofMantissaAndAccuracy m .exact).roundedMantissa = m := rfl
  have mantissa : (ExtendedMantissa.ofMantissaAndAccuracy m .exact).mantissa = m := rfl
  simp only [roundWithAccuracy, shiftToTarget_trailing full zeros, rounded, again, mantissa,
    dif_neg full.pos.ne']

/-- The bits of the number one. -/
theorem unpack_one : (Float.ofBits 0x3ff0000000000000).toModel.unpack =
    .finite .positive (2 ^ 52) (-52) (by decide) := by
  rfl

/-- The zeros that fill the significand of a whole number. -/
def places (n : Nat) : Nat := 52 - n.log2

/-- The zeros behind the significand are shifted out when a number is read as a whole one. -/
theorem roundToInt_whole (s : Sign) (n : Nat) :
    roundToInt s (n * powerOfTwo (places n)) (-places n) = s.apply n := by
  have none : (-(places n : Int)).toNat = 0 := by omega
  have amount : (0 - -(places n : Int)).toNat = places n := by omega
  simp only [roundToInt, decreaseExponent, Int.sub_zero, none, Nat.shiftLeft_zero, Nat.cast_zero,
    shiftToExponent, amount, shift_trailing]
  rfl

section

variable {n : Nat} (positive : 0 < n) (small : n < 2 ^ 53)

include positive small

theorem log2_lt : n.log2 < 53 := (Nat.log2_lt positive.ne').mpr small

theorem full_whole : Full (n * powerOfTwo (places n)) (-places n) := by
  have log2 : (n * powerOfTwo (places n)).log2 = 52 := by
    have fits := log2_lt positive small
    rw [log2_trailing positive.ne', places]
    omega
  have some : n * powerOfTwo (places n) ≠ 0 :=
    (Nat.mul_pos positive (powerOfTwo_pos _)).ne'
  obtain ⟨least, most⟩ := (Nat.log2_eq_iff some).mp log2
  refine ⟨least, most, ?_, ?_⟩ <;> unfold places <;> omega

/-- A whole number is shifted up to a full significand. -/
theorem round_whole (s : Sign) : UnpackedFloat.round binary64 s n 0 =
    .finite s (n * powerOfTwo (places n)) (-places n) (full_whole positive small).pos := by
  have fits := log2_lt positive small
  have target : binary64.targetExponent (totalExponent n 0) = -places n := by
    have format : (binary64.mantissaBits : Int) = 53 ∧ binary64.minExponent = -1074 := by decide
    rw [Format.targetExponent, totalExponent, format.1, format.2, places]
    omega
  have exact := round_trailing (full_whole positive small) s 0
  rw [show powerOfTwo 0 = 1 from rfl, Nat.mul_one, Nat.cast_zero, Int.sub_zero] at exact
  simp only [UnpackedFloat.round, target, decreaseExponent, Nat.shiftLeft_eq, Int.zero_sub,
    Int.neg_neg, Int.toNat_natCast]
  exact exact

/-- The number of a whole number has it as its significand, with zeros behind. -/
theorem unpack_ofNat : (Float.ofNat n).toModel.unpack =
    .finite .positive (n * powerOfTwo (places n)) (-places n)
      (full_whole positive small).pos := by
  have full := full_whole positive small
  have word : n.toUInt64.toNat = n := UInt64.toNat_ofNat_of_lt' (by simp [UInt64.size]; omega)
  have converted : (Float.Model.ofUInt64 n.toUInt64).unpack =
      .finite .positive (n * powerOfTwo (places n)) (-places n) full.pos := by
    have above : compare (n : Int) 0 = .gt := Int.compare_eq_gt.mpr (by omega)
    have model : Float.Model.ofUInt64 n.toUInt64 = Float.Model.pack
        (.finite .positive (n * powerOfTwo (places n)) (-places n) full.pos) := by
      simp only [Float.Model.ofUInt64, ofUInt64, ofNat, ofInt, UnpackedFloat.normalize, word, above,
        Int.toNat_natCast, round_whole positive small]
    rw [model]
    exact full.unpack_pack
  let one : Float := Float.ofBits 0x3ff0000000000000
  have scaled : Float.ofNat n = n.toUInt64.toFloat * one := by
    have exact : n < 2 ^ 53 ∧ 0 ≤ 22 := ⟨small, by decide⟩
    change Float.ofScientific n false 0 = _
    rw [Float.ofScientific, dif_pos exact]
    rfl
  have product : (n.toUInt64.toFloat * one).toModel.unpack = unpack binary64 (pack binary64
      (UnpackedFloat.mul binary64 (Float.Model.ofUInt64 n.toUInt64).unpack one.toModel.unpack)) :=
    rfl
  have kept : UnpackedFloat.mul binary64
      (.finite .positive (n * powerOfTwo (places n)) (-places n) full.pos)
      (.finite .positive (2 ^ 52) (-52) (by decide)) =
        .finite .positive (n * powerOfTwo (places n)) (-places n) full.pos :=
    round_trailing full .positive 52
  rw [scaled, product, converted, unpack_one, kept]
  exact full.unpack_pack

end

/-- A whole number that fits the significand is read back from its number. -/
theorem toInt_ofInt {n : Int} (small : n.natAbs < 2 ^ 53) (least most : Int) :
    (Float.ofInt n).toModel.unpack.toInt least most = n := by
  cases n with
  | ofNat n =>
    rcases Nat.eq_zero_or_pos n with rfl | positive
    · rfl
    · have exact : (Float.ofInt (Int.ofNat n)).toModel.unpack = _ := unpack_ofNat positive small
      rw [exact]
      exact roundToInt_whole .positive n
  | negSucc n =>
    have full := full_whole n.succ_pos small
    have turned : (Float.ofInt (Int.negSucc n)).toModel.unpack =
        unpack binary64 (pack binary64 (Float.ofNat n.succ).toModel.unpack.neg) := rfl
    rw [turned, unpack_ofNat n.succ_pos small]
    have exact : unpack binary64 (pack binary64 (UnpackedFloat.neg (.finite .positive
        (n.succ * powerOfTwo (places n.succ)) (-places n.succ) full.pos))) = _ :=
      full.unpack_pack (s := .negative)
    rw [exact]
    exact roundToInt_whole .negative n.succ

/-- A number read as a word: towards zero, and the nearest word beyond the range. -/
def readWord (x : Float) : Int32 :=
  Coordinate.saturate (x.toModel.unpack.toInt Int32.minValue.toInt Int32.maxValue.toInt)

/-- A word is read back from its number. -/
theorem readWord_ofInt (v : Int32) : readWord (Float.ofInt v.toInt) = v := by
  have ⟨least, most⟩ := Coordinate.inRange_toInt v
  rw [readWord, toInt_ofInt (by omega), Coordinate.saturate, if_neg (by omega), if_neg (by omega),
    Int32.ofInt_toInt]

end RadarOverlay.Binary
