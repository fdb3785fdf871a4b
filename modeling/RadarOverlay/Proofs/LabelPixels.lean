import RadarOverlay.Badge
import RadarOverlay.Proofs.Widening

/-!
The pixels of a measured width. A number that is read off its bits is the one that is unpacked
from them, sign, significand and exponent, so what becomes of it can be said of its exact
rational value. Main statements: `decode_eq_unpack` for the numbers of any format,
`ceilingMagnitude_eq` for the least whole number that is not below one, and `toInt_wholePixels`
for the whole pixels of a label.
-/
namespace RadarOverlay

namespace Binary

open Float.Model (UnpackedFloat)
open Float.Model.UnpackedFloat

/-- The format with the same fields. -/
def Format.of (spec : Float.Model.Format) : Format :=
  ⟨spec.mantissaBitsWithoutImplicit, spec.exponentBits⟩

def isNegative : Sign → Bool
  | .negative => true
  | .positive => false

/-- The exact value of an unpacked number of a format. -/
def ofUnpacked (f : Format) : UnpackedFloat → Binary
  | .notANumber => .undefined
  | .infinity sign => .infinite (isNegative sign)
  | .zero sign => .finite (isNegative sign) 0 f.leastExponent
  | .finite sign significand exponent _ => .finite (isNegative sign) significand exponent

section

variable {spec : Float.Model.Format}

/-- The sign is the bit above the fields of the exponent and of the significand. -/
theorem isNegative_unpackSign (bits : BitVec spec.numBits) :
    isNegative (Sign.ofBitVec (unpackSign bits)) =
      decide ((Format.of spec).signBit ≤ bits.toNat % (2 * (Format.of spec).signBit)) := by
  have bound : bits.toNat < 2 * (Format.of spec).signBit := by
    have places : spec.mantissaBitsWithoutImplicit + spec.exponentBits + 1 = spec.numBits := by
      rw [Float.Model.Format.numBits]
      omega
    rw [Format.signBit, ← powerOfTwo_succ]
    exact Nat.lt_of_lt_of_eq bits.isLt (congrArg (2 ^ ·) places.symm)
  have sign : (unpackSign bits).toNat = bits.toNat / (Format.of spec).signBit % 2 := by
    rw [unpackSign_def, BitVec.extractLsb'_toNat, Nat.shiftRight_eq_div_pow]
    rfl
  rw [Nat.mod_eq_of_lt bound]
  by_cases above : (Format.of spec).signBit ≤ bits.toNat
  · have one : bits.toNat / (Format.of spec).signBit = 1 :=
      Nat.div_eq_of_lt_le (by omega) (by omega)
    rw [one] at sign
    have set : unpackSign bits ≠ 0#1 := by
      intro zero
      rw [zero] at sign
      cases sign
    simp [Sign.ofBitVec, set, isNegative, above]
  · have zero : unpackSign bits = 0#1 := by
      apply BitVec.toNat_inj.mp
      rw [sign, Nat.div_eq_of_lt (Nat.not_le.mp above)]
      rfl
    simp [Sign.ofBitVec, zero, isNegative, above]

theorem leastExponent_of (spec : Float.Model.Format) : (Format.of spec).leastExponent =
    1 - ((spec.exponentBias : Int) + spec.mantissaBitsWithoutImplicit) := by
  have positive := powerOfTwo_pos (spec.exponentBits - 1)
  have bias : spec.exponentBias = powerOfTwo (spec.exponentBits - 1) - 1 := rfl
  have places : (Format.of spec).leastExponent = 3 - (powerOfTwo (spec.exponentBits - 1) : Int) -
    (spec.mantissaBitsWithoutImplicit + 1 : Nat) := rfl
  omega

/-- The leading bit that is implied stands above the bits of the significand. -/
theorem toNat_implied {n : Nat} (bits : BitVec n) :
    (1#1 ++ bits).toNat = powerOfTwo n + bits.toNat := by
  have joined := Nat.two_pow_add_eq_or_of_lt bits.isLt 1
  rw [Nat.mul_one] at joined
  rw [BitVec.toNat_append, BitVec.toNat_ofNat, Nat.shiftLeft_eq]
  exact (congrArg (· ||| bits.toNat) (Nat.one_mul _)).trans joined.symm

/-- A number is read off its bits as it is unpacked from them. -/
theorem decode_eq_unpack (bits : BitVec spec.numBits) :
    decode (.of spec) bits.toNat = .ofUnpacked (.of spec) (unpack spec bits) := by
  have fields : bits.toNat % (Format.of spec).signBit =
      powerOfTwo (Format.of spec).fraction * (unpackExponent bits).toNat +
        (unpackMantissa bits).toNat := (magnitude_eq_fields bits).trans (by rw [Nat.mul_comm]; rfl)
  have short : (unpackMantissa bits).toNat < powerOfTwo (Format.of spec).fraction :=
    (unpackMantissa bits).isLt
  have biased : bits.toNat % (Format.of spec).signBit / powerOfTwo (Format.of spec).fraction =
      (unpackExponent bits).toNat := by
    rw [fields, Nat.mul_add_div (powerOfTwo_pos _), Nat.div_eq_of_lt short, Nat.add_zero]
  have fraction : bits.toNat % (Format.of spec).signBit % powerOfTwo (Format.of spec).fraction =
      (unpackMantissa bits).toNat := by
    rw [fields, Nat.mul_add_mod, Nat.mod_eq_of_lt short]
  have least := leastExponent_of spec
  have infinite : (Format.of spec).infinityBits =
      powerOfTwo (Format.of spec).fraction * (2 ^ spec.exponentBits - 1) := Nat.mul_comm ..
  simp only [decode, ← isNegative_unpackSign, biased, fraction, unpack]
  by_cases full : unpackExponent bits = -1#_
  · have ones : (unpackExponent bits).toNat = 2 ^ spec.exponentBits - 1 := by
      rw [full, BitVec.neg_one_eq_allOnes, BitVec.toNat_allOnes]
    rw [ones, ← infinite] at fields
    rw [if_pos full]
    by_cases empty : unpackMantissa bits = 0#_
    · have none : (unpackMantissa bits).toNat = 0 := congrArg BitVec.toNat empty
      rw [if_neg (by omega), if_pos (by omega), if_pos empty]
      rfl
    · have some : (unpackMantissa bits).toNat ≠ 0 := fun none => empty (BitVec.toNat_inj.mp none)
      rw [if_pos (by omega), if_neg empty]
      rfl
  · have below : bits.toNat % (Format.of spec).signBit < (Format.of spec).infinityBits :=
      Nat.not_le.mp ((not_congr (full_iff bits)).mp full)
    rw [if_neg (Nat.lt_asymm below), if_neg (Nat.ne_of_lt below), if_neg full]
    by_cases zero : unpackExponent bits = 0#_
    · have none : (unpackExponent bits).toNat = 0 := congrArg BitVec.toNat zero
      have exponent : (Format.of spec).leastExponent = ((unpackExponent bits).toNat : Int) -
          (spec.exponentBias + spec.mantissaBitsWithoutImplicit) + 1 := by omega
      rw [if_pos none, if_pos zero]
      by_cases empty : unpackMantissa bits = 0#_
      · rw [dif_pos empty, empty]
        rfl
      · rw [dif_neg empty, exponent]
        rfl
    · have some : (unpackExponent bits).toNat ≠ 0 := fun none => zero (BitVec.toNat_inj.mp none)
      have exponent : (Format.of spec).leastExponent + ((unpackExponent bits).toNat - 1 : Nat) =
          ((unpackExponent bits).toNat : Int) -
            (spec.exponentBias + spec.mantissaBitsWithoutImplicit) := by omega
      rw [if_neg some, if_neg zero, exponent]
      exact congrArg (Binary.finite _ · _) (toNat_implied _).symm

end

/-- The least whole number that is not below a quotient. -/
theorem ceil_div_eq (m : Nat) {d : Nat} (positive : 0 < d) :
    ⌈(m : ℚ) / d⌉ = ((m + (d - 1)) / d : Nat) := by
  obtain ⟨d, rfl⟩ := Nat.exists_eq_succ_of_ne_zero positive.ne'
  have split := Nat.div_add_mod (m + d) (d + 1)
  have rest : (m + d) % (d + 1) < d + 1 := Nat.mod_lt _ (Nat.succ_pos d)
  have least : m ≤ (m + d) / (d + 1) * (d + 1) := by rw [Nat.mul_comm]; omega
  have most : (m + d) / (d + 1) * (d + 1) < m + (d + 1) := by rw [Nat.mul_comm]; omega
  rw [Int.ceil_eq_iff, lt_div_iff₀ (by positivity), div_le_iff₀ (by positivity)]
  constructor
  · rw [sub_mul, one_mul, sub_lt_iff_lt_add]
    exact_mod_cast most
  · exact_mod_cast least

theorem cast_powerOfTwo (n : Nat) : (powerOfTwo n : ℚ) = 2 ^ n := Nat.cast_pow 2 n

/-- The ceiling of a number is that of its exact value. -/
theorem ceilingMagnitude_eq (m : Nat) (e : Int) :
    (ceilingMagnitude m e : Int) = ⌈(m : ℚ) * 2 ^ e⌉ := by
  unfold ceilingMagnitude
  by_cases whole : 0 ≤ e
  · obtain ⟨n, rfl⟩ := Int.eq_ofNat_of_zero_le whole
    have exact : (m : ℚ) * 2 ^ (n : Int) = (m * powerOfTwo n : Nat) := by
      rw [Nat.cast_mul, cast_powerOfTwo, zpow_natCast]
    rw [if_pos whole, exact, Int.ceil_natCast, Int.toNat_natCast]
  · obtain ⟨n, rfl⟩ := Int.exists_eq_neg_ofNat (Int.not_le.mp whole).le
    have exact : (m : ℚ) * 2 ^ (-(n : Int)) = m / (powerOfTwo n : Nat) := by
      rw [cast_powerOfTwo, zpow_neg, zpow_natCast, div_eq_mul_inv]
    rw [if_neg whole, exact, ceil_div_eq m (powerOfTwo_pos n), Int.neg_neg, Int.toNat_natCast]

end Binary

namespace Badge

open Float.Model

/-- The pixels that a measured width takes, by its exact value: the ceiling of what is not
negative, where a number that is none counts as zero, and the largest word is the most. -/
def pixels (width : Float32) : Int :=
  match width.toModel.unpack with
  | .notANumber | .infinity .negative | .zero _ | .finite .negative .. => 0
  | .infinity .positive => 2147483647
  | .finite .positive significand exponent _ =>
    min ⌈(significand : ℚ) * 2 ^ exponent⌉ 2147483647

theorem pixels_nonneg (width : Float32) : 0 ≤ pixels width := by
  unfold pixels
  split
  case h_1 | h_2 | h_3 | h_4 | h_5 => decide
  case h_6 => exact le_min (Int.ceil_nonneg (by positivity)) (by decide)

/-- The whole pixels of a label are those of its exact width. -/
theorem toInt_wholePixels (width : Float32) : (wholePixels width).toInt = pixels width := by
  have read : Binary.ofSingle width = .ofUnpacked .single width.toModel.unpack :=
    @Binary.decode_eq_unpack Format.binary32 width.toBits.toBitVec
  rw [wholePixels, read, pixels]
  cases width.toModel.unpack with
  | notANumber => rfl
  | infinity sign => cases sign <;> rfl
  | zero sign => cases sign <;> rfl
  | finite sign significand exponent positive =>
    cases sign with
    | negative => rfl
    | positive =>
      have above : 0 ≤ (Binary.ceilingMagnitude significand exponent : Int) := Int.natCast_nonneg _
      simp only [Binary.ofUnpacked, Binary.isNegative, Bool.false_eq_true, if_false,
        Coordinate.toInt_saturate, ← Binary.ceilingMagnitude_eq]
      omega

end Badge

end RadarOverlay
