import Mathlib
import RadarOverlay.Binary

/-!
The machine's floating-point numbers as their bits. A number is finite if its bits without
the sign are below those of an infinity, and bits that are not above them are kept when
they are read as a number and written again; all that are above stand for no number and
become one pattern. Main statements: `single_isFinite_iff`, `double_isFinite_iff` and
`double_toBits_ofBits`.
-/
namespace RadarOverlay.Binary

section

open Float.Model.UnpackedFloat

variable {spec : Float.Model.Format}

theorem isFinite_unpack (bits : BitVec spec.numBits) :
    (unpack spec bits).isFinite = true ↔ unpackExponent bits ≠ -1#_ := by
  unfold unpack
  dsimp only
  by_cases full : unpackExponent bits = -1#_
  · rw [if_pos full]
    split <;> simp [isFinite, full]
  · rw [if_neg full]
    split
    · split <;> simp [isFinite, full]
    · simp [isFinite, full]

/-- The bits without the sign are the fields of the exponent and of the significand. -/
theorem magnitude_eq_fields (bits : BitVec spec.numBits) :
    bits.toNat % 2 ^ (spec.mantissaBitsWithoutImplicit + spec.exponentBits) =
      (unpackExponent bits).toNat * 2 ^ spec.mantissaBitsWithoutImplicit +
        (unpackMantissa bits).toNat := by
  have low : (unpackMantissa bits).toNat = bits.toNat % 2 ^ spec.mantissaBitsWithoutImplicit := by
    rw [unpackMantissa_def, BitVec.extractLsb'_toNat, Nat.shiftRight_zero]
  have high : (unpackExponent bits).toNat =
      bits.toNat / 2 ^ spec.mantissaBitsWithoutImplicit % 2 ^ spec.exponentBits := by
    rw [unpackExponent_def, BitVec.extractLsb'_toNat, Nat.shiftRight_eq_div_pow]
  rw [low, high, pow_add, Nat.mod_mul, mul_comm, add_comm]

theorem toNat_lt_full {n : Nat} {x : BitVec n} (notFull : x ≠ -1#_) : x.toNat + 1 < 2 ^ n := by
  have bound := x.isLt
  have different : x.toNat ≠ 2 ^ n - 1 := by
    intro same
    apply notFull
    rw [BitVec.neg_one_eq_allOnes, ← BitVec.toNat_inj, BitVec.toNat_allOnes, same]
  omega

/-- The exponent field is full if the bits without the sign are at least those of an infinity. -/
theorem full_iff (bits : BitVec spec.numBits) :
    unpackExponent bits = -1#_ ↔
      (2 ^ spec.exponentBits - 1) * 2 ^ spec.mantissaBitsWithoutImplicit ≤
        bits.toNat % 2 ^ (spec.mantissaBitsWithoutImplicit + spec.exponentBits) := by
  rw [magnitude_eq_fields]
  have short := (unpackMantissa bits).isLt
  constructor
  · intro full
    rw [full, BitVec.neg_one_eq_allOnes, BitVec.toNat_allOnes]
    exact Nat.le_add_right ..
  · intro large
    by_contra notFull
    have below := toNat_lt_full notFull
    have next : ((unpackExponent bits).toNat + 1) * 2 ^ spec.mantissaBitsWithoutImplicit ≤
        (2 ^ spec.exponentBits - 1) * 2 ^ spec.mantissaBitsWithoutImplicit :=
      Nat.mul_le_mul_right _ (by omega)
    rw [Nat.succ_mul] at next
    omega

/-- A pattern of bits that stands for a number or an infinity is valid. -/
theorem valid_of_numeric {bits : BitVec spec.numBits}
    (numeric : bits.toNat % 2 ^ (spec.mantissaBitsWithoutImplicit + spec.exponentBits) ≤
      (2 ^ spec.exponentBits - 1) * 2 ^ spec.mantissaBitsWithoutImplicit) : spec.Valid bits := by
  refine ⟨fun full some => absurd ?_ some⟩
  rw [magnitude_eq_fields, full, BitVec.neg_one_eq_allOnes, BitVec.toNat_allOnes] at numeric
  exact BitVec.toNat_inj.mp (by simp; omega)

end

open Float.Model.Format (binary32 binary64)

/-- The bits of a number without its sign. -/
def Format.magnitude (f : Format) (bits : Nat) : Nat := bits % f.signBit

theorem double_toBits_ofBits {bits : UInt64}
    (numeric : Format.double.magnitude bits.toNat ≤ Format.double.infinityBits) :
    (Float.ofBits bits).toBits = bits := by
  have valid : binary64.Valid bits.toBitVec := valid_of_numeric numeric
  exact UInt64.toBitVec_inj.mp (Float.Model.UnpackedFloat.pack_unpack_of_valid valid)

theorem single_isFinite_iff (x : Float32) :
    x.isFinite = true ↔ Format.single.magnitude x.toBits.toNat < Format.single.infinityBits := by
  rw [← Nat.not_le]
  exact (@isFinite_unpack binary32 x.toBits.toBitVec).trans (not_congr (full_iff _))

theorem double_isFinite_iff (x : Float) :
    x.isFinite = true ↔ Format.double.magnitude x.toBits.toNat < Format.double.infinityBits := by
  rw [← Nat.not_le]
  exact (@isFinite_unpack binary64 x.toBits.toBitVec).trans (not_congr (full_iff _))

end RadarOverlay.Binary
