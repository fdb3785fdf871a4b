import RadarOverlay.Bearing
import RadarOverlay.Proofs.Widening

/-!
Bearings are finite. The terms of the series of a bearing never grow, so the few that are
summed up stay far below the largest number there is. Main statement: `isFinite_ofOffset`,
whatever the offset is.
-/
namespace RadarOverlay

namespace Binary

variable {f : Format} {significand : Nat} {exponent : Int}

theorem powerOfTwo_le {m n : Nat} (le : m ≤ n) : powerOfTwo m ≤ powerOfTwo n :=
  Nat.pow_le_pow_right (by decide) le

theorem shiftNearestEven_le {n places shift : Nat} (below : n < powerOfTwo (places + shift)) :
    shiftNearestEven n shift ≤ powerOfTwo places := by
  rw [powerOfTwo_add, Nat.mul_comm] at below
  have short : n / powerOfTwo shift < powerOfTwo places := Nat.div_lt_of_lt_mul below
  unfold shiftNearestEven
  dsimp only
  split
  · omega
  · split <;> omega

/-- A number is rounded to a finite one if its leading bit is in the range of the exponents. -/
theorem magnitudeBits_lt
    (room : (exponent + significand.log2 - f.fraction - f.leastExponent).toNat + 3 <
      powerOfTwo f.exponent) :
    magnitudeBits f significand exponent < f.infinityBits := by
  have full := powerOfTwo_pos f.fraction
  have finite (steps rounded : Nat) (few : steps + 3 < powerOfTwo f.exponent)
      (bounded : rounded ≤ powerOfTwo (f.fraction + 1)) :
      steps * powerOfTwo f.fraction + rounded < f.infinityBits := by
    rw [powerOfTwo_succ] at bounded
    calc steps * powerOfTwo f.fraction + rounded
        ≤ (steps + 2) * powerOfTwo f.fraction := by rw [Nat.add_mul]; omega
      _ < (powerOfTwo f.exponent - 1) * powerOfTwo f.fraction :=
        Nat.mul_lt_mul_of_pos_right (by omega) full
  unfold magnitudeBits
  by_cases none : significand = 0
  · rw [if_pos none]
    exact Nat.mul_pos (by omega) full
  rw [if_neg none]
  generalize last : max (exponent + significand.log2 - f.fraction) f.leastExponent = place
  -- To round up may carry into one bit more than there is room for, but not beyond it.
  refine Nat.lt_of_le_of_lt (Nat.min_le_left ..) (finite _ _ (by omega) ?_)
  have leading := (log2_bounds none).2
  rw [← powerOfTwo_succ] at leading
  split
  · rename_i wide
    calc significand * powerOfTwo (exponent - place).toNat
        ≤ powerOfTwo (significand.log2 + 1) * powerOfTwo (exponent - place).toNat :=
          Nat.mul_le_mul_right _ (Nat.le_of_lt leading)
      _ = powerOfTwo (significand.log2 + 1 + (exponent - place).toNat) := (powerOfTwo_add ..).symm
      _ ≤ powerOfTwo (f.fraction + 1) := powerOfTwo_le (by omega)
  · exact shiftNearestEven_le (Nat.lt_of_lt_of_le leading (powerOfTwo_le (by omega)))

end Binary

namespace Bearing

/-- The terms do not grow. -/
theorem series_le (p q terms k term : Nat) : series p q terms k term ≤ terms * term := by
  induction terms generalizing k term with
  | zero => exact Nat.zero_le _
  | succ terms ih =>
    have next : term * (2 * k * (p * p)) / ((2 * k + 1) * (p * p + q * q)) ≤ term := by
      apply Nat.div_le_of_le_mul
      rw [Nat.mul_comm term]
      exact Nat.mul_le_mul_right term (Nat.mul_le_mul (by omega) (by omega))
    calc series p q (terms + 1) k term
        ≤ term + terms * (term * (2 * k * (p * p)) / ((2 * k + 1) * (p * p + q * q))) :=
          Nat.add_le_add_left (ih ..) term
      _ ≤ term + terms * term := Nat.add_le_add_left (Nat.mul_le_mul_left terms next) term
      _ = (terms + 1) * term := by rw [Nat.succ_mul, Nat.add_comm]

theorem arcTangent_le (p q : Nat) :
    arcTangent p q ≤ precision * Binary.powerOfTwo precision := by
  refine (series_le ..).trans (Nat.mul_le_mul_left precision ?_)
  apply Nat.div_le_of_le_mul
  rw [Nat.mul_comm]
  apply Nat.mul_le_mul_right
  rcases Nat.le_total p q with less | less
  · exact (Nat.mul_le_mul_right q less).trans (Nat.le_add_left ..)
  · exact (Nat.mul_le_mul_left p less).trans (Nat.le_add_right ..)

theorem steps_le (x y : Int) :
    steps x y ≤ 4 * (precision * Binary.powerOfTwo precision) := by
  have flat := arcTangent_le x.natAbs y.natAbs
  have steep := arcTangent_le y.natAbs x.natAbs
  have diagonal : eighth ≤ precision * Binary.powerOfTwo precision := arcTangent_le 1 1
  -- Each angle is a sum or difference of at most four eighths of a turn and such a bearing.
  unfold steps
  dsimp only
  generalize precision * Binary.powerOfTwo precision = bound at *
  split <;> split <;> omega

/-- A bearing is a finite number. -/
theorem isFinite_ofOffset (x y : Int) : (ofOffset x y).isFinite = true := by
  have few : (steps x y).log2 < 170 := by
    by_cases none : steps x y = 0
    · rw [none]
      decide
    · rw [Nat.log2_lt none]
      exact Nat.lt_of_le_of_lt (steps_le x y) (by decide +kernel)
  have finite : Binary.magnitudeBits .double (steps x y) (-precision) <
      Binary.Format.double.infinityBits := by
    apply Binary.magnitudeBits_lt
    have least : Binary.Format.double.leastExponent = -1074 := by decide
    have range : Binary.powerOfTwo Binary.Format.double.exponent = 2048 := by decide
    have fraction : Binary.Format.double.fraction = 52 := rfl
    rw [least, range, fraction, precision]
    omega
  have below := Nat.lt_trans finite (Binary.infinityBits_lt_signBit .double)
  have bits : (ofOffset x y).toBits.toNat = Binary.Format.double.signed (x < 0)
      (Binary.magnitudeBits .double (steps x y) (-precision)) :=
    Binary.toNat_toBits_signed _ finite
  rwa [Binary.double_isFinite_iff, bits, Binary.magnitude_signed _ below]

example : ofOffset 0 0 = 0 ∧ ofOffset 3 3 = 0.7853981633974483 ∧
    ofOffset (-2147483648) 0 = -1.5707963267948966 ∧ ofOffset 0 (-1) = 3.141592653589793 := by
  decide +kernel

end Bearing

end RadarOverlay
