import RadarOverlay.Binary

/-!
The bearing of a pixel offset: the angle from the direction of growing rows to the
offset, positive towards growing columns. It is summed up in whole steps of a small
fraction of a radian by Euler's series for the arc tangent, which needs quotients of
whole numbers only, and is rounded once, to the nearest floating-point number.
-/
namespace RadarOverlay.Bearing

/-- Bits after the point of an angle in steps. -/
def precision : Nat := 160

/-- The terms of Euler's series from number `k` on, for an angle whose tangent is `p / q`: each is
the one before it times `2 k p² / ((2 k + 1) (p² + q²))`. -/
def series (p q : Nat) : (terms k term : Nat) → Nat
  | 0, _, _ => 0
  | terms + 1, k, term =>
    term + series p q terms (k + 1) (term * (2 * k * (p * p)) / ((2 * k + 1) * (p * p + q * q)))

/-- The steps of the angle whose tangent is `p / q`, where `p` is at most `q`. The terms are at
least halved each time, so what comes after them is less than a step. -/
def arcTangent (p q : Nat) : Nat :=
  series p q precision 1 (Binary.powerOfTwo precision * (p * q) / (p * p + q * q))

/-- The steps of an eighth of a turn. -/
def eighth : Nat := arcTangent 1 1

/-- The steps between the direction of growing rows and an offset, towards either side. -/
def steps (x y : Int) : Nat :=
  let acute :=
    if x.natAbs ≤ y.natAbs then arcTangent x.natAbs y.natAbs
    else 2 * eighth - arcTangent y.natAbs x.natAbs
  if y < 0 then 4 * eighth - acute else acute

/-- The bearing of an offset in radians. An offset of nothing has the bearing zero. -/
def ofOffset (x y : Int) : Float :=
  (Binary.finite (x < 0) (steps x y) (-precision)).toDouble

end RadarOverlay.Bearing
