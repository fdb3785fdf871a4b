import RadarOverlay.Proofs.FloatBits

/-!
Signs of floating-point results. Rounding and packing keep the sign of a result, so a sign
can be followed through a computation whatever is rounded on the way. Main statements:
`hasSign_sub_of_lt` and `hasSign_sub_of_not_lt` say that the sign of a difference is the
order of its sides, `hasSign_div` that the sign of a quotient is the quotient of the
signs, and `isFinite_div_of_vanishes` that nothing finite is divided by zero.
-/
namespace RadarOverlay

open Float.Model (Format UnpackedFloat)
open Float.Model.UnpackedFloat

section

variable {spec : Format} {s t : Sign} {x y : UnpackedFloat}

/-- A number has a sign. What is no number has both. -/
def Signed (s : Sign) : UnpackedFloat → Prop
  | .notANumber => True
  | .infinity t | .zero t | .finite t .. => t = s

/-! ## What rounding and packing keep -/

theorem signed_unpack_components (e : BitVec spec.exponentBits)
    (m : BitVec spec.mantissaBitsWithoutImplicit) :
    Signed s (unpack spec (packComponents spec s e m)) := by
  unfold unpack
  simp only [unpackSign_packComponents, Sign.ofBitVec_toBitVec]
  split
  · split
    · rfl
    · trivial
  · split
    · split <;> rfl
    · rfl

/-- What is packed has its sign when it is unpacked, also where it overflows. -/
theorem signed_repack (signed : Signed s x) : Signed s (unpack spec (pack spec x)) := by
  cases x with
  | notANumber =>
    simp only [pack, unpack_packedNaN]
    trivial
  | infinity t =>
    cases signed
    exact signed_unpack_components _ _
  | zero t =>
    cases signed
    exact signed_unpack_components _ _
  | finite t m e positive =>
    cases signed
    simp only [pack]
    split
    · exact signed_unpack_components _ _
    · split <;> exact signed_unpack_components _ _

theorem signed_roundWithAccuracy (m : Nat) (e : Int) (accuracy : Accuracy) :
    Signed s (roundWithAccuracy spec s m e accuracy) := by
  simp only [roundWithAccuracy]
  split <;> rfl

theorem signed_normalize_neg {m : Int} (negative : m < 0) (e : Int) :
    Signed .negative (UnpackedFloat.normalize spec m e .positive) := by
  simp only [UnpackedFloat.normalize, Int.compare_eq_lt.mpr negative]
  exact signed_roundWithAccuracy _ _ _

theorem signed_normalize_nonneg {m : Int} (nonneg : 0 ≤ m) (e : Int) :
    Signed .positive (UnpackedFloat.normalize spec m e .positive) := by
  unfold UnpackedFloat.normalize
  split
  · rename_i less
    have := Int.compare_eq_lt.mp less
    omega
  · rfl
  · exact signed_roundWithAccuracy _ _ _

/-! ## What the operations do to signs -/

theorem signed_mul (first : Signed s x) (second : Signed t y) : Signed (s * t) (mul spec x y) := by
  cases x <;> cases y <;> cases first <;> cases second <;>
    first | trivial | rfl | exact signed_roundWithAccuracy _ _ _

theorem signed_div (first : Signed s x) (second : Signed t y) : Signed (s / t) (div spec x y) := by
  cases x <;> cases y <;> cases first <;> cases second <;>
    first | trivial | rfl | exact signed_roundWithAccuracy _ _ _

theorem signed_add (first : Signed .positive x) (second : Signed .positive y) :
    Signed .positive (add spec x y) := by
  cases x <;> cases y <;> cases first <;> cases second <;> try first | trivial | rfl
  exact signed_normalize_nonneg (Int.add_nonneg (Int.natCast_nonneg _) (Int.natCast_nonneg _)) _

theorem signed_sqrt (signed : Signed .positive x) : Signed .positive (sqrt spec x) := by
  cases x <;> cases signed <;> first | trivial | rfl | exact signed_roundWithAccuracy _ _ _

/-! ## Differences

A comparison looks at the exponents first, which is right for numbers that use all the bits they
may; a difference is taken of significands at one exponent. -/

/-- A significand and an exponent as they are unpacked: either the exponent is the least one, or
the significand fills its bits. -/
structure Filled (spec : Format) (m : Nat) (e : Int) : Prop where
  least : spec.minExponent ≤ e
  fits : m < 2 ^ (spec.mantissaBitsWithoutImplicit + 1)
  fills : spec.minExponent < e → 2 ^ spec.mantissaBitsWithoutImplicit ≤ m

theorem minExponent_eq (spec : Format) :
    spec.minExponent = 1 - ((spec.exponentBias : Int) + spec.mantissaBitsWithoutImplicit) := by
  have one : 1 ≤ 2 ^ (spec.exponentBits - 1) := Nat.one_le_two_pow
  have cast : ((2 ^ (spec.exponentBits - 1) : Nat) : Int) = 2 ^ (spec.exponentBits - 1) := by simp
  unfold Format.minExponent Format.exponentBias Format.mantissaBits
  omega

theorem filled_of_unpack {bits : BitVec spec.numBits} {m : Nat} {e : Int} {positive : 0 < m}
    (unpacked : unpack spec bits = .finite s m e positive) : Filled spec m e := by
  have short := (unpackMantissa bits).isLt
  have least := minExponent_eq spec
  unfold unpack at unpacked
  simp only at unpacked
  split at unpacked
  · split at unpacked <;> cases unpacked
  split at unpacked
  · rename_i subnormal
    split at unpacked
    · cases unpacked
    · cases unpacked
      rw [subnormal, BitVec.toNat_zero]
      exact ⟨by omega, by omega, by omega⟩
  · rename_i normal
    cases unpacked
    have some : (unpackExponent bits).toNat ≠ 0 := fun none =>
      normal (BitVec.toNat_inj.mp (by simpa using none))
    have filled : (1#1 ++ unpackMantissa bits).toNat =
        2 ^ spec.mantissaBitsWithoutImplicit + (unpackMantissa bits).toNat := by
      have joined := Nat.two_pow_add_eq_or_of_lt short 1
      rw [mul_one] at joined
      rw [BitVec.toNat_append, BitVec.toNat_ofNat, Nat.shiftLeft_eq, joined]
      simp
    exact ⟨by omega, by omega, by omega⟩

/-- A significand at the exponent `least`. -/
def aligned (m : Nat) (e least : Int) : Nat := (decreaseExponent m e least).1

theorem aligned_eq (m : Nat) (e least : Int) : aligned m e least = m * 2 ^ (e - least).toNat :=
  Nat.shiftLeft_eq ..

variable {m₁ m₂ : Nat} {e₁ e₂ : Int}

/-- A number with the smaller exponent is the smaller one. -/
theorem aligned_lt_of_lt (first : Filled spec m₁ e₁) (second : Filled spec m₂ e₂) (less : e₁ < e₂) :
    aligned m₁ e₁ (min e₁ e₂) < aligned m₂ e₂ (min e₁ e₂) := by
  obtain ⟨step, next⟩ : ∃ step : Nat, (e₂ - e₁).toNat = step + 1 :=
    ⟨(e₂ - e₁).toNat - 1, by omega⟩
  rw [min_eq_left less.le, aligned_eq, aligned_eq, sub_self, next]
  calc m₁ * 2 ^ (0 : Int).toNat = m₁ := by simp
    _ < 2 ^ spec.mantissaBitsWithoutImplicit * 2 := by rw [← pow_succ]; exact first.fits
    _ ≤ m₂ * 2 := Nat.mul_le_mul_right 2 (second.fills (by have := first.least; omega))
    _ ≤ m₂ * 2 ^ (step + 1) := Nat.mul_le_mul_left m₂ (by
        rw [pow_succ]
        exact Nat.le_mul_of_pos_left 2 (Nat.two_pow_pos step))

/-- The exponents first and then the significands order as the numbers do. -/
theorem compare_aligned (first : Filled spec m₁ e₁) (second : Filled spec m₂ e₂) :
    (compare e₁ e₂).then (compare m₁ m₂) =
      compare (aligned m₁ e₁ (min e₁ e₂)) (aligned m₂ e₂ (min e₁ e₂)) := by
  rcases lt_trichotomy e₁ e₂ with less | rfl | greater
  · rw [Int.compare_eq_lt.mpr less, Nat.compare_eq_lt.mpr (aligned_lt_of_lt first second less)]
    rfl
  · simp [aligned_eq]
  · have above := aligned_lt_of_lt second first greater
    rw [min_comm] at above
    rw [Int.compare_eq_gt.mpr greater, Nat.compare_eq_gt.mpr above]
    rfl

/-- A number is below another if its signed significand at one exponent is. -/
theorem compare_eq_lt_iff (first : Filled spec m₁ e₁) (second : Filled spec m₂ e₂) (pos₁ : 0 < m₁)
    (pos₂ : 0 < m₂) :
    UnpackedFloat.compare (.finite s m₁ e₁ pos₁) (.finite t m₂ e₂ pos₂) = some .lt ↔
      s.apply (aligned m₁ e₁ (min e₁ e₂)) < t.apply (aligned m₂ e₂ (min e₁ e₂)) := by
  have order := compare_aligned first second
  have above₁ : 0 < aligned m₁ e₁ (min e₁ e₂) := by
    rw [aligned_eq]
    exact Nat.mul_pos pos₁ (Nat.two_pow_pos _)
  have above₂ : 0 < aligned m₂ e₂ (min e₁ e₂) := by
    rw [aligned_eq]
    exact Nat.mul_pos pos₂ (Nat.two_pow_pos _)
  generalize aligned m₁ e₁ (min e₁ e₂) = a₁ at *
  generalize aligned m₂ e₂ (min e₁ e₂) = a₂ at *
  cases s <;> cases t <;>
    simp only [UnpackedFloat.compare, Sign.apply, Option.some.injEq, order, Ordering.swap_eq_lt,
      Nat.compare_eq_gt, Nat.compare_eq_lt, reduceCtorEq, true_iff, false_iff] <;>
    omega

/-- What is zero or no number. -/
def Vanishing : UnpackedFloat → Prop
  | .notANumber | .zero _ => True
  | _ => False

/-- What stands for a finite number uses all the bits it may. -/
def Regular (spec : Format) : UnpackedFloat → Prop
  | .finite _ m e _ => Filled spec m e
  | _ => True

theorem regular_unpack (bits : BitVec spec.numBits) : Regular spec (unpack spec bits) := by
  cases unpacked : unpack spec bits with
  | finite s m e positive => exact filled_of_unpack unpacked
  | _ => trivial

/-- A difference of finite numbers is rounded from the difference of their significands. -/
theorem sub_finite (pos₁ : 0 < m₁) (pos₂ : 0 < m₂) :
    sub spec (.finite s m₁ e₁ pos₁) (.finite t m₂ e₂ pos₂) =
      UnpackedFloat.normalize spec (s.apply (aligned m₁ e₁ (min e₁ e₂)) -
        t.apply (aligned m₂ e₂ (min e₁ e₂))) (min e₁ e₂) .positive := rfl

/-- A number less a greater one is negative. -/
theorem signed_sub_of_lt (first : Regular spec x) (second : Regular spec y)
    (less : UnpackedFloat.compare x y = some .lt) : Signed .negative (sub spec x y) := by
  cases x with
  | notANumber => cases less
  | infinity s =>
    cases y with
    | infinity t => cases s <;> cases t <;> first | rfl | cases less
    | _ => cases s <;> first | rfl | cases less
  | zero s =>
    cases y with
    | notANumber => cases less
    | infinity t | zero t | finite t => cases t <;> first | rfl | cases less
  | finite s m₁ e₁ pos₁ =>
    cases y with
    | notANumber => cases less
    | infinity t => cases s <;> cases t <;> first | rfl | cases less
    | zero t => cases s <;> first | rfl | cases less
    | finite t m₂ e₂ pos₂ =>
      have below := (compare_eq_lt_iff first second pos₁ pos₂).mp less
      rw [sub_finite]
      exact signed_normalize_neg (by omega) _

/-- A number less one that is not greater is positive, or zero, or no number. -/
theorem signed_sub_of_not_lt (first : Regular spec x) (second : Regular spec y)
    (notLess : UnpackedFloat.compare x y ≠ some .lt) :
    Signed .positive (sub spec x y) ∨ Vanishing (sub spec x y) := by
  cases x with
  | notANumber => exact .inr trivial
  | infinity s =>
    cases y with
    | notANumber => exact .inr trivial
    | infinity t =>
      cases s <;> cases t <;>
        first | exact .inl rfl | exact .inr trivial | exact absurd rfl notLess
    | _ => cases s <;> first | exact .inl rfl | exact absurd rfl notLess
  | zero s =>
    cases y with
    | notANumber => exact .inr trivial
    | zero t => cases s <;> cases t <;> exact .inr trivial
    | infinity t | finite t => cases t <;> first | exact .inl rfl | exact absurd rfl notLess
  | finite s m₁ e₁ pos₁ =>
    cases y with
    | notANumber => exact .inr trivial
    | infinity t => cases t <;> first | exact .inl rfl | (cases s <;> exact absurd rfl notLess)
    | zero t => cases s <;> first | exact .inl rfl | exact absurd rfl notLess
    | finite t m₂ e₂ pos₂ =>
      have notBelow := mt (compare_eq_lt_iff first second pos₁ pos₂).mpr notLess
      rw [sub_finite]
      exact .inl (signed_normalize_nonneg (by omega) _)

/-! ## What vanishes -/

theorem vanishing_repack (vanishing : Vanishing x) : Vanishing (unpack spec (pack spec x)) := by
  cases x with
  | notANumber =>
    simp only [pack, unpack_packedNaN]
    trivial
  | zero s =>
    simp only [pack, unpack_packedZero]
    trivial
  | infinity s => exact vanishing.elim
  | finite s m e positive => exact vanishing.elim

theorem vanishing_sub_self (x : UnpackedFloat) : Vanishing (sub spec x x) := by
  cases x with
  | notANumber => trivial
  | infinity s => cases s <;> trivial
  | zero s => cases s <;> trivial
  | finite s m e positive =>
    rw [sub_finite, sub_self]
    trivial

theorem vanishing_sub_zero (s t : Sign) : Vanishing (sub spec (.zero s) (.zero t)) := by
  cases s <;> cases t <;> trivial

/-- What is packed is finite again only if it was. -/
theorem isFinite_of_repack (finite : (unpack spec (pack spec x)).isFinite = true) :
    x.isFinite = true := by
  cases x with
  | notANumber =>
    rw [pack, unpack_packedNaN] at finite
    exact finite
  | infinity s =>
    rw [pack, packedInfinity, Binary.isFinite_unpack, unpackExponent_packComponents] at finite
    exact absurd rfl finite
  | _ => rfl

theorem not_isFinite_div (vanishing : Vanishing y) : (div spec x y).isFinite = false := by
  cases y with
  | notANumber | zero s => cases x <;> rfl
  | infinity s => exact vanishing.elim
  | finite s m e positive => exact vanishing.elim

end

/-! ## Doubles -/

section

variable {s t : Sign} {a b : Float}

def HasSign (s : Sign) (a : Float) : Prop := Signed s a.toModel.unpack

def Vanishes (a : Float) : Prop := Vanishing a.toModel.unpack

theorem exists_hasSign (a : Float) : ∃ s, HasSign s a := by
  unfold HasSign
  cases a.toModel.unpack with
  | notANumber => exact ⟨.positive, trivial⟩
  | infinity s => exact ⟨s, rfl⟩
  | zero s => exact ⟨s, rfl⟩
  | finite s m e positive => exact ⟨s, rfl⟩

theorem hasSign_mul (first : HasSign s a) (second : HasSign t b) : HasSign (s * t) (a * b) :=
  signed_repack (signed_mul first second)

theorem hasSign_div (first : HasSign s a) (second : HasSign t b) : HasSign (s / t) (a / b) :=
  signed_repack (signed_div first second)

theorem hasSign_add (first : HasSign .positive a) (second : HasSign .positive b) :
    HasSign .positive (a + b) := signed_repack (signed_add first second)

theorem hasSign_sqrt (signed : HasSign .positive a) : HasSign .positive a.sqrt :=
  signed_repack (signed_sqrt signed)

/-- A square is not negative. -/
theorem hasSign_mul_self (a : Float) : HasSign .positive (a * a) := by
  obtain ⟨s, signed⟩ := exists_hasSign a
  have square := hasSign_mul signed signed
  cases s <;> exact square

theorem lt_iff_compare :
    a < b ↔ UnpackedFloat.compare a.toModel.unpack b.toModel.unpack = some .lt := by
  show decide (a.toModel < b.toModel) = true ↔ _
  rw [decide_eq_true_iff]
  exact beq_iff_eq

theorem le_iff_compare :
    a ≤ b ↔ (UnpackedFloat.compare a.toModel.unpack b.toModel.unpack).any (·.isLE) = true := by
  show decide (a.toModel ≤ b.toModel) = true ↔ _
  rw [decide_eq_true_iff]
  exact Iff.rfl

theorem hasSign_sub_of_lt (less : a < b) : HasSign .negative (a - b) :=
  signed_repack (signed_sub_of_lt (regular_unpack _) (regular_unpack _) (lt_iff_compare.mp less))

theorem hasSign_sub_of_not_lt (notLess : ¬ a < b) : HasSign .positive (a - b) ∨ Vanishes (a - b) :=
  (signed_sub_of_not_lt (regular_unpack _) (regular_unpack _)
    (mt lt_iff_compare.mpr notLess)).imp signed_repack vanishing_repack

/-- Two numbers are one and the same, or equal as numbers, as a zero and its negative are. -/
def Coincide (a b : Float) : Prop := a = b ∨ (a == b) = true

/-- What coincides has no difference, or none that is a number. -/
theorem vanishes_sub_of_coincide (same : Coincide a b) : Vanishes (a - b) := by
  have itself : Vanishes (a - a) := vanishing_repack (vanishing_sub_self _)
  rcases same with rfl | equal
  · exact itself
  · obtain ⟨-, -, rfl | ⟨rfl, rfl⟩ | ⟨rfl, rfl⟩⟩ := Float.beq_iff_ne_nan_and_eq.mp equal
    · exact itself
    · exact vanishing_repack (vanishing_sub_zero .positive .negative)
    · exact vanishing_repack (vanishing_sub_zero .negative .positive)

/-- Nothing finite is divided by zero. -/
theorem isFinite_div_of_vanishes (vanishes : Vanishes b) : (a / b).isFinite = false := by
  cases finite : (a / b).isFinite with
  | false => rfl
  | true => exact (isFinite_of_repack finite).symm.trans (not_isFinite_div vanishes)

theorem nonneg_of_hasSign (signed : HasSign .positive a) (finite : a.isFinite = true) : 0 ≤ a := by
  have zero : (0 : Float).toModel.unpack = .zero .positive := by rfl
  unfold HasSign at signed
  change a.toModel.unpack.isFinite = true at finite
  rw [le_iff_compare, zero]
  cases unpacked : a.toModel.unpack with
  | notANumber | infinity => rw [unpacked] at finite; cases finite
  | zero s => rfl
  | finite s m e positive =>
    rw [unpacked] at signed
    cases signed
    rfl

theorem nonpos_of_hasSign (signed : HasSign .negative a) (finite : a.isFinite = true) : a ≤ 0 := by
  have zero : (0 : Float).toModel.unpack = .zero .positive := by rfl
  unfold HasSign at signed
  change a.toModel.unpack.isFinite = true at finite
  rw [le_iff_compare, zero]
  cases unpacked : a.toModel.unpack with
  | notANumber | infinity => rw [unpacked] at finite; cases finite
  | zero s => rfl
  | finite s m e positive =>
    rw [unpacked] at signed
    cases signed
    rfl

end

end RadarOverlay
