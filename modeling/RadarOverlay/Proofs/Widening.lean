import RadarOverlay.Proofs.FloatBits

/-!
From the narrow format to the wide one and back. A finite number of a format is a
significand with an exponent, in one way only; widening fills the significand up with
zeros, and narrowing takes them away. Main statement: `narrow_widen`.
-/
namespace RadarOverlay.Binary

theorem powerOfTwo_pos (n : Nat) : 0 < powerOfTwo n := Nat.two_pow_pos n

theorem powerOfTwo_add (m n : Nat) : powerOfTwo (m + n) = powerOfTwo m * powerOfTwo n :=
  Nat.pow_add 2 m n

theorem powerOfTwo_succ (n : Nat) : powerOfTwo (n + 1) = 2 * powerOfTwo n :=
  Nat.pow_succ'

theorem log2_bounds {n : Nat} (positive : n ≠ 0) :
    powerOfTwo n.log2 ≤ n ∧ n < 2 * powerOfTwo n.log2 := by
  rw [← powerOfTwo_succ]
  exact (Nat.log2_eq_iff positive).mp rfl

theorem log2_eq {n places : Nat} (atLeast : powerOfTwo places ≤ n)
    (below : n < 2 * powerOfTwo places) : n.log2 = places := by
  have positive : n ≠ 0 := by have := powerOfTwo_pos places; omega
  rw [← powerOfTwo_succ] at below
  exact (Nat.log2_eq_iff positive).mpr ⟨atLeast, below⟩

/-- The significand and exponent of a finite number of a format: the significand has all its bits,
or the exponent is the least there is. -/
structure Canonical (f : Format) (significand : Nat) (exponent : Int) : Prop where
  bounded : significand < 2 * powerOfTwo f.fraction
  least : f.leastExponent ≤ exponent
  filled : powerOfTwo f.fraction ≤ significand ∨ exponent = f.leastExponent

/-- The bits of a canonical number without its sign. -/
def Format.bitsOf (f : Format) (significand : Nat) (exponent : Int) : Nat :=
  (exponent - f.leastExponent).toNat * powerOfTwo f.fraction + significand

variable {f : Format} {significand : Nat} {exponent : Int} {bits : Nat}

/-- Finite bits stand for a canonical number, whose bits they are. -/
theorem decode_finite (finite : f.magnitude bits < f.infinityBits) :
    ∃ significand exponent, Canonical f significand exponent ∧
      decode f bits = .finite (f.signBit ≤ bits % (2 * f.signBit)) significand exponent ∧
      f.magnitude bits = f.bitsOf significand exponent := by
  have split := Nat.div_add_mod (f.magnitude bits) (powerOfTwo f.fraction)
  have short := Nat.mod_lt (f.magnitude bits) (powerOfTwo_pos f.fraction)
  unfold Format.magnitude at *
  simp only [decode, if_neg (Nat.lt_asymm finite), if_neg (Nat.ne_of_lt finite)]
  by_cases low : bits % f.signBit / powerOfTwo f.fraction = 0
  · rw [if_pos low]
    rw [low, Nat.mul_zero, Nat.zero_add] at split
    refine ⟨_, _, ⟨by omega, Int.le_refl _, .inr rfl⟩, rfl, ?_⟩
    simp [Format.bitsOf, split]
  · rw [if_neg low]
    refine ⟨_, _, ⟨by omega, by omega, .inl (Nat.le_add_right ..)⟩, rfl, ?_⟩
    obtain ⟨places, biased⟩ := Nat.exists_eq_succ_of_ne_zero low
    have above : (f.leastExponent + ((places.succ - 1 : Nat) : Int) - f.leastExponent).toNat =
        places := by omega
    rw [biased, Nat.mul_succ, Nat.mul_comm] at split
    rw [Format.bitsOf, biased, above]
    omega

theorem infinityBits_lt_signBit (f : Format) : f.infinityBits < f.signBit := by
  have fields := powerOfTwo_add f.fraction f.exponent
  have full := powerOfTwo_pos f.exponent
  rw [Nat.mul_comm] at fields
  rw [Format.infinityBits, Format.signBit, fields]
  exact Nat.mul_lt_mul_of_pos_right (Nat.sub_lt full Nat.one_pos) (powerOfTwo_pos f.fraction)

/-- The bits of a number with a sign. -/
def Format.signed (f : Format) (negative : Bool) (magnitude : Nat) : Nat :=
  (if negative then f.signBit else 0) + magnitude

theorem magnitude_signed {magnitude : Nat} (negative : Bool) (below : magnitude < f.signBit) :
    f.magnitude (f.signed negative magnitude) = magnitude := by
  unfold Format.magnitude Format.signed
  cases negative <;> simp [Nat.mod_eq_of_lt below]

theorem sign_signed {magnitude : Nat} (negative : Bool) (below : magnitude < f.signBit) :
    decide (f.signBit ≤ f.signed negative magnitude % (2 * f.signBit)) = negative := by
  unfold Format.signed
  rw [Nat.mod_eq_of_lt (by split <;> omega)]
  cases negative <;> simp [below]

/-- The bits of a canonical number stand for it. -/
theorem decode_bitsOf (canonical : Canonical f significand exponent)
    (finite : f.bitsOf significand exponent < f.infinityBits) (negative : Bool) :
    decode f (f.signed negative (f.bitsOf significand exponent)) =
      .finite negative significand exponent := by
  have below := Nat.lt_trans finite (infinityBits_lt_signBit f)
  have unsigned := magnitude_signed negative below
  unfold Format.magnitude at unsigned
  obtain ⟨bounded, least, filled⟩ := canonical
  simp only [decode, unsigned, sign_signed negative below, if_neg (Nat.lt_asymm finite),
    if_neg (Nat.ne_of_lt finite)]
  unfold Format.bitsOf
  by_cases short : significand < powerOfTwo f.fraction
  · obtain rfl := filled.resolve_left (Nat.not_le.mpr short)
    simp [Nat.div_eq_of_lt short, Nat.mod_eq_of_lt short]
  · obtain ⟨rest, rfl⟩ := Nat.exists_eq_add_of_le (Nat.not_lt.mp short)
    have regroup (k : Nat) : k * powerOfTwo f.fraction + (powerOfTwo f.fraction + rest) =
        rest + (k + 1) * powerOfTwo f.fraction := by rw [Nat.succ_mul]; omega
    have inner : rest < powerOfTwo f.fraction := by omega
    rw [regroup, Nat.add_mul_div_right _ _ (powerOfTwo_pos _), Nat.add_mul_mod_self_right,
      Nat.div_eq_of_lt inner, Nat.mod_eq_of_lt inner, if_neg (by omega)]
    congr 1
    omega

theorem log2_trailing (positive : significand ≠ 0) (zeros : Nat) :
    (significand * powerOfTwo zeros).log2 = significand.log2 + zeros := by
  obtain ⟨atLeast, below⟩ := log2_bounds positive
  apply log2_eq
  · rw [powerOfTwo_add]
    exact Nat.mul_le_mul_right _ atLeast
  · rw [powerOfTwo_add, ← Nat.mul_assoc]
    exact Nat.mul_lt_mul_of_pos_right below (powerOfTwo_pos zeros)

theorem shiftNearestEven_trailing (n zeros : Nat) :
    shiftNearestEven (n * powerOfTwo zeros) zeros = n := by
  have positive := powerOfTwo_pos zeros
  simp only [shiftNearestEven, Nat.mul_mod_left, Nat.mul_div_cancel _ positive]
  rw [if_pos (by omega)]

/-- The last place of a canonical number is its exponent. -/
theorem last_canonical (canonical : Canonical f significand exponent)
    (positive : significand ≠ 0) :
    max (exponent + significand.log2 - f.fraction) f.leastExponent = exponent := by
  obtain ⟨bounded, least, filled⟩ := canonical
  by_cases long : powerOfTwo f.fraction ≤ significand
  · rw [log2_eq long bounded]
    omega
  · obtain rfl := filled.resolve_left long
    have places : significand.log2 < f.fraction := (Nat.log2_lt positive).mpr (Nat.not_le.mp long)
    omega

/-- A canonical number has the same bits with zeros behind its significand. -/
theorem magnitudeBits_trailing (canonical : Canonical f significand exponent)
    (positive : significand ≠ 0) (zeros : Nat)
    (finite : f.bitsOf significand exponent < f.infinityBits) :
    magnitudeBits f (significand * powerOfTwo zeros) (exponent - zeros) =
      f.bitsOf significand exponent := by
  have last := last_canonical canonical positive
  have same : exponent - (zeros : Int) + (significand.log2 + zeros : Nat) - f.fraction =
      exponent + significand.log2 - f.fraction := by omega
  have shifted : significand * powerOfTwo zeros ≠ 0 :=
    Nat.mul_ne_zero positive (Nat.ne_of_gt (powerOfTwo_pos zeros))
  simp only [magnitudeBits, if_neg shifted, log2_trailing positive, same, last]
  have rounded : (if exponent ≤ exponent - (zeros : Int) then
      significand * powerOfTwo zeros * powerOfTwo (exponent - zeros - exponent).toNat
      else shiftNearestEven (significand * powerOfTwo zeros)
        (exponent - (exponent - zeros)).toNat) = significand := by
    cases zeros with
    | zero => simp [powerOfTwo]
    | succ places =>
      have apart : (exponent - (exponent - ((places + 1 : Nat) : Int))).toNat = places + 1 := by
        omega
      rw [if_neg (by omega), apart, shiftNearestEven_trailing]
  rw [rounded]
  exact Nat.min_eq_left (Nat.le_of_lt finite)

/-- A significand with fewer bits than the format has is filled up with zeros. -/
theorem magnitudeBits_filled {zeros : Nat} (positive : significand ≠ 0)
    (filled : significand.log2 + zeros = f.fraction) (least : f.leastExponent ≤ exponent - zeros)
    (finite : f.bitsOf (significand * powerOfTwo zeros) (exponent - zeros) < f.infinityBits) :
    magnitudeBits f significand exponent =
      f.bitsOf (significand * powerOfTwo zeros) (exponent - zeros) := by
  have last :
      max (exponent + significand.log2 - f.fraction) f.leastExponent = exponent - zeros := by
    omega
  have places : (exponent - (exponent - (zeros : Int))).toNat = zeros := by omega
  simp only [magnitudeBits, if_neg positive, last, places]
  rw [if_pos (by omega)]
  exact Nat.min_eq_left (Nat.le_of_lt finite)

theorem bitsOf_lt_infinityBits (bounded : significand < 2 * powerOfTwo f.fraction)
    (room : (exponent - f.leastExponent).toNat + 2 < powerOfTwo f.exponent) :
    f.bitsOf significand exponent < f.infinityBits := by
  have next : ((exponent - f.leastExponent).toNat + 2) * powerOfTwo f.fraction ≤ f.infinityBits :=
    Nat.mul_le_mul_right _ (by omega)
  rw [Nat.add_mul] at next
  unfold Format.bitsOf
  omega

theorem exponent_of_finite (finite : f.bitsOf significand exponent < f.infinityBits) :
    (exponent - f.leastExponent).toNat + 1 < powerOfTwo f.exponent := by
  have below := Nat.lt_of_mul_lt_mul_right (Nat.lt_of_le_of_lt (Nat.le_add_right ..) finite)
  omega

/-- A finite number of the narrow format is one of the wide format, and back again. -/
theorem widened (canonical : Canonical .single significand exponent)
    (finite : Format.single.bitsOf significand exponent < Format.single.infinityBits) :
    ∃ filled lower, Canonical .double filled lower ∧
      Format.double.bitsOf filled lower < Format.double.infinityBits ∧
      magnitudeBits .double significand exponent = Format.double.bitsOf filled lower ∧
      magnitudeBits .single filled lower = Format.single.bitsOf significand exponent := by
  obtain ⟨bounded, -, exact⟩ := id canonical
  by_cases zero : significand = 0
  · subst zero
    obtain rfl := exact.resolve_left (by decide)
    exact ⟨0, Format.double.leastExponent, ⟨by decide, Int.le_refl _, .inr rfl⟩, by decide,
      by decide, by decide⟩
  · have short : significand.log2 ≤ 23 := Nat.le_of_lt_succ ((Nat.log2_lt zero).mpr bounded)
    obtain ⟨zeros, places⟩ : ∃ zeros, significand.log2 + zeros = Format.double.fraction :=
      ⟨52 - significand.log2, Nat.add_sub_of_le (Nat.le_trans short (by decide))⟩
    obtain ⟨atLeast, below⟩ := log2_bounds zero
    replace atLeast := Nat.mul_le_mul_right (powerOfTwo zeros) atLeast
    replace below := Nat.mul_lt_mul_of_pos_right below (powerOfTwo_pos zeros)
    rw [Nat.mul_assoc, ← powerOfTwo_add, places] at below
    rw [← powerOfTwo_add, places] at atLeast
    -- The wide format has exponents to spare at both ends.
    have range := exponent_of_finite finite
    have least := canonical.least
    have exponents : Format.single.leastExponent = -149 ∧ Format.double.leastExponent = -1074 ∧
        powerOfTwo Format.single.exponent = 256 ∧ powerOfTwo Format.double.exponent = 2048 ∧
        Format.double.fraction = 52 := by decide
    have lower : Format.double.leastExponent ≤ exponent - zeros := by omega
    have finite' : Format.double.bitsOf (significand * powerOfTwo zeros) (exponent - zeros) <
        Format.double.infinityBits := bitsOf_lt_infinityBits below (by omega)
    exact ⟨significand * powerOfTwo zeros, exponent - zeros, ⟨below, lower, .inl atLeast⟩,
      finite', magnitudeBits_filled zero places lower finite',
      magnitudeBits_trailing canonical zero zeros finite⟩

/-- The bits of a machine word are a sign and a magnitude. -/
theorem signed_magnitude (f : Format) {bits : Nat} (word : bits < 2 * f.signBit) :
    f.signed (f.signBit ≤ bits % (2 * f.signBit)) (f.magnitude bits) = bits := by
  rw [Nat.mod_eq_of_lt word, Format.signed, Format.magnitude]
  by_cases negative : f.signBit ≤ bits
  · simp only [negative, decide_true, if_true]
    rw [Nat.mod_eq_sub_mod negative, Nat.mod_eq_of_lt (by omega)]
    omega
  · simp only [negative, decide_false]
    rw [Nat.mod_eq_of_lt (by omega)]
    simp

/-- A finite number of the wide format keeps the bits it is made of. -/
theorem toNat_toBits_signed (negative : Bool) {magnitude : Nat}
    (finite : magnitude < Format.double.infinityBits) :
    (Float.ofBits (UInt64.ofNat (Format.double.signed negative magnitude))).toBits.toNat =
      Format.double.signed negative magnitude := by
  have below := Nat.lt_trans finite (infinityBits_lt_signBit .double)
  have sign : Format.double.signBit = 0x8000000000000000 := by decide
  have word : Format.double.signed negative magnitude < UInt64.size := by
    unfold Format.signed
    cases negative <;> simp [UInt64.size] <;> omega
  have kept := UInt64.toNat_ofNat_of_lt' word
  rw [double_toBits_ofBits, kept]
  rw [kept, magnitude_signed negative below]
  exact Nat.le_of_lt finite

/-- A finite number stays finite when it is widened, and is the same again when it is narrowed. -/
theorem narrow_widen {x : Float32} (finite : x.isFinite = true) :
    (widen x).isFinite = true ∧ narrow (widen x) = x := by
  obtain ⟨significand, exponent, canonical, decoded, same⟩ :=
    decode_finite ((single_isFinite_iff x).mp finite)
  rw [single_isFinite_iff, same] at finite
  obtain ⟨filled, lower, canonical', finite', wide, narrowed⟩ := widened canonical finite
  have below := Nat.lt_trans finite' (infinityBits_lt_signBit .double)
  generalize signed : decide (Format.single.signBit ≤ _) = negative at decoded
  have bits : (widen x).toBits.toNat =
      Format.double.signed negative (Format.double.bitsOf filled lower) := by
    rw [widen, ofSingle, decoded, toDouble, encode, wide]
    exact toNat_toBits_signed negative finite'
  refine ⟨?_, ?_⟩
  · rwa [double_isFinite_iff, bits, magnitude_signed negative below]
  · rw [narrow, ofDouble, bits, decode_bitsOf canonical' finite', toSingle, encode, narrowed,
      ← same]
    have back := signed_magnitude .single x.toBits.toNat_lt
    rw [signed, Format.signed] at back
    rw [back, UInt32.ofNat_toNat, Float32.ofBits_toBits]

end RadarOverlay.Binary
