/-!
Floating-point numbers as exact values. A number read off its bits is a signed
whole number times a power of two; writing one rounds to the nearest number of the
format, a tie going to the even significand. Rounding to whole numbers and changes
of format are done on exact values, so they can be reasoned about without the
machine's floating-point unit.
-/
namespace RadarOverlay

/-- The exact value of a floating-point number. -/
inductive Binary where
  | undefined
  | infinite (negative : Bool)
  /-- The number `± significand * 2 ^ exponent`. -/
  | finite (negative : Bool) (significand : Nat) (exponent : Int)
  deriving DecidableEq, Repr

namespace Binary

/-- A power of two, written so that it is computed on literals. -/
def powerOfTwo (n : Nat) : Nat := Nat.pow 2 n

/-- A binary interchange format. -/
structure Format where
  /-- Bits of the significand field, without the implied leading bit. -/
  fraction : Nat
  exponent : Nat

/-- The 32-bit format. -/
def Format.single : Format := ⟨23, 8⟩

/-- The 64-bit format. -/
def Format.double : Format := ⟨52, 11⟩

namespace Format

/-- The exponent of the last bit of the smallest numbers. -/
def leastExponent (f : Format) : Int := 3 - powerOfTwo (f.exponent - 1) - (f.fraction + 1 : Nat)

/-- The bits of the positive infinity: an exponent field of ones alone. -/
def infinityBits (f : Format) : Nat := (powerOfTwo f.exponent - 1) * powerOfTwo f.fraction

/-- The weight of the sign bit, which is the highest one. -/
def signBit (f : Format) : Nat := powerOfTwo (f.fraction + f.exponent)

end Format

/-- The exact value that the bits of a number stand for. Bits above the format's are ignored. -/
def decode (f : Format) (bits : Nat) : Binary :=
  let negative := f.signBit ≤ bits % (2 * f.signBit)
  let magnitude := bits % f.signBit
  let biased := magnitude / powerOfTwo f.fraction
  let fraction := magnitude % powerOfTwo f.fraction
  if f.infinityBits < magnitude then .undefined
  else if magnitude = f.infinityBits then .infinite negative
  else if biased = 0 then .finite negative fraction f.leastExponent
  else .finite negative (powerOfTwo f.fraction + fraction) (f.leastExponent + (biased - 1 : Nat))

/-- `n / 2 ^ shift` rounded to the nearest whole number, a tie to the even one. -/
def shiftNearestEven (n shift : Nat) : Nat :=
  let quotient := n / powerOfTwo shift
  let rest := 2 * (n % powerOfTwo shift)
  if rest < powerOfTwo shift then quotient
  else if powerOfTwo shift < rest then quotient + 1
  else quotient + quotient % 2

/-- The bits of the number of the format that is nearest to `significand * 2 ^ exponent`. -/
def magnitudeBits (f : Format) (significand : Nat) (exponent : Int) : Nat :=
  if significand = 0 then 0 else
    let last := max (exponent + significand.log2 - f.fraction) f.leastExponent
    let rounded :=
      if last ≤ exponent then significand * powerOfTwo (exponent - last).toNat
      else shiftNearestEven significand (last - exponent).toNat
    min ((last - f.leastExponent).toNat * powerOfTwo f.fraction + rounded) f.infinityBits

/-- The bits of the number of the format that is nearest to a value. -/
def encode (f : Format) : Binary → Nat
  | .undefined => f.infinityBits + powerOfTwo (f.fraction - 1)
  | .infinite negative => (if negative then f.signBit else 0) + f.infinityBits
  | .finite negative significand exponent =>
    (if negative then f.signBit else 0) + magnitudeBits f significand exponent

/-- The exact value of a 64-bit number. -/
def ofDouble (x : Float) : Binary := decode .double x.toBits.toNat

/-- The exact value of a 32-bit number. -/
def ofSingle (x : Float32) : Binary := decode .single x.toBits.toNat

/-- The 64-bit number nearest to a value. -/
def toDouble (b : Binary) : Float := Float.ofBits (UInt64.ofNat (encode .double b))

/-- The 32-bit number nearest to a value. -/
def toSingle (b : Binary) : Float32 := Float32.ofBits (UInt32.ofNat (encode .single b))

/-- The least whole number that is not below `significand * 2 ^ exponent`. -/
def ceilingMagnitude (significand : Nat) (exponent : Int) : Nat :=
  if 0 ≤ exponent then significand * powerOfTwo exponent.toNat
  else (significand + (powerOfTwo (-exponent).toNat - 1)) / powerOfTwo (-exponent).toNat

/-- `significand * 2 ^ exponent` rounded to the nearest whole number, a half upwards. -/
def nearestMagnitude (significand : Nat) (exponent : Int) : Nat :=
  if 0 ≤ exponent then significand * powerOfTwo exponent.toNat
  else (2 * significand + powerOfTwo (-exponent).toNat) / powerOfTwo ((-exponent).toNat + 1)

/-- The nearest whole number, a half going away from zero; an infinity has none. -/
def nearest? : Binary → Option Int
  | .undefined => none
  | .infinite _ => none
  | .finite negative significand exponent =>
    let magnitude := nearestMagnitude significand exponent
    some (if negative then -magnitude else magnitude)

end Binary

/-- A 32-bit number as a 64-bit one; nothing is lost. -/
def widen (x : Float32) : Float := (Binary.ofSingle x).toDouble

/-- A 64-bit number rounded to a 32-bit one. -/
def narrow (x : Float) : Float32 := (Binary.ofDouble x).toSingle

end RadarOverlay
