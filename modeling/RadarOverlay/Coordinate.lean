/-!
Pixel coordinates are signed 32-bit words. A sum or difference that leaves the
range is an error that names the operation; it never wraps. Main statements:
`add_eq_ok_iff` and `sub_eq_ok_iff` say that a checked operation answers exactly
when the exact result fits, and then with that result.
-/
namespace RadarOverlay

/-- The checked operation whose exact result left the 32-bit range first. -/
inductive Overflow where
  | add
  | subtract
  deriving DecidableEq, Repr

/-- An overflow as the run that stopped at it reports it. -/
def Overflow.message : Overflow → String
  | .add => "attempt to add with overflow"
  | .subtract => "attempt to subtract with overflow"

namespace Coordinate

/-- An integer is in range when a signed 32-bit word holds it. -/
def InRange (n : Int) : Prop := -0x80000000 ≤ n ∧ n < 0x80000000

instance (n : Int) : Decidable (InRange n) :=
  inferInstanceAs (Decidable (-0x80000000 ≤ n ∧ n < 0x80000000))

/-- The word for `n`, or the overflow of the operation that produced `n`. -/
def ofExact (operation : Overflow) (n : Int) : Except Overflow Int32 :=
  if InRange n then .ok (Int32.ofInt n) else .error operation

/-- The checked sum. -/
def add (a b : Int32) : Except Overflow Int32 := ofExact .add (a.toInt + b.toInt)

/-- The checked difference. -/
def sub (a b : Int32) : Except Overflow Int32 := ofExact .subtract (a.toInt - b.toInt)

def max (a b : Int32) : Int32 := if a.toInt ≤ b.toInt then b else a

def min (a b : Int32) : Int32 := if a.toInt ≤ b.toInt then a else b

/-- The nearest word to an integer: what lies outside the range becomes its end. -/
def saturate (n : Int) : Int32 :=
  if n < -0x80000000 then Int32.minValue
  else if 0x80000000 ≤ n then Int32.maxValue
  else Int32.ofInt n

theorem inRange_toInt (a : Int32) : InRange a.toInt :=
  ⟨Int32.le_toInt a, Int32.toInt_lt a⟩

/-- A word that stands for an integer in range has that value. -/
theorem toInt_ofInt_of_inRange {n : Int} (fits : InRange n) : (Int32.ofInt n).toInt = n :=
  Int32.toInt_ofInt_of_le fits.1 fits.2

theorem ofExact_eq_ok_iff {operation : Overflow} {n : Int} {c : Int32} :
    ofExact operation n = .ok c ↔ c.toInt = n := by
  unfold ofExact
  constructor
  · intro h
    split at h
    · rename_i fits
      cases h
      exact toInt_ofInt_of_inRange fits
    · cases h
  · rintro rfl
    simp [inRange_toInt c]

theorem ofExact_eq_error_iff {operation other : Overflow} {n : Int} :
    ofExact operation n = .error other ↔ ¬ InRange n ∧ operation = other := by
  unfold ofExact
  split <;> simp_all

/-- A sum answers exactly when it fits, and then with the exact sum. -/
theorem add_eq_ok_iff {a b c : Int32} : add a b = .ok c ↔ c.toInt = a.toInt + b.toInt :=
  ofExact_eq_ok_iff

/-- A difference answers exactly when it fits, and then with the exact difference. -/
theorem sub_eq_ok_iff {a b c : Int32} : sub a b = .ok c ↔ c.toInt = a.toInt - b.toInt :=
  ofExact_eq_ok_iff

/-- Every integer between the values of two words is the value of a word. -/
theorem exists_between (a b : Int32) {n : Int} (atLeast : a.toInt ≤ n) (atMost : n ≤ b.toInt) :
    ∃ c : Int32, c.toInt = n :=
  ⟨Int32.ofInt n, toInt_ofInt_of_inRange
    ⟨Int.le_trans (Int32.le_toInt a) atLeast, Int.lt_of_le_of_lt atMost (Int32.toInt_lt b)⟩⟩

theorem toInt_max (a b : Int32) : (max a b).toInt = Max.max a.toInt b.toInt := by
  unfold max
  split <;> omega

theorem toInt_min (a b : Int32) : (min a b).toInt = Min.min a.toInt b.toInt := by
  unfold min
  split <;> omega

/-- What saturates is brought between the least and the largest word. -/
theorem toInt_saturate (n : Int) :
    (saturate n).toInt = Max.max (Min.min n 2147483647) (-2147483648) := by
  have least : Int32.minValue.toInt = -2147483648 := by decide
  have most : Int32.maxValue.toInt = 2147483647 := by decide
  unfold saturate
  split
  · omega
  · split
    · omega
    · rw [toInt_ofInt_of_inRange ⟨by omega, by omega⟩]
      omega

end Coordinate

/-- Computations in a row answer when each of them does. -/
theorem bind_eq_ok_iff {α β : Type} {x : Except Overflow α} {f : α → Except Overflow β} {b : β} :
    x >>= f = .ok b ↔ ∃ a, x = .ok a ∧ f a = .ok b := by
  cases x with
  | ok a => exact ⟨fun answers => ⟨a, rfl, answers⟩, by rintro ⟨_, ⟨⟩, answers⟩; exact answers⟩
  | error cause => exact ⟨nofun, by rintro ⟨_, ⟨⟩, -⟩⟩

end RadarOverlay
