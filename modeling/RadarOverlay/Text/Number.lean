/-!
Whole numbers as text. Numbers are written in decimal without leading zeros, with a
minus sign when negative, or in lower-case hexadecimal. They are read by an exact
grammar: an optional sign, then one or more ASCII digits. Main statement:
`readInt_intDigits` says that what is written is read back.
-/
namespace RadarOverlay.Text

/-- The decimal digits of a number, without leading zeros. -/
def natDigits (n : Nat) : List Char := Nat.toDigits 10 n

def natText (n : Nat) : String := String.ofList (natDigits n)

/-- The decimal digits of an integer, after a minus sign if it is negative. -/
def intDigits : Int → List Char
  | .ofNat n => natDigits n
  | .negSucc n => '-' :: natDigits (n + 1)

def intText (n : Int) : String := String.ofList (intDigits n)

def hexText (n : Nat) : String := String.ofList (Nat.toDigits 16 n)

/-- A number of exactly `width` lower-case hexadecimal digits; higher digits are dropped. -/
def fixedHex (width n : Nat) : String :=
  String.ofList ((List.range width).reverse.map fun place =>
    Nat.digitChar (n / Nat.pow 16 place % 16))

/-- One or more ASCII digits, read as a number. -/
def readNat : List Char → Option Nat
  | [] => none
  | digits => if digits.all Char.isDigit then some (Nat.ofDigitChars 10 digits 0) else none

/-- An optional sign and one or more ASCII digits, read as an integer. -/
def readInt : List Char → Option Int
  | '+' :: digits => (readNat digits).map Int.ofNat
  | '-' :: digits => (readNat digits).map fun n => -Int.ofNat n
  | digits => (readNat digits).map Int.ofNat

theorem natDigits_ne_nil (n : Nat) : natDigits n ≠ [] := by
  simp [natDigits]

theorem isDigit_of_mem_natDigits {n : Nat} {c : Char} (h : c ∈ natDigits n) : c.isDigit = true :=
  Nat.isDigit_of_mem_toDigits (by decide) (by decide) h

theorem readNat_natDigits (n : Nat) : readNat (natDigits n) = some n := by
  have digits : (natDigits n).all Char.isDigit = true :=
    List.all_eq_true.2 fun _ h => isDigit_of_mem_natDigits h
  unfold readNat
  split
  · rename_i h
    exact absurd h (natDigits_ne_nil n)
  · rw [if_pos digits]
    simp [natDigits, Nat.ofDigitChars_toDigits]

/-- A written integer is read back. -/
theorem readInt_intDigits (n : Int) : readInt (intDigits n) = some n := by
  cases n with
  | ofNat n =>
    simp only [intDigits]
    cases h : natDigits n with
    | nil => exact absurd h (natDigits_ne_nil n)
    | cons c rest =>
      have digit : c.isDigit = true := isDigit_of_mem_natDigits (n := n) (by simp [h])
      have read := readNat_natDigits n
      rw [h] at read
      unfold readInt
      split
      · rename_i heq
        cases heq
        simp at digit
      · rename_i heq
        cases heq
        simp at digit
      · simp [read]
  | negSucc n =>
    simp [intDigits, readInt, readNat_natDigits]
    omega

end RadarOverlay.Text
