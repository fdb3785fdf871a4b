import RadarOverlay.Text.Blank
import RadarOverlay.Text.Quoted
import RadarOverlay.Coordinate

/-!
The settings kept for one surface: the target aerodrome and the two coordinates of
the badge's anchor, each a text under a key. A coordinate is read by an exact
grammar: white space around an optional sign and ASCII digits that denote a 32-bit
number. Main statement: `readCoordinate_coordinateText` says that a written coordinate
is read back.
-/
namespace RadarOverlay

/-- A key of the settings store, with the description the host shows for it. -/
structure SettingKey where
  key : String
  description : String
  deriving DecidableEq, Repr

namespace SettingKey

def aerodrome : SettingKey := ⟨"aerodrome", "Active aerodrome"⟩

/-- The anchor's distance from the right edge. -/
def menuX : SettingKey := ⟨"menuX", "Menu X position"⟩

/-- The anchor's distance from the top edge. -/
def menuY : SettingKey := ⟨"menuY", "Menu Y position"⟩

end SettingKey

/-- The badge's anchor: its distance from the right and from the top edge of the radar
area. Zero stands for the default distance. -/
structure MenuAnchor where
  x : Int32
  y : Int32
  deriving DecidableEq, Repr, Inhabited

def MenuAnchor.text (anchor : MenuAnchor) : String :=
  "MenuAnchor \x7b x: " ++ Text.intText anchor.x.toInt ++ ", y: " ++ Text.intText anchor.y.toInt
    ++ " \x7d"

/-- Why a kept setting cannot be used. -/
inductive SettingsError where
  /-- The value kept under the key is not a decimal 32-bit number. -/
  | invalidNumber (key value : String)
  deriving DecidableEq, Repr

/-- An error as log messages show it: the value is quoted as it was kept. -/
def SettingsError.message : SettingsError → String
  | .invalidNumber key value =>
    "Invalid number for setting " ++ key ++ ": " ++ Text.quoted value

/-- The settings of a surface; what is missing or unusable is `none`. -/
structure ScreenSettings where
  aerodrome : Option String
  menuX : Option Int32
  menuY : Option Int32
  deriving DecidableEq, Repr

/-- The coordinate a text denotes, if it denotes one. -/
def readCoordinate (text : String) : Option Int32 := do
  let n ← Text.readInt (Text.trimChars text.toList)
  if Coordinate.InRange n then some (Int32.ofInt n) else none

/-- The coordinate kept under a key, or the error that names key and value. -/
def SettingKey.parseNumber (setting : SettingKey) (value : String) : Except SettingsError Int32 :=
  match readCoordinate value with
  | some n => .ok n
  | none => .error (.invalidNumber setting.key value)

/-- A coordinate as it is kept. -/
def coordinateText (n : Int32) : String := Text.intText n.toInt

section

open Text

theorem isBlank_of_isDigit {c : Char} (h : c.isDigit = true) : isBlank c = false := by
  have range : 48 ≤ c.toNat ∧ c.toNat ≤ 57 := by
    simp only [Char.isDigit, Bool.and_eq_true, decide_eq_true_eq, UInt32.le_iff_toNat_le] at h
    exact h
  simp only [isBlank]
  simp
  omega

theorem isBlank_of_mem_intDigits {n : Int} {c : Char} (h : c ∈ intDigits n) :
    isBlank c = false := by
  cases n with
  | ofNat n => exact isBlank_of_isDigit (isDigit_of_mem_natDigits h)
  | negSucc n =>
    rcases List.mem_cons.1 h with rfl | h
    · decide
    · exact isBlank_of_isDigit (isDigit_of_mem_natDigits h)

/-- A written coordinate is read back. -/
theorem readCoordinate_coordinateText (n : Int32) : readCoordinate (coordinateText n) = some n := by
  have kept : trimChars (intDigits n.toInt) = intDigits n.toInt :=
    trimChars_eq_self (fun _ h => isBlank_of_mem_intDigits (List.mem_of_head? h))
      (fun _ h => isBlank_of_mem_intDigits (List.mem_of_getLast? h))
  simp [readCoordinate, coordinateText, intText, kept, readInt_intDigits, Coordinate.inRange_toInt]

end

/-- The anchor with the coordinates that the settings have. -/
def ScreenSettings.applyAnchor (settings : ScreenSettings) (anchor : MenuAnchor) : MenuAnchor :=
  ⟨settings.menuX.getD anchor.x, settings.menuY.getD anchor.y⟩

end RadarOverlay
