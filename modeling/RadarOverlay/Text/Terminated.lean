import RadarOverlay.Text.Utf8

/-!
Zero-terminated text. A text can be handed over in this form exactly when it has no
zero character; a buffer that comes back is read leniently up to its first zero octet.
-/
namespace RadarOverlay.Text

/-- A text that a zero octet can end: it has no zero character of its own. -/
structure Terminated where
  text : String
  noZero : '\x00' ∉ text.toList
  deriving DecidableEq

/-- The text in zero-terminated form, if it has no zero character inside. -/
def Terminated.ofString? (s : String) : Option Terminated :=
  if h : '\x00' ∉ s.toList then some ⟨s, h⟩ else none

/-- The text in a buffer, up to its first zero octet. -/
def readTerminated (buffer : List UInt8) : String := lossy (buffer.takeWhile (· != 0))

end RadarOverlay.Text
