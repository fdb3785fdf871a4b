import RadarOverlay.Binary
import RadarOverlay.Client
import RadarOverlay.Settings

/-!
The status badge: an icon for the connection and the label of the target, on a
background for the activity. It is placed by its distance from the top right corner
of the radar area and kept inside the area when the area is large enough.
-/
namespace RadarOverlay

/-- The anchor that puts the badge's corner under the point of a drag. -/
def MenuAnchor.ofDrag (area : Rect) (point : Point) : Except Overflow MenuAnchor := do
  let x ← Coordinate.sub (← Coordinate.sub area.right point.x) 8
  let y ← Coordinate.sub (← Coordinate.sub point.y area.top) 8
  return ⟨Coordinate.max x 1, Coordinate.max y 1⟩

namespace Badge

/-- The label's height in pixels; the icon is as wide as it is high. -/
def labelHeight : Int32 := 12

/-- The distance of the icon from the badge's left and top edge. -/
def padding : Int32 := 2

/-- The height of every badge in pixels. -/
def height : Int32 := 16

/-- What the badge reads without a target. -/
def defaultLabel : String := "BARS"

/-- The background without a connection or without a target: a dark grey. -/
def disconnectedColor : Color := ⟨0x22, 0x22, 0x22⟩

/-- The background while the lighting is only read: a blue. -/
def observingColor : Color := ⟨0x1e, 0x40, 0xaf⟩

/-- The background while the lighting may be changed: a green. -/
def controllingColor : Color := ⟨0x16, 0x65, 0x34⟩

/-- The color of icon and label. -/
def foregroundColor : Color := ⟨0xcc, 0xcc, 0xcc⟩

/-- The color of a message that is shown instead of content. -/
def messageColor : Color := ⟨0xff, 0xff, 0xff⟩

/-- A cross. -/
def disconnectedIcon : List Point := [⟨4, 4⟩, ⟨8, 8⟩, ⟨6, 6⟩, ⟨4, 8⟩, ⟨8, 4⟩]

/-- An arrow up. -/
def directIcon : List Point := [⟨6, 8⟩, ⟨6, 4⟩, ⟨4, 6⟩, ⟨6, 4⟩, ⟨8, 6⟩]

/-- An "L". -/
def localIcon : List Point := [⟨4, 4⟩, ⟨4, 4⟩, ⟨4, 4⟩, ⟨4, 8⟩, ⟨8, 8⟩]

/-- How the badge looks, apart from its text and its place. -/
structure Style where
  background : Color
  /-- The points of the icon's line, relative to the icon's corner. -/
  icon : List Point
  deriving DecidableEq, Repr

/-- The icon of a connection: an arrow for a server that is reached directly or through another
client, an "L" for a local one, and a cross without any. -/
def glyph : ConnectionState → List Point
  | .connectedDirect | .connectedProxy => directIcon
  | .connectedLocal => localIcon
  | .disconnected | .poisoned => disconnectedIcon

/-- The background of an activity on a connected target. -/
def activityColor : ActivityState → Color
  | .observing => observingColor
  | .controlling => controllingColor
  | .none => disconnectedColor

/-- The look of the badge. The activity shows only while connected and with a target. -/
def Style.of (connection : ConnectionState) (activity : ActivityState) (hasTarget : Bool) :
    Style where
  background :=
    if connection.isConnected && hasTarget then activityColor activity else disconnectedColor
  icon := glyph connection

/-- Write the characters of `target` over those of `ground`, as far as both go. -/
def writeOver : (target ground : List Char) → List Char
  | c :: target, _ :: ground => c :: writeOver target ground
  | [], ground => ground
  | _, [] => []

/-- The badge's label: the target's first four characters over the default label, whose
last letters stay behind a shorter target. -/
def label (target : Option String) : String :=
  String.ofList (writeOver (target.getD "").toList defaultLabel.toList)

/-- The width of a measured label in whole pixels: fractions count in full, what is no number
or negative counts as zero, and the largest coordinate is the most. -/
def wholePixels (width : Float32) : Int32 :=
  match Binary.ofSingle width with
  | .undefined => 0
  | .infinite negative => if negative then 0 else Int32.maxValue
  | .finite negative significand exponent =>
    if negative then 0
    else Coordinate.saturate (Binary.ceilingMagnitude significand exponent)

/-- The width of the badge: the label's whole pixels, the padding on both sides, and the icon. -/
def width (labelWidth : Float32) : Except Overflow Int32 := do
  Coordinate.add (← Coordinate.add (wholePixels labelWidth) 4) labelHeight

/-- Where the badge and its parts are drawn. -/
structure Layout where
  rect : Rect
  iconOrigin : PointF
  labelOrigin : PointF

/-- A stored distance, or the default distance if it is zero. -/
def orDefault (distance : Int32) : Int32 := if distance = 0 then 2 else distance

/-- The rectangle of a badge of the given width. The distances are first brought down so
that 40 by 20 pixels are left for the badge, or its width if it is wider, and then up to
zero. -/
def place (area : Rect) (anchor : MenuAnchor) (width : Int32) : Except Overflow Rect := do
  let roomX ← Coordinate.sub (← area.width) (Coordinate.max width 40)
  let dx := Coordinate.max (Coordinate.min (orDefault anchor.x) roomX) 0
  let roomY ← Coordinate.sub (← area.height) 20
  let dy := Coordinate.max (Coordinate.min (orDefault anchor.y) roomY) 0
  let left ← Coordinate.sub (← Coordinate.sub area.right dx) width
  let top ← Coordinate.add area.top dy
  Rect.fromOrigin left top width height

/-- Lay the badge out: its rectangle, the icon inside the padding, the label right of the icon. -/
def Layout.of (area : Rect) (anchor : MenuAnchor) (labelWidth : Float32) :
    Except Overflow Layout := do
  let rect ← place area anchor (← Badge.width labelWidth)
  let iconX ← Coordinate.add rect.left padding
  let iconY ← Coordinate.add rect.top padding
  let labelX ← Coordinate.add iconX labelHeight
  return {
    rect := rect
    iconOrigin := ⟨Float32.ofInt iconX.toInt, Float32.ofInt iconY.toInt⟩
    labelOrigin := ⟨Float32.ofInt labelX.toInt, Float32.ofInt rect.top.toInt⟩ }

end Badge

end RadarOverlay
