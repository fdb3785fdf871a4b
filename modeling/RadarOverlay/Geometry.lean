import RadarOverlay.Coordinate

/-!
Pixel, sub-pixel and geographic primitives. Right and bottom edges of a rectangle
are exclusive. Sizes and centers are computed in checked coordinates.
-/
namespace RadarOverlay

/-- A pixel: its column from the left and its row from the top. -/
structure Point where
  x : Int32
  y : Int32
  deriving DecidableEq, Repr, Inhabited

/-- A pixel rectangle, right and bottom exclusive. -/
structure Rect where
  left : Int32
  top : Int32
  right : Int32
  bottom : Int32
  deriving DecidableEq, Repr, Inhabited

/-- A sub-pixel position, used to place text. -/
structure PointF where
  x : Float32
  y : Float32

/-- A sub-pixel extent, as measured of a text. -/
structure SizeF where
  width : Float32
  height : Float32

/-- An opaque color by its three components. -/
structure Color where
  red : UInt8
  green : UInt8
  blue : UInt8
  deriving DecidableEq, Repr

/-- A position on the ground, in degrees. -/
structure GeoPosition where
  latitude : Float
  longitude : Float

/-- A geographic box by its south-west and north-east corner. -/
structure GeoBox where
  min : GeoPosition
  max : GeoPosition

namespace Rect

/-- The rectangle of a size at a corner; a far edge may be out of range. -/
def fromOrigin (x y width height : Int32) : Except Overflow Rect := do
  let right ← Coordinate.add x width
  let bottom ← Coordinate.add y height
  return ⟨x, y, right, bottom⟩

/-- The width in pixels, negative if the edges are the wrong way round. -/
def width (r : Rect) : Except Overflow Int32 := Coordinate.sub r.right r.left

/-- The height in pixels, negative if the edges are the wrong way round. -/
def height (r : Rect) : Except Overflow Int32 := Coordinate.sub r.bottom r.top

/-- The midpoint; halves are dropped towards the surface's zero row and column. -/
def center (r : Rect) : Except Overflow Point := do
  let x ← Coordinate.add r.left r.right
  let y ← Coordinate.add r.top r.bottom
  return ⟨Int32.ofInt (x.toInt.tdiv 2), Int32.ofInt (y.toInt.tdiv 2)⟩

/-- Every edge of `inner` lies on or within the same edge of `outer`. -/
def Contains (outer inner : Rect) : Prop :=
  outer.left.toInt ≤ inner.left.toInt ∧ outer.top.toInt ≤ inner.top.toInt ∧
    inner.right.toInt ≤ outer.right.toInt ∧ inner.bottom.toInt ≤ outer.bottom.toInt

instance (outer inner : Rect) : Decidable (outer.Contains inner) :=
  inferInstanceAs (Decidable (_ ∧ _ ∧ _ ∧ _))

end Rect

end RadarOverlay
