import RadarOverlay.Bearing
import RadarOverlay.Geometry

/-!
The viewport handed to the lighting client. A planar surface has a size only. On a
geographic surface the host converts single points, so the transform is recovered
from three samples on the visible box: scaling is the pixel distance from the
south-west corner to the north and to the east sample over the difference in degrees,
which no rotation of the map changes, and rotation is the direction of the east
sample.
-/
namespace RadarOverlay

/-- The viewport of a geographically referenced surface. -/
structure GeoViewport where
  /-- Latitude and longitude at pixel (0, 0). -/
  origin : Float × Float
  /-- Pixels per degree of latitude and of longitude. -/
  scaling : Float × Float
  rotation : Float
  size : Int32 × Int32

/-- The viewport of a surface without geographic reference. -/
structure PlanarViewport where
  /-- Always (0, 0) when computed here. -/
  origin : Float × Float
  size : Int32 × Int32

/-- What the lighting client renders against. -/
inductive Viewport where
  | geo (viewport : GeoViewport)
  | planar (viewport : PlanarViewport)

/-- Positions and pixels a geographic transform is derived from. -/
structure GeoSamples where
  origin : GeoPosition
  min : GeoPosition
  max : GeoPosition
  pixelMin : Point
  pixelNorth : Point
  pixelEast : Point

namespace GeoBox

/-- The corner north of the box's first one. -/
def northWest (b : GeoBox) : GeoPosition := ⟨b.max.latitude, b.min.longitude⟩

/-- The corner east of the box's first one. -/
def southEast (b : GeoBox) : GeoPosition := ⟨b.min.latitude, b.max.longitude⟩

end GeoBox

/-- The pixel size of the region the client draws into. The client draws from the
surface's first row, so the height runs from row 0 to the bottom of the area. -/
def surfaceSize (area : Rect) : Except Overflow (Int32 × Int32) := do
  let width ← area.width
  return (width, area.bottom)

/-- The offset of a pixel from the pixel of the south-west corner. -/
def GeoSamples.offset (samples : GeoSamples) (pixel : Point) : Except Overflow (Int × Int) := do
  let x ← Coordinate.sub pixel.x samples.pixelMin.x
  let y ← Coordinate.sub pixel.y samples.pixelMin.y
  return (x.toInt, y.toInt)

/-- The length of an offset in pixels. -/
def offsetLength (offset : Int × Int) : Float :=
  let x := Float.ofInt offset.1
  let y := Float.ofInt offset.2
  (x * x + y * y).sqrt

namespace GeoViewport

/-- The transform that the samples show. A box without extent gives scaling that is not
finite. -/
def ofSamples (area : Rect) (samples : GeoSamples) : Except Overflow GeoViewport := do
  let north ← samples.offset samples.pixelNorth
  let east ← samples.offset samples.pixelEast
  let size ← surfaceSize area
  let latitudes := samples.max.latitude - samples.min.latitude
  let longitudes := samples.max.longitude - samples.min.longitude
  return {
    origin := (samples.origin.latitude, samples.origin.longitude)
    scaling := (offsetLength north / latitudes, offsetLength east / longitudes)
    rotation := Bearing.ofOffset east.1 east.2
    size := size }

/-- Whether scaling and rotation are numbers that can be drawn with. -/
def isFinite (v : GeoViewport) : Bool :=
  v.scaling.1.isFinite && v.scaling.2.isFinite && v.rotation.isFinite

end GeoViewport

namespace Viewport

/-- The viewport of a planar surface. -/
def ofArea (area : Rect) : Except Overflow Viewport := do
  let size ← surfaceSize area
  return .planar ⟨(0.0, 0.0), size⟩

/-- Whether the client can draw: not on a geographic box without extent. -/
def isDrawable : Viewport → Bool
  | .geo v => v.isFinite
  | .planar _ => true

/-- The pixel size of the region the client draws into, on either surface. -/
def size : Viewport → Int32 × Int32
  | .geo v => v.size
  | .planar v => v.size

end Viewport

end RadarOverlay
