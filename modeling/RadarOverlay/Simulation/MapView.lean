import RadarOverlay.Binary
import RadarOverlay.Geometry

/-!
A linear map to try the overlay on: positions are read off a grid of equal degrees,
and pixels are found by a matrix that may also turn or flip the map.
-/
namespace RadarOverlay.Simulation

/-- A map as a host shows it. Reading positions and finding pixels need not agree. -/
structure MapView where
  origin : GeoPosition
  /-- The scale at which positions are read. -/
  pixelsPerDegree : Float
  /-- The two rows of the matrix from degrees east and south to pixels. -/
  matrix : (Float × Float) × (Float × Float)
  display : GeoBox

namespace MapView

/-- A thousand pixels for each degree, seen from 52 degrees north and one degree west. -/
def initial : MapView where
  origin := ⟨52, -1⟩
  pixelsPerDegree := 1000
  matrix := ((1000, 0), (0, 1000))
  display := ⟨⟨51.5, -1⟩, ⟨52, -0.2⟩⟩

/-- The position of a pixel on the grid. -/
def positionAt (m : MapView) (p : Point) : GeoPosition where
  latitude := m.origin.latitude - Float.ofInt p.y.toInt / m.pixelsPerDegree
  longitude := m.origin.longitude + Float.ofInt p.x.toInt / m.pixelsPerDegree

/-- The coordinate nearest to a number: the ends of the range beyond it, zero for what is no
number. -/
def nearestCoordinate (x : Float) : Int32 :=
  match Binary.ofDouble x with
  | .undefined => 0
  | .infinite negative => if negative then Int32.minValue else Int32.maxValue
  | value => Coordinate.saturate (value.nearest?.getD 0)

/-- The pixel that the matrix puts a position on. -/
def pixelOf (m : MapView) (g : GeoPosition) : Point :=
  let east := g.longitude - m.origin.longitude
  let south := m.origin.latitude - g.latitude
  let row (r : Float × Float) : Int32 := nearestCoordinate (r.1 * east + r.2 * south)
  ⟨row m.matrix.1, row m.matrix.2⟩

end MapView

end RadarOverlay.Simulation
