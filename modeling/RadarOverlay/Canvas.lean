import RadarOverlay.Client

/-!
The canvas the overlay draws its own decorations on. It is valid for one render pass
and keeps a transform that can be saved and restored. A drawing is a tree of canvas
operations in which what is drawn inside a saved block leaves the transform outside
of it alone.
-/
namespace RadarOverlay

/-- A transform that a canvas has saved. -/
structure TransformState where
  value : UInt32
  deriving DecidableEq, Repr

/-- What a canvas is told to do. Everything is placed relative to the present transform. -/
inductive CanvasCommand where
  | drawText (text : String) (origin : PointF) (color : Color)
  | fillRect (area : Rect) (color : Color)
  /-- Connected segments through the points, one pixel wide. -/
  | drawLines (points : List Point) (color : Color)
  | translate (dx dy : Float32)
  | restore (state : TransformState)

/-- A canvas whose state is a `K`. -/
class Canvas (K : Type) where
  /-- The device context for the lighting client. -/
  surface : K → SurfaceHandle
  /-- The extent of a text in the overlay's font. -/
  measureText : K → String → SizeF
  /-- A name for the present transform, and the state that remembers it. -/
  saveTransform : K → TransformState × K
  obey : CanvasCommand → K → K

/-- Something that leaves marks on a canvas and its transform alone. -/
inductive Shape where
  | text (content : String) (origin : PointF) (color : Color)
  | fill (area : Rect) (color : Color)
  | lines (points : List Point) (color : Color)

def Shape.command : Shape → CanvasCommand
  | .text content origin color => .drawText content origin color
  | .fill area color => .fillRect area color
  | .lines points color => .drawLines points color

/-- A tree of canvas operations, drawn from the first on. -/
inductive Drawing where
  | nothing
  | draw (shape : Shape) (rest : Drawing)
  /-- Move the origin for all of the rest. -/
  | translate (dx dy : Float32) (rest : Drawing)
  | surface (rest : Drawing)
  /-- Draw a block and take its translations back, then draw the rest. -/
  | saved (block rest : Drawing)

end RadarOverlay
