import RadarOverlay.Geometry
import RadarOverlay.Popup

/-!
The host: the radar display engine that owns the surface, the hit testing, the popups
and the settings of one surface. It is described by what can be read from it and by
the commands it takes.
-/
namespace RadarOverlay

/-- The render pass the host is drawing. -/
inductive RefreshPhase where
  /-- The cached background, redrawn on request only. -/
  | backBitmap
  | beforeTags
  | afterTags
  /-- The topmost pass, after all lists. -/
  | afterLists
  deriving DecidableEq, Repr

namespace RefreshPhase

/-- The pass of a number of the host's, if it is one; a host may come to know more passes. -/
def ofHost? (number : Int32) : Option RefreshPhase :=
  if number = 0 then some .backBitmap
  else if number = 1 then some .beforeTags
  else if number = 2 then some .afterTags
  else if number = 3 then some .afterLists
  else none

def name : RefreshPhase → String
  | .backBitmap => "BackBitmap"
  | .beforeTags => "BeforeTags"
  | .afterTags => "AfterTags"
  | .afterLists => "AfterLists"

end RefreshPhase

/-- The kind of an object the host tests clicks against. -/
inductive ScreenObject where
  /-- A region that the lighting client wants clicks for. -/
  | clickRegion
  | menu
  deriving DecidableEq, Repr

namespace ScreenObject

/-- The number of an object kind on the host's side. -/
def id : ScreenObject → Int32
  | .clickRegion => 1
  | .menu => 2

/-- The object kind of a number, if the number is one of those the overlay hands out. -/
def ofId? (id : Int32) : Option ScreenObject :=
  if id = 1 then some .clickRegion else if id = 2 then some .menu else none

def name : ScreenObject → String
  | .clickRegion => "ClickRegion"
  | .menu => "Menu"

end ScreenObject

/-- The button of a click. -/
inductive MouseButton where
  | left
  | middle
  | right
  | other (number : Int32)
  deriving DecidableEq, Repr

/-- The button of a number of the host's. Every number is a button. -/
def MouseButton.ofHost (number : Int32) : MouseButton :=
  if number = 1 then .left
  else if number = 2 then .middle
  else if number = 3 then .right
  else .other number

/-- What the host is told to do. -/
inductive HostCommand where
  /-- Open a popup list next to an area; its elements follow. -/
  | openPopupList (area : Rect) (title : String) (columns : Int32)
  | addPopupListElement (element : PopupElement)
  /-- Open a one-line edit; the function is called with the text when it is submitted. -/
  | openPopupEdit (area : Rect) (function : TagFunction) (initial : String)
  /-- Register an object for the current frame. -/
  | addScreenObject (object : ScreenObject) (area : Rect) (movable : Bool)
  | refreshMapContent
  | saveSetting (key description value : String)
  deriving DecidableEq, Repr

/-- A host whose state is an `H`. -/
class Host (H : Type) where
  /-- The drawable rectangle of the surface. -/
  radarArea : H → Rect
  pixelToPosition : H → Point → GeoPosition
  positionToPixel : H → GeoPosition → Point
  displayArea : H → GeoBox
  /-- Whether the logged-in user holds a controller role. -/
  isController : H → Bool
  /-- A setting of this surface, if it is kept. -/
  loadSetting : H → String → Option String
  obey : HostCommand → H → H

end RadarOverlay
