import RadarOverlay.Badge
import RadarOverlay.Controller.Functions

/-!
Clicks and drags of the objects the overlay has registered.
-/
namespace RadarOverlay.Overlay

/-- Whether a click on the badge opens the menu: only a left click does, and only with a
connection and a target. -/
def opensMenu (button : MouseButton) : Callback Bool := do
  if button = .left then
    if (← askClient .connectionState).isConnected then
      return (← askClient .aerodrome).isSome
  return false

/-- A click. A region's click is passed on to the client. A click on the badge opens the menu or
the edit of the target. -/
def click (geo : Bool) (object : ScreenObject) (point : Point) (area : Rect)
    (button : MouseButton) : Callback Unit := do
  match object with
  | .clickRegion =>
    tellClient (.handleClick point (if button = .left then .primary else .auxiliary))
  | .menu =>
    let menu ← opensMenu button
    callFunction geo (if menu then .openMenu else .openEditAerodrome) "" area

/-- A drag. The badge follows the pointer; its anchor is kept only once it is released. -/
def move (object : ScreenObject) (point : Point) (released : Bool) : Callback Unit := do
  match object with
  | .clickRegion => pure ()
  | .menu =>
    let area ← askHost .radarArea
    let anchor ← MenuAnchor.ofDrag area point
    let memory ← readMemory
    writeMemory { memory with anchor := anchor }
    if released then
      note (.anchorMoved anchor)
      anchor.save

end RadarOverlay.Overlay
