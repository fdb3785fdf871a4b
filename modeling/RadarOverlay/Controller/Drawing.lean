import RadarOverlay.Badge
import RadarOverlay.Controller.Functions

/-!
The render passes. Background and foreground are the client's content and depend on
the viewport of the moment; the decoration pass draws the badge and opens the submenu
that waits, if one does.
-/
namespace RadarOverlay

/-- Ask the host for what a geographic transform is derived from: where pixel (0, 0) lies, the
visible box, and the pixels of three of its corners. -/
def GeoSamples.take : Callback GeoSamples := do
  let origin ← Overlay.askHost (.pixelToPosition ⟨0, 0⟩)
  let box ← Overlay.askHost .displayArea
  let pixelMin ← Overlay.askHost (.positionToPixel box.min)
  let pixelNorth ← Overlay.askHost (.positionToPixel box.northWest)
  let pixelEast ← Overlay.askHost (.positionToPixel box.southEast)
  return ⟨origin, box.min, box.max, pixelMin, pixelNorth, pixelEast⟩

/-- The viewport of the moment. Every content pass asks for it anew, since the map can move. -/
def Viewport.current (geo : Bool) : Callback Viewport := do
  let area ← Overlay.askHost .radarArea
  if geo then
    let samples ← GeoSamples.take
    return .geo (← GeoViewport.ofSamples area samples)
  else
    Viewport.ofArea area

/-- Draw inside a saved transform and return to it afterwards. -/
def withSavedTransform (block : Callback Unit) : Callback Unit := do
  let state ← Overlay.askCanvas .saveTransform
  block
  Overlay.tellCanvas (.restore state)

/-- Draw a tree of canvas operations, from the first on. -/
def Drawing.callback : Drawing → Callback Unit
  | .nothing => pure ()
  | .draw shape rest => do
    Overlay.tellCanvas shape.command
    rest.callback
  | .translate dx dy rest => do
    Overlay.tellCanvas (.translate dx dy)
    rest.callback
  | .surface rest => do
    let _ ← Overlay.askCanvas .surface
    rest.callback
  | .saved block rest => do
    withSavedTransform block.callback
    rest.callback

/-- Why there is no content to draw. -/
inductive StatusMessage where
  | disconnected
  | noViews
  deriving DecidableEq, Repr

def StatusMessage.text : StatusMessage → String
  | .disconnected => "Disconnected"
  | .noViews => "No views defined"

namespace Overlay

/-- The message shown instead of content: without a connection, or on a planar surface
without views. -/
def statusMessage (geo : Bool) : Callback (Option StatusMessage) := do
  if (← askClient .connectionState).isConnected then
    if geo then return none
    return if (← askClient .views) = [] then some .noViews else none
  else
    return some .disconnected

/-- Draw a message in the middle of the radar area. Only its width is measured: the text begins at
the center's row. -/
def drawMessage (message : StatusMessage) : Callback Unit := do
  let center ← (← askHost .radarArea).center
  let extent ← askCanvas (.measureText message.text)
  let x := Float32.ofInt center.x.toInt - extent.width / 2
  tellCanvas (.drawText message.text ⟨x, Float32.ofInt center.y.toInt⟩ Badge.messageColor)

/-- The background pass: a message, or the client's background if the viewport can be drawn. -/
def drawBackground (geo : Bool) : Callback Unit := do
  match ← statusMessage geo with
  | some message => drawMessage message
  | none =>
    let viewport ← Viewport.current geo
    if viewport.isDrawable then
      let surface ← askCanvas .surface
      tellClient (.drawBackground surface viewport)
    else
      note (.passSkipped .background)

/-- The foreground pass. The viewport is handed over in every frame, since it follows the map. -/
def drawForeground (geo : Bool) : Callback Unit := do
  let viewport ← Viewport.current geo
  if viewport.isDrawable then
    tellClient (.setViewport viewport)
    let surface ← askCanvas .surface
    tellClient (.drawForeground surface)
    let regions ← askClient .clickRegions
    Program.each regions fun region => tellHost (.addScreenObject .clickRegion region false)
  else
    note (.passSkipped .foreground)

/-- Open the submenu that waits, if one does. -/
def flush (geo : Bool) : Callback Unit := do
  let memory ← readMemory
  let (entry, pending) := memory.pending.take
  if let some waiting := entry then
    writeMemory { memory with pending := pending }
    note (.requestFlushed waiting.function)
    callFunction geo waiting.function "" waiting.area

/-- Draw the badge and register it for clicks. -/
def drawBadge : Callback Unit := do
  let aerodrome ← askClient .aerodrome
  let connection ← askClient .connectionState
  let activity ← askClient .activity
  let style := Badge.Style.of connection activity aerodrome.isSome
  let label := Badge.label aerodrome
  let extent ← askCanvas (.measureText label)
  let area ← askHost .radarArea
  let memory ← readMemory
  let layout ← Badge.Layout.of area memory.anchor extent.width
  tellCanvas (.fillRect layout.rect style.background)
  tellHost (.addScreenObject .menu layout.rect true)
  withSavedTransform do
    tellCanvas (.translate layout.iconOrigin.x layout.iconOrigin.y)
    tellCanvas (.drawLines style.icon Badge.foregroundColor)
  tellCanvas (.drawText label layout.labelOrigin Badge.foregroundColor)

/-- The topmost pass: the badge, the client's wish for a new background, the submenu that waits. -/
def drawDecorations (geo : Bool) : Callback Unit := do
  drawBadge
  refreshIfRequired
  flush geo

/-- The render pass of a phase. Nothing is drawn right after the tags. -/
def refresh (geo : Bool) : RefreshPhase → Callback Unit
  | .backBitmap => drawBackground geo
  | .beforeTags => drawForeground geo
  | .afterTags => pure ()
  | .afterLists => drawDecorations geo

end Overlay

end RadarOverlay
