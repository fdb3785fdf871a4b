import RadarOverlay.Native.Screen
import RadarOverlay.Simulation.Scene

/-!
The other side of the binary boundary for a scene: function tables over a host with a
store of octets, a client that speaks in numbers and buffers, and graphics contexts
that can be refused.
-/
namespace RadarOverlay.Simulation

open RadarOverlay.Native

/-- Host and client behind their function tables. -/
structure NativeScene where
  area : Rect
  controller : Bool
  map : MapView
  settings : List (String × List UInt8)
  letterWidth : Float32
  graphics : Bool
  saved : UInt32
  connection : Int32
  activity : Int32
  aerodrome : Buffer
  profiles : BufferList
  presets : BufferList
  views : BufferList
  profile : Nat
  view : Nat
  regions : Option (List Rect)
  redraw : Bool
  refuse : Bool

namespace NativeScene

/-- A controller's scene in which the client is not connected and shows nothing. -/
def initial : NativeScene where
  area := ⟨0, 0, 800, 600⟩
  controller := true
  map := .initial
  settings := []
  letterWidth := 6
  graphics := true
  saved := 0
  connection := 0
  activity := 0
  aerodrome := none
  profiles := some []
  presets := some []
  views := some []
  profile := 0
  view := 0
  regions := some []
  redraw := false
  refuse := false

/-- The function tables of a scene. What is only shown leaves it as it is. -/
def serve : Outside NativeScene
  | .radarArea, s => (s.area, s)
  | .pixelToPosition point, s => (s.map.positionAt point, s)
  | .positionToPixel position, s => (s.map.pixelOf position, s)
  | .displayArea, s => (s.map.display, s)
  | .isController, s => (s.controller, s)
  | .openPopupList .., s => ((), s)
  | .addPopupListElement .., s => ((), s)
  | .openPopupEdit .., s => ((), s)
  | .addScreenObject .., s => ((), s)
  | .refreshMapContent, s => ((), s)
  | .loadSetting key, s => (lookUp s.settings key.text, s)
  | .saveSetting key _ value, s =>
    ((), { s with settings := keep s.settings key.text (Text.octets value.text) })
  | .createGraphics _, s => (if s.graphics then some ⟨1⟩ else none, s)
  | .releaseGraphics _, s => ((), s)
  | .measureText _ text, s => (fixedExtent s.letterWidth text.text, s)
  | .drawText .., s => ((), s)
  | .fillRect .., s => ((), s)
  | .drawLines .., s => ((), s)
  | .save _, s => (s.saved + 1, { s with saved := s.saved + 1 })
  | .translate .., s => ((), s)
  | .restore .., s => ((), s)
  | .createScreen _, s => (if s.refuse then none else some ⟨1⟩, s)
  | .destroyScreen _, s => ((), s)
  | .connectionState, s => (s.connection, s)
  | .getAerodrome _, s => (s.aerodrome, s)
  | .setAerodrome _ icao, s => ((), { s with aerodrome := icao.map (Text.octets ·.text) })
  | .getActivity _, s => (s.activity, s)
  | .setActivity _ activity, s => ((), { s with activity := activity, redraw := true })
  | .getProfiles _, s => (s.profiles, s)
  | .getProfile _, s => (s.profile, s)
  | .setProfile _ index, s => ((), { s with profile := index, redraw := true })
  | .getPresets _, s => (s.presets, s)
  | .applyPreset .., s => ((), s)
  | .getViews _, s => (s.views, s)
  | .getView _, s => (s.view, s)
  | .setView _ index, s => ((), { s with view := index, redraw := true })
  | .drawBackground .., s => ((), s)
  | .setViewport .., s => ((), s)
  | .drawForeground .., s => ((), s)
  | .getClickRegions _, s => (s.regions, s)
  | .isBackgroundRefreshRequired _, s => (s.redraw, { s with redraw := false })
  | .handleClick .., s => ((), s)

end NativeScene

end RadarOverlay.Simulation
