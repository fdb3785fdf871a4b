import RadarOverlay.Controller.Event
import RadarOverlay.Simulation.MapView

/-!
A complete scene to try the overlay in: a host on a linear map with a store of
settings, a client with fixed lists, and a canvas with letters of one width.
-/
namespace RadarOverlay.Simulation

/-- The value under a key of a store, if there is one. -/
def lookUp {α : Type} (store : List (String × α)) (key : String) : Option α :=
  (store.find? fun entry => entry.1 = key).map Prod.snd

/-- A store with a value under a key, in place of the one that was there. -/
def keep {α : Type} (store : List (String × α)) (key : String) (value : α) : List (String × α) :=
  (key, value) :: store.filter fun entry => entry.1 ≠ key

/-- A host on a linear map that keeps its settings. -/
structure SceneHost where
  area : Rect
  controller : Bool
  map : MapView
  settings : List (String × String)

instance : Host SceneHost where
  radarArea h := h.area
  pixelToPosition h p := h.map.positionAt p
  positionToPixel h g := h.map.pixelOf g
  displayArea h := h.map.display
  isController h := h.controller
  loadSetting h key := lookUp h.settings key
  obey
    | .saveSetting key _ value, h => { h with settings := keep h.settings key value }
    | _, h => h

/-- A lighting client with fixed lists that takes every command. -/
structure SceneClient where
  connection : ConnectionState
  activity : ActivityState
  aerodrome : Option String
  profiles : List String
  presets : List String
  views : List String
  profile : Nat
  view : Nat
  regions : List Rect
  redraw : Bool

instance : LightingClient SceneClient where
  connectionState c := c.connection
  aerodrome c := c.aerodrome
  activity c := c.activity
  profiles c := c.profiles
  profile c := c.profile
  presets c := c.presets
  views c := c.views
  view c := c.view
  clickRegions c := c.regions
  takeRedraw c := (c.redraw, { c with redraw := false })
  obey
    | .setAerodrome icao, c => { c with aerodrome := icao }
    | .setActivity activity, c => { c with activity := activity, redraw := true }
    | .setProfile index, c => { c with profile := index, redraw := true }
    | .setView index, c => { c with view := index, redraw := true }
    | _, c => c

/-- The extent of a text in letters of one width. -/
def fixedExtent (letterWidth : Float32) (text : String) : SizeF :=
  ⟨Float32.ofNat text.length * letterWidth, 14⟩

/-- The canvas of a scene. Saved transforms are numbered from one on. -/
structure SceneCanvas where
  letterWidth : Float32
  saved : UInt32

instance : Canvas SceneCanvas where
  surface _ := ⟨64⟩
  measureText k text := fixedExtent k.letterWidth text
  saveTransform k := (⟨k.saved + 1⟩, { k with saved := k.saved + 1 })
  obey _ k := k

/-- The overlay's memory in a scene. -/
abbrev Scene := Situation SceneHost SceneClient SceneCanvas

/-- A controller's scene in which the client is not connected and shows nothing. -/
def Scene.initial : Scene where
  memory := .initial
  host := ⟨⟨0, 0, 800, 600⟩, true, .initial, []⟩
  client := ⟨.disconnected, .none, none, [], [], [], 0, 0, [], false⟩
  canvas := ⟨6, 0⟩

/-- A controller's scene in which the client controls an aerodrome. -/
def Scene.controlled : Scene :=
  { Scene.initial with
    client := ⟨.connectedDirect, .controlling, some "EGLL", ["Day", "Night"], ["Dusk"],
      ["North", "South"], 0, 1, [], false⟩ }

end RadarOverlay.Simulation
