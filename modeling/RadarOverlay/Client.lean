import RadarOverlay.Viewport

/-!
The lighting client: it owns the connection to the lighting server, the data of the
aerodrome and the content of the overlay. It is described by what can be read from
it and by the commands it takes.
-/
namespace RadarOverlay

/-- The client's connection to the lighting server. -/
inductive ConnectionState where
  | disconnected
  | connectedDirect
  /-- Through another client. -/
  | connectedProxy
  | connectedLocal
  /-- Failed for good. -/
  | poisoned
  deriving DecidableEq, Repr

namespace ConnectionState

/-- Whether lighting data is available. -/
def isConnected : ConnectionState → Bool
  | .connectedDirect | .connectedProxy | .connectedLocal => true
  | .disconnected | .poisoned => false

theorem isConnected_iff {connection : ConnectionState} :
    connection.isConnected = true ↔ connection ≠ .disconnected ∧ connection ≠ .poisoned := by
  cases connection <;> decide

/-- A connection as log messages show it. -/
def description : ConnectionState → String
  | .disconnected => "Disconnected"
  | .connectedDirect => "Connected (direct)"
  | .connectedProxy => "Connected (proxy)"
  | .connectedLocal => "Connected (local)"
  | .poisoned => "Poisoned"

/-- A connection as it is written in documents. -/
def name : ConnectionState → String
  | .disconnected => "Disconnected"
  | .connectedDirect => "ConnectedDirect"
  | .connectedProxy => "ConnectedProxy"
  | .connectedLocal => "ConnectedLocal"
  | .poisoned => "Poisoned"

end ConnectionState

/-- The controller's engagement on the selected aerodrome. -/
inductive ActivityState where
  /-- Without aerodrome data. -/
  | none
  /-- Reading only. -/
  | observing
  /-- Able to change the lighting. -/
  | controlling
  deriving DecidableEq, Repr

namespace ActivityState

/-- The activity that a control toggle asks for: control is given up by whoever has it, and taken
only by an observer. -/
def toggled : ActivityState → ActivityState
  | .observing => .controlling
  | .none | .controlling => .observing

theorem toggled_eq (activity : ActivityState) :
    activity.toggled = if activity = .observing then .controlling else .observing := by
  cases activity <;> rfl

/-- An activity as it is written in documents and in log messages. -/
def name : ActivityState → String
  | .none => "None"
  | .observing => "Observing"
  | .controlling => "Controlling"

end ActivityState

/-- The kind of a click that is passed on to the client. -/
inductive ClickType where
  | primary
  | auxiliary
  deriving DecidableEq, Repr

/-- A kind of click as it is written in documents. -/
def ClickType.name : ClickType → String
  | .primary => "Primary"
  | .auxiliary => "Auxiliary"

/-- The raw device context the client draws into. -/
structure SurfaceHandle where
  value : UInt64
  deriving DecidableEq, Repr

/-- What the client is told to do. Indices are positions in the list it showed last. -/
inductive ClientCommand where
  | setAerodrome (icao : Option String)
  | setActivity (activity : ActivityState)
  | setProfile (index : Nat)
  | applyPreset (index : Nat)
  | setView (index : Nat)
  | drawBackground (surface : SurfaceHandle) (viewport : Viewport)
  | setViewport (viewport : Viewport)
  | drawForeground (surface : SurfaceHandle)
  | handleClick (point : Point) (click : ClickType)

/-- A lighting client whose state is a `C`. -/
class LightingClient (C : Type) where
  connectionState : C → ConnectionState
  /-- The code of the selected aerodrome. -/
  aerodrome : C → Option String
  activity : C → ActivityState
  profiles : C → List String
  profile : C → Nat
  /-- The presets of the current profile. -/
  presets : C → List String
  views : C → List String
  view : C → Nat
  /-- The rectangles that take clicks in this frame. -/
  clickRegions : C → List Rect
  /-- The redraw flag, raised while the background is out of date, and the state with the flag
  lowered. -/
  takeRedraw : C → Bool × C
  obey : ClientCommand → C → C

end RadarOverlay
