import RadarOverlay.Controller.Event
import RadarOverlay.Native.Adapter

/-!
The screens of the plugin: one for each radar surface, from creation to destruction.
The entry points decode the host's numbers and run the overlay's callbacks through the
adapter; a call without a screen, with an unknown number or without anything to draw on
does nothing.
-/
namespace RadarOverlay.Native

/-- One radar surface. -/
structure Screen where
  /-- Whether the surface is geographically referenced. -/
  geo : Bool
  client : Handle
  deriving DecidableEq, Repr

namespace Screen

/-- Run a callback of the overlay through the adapter. -/
def runCallback (screen : Screen) (context : Adapter.Context) (callback : Callback Unit) :
    ShellProgram Unit :=
  callback.via (Adapter.speak screen.client context)

/-- Create a screen. Both function tables are needed, and the client has to agree. -/
def create (hasHost hasClient geo : Bool) : ShellProgram (Option Screen) := do
  if hasHost && hasClient then
    match ← Adapter.openClient geo with
    | some client =>
      Shell.writeMemory .initial
      Shell.note (.screenCreated geo)
      return some ⟨geo, client⟩
    | none => return none
  else
    Shell.note .tablesMissing
    return none

/-- Give the screen's client back; nothing may be called on the screen after this. -/
def destroy (screen : Screen) : ShellProgram Unit := do
  Adapter.closeClient screen.client
  Shell.note .screenDestroyed

/-- A render pass on a device context. -/
def refresh (screen : Screen) (device : UInt64) (phase : Int32) : ShellProgram Unit := do
  match RefreshPhase.ofHost? phase with
  | none => Shell.note (.phaseIgnored phase)
  | some .afterTags => pure ()
  | some phase =>
    if let some context := ← Adapter.openCanvas device then
      screen.runCallback context (Overlay.refresh screen.geo phase)
      Adapter.closeCanvas context

/-- A click on an object of the host's; one on an unknown kind of object is noted only. -/
def click (screen : Screen) (kind : Int32) (point : Point) (area : Rect) (button : Int32) :
    ShellProgram Unit :=
  match ScreenObject.ofId? kind with
  | none => Shell.note (.clickIgnored kind)
  | some object =>
    screen.runCallback .null (Overlay.click screen.geo object point area (.ofHost button))

/-- A drag of an object of the host's; one of an unknown kind of object is noted only. -/
def move (screen : Screen) (kind : Int32) (point : Point) (released : Bool) : ShellProgram Unit :=
  match ScreenObject.ofId? kind with
  | none => Shell.note (.moveIgnored kind)
  | some object => screen.runCallback .null (Overlay.move object point released)

/-- A call of the function of an id. A missing text is empty. -/
def functionCall (screen : Screen) (id : Int32) (text : Buffer) (area : Rect) : ShellProgram Unit :=
  screen.runCallback .null
    (Overlay.callId screen.geo id ((text.map Text.readTerminated).getD "") area)

/-- The surface's content was loaded, or dropped, while the log keeps details or not. -/
def contentLoaded (screen : Screen) (loaded detailed : Bool) : ShellProgram Unit :=
  screen.runCallback .null (Overlay.contentLoaded loaded detailed)

end Screen

/-- A call of one of a screen's entry points, with what the host hands over. -/
inductive EntryPoint where
  | refresh (device : UInt64) (phase : Int32)
  | click (kind : Int32) (point : Point) (area : Rect) (button : Int32)
  | move (kind : Int32) (point : Point) (released : Bool)
  | functionCall (id : Int32) (text : Buffer) (area : Rect)
  | contentLoaded (loaded : Bool) (detailed : Bool := true)
  deriving DecidableEq, Repr

/-- What a call of an entry point does on a screen. -/
def EntryPoint.on (screen : Screen) : EntryPoint → ShellProgram Unit
  | .refresh device phase => screen.refresh device phase
  | .click kind point area button => screen.click kind point area button
  | .move kind point released => screen.move kind point released
  | .functionCall id text area => screen.functionCall id text area
  | .contentLoaded loaded detailed => screen.contentLoaded loaded detailed

/-- What a call of an entry point does; without a screen, nothing. -/
def EntryPoint.program (screen : Option Screen) (entry : EntryPoint) : ShellProgram Unit :=
  match screen with
  | none => pure ()
  | some screen => entry.on screen

end RadarOverlay.Native
