import RadarOverlay.Controller.Drawing
import RadarOverlay.Controller.Pointer

/-!
The events a host drives one overlay with, all of them one after another. A history
is a sequence of events in between which host and client change on their own, and a
render pass may get another canvas than the one before it.
-/
namespace RadarOverlay

/-- One call of the host. -/
inductive Event where
  /-- The surface's content was loaded, or dropped, while the log keeps details or not. -/
  | contentLoaded (loaded : Bool) (detailed : Bool := true)
  | refresh (phase : RefreshPhase)
  | callFunction (function : TagFunction) (text : String) (area : Rect)
  | callId (id : Int32) (text : String) (area : Rect)
  | click (object : ScreenObject) (point : Point) (area : Rect) (button : MouseButton)
  | move (object : ScreenObject) (point : Point) (released : Bool)
  deriving DecidableEq, Repr

def Event.callback (geo : Bool) : Event → Callback Unit
  | .contentLoaded loaded detailed => Overlay.contentLoaded loaded detailed
  | .refresh phase => Overlay.refresh geo phase
  | .callFunction function text area => Overlay.callFunction geo function text area
  | .callId id text area => Overlay.callId geo id text area
  | .click object point area button => Overlay.click geo object point area button
  | .move object point released => Overlay.move object point released

/-- One step of a history. -/
inductive Step (H C K : Type) where
  | event (call : Event)
  | hostChanges (change : H → H)
  | clientChanges (change : C → C)
  /-- The canvas changes on its own, or is replaced by another. -/
  | canvasChanges (change : K → K)

section

variable {H C K : Type} [Host H] [LightingClient C] [Canvas K]

/-- The outcome of a step: a change of the surroundings asks nothing. -/
def Step.run (geo : Bool) (step : Step H C K) (s : Situation H C K) :
    Outcome Overlay (Situation H C K) Unit :=
  match step with
  | .event call => Overlay.run (call.callback geo) s
  | .hostChanges change => ⟨.ok (), { s with host := change s.host }, []⟩
  | .clientChanges change => ⟨.ok (), { s with client := change s.client }, []⟩
  | .canvasChanges change => ⟨.ok (), { s with canvas := change s.canvas }, []⟩

/-- The outcome of a history: its steps in order, up to the first overflow. -/
def runHistory (geo : Bool) : List (Step H C K) → Situation H C K →
    Outcome Overlay (Situation H C K) Unit
  | [], s => ⟨.ok (), s, []⟩
  | step :: rest, s => (step.run geo s).andThen fun _ s' => runHistory geo rest s'

end

end RadarOverlay
