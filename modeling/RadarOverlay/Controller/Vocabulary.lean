import RadarOverlay.Canvas
import RadarOverlay.Host
import RadarOverlay.Notice
import RadarOverlay.Program

/-!
The vocabulary of the overlay's callbacks: what they ask of the host, of the lighting
client, of the canvas and of the overlay's own memory. Every exchange of a run is
recorded, questions as well as commands; the effects of a run are its exchanges with
host, client and canvas that are commands. Main statement: `effects_append` says that
the effects of a record are those of its parts.
-/
namespace RadarOverlay

/-- A submenu that waits for the next decoration pass. -/
structure Deferred where
  function : TagFunction
  area : Rect
  deriving DecidableEq, Repr

/-- Room for one waiting submenu. -/
structure DeferredSlot where
  entry : Option Deferred
  deriving DecidableEq, Repr

namespace DeferredSlot

def empty : DeferredSlot := ⟨none⟩

/-- Park an entry; what it replaces comes out. -/
def defer (slot : DeferredSlot) (entry : Deferred) : Option Deferred × DeferredSlot :=
  (slot.entry, ⟨some entry⟩)

/-- Take the entry out, which leaves the slot empty. -/
def take (slot : DeferredSlot) : Option Deferred × DeferredSlot := (slot.entry, empty)

def isPending (slot : DeferredSlot) : Bool := slot.entry.isSome

end DeferredSlot

/-- What the overlay remembers between two callbacks. -/
structure Memory where
  anchor : MenuAnchor
  pending : DeferredSlot
  deriving DecidableEq, Repr

/-- What a new overlay remembers: the default anchor, and no submenu that waits. -/
def Memory.initial : Memory := ⟨⟨0, 0⟩, .empty⟩

/-- What the host can be asked: questions about the surface and its settings, and commands. -/
inductive HostRequest where
  | radarArea
  | pixelToPosition (point : Point)
  | positionToPixel (position : GeoPosition)
  | displayArea
  | isController
  | loadSetting (key : String)
  | command (command : HostCommand)

/-- What the host answers with. A command is not answered. -/
abbrev HostRequest.Answer : HostRequest → Type
  | .radarArea => Rect
  | .pixelToPosition _ => GeoPosition
  | .positionToPixel _ => Point
  | .displayArea => GeoBox
  | .isController => Bool
  | .loadSetting _ => Option String
  | .command _ => Unit

/-- What the lighting client can be asked: questions about its data, and commands. -/
inductive ClientRequest where
  | connectionState
  | aerodrome
  | activity
  | profiles
  | profile
  | presets
  | views
  | view
  | clickRegions
  /-- Read the redraw flag and lower it. -/
  | takeRedraw
  | command (command : ClientCommand)

/-- What the client answers with. A command is not answered. -/
abbrev ClientRequest.Answer : ClientRequest → Type
  | .connectionState => ConnectionState
  | .aerodrome => Option String
  | .activity => ActivityState
  | .profiles | .presets | .views => List String
  | .profile | .view => Nat
  | .clickRegions => List Rect
  | .takeRedraw => Bool
  | .command _ => Unit

/-- What the canvas of a render pass can be asked. -/
inductive CanvasRequest where
  | surface
  | measureText (text : String)
  | saveTransform
  | command (command : CanvasCommand)

/-- What the canvas answers with. A command is not answered. -/
abbrev CanvasRequest.Answer : CanvasRequest → Type
  | .surface => SurfaceHandle
  | .measureText _ => SizeF
  | .saveTransform => TransformState
  | .command _ => Unit

/-- What a callback asks. -/
inductive OverlayRequest where
  | host (request : HostRequest)
  | client (request : ClientRequest)
  | canvas (request : CanvasRequest)
  | readMemory
  | writeMemory (memory : Memory)
  | note (notice : Notice)

/-- What a callback gets for what it asks. -/
abbrev OverlayRequest.Answer : OverlayRequest → Type
  | .host request => request.Answer
  | .client request => request.Answer
  | .canvas request => request.Answer
  | .readMemory => Memory
  | .writeMemory _ => Unit
  | .note _ => Unit

/-- The vocabulary of the overlay's callbacks. -/
abbrev Overlay : Vocabulary := ⟨OverlayRequest, OverlayRequest.Answer⟩

/-- A program of the overlay, which the host, the client and the canvas of the moment answer. -/
abbrev Callback (α : Type) := Program Overlay α

/-- An exchange that changes something outside the overlay. -/
inductive Effect where
  | host (command : HostCommand)
  | client (command : ClientCommand)
  | canvas (command : CanvasCommand)
  /-- The canvas saved its transform under this name. -/
  | saved (state : TransformState)

/-- The effect of an exchange, if it has one. Reading the redraw flag counts as a question. -/
def Exchange.effect? : Exchange Overlay → Option Effect
  | ⟨.host (.command c), _⟩ => some (.host c)
  | ⟨.client (.command c), _⟩ => some (.client c)
  | ⟨.canvas (.command c), _⟩ => some (.canvas c)
  | ⟨.canvas .saveTransform, state⟩ => some (.saved state)
  | _ => none

/-- The notice that an exchange writes, if it writes one. -/
def Exchange.notice? : Exchange Overlay → Option Notice
  | ⟨.note notice, _⟩ => some notice
  | _ => none

/-- What a record of exchanges changes outside the overlay, in order. -/
def effects (trace : List (Exchange Overlay)) : List Effect := trace.filterMap Exchange.effect?

/-- What a record of exchanges writes to the log, in order. -/
def notices (trace : List (Exchange Overlay)) : List Notice := trace.filterMap Exchange.notice?

/-- The effects of two records in a row are those of the first, then those of the second. -/
@[simp] theorem effects_append (first second : List (Exchange Overlay)) :
    effects (first ++ second) = effects first ++ effects second := by
  simp [effects]

theorem host_mem_effects {trace : List (Exchange Overlay)} {command : HostCommand} :
    .host command ∈ effects trace ↔ ⟨.host (.command command), ()⟩ ∈ trace := by
  rw [effects, List.mem_filterMap]
  constructor
  · rintro ⟨x, member, found⟩
    unfold Exchange.effect? at found
    split at found <;> cases found
    exact member
  · intro member
    exact ⟨_, member, rfl⟩

theorem client_mem_effects {trace : List (Exchange Overlay)} {command : ClientCommand} :
    .client command ∈ effects trace ↔ ⟨.client (.command command), ()⟩ ∈ trace := by
  rw [effects, List.mem_filterMap]
  constructor
  · rintro ⟨x, member, found⟩
    unfold Exchange.effect? at found
    split at found <;> cases found
    exact member
  · intro member
    exact ⟨_, member, rfl⟩

@[simp] theorem notices_append (first second : List (Exchange Overlay)) :
    notices (first ++ second) = notices first ++ notices second := by
  simp [notices]

/-- The overlay's memory together with its surroundings. -/
structure Situation (H C K : Type) where
  memory : Memory
  host : H
  client : C
  canvas : K

section

variable {H C K : Type} [Host H] [LightingClient C] [Canvas K]

/-- How a host answers. Only a command changes it. -/
def HostRequest.serve : (request : HostRequest) → H → request.Answer × H
  | .radarArea, h => (Host.radarArea h, h)
  | .pixelToPosition point, h => (Host.pixelToPosition h point, h)
  | .positionToPixel position, h => (Host.positionToPixel h position, h)
  | .displayArea, h => (Host.displayArea h, h)
  | .isController, h => (Host.isController h, h)
  | .loadSetting key, h => (Host.loadSetting h key, h)
  | .command c, h => ((), Host.obey c h)

/-- How a client answers. Only a command and reading the redraw flag change it. -/
def ClientRequest.serve : (request : ClientRequest) → C → request.Answer × C
  | .connectionState, c => (LightingClient.connectionState c, c)
  | .aerodrome, c => (LightingClient.aerodrome c, c)
  | .activity, c => (LightingClient.activity c, c)
  | .profiles, c => (LightingClient.profiles c, c)
  | .profile, c => (LightingClient.profile c, c)
  | .presets, c => (LightingClient.presets c, c)
  | .views, c => (LightingClient.views c, c)
  | .view, c => (LightingClient.view c, c)
  | .clickRegions, c => (LightingClient.clickRegions c, c)
  | .takeRedraw, c => LightingClient.takeRedraw c
  | .command order, c => ((), LightingClient.obey order c)

/-- How a canvas answers. Only a command and saving change it. -/
def CanvasRequest.serve : (request : CanvasRequest) → K → request.Answer × K
  | .surface, k => (Canvas.surface k, k)
  | .measureText text, k => (Canvas.measureText k text, k)
  | .saveTransform, k => Canvas.saveTransform k
  | .command c, k => ((), Canvas.obey c k)

/-- How the overlay's memory and its surroundings answer a callback. -/
def OverlayRequest.serve : Surroundings Overlay (Situation H C K)
  | .host request, s =>
    let reply := request.serve s.host
    (reply.1, { s with host := reply.2 })
  | .client request, s =>
    let reply := request.serve s.client
    (reply.1, { s with client := reply.2 })
  | .canvas request, s =>
    let reply := request.serve s.canvas
    (reply.1, { s with canvas := reply.2 })
  | .readMemory, s => (s.memory, s)
  | .writeMemory memory, s => ((), { s with memory := memory })
  | .note _, s => ((), s)

/-- Run a callback in its surroundings. -/
def Overlay.run {α : Type} (callback : Callback α) (s : Situation H C K) :
    Outcome Overlay (Situation H C K) α :=
  Program.run OverlayRequest.serve callback s

end

/-! The single steps a callback is built from. -/

namespace Overlay

@[simp] def readMemory : Callback Memory := Program.request (V := Overlay) .readMemory

@[simp] def writeMemory (memory : Memory) : Callback Unit :=
  Program.request (V := Overlay) (.writeMemory memory)

/-- Write a line to the log. -/
@[simp] def note (notice : Notice) : Callback Unit := Program.request (V := Overlay) (.note notice)

@[simp] def askHost (request : HostRequest) : Callback request.Answer :=
  Program.request (V := Overlay) (.host request)

@[simp] def askClient (request : ClientRequest) : Callback request.Answer :=
  Program.request (V := Overlay) (.client request)

@[simp] def askCanvas (request : CanvasRequest) : Callback request.Answer :=
  Program.request (V := Overlay) (.canvas request)

@[simp] def tellHost (command : HostCommand) : Callback Unit := askHost (.command command)

@[simp] def tellClient (command : ClientCommand) : Callback Unit := askClient (.command command)

@[simp] def tellCanvas (command : CanvasCommand) : Callback Unit := askCanvas (.command command)

end Overlay

end RadarOverlay
