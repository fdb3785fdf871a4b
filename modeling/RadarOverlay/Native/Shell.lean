import RadarOverlay.Controller.Vocabulary
import RadarOverlay.Native.Wire
import RadarOverlay.Text.Terminated

/-!
The vocabulary of the plugin shell: the calls of the host's and the client's function
tables with the values that really cross the boundary, next to the overlay's memory
and the log. Texts go out zero-terminated and come back as buffers; lists and texts
that come back may be missing.
-/
namespace RadarOverlay.Native

/-- An object of the other side, known by its address. -/
structure Handle where
  address : UInt64
  deriving DecidableEq, Repr

/-- A call through one of the function tables. -/
inductive NativeCall where
  | radarArea
  | pixelToPosition (point : Point)
  | positionToPixel (position : GeoPosition)
  | displayArea
  | isController
  | openPopupList (area : Rect) (title : Text.Terminated) (columns : Int32)
  | addPopupListElement (label : Text.Terminated) (function checkbox : Int32) (disabled : Bool)
  | openPopupEdit (area : Rect) (function : Int32) (initial : Text.Terminated)
  | addScreenObject (object : Int32) (area : Rect) (movable : Bool)
  | refreshMapContent
  | loadSetting (key : Text.Terminated)
  | saveSetting (key description value : Text.Terminated)
  | createGraphics (device : UInt64)
  | releaseGraphics (graphics : Handle)
  | measureText (graphics : Handle) (text : Text.Terminated)
  | drawText (graphics : Handle) (text : Text.Terminated) (origin : PointF) (color : Color)
  | fillRect (graphics : Handle) (area : Rect) (color : Color)
  | drawLines (graphics : Handle) (points : List Point) (color : Color)
  | save (graphics : Handle)
  | translate (graphics : Handle) (dx dy : Float32)
  | restore (graphics : Handle) (state : UInt32)
  | createScreen (geo : Bool)
  | destroyScreen (screen : Handle)
  | connectionState
  | getAerodrome (screen : Handle)
  | setAerodrome (screen : Handle) (icao : Option Text.Terminated)
  | getActivity (screen : Handle)
  | setActivity (screen : Handle) (activity : Int32)
  | getProfiles (screen : Handle)
  | getProfile (screen : Handle)
  | setProfile (screen : Handle) (index : Nat)
  | getPresets (screen : Handle)
  | applyPreset (screen : Handle) (index : Nat)
  | getViews (screen : Handle)
  | getView (screen : Handle)
  | setView (screen : Handle) (index : Nat)
  | drawBackground (screen : Handle) (device : UInt64) (viewport : RawViewport)
  | setViewport (screen : Handle) (viewport : RawViewport)
  | drawForeground (screen : Handle) (device : UInt64)
  | getClickRegions (screen : Handle)
  | isBackgroundRefreshRequired (screen : Handle)
  | handleClick (screen : Handle) (point : Point) (click : Int32)

/-- A text that comes back: the octets of its buffer, unless there is none. -/
abbrev Buffer := Option (List UInt8)

/-- A list of texts that comes back, unless there is none. -/
abbrev BufferList := Option (List (List UInt8))

/-- What a call returns. An address that may be null is an optional handle. -/
abbrev NativeCall.Answer : NativeCall → Type
  | .radarArea => Rect
  | .pixelToPosition _ => GeoPosition
  | .positionToPixel _ => Point
  | .displayArea => GeoBox
  | .isController => Bool
  | .loadSetting _ => Buffer
  | .createGraphics _ => Option Handle
  | .measureText .. => SizeF
  | .save _ => UInt32
  | .createScreen _ => Option Handle
  | .connectionState => Int32
  | .getAerodrome _ => Buffer
  | .getActivity _ => Int32
  | .getProfiles _ | .getPresets _ | .getViews _ => BufferList
  | .getProfile _ | .getView _ => Nat
  | .getClickRegions _ => Option (List Rect)
  | .isBackgroundRefreshRequired _ => Bool
  | _ => Unit

/-- What a program of the shell asks. -/
inductive ShellRequest where
  | call (native : NativeCall)
  | readMemory
  | writeMemory (memory : Memory)
  | note (notice : Notice)

/-- What the shell gets for what it asks. -/
abbrev ShellRequest.Answer : ShellRequest → Type
  | .call native => native.Answer
  | .readMemory => Memory
  | .writeMemory _ => Unit
  | .note _ => Unit

/-- The vocabulary of the plugin shell. -/
abbrev Shell : Vocabulary := ⟨ShellRequest, ShellRequest.Answer⟩

/-- A program of the shell, which the other side of the boundary answers. -/
abbrev ShellProgram (α : Type) := Program Shell α

/-- The overlay's memory together with the other side of the boundary. -/
structure ShellSituation (σ : Type) where
  memory : Memory
  outside : σ

/-- The other side of the boundary answers each call and moves on. -/
abbrev Outside (σ : Type) := (call : NativeCall) → σ → call.Answer × σ

namespace Shell

/-- How the shell is answered when `serve` is on the other side. -/
def serve {σ : Type} (outside : Outside σ) : Surroundings Shell (ShellSituation σ)
  | .call native, s =>
    let reply := outside native s.outside
    (reply.1, { s with outside := reply.2 })
  | .readMemory, s => (s.memory, s)
  | .writeMemory memory, s => ((), { s with memory := memory })
  | .note _, s => ((), s)

def run {σ α : Type} (outside : Outside σ) (program : ShellProgram α) (s : ShellSituation σ) :
    Outcome Shell (ShellSituation σ) α :=
  Program.run (serve outside) program s

/-- Make a call through one of the function tables. -/
def call (native : NativeCall) : ShellProgram native.Answer :=
  Program.request (V := Shell) (.call native)

def readMemory : ShellProgram Memory := Program.request (V := Shell) .readMemory

def writeMemory (memory : Memory) : ShellProgram Unit :=
  Program.request (V := Shell) (.writeMemory memory)

def note (notice : Notice) : ShellProgram Unit := Program.request (V := Shell) (.note notice)

/-- The call of an exchange, if it is one. -/
def callOf? : Exchange Shell → Option NativeCall
  | ⟨.call native, _⟩ => some native
  | _ => none

/-- The notice of an exchange, if it is one. -/
def noticeOf? : Exchange Shell → Option Notice
  | ⟨.note notice, _⟩ => some notice
  | _ => none

def calls (trace : List (Exchange Shell)) : List NativeCall := trace.filterMap callOf?

def notices (trace : List (Exchange Shell)) : List Notice := trace.filterMap noticeOf?

/-- The calls of two records in a row are those of the first, then those of the second. -/
@[simp] theorem calls_append (first second : List (Exchange Shell)) :
    calls (first ++ second) = calls first ++ calls second := by
  simp [calls]

end Shell

end RadarOverlay.Native
