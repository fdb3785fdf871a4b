import RadarOverlay.Native.Shell

/-!
The adapter: each request of a callback is said in calls of the function tables. A
command whose texts and functions can all be handed over is one call; a command with a
text or a function that cannot is no call at all, and each such part is noted.
-/
namespace RadarOverlay.Native

namespace Shell

/-- A text in the form it is handed over in; one that has none is noted. -/
def terminated (text : String) : ShellProgram (Option Text.Terminated) := do
  match Text.Terminated.ofString? text with
  | some t => return some t
  | none =>
    note (.textRejected text)
    return none

/-- The id of a function; one that has none is noted. -/
def encoded (function : TagFunction) : ShellProgram (Option Int32) := do
  match function.encode with
  | .ok id => return some id
  | .error error =>
    note (.functionRejected function error)
    return none

end Shell

/-- The texts of a list that comes back; a missing list is empty. -/
def readList (list : BufferList) : List String := (list.getD []).map Text.readTerminated

namespace Adapter

/-- A command to the host. All its texts and functions are tried, and each that cannot be handed
over is noted, before the call is made or left out. -/
def hostCommand : HostCommand → ShellProgram Unit
  | .openPopupList area title columns => do
    if let some title := ← Shell.terminated title then
      Shell.call (.openPopupList area title columns)
  | .addPopupListElement element => do
    let label ← Shell.terminated element.label
    let function ← Shell.encoded element.function
    match label, function with
    | some label, some function =>
      Shell.call (.addPopupListElement label function element.checkbox.id element.disabled)
    | _, _ => pure ()
  | .openPopupEdit area function initial => do
    let initial ← Shell.terminated initial
    let function ← Shell.encoded function
    match initial, function with
    | some initial, some function => Shell.call (.openPopupEdit area function initial)
    | _, _ => pure ()
  | .addScreenObject object area movable => Shell.call (.addScreenObject object.id area movable)
  | .refreshMapContent => Shell.call .refreshMapContent
  | .saveSetting key description value => do
    let key ← Shell.terminated key
    let description ← Shell.terminated description
    let value ← Shell.terminated value
    match key, description, value with
    | some key, some description, some value => Shell.call (.saveSetting key description value)
    | _, _, _ => pure ()

/-- A request to the host. A key that cannot be handed over has no setting. -/
def host : (request : HostRequest) → ShellProgram request.Answer
  | .radarArea => Shell.call .radarArea
  | .pixelToPosition point => Shell.call (.pixelToPosition point)
  | .positionToPixel position => Shell.call (.positionToPixel position)
  | .displayArea => Shell.call .displayArea
  | .isController => Shell.call .isController
  | .loadSetting key => do
    match ← Shell.terminated key with
    | some key =>
      let value ← Shell.call (.loadSetting key)
      return value.map Text.readTerminated
    | none => return none
  | .command command => hostCommand command

/-- A command to the lighting client, for the client's side of the screen. -/
def clientCommand (screen : Handle) : ClientCommand → ShellProgram Unit
  | .setAerodrome none => Shell.call (.setAerodrome screen none)
  | .setAerodrome (some icao) => do
    if let some icao := ← Shell.terminated icao then
      Shell.call (.setAerodrome screen (some icao))
  | .setActivity activity => Shell.call (.setActivity screen (activityToRaw activity))
  | .setProfile index => Shell.call (.setProfile screen index)
  | .applyPreset index => Shell.call (.applyPreset screen index)
  | .setView index => Shell.call (.setView screen index)
  | .drawBackground surface viewport =>
    Shell.call (.drawBackground screen surface.value (.of viewport))
  | .setViewport viewport => Shell.call (.setViewport screen (.of viewport))
  | .drawForeground surface => Shell.call (.drawForeground screen surface.value)
  | .handleClick point click => Shell.call (.handleClick screen point (clickToRaw click))

/-- A request to the lighting client. Numbers and buffers are read leniently: what is missing is
empty, and what is unknown counts as nothing. -/
def client (screen : Handle) : (request : ClientRequest) → ShellProgram request.Answer
  | .connectionState => do return connectionOfRaw (← Shell.call .connectionState)
  | .aerodrome => do return (← Shell.call (.getAerodrome screen)).map Text.readTerminated
  | .activity => do return activityOfRaw (← Shell.call (.getActivity screen))
  | .profiles => do return readList (← Shell.call (.getProfiles screen))
  | .profile => Shell.call (.getProfile screen)
  | .presets => do return readList (← Shell.call (.getPresets screen))
  | .views => do return readList (← Shell.call (.getViews screen))
  | .view => Shell.call (.getView screen)
  | .clickRegions => do return (← Shell.call (.getClickRegions screen)).getD []
  | .takeRedraw => Shell.call (.isBackgroundRefreshRequired screen)
  | .command command => clientCommand screen command

/-- A graphics context together with the device context it draws on. -/
structure Context where
  device : UInt64
  graphics : Handle
  deriving DecidableEq, Repr

/-- No context, as outside of the render passes. -/
def Context.null : Context := ⟨0, ⟨0⟩⟩

/-- A command to the canvas. A text that cannot be handed over is not drawn. -/
def canvasCommand (context : Context) : CanvasCommand → ShellProgram Unit
  | .drawText text origin color => do
    if let some text := ← Shell.terminated text then
      Shell.call (.drawText context.graphics text origin color)
  | .fillRect area color => Shell.call (.fillRect context.graphics area color)
  | .drawLines points color => Shell.call (.drawLines context.graphics points color)
  | .translate dx dy => Shell.call (.translate context.graphics dx dy)
  | .restore state => Shell.call (.restore context.graphics state.value)

/-- A request to the canvas. A text that cannot be handed over has no extent. -/
def canvas (context : Context) : (request : CanvasRequest) → ShellProgram request.Answer
  | .surface => pure ⟨context.device⟩
  | .measureText text => do
    match ← Shell.terminated text with
    | some text => Shell.call (.measureText context.graphics text)
    | none => return ⟨0, 0⟩
  | .saveTransform => do return ⟨← Shell.call (.save context.graphics)⟩
  | .command command => canvasCommand context command

/-- How each request of a callback is said across the boundary, for one screen and one context. -/
def speak (screen : Handle) (context : Context) :
    (request : OverlayRequest) → ShellProgram request.Answer
  | .host request => host request
  | .client request => client screen request
  | .canvas request => canvas context request
  | .readMemory => Shell.readMemory
  | .writeMemory memory => Shell.writeMemory memory
  | .note notice => Shell.note notice

/-- Create the client's side of a screen; a refusal is noted. -/
def openClient (geo : Bool) : ShellProgram (Option Handle) := do
  match ← Shell.call (.createScreen geo) with
  | some screen => return some screen
  | none =>
    Shell.note .screenRefused
    return none

/-- Create a graphics context. There is none without a device context. -/
def openCanvas (device : UInt64) : ShellProgram (Option Context) := do
  if device = 0 then return none
  match ← Shell.call (.createGraphics device) with
  | some graphics => return some ⟨device, graphics⟩
  | none =>
    Shell.note (.graphicsRefused device)
    return none

/-- Give a graphics context back. -/
def closeCanvas (context : Context) : ShellProgram Unit :=
  Shell.call (.releaseGraphics context.graphics)

/-- Give the client's side of a screen back. -/
def closeClient (screen : Handle) : ShellProgram Unit := Shell.call (.destroyScreen screen)

end Adapter

end RadarOverlay.Native
