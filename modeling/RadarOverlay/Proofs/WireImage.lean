import RadarOverlay.Native.Screen
import RadarOverlay.Proofs.CleanRequests
import RadarOverlay.Proofs.WireCodes

/-!
Requests on the wire. A request of the overlay crosses the boundary as one call of the
function tables, whose answer is decoded, or it is answered on this side. Numbers are those
of the tables of codes, and texts the octets of a buffer up to its first zero. Main
statements: `speak_faithful` says that the adapter makes exactly the call of a request
and yields its decoded answer, and `wireImage_eq_none_iff` which requests have none.
-/
namespace RadarOverlay.Native

open Program Text

/-- How a request is met. -/
inductive Crossing (α : Type) where
  /-- On this side, with an answer of its own. -/
  | inside (answer : α)
  /-- By one call, whose answer is decoded. -/
  | call (native : NativeCall) (decode : native.Answer → α)

namespace Crossing

variable {α σ : Type}

def call? : Crossing α → Option NativeCall
  | .inside _ => none
  | .call native _ => some native

/-- What is answered when `outside` is on the other side. -/
def answer (outside : Outside σ) : Crossing α → σ → α × σ
  | .inside answer, o => (answer, o)
  | .call native decode, o =>
    let reply := outside native o
    (decode reply.1, reply.2)

/-- A command crosses as its call, if it has one. -/
def ofCommand : Option NativeCall → Crossing Unit
  | none => .inside ()
  | some native => .call native fun _ => ()

@[simp] theorem call?_ofCommand (native : Option NativeCall) :
    (ofCommand native).call? = native := by
  cases native <;> rfl

end Crossing

/-- The text in a buffer: its octets before the first zero, with each fault replaced. -/
def bufferText (buffer : List UInt8) : String := lossy (buffer.takeWhile (· != 0))

/-- The texts of a list; there are none where the list is missing. -/
def bufferTexts (list : BufferList) : List String := (list.getD []).map bufferText

/-- The call of a command to the host: texts in zero-terminated form, functions as ids, and kinds as
their numbers. -/
def hostCall? : HostCommand → Option NativeCall
  | .openPopupList area title columns =>
    (Terminated.ofString? title).map (.openPopupList area · columns)
  | .addPopupListElement element => do
    let label ← Terminated.ofString? element.label
    let function ← element.function.encode.toOption
    let checkbox ← checkboxCodes.number? element.checkbox
    some (.addPopupListElement label function checkbox element.disabled)
  | .openPopupEdit area submitted initial => do
    let initial ← Terminated.ofString? initial
    let function ← submitted.encode.toOption
    some (.openPopupEdit area function initial)
  | .addScreenObject object area movable =>
    (objectCodes.number? object).map (.addScreenObject · area movable)
  | .refreshMapContent => some .refreshMapContent
  | .saveSetting key description value => do
    let key ← Terminated.ofString? key
    let description ← Terminated.ofString? description
    let value ← Terminated.ofString? value
    some (.saveSetting key description value)

def hostCrossing : (request : HostRequest) → Crossing request.Answer
  | .radarArea => .call .radarArea id
  | .pixelToPosition point => .call (.pixelToPosition point) id
  | .positionToPixel position => .call (.positionToPixel position) id
  | .displayArea => .call .displayArea id
  | .isController => .call .isController id
  | .loadSetting key =>
    match Terminated.ofString? key with
    | none => .inside none
    | some key => .call (.loadSetting key) (·.map bufferText)
  | .command command => .ofCommand (hostCall? command)

/-- The call of a command to the client: states and kinds as numbers, viewports flat. -/
def clientCall? (screen : Handle) : ClientCommand → Option NativeCall
  | .setAerodrome none => some (.setAerodrome screen none)
  | .setAerodrome (some icao) =>
    (Terminated.ofString? icao).map fun icao => .setAerodrome screen (some icao)
  | .setActivity activity => (activityCodes.number? activity).map (.setActivity screen)
  | .setProfile index => some (.setProfile screen index)
  | .applyPreset index => some (.applyPreset screen index)
  | .setView index => some (.setView screen index)
  | .drawBackground surface viewport =>
    some (.drawBackground screen surface.value (flatViewport viewport))
  | .setViewport viewport => some (.setViewport screen (flatViewport viewport))
  | .drawForeground surface => some (.drawForeground screen surface.value)
  | .handleClick point click => (clickCodes.number? click).map (.handleClick screen point)

/-- How a request to the client crosses. A number without a meaning reads as no connection, or as
no activity. -/
def clientCrossing (screen : Handle) : (request : ClientRequest) → Crossing request.Answer
  | .connectionState =>
    .call .connectionState fun number => (connectionCodes.lookup number).getD .disconnected
  | .aerodrome => .call (.getAerodrome screen) (·.map bufferText)
  | .activity =>
    .call (.getActivity screen) fun number => (activityCodes.lookup number).getD .none
  | .profiles => .call (.getProfiles screen) bufferTexts
  | .profile => .call (.getProfile screen) id
  | .presets => .call (.getPresets screen) bufferTexts
  | .views => .call (.getViews screen) bufferTexts
  | .view => .call (.getView screen) id
  | .clickRegions => .call (.getClickRegions screen) (·.getD [])
  | .takeRedraw => .call (.isBackgroundRefreshRequired screen) id
  | .command command => .ofCommand (clientCall? screen command)

def canvasCall? (graphics : Handle) : CanvasCommand → Option NativeCall
  | .drawText text origin color =>
    (Terminated.ofString? text).map (.drawText graphics · origin color)
  | .fillRect area color => some (.fillRect graphics area color)
  | .drawLines points color => some (.drawLines graphics points color)
  | .translate dx dy => some (.translate graphics dx dy)
  | .restore state => some (.restore graphics state.value)

/-- How a request to the canvas crosses. The device context is known on this side. -/
def canvasCrossing (context : Adapter.Context) :
    (request : CanvasRequest) → Crossing request.Answer
  | .surface => .inside ⟨context.device⟩
  | .measureText text =>
    match Terminated.ofString? text with
    | none => .inside ⟨0, 0⟩
    | some text => .call (.measureText context.graphics text) id
  | .saveTransform => .call (.save context.graphics) (⟨·⟩)
  | .command command => .ofCommand (canvasCall? context.graphics command)

/-- The wire image of a request: the call it crosses as. -/
def wireImage (screen : Handle) (context : Adapter.Context) : OverlayRequest → Option NativeCall
  | .host request => (hostCrossing request).call?
  | .client request => (clientCrossing screen request).call?
  | .canvas request => (canvasCrossing context request).call?
  | .readMemory | .writeMemory _ | .note _ => none

/-- Host, client and canvas as the overlay sees them through the boundary, next to its memory. -/
def decoded {σ : Type} (outside : Outside σ) (screen : Handle) (context : Adapter.Context) :
    Surroundings Overlay (ShellSituation σ)
  | .host request, s =>
    let reply := (hostCrossing request).answer outside s.outside
    (reply.1, { s with outside := reply.2 })
  | .client request, s =>
    let reply := (clientCrossing screen request).answer outside s.outside
    (reply.1, { s with outside := reply.2 })
  | .canvas request, s =>
    let reply := (canvasCrossing context request).answer outside s.outside
    (reply.1, { s with outside := reply.2 })
  | .readMemory, s => (s.memory, s)
  | .writeMemory memory, s => ((), { s with memory := memory })
  | .note _, s => ((), s)

section

variable {α σ : Type} {outside : Outside σ}

/-- A program of the shell meets a request in its crossing: it makes the call, if there is one, and
yields the answer. -/
def Meets (outside : Outside σ) (p : ShellProgram α) (crossing : Crossing α) : Prop :=
  ∀ s, ∃ trace, Shell.calls trace = crossing.call?.toList ∧
    Shell.run outside p s = ⟨.ok (crossing.answer outside s.outside).1,
      { s with outside := (crossing.answer outside s.outside).2 }, trace⟩

theorem done_meets (a : α) : Meets outside (.done a) (.inside a) := fun _ => ⟨_, rfl, rfl⟩

theorem call_meets (native : NativeCall) : Meets outside (Shell.call native) (.call native id) :=
  fun _ => ⟨_, rfl, rfl⟩

theorem decode_meets (native : NativeCall) (decode : native.Answer → α) :
    Meets outside ((Shell.call native).bind fun answer => .done (decode answer))
      (.call native decode) := fun _ => ⟨_, rfl, rfl⟩

theorem note_meets {p : ShellProgram α} {crossing : Crossing α} (notice : Notice)
    (meets : Meets outside p crossing) :
    Meets outside ((Shell.note notice).bind fun _ => p) crossing := by
  intro s
  obtain ⟨trace, calls, ran⟩ := meets s
  refine ⟨⟨.note notice, ()⟩ :: trace, calls, ?_⟩
  rw [Shell.run] at ran ⊢
  simp only [Shell.note, request, ask_bind, done_bind, run, Shell.serve, ran]

/-- A text goes on in zero-terminated form, if it has one. -/
theorem terminated_meets (text : String) {f : Option Terminated → ShellProgram α}
    {crossing : Crossing α}
    (meets : ∀ t, Terminated.ofString? text = t → Meets outside (f t) crossing) :
    Meets outside ((Shell.terminated text).bind f) crossing := by
  unfold Shell.terminated
  cases known : Terminated.ofString? text with
  | none => exact note_meets _ (meets none known)
  | some t => exact meets (some t) known

/-- A function goes on as its id, if it has one. -/
theorem encoded_meets (function : TagFunction) {f : Option Int32 → ShellProgram α}
    {crossing : Crossing α}
    (meets : ∀ id, function.encode.toOption = id → Meets outside (f id) crossing) :
    Meets outside ((Shell.encoded function).bind f) crossing := by
  unfold Shell.encoded
  cases encoded : function.encode with
  | error cause => exact note_meets _ (meets none (by rw [encoded]; rfl))
  | ok id => exact meets (some id) (by rw [encoded]; rfl)

theorem hostCommand_meets (command : HostCommand) :
    Meets outside (Adapter.hostCommand command) (.ofCommand (hostCall? command)) := by
  cases command with
  | openPopupList area title columns =>
    refine terminated_meets title fun t known => ?_
    simp only [hostCall?, known]
    cases t with
    | none => exact done_meets ()
    | some t => exact call_meets _
  | addPopupListElement element =>
    refine terminated_meets element.label fun label labelled => ?_
    refine encoded_meets element.function fun id encoded => ?_
    simp only [hostCall?, labelled, encoded, number?_checkbox]
    cases label <;> cases id <;> first | exact done_meets () | exact call_meets _
  | openPopupEdit area submitted initial =>
    refine terminated_meets initial fun t known => ?_
    refine encoded_meets submitted fun id encoded => ?_
    simp only [hostCall?, known, encoded]
    cases t <;> cases id <;> first | exact done_meets () | exact call_meets _
  | addScreenObject object area movable =>
    simp only [hostCall?, number?_object]
    exact call_meets _
  | refreshMapContent => exact call_meets _
  | saveSetting key description value =>
    refine terminated_meets key fun key keyed => ?_
    refine terminated_meets description fun description described => ?_
    refine terminated_meets value fun value valued => ?_
    simp only [hostCall?, keyed, described, valued]
    cases key <;> cases description <;> cases value <;>
      first | exact done_meets () | exact call_meets _

theorem host_meets (request : HostRequest) :
    Meets outside (Adapter.host request) (hostCrossing request) := by
  cases request with
  | loadSetting key =>
    refine terminated_meets key fun t known => ?_
    simp only [hostCrossing, known]
    cases t with
    | none => exact done_meets none
    | some t => exact decode_meets _ _
  | command command => exact hostCommand_meets command
  | _ => exact call_meets _

theorem clientCommand_meets (screen : Handle) (command : ClientCommand) :
    Meets outside (Adapter.clientCommand screen command)
      (.ofCommand (clientCall? screen command)) := by
  cases command with
  | setAerodrome icao =>
    cases icao with
    | none => exact call_meets _
    | some icao =>
      refine terminated_meets icao fun t known => ?_
      simp only [clientCall?, known]
      cases t with
      | none => exact done_meets ()
      | some t => exact call_meets _
  | setActivity activity =>
    simp only [clientCall?, number?_activity]
    exact call_meets _
  | drawBackground surface viewport =>
    simp only [clientCall?, ← of_eq_flatViewport]
    exact call_meets _
  | setViewport viewport =>
    simp only [clientCall?, ← of_eq_flatViewport]
    exact call_meets _
  | handleClick point click =>
    simp only [clientCall?, number?_click]
    exact call_meets _
  | _ => exact call_meets _

theorem client_meets (screen : Handle) (request : ClientRequest) :
    Meets outside (Adapter.client screen request) (clientCrossing screen request) := by
  cases request with
  | command command => exact clientCommand_meets screen command
  | connectionState =>
    simp only [clientCrossing, ← connectionOfRaw_eq_lookup]
    exact decode_meets _ _
  | activity =>
    simp only [clientCrossing, ← activityOfRaw_eq_lookup]
    exact decode_meets _ _
  | _ => exact decode_meets _ _

theorem canvas_meets (context : Adapter.Context) (request : CanvasRequest) :
    Meets outside (Adapter.canvas context request) (canvasCrossing context request) := by
  cases request with
  | surface => exact done_meets _
  | measureText text =>
    refine terminated_meets text fun t known => ?_
    simp only [canvasCrossing, known]
    cases t with
    | none => exact done_meets _
    | some t => exact call_meets _
  | saveTransform => exact decode_meets _ _
  | command command =>
    cases command with
    | drawText text origin color =>
      refine terminated_meets text fun t known => ?_
      simp only [canvasCrossing, canvasCall?, known]
      cases t with
      | none => exact done_meets ()
      | some t => exact call_meets _
    | _ => exact call_meets _

/-- The adapter says a request in exactly its call, if it has one, and yields the answer that the
overlay sees through the boundary. -/
theorem speak_faithful (screen : Handle) (context : Adapter.Context) (request : OverlayRequest)
    (s : ShellSituation σ) :
    ∃ trace, trace.filterMap Shell.callOf? = (wireImage screen context request).toList ∧
      (Adapter.speak screen context request).run (Shell.serve outside) s =
        ⟨.ok (decoded outside screen context request s).1,
          (decoded outside screen context request s).2, trace⟩ := by
  cases request with
  | host request => exact host_meets request s
  | client request => exact client_meets screen request s
  | canvas request => exact canvas_meets context request s
  | _ => exact ⟨_, rfl, rfl⟩

end

/-- A call that creates or gives back the client's screen or a graphics context. -/
def NativeCall.isLifecycle : NativeCall → Bool
  | .createScreen _ | .destroyScreen _ | .createGraphics _ | .releaseGraphics _ => true
  | _ => false

/-- Whom a call is made to. The calls that create and give back stand apart. -/
inductive Party where
  | host
  | client
  | canvas (graphics : Handle)
  | lifecycle
  deriving DecidableEq, Repr

def NativeCall.party : NativeCall → Party
  | .createScreen _ | .destroyScreen _ | .createGraphics _ | .releaseGraphics _ => .lifecycle
  | .measureText graphics _ | .drawText graphics .. | .fillRect graphics ..
  | .drawLines graphics .. | .save graphics | .translate graphics ..
  | .restore graphics _ => .canvas graphics
  | .radarArea | .pixelToPosition _ | .positionToPixel _ | .displayArea | .isController
  | .openPopupList .. | .addPopupListElement .. | .openPopupEdit .. | .addScreenObject ..
  | .refreshMapContent | .loadSetting _ | .saveSetting .. => .host
  | _ => .client

theorem NativeCall.isLifecycle_of_party {native : NativeCall} (other : native.party ≠ .lifecycle) :
    native.isLifecycle = false := by
  cases native <;> first | rfl | exact absurd rfl other

theorem hostCall?_party {command : HostCommand} {native : NativeCall}
    (image : hostCall? command = some native) : native.party = .host := by
  cases command with
  | openPopupList area title columns =>
    obtain ⟨title, -, rfl⟩ := Option.map_eq_some_iff.mp image
    rfl
  | addPopupListElement element =>
    obtain ⟨label, -, image⟩ := Option.bind_eq_some_iff.mp image
    obtain ⟨function, -, image⟩ := Option.bind_eq_some_iff.mp image
    obtain ⟨checkbox, -, image⟩ := Option.bind_eq_some_iff.mp image
    cases image
    rfl
  | openPopupEdit area submitted initial =>
    obtain ⟨initial, -, image⟩ := Option.bind_eq_some_iff.mp image
    obtain ⟨function, -, image⟩ := Option.bind_eq_some_iff.mp image
    cases image
    rfl
  | saveSetting key description value =>
    obtain ⟨key, -, image⟩ := Option.bind_eq_some_iff.mp image
    obtain ⟨description, -, image⟩ := Option.bind_eq_some_iff.mp image
    obtain ⟨value, -, image⟩ := Option.bind_eq_some_iff.mp image
    cases image
    rfl
  | addScreenObject object area movable =>
    obtain ⟨number, -, rfl⟩ := Option.map_eq_some_iff.mp image
    rfl
  | refreshMapContent =>
    cases image
    rfl

theorem clientCall?_party {screen : Handle} {command : ClientCommand} {native : NativeCall}
    (image : clientCall? screen command = some native) : native.party = .client := by
  cases command with
  | setAerodrome icao =>
    cases icao with
    | none => cases image; rfl
    | some icao =>
      obtain ⟨icao, -, rfl⟩ := Option.map_eq_some_iff.mp image
      rfl
  | setActivity activity =>
    obtain ⟨number, -, rfl⟩ := Option.map_eq_some_iff.mp image
    rfl
  | handleClick point click =>
    obtain ⟨number, -, rfl⟩ := Option.map_eq_some_iff.mp image
    rfl
  | _ => cases image; rfl

theorem canvasCall?_party {graphics : Handle} {command : CanvasCommand} {native : NativeCall}
    (image : canvasCall? graphics command = some native) : native.party = .canvas graphics := by
  cases command with
  | drawText text origin color =>
    obtain ⟨text, -, rfl⟩ := Option.map_eq_some_iff.mp image
    rfl
  | _ => cases image; rfl

/-- Whom the calls of a request are made to. -/
def OverlayRequest.party? (context : Adapter.Context) : OverlayRequest → Option Party
  | .host _ => some .host
  | .client _ => some .client
  | .canvas _ => some (.canvas context.graphics)
  | .readMemory | .writeMemory _ | .note _ => none

/-- The wire image of a request is a call to the party that the request is for. -/
theorem wireImage_party {screen : Handle} {context : Adapter.Context} {request : OverlayRequest}
    {native : NativeCall} (image : wireImage screen context request = some native) :
    OverlayRequest.party? context request = some native.party := by
  cases request with
  | host request =>
    cases request with
    | loadSetting key =>
      rw [wireImage, hostCrossing] at image
      split at image <;> cases image
      rfl
    | command command =>
      rw [wireImage, hostCrossing, Crossing.call?_ofCommand] at image
      exact congrArg some (hostCall?_party image).symm
    | _ => cases image; rfl
  | client request =>
    cases request with
    | command command =>
      rw [wireImage, clientCrossing, Crossing.call?_ofCommand] at image
      exact congrArg some (clientCall?_party image).symm
    | _ => cases image; rfl
  | canvas request =>
    cases request with
    | measureText text =>
      rw [wireImage, canvasCrossing] at image
      split at image <;> cases image
      rfl
    | command command =>
      rw [wireImage, canvasCrossing, Crossing.call?_ofCommand] at image
      exact congrArg some (canvasCall?_party image).symm
    | _ => cases image <;> rfl
  | _ => cases image

/-- No wire image creates a screen or a graphics context, or gives one back. -/
theorem wireImage_isLifecycle {screen : Handle} {context : Adapter.Context}
    {request : OverlayRequest} {native : NativeCall}
    (image : wireImage screen context request = some native) : native.isLifecycle = false := by
  have made := wireImage_party image
  apply NativeCall.isLifecycle_of_party
  intro lifecycle
  rw [lifecycle] at made
  cases request <;> cases made

/-- A request that makes no call: one for the device context, an entry for a selection beyond what
an id can hold, and what concerns the overlay's memory and log. -/
def Omitted : OverlayRequest → Prop
  | .host (.command (.addPopupListElement element)) =>
    ∃ list index, element.function = SelectionList.submit list index ∧ 2 ^ 20 ≤ index
  | .canvas .surface | .readMemory | .writeMemory _ | .note _ => True
  | _ => False

/-- A function without an id is a selection beyond what an id can hold. -/
theorem encode_eq_none_iff (f : TagFunction) : f.encode.toOption = none ↔
    ∃ list index, f = SelectionList.submit list index ∧ 2 ^ 20 ≤ index := by
  have coded : f.encode.toOption = none ↔ payloadMax < f.payload := by
    rw [← Nat.not_le, ← TagFunction.encode_isOk_iff]
    cases f.encode <;> simp [Except.toOption]
  rw [coded, payloadMax]
  constructor
  · intro large
    cases f with
    | submitSelectProfile index => exact ⟨.profile, index, rfl, large⟩
    | submitSelectPreset index => exact ⟨.preset, index, rfl, large⟩
    | submitSelectView index => exact ⟨.view, index, rfl, large⟩
    | openSelectProfile step => cases step <;> exact absurd large (by decide)
    | openSelectPreset step => cases step <;> exact absurd large (by decide)
    | openSelectView step => cases step <;> exact absurd large (by decide)
    | _ => exact absurd large (by decide)
  · rintro ⟨list, index, rfl, large⟩
    cases list <;> exact large

theorem hostCall?_eq_none_iff {command : HostCommand}
    (clean : Overlay.clean.asks (.host (.command command))) :
    hostCall? command = none ↔ Omitted (.host (.command command)) := by
  obtain ⟨texts, fits⟩ := clean
  cases command with
  | openPopupList area title columns =>
    have title := ofString?_of_noZero (texts title (by simp))
    simp [hostCall?, title, Omitted]
  | addPopupListElement element =>
    have label := ofString?_of_noZero (texts element.label (by simp))
    rw [Omitted, ← encode_eq_none_iff]
    cases encoded : element.function.encode.toOption <;> simp [hostCall?, label, encoded]
  | openPopupEdit area submitted initial =>
    have initial := ofString?_of_noZero (texts initial (by simp))
    obtain ⟨id, encoded⟩ := TagFunction.encode_isOk_iff.mpr fits
    simp [hostCall?, initial, encoded, Except.toOption, Omitted]
  | saveSetting key description value =>
    have key := ofString?_of_noZero (texts key (by simp))
    have description := ofString?_of_noZero (texts description (by simp))
    have value := ofString?_of_noZero (texts value (by simp))
    simp [hostCall?, key, description, value, Omitted]
  | _ => simp [hostCall?, Omitted]

theorem clientCall?_ne_none (screen : Handle) {command : ClientCommand}
    (clean : Overlay.clean.asks (.client (.command command))) :
    clientCall? screen command ≠ none := by
  cases command with
  | setAerodrome icao =>
    cases icao with
    | none => simp [clientCall?]
    | some icao =>
      have icao := ofString?_of_noZero (clean.1 icao (by simp))
      simp [clientCall?, icao]
  | _ => simp [clientCall?]

theorem canvasCall?_ne_none (graphics : Handle) {command : CanvasCommand}
    (clean : Overlay.clean.asks (.canvas (.command command))) :
    canvasCall? graphics command ≠ none := by
  cases command with
  | drawText text origin color =>
    have text := ofString?_of_noZero (clean.1 text (by simp))
    simp [canvasCall?, text]
  | _ => simp [canvasCall?]

/-- Exactly the omitted ones among the clean requests make no call. -/
theorem wireImage_eq_none_iff {screen : Handle} {context : Adapter.Context}
    {request : OverlayRequest} (clean : Overlay.clean.asks request) :
    wireImage screen context request = none ↔ Omitted request := by
  cases request with
  | host request =>
    cases request with
    | loadSetting key =>
      have key := ofString?_of_noZero (clean.1 key (by simp))
      simp [wireImage, hostCrossing, key, Crossing.call?, Omitted]
    | command command =>
      rw [wireImage, hostCrossing, Crossing.call?_ofCommand]
      exact hostCall?_eq_none_iff clean
    | _ => simp [wireImage, hostCrossing, Crossing.call?, Omitted]
  | client request =>
    cases request with
    | command command =>
      rw [wireImage, clientCrossing, Crossing.call?_ofCommand]
      simp [clientCall?_ne_none screen clean, Omitted]
    | _ => simp [wireImage, clientCrossing, Crossing.call?, Omitted]
  | canvas request =>
    cases request with
    | measureText text =>
      have text := ofString?_of_noZero (clean.1 text (by simp))
      simp [wireImage, canvasCrossing, text, Crossing.call?, Omitted]
    | command command =>
      rw [wireImage, canvasCrossing, Crossing.call?_ofCommand]
      simp [canvasCall?_ne_none context.graphics clean, Omitted]
    | _ => simp [wireImage, canvasCrossing, Crossing.call?, Omitted]
  | _ => simp [wireImage, Omitted]

theorem noZero_bufferText (buffer : List UInt8) : NoZero (bufferText buffer) :=
  noZero_readTerminated buffer

theorem noZero_of_mem_bufferTexts {list : BufferList} :
    ∀ text ∈ bufferTexts list, NoZero text := by
  intro text member
  obtain ⟨buffer, -, rfl⟩ := List.mem_map.mp member
  exact noZero_bufferText buffer

/-- What the overlay sees through the boundary has no zero character in it. -/
theorem decoded_clean {σ : Type} (outside : Outside σ) (screen : Handle)
    (context : Adapter.Context) :
    Overlay.clean.KeptBy (decoded outside screen context) (fun _ => True) (fun _ => True) := by
  intro request s _ _ _
  refine ⟨?_, trivial⟩
  have read (buffer : Buffer) : ∀ text ∈ (buffer.map bufferText).toList, NoZero text := by
    cases buffer <;> simp [noZero_bufferText]
  cases request with
  | host request =>
    cases request with
    | loadSetting key =>
      simp only [Overlay.clean_relies, decoded, hostCrossing]
      cases Terminated.ofString? key with
      | none => simp [Crossing.answer]
      | some key => exact read _
    | _ => simp
  | client request =>
    cases request with
    | aerodrome => exact read _
    | profiles => exact noZero_of_mem_bufferTexts
    | presets => exact noZero_of_mem_bufferTexts
    | views => exact noZero_of_mem_bufferTexts
    | _ => simp
  | _ => simp

end RadarOverlay.Native
