import RadarOverlay.Proofs.FunctionIds
import RadarOverlay.Proofs.ReadBack
import RadarOverlay.Simulation.NativeScene

/-!
Calls of the adapter are whole or not made. A request whose texts and functions can all be handed
over is one call, and the other side reads the request back from it; any other request is noted and
makes no call, so it changes nothing. Main statements: `isSome_wireImage_iff` says which requests
have a call, `notices_speak` what is noted, and `calls_are_whole_or_absent` both together, and what
becomes of a target that is set.
-/
namespace RadarOverlay

/-! ## What cannot be handed over -/

/-- What is noted of a text: nothing, unless it has a zero character. -/
def refusedText (text : String) : List Notice :=
  if Text.NoZero text then [] else [.textRejected text]

/-- What is noted of a function: nothing, unless it has no id. -/
def refusedFunction (function : TagFunction) : List Notice :=
  match function.encode with
  | .ok _ => []
  | .error error => [.functionRejected function error]

/-- The functions that a request hands over. -/
@[simp] def OverlayRequest.functions : OverlayRequest → List TagFunction
  | .host (.command (.addPopupListElement element)) => [element.function]
  | .host (.command (.openPopupEdit _ function _)) => [function]
  | _ => []

/-- All texts and functions of a request can be handed over. -/
def OverlayRequest.Encodable (request : OverlayRequest) : Prop :=
  (∀ text ∈ request.texts, Text.NoZero text) ∧
    ∀ function ∈ request.functions, ∀ index, function.index? = some index → index < 2 ^ 20

/-- What is noted of a request: each of its texts and functions that cannot be handed over. -/
def OverlayRequest.refusals (request : OverlayRequest) : List Notice :=
  request.texts.flatMap refusedText ++ request.functions.flatMap refusedFunction

/-- A request that is for the other side of the boundary. The device context is known on this
side. -/
def OverlayRequest.Crosses : OverlayRequest → Prop
  | .host _ | .client _ => True
  | .canvas .surface => False
  | .canvas _ => True
  | .readMemory | .writeMemory _ | .note _ => False

namespace Native

open Program Text Simulation

theorem refusedText_eq_nil_iff {text : String} : refusedText text = [] ↔ NoZero text := by
  unfold refusedText
  split <;> simp [*]

theorem refusedFunction_eq_nil_iff {function : TagFunction} : refusedFunction function = [] ↔
    ∀ index, function.index? = some index → index < 2 ^ 20 := by
  rw [← function.encode_isOk_iff_index, refusedFunction]
  cases function.encode <;> simp

/-- Nothing is noted of a request exactly if all of it can be handed over. -/
theorem refusals_eq_nil_iff {request : OverlayRequest} :
    request.refusals = [] ↔ request.Encodable := by
  simp only [OverlayRequest.refusals, OverlayRequest.Encodable, List.append_eq_nil_iff,
    List.flatMap_eq_nil_iff, refusedText_eq_nil_iff, refusedFunction_eq_nil_iff]

theorem level_of_mem_refusals {request : OverlayRequest} {notice : Notice}
    (member : notice ∈ request.refusals) : notice.level = .warn := by
  rcases List.mem_append.mp member with member | member
  · obtain ⟨text, -, member⟩ := List.mem_flatMap.mp member
    unfold refusedText at member
    split at member <;> simp at member
    rw [member]
    rfl
  · obtain ⟨function, -, member⟩ := List.mem_flatMap.mp member
    unfold refusedFunction at member
    split at member <;> simp at member
    rw [member]
    rfl

/-! ## Which requests have a call -/

theorem ofString?_of_zero {text : String} (zero : ¬ NoZero text) :
    Terminated.ofString? text = none := dif_neg zero

theorem isSome_ofString?_iff {text : String} :
    (Terminated.ofString? text).isSome ↔ NoZero text := by
  by_cases clean : NoZero text
  · simp [ofString?_of_noZero clean, clean]
  · simp [ofString?_of_zero clean, clean]

theorem isSome_encode_iff {function : TagFunction} : function.encode.toOption.isSome ↔
    ∀ index, function.index? = some index → index < 2 ^ 20 := by
  rw [← function.encode_isOk_iff_index]
  cases function.encode <;> simp [Except.toOption]

theorem isSome_hostCall?_iff {command : HostCommand} :
    (hostCall? command).isSome ↔ (OverlayRequest.host (.command command)).Encodable := by
  simp only [OverlayRequest.Encodable, ← isSome_ofString?_iff, ← isSome_encode_iff]
  cases command with
  | openPopupList area title columns => simp [hostCall?]
  | addPopupListElement element =>
    cases label : Terminated.ofString? element.label <;>
      cases function : element.function.encode.toOption <;> simp [hostCall?, label, function]
  | openPopupEdit area submitted initial =>
    cases text : Terminated.ofString? initial <;>
      cases function : submitted.encode.toOption <;> simp [hostCall?, text, function]
  | saveSetting key description value =>
    cases keyed : Terminated.ofString? key <;>
      cases described : Terminated.ofString? description <;>
        cases valued : Terminated.ofString? value <;>
          simp [hostCall?, keyed, described, valued]
  | _ => simp [hostCall?]

/-- A request has a call exactly if all of it can be handed over. -/
theorem isSome_wireImage_iff (screen : Handle) (context : Adapter.Context)
    {request : OverlayRequest} (crosses : request.Crosses) :
    (wireImage screen context request).isSome ↔ request.Encodable := by
  cases request with
  | host request =>
    cases request with
    | loadSetting key =>
      simp only [OverlayRequest.Encodable, ← isSome_ofString?_iff, wireImage, hostCrossing]
      cases known : Terminated.ofString? key <;> simp [Crossing.call?, known]
    | command command =>
      rw [wireImage, hostCrossing, Crossing.call?_ofCommand]
      exact isSome_hostCall?_iff
    | _ => simp [wireImage, hostCrossing, Crossing.call?, OverlayRequest.Encodable]
  | client request =>
    cases request with
    | command command =>
      simp only [wireImage, clientCrossing, Crossing.call?_ofCommand, OverlayRequest.Encodable,
        ← isSome_ofString?_iff]
      cases command with
      | setAerodrome icao => cases icao <;> simp [clientCall?]
      | _ => simp [clientCall?]
    | _ => simp [wireImage, clientCrossing, Crossing.call?, OverlayRequest.Encodable]
  | canvas request =>
    simp only [OverlayRequest.Encodable, ← isSome_ofString?_iff, wireImage, canvasCrossing]
    cases request with
    | surface => exact crosses.elim
    | measureText text =>
      cases known : Terminated.ofString? text <;> simp [Crossing.call?, known]
    | saveTransform => simp [Crossing.call?]
    | command command =>
      rw [Crossing.call?_ofCommand]
      cases command <;> simp [canvasCall?]
  | _ => exact crosses.elim

/-! ## What is noted -/

section

variable {α σ : Type} {outside : Outside σ}

/-- A program of the shell notes exactly some notices, wherever it is run. -/
def Notes (outside : Outside σ) (p : ShellProgram α) (noted : List Notice) : Prop :=
  ∀ s, Shell.notices (Shell.run outside p s).trace = noted

theorem done_notes (a : α) : Notes outside (.done a) [] := fun _ => rfl

theorem call_notes (native : NativeCall) : Notes outside (Shell.call native) [] := fun _ => rfl

theorem decode_notes (native : NativeCall) (decode : native.Answer → α) :
    Notes outside ((Shell.call native).bind fun answer => .done (decode answer)) [] := fun _ => rfl

theorem note_notes {p : ShellProgram α} {noted : List Notice} (notice : Notice)
    (notes : Notes outside p noted) :
    Notes outside ((Shell.note notice).bind fun _ => p) (notice :: noted) :=
  fun s => congrArg (notice :: ·) (notes s)

/-- A text is noted before what goes on with it. -/
theorem terminated_notes (text : String) {f : Option Terminated → ShellProgram α}
    {noted : List Notice} (notes : ∀ t, Notes outside (f t) noted) :
    Notes outside ((Shell.terminated text).bind f) (refusedText text ++ noted) := by
  unfold Shell.terminated refusedText
  by_cases clean : NoZero text
  · rw [if_pos clean, ofString?_of_noZero clean]
    exact notes _
  · rw [if_neg clean, ofString?_of_zero clean]
    exact note_notes _ (notes none)

/-- A function is noted before what goes on with it. -/
theorem encoded_notes (function : TagFunction) {f : Option Int32 → ShellProgram α}
    {noted : List Notice} (notes : ∀ id, Notes outside (f id) noted) :
    Notes outside ((Shell.encoded function).bind f) (refusedFunction function ++ noted) := by
  unfold Shell.encoded refusedFunction
  cases function.encode with
  | ok id => exact notes (some id)
  | error cause => exact note_notes _ (notes none)

/-- What is noted of a request with one text and no function is noted of that text, if nothing is
noted afterwards. -/
theorem text_notes {request : OverlayRequest} {text : String} (texts : request.texts = [text])
    (functions : request.functions = []) {f : Option Terminated → ShellProgram α}
    (without : Notes outside (f none) []) (whole : ∀ t, Notes outside (f (some t)) []) :
    Notes outside ((Shell.terminated text).bind f) request.refusals := by
  have refused : request.refusals = refusedText text ++ [] := by
    rw [OverlayRequest.refusals, texts, functions]
    simp
  rw [refused]
  refine terminated_notes text fun t => ?_
  cases t with
  | none => exact without
  | some t => exact whole t

theorem hostCommand_notes (command : HostCommand) :
    Notes outside (Adapter.hostCommand command)
      (OverlayRequest.host (.command command)).refusals := by
  cases command with
  | openPopupList area title columns =>
    exact text_notes rfl rfl (done_notes ()) fun t => call_notes _
  | addPopupListElement element =>
    have refused : (OverlayRequest.host (.command (.addPopupListElement element))).refusals =
        refusedText element.label ++ (refusedFunction element.function ++ []) := by
      simp [OverlayRequest.refusals]
    rw [refused]
    refine terminated_notes element.label fun label => encoded_notes element.function fun id => ?_
    cases label <;> cases id <;> first | exact done_notes () | exact call_notes _
  | openPopupEdit area submitted initial =>
    have refused :
        (OverlayRequest.host (.command (.openPopupEdit area submitted initial))).refusals =
          refusedText initial ++ (refusedFunction submitted ++ []) := by
      simp [OverlayRequest.refusals]
    rw [refused]
    refine terminated_notes initial fun t => encoded_notes submitted fun id => ?_
    cases t <;> cases id <;> first | exact done_notes () | exact call_notes _
  | saveSetting key description value =>
    have refused : (OverlayRequest.host (.command (.saveSetting key description value))).refusals =
        refusedText key ++ (refusedText description ++ (refusedText value ++ [])) := by
      simp [OverlayRequest.refusals]
    rw [refused]
    refine terminated_notes key fun key => terminated_notes description fun description =>
      terminated_notes value fun value => ?_
    cases key <;> cases description <;> cases value <;>
      first | exact done_notes () | exact call_notes _
  | _ => exact call_notes _

theorem host_notes (request : HostRequest) :
    Notes outside (Adapter.host request) (OverlayRequest.host request).refusals := by
  cases request with
  | loadSetting key => exact text_notes rfl rfl (done_notes none) fun t => decode_notes _ _
  | command command => exact hostCommand_notes command
  | _ => exact call_notes _

theorem client_notes (screen : Handle) (request : ClientRequest) :
    Notes outside (Adapter.client screen request) (OverlayRequest.client request).refusals := by
  cases request with
  | command command =>
    cases command with
    | setAerodrome icao =>
      cases icao with
      | none => exact call_notes _
      | some icao => exact text_notes rfl rfl (done_notes ()) fun t => call_notes _
    | _ => exact call_notes _
  | _ => exact decode_notes _ _

theorem canvas_notes (context : Adapter.Context) (request : CanvasRequest) :
    Notes outside (Adapter.canvas context request) (OverlayRequest.canvas request).refusals := by
  cases request with
  | surface => exact done_notes _
  | measureText text => exact text_notes rfl rfl (done_notes _) fun t => call_notes _
  | saveTransform => exact decode_notes _ _
  | command command =>
    cases command with
    | drawText text origin color =>
      exact text_notes rfl rfl (done_notes ()) fun t => call_notes _
    | _ => exact call_notes _

/-- Exactly what cannot be handed over is noted of a request, in the order of its arguments. -/
theorem notices_speak {request : OverlayRequest} (crosses : request.Crosses) (screen : Handle)
    (context : Adapter.Context) (s : ShellSituation σ) :
    Shell.notices (Shell.run outside (Adapter.speak screen context request) s).trace =
      request.refusals := by
  cases request with
  | host request => exact host_notes request s
  | client request => exact client_notes screen request s
  | canvas request => exact canvas_notes context request s
  | _ => exact crosses.elim

/-! ## Whole calls -/

/-- The other side after a call, if there is one. -/
def afterCall (outside : Outside σ) : Option NativeCall → σ → σ
  | none, o => o
  | some native, o => (outside native o).2

theorem answer_snd (crossing : Crossing α) (o : σ) :
    (crossing.answer outside o).2 = afterCall outside crossing.call? o := by
  cases crossing <;> rfl

/-- A request is said in its call, and does to the other side what its call does. -/
theorem run_speak (outside : Outside σ) (screen : Handle) (context : Adapter.Context)
    {request : OverlayRequest} (crosses : request.Crosses) (s : ShellSituation σ) :
    ∃ answer trace, Shell.calls trace = (wireImage screen context request).toList ∧
      Shell.run outside (Adapter.speak screen context request) s = ⟨.ok answer, { s with
        outside := afterCall outside (wireImage screen context request) s.outside }, trace⟩ := by
  obtain ⟨trace, said, ran⟩ := @speak_faithful σ outside screen context request s
  have left : (decoded outside screen context request s).2 = { s with
      outside := afterCall outside (wireImage screen context request) s.outside } := by
    cases request with
    | host request => simp only [decoded, wireImage, answer_snd]
    | client request => simp only [decoded, wireImage, answer_snd]
    | canvas request => simp only [decoded, wireImage, answer_snd]
    | _ => exact crosses.elim
  rw [left] at ran
  exact ⟨_, trace, said, ran⟩

end

/-- A request is said whole: in exactly one call of the party that it is for. The other side reads
the request back from the call's arguments, and is afterwards as the call leaves it. -/
structure SaidWhole {σ : Type} (outside : Outside σ) (screen : Handle) (context : Adapter.Context)
    (request : OverlayRequest) (s : ShellSituation σ) (native : NativeCall) : Prop where
  calls : Shell.calls (Shell.run outside (Adapter.speak screen context request) s).trace = [native]
  reading : native.reading = some request
  party : OverlayRequest.party? context request = some native.party
  addressed : ∀ handle, native.screen? = some handle → handle = screen
  state : (Shell.run outside (Adapter.speak screen context request) s).state =
    { s with outside := (outside native s.outside).2 }
  notices : Shell.notices (Shell.run outside (Adapter.speak screen context request) s).trace = []

/-- A request is not said at all: there is no call and nothing is changed, but there are
warnings of what cannot be handed over. -/
structure Unsaid {σ : Type} (outside : Outside σ) (screen : Handle) (context : Adapter.Context)
    (request : OverlayRequest) (s : ShellSituation σ) : Prop where
  calls : Shell.calls (Shell.run outside (Adapter.speak screen context request) s).trace = []
  state : (Shell.run outside (Adapter.speak screen context request) s).state = s
  notices : Shell.notices (Shell.run outside (Adapter.speak screen context request) s).trace =
    request.refusals
  warned : request.refusals ≠ [] ∧ ∀ notice ∈ request.refusals, notice.level = .warn

section

variable {σ : Type} {outside : Outside σ} {request : OverlayRequest}

theorem saidWhole_of_encodable (crosses : request.Crosses) (encodable : request.Encodable)
    (screen : Handle) (context : Adapter.Context) (s : ShellSituation σ) :
    ∃ native, SaidWhole outside screen context request s native := by
  have made := (isSome_wireImage_iff screen context crosses).mpr encodable
  obtain ⟨native, image⟩ := Option.isSome_iff_exists.mp made
  obtain ⟨answer, trace, said, ran⟩ := run_speak outside screen context crosses s
  rw [image] at said ran
  refine ⟨native, ?_, reading_of_wireImage image, wireImage_party image,
    fun handle => wireImage_screen image, ?_, ?_⟩
  · rw [ran, said]
    rfl
  · rw [ran]
    rfl
  · rw [notices_speak crosses, refusals_eq_nil_iff.mpr encodable]

theorem unsaid_of_not_encodable (crosses : request.Crosses) (rejected : ¬ request.Encodable)
    (screen : Handle) (context : Adapter.Context) (s : ShellSituation σ) :
    Unsaid outside screen context request s := by
  have image : wireImage screen context request = none :=
    Option.not_isSome_iff_eq_none.mp fun made =>
      rejected ((isSome_wireImage_iff screen context crosses).mp made)
  obtain ⟨answer, trace, said, ran⟩ := run_speak outside screen context crosses s
  rw [image] at said ran
  refine ⟨?_, ?_, notices_speak crosses screen context s,
    fun quiet => rejected (refusals_eq_nil_iff.mp quiet), fun notice => level_of_mem_refusals⟩
  · rw [ran, said]
    rfl
  · rw [ran]
    rfl

end

/-! ## The target -/

/-- Set the target, then ask for it. -/
def askAfterSetting (screen : Handle) (context : Adapter.Context) (icao : Option String) :
    ShellProgram (Option String) :=
  (Adapter.speak screen context (.client (.command (.setAerodrome icao)))).bind fun _ =>
    Adapter.speak screen context (.client .aerodrome)

/-- A client that answers with the target it was given last, whatever it was before: the octets
of its text, up to a zero that may end them, or no text if it was cleared. -/
def KeepsTarget {σ : Type} (outside : Outside σ) (screen : Handle) : Prop :=
  ∀ icao o, (outside (.getAerodrome screen) (outside (.setAerodrome screen icao) o).2).1.map
    (·.takeWhile (· != 0)) = icao.map fun t => octets t.text

section

variable {σ : Type} {outside : Outside σ} {screen : Handle}

theorem run_aerodrome (context : Adapter.Context) (s : ShellSituation σ) :
    (Shell.run outside (Adapter.speak screen context (.client .aerodrome)) s).result =
      .ok ((outside (.getAerodrome screen) s.outside).1.map readTerminated) := rfl

/-- Asking for the target after setting it is asking in the situation that setting it leaves. -/
theorem run_askAfterSetting (context : Adapter.Context) (icao : Option String)
    (s : ShellSituation σ) :
    (Shell.run outside (askAfterSetting screen context icao) s).result =
      (Shell.run outside (Adapter.speak screen context (.client .aerodrome))
        { s with
          outside := afterCall outside (clientCall? screen (.setAerodrome icao)) s.outside
        }).result := by
  have crosses : (OverlayRequest.client (.command (.setAerodrome icao))).Crosses := trivial
  obtain ⟨answer, trace, -, ran⟩ := run_speak outside screen context crosses s
  rw [wireImage, clientCrossing, Crossing.call?_ofCommand] at ran
  rw [Shell.run] at ran ⊢
  rw [askAfterSetting, run_bind, ran]
  rfl

/-- A target without zero characters is answered once it is set, and none once it is cleared. -/
theorem askAfterSetting_of_noZero (keeps : KeepsTarget outside screen) (context : Adapter.Context)
    {icao : Option String} (clean : ∀ text ∈ icao.toList, NoZero text) (s : ShellSituation σ) :
    (Shell.run outside (askAfterSetting screen context icao) s).result = .ok icao := by
  obtain ⟨given, texts, image⟩ : ∃ given : Option Terminated, given.map (·.text) = icao ∧
      clientCall? screen (.setAerodrome icao) = some (.setAerodrome screen given) := by
    cases icao with
    | none => exact ⟨none, rfl, rfl⟩
    | some text =>
      have clean := clean text (by simp)
      exact ⟨some ⟨text, clean⟩, rfl, by rw [clientCall?, ofString?_of_noZero clean]; rfl⟩
  have kept := congrArg (Option.map lossy) (keeps given s.outside)
  rw [Option.map_map, Option.map_map] at kept
  rw [run_askAfterSetting, run_aerodrome, image, ← texts]
  refine congrArg Except.ok (kept.trans ?_)
  simp [Function.comp_def, lossy_octets]

/-- A target with a zero character leaves the answer as it was. -/
theorem askAfterSetting_of_zero {icao : String} (zero : ¬ NoZero icao) (context : Adapter.Context)
    (s : ShellSituation σ) :
    (Shell.run outside (askAfterSetting screen context (some icao)) s).result =
      (Shell.run outside (Adapter.speak screen context (.client .aerodrome)) s).result := by
  rw [run_askAfterSetting, clientCall?, ofString?_of_zero zero]
  rfl

end

/-- A request for the other side is one call, from which it is read back, if all its texts and
functions can be handed over. Otherwise it is no call, changes nothing, and is warned of. A text
that cannot be handed over has no extent as a label and no value as a key. A client that keeps its
target answers the one that is set, or none if it is cleared, and answers as before if the one to
set cannot be handed over. -/
theorem calls_are_whole_or_absent {σ : Type} (outside : Outside σ) (screen : Handle)
    (context : Adapter.Context) (s : ShellSituation σ) :
    (∀ request : OverlayRequest, request.Crosses →
      (request.Encodable → ∃ native, SaidWhole outside screen context request s native) ∧
      (¬ request.Encodable → Unsaid outside screen context request s)) ∧
    (∀ text, ¬ NoZero text →
      (Shell.run outside (Adapter.canvas context (.measureText text)) s).result = .ok ⟨0, 0⟩ ∧
      (Shell.run outside (Adapter.host (.loadSetting text)) s).result = .ok none) ∧
    (KeepsTarget outside screen → ∀ icao : Option String, (∀ text ∈ icao.toList, NoZero text) →
      (Shell.run outside (askAfterSetting screen context icao) s).result = .ok icao) ∧
    ∀ icao, ¬ NoZero icao →
      (Shell.run outside (askAfterSetting screen context (some icao)) s).result =
        (Shell.run outside (Adapter.speak screen context (.client .aerodrome)) s).result := by
  refine ⟨fun request crosses => ?_, fun text zero => ?_, fun keeps icao clean => ?_,
    fun icao zero => ?_⟩
  · exact ⟨fun encodable => saidWhole_of_encodable crosses encodable screen context s,
      fun rejected => unsaid_of_not_encodable crosses rejected screen context s⟩
  · simp only [Adapter.canvas, Adapter.host, Shell.terminated, ofString?_of_zero zero]
    exact ⟨rfl, rfl⟩
  · exact askAfterSetting_of_noZero keeps context clean s
  · exact askAfterSetting_of_zero zero context s

theorem keepsTarget_scene (screen : Handle) : KeepsTarget NativeScene.serve screen := by
  intro icao o
  cases icao with
  | none => rfl
  | some t => exact congrArg some (List.takeWhile_eq_self_iff.mpr (octets_bne_zero t))

/-- In a scene, an entry is one call, and an entry with a zero character and too large an index is
none. A target is answered once it is set, but not one with a zero character. -/
theorem calls_are_whole_or_absent_scene :
    (∃ native, SaidWhole NativeScene.serve ⟨1⟩ .null (.host (.command (.addPopupListElement
      ⟨"Tower", .submitSelectView 3, .checked, false⟩))) ⟨.initial, .initial⟩ native) ∧
    Unsaid NativeScene.serve ⟨1⟩ .null (.host (.command (.addPopupListElement
      ⟨"To\x00er", .submitSelectView (2 ^ 20), .checked, false⟩))) ⟨.initial, .initial⟩ ∧
    (Shell.run NativeScene.serve (Adapter.canvas .null (.measureText "To\x00er"))
      ⟨.initial, .initial⟩).result = .ok ⟨0, 0⟩ ∧
    (Shell.run NativeScene.serve (askAfterSetting ⟨1⟩ .null (some "EGLL"))
      ⟨.initial, .initial⟩).result = .ok (some "EGLL") ∧
    (Shell.run NativeScene.serve (askAfterSetting ⟨1⟩ .null (some "EG\x00L"))
      ⟨.initial, .initial⟩).result = .ok none := by
  obtain ⟨said, extents, targets, rejected⟩ :=
    calls_are_whole_or_absent NativeScene.serve ⟨1⟩ .null ⟨.initial, .initial⟩
  have adds (element : PopupElement) :
      (OverlayRequest.host (.command (.addPopupListElement element))).Crosses := trivial
  refine ⟨(said _ (adds _)).1 ⟨by simp [NoZero], by simp [TagFunction.index?]⟩,
    (said _ (adds _)).2 fun encodable => ?_, (extents _ (by simp [NoZero])).1,
    targets (keepsTarget_scene ⟨1⟩) _ (by simp [NoZero]), (rejected _ (by simp [NoZero])).trans rfl⟩
  exact absurd (encodable.1 "To\x00er" (by simp)) (by simp [NoZero])

end Native

end RadarOverlay
