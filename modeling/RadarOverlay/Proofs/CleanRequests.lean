import RadarOverlay.Controller.Event
import RadarOverlay.Proofs.CleanText
import RadarOverlay.Proofs.Rules

/-!
Texts of callbacks. Every text in a request is a text of the overlay's own, or made of
one that the host or the client has given, so where none of these has a zero character
no request has one. Main statement: `callback_clean`.
-/
namespace RadarOverlay

@[simp] def HostCommand.texts : HostCommand → List String
  | .openPopupList _ title _ => [title]
  | .addPopupListElement element => [element.label]
  | .openPopupEdit _ _ initial => [initial]
  | .saveSetting key description value => [key, description, value]
  | .addScreenObject .. | .refreshMapContent => []

/-- The texts that a request hands over. -/
@[simp] def OverlayRequest.texts : OverlayRequest → List String
  | .host (.loadSetting key) => [key]
  | .host (.command command) => command.texts
  | .client (.command (.setAerodrome icao)) => icao.toList
  | .canvas (.measureText text) => [text]
  | .canvas (.command (.drawText text _ _)) => [text]
  | _ => []

@[simp] def OverlayRequest.brought : (request : OverlayRequest) → request.Answer → List String
  | .host (.loadSetting _), value => value.toList
  | .client .aerodrome, icao => icao.toList
  | .client .profiles, names => names
  | .client .presets, names => names
  | .client .views, names => names
  | _, _ => []

def Event.texts : Event → List String
  | .callFunction _ text _ | .callId _ text _ => [text]
  | _ => []

/-- An edit asks for a function that has an id. -/
@[simp] def OverlayRequest.EditFits : OverlayRequest → Prop
  | .host (.command (.openPopupEdit _ function _)) => function.payload ≤ payloadMax
  | _ => True

/-- Requests whose texts have no zero character, as long as no text that is brought has one. -/
def Overlay.clean : Rules Overlay where
  asks request := (∀ text ∈ request.texts, Text.NoZero text) ∧ request.EditFits
  relies request answer := ∀ text ∈ request.brought answer, Text.NoZero text

namespace Overlay

open Program Text

@[simp] theorem clean_asks {request : OverlayRequest} :
    clean.asks request ↔ (∀ text ∈ request.texts, NoZero text) ∧ request.EditFits := Iff.rfl

@[simp] theorem clean_relies {request : OverlayRequest} {answer : request.Answer} :
    clean.relies request answer ↔ ∀ text ∈ request.brought answer, NoZero text := Iff.rfl

variable {geo : Bool}

theorem addElements_clean {elements : List PopupElement} {post : Unit → Prop}
    (labels : ∀ e ∈ elements, NoZero e.label) (afterwards : post ()) :
    Abides clean post (addElements elements) := by
  apply abides_each
  · intro e member
    simp [labels e member]
  · exact afterwards

theorem canControl_clean {post : Bool → Prop} (afterwards : ∀ allowed, post allowed) :
    Abides clean post canControl := by
  simp [canControl, afterwards]

theorem openMenu_clean (area : Rect) : Abides clean (fun _ => True) (openMenu geo area) := by
  simp only [openMenu, bind_eq, abides_bind]
  apply canControl_clean
  intro allowed
  simp only [isControlling, openList, tellHost, askHost, askClient, request, bind_eq, pure_eq,
    ask_bind, done_bind, abides_ask]
  refine ⟨by simp, fun activity _ => ⟨⟨by simp [NoZero], trivial⟩, fun _ _ => ?_⟩⟩
  apply addElements_clean
  · simp [Menu.aerodromeEntry, Menu.controlEntry, Menu.profilesEntry, PopupElement.plain, NoZero]
  refine ⟨by simp, fun presets _ => addElements_clean ?_ (addElements_clean ?_ trivial)⟩
  · split <;> simp [Menu.presetsEntry, NoZero]
  · split <;> simp [Menu.viewsEntry, PopupElement.plain, NoZero]

/-- Entries that are made of a list carry its texts. -/
theorem labels_clean {names : List String} (clean : ∀ name ∈ names, NoZero name)
    (entry : String × Nat → PopupElement) (labelled : ∀ x, (entry x).label = x.1) :
    ∀ e ∈ names.zipIdx.map entry, NoZero e.label := by
  intro e member
  obtain ⟨⟨name, index⟩, found, rfl⟩ := List.mem_map.mp member
  rw [labelled]
  exact clean name (List.fst_mem_of_mem_zipIdx found)

theorem openProfiles_clean (area : Rect) : Abides clean (fun _ => True) (openProfiles area) := by
  simp only [openProfiles, isControlling, openList, tellHost, askHost, askClient, request, bind_eq,
    pure_eq, ask_bind, done_bind, abides_ask]
  refine ⟨by simp, fun activity _ => ⟨by simp, fun current _ => ⟨by simp [NoZero], fun _ _ =>
    ⟨by simp, fun names brought => ?_⟩⟩⟩⟩
  exact addElements_clean (labels_clean brought _ fun _ => rfl) trivial

theorem openPresets_clean (area : Rect) : Abides clean (fun _ => True) (openPresets area) := by
  simp only [openPresets, openList, tellHost, askHost, askClient, request, bind_eq, ask_bind,
    done_bind, abides_ask]
  refine ⟨by simp [NoZero], fun _ _ => ⟨by simp, fun names brought => ?_⟩⟩
  exact addElements_clean (labels_clean brought _ fun _ => rfl) trivial

theorem openViews_clean (area : Rect) : Abides clean (fun _ => True) (openViews area) := by
  simp only [openViews, openList, tellHost, askHost, askClient, request, bind_eq, ask_bind,
    done_bind, abides_ask]
  refine ⟨by simp, fun current _ => ⟨by simp [NoZero], fun _ _ => ⟨by simp, fun names brought =>
    ?_⟩⟩⟩
  exact addElements_clean (labels_clean brought _ fun _ => rfl) trivial

theorem select_clean (list : SelectionList) (index : Nat) :
    Abides clean (fun _ => True) (select list index) := by
  cases list <;> simp [select, SelectionList.request, SelectionList.select]

theorem toggleControlling_clean : Abides clean (fun _ => True) toggleControlling := by
  simp only [toggleControlling, bind_eq, abides_bind]
  apply canControl_clean
  intro allowed
  cases allowed <;> simp

theorem save_clean {setting : SettingKey} {value : String} {post : Unit → Prop}
    (key : NoZero setting.key) (description : NoZero setting.description) (given : NoZero value)
    (afterwards : post ()) : Abides clean post (setting.save value) := by
  simp [SettingKey.save, key, description, given, afterwards]

theorem submitAerodrome_clean {text : String} (given : NoZero text) :
    Abides clean (fun _ => True) (submitAerodrome text) := by
  have icao := noZero_trim given
  have saved : Abides clean (fun _ => True) (saveAerodrome (trim text)) :=
    save_clean (by decide) (by decide) icao trivial
  simp only [submitAerodrome, bind_eq]
  split <;> simp [icao, saved]

theorem perform_clean (f : TagFunction) {text : String} (given : NoZero text) (area : Rect) :
    Abides clean (fun _ => True) (perform geo f text area) := by
  cases f with
  | none => exact trivial
  | openMenu => exact openMenu_clean area
  | openEditAerodrome =>
    simp only [perform, editAerodrome, tellHost, askHost, askClient, request, bind_eq, ask_bind,
      done_bind, abides_ask]
    refine ⟨by simp, fun current brought => ⟨⟨?_, Nat.zero_le _⟩, fun _ _ => trivial⟩⟩
    cases current with
    | none => simp [NoZero]
    | some icao => simpa using brought
  | submitEditAerodrome => exact submitAerodrome_clean given
  | toggleControlling => exact toggleControlling_clean
  | openSelectProfile step => exact openProfiles_clean area
  | openSelectPreset step => exact openPresets_clean area
  | openSelectView step => exact openViews_clean area
  | submitSelectProfile index => exact select_clean .profile index
  | submitSelectPreset index => exact select_clean .preset index
  | submitSelectView index => exact select_clean .view index

theorem refreshIfRequired_clean : Abides clean (fun _ => True) refreshIfRequired := by
  simp [refreshIfRequired]

theorem callFunction_clean (f : TagFunction) {text : String} (given : NoZero text) (area : Rect) :
    Abides clean (fun _ => True) (callFunction geo f text area) := by
  simp only [callFunction]
  cases f.deferred with
  | none =>
    simp only [bind_eq, abides_bind]
    exact (perform_clean f given area).mono fun _ _ => refreshIfRequired_clean
  | some submenu =>
    have parked : Abides clean (fun _ => True) (park submenu area) := by
      simp only [park, readMemory, writeMemory, request, bind_eq, ask_bind, done_bind, abides_ask]
      refine ⟨by simp, fun memory _ => ⟨by simp, fun _ _ => ?_⟩⟩
      split <;> simp
    simp only [bind_eq, abides_bind]
    exact parked.mono fun _ _ => refreshIfRequired_clean

theorem viewport_clean {post : Viewport → Prop} (afterwards : ∀ viewport, post viewport) :
    Abides clean post (Viewport.current geo) := by
  simp [Viewport.current, GeoSamples.take, afterwards]

theorem drawMessage_clean (message : StatusMessage) :
    Abides clean (fun _ => True) (drawMessage message) := by
  have text : NoZero message.text := by cases message <;> decide
  simp [drawMessage, text]

theorem drawBackground_clean : Abides clean (fun _ => True) (drawBackground geo) := by
  simp only [drawBackground, bind_eq, abides_bind]
  have statused : Abides clean (fun _ => True) (statusMessage geo) := by simp [statusMessage]
  apply statused.mono
  intro status _
  cases status with
  | some message => exact drawMessage_clean message
  | none =>
    simp only [abides_bind]
    apply viewport_clean
    simp

theorem drawForeground_clean : Abides clean (fun _ => True) (drawForeground geo) := by
  simp only [drawForeground, bind_eq, abides_bind]
  apply viewport_clean
  intro viewport
  split
  · simp only [tellClient, askClient, askCanvas, request, ask_bind, done_bind, abides_ask]
    refine ⟨by simp, fun _ _ => ⟨by simp, fun surface _ => ⟨by simp, fun _ _ => ⟨by simp,
      fun regions _ => abides_each (fun region _ => by simp) trivial⟩⟩⟩⟩
  · simp

theorem drawBadge_clean : Abides clean (fun _ => True) drawBadge := by
  simp only [drawBadge, askClient, request, bind_eq, ask_bind, done_bind, abides_ask]
  refine ⟨by simp, fun aerodrome brought => ?_⟩
  have label : NoZero (Badge.label aerodrome) := noZero_label (by simpa using brought)
  simp [withSavedTransform, label]

theorem flush_clean : Abides clean (fun _ => True) (flush geo) := by
  simp only [flush, DeferredSlot.take, readMemory, request, bind_eq, ask_bind, done_bind,
    abides_ask]
  refine ⟨by simp, fun memory _ => ?_⟩
  split
  · have given : NoZero "" := by decide
    simp [callFunction_clean _ given]
  · simp

theorem loadNumber_clean {setting : SettingKey} {post : Option Int32 → Prop}
    (key : NoZero setting.key) (afterwards : ∀ n, post n) :
    Abides clean post setting.loadNumber := by
  simp only [SettingKey.loadNumber, askHost, request, bind_eq, ask_bind, done_bind, abides_ask]
  refine ⟨by simp [key], fun kept _ => ?_⟩
  cases kept with
  | none => exact afterwards none
  | some value =>
    cases parsed : setting.parseNumber value with
    | ok n => simp [parsed, afterwards]
    | error cause => simp [parsed, afterwards]

theorem load_clean : Abides clean
    (fun settings => ∀ icao, settings.aerodrome = some icao → NoZero icao) ScreenSettings.load := by
  simp only [ScreenSettings.load, askHost, request, bind_eq, ask_bind, done_bind, abides_ask,
    abides_bind]
  refine ⟨⟨?_, trivial⟩, fun kept brought => ?_⟩
  · simp only [OverlayRequest.texts, List.mem_singleton, forall_eq]
    decide
  apply loadNumber_clean (by decide)
  intro menuX
  apply loadNumber_clean (by decide)
  intro menuY icao found
  exact brought icao (by simpa using (Option.filter_eq_some_iff.mp found).1)

theorem contentLoaded_clean (loaded detailed : Bool) :
    Abides clean (fun _ => True) (contentLoaded loaded detailed) := by
  cases loaded with
  | false => exact trivial
  | true =>
    simp only [contentLoaded, ↓reduceIte, bind_eq, abides_bind]
    apply load_clean.mono
    intro settings kept
    cases target : settings.aerodrome with
    | none => cases detailed <;> simp
    | some icao => cases detailed <;> simp [kept icao target]

theorem move_clean (object : ScreenObject) (point : Point) (released : Bool) :
    Abides clean (fun _ => True) (move object point released) := by
  cases object with
  | clickRegion => exact trivial
  | menu =>
    have saved (anchor : MenuAnchor) : Abides clean (fun _ => True) anchor.save := by
      simp only [MenuAnchor.save, bind_eq, abides_bind]
      exact save_clean (by decide) (by decide) (noZero_coordinateText _)
        (save_clean (by decide) (by decide) (noZero_coordinateText _) trivial)
    cases released <;> simp [move, saved]

theorem click_clean (object : ScreenObject) (point : Point) (area : Rect) (button : MouseButton) :
    Abides clean (fun _ => True) (click geo object point area button) := by
  cases object with
  | clickRegion => simp [click]
  | menu =>
    have opened : Abides clean (fun _ => True) (opensMenu button) := by simp [opensMenu]
    simp only [click, bind_eq, abides_bind]
    exact opened.mono fun menu _ => callFunction_clean _ (by decide) area

/-- No request of an event has a zero character in a text, as long as the event and the answers
bring none. -/
theorem callback_clean {call : Event} (given : ∀ text ∈ call.texts, NoZero text) :
    Abides clean (fun _ => True) (call.callback geo) := by
  cases call with
  | contentLoaded loaded detailed => exact contentLoaded_clean loaded detailed
  | refresh phase =>
    cases phase with
    | backBitmap => exact drawBackground_clean
    | beforeTags => exact drawForeground_clean
    | afterTags => exact trivial
    | afterLists =>
      simp only [Event.callback, refresh, drawDecorations, bind_eq, abides_bind]
      exact drawBadge_clean.mono fun _ _ => refreshIfRequired_clean.mono fun _ _ => flush_clean
  | callFunction f text area => exact callFunction_clean f (given text (by simp [Event.texts])) area
  | callId id text area =>
    simp only [Event.callback, callId]
    cases TagFunction.decode id with
    | ok f => exact callFunction_clean f (given text (by simp [Event.texts])) area
    | error cause => simp
  | click object point area button => exact click_clean object point area button
  | move object point released => exact move_clean object point released

end Overlay

end RadarOverlay
