import RadarOverlay.Controller.Event
import RadarOverlay.Proofs.Rules

/-!
What a function may do when it is carried out. The scope of a function says which
popups it opens, which functions their entries offer and which command it gives to
the client; `perform_abides` says that no function leaves its scope, and
`callFunction_calling` what no call does, whichever function is called.
-/
namespace RadarOverlay

namespace TagFunction

/-- The title of the list that a function opens. -/
def listTitle? : TagFunction → Option String
  | .openMenu => some "BARS menu"
  | .openSelectProfile _ => some "Select profile"
  | .openSelectPreset _ => some "Select preset"
  | .openSelectView _ => some "Select view"
  | _ => Option.none

/-- Which functions the popups of a function hand to the host. The entries that change the
lighting need an activity of control to be told, and views a planar surface. -/
def Offers (told : ActivityState → Prop) (geo : Bool) (f : TagFunction) : TagFunction → Prop
  | .none => True
  | .openEditAerodrome | .toggleControlling | .openSelectProfile .request => f = .openMenu
  | .openSelectPreset .request => f = .openMenu ∧ told .controlling
  | .openSelectView .request => f = .openMenu ∧ geo = false
  | .submitEditAerodrome => f = .openEditAerodrome
  | .submitSelectProfile _ => (∃ step, f = .openSelectProfile step) ∧ told .controlling
  | .submitSelectPreset _ => ∃ step, f = .openSelectPreset step
  | .submitSelectView _ => ∃ step, f = .openSelectView step
  | .openMenu | .openSelectProfile .opening | .openSelectPreset .opening
  | .openSelectView .opening => False

/-- The commands that carrying out a function gives to the host. -/
def MayTellHost (told : ActivityState → Prop) (geo : Bool) (f : TagFunction) : HostCommand → Prop
  | .openPopupList _ title _ => f.listTitle? = some title
  | .addPopupListElement element => f.Offers told geo element.function
  | .openPopupEdit _ submitted _ => f.Offers told geo submitted ∧ f = .openEditAerodrome
  | .saveSetting key _ _ => f = .submitEditAerodrome ∧ key = SettingKey.aerodrome.key
  | .addScreenObject .. | .refreshMapContent => False

/-- The commands that carrying out a function gives to the client. -/
def MayTellClient (f : TagFunction) : ClientCommand → Prop
  | .setAerodrome _ => f = .submitEditAerodrome
  | .setActivity _ => f = .toggleControlling
  | .setProfile index => f = .submitSelectProfile index
  | .applyPreset index => f = .submitSelectPreset index
  | .setView index => f = .submitSelectView index
  | .drawBackground .. | .setViewport _ | .drawForeground _ | .handleClick .. => False

/-- The requests that carrying out a function makes: questions, and the commands above. The
overlay's memory, the canvas and the redraw flag are left alone. -/
def MayAsk (told : ActivityState → Prop) (geo : Bool) (f : TagFunction) : OverlayRequest → Prop
  | .host (.command command) => f.MayTellHost told geo command
  | .client (.command command) => f.MayTellClient command
  | .client .takeRedraw | .canvas _ | .readMemory | .writeMemory _ => False
  | _ => True

/-- The scope of a function, with the activities that may be told to it. -/
def scope (f : TagFunction) (told : ActivityState → Prop) (geo : Bool) : Rules Overlay where
  asks := f.MayAsk told geo
  relies
    | .client .activity, activity => told activity
    | _, _ => True

@[simp] theorem scope_asks {told : ActivityState → Prop} {geo : Bool} {f : TagFunction}
    {request : OverlayRequest} : (f.scope told geo).asks request ↔ f.MayAsk told geo request :=
  Iff.rfl

end TagFunction

open Program TagFunction

section

variable {told : ActivityState → Prop} {geo : Bool} {f : TagFunction}

theorem abides_addElements {rules : Rules Overlay} {post : Unit → Prop}
    {elements : List PopupElement}
    (allowed : ∀ e ∈ elements, rules.asks (.host (.command (.addPopupListElement e))))
    (afterwards : post ()) : Abides rules post (Overlay.addElements elements) := by
  apply abides_each
  · intro e member
    simp [allowed e member]
  · exact afterwards

theorem canControl_abides {post : Bool → Prop} (afterwards : ∀ allowed, post allowed) :
    Abides (f.scope told geo) post Overlay.canControl := by
  simp [Overlay.canControl, MayAsk, afterwards]

/-- Control is in force only if the client has told so. -/
theorem isControlling_abides {post : Bool → Prop}
    (afterwards : ∀ controlling, (controlling = true → told .controlling) → post controlling) :
    Abides (f.scope told geo) post Overlay.isControlling := by
  simp only [Overlay.isControlling, Overlay.askClient, request, bind_eq, ask_bind, done_bind,
    pure_eq, abides_ask, abides_done, scope_asks, MayAsk, true_and]
  intro activity heard
  apply afterwards
  intro controlling
  rw [decide_eq_true_eq] at controlling
  exact controlling ▸ heard

theorem openMenu_abides (area : Rect) :
    Abides (scope .openMenu told geo) (fun _ => True) (Overlay.openMenu geo area) := by
  simp only [Overlay.openMenu, bind_eq, abides_bind]
  apply canControl_abides
  intro allowed
  apply isControlling_abides
  intro controlling heard
  refine ⟨rfl, fun _ _ => abides_addElements ?_ ⟨trivial, fun presets _ => abides_addElements ?_
    (abides_addElements ?_ trivial)⟩⟩
  · cases allowed <;>
      simp [MayAsk, MayTellHost, Offers, Menu.aerodromeEntry, Menu.controlEntry, Menu.profilesEntry,
        PopupElement.plain]
  · cases controlling <;> cases presets <;>
      simp_all [MayAsk, MayTellHost, Offers, Menu.presetsEntry]
  · cases geo <;> simp [MayAsk, MayTellHost, Offers, Menu.viewsEntry, PopupElement.plain]

theorem openProfiles_abides (step : SubmenuStep) (area : Rect) :
    Abides (scope (.openSelectProfile step) told geo) (fun _ => True)
      (Overlay.openProfiles area) := by
  simp only [Overlay.openProfiles, bind_eq, abides_bind]
  apply isControlling_abides
  intro controlling heard
  refine ⟨trivial, fun current _ => ⟨rfl, fun _ _ => ⟨trivial, fun names _ =>
    abides_addElements ?_ trivial⟩⟩⟩
  intro e member
  obtain ⟨⟨name, index⟩, -, rfl⟩ := List.mem_map.mp member
  cases controlling <;> simp_all [MayAsk, MayTellHost, Offers]

theorem openPresets_abides (step : SubmenuStep) (area : Rect) :
    Abides (scope (.openSelectPreset step) told geo) (fun _ => True)
      (Overlay.openPresets area) := by
  simp only [Overlay.openPresets, bind_eq, abides_bind]
  refine ⟨rfl, fun _ _ => ⟨trivial, fun names _ => abides_addElements ?_ trivial⟩⟩
  intro e member
  obtain ⟨⟨name, index⟩, -, rfl⟩ := List.mem_map.mp member
  exact ⟨step, rfl⟩

theorem openViews_abides (step : SubmenuStep) (area : Rect) :
    Abides (scope (.openSelectView step) told geo) (fun _ => True) (Overlay.openViews area) := by
  simp only [Overlay.openViews, bind_eq, abides_bind]
  refine ⟨trivial, fun current _ => ⟨rfl, fun _ _ => ⟨trivial, fun names _ =>
    abides_addElements ?_ trivial⟩⟩⟩
  intro e member
  obtain ⟨⟨name, index⟩, -, rfl⟩ := List.mem_map.mp member
  exact ⟨step, rfl⟩

/-- A selection gives its command, or none. -/
theorem select_abides (list : SelectionList) (index : Nat)
    (commanded : f.MayTellClient (list.select index)) :
    Abides (f.scope told geo) (fun _ => True) (Overlay.select list index) := by
  cases list <;> simp [Overlay.select, SelectionList.request, MayAsk, commanded]

theorem toggleControlling_abides :
    Abides (scope .toggleControlling told geo) (fun _ => True) Overlay.toggleControlling := by
  simp only [Overlay.toggleControlling, bind_eq, abides_bind]
  apply canControl_abides
  intro allowed
  cases allowed <;> simp [MayAsk, MayTellClient]

theorem submitAerodrome_abides (text : String) :
    Abides (scope .submitEditAerodrome told geo) (fun _ => True)
      (Overlay.submitAerodrome text) := by
  simp [Overlay.submitAerodrome, saveAerodrome, SettingKey.save, MayAsk, MayTellClient, MayTellHost]

/-- No function leaves its scope when it is carried out. -/
theorem perform_abides (text : String) (area : Rect) :
    Abides (f.scope told geo) (fun _ => True) (Overlay.perform geo f text area) := by
  cases f with
  | none => exact trivial
  | openMenu => exact openMenu_abides area
  | openEditAerodrome =>
    simp [Overlay.perform, Overlay.editAerodrome, MayAsk, MayTellHost, Offers]
  | submitEditAerodrome => exact submitAerodrome_abides text
  | toggleControlling => exact toggleControlling_abides
  | openSelectProfile step => exact openProfiles_abides step area
  | openSelectPreset step => exact openPresets_abides step area
  | openSelectView step => exact openViews_abides step area
  | submitSelectProfile index => exact select_abides .profile index rfl
  | submitSelectPreset index => exact select_abides .preset index rfl
  | submitSelectView index => exact select_abides .view index rfl

/-- What carries out a function is within any rules that allow all that is in its scope. -/
theorem performed_within {rules : Rules Overlay}
    (allowed : ∀ request, f.MayAsk (fun _ => True) geo request → rules.asks request)
    (text : String) (area : Rect) :
    Abides rules (fun _ => True) (Overlay.perform geo f text area) := by
  have inner : Abides (f.scope (fun _ => True) geo) (fun _ => True)
      (Overlay.perform geo f text area) := perform_abides text area
  refine inner.relax allowed fun request answer _ => ?_
  cases request with
  | client request => cases request <;> trivial
  | _ => trivial

end

/-- A request that the call of a function may make, whichever function it is. A call draws nothing
and registers nothing for clicks. -/
def OverlayRequest.IsCalling : OverlayRequest → Prop
  | .canvas _ | .host (.command (.addScreenObject ..)) => False
  | .client (.command (.drawBackground ..)) | .client (.command (.setViewport _))
  | .client (.command (.drawForeground _)) | .client (.command (.handleClick ..)) => False
  | _ => True

namespace Overlay

variable {geo : Bool}

theorem perform_calling (f : TagFunction) (text : String) (area : Rect) :
    Abides (only OverlayRequest.IsCalling) (fun _ => True) (perform geo f text area) := by
  refine performed_within (fun request asked => ?_) text area
  cases request with
  | host request =>
    cases request with
    | command command => cases command <;> first | exact asked.elim | trivial
    | _ => trivial
  | client request =>
    cases request with
    | command command => cases command <;> first | exact asked.elim | trivial
    | _ => trivial
  | canvas request => exact asked.elim
  | _ => trivial

theorem refreshIfRequired_calling :
    Abides (only OverlayRequest.IsCalling) (fun _ => True) refreshIfRequired := by
  simp [refreshIfRequired, OverlayRequest.IsCalling]

theorem callFunction_calling (f : TagFunction) (text : String) (area : Rect) :
    Abides (only OverlayRequest.IsCalling) (fun _ => True) (callFunction geo f text area) := by
  simp only [callFunction]
  cases f.deferred with
  | none =>
    simp only [bind_eq, abides_bind]
    exact (perform_calling f text area).mono fun _ _ => refreshIfRequired_calling
  | some submenu =>
    simp only [park, DeferredSlot.defer, bind_eq, abides_bind]
    refine ⟨trivial, fun memory _ => ⟨trivial, fun _ _ => ?_⟩⟩
    cases memory.pending.entry <;> simp [OverlayRequest.IsCalling, refreshIfRequired_calling]

theorem flush_calling :
    Abides (only OverlayRequest.IsCalling) (fun _ => True) (flush geo) := by
  simp only [flush, DeferredSlot.take, bind_eq, abides_bind]
  refine ⟨trivial, fun memory _ => ?_⟩
  obtain ⟨anchor, ⟨entry⟩⟩ := memory
  cases entry with
  | none => exact trivial
  | some waiting =>
    exact ⟨trivial, fun _ _ => ⟨trivial, fun _ _ => callFunction_calling waiting.function "" _⟩⟩

end Overlay

end RadarOverlay
