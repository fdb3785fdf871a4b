import RadarOverlay.Proofs.FunctionScope
import RadarOverlay.Proofs.Passes

/-!
What a callback may do beyond the functions it carries out. A callback opens popups
and orders changes of the lighting only in the scope of a function that it carries
out, and puts into the slot only what `slots` admits; `callback_abides` says which
functions each event carries out.
-/
namespace RadarOverlay

/-- Commands that show a popup or fill it. -/
def HostCommand.isPopup : HostCommand → Bool
  | .openPopupList .. | .addPopupListElement _ | .openPopupEdit .. => true
  | _ => false

/-- Commands that change the activity or select an entry of a list. -/
def ClientCommand.isOrder : ClientCommand → Bool
  | .setActivity _ | .setProfile _ | .applyPreset _ | .setView _ => true
  | _ => false

/-- The function that the host calls with an event, and the area it is called on. -/
def Event.called? : Event → Option (TagFunction × Rect)
  | .callFunction function _ area => some (function, area)
  | .callId id _ area => (TagFunction.decode id).toOption.map (·, area)
  | _ => none

/-- An event that calls a function runs as the call of that function. -/
theorem Event.callback_of_called (geo : Bool) {call : Event} {f : TagFunction} {area : Rect}
    (called : call.called? = some (f, area)) :
    ∃ text, call.callback geo = Overlay.callFunction geo f text area := by
  cases call with
  | callFunction function text place =>
    cases called
    exact ⟨text, rfl⟩
  | callId id text place =>
    cases decoded : TagFunction.decode id with
    | error cause => simp [Event.called?, decoded, Except.toOption] at called
    | ok function =>
      simp only [Event.called?, decoded, Except.toOption] at called
      cases called
      exact ⟨text, by simp only [Event.callback, Overlay.callId, decoded]⟩
  | _ => cases called

/-- The functions that an event carries out when `waits` says which can be in the slot. -/
def Event.Performs (waits : TagFunction → Prop) (f : TagFunction) : Event → Prop
  | .click .menu .. => f = .openMenu ∨ f = .openEditAerodrome
  | .refresh .afterLists => waits f
  | call => f.deferred = none ∧ ∃ area, call.called? = some (f, area)

/-- A function that an event carries out is called by it and not deferred, or it comes from the
slot in a decoration pass, or a click on the badge asks for it. -/
theorem Event.Performs.source {waits : TagFunction → Prop} {f : TagFunction} {call : Event}
    (performs : call.Performs waits f) :
    (f.deferred = none ∧ ∃ area, call.called? = some (f, area)) ∨
      (call = .refresh .afterLists ∧ waits f) ∨
      (f = .openMenu ∨ f = .openEditAerodrome) ∧ ∃ point area button,
        call = .click .menu point area button := by
  cases call with
  | refresh phase => cases phase with
    | afterLists => exact .inr (.inl ⟨rfl, performs⟩)
    | _ => exact .inl performs
  | click object point area button => cases object with
    | menu => exact .inr (.inr ⟨performs, point, area, button, rfl⟩)
    | clickRegion => exact .inl performs
  | _ => exact .inl performs

namespace Overlay

/-- The requests of a callback that carries out the functions of `performed`. -/
def MayAsk (told : ActivityState → Prop) (geo : Bool) (performed : TagFunction → Prop)
    (slots : DeferredSlot → Prop) : OverlayRequest → Prop
  | .host (.command command) =>
    command.isPopup → ∃ f, performed f ∧ f.MayTellHost told geo command
  | .client (.command command) => command.isOrder → ∃ f, performed f ∧ f.MayTellClient command
  | .writeMemory memory => slots memory.pending
  | _ => True

/-- The scope of a callback, with the slots that it may find and leave. -/
def scope (told : ActivityState → Prop) (geo : Bool) (performed : TagFunction → Prop)
    (slots : DeferredSlot → Prop) : Rules Overlay where
  asks := MayAsk told geo performed slots
  relies
    | .client .activity, activity => told activity
    | .readMemory, memory => slots memory.pending
    | _, _ => True

@[simp] theorem scope_asks {told : ActivityState → Prop} {geo : Bool}
    {performed : TagFunction → Prop} {slots : DeferredSlot → Prop} {request : OverlayRequest} :
    (scope told geo performed slots).asks request ↔ MayAsk told geo performed slots request :=
  Iff.rfl

open Program

section

variable {told : ActivityState → Prop} {geo : Bool} {performed : TagFunction → Prop}
  {slots : DeferredSlot → Prop} {f : TagFunction}

/-- Carrying out a function that may be carried out stays in the scope of the callback. -/
theorem perform_within (permitted : performed f) (text : String) (area : Rect) :
    Abides (scope told geo performed slots) (fun _ => True) (perform geo f text area) := by
  have inner : Abides (f.scope told geo) (fun _ => True) (perform geo f text area) :=
    perform_abides text area
  apply inner.relax
  · intro request asked
    cases request with
    | host request =>
      cases request with
      | command command => exact fun _ => ⟨f, permitted, asked⟩
      | _ => trivial
    | client request =>
      cases request with
      | command command => exact fun _ => ⟨f, permitted, asked⟩
      | _ => trivial
    | writeMemory memory => exact asked.elim
    | _ => trivial
  · intro request answer heard
    cases request with
    | client request => cases request <;> exact heard
    | _ => trivial

theorem refreshIfRequired_abides :
    Abides (scope told geo performed slots) (fun _ => True) refreshIfRequired := by
  simp [refreshIfRequired, MayAsk, HostCommand.isPopup]

theorem park_abides {submenu : TagFunction} {area : Rect}
    (parked : slots ⟨some ⟨submenu, area⟩⟩) :
    Abides (scope told geo performed slots) (fun _ => True) (park submenu area) := by
  simp only [park, DeferredSlot.defer, bind_eq, abides_bind]
  refine ⟨trivial, fun memory _ => ⟨parked, fun _ _ => ?_⟩⟩
  cases memory.pending.entry <;> simp [MayAsk]

/-- A call either parks a submenu or carries the function out. -/
theorem callFunction_abides (text : String) (area : Rect)
    (now : f.deferred = none → performed f)
    (later : ∀ submenu, f.deferred = some submenu → slots ⟨some ⟨submenu, area⟩⟩) :
    Abides (scope told geo performed slots) (fun _ => True) (callFunction geo f text area) := by
  simp only [callFunction]
  cases deferral : f.deferred with
  | none =>
    simp only [bind_eq, abides_bind]
    exact (perform_within (now deferral) text area).mono fun _ _ => refreshIfRequired_abides
  | some submenu =>
    simp only [bind_eq, abides_bind]
    exact (park_abides (later submenu deferral)).mono fun _ _ => refreshIfRequired_abides

theorem flush_abides (emptied : slots .empty)
    (waiting : ∀ entry, slots ⟨some entry⟩ → entry.function.deferred = none ∧
      performed entry.function) :
    Abides (scope told geo performed slots) (fun _ => True) (flush geo) := by
  simp only [flush, DeferredSlot.take, bind_eq, abides_bind]
  refine ⟨trivial, fun memory found => ?_⟩
  obtain ⟨anchor, ⟨entry⟩⟩ := memory
  cases entry with
  | none => exact trivial
  | some entry =>
    obtain ⟨immediate, permitted⟩ := waiting entry found
    refine ⟨emptied, fun _ _ => ⟨trivial, fun _ _ => ?_⟩⟩
    exact callFunction_abides "" entry.area (fun _ => permitted) (by simp [immediate])

/-- Drawing is in the scope of every callback. -/
theorem drawing_within {request : OverlayRequest} (drawn : request.IsDrawing) :
    MayAsk told geo performed slots request := by
  cases request with
  | host request =>
    cases request with
    | command command =>
      cases command with
      | addScreenObject object area movable => simp [MayAsk, HostCommand.isPopup]
      | _ => exact drawn.elim
    | _ => trivial
  | client request =>
    cases request with
    | command command =>
      cases command with
      | drawBackground surface viewport => simp [MayAsk, ClientCommand.isOrder]
      | setViewport viewport => simp [MayAsk, ClientCommand.isOrder]
      | drawForeground surface => simp [MayAsk, ClientCommand.isOrder]
      | _ => exact drawn.elim
    | _ => trivial
  | writeMemory memory => exact drawn.elim
  | _ => trivial

theorem drawn_abides {p : Callback Unit} (drawn : Abides drawing (fun _ => True) p) :
    Abides (scope told geo performed slots) (fun _ => True) p :=
  drawn_within drawn fun _ => drawing_within

theorem loadNumber_abides {setting : SettingKey} {post : Option Int32 → Prop}
    (afterwards : ∀ n, post n) :
    Abides (scope told geo performed slots) post setting.loadNumber := by
  simp only [SettingKey.loadNumber, askHost, request, bind_eq, ask_bind, done_bind]
  refine ⟨trivial, fun kept _ => ?_⟩
  cases kept with
  | none => exact afterwards none
  | some value =>
    cases parsed : setting.parseNumber value with
    | ok n => simp [parsed, afterwards]
    | error cause => simp [parsed, MayAsk, afterwards]

theorem load_abides {post : ScreenSettings → Prop} (afterwards : ∀ settings, post settings) :
    Abides (scope told geo performed slots) post ScreenSettings.load := by
  simp only [ScreenSettings.load, bind_eq, abides_bind]
  refine ⟨trivial, fun kept _ => ?_⟩
  apply loadNumber_abides
  intro menuX
  apply loadNumber_abides
  intro menuY
  exact afterwards _

theorem contentLoaded_abides (loaded detailed : Bool) :
    Abides (scope told geo performed slots) (fun _ => True) (contentLoaded loaded detailed) := by
  cases loaded with
  | false => exact trivial
  | true =>
    simp only [contentLoaded, ↓reduceIte, bind_eq, abides_bind]
    apply load_abides
    intro settings
    have settled : Abides (scope told geo performed slots) (fun _ => True) (do
        let memory ← readMemory
        let anchor := settings.applyAnchor memory.anchor
        writeMemory { memory with anchor := anchor }
        if detailed then
          let connection ← askClient .connectionState
          note (.settingsApplied anchor connection)) := by
      refine ⟨trivial, fun _ found => ⟨found, fun _ _ => ?_⟩⟩
      cases detailed with
      | false => exact trivial
      | true => exact ⟨trivial, fun _ _ => ⟨trivial, fun _ _ => trivial⟩⟩
    cases settings.aerodrome with
    | none => exact settled
    | some icao =>
      exact ⟨trivial, fun _ _ => ⟨by simp [MayAsk, ClientCommand.isOrder], fun _ _ => settled⟩⟩

theorem move_abides (object : ScreenObject) (point : Point) (released : Bool) :
    Abides (scope told geo performed slots) (fun _ => True) (move object point released) := by
  cases object with
  | clickRegion => exact trivial
  | menu =>
    simp only [move, MenuAnchor.save, SettingKey.save, bind_eq, abides_bind]
    refine ⟨trivial, fun area _ => ?_⟩
    simp only [lift_eq, abides_ofExcept]
    intro anchor _
    refine ⟨trivial, fun memory found => ⟨found, fun _ _ => ?_⟩⟩
    cases released <;> simp [MayAsk, HostCommand.isPopup]

theorem click_abides {waits : TagFunction → Prop} {object : ScreenObject} {point : Point}
    {area : Rect} {button : MouseButton}
    (permitted : ∀ f, (Event.click object point area button).Performs waits f → performed f) :
    Abides (scope told geo performed slots) (fun _ => True)
      (click geo object point area button) := by
  cases object with
  | clickRegion => simp [click, MayAsk, ClientCommand.isOrder]
  | menu =>
    have opened : Abides (scope told geo performed slots) (fun _ => True) (opensMenu button) := by
      simp [opensMenu, MayAsk]
    simp only [click, bind_eq, abides_bind]
    apply opened.mono
    intro menu _
    apply callFunction_abides
    · intro _
      apply permitted
      cases menu <;> simp [Event.Performs]
    · cases menu <;> simp [TagFunction.deferred]

theorem callId_abides (id : Int32) (text : String) (area : Rect)
    (now : ∀ f, TagFunction.decode id = .ok f → f.deferred = none → performed f)
    (later : ∀ f submenu, TagFunction.decode id = .ok f → f.deferred = some submenu →
      slots ⟨some ⟨submenu, area⟩⟩) :
    Abides (scope told geo performed slots) (fun _ => True) (callId geo id text area) := by
  simp only [callId]
  cases decoded : TagFunction.decode id with
  | ok f =>
    exact callFunction_abides text area (now f decoded) fun submenu => later f submenu decoded
  | error cause => simp [MayAsk]

/-- An event stays in the scope of the functions it carries out. -/
theorem callback_abides {call : Event} {waits : TagFunction → Prop}
    (permitted : ∀ f, call.Performs waits f → performed f)
    (parked : ∀ f submenu area, call.called? = some (f, area) → f.deferred = some submenu →
      slots ⟨some ⟨submenu, area⟩⟩)
    (flushed : call = .refresh .afterLists → slots .empty ∧
      ∀ entry, slots ⟨some entry⟩ → entry.function.deferred = none ∧ waits entry.function) :
    Abides (scope told geo performed slots) (fun _ => True) (call.callback geo) := by
  cases call with
  | contentLoaded loaded detailed => exact contentLoaded_abides loaded detailed
  | refresh phase =>
    cases phase with
    | backBitmap => exact drawn_abides drawBackground_drawn
    | beforeTags => exact drawn_abides drawForeground_drawn
    | afterTags => exact trivial
    | afterLists =>
      obtain ⟨emptied, waiting⟩ := flushed rfl
      simp only [Event.callback, refresh, drawDecorations, bind_eq, abides_bind]
      refine (drawn_abides drawBadge_drawn).mono fun _ _ =>
        refreshIfRequired_abides.mono fun _ _ => ?_
      exact flush_abides emptied fun entry found =>
        ⟨(waiting entry found).1, permitted _ (waiting entry found).2⟩
  | callFunction f text area =>
    exact callFunction_abides text area (fun now => permitted f ⟨now, area, rfl⟩)
      (fun submenu later => parked f submenu area rfl later)
  | callId id text area =>
    refine callId_abides id text area (fun f decoded now => permitted f ⟨now, area, ?_⟩)
      (fun f submenu decoded later => parked f submenu area ?_ later) <;>
      simp [Event.called?, decoded, Except.toOption]
  | click object point area button => exact click_abides permitted
  | move object point released => exact move_abides object point released

variable {H C K : Type} [Host H] [LightingClient C] [Canvas K]

/-- The surroundings keep the scope of a callback as long as the slot is admitted and only
activities of `told` are heard. -/
theorem scope_keptBy :
    (scope told geo performed slots).KeptBy (OverlayRequest.serve (H := H) (C := C) (K := K))
      (fun s => slots s.memory.pending)
      (fun x => ∀ activity, x = ⟨.client .activity, activity⟩ → told activity) := by
  intro request s admitted asked hears
  cases request with
  | client request =>
    cases request with
    | activity => exact ⟨hears _ rfl, admitted⟩
    | _ => exact ⟨trivial, admitted⟩
  | readMemory => exact ⟨admitted, admitted⟩
  | writeMemory memory => exact ⟨trivial, asked⟩
  | _ => exact ⟨trivial, admitted⟩

variable (performed slots) in
/-- In the run of an event every request is in scope, for the activities that the run itself was
told, and the slot stays admitted. -/
theorem run_in_scope (waits : TagFunction → Prop) {call : Event} {s : Situation H C K}
    (permitted : ∀ f, call.Performs waits f → performed f)
    (parked : ∀ f submenu area, call.called? = some (f, area) → f.deferred = some submenu →
      slots ⟨some ⟨submenu, area⟩⟩)
    (flushed : call = .refresh .afterLists → slots .empty ∧
      ∀ entry, slots ⟨some entry⟩ → entry.function.deferred = none ∧ waits entry.function)
    (admitted : slots s.memory.pending) :
    (∀ x ∈ (run (call.callback geo) s).trace,
      MayAsk (fun activity => ⟨.client .activity, activity⟩ ∈ (run (call.callback geo) s).trace) geo
        performed slots x.request) ∧
      slots (run (call.callback geo) s).state.memory.pending := by
  have abides : Abides (scope (fun activity => ⟨.client .activity, activity⟩ ∈
      (run (call.callback geo) s).trace) geo performed slots) (fun _ => True)
      (call.callback geo) := callback_abides permitted parked flushed
  have ran := abides.run scope_keptBy admitted (by rintro x member activity rfl; exact member)
  exact ⟨ran.1, ran.2.1⟩

end

end Overlay

end RadarOverlay
