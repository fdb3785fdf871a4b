import RadarOverlay.Proofs.CallbackScope
import RadarOverlay.Proofs.Surroundings

/-!
Events that leave the session alone. What a session keeps is the target, the badge's
anchor and the settings; only a submitted target, a drag of the badge and loaded content
touch them. Main statement: `steady_run` says that every other event, with no submit in
the slot, leaves all three as they are and saves nothing.
-/
namespace RadarOverlay

/-- The commands of a record that save a setting, in order. -/
def saves (trace : List (Exchange Overlay)) : List HostCommand :=
  (effects trace).filterMap fun
    | .host (.saveSetting key description value) => some (.saveSetting key description value)
    | _ => none

@[simp] theorem saves_append (first second : List (Exchange Overlay)) :
    saves (first ++ second) = saves first ++ saves second := by
  simp [saves]

theorem saves_eq_nil {trace : List (Exchange Overlay)}
    (none : ∀ key description value, .host (.saveSetting key description value) ∉ effects trace) :
    saves trace = [] := by
  rw [saves, List.filterMap_eq_nil_iff]
  intro effect member
  split
  · exact absurd member (none _ _ _)
  · rfl

namespace Event

/-- The text that an event submits as a target. -/
def submitted? : Event → Option String
  | .callFunction .submitEditAerodrome text _ => some text
  | .callId id text _ =>
    match TagFunction.decode id with
    | .ok .submitEditAerodrome => some text
    | _ => none
  | _ => none

/-- Whether a drag of the badge has released it, if an event is one. -/
def dragged? : Event → Option Bool
  | .move .menu _ released => some released
  | _ => none

theorem callback_of_submitted (geo : Bool) {call : Event} {text : String}
    (submitted : call.submitted? = some text) :
    ∃ area, call.callback geo = Overlay.callFunction geo .submitEditAerodrome text area := by
  cases call with
  | callFunction f given area =>
    cases f <;> cases submitted
    exact ⟨area, rfl⟩
  | callId id given area =>
    simp only [submitted?] at submitted
    split at submitted
    · rename_i decoded
      cases submitted
      exact ⟨area, by simp only [callback, Overlay.callId, decoded]⟩
    · cases submitted
  | _ => cases submitted

theorem eq_move_of_dragged {call : Event} {released : Bool}
    (dragged : call.dragged? = some released) : ∃ point, call = .move .menu point released := by
  unfold dragged? at dragged
  split at dragged <;> cases dragged
  exact ⟨_, rfl⟩

end Event

/-- No submit of a target waits in the slot. -/
def DeferredSlot.NoSubmit (slot : DeferredSlot) : Prop :=
  ∀ waiting, slot.entry = some waiting → waiting.function ≠ .submitEditAerodrome

/-- A request that leaves the session alone, with the badge at an anchor. -/
def OverlayRequest.IsSteady (anchor : MenuAnchor) : OverlayRequest → Prop
  | .host (.command (.saveSetting ..)) => False
  | .client (.command (.setAerodrome _)) => False
  | .writeMemory memory => memory.anchor = anchor ∧ memory.pending.NoSubmit
  | _ => True

namespace Overlay

open Program

def steady (anchor : MenuAnchor) : Rules Overlay where
  asks := OverlayRequest.IsSteady anchor
  relies
    | .readMemory, memory => memory.anchor = anchor ∧ memory.pending.NoSubmit
    | _, _ => True

@[simp] theorem steady_asks {anchor : MenuAnchor} {request : OverlayRequest} :
    (steady anchor).asks request ↔ request.IsSteady anchor := Iff.rfl

section

variable {anchor : MenuAnchor} {geo : Bool} {f : TagFunction}

/-- A function that is no submit leaves the session alone. -/
theorem perform_steady (other : f ≠ .submitEditAerodrome) (text : String) (area : Rect) :
    Abides (steady anchor) (fun _ => True) (perform geo f text area) := by
  refine performed_within (fun request asked => ?_) text area
  cases request with
  | host request =>
    cases request with
    | command command =>
      cases command with
      | saveSetting key description value => exact absurd asked.1 other
      | _ => trivial
    | _ => trivial
  | client request =>
    cases request with
    | command command =>
      cases command with
      | setAerodrome icao => exact absurd asked other
      | _ => trivial
    | _ => trivial
  | writeMemory memory => exact asked.elim
  | _ => trivial

theorem refreshIfRequired_steady : Abides (steady anchor) (fun _ => True) refreshIfRequired := by
  simp [refreshIfRequired, OverlayRequest.IsSteady]

theorem callFunction_steady (other : f ≠ .submitEditAerodrome) (text : String) (area : Rect) :
    Abides (steady anchor) (fun _ => True) (callFunction geo f text area) := by
  simp only [callFunction]
  cases deferral : f.deferred with
  | none =>
    simp only [bind_eq, abides_bind]
    exact (perform_steady other text area).mono fun _ _ => refreshIfRequired_steady
  | some submenu =>
    -- Only submenus are ever parked, so the slot never submits a target.
    have opening : submenu ≠ .submitEditAerodrome := by
      rintro rfl
      unfold TagFunction.deferred at deferral
      split at deferral <;> cases deferral
    have parked : Abides (steady anchor) (fun _ => True) (park submenu area) := by
      simp only [park, DeferredSlot.defer, bind_eq, abides_bind]
      refine ⟨trivial, fun memory found => ⟨⟨found.1, ?_⟩, fun _ _ => ?_⟩⟩
      · rintro waiting ⟨⟩
        exact opening
      · cases memory.pending.entry <;> simp [OverlayRequest.IsSteady]
    simp only [bind_eq, abides_bind]
    exact parked.mono fun _ _ => refreshIfRequired_steady

theorem flush_steady : Abides (steady anchor) (fun _ => True) (flush geo) := by
  simp only [flush, DeferredSlot.take, bind_eq, abides_bind]
  refine ⟨trivial, fun memory found => ?_⟩
  obtain ⟨place, ⟨entry⟩⟩ := memory
  cases entry with
  | none => exact trivial
  | some waiting =>
    refine ⟨⟨found.1, by rintro _ ⟨⟩⟩, fun _ _ => ⟨trivial, fun _ _ => ?_⟩⟩
    exact callFunction_steady (found.2 waiting rfl) "" waiting.area

/-- Drawing leaves the session alone. -/
theorem drawing_steady {request : OverlayRequest} (drawn : request.IsDrawing) :
    request.IsSteady anchor := by
  cases request with
  | host request =>
    cases request with
    | command command => cases command <;> trivial
    | _ => trivial
  | client request =>
    cases request with
    | command command => cases command <;> trivial
    | _ => trivial
  | writeMemory memory => exact drawn.elim
  | _ => trivial

theorem drawn_steady {p : Callback Unit} (drawn : Abides drawing (fun _ => True) p) :
    Abides (steady anchor) (fun _ => True) p :=
  drawn_within drawn fun _ => drawing_steady

theorem click_steady (object : ScreenObject) (point : Point) (area : Rect) (button : MouseButton) :
    Abides (steady anchor) (fun _ => True) (click geo object point area button) := by
  cases object with
  | clickRegion => simp [click, OverlayRequest.IsSteady]
  | menu =>
    have opened : Abides (steady anchor) (fun _ => True) (opensMenu button) := by
      simp [opensMenu, OverlayRequest.IsSteady]
    simp only [click, bind_eq, abides_bind]
    refine opened.mono fun menu _ => callFunction_steady ?_ "" area
    cases menu <;> decide

/-- An event that submits no target, does not drag the badge and loads no content leaves the
session alone. -/
theorem callback_steady {call : Event} (unsubmitted : call.submitted? = none)
    (undragged : call.dragged? = none)
    (unloaded : ∀ detailed, call ≠ .contentLoaded true detailed) :
    Abides (steady anchor) (fun _ => True) (call.callback geo) := by
  cases call with
  | contentLoaded loaded detailed =>
    cases loaded with
    | false => exact trivial
    | true => exact absurd rfl (unloaded detailed)
  | refresh phase =>
    cases phase with
    | backBitmap => exact drawn_steady drawBackground_drawn
    | beforeTags => exact drawn_steady drawForeground_drawn
    | afterTags => exact trivial
    | afterLists =>
      simp only [Event.callback, refresh, drawDecorations, bind_eq, abides_bind]
      exact (drawn_steady drawBadge_drawn).mono fun _ _ =>
        refreshIfRequired_steady.mono fun _ _ => flush_steady
  | callFunction f text area =>
    refine callFunction_steady (fun submit => ?_) text area
    subst submit
    cases unsubmitted
  | callId id text area =>
    simp only [Event.callback, callId]
    cases decoded : TagFunction.decode id with
    | error cause => exact ⟨trivial, fun _ _ => trivial⟩
    | ok f =>
      refine callFunction_steady (fun submit => ?_) text area
      simp [Event.submitted?, decoded, submit] at unsubmitted
  | click object point area button => exact click_steady object point area button
  | move object point released =>
    cases object with
    | clickRegion => exact trivial
    | menu => cases undragged

end

end Overlay

section

variable {H C K : Type} [Host H] [LightingClient C] [Canvas K]

/-- A situation has the session of another, and no submit waits in it. -/
structure Situation.Keeps (s now : Situation H C K) : Prop where
  anchor : now.memory.anchor = s.memory.anchor
  slot : now.memory.pending.NoSubmit
  settings : Host.loadSetting now.host = Host.loadSetting s.host
  target : LightingClient.aerodrome now.client = LightingClient.aerodrome s.client

theorem steady_keptBy [LawfulSettings H] [LawfulTarget C] [LawfulRedraw C]
    (s : Situation H C K) :
    (Overlay.steady s.memory.anchor).KeptBy (OverlayRequest.serve (H := H) (C := C) (K := K))
      s.Keeps (fun _ => True) := by
  intro request now keeps asked _
  obtain ⟨anchor, slot, settings, target⟩ := keeps
  cases request with
  | host request =>
    cases request with
    | command command =>
      refine ⟨trivial, anchor, slot, Eq.trans ?_ settings, target⟩
      apply LawfulSettings.loadSetting_obey
      rintro key description value rfl
      exact asked
    | _ => exact ⟨trivial, anchor, slot, settings, target⟩
  | client request =>
    cases request with
    | command command =>
      refine ⟨trivial, anchor, slot, settings, Eq.trans ?_ target⟩
      apply LawfulTarget.aerodrome_obey
      rintro icao rfl
      exact asked
    | takeRedraw =>
      exact ⟨trivial, anchor, slot, settings,
        (LawfulRedraw.aerodrome_takeRedraw now.client).trans target⟩
    | _ => exact ⟨trivial, anchor, slot, settings, target⟩
  | readMemory => exact ⟨⟨anchor, slot⟩, anchor, slot, settings, target⟩
  | writeMemory memory => exact ⟨trivial, asked.1, asked.2, settings, target⟩
  | _ => exact ⟨trivial, anchor, slot, settings, target⟩

/-- An event that submits no target, does not drag the badge and loads no content keeps target,
anchor and settings, and saves nothing. -/
theorem steady_run [LawfulSettings H] [LawfulTarget C] [LawfulRedraw C] (geo : Bool) {call : Event}
    (unsubmitted : call.submitted? = none) (undragged : call.dragged? = none)
    (unloaded : ∀ detailed, call ≠ .contentLoaded true detailed) {s : Situation H C K}
    (slot : s.memory.pending.NoSubmit) :
    s.Keeps (Overlay.run (call.callback geo) s).state ∧
      saves (Overlay.run (call.callback geo) s).trace = [] := by
  have abides : Program.Abides (Overlay.steady s.memory.anchor) (fun _ => True)
      (call.callback geo) := Overlay.callback_steady unsubmitted undragged unloaded
  obtain ⟨within, keeps, -⟩ :=
    abides.run (steady_keptBy s) ⟨rfl, slot, rfl, rfl⟩ fun _ _ => trivial
  exact ⟨keeps, saves_eq_nil fun key description value member =>
    within _ (host_mem_effects.mp member)⟩

end

end RadarOverlay
