import RadarOverlay.Proofs.ContentDrawing
import RadarOverlay.Proofs.Restoring

/-!
The scaling that is handed to the client. It is a distance in pixels over a difference in
degrees, and only the distance is never negative: where the corners of the visible box are
the wrong way round, as those of a map across the antimeridian are, the scaling is negative,
and such a viewport counts as one to draw with. Main statements: `handed_by_content` says
which viewports the client is handed at all, and `scaling_follows_extent` which sign their
scaling has.
-/
namespace RadarOverlay

/-- The viewport that an effect hands to the client. -/
def Effect.viewport? : Effect → Option Viewport
  | .client (.drawBackground _ viewport) | .client (.setViewport viewport) => some viewport
  | _ => none

/-- The viewports of a record that are handed to the client, in order. -/
def viewports (trace : List (Exchange Overlay)) : List Viewport :=
  (effects trace).filterMap Effect.viewport?

/-- A request that hands no viewport to the client. -/
def OverlayRequest.KeepsViewport : OverlayRequest → Prop
  | .client (.command (.drawBackground ..)) | .client (.command (.setViewport _)) => False
  | _ => True

theorem viewports_eq_nil {trace : List (Exchange Overlay)}
    (kept : ∀ x ∈ trace, x.request.KeepsViewport) : viewports trace = [] := by
  rw [viewports, List.filterMap_eq_nil_iff]
  intro effect made
  cases effect with
  | client command =>
    have asked := kept _ (client_mem_effects.mp made)
    cases command <;> first | rfl | exact asked.elim
  | _ => rfl

/-- An event in which content is drawn. -/
def Event.IsContent (call : Event) : Prop :=
  call = .refresh .backBitmap ∨ call = .refresh .beforeTags

section

open Program Overlay

variable {H C K : Type} [Host H] [LightingClient C] [Canvas K] {geo : Bool}
  {s : Situation H C K} {viewport : Viewport}

/-- Calls hand no viewport over. -/
theorem called_keepsViewport {p : Callback Unit}
    (called : Abides (only OverlayRequest.IsCalling) (fun _ => True) p) :
    Abides (only OverlayRequest.KeepsViewport) (fun _ => True) p := by
  refine called.relax (fun request asked => ?_) fun _ _ _ => trivial
  cases request with
  | client request =>
    cases request with
    | command command => cases command <;> trivial
    | _ => trivial
  | _ => trivial

theorem drawDecorations_keepsViewport :
    Abides (only OverlayRequest.KeepsViewport) (fun _ => True) (drawDecorations geo) := by
  have badge : Abides (only OverlayRequest.KeepsViewport) (fun _ => True) drawBadge := by
    simp [drawBadge, withSavedTransform, OverlayRequest.KeepsViewport]
  simp only [drawDecorations, bind_eq, abides_bind]
  exact badge.mono fun _ _ => (called_keepsViewport refreshIfRequired_calling).mono
    fun _ _ => called_keepsViewport flush_calling

theorem click_keepsViewport (object : ScreenObject) (point : Point) (area : Rect)
    (button : MouseButton) : Abides (only OverlayRequest.KeepsViewport) (fun _ => True)
      (click geo object point area button) := by
  cases object with
  | clickRegion => exact ⟨trivial, fun _ _ => trivial⟩
  | menu =>
    have opened : Abides (only OverlayRequest.KeepsViewport) (fun _ => True)
        (opensMenu button) := by
      simp [opensMenu, OverlayRequest.KeepsViewport]
    simp only [click, bind_eq, abides_bind]
    exact opened.mono fun menu _ => called_keepsViewport (callFunction_calling _ "" area)

theorem move_keepsViewport (object : ScreenObject) (point : Point) (released : Bool) :
    Abides (only OverlayRequest.KeepsViewport) (fun _ => True) (move object point released) := by
  cases object with
  | clickRegion => exact trivial
  | menu => simp [move, MenuAnchor.save, SettingKey.save, OverlayRequest.KeepsViewport]

/-- Only the passes of content hand viewports over. -/
theorem viewports_of_other {call : Event} (other : ¬ call.IsContent) (s : Situation H C K) :
    viewports (Overlay.run (call.callback geo) s).trace = [] := by
  have kept {p : Callback Unit}
      (abides : Abides (only OverlayRequest.KeepsViewport) (fun _ => True) p) :
      viewports (Overlay.run p s).trace = [] :=
    viewports_eq_nil fun x member => abides.asks_of_only OverlayRequest.serve s x member
  cases call with
  | contentLoaded loaded detailed =>
    cases loaded with
    | false => rfl
    | true =>
      -- A load may set the target, which is a command to the client, but hands no viewport over.
      obtain ⟨-, -, made⟩ := run_contentLoaded detailed s
      rw [viewports, Event.callback, made]
      cases (ScreenSettings.ofStore (Host.loadSetting s.host)).aerodrome <;> rfl
  | refresh phase =>
    cases phase with
    | backBitmap => exact absurd (.inl rfl) other
    | beforeTags => exact absurd (.inr rfl) other
    | afterTags => rfl
    | afterLists => exact kept drawDecorations_keepsViewport
  | callFunction f text area => exact kept (called_keepsViewport (callFunction_calling f text area))
  | callId id text area =>
    simp only [Event.callback, callId]
    cases TagFunction.decode id with
    | error cause => rfl
    | ok f => exact kept (called_keepsViewport (callFunction_calling f text area))
  | click object point area button => exact kept (click_keepsViewport object point area button)
  | move object point released => exact kept (move_keepsViewport object point released)

/-- A background pass hands over the viewport of the host, if any. -/
theorem handed_by_background
    (handed : viewport ∈ viewports (Overlay.run (drawBackground geo) s).trace) :
    Viewport.ofHost geo s.host = .ok viewport ∧ viewport.isDrawable = true := by
  rw [viewports, (drawBackground_draws geo s).drawn] at handed
  obtain ⟨effect, made, hands⟩ := List.mem_filterMap.mp handed
  cases status : StatusMessage.ofClient? geo s.client with
  | some message =>
    rw [status] at made
    obtain ⟨center, -, written⟩ := mem_drawn made
    cases List.mem_singleton.mp written
    cases hands
  | none =>
    rw [status] at made
    obtain ⟨found, answered, shown⟩ := mem_drawn made
    unfold Viewport.background at shown
    split at shown
    · rename_i drawable
      cases List.mem_singleton.mp shown
      cases hands
      exact ⟨answered, drawable⟩
    · cases shown

/-- A foreground pass hands over the viewport of the host, if any. -/
theorem handed_by_foreground
    (handed : viewport ∈ viewports (Overlay.run (drawForeground geo) s).trace) :
    Viewport.ofHost geo s.host = .ok viewport ∧ viewport.isDrawable = true := by
  rw [viewports, (drawForeground_draws geo s).drawn] at handed
  obtain ⟨effect, made, hands⟩ := List.mem_filterMap.mp handed
  obtain ⟨found, answered, shown⟩ := mem_drawn made
  unfold Viewport.foreground at shown
  split at shown
  · rename_i drawable
    rcases List.mem_cons.mp shown with rfl | shown
    · cases hands
      exact ⟨answered, drawable⟩
    · rcases List.mem_cons.mp shown with rfl | shown
      · cases hands
      · obtain ⟨region, -, rfl⟩ := List.mem_map.mp shown
        cases hands
  · cases shown

/-- Every viewport that the client is handed is the one that the host gives at that time, in a pass
of content, and one to draw with. -/
theorem handed_by_content {call : Event}
    (handed : viewport ∈ viewports (Overlay.run (call.callback geo) s).trace) :
    call.IsContent ∧ Viewport.ofHost geo s.host = .ok viewport ∧ viewport.isDrawable = true := by
  by_cases content : call.IsContent
  · refine ⟨content, ?_⟩
    rcases content with rfl | rfl
    · exact handed_by_background handed
    · exact handed_by_foreground handed
  · rw [viewports_of_other content s] at handed
    cases handed

theorem hasSign_offsetLength (offset : Int × Int) : HasSign .positive (offsetLength offset) :=
  hasSign_sqrt (hasSign_add (hasSign_mul_self _) (hasSign_mul_self _))

/-- A quotient that is not negative above has the sign of what is below, if it is finite. -/
theorem quotient_sign {a b c : Float} (nonneg : HasSign .positive a)
    (finite : (a / (b - c)).isFinite = true) :
    (¬ b < c → 0 ≤ a / (b - c)) ∧ (b < c → a / (b - c) ≤ 0) := by
  refine ⟨fun notLess => ?_, fun less => ?_⟩
  · -- What is not less is greater, or equal, or no number; only the first gives a finite quotient.
    rcases hasSign_sub_of_not_lt notLess with positive | vanishes
    · exact nonneg_of_hasSign (hasSign_div nonneg positive) finite
    · rw [isFinite_div_of_vanishes vanishes] at finite
      cases finite
  · exact nonpos_of_hasSign (hasSign_div nonneg (hasSign_sub_of_lt less)) finite

/-- Whatever a host reports, in whatever event, a viewport that is handed to the client of a
geographic surface has finite scaling whose signs are the order of the corners of the visible box:
it is not negative in a direction in which the maximum is not below the minimum, and not positive
where it is. -/
theorem scaling_follows_extent {call : Event}
    (handed : viewport ∈ viewports (Overlay.run (call.callback true) s).trace) :
    let box := Host.displayArea s.host
    call.IsContent ∧ ∃ v, viewport = .geo v ∧ Viewport.ofHost true s.host = .ok (.geo v) ∧
      v.isFinite = true ∧
      (¬ box.max.latitude < box.min.latitude → 0 ≤ v.scaling.1) ∧
      (box.max.latitude < box.min.latitude → v.scaling.1 ≤ 0) ∧
      (¬ box.max.longitude < box.min.longitude → 0 ≤ v.scaling.2) ∧
      (box.max.longitude < box.min.longitude → v.scaling.2 ≤ 0) := by
  intro box
  obtain ⟨content, answered, drawable⟩ := handed_by_content handed
  obtain ⟨v, north, east, rfl, latitudes, longitudes, drawable_iff⟩ := scaling_of_host answered
  obtain ⟨finiteNorth, finiteEast⟩ := drawable_iff.mp drawable
  rw [latitudes] at finiteNorth
  rw [longitudes] at finiteEast
  have northSigns := quotient_sign (hasSign_offsetLength north) finiteNorth
  have eastSigns := quotient_sign (hasSign_offsetLength east) finiteEast
  rw [← latitudes] at northSigns
  rw [← longitudes] at eastSigns
  exact ⟨content, v, rfl, answered, drawable, northSigns.1, northSigns.2, eastSigns.1,
    eastSigns.2⟩

end

open Simulation

/-- On a map that is turned the client is handed a viewport whose scaling is not negative. -/
theorem scaling_follows_extent_turned :
    let turned : MapView := { MapView.initial with matrix := ((600, 800), (-800, 600)) }
    let scene : Scene := { Scene.controlled with
      host := { Scene.controlled.host with map := turned } }
    ∃ v, .geo v ∈ viewports (Overlay.run ((Event.refresh .beforeTags).callback true) scene).trace ∧
      0 ≤ v.scaling.1 ∧ 0 ≤ v.scaling.2 := by
  intro turned scene
  have some : viewports
      (Overlay.run ((Event.refresh .beforeTags).callback true) scene).trace ≠ [] := by
    rw [← List.isEmpty_eq_false_iff]
    decide +kernel
  obtain ⟨viewport, handed⟩ := List.exists_mem_of_ne_nil _ some
  obtain ⟨-, v, rfl, -, -, north, -, east, -⟩ := scaling_follows_extent handed
  exact ⟨v, handed, north (by decide +kernel), east (by decide +kernel)⟩

/-- The scaling of the longitudes is negative. -/
def Viewport.isReversed : Viewport → Bool
  | .geo v => v.scaling.2 < 0 ∧ ¬ 0 ≤ v.scaling.2
  | .planar _ => false

/-- On a map across the antimeridian, from 179.5 degrees east to 179.5 degrees west, the client is
handed a viewport with negative scaling, in the background and in the foreground. -/
theorem scaling_negative_across_antimeridian :
    let across : MapView := { MapView.initial with
      origin := ⟨52, 179.5⟩, display := ⟨⟨51.5, 179.5⟩, ⟨52, -179.5⟩⟩ }
    let scene : Scene := { Scene.controlled with
      host := { Scene.controlled.host with map := across } }
    ∀ call : Event, call.IsContent →
      ∃ v, .geo v ∈ viewports (Overlay.run (call.callback true) scene).trace ∧
        v.scaling.2 < 0 ∧ ¬ 0 ≤ v.scaling.2 := by
  intro across scene call content
  have handed : (viewports (Overlay.run (call.callback true) scene).trace).any
      Viewport.isReversed = true := by
    rcases content with rfl | rfl <;> decide +kernel
  obtain ⟨viewport, handed, below⟩ := List.any_eq_true.mp handed
  cases viewport with
  | geo v => exact ⟨v, handed, of_decide_eq_true below⟩
  | planar v => cases below

end RadarOverlay
