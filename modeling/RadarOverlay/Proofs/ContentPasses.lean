import RadarOverlay.Controller.Event
import RadarOverlay.Proofs.Passes
import RadarOverlay.Simulation.Scene

/-!
The passes that draw content do not interfere with anything else. Hosts and clients are
known by their answers only, so they count as the same if nothing that is asked of them
can tell them apart. A pass that draws content leaves the memory as it is and the host
and the client the same in this sense, and from there every other callback goes on alike.
Main statements: `Program.run_related`, which carries a relation between two situations
through a run, and `content_passes_do_not_interfere`, which says that passes of content
may be put in and left out anywhere.
-/
namespace RadarOverlay

section

variable {V : Vocabulary} {σ α : Type} {serve : Surroundings V σ} {s t u : σ}

/-- The state that is left by some requests. -/
def afterRequests (serve : Surroundings V σ) (past : List V.Request) (s : σ) : σ :=
  past.foldl (fun s request => (serve request s).2) s

/-- States are alike if they answer each request alike, now and after any other requests. -/
def Alike (serve : Surroundings V σ) (s t : σ) : Prop :=
  ∀ past request, (serve request (afterRequests serve past s)).1 =
    (serve request (afterRequests serve past t)).1

theorem Alike.refl (s : σ) : Alike serve s s := fun _ _ => rfl

theorem Alike.symm (alike : Alike serve s t) : Alike serve t s :=
  fun past request => (alike past request).symm

theorem Alike.trans (first : Alike serve s t) (second : Alike serve t u) : Alike serve s u :=
  fun past request => (first past request).trans (second past request)

theorem Alike.answer (alike : Alike serve s t) (request : V.Request) :
    (serve request s).1 = (serve request t).1 := alike [] request

/-- States stay alike if they are asked alike. -/
theorem Alike.next (alike : Alike serve s t) (request : V.Request) :
    Alike serve (serve request s).2 (serve request t).2 := fun past => alike (request :: past)

/-- States are alike if some relation holds between them under which every request is answered
alike, and which every request preserves. -/
theorem alike_of_related {related : σ → σ → Prop}
    (steps : ∀ request s t, related s t → (serve request s).1 = (serve request t).1 ∧
      related (serve request s).2 (serve request t).2) (start : related s t) : Alike serve s t := by
  intro past request
  induction past generalizing s t with
  | nil => exact (steps request s t start).1
  | cons first rest ih => exact ih (steps first s t start).2

/-- A program runs alike from related states, if every request is answered alike in related states
and leaves related states. -/
theorem Program.run_related {related : σ → σ → Prop}
    (steps : ∀ request s t, related s t → (serve request s).1 = (serve request t).1 ∧
      related (serve request s).2 (serve request t).2)
    (p : Program V α) (start : related s t) :
    (p.run serve s).result = (p.run serve t).result ∧
      (p.run serve s).trace = (p.run serve t).trace ∧
      related (p.run serve s).state (p.run serve t).state := by
  induction p generalizing s t with
  | done | fault => exact ⟨rfl, rfl, start⟩
  | ask request next ih =>
    obtain ⟨answer, after⟩ := steps request s t start
    obtain ⟨result, trace, state⟩ := ih (serve request t).1 after
    simp only [run, answer]
    exact ⟨result, by rw [trace], state⟩

end

/-- What is said to a host. -/
abbrev HostTalk : Vocabulary := ⟨HostRequest, HostRequest.Answer⟩

/-- What is said to a client. -/
abbrev ClientTalk : Vocabulary := ⟨ClientRequest, ClientRequest.Answer⟩

def Host.Alike {H : Type} [Host H] (h h' : H) : Prop :=
  RadarOverlay.Alike (V := HostTalk) HostRequest.serve h h'

def LightingClient.Alike {C : Type} [LightingClient C] (c c' : C) : Prop :=
  RadarOverlay.Alike (V := ClientTalk) ClientRequest.serve c c'

/-- An object that is registered for clicks changes nothing that a host answers. -/
class QuietRegistration (H : Type) [Host H] : Prop where
  alike_addScreenObject (h : H) (object : ScreenObject) (area : Rect) (movable : Bool) :
    Host.Alike h (Host.obey (.addScreenObject object area movable) h)

/-- To draw changes nothing that a client answers. -/
class QuietDrawing (C : Type) [LightingClient C] : Prop where
  alike_drawBackground (c : C) (surface : SurfaceHandle) (viewport : Viewport) :
    LightingClient.Alike c (LightingClient.obey (.drawBackground surface viewport) c)
  alike_setViewport (c : C) (viewport : Viewport) :
    LightingClient.Alike c (LightingClient.obey (.setViewport viewport) c)
  alike_drawForeground (c : C) (surface : SurfaceHandle) :
    LightingClient.Alike c (LightingClient.obey (.drawForeground surface) c)

section

open Program

variable {H C K : Type} [Host H] [LightingClient C] {s t u : Situation H C K}

/-- Situations match if the overlay remembers the same and host and client are alike. -/
structure Situation.Matches (s t : Situation H C K) : Prop where
  memory : s.memory = t.memory
  host : Host.Alike s.host t.host
  client : LightingClient.Alike s.client t.client

namespace Situation.Matches

theorem refl (s : Situation H C K) : s.Matches s := ⟨rfl, Alike.refl _, Alike.refl _⟩

theorem symm (same : s.Matches t) : t.Matches s :=
  ⟨same.memory.symm, Alike.symm same.host, Alike.symm same.client⟩

theorem trans (first : s.Matches t) (second : t.Matches u) : s.Matches u :=
  ⟨first.memory.trans second.memory, Alike.trans first.host second.host,
    Alike.trans first.client second.client⟩

/-- A request is answered alike in situations that match, with the same canvas in both. -/
theorem serve [Canvas K] (request : OverlayRequest) (s t : Situation H C K)
    (same : s.Matches t ∧ s.canvas = t.canvas) :
    (request.serve s).1 = (request.serve t).1 ∧
      (request.serve s).2.Matches (request.serve t).2 ∧
      (request.serve s).2.canvas = (request.serve t).2.canvas := by
  obtain ⟨⟨memory, host, client⟩, canvas⟩ := same
  cases request with
  | host request =>
    exact ⟨Alike.answer host request, ⟨memory, Alike.next host request, client⟩, canvas⟩
  | client request =>
    exact ⟨Alike.answer client request, ⟨memory, host, Alike.next client request⟩, canvas⟩
  | canvas request =>
    refine ⟨?_, ⟨memory, host, client⟩, ?_⟩ <;> simp only [OverlayRequest.serve, canvas]
  | readMemory => exact ⟨memory, ⟨memory, host, client⟩, canvas⟩
  | writeMemory written => exact ⟨rfl, ⟨rfl, host, client⟩, canvas⟩
  | note => exact ⟨rfl, ⟨memory, host, client⟩, canvas⟩

end Situation.Matches

variable [Canvas K] {geo : Bool}

/-- What is asked to draw leaves a situation that matches. -/
theorem matches_of_drawing [QuietRegistration H] [QuietDrawing C] {request : OverlayRequest}
    (drawing : request.IsDrawing) (s : Situation H C K) : s.Matches (request.serve s).2 := by
  cases request with
  | host request =>
    cases request with
    | command command =>
      cases command with
      | addScreenObject object area movable =>
        exact ⟨rfl, QuietRegistration.alike_addScreenObject s.host object area movable,
          Alike.refl _⟩
      | _ => exact drawing.elim
    | _ => exact .refl s
  | client request =>
    cases request with
    | command command =>
      refine ⟨rfl, Alike.refl _, ?_⟩
      cases command with
      | drawBackground surface viewport =>
        exact QuietDrawing.alike_drawBackground _ surface viewport
      | setViewport viewport => exact QuietDrawing.alike_setViewport _ viewport
      | drawForeground surface => exact QuietDrawing.alike_drawForeground _ surface
      | _ => exact drawing.elim
    | takeRedraw => exact drawing.elim
    | _ => exact .refl s
  | canvas => exact ⟨rfl, Alike.refl _, Alike.refl _⟩
  | readMemory | note => exact .refl s
  | writeMemory => exact drawing.elim

/-- A run that only draws ends in a situation that matches, also if it stops at an overflow. -/
theorem matches_of_drawn [QuietRegistration H] [QuietDrawing C] {p : Callback Unit}
    (drawn : Abides Overlay.drawing (fun _ => True) p) (s : Situation H C K) :
    s.Matches (Overlay.run p s).state := by
  have kept : Overlay.drawing.KeptBy (OverlayRequest.serve (H := H) (C := C) (K := K))
      s.Matches (fun _ => True) :=
    fun _ t same drawing _ => ⟨trivial, same.trans (matches_of_drawing drawing t)⟩
  exact (drawn.run kept (.refl s) fun _ _ => trivial).2.1

/-- A step that draws content, or is the pass in which nothing is drawn. -/
def Step.isContent : Step H C K → Bool
  | .event (.refresh .backBitmap) | .event (.refresh .beforeTags)
  | .event (.refresh .afterTags) => true
  | _ => false

theorem matches_of_content [QuietRegistration H] [QuietDrawing C] {step : Step H C K}
    (content : step.isContent = true) (s : Situation H C K) :
    s.Matches (step.run geo s).state := by
  cases step with
  | event call =>
    cases call with
    | refresh phase =>
      cases phase with
      | backBitmap => exact matches_of_drawn Overlay.drawBackground_drawn s
      | beforeTags => exact matches_of_drawn Overlay.drawForeground_drawn s
      | afterTags => exact .refl s
      | afterLists => cases content
    | _ => cases content
  | _ => cases content

/-- A change of the surroundings is fair if it leaves alike what it finds alike. -/
def Step.IsFair : Step H C K → Prop
  | .hostChanges change => ∀ h h', Host.Alike h h' → Host.Alike (change h) (change h')
  | .clientChanges change =>
    ∀ c c', LightingClient.Alike c c' → LightingClient.Alike (change c) (change c')
  | .event _ | .canvasChanges _ => True

/-- A step and the canvas that is handed out for it. A canvas is valid for one step only. -/
structure Turn (H C K : Type) where
  canvas : K
  step : Step H C K

def Turn.take (geo : Bool) (turn : Turn H C K) (s : Situation H C K) :
    Outcome Overlay (Situation H C K) Unit :=
  turn.step.run geo { s with canvas := turn.canvas }

/-- A turn goes alike in situations that match. -/
theorem take_matches (geo : Bool) {turn : Turn H C K} (fair : turn.step.IsFair)
    (same : s.Matches t) :
    (turn.take geo s).result = (turn.take geo t).result ∧
      (turn.take geo s).trace = (turn.take geo t).trace ∧
      (turn.take geo s).state.Matches (turn.take geo t).state := by
  obtain ⟨canvas, step⟩ := turn
  have start : Situation.Matches { s with canvas } { t with canvas } :=
    ⟨same.memory, same.host, same.client⟩
  cases step with
  | event call =>
    obtain ⟨result, trace, state, -⟩ :=
      Program.run_related Situation.Matches.serve (call.callback geo) ⟨start, rfl⟩
    exact ⟨result, trace, state⟩
  | hostChanges change => exact ⟨rfl, rfl, same.memory, fair _ _ same.host, same.client⟩
  | clientChanges change => exact ⟨rfl, rfl, same.memory, same.host, fair _ _ same.client⟩
  | canvasChanges change => exact ⟨rfl, rfl, same.memory, same.host, same.client⟩

/-- Where turns lead. They go on after an overflow. -/
def lastSituation (geo : Bool) (turns : List (Turn H C K)) (s : Situation H C K) :
    Situation H C K :=
  turns.foldl (fun s turn => (turn.take geo s).state) s

/-- How the turns end that do not draw content, and all that passes in them. -/
def withoutContent (geo : Bool) :
    List (Turn H C K) → Situation H C K → List (Except Overflow Unit × List (Exchange Overlay))
  | [], _ => []
  | turn :: rest, s =>
    let outcome := turn.take geo s
    let later := withoutContent geo rest outcome.state
    if turn.step.isContent then later else (outcome.result, outcome.trace) :: later

/-- The turns that do not draw content go as they do without those that do. -/
theorem content_left_out [QuietRegistration H] [QuietDrawing C] (geo : Bool)
    {turns : List (Turn H C K)} (fair : ∀ turn ∈ turns, turn.step.IsFair) (same : s.Matches t) :
    let others := turns.filter fun turn => !turn.step.isContent
    withoutContent geo turns s = withoutContent geo others t ∧
      (lastSituation geo turns s).Matches (lastSituation geo others t) := by
  induction turns generalizing s t with
  | nil => exact ⟨rfl, same⟩
  | cons turn rest ih =>
    obtain ⟨first, later⟩ := List.forall_mem_cons.mp fair
    cases content : turn.step.isContent with
    | true =>
      have drawn : Situation.Matches { s with canvas := turn.canvas } (turn.take geo s).state :=
        matches_of_content content _
      have still : (turn.take geo s).state.Matches t :=
        drawn.symm.trans ⟨same.memory, same.host, same.client⟩
      simpa [withoutContent, lastSituation, content] using ih later still
    | false =>
      obtain ⟨result, trace, state⟩ := take_matches geo first same
      obtain ⟨others, final⟩ := ih later state
      simp only [List.filter_cons, content, Bool.not_false, if_true, withoutContent, result, trace,
        others, true_and]
      exact final

/-- Passes that draw content may be put in and left out anywhere: what passes in every other turn
stays the same, its effects and its end included, and at last the overlay remembers the same, the
client is alike, and so is the host with its settings. The changes around the overlay must not tell
alike hosts and clients apart, and to draw and to register objects must leave them alike. -/
theorem content_passes_do_not_interfere [QuietRegistration H] [QuietDrawing C] (geo : Bool)
    {first second : List (Turn H C K)}
    (same : (first.filter fun turn => !turn.step.isContent) =
      second.filter fun turn => !turn.step.isContent)
    (fair : ∀ turn ∈ first ++ second, turn.step.IsFair) (s : Situation H C K) :
    withoutContent geo first s = withoutContent geo second s ∧
      (lastSituation geo first s).memory = (lastSituation geo second s).memory ∧
      LightingClient.Alike (lastSituation geo first s).client (lastSituation geo second s).client ∧
      Host.Alike (lastSituation geo first s).host (lastSituation geo second s).host ∧
      ∀ key, Host.loadSetting (lastSituation geo first s).host key =
        Host.loadSetting (lastSituation geo second s).host key := by
  obtain ⟨fair, fair'⟩ := List.forall_mem_append.mp fair
  obtain ⟨others, final⟩ := content_left_out geo fair (.refl s)
  obtain ⟨others', final'⟩ := content_left_out geo fair' (.refl s)
  rw [same] at others final
  have ends := final.trans final'.symm
  exact ⟨others.trans others'.symm, ends.memory, ends.client, ends.host,
    fun key => Alike.answer ends.host (.loadSetting key)⟩

end

/-! ## A scene with passes put in -/

namespace Simulation

instance : QuietRegistration SceneHost := ⟨fun h _ _ _ => Alike.refl h⟩

/-- A client that keeps the viewport it was handed last and tells nobody. -/
structure SketchClient where
  scene : SceneClient
  viewport : Option Viewport

instance : LightingClient SketchClient where
  connectionState c := LightingClient.connectionState c.scene
  aerodrome c := LightingClient.aerodrome c.scene
  activity c := LightingClient.activity c.scene
  profiles c := LightingClient.profiles c.scene
  profile c := LightingClient.profile c.scene
  presets c := LightingClient.presets c.scene
  views c := LightingClient.views c.scene
  view c := LightingClient.view c.scene
  clickRegions c := LightingClient.clickRegions c.scene
  takeRedraw c :=
    ((LightingClient.takeRedraw c.scene).1,
      { c with scene := (LightingClient.takeRedraw c.scene).2 })
  obey
    | .drawBackground _ viewport, c | .setViewport viewport, c =>
      { c with viewport := some viewport }
    | command, c => { c with scene := LightingClient.obey command c.scene }

/-- Only the scene of a client shows in its answers. -/
theorem SketchClient.alike {c c' : SketchClient} (same : c.scene = c'.scene) :
    LightingClient.Alike c c' := by
  have steps (request : ClientRequest) (c c' : SketchClient) (same : c.scene = c'.scene) :
      (request.serve c).1 = (request.serve c').1 ∧
        (request.serve c).2.scene = (request.serve c').2.scene := by
    obtain ⟨scene, viewport⟩ := c
    obtain ⟨scene', viewport'⟩ := c'
    obtain rfl : scene = scene' := same
    cases request with
    | command command => cases command <;> exact ⟨rfl, rfl⟩
    | _ => exact ⟨rfl, rfl⟩
  exact alike_of_related (V := ClientTalk) steps same

instance : QuietDrawing SketchClient :=
  ⟨fun _ _ _ => SketchClient.alike rfl, fun _ _ => SketchClient.alike rfl,
    fun _ _ => SketchClient.alike rfl⟩

/-- The controlled scene with a client that has not been handed a viewport. -/
def sketched : Situation SceneHost SketchClient SceneCanvas :=
  ⟨.initial, Scene.controlled.host, ⟨Scene.controlled.client, none⟩, ⟨6, 0⟩⟩

end Simulation

open Simulation in
/-- A view is picked and its list opened while the client loses control, with and without passes of
content in between, which leave a viewport with the client. -/
theorem content_passes_do_not_interfere_picked :
    let turn (step : Step SceneHost SketchClient SceneCanvas) : Turn _ _ _ := ⟨⟨6, 0⟩, step⟩
    let click := turn (.event (.click .menu ⟨700, 590⟩ ⟨690, 580, 800, 600⟩ .left))
    let pick := turn (.event (.callId 9 "" ⟨0, 0, 60, 20⟩))
    let observing := { Scene.controlled.client with activity := .observing }
    let loss := turn (.clientChanges fun c => { c with scene := observing })
    let pass := turn (.event (.refresh .afterLists))
    let background := turn (.event (.refresh .backBitmap))
    let foreground := turn (.event (.refresh .beforeTags))
    let first := [click, pick, loss, pass]
    let second := [background, click, foreground, background, pick, loss, foreground, pass]
    (lastSituation false first sketched).client.viewport.isSome = false ∧
      (lastSituation false second sketched).client.viewport.isSome = true ∧
      withoutContent false first sketched = withoutContent false second sketched ∧
      (lastSituation false first sketched).memory =
        (lastSituation false second sketched).memory := by
  intro turn click pick observing loss pass background foreground first second
  have fair : ∀ turn ∈ first ++ second, turn.step.IsFair := by
    have kept : loss.step.IsFair := fun _ _ _ => SketchClient.alike rfl
    have events (call : Event) : (turn (.event call)).step.IsFair := trivial
    simp [first, second, kept, click, pick, pass, background, foreground, events]
  have same : (first.filter fun turn => !turn.step.isContent) =
      second.filter fun turn => !turn.step.isContent := rfl
  obtain ⟨others, memory, -⟩ := content_passes_do_not_interfere false same fair sketched
  exact ⟨by decide +kernel, by decide +kernel, others, memory⟩

end RadarOverlay
