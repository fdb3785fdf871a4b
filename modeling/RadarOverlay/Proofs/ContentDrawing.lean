import RadarOverlay.Proofs.Bearings
import RadarOverlay.Proofs.FloatSigns
import RadarOverlay.Proofs.Overflows
import RadarOverlay.Simulation.Scene

/-!
What the passes of content draw. A background pass draws a status text, or has the client
draw against the viewport of the moment, or does nothing; a foreground pass hands over that
viewport, has the client draw and registers its click regions, or does nothing. Nothing is
drawn by half: both passes find out all they need before they draw. Main statements:
`content_is_drawn_whole` says what each pass draws, and that both use one viewport;
`scaling_of_host` and `undrawable_of_flat` which viewports of a geographic surface can be
drawn with: those whose scaling is finite, so none of a box without extent.
-/
namespace RadarOverlay

section

variable {H C : Type} [Host H] [LightingClient C]

/-- The samples that a host gives of its map. -/
def GeoSamples.ofHost (host : H) : GeoSamples :=
  let box := Host.displayArea host
  { origin := Host.pixelToPosition host ⟨0, 0⟩
    min := box.min
    max := box.max
    pixelMin := Host.positionToPixel host box.min
    pixelNorth := Host.positionToPixel host box.northWest
    pixelEast := Host.positionToPixel host box.southEast }

/-- The viewport that a host gives. -/
def Viewport.ofHost (geo : Bool) (host : H) : Except Overflow Viewport :=
  let area := Host.radarArea host
  if geo then (GeoViewport.ofSamples area (GeoSamples.ofHost host)).map .geo
  else Viewport.ofArea area

/-- The message that a client has shown instead of its content. -/
def StatusMessage.ofClient? (geo : Bool) (client : C) : Option StatusMessage :=
  if (LightingClient.connectionState client).isConnected then
    if geo then none else if LightingClient.views client = [] then some .noViews else none
  else some .disconnected

/-- A box without extent in one direction. -/
def GeoBox.IsFlat (box : GeoBox) : Prop :=
  Coincide box.max.latitude box.min.latitude ∨ Coincide box.max.longitude box.min.longitude

/-- The scaling is a distance over the difference in degrees, and decides whether a viewport can be
drawn with. -/
theorem scaling_of_host {host : H} {viewport : Viewport}
    (answered : Viewport.ofHost true host = .ok viewport) :
    let box := Host.displayArea host
    ∃ (v : GeoViewport) (north east : Int × Int), viewport = .geo v ∧
      v.scaling.1 = offsetLength north / (box.max.latitude - box.min.latitude) ∧
      v.scaling.2 = offsetLength east / (box.max.longitude - box.min.longitude) ∧
      (viewport.isDrawable = true ↔
        v.scaling.1.isFinite = true ∧ v.scaling.2.isFinite = true) := by
  simp only [Viewport.ofHost, if_true] at answered
  cases sampled : GeoViewport.ofSamples (Host.radarArea host) (GeoSamples.ofHost host) with
  | error cause =>
    rw [sampled] at answered
    cases answered
  | ok v =>
    rw [sampled] at answered
    cases answered
    obtain ⟨north, -, sampled⟩ := bind_eq_ok_iff.mp sampled
    obtain ⟨east, -, sampled⟩ := bind_eq_ok_iff.mp sampled
    obtain ⟨size, -, sampled⟩ := bind_eq_ok_iff.mp sampled
    cases sampled
    refine ⟨_, north, east, rfl, rfl, rfl, ?_⟩
    simp only [Viewport.isDrawable, GeoViewport.isFinite, Bearing.isFinite_ofOffset, Bool.and_true,
      Bool.and_eq_true]

/-- A box without extent is divided by zero. -/
theorem undrawable_of_flat {host : H} {viewport : Viewport}
    (flat : (Host.displayArea host).IsFlat) (answered : Viewport.ofHost true host = .ok viewport) :
    viewport.isDrawable = false := by
  obtain ⟨v, north, east, -, latitudes, longitudes, drawable_iff⟩ := scaling_of_host answered
  rw [← Bool.not_eq_true, drawable_iff, latitudes, longitudes]
  rintro ⟨finiteNorth, finiteEast⟩
  rcases flat with same | same
  · exact absurd finiteNorth (by simp [isFinite_div_of_vanishes (vanishes_sub_of_coincide same)])
  · exact absurd finiteEast (by simp [isFinite_div_of_vanishes (vanishes_sub_of_coincide same)])

end

section

open Program Overlay

variable {H C K : Type} [Host H] [LightingClient C] [Canvas K] {geo : Bool}
  {s : Situation H C K}

/-- A callback draws what is computed: it is completed if the computation is, its effects are the
computed ones, and without effects it leaves everything as it was. -/
structure Draws (p : Callback Unit) (s : Situation H C K)
    (computed : Except Overflow (List Effect)) : Prop where
  ended : (Overlay.run p s).result = computed.map fun _ => ()
  drawn : effects (Overlay.run p s).trace = computed.toOption.getD []
  still : effects (Overlay.run p s).trace = [] → (Overlay.run p s).state = s

/-- What is drawn for a value is drawn if there is one. -/
theorem mem_drawn {α : Type} {found : Except Overflow α} {shown : α → List Effect} {effect : Effect}
    (made : effect ∈ (do return shown (← found) : Except Overflow _).toOption.getD []) :
    ∃ a, found = .ok a ∧ effect ∈ shown a := by
  cases found with
  | error cause => cases made
  | ok a => exact ⟨a, rfl, made⟩

/-- A command is the first of what is drawn. -/
theorem Draws.command {r : OverlayRequest} {next : r.Answer → Callback Unit} {effect : Effect}
    {rest : List Effect} (made : Exchange.effect? ⟨r, (r.serve s).1⟩ = some effect)
    (later : Draws (next (r.serve s).1) (r.serve s).2 (.ok rest)) :
    Draws (.ask r next) s (.ok (effect :: rest)) := by
  -- There is an effect, so nothing has to be shown of a callback that has none.
  have first : effects (Overlay.run (.ask r next) s).trace = effect :: rest := by
    simp only [Overlay.run, Program.run, effects, List.filterMap_cons_some made]
    exact congrArg (effect :: ·) later.drawn
  exact ⟨later.ended, first, fun none => by rw [first] at none; cases none⟩

/-- A note is all that is left of a pass that draws nothing. -/
theorem draws_note (notice : Notice) : Draws (note notice) s (.ok []) := ⟨rfl, rfl, fun _ => rfl⟩

/-- A question is not drawn. -/
theorem Draws.question {r : OverlayRequest} {next : r.Answer → Callback Unit}
    {computed : Except Overflow (List Effect)} (question : r.IsQuestion)
    (later : Draws (next (r.serve s).1) s computed) : Draws (.ask r next) s computed := by
  have same := serve_of_question question s
  have quiet : effects [⟨r, (r.serve s).1⟩] = [] :=
    effects_of_questions (by simpa using question)
  obtain ⟨ended, drawn, still⟩ := later
  have split : effects (Overlay.run (.ask r next) s).trace =
      effects (Overlay.run (next (r.serve s).1) s).trace := by
    simp only [Overlay.run, Program.run, same]
    exact (effects_append [_] _).trans (by rw [quiet, List.nil_append])
  refine ⟨?_, split.trans drawn, fun none => ?_⟩
  · simpa only [Overlay.run, Program.run, same] using ended
  · simpa only [Overlay.run, Program.run, same] using still (split ▸ none)

/-- What follows questions is drawn for the value that they yield. -/
theorem Draws.after {α : Type} {p : Callback α} {f : α → Callback Unit}
    {computed : α → Except Overflow (List Effect)}
    (questions : Abides (only OverlayRequest.IsQuestion) (fun _ => True) p)
    (later : ∀ a, Draws (f a) s (computed a)) :
    Draws (p.bind f) s ((Overlay.run p s).result >>= computed) := by
  induction p with
  | done a => exact later a
  | fault => exact ⟨rfl, rfl, fun _ => rfl⟩
  | ask r next ih =>
    refine .question questions.1 ?_
    simpa only [Overlay.run, Program.run, serve_of_question questions.1 s] using
      ih (r.serve s).1 (questions.2 _ trivial)

theorem result_ofExcept {α : Type} (found : Except Overflow α) (s : Situation H C K) :
    (Overlay.run (ofExcept found) s).result = found := by
  cases found <;> rfl

theorem result_statusMessage (geo : Bool) (s : Situation H C K) :
    (Overlay.run (statusMessage geo) s).result =
      .ok (StatusMessage.ofClient? geo s.client) := by
  cases connected : (LightingClient.connectionState s.client).isConnected <;> cases geo <;>
    by_cases viewless : LightingClient.views s.client = [] <;>
    simp [statusMessage, Overlay.run, Program.run, OverlayRequest.serve, ClientRequest.serve,
      StatusMessage.ofClient?, connected, viewless]

theorem result_viewport (geo : Bool) (s : Situation H C K) :
    (Overlay.run (Viewport.current geo) s).result = Viewport.ofHost geo s.host := by
  cases geo with
  | false => exact result_ofExcept (Viewport.ofArea (Host.radarArea s.host)) s
  | true =>
    have mapped (found : Except Overflow GeoViewport) :
        (Overlay.run ((ofExcept found).bind fun v => .done (Viewport.geo v)) s).result =
          found.map Viewport.geo := by
      cases found <;> rfl
    simp only [Viewport.current, GeoSamples.take, askHost, bind_eq, lift_eq, request, ask_bind,
      done_bind, pure_eq, if_true, Overlay.run, Program.run, OverlayRequest.serve,
      HostRequest.serve]
    exact mapped _

/-- A message in the middle of the radar area. -/
def StatusMessage.drawing (message : StatusMessage) (s : Situation H C K) :
    Except Overflow (List Effect) := do
  let center ← (Host.radarArea s.host).center
  let extent := Canvas.measureText s.canvas message.text
  let origin := ⟨Float32.ofInt center.x.toInt - extent.width / 2, Float32.ofInt center.y.toInt⟩
  return [.canvas (.drawText message.text origin Badge.messageColor)]

/-- The background against a viewport, if it can be drawn. -/
def Viewport.background (viewport : Viewport) (s : Situation H C K) : List Effect :=
  if viewport.isDrawable then
    [.client (.drawBackground (Canvas.surface s.canvas) viewport)]
  else []

/-- The foreground against a viewport, if it can be drawn. The regions are those of the client that
has drawn it. -/
def Viewport.foreground (viewport : Viewport) (s : Situation H C K) : List Effect :=
  if viewport.isDrawable then
    let surface := Canvas.surface s.canvas
    let painted := LightingClient.obey (.drawForeground surface)
      (LightingClient.obey (.setViewport viewport) s.client)
    .client (.setViewport viewport) :: .client (.drawForeground surface) ::
      (LightingClient.clickRegions painted).map fun region =>
        .host (.addScreenObject .clickRegion region false)
  else []

/-- A background with a message, or against the viewport of the moment. -/
def backgroundWith (geo : Bool) (s : Situation H C K) :
    Option StatusMessage → Except Overflow (List Effect)
  | some message => message.drawing s
  | none => do
    let viewport ← Viewport.ofHost geo s.host
    return viewport.background s

/-- A foreground against the viewport of the moment. -/
def foregroundNow (geo : Bool) (s : Situation H C K) : Except Overflow (List Effect) := do
  let viewport ← Viewport.ofHost geo s.host
  return viewport.foreground s

theorem drawMessage_draws (message : StatusMessage) (s : Situation H C K) :
    Draws (drawMessage message) s (message.drawing s) := by
  refine .question trivial ?_
  unfold StatusMessage.drawing
  rw [← result_ofExcept (Host.radarArea s.host).center s]
  refine .after (abides_ofExcept.mpr fun _ _ => trivial) fun center => ?_
  exact .question trivial (.command rfl ⟨rfl, rfl, fun _ => rfl⟩)

theorem drawBackground_draws (geo : Bool) (s : Situation H C K) :
    Draws (drawBackground geo) s (backgroundWith geo s (StatusMessage.ofClient? geo s.client)) := by
  -- What is drawn depends on an answer that is always given.
  change Draws _ s (.ok (StatusMessage.ofClient? geo s.client) >>= backgroundWith geo s)
  rw [← result_statusMessage]
  refine .after (statusMessage_asks fun _ => trivial) fun status => ?_
  cases status with
  | some message => exact drawMessage_draws message s
  | none =>
    unfold backgroundWith
    rw [← result_viewport]
    refine .after (viewport_asks fun _ => trivial) fun viewport => ?_
    unfold Viewport.background
    cases viewport.isDrawable with
    | true => exact .question trivial (.command rfl ⟨rfl, rfl, fun _ => rfl⟩)
    | false => exact draws_note _

/-- Click regions are registered one after another, none of them to be moved. -/
theorem regions_draws (regions : List Rect) (s : Situation H C K) :
    Draws (each regions fun region => tellHost (.addScreenObject .clickRegion region false)) s
      (.ok (regions.map fun region => .host (.addScreenObject .clickRegion region false))) := by
  -- Each region changes the host, so the induction is for every situation.
  induction regions generalizing s with
  | nil => exact ⟨rfl, rfl, fun _ => rfl⟩
  | cons region rest ih => exact .command rfl (ih _)

theorem drawForeground_draws (geo : Bool) (s : Situation H C K) :
    Draws (drawForeground geo) s (foregroundNow geo s) := by
  unfold foregroundNow
  rw [← result_viewport]
  refine .after (viewport_asks fun _ => trivial) fun viewport => ?_
  unfold Viewport.foreground
  cases viewport.isDrawable with
  | true =>
    refine .command rfl (.question trivial (.command rfl (.question trivial ?_)))
    exact regions_draws _ _
  | false => exact draws_note _

/-- Over a box without extent a background pass gives the client no command, and a foreground pass
does nothing. -/
theorem quiet_of_flat {s : Situation H C K} (flat : (Host.displayArea s.host).IsFlat) :
    orders (Overlay.run (refresh true .backBitmap) s).trace = [] ∧
      effects (Overlay.run (refresh true .beforeTags) s).trace = [] := by
  constructor
  · rw [orders, refresh, (drawBackground_draws true s).drawn]
    cases StatusMessage.ofClient? true s.client with
    | some message =>
      simp only [backgroundWith, StatusMessage.drawing]
      cases (Host.radarArea s.host).center <;> rfl
    | none =>
      simp only [backgroundWith]
      cases answered : Viewport.ofHost true s.host with
      | error cause => rfl
      | ok viewport =>
        have undrawn := undrawable_of_flat flat answered
        have nothing : viewport.background s = [] := if_neg (by simp [undrawn])
        exact congrArg (List.filterMap _) nothing
  · rw [refresh, (drawForeground_draws true s).drawn, foregroundNow]
    cases answered : Viewport.ofHost true s.host with
    | error cause => rfl
    | ok viewport => exact if_neg (by simp [undrawable_of_flat flat answered])

/-- Content is drawn as a whole or not at all, whatever host, client and memory are. Without a
connection, or with one that has failed for good, and on a planar surface without views, a
background pass draws a message and gives the client no command; otherwise it has the client draw
against the viewport of the host, if that can be drawn, and does nothing if not. A foreground pass
hands that viewport over, has the client draw and registers each of its click regions in order, not
to be moved, or does nothing at all. Both passes go by one viewport as long as the host is the same,
whatever client, canvas and memory are in each. On a geographic surface whose box has no extent
there is nothing to draw with, and nothing reaches the client. -/
theorem content_is_drawn_whole (geo : Bool) {s t : Situation H C K} (same : s.host = t.host) :
    let connected := LightingClient.connectionState s.client ≠ .disconnected ∧
      LightingClient.connectionState s.client ≠ .poisoned
    let viewless := geo = false ∧ LightingClient.views s.client = []
    let viewport := Viewport.ofHost geo s.host
    (¬ connected → Draws (refresh geo .backBitmap) s (StatusMessage.disconnected.drawing s)) ∧
    (connected → viewless →
      Draws (refresh geo .backBitmap) s (StatusMessage.noViews.drawing s)) ∧
    (connected → ¬ viewless →
      Draws (refresh geo .backBitmap) s (do return (← viewport).background s)) ∧
    Draws (refresh geo .beforeTags) t (do return (← viewport).foreground t) ∧
    (geo = true → (Host.displayArea s.host).IsFlat →
      (∀ v, viewport = .ok v → v.isDrawable = false) ∧
        orders (Overlay.run (refresh geo .backBitmap) s).trace = [] ∧
        effects (Overlay.run (refresh geo .beforeTags) t).trace = []) := by
  intro connected viewless viewport
  have background := drawBackground_draws geo s
  refine ⟨fun unconnected => ?_, fun online empty => ?_, fun online shown => ?_, ?_, ?_⟩
  · have status : StatusMessage.ofClient? geo s.client = some .disconnected :=
      if_neg (mt ConnectionState.isConnected_iff.mp unconnected)
    rw [status] at background
    exact background
  · obtain ⟨planar, none⟩ := empty
    have status : StatusMessage.ofClient? geo s.client = some .noViews := by
      rw [StatusMessage.ofClient?, if_pos (ConnectionState.isConnected_iff.mpr online),
        if_neg (by simp [planar]), if_pos none]
    rw [status] at background
    exact background
  · have status : StatusMessage.ofClient? geo s.client = none := by
      rw [StatusMessage.ofClient?, if_pos (ConnectionState.isConnected_iff.mpr online)]
      split
      · rfl
      · rename_i planar
        exact if_neg fun none => shown ⟨by simpa using planar, none⟩
    rw [status] at background
    exact background
  · have foreground := drawForeground_draws geo t
    rw [foregroundNow, ← same] at foreground
    exact foreground
  · rintro rfl flat
    exact ⟨fun _ => undrawable_of_flat flat, (quiet_of_flat flat).1,
      (quiet_of_flat (same ▸ flat)).2⟩

open Simulation in
/-- A background is drawn, then the client gets two regions, and the foreground is drawn against the
same viewport. When the box has no height any more nothing is drawn. -/
theorem content_is_drawn_whole_regions :
    let first : Scene := Scene.controlled
    let second : Scene := { first with
      client := { first.client with regions := [⟨10, 10, 20, 20⟩, ⟨30, 10, 40, 20⟩] } }
    let flat : Scene := { second with
      host := { first.host with map := { MapView.initial with display := ⟨⟨52, -1⟩, ⟨52, 0⟩⟩ } } }
    (∃ viewport, viewport.isDrawable = true ∧
      effects (Overlay.run (refresh true .backBitmap) first).trace =
        [.client (.drawBackground ⟨64⟩ viewport)] ∧
      effects (Overlay.run (refresh true .beforeTags) second).trace =
        [.client (.setViewport viewport), .client (.drawForeground ⟨64⟩),
          .host (.addScreenObject .clickRegion ⟨10, 10, 20, 20⟩ false),
          .host (.addScreenObject .clickRegion ⟨30, 10, 40, 20⟩ false)]) ∧
      effects (Overlay.run (refresh true .beforeTags) flat).trace = [] := by
  intro first second flat
  have drawable : ((Viewport.ofHost true first.host).map Viewport.isDrawable) = .ok true := by
    decide +kernel
  cases answered : Viewport.ofHost true first.host with
  | error cause =>
    rw [answered] at drawable
    cases drawable
  | ok viewport =>
    rw [answered] at drawable
    have drawable : viewport.isDrawable = true := Except.ok.inj drawable
    obtain ⟨-, -, background, foreground, -⟩ :=
      content_is_drawn_whole true (s := first) (t := second) rfl
    have shown := (background ⟨nofun, nofun⟩ (by simp)).drawn
    have pushed := foreground.drawn
    obtain ⟨-, -, -, -, quiet⟩ := content_is_drawn_whole true (s := flat) (t := flat) rfl
    rw [answered] at shown pushed
    refine ⟨⟨viewport, drawable, shown.trans ?_, pushed.trans ?_⟩, ?_⟩
    · exact if_pos drawable
    · exact if_pos drawable
    · exact (quiet rfl (.inl (.inl rfl))).2.2

end

end RadarOverlay
