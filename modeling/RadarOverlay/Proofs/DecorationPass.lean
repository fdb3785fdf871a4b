import RadarOverlay.Proofs.BadgePlacement
import RadarOverlay.Proofs.Deferral

/-!
What a decoration pass does, from its first effect to its last. The badge is filled, registered
for clicks, given its icon inside a saved transform and its label; then the client's wish for a
new background is passed on; then the function that waits is called. Main statements:
`label_written` says which characters the label has, `run_drawBadge_eq`, `run_refresh_eq` and
`run_flush_eq` what each part of a pass leaves, and `decoration_pass_effects` puts them together.
-/
namespace RadarOverlay

namespace Badge

/-! ## The label -/

theorem length_writeOver (target ground : List Char) :
    (writeOver target ground).length = ground.length := by
  fun_induction writeOver target ground with
  | case1 c target g ground ih => simp [ih]
  | case2 => rfl
  | case3 => rfl

/-- As far as the ground goes, what is written over it stands before it. -/
theorem getElem?_writeOver (target ground : List Char) {i : Nat} (within : i < ground.length) :
    (writeOver target ground)[i]? = target[i]?.or ground[i]? := by
  fun_induction writeOver target ground generalizing i with
  | case1 c target g ground ih =>
    cases i with
    | zero => rfl
    | succ i => simpa using ih (by simpa using within)
  | case2 ground => simp
  | case3 => simp at within

/-- A label has four characters: those of the target, and behind a shorter target those of the
default label. -/
theorem label_written (target : Option String) :
    (label target).length = 4 ∧ ∀ i < 4, (label target).toList[i]? =
      (target.getD "").toList[i]?.or "BARS".toList[i]? := by
  have four : defaultLabel.toList.length = 4 := by decide
  refine ⟨?_, fun i within => ?_⟩
  · rw [label, String.length_ofList, length_writeOver, four]
  · rw [label, String.toList_ofList]
    exact getElem?_writeOver _ _ (four ▸ within)

/-! ## The icon and the background -/

/-- The line of the icon: an arrow up for a connection, also for one through another client, an "L"
for a local server, and a cross for no connection. -/
def iconLine : ConnectionState → List Point
  | .connectedDirect | .connectedProxy => [⟨6, 8⟩, ⟨6, 4⟩, ⟨4, 6⟩, ⟨6, 4⟩, ⟨8, 6⟩]
  | .connectedLocal => [⟨4, 4⟩, ⟨4, 4⟩, ⟨4, 4⟩, ⟨4, 8⟩, ⟨8, 8⟩]
  | .disconnected | .poisoned => [⟨4, 4⟩, ⟨8, 8⟩, ⟨6, 6⟩, ⟨4, 8⟩, ⟨8, 4⟩]

/-- The color of the background: blue while observing and green while controlling, as long as there
is a connection and a target, and dark otherwise. -/
def ground : ConnectionState → ActivityState → Option String → Color
  | .disconnected, _, _ | .poisoned, _, _ | _, _, none | _, .none, _ => ⟨0x22, 0x22, 0x22⟩
  | _, .observing, some _ => ⟨0x1e, 0x40, 0xaf⟩
  | _, .controlling, some _ => ⟨0x16, 0x65, 0x34⟩

theorem length_iconLine (connection : ConnectionState) : (iconLine connection).length = 5 := by
  cases connection <;> rfl

theorem icon_eq (connection : ConnectionState) (activity : ActivityState) (target : Bool) :
    (Style.of connection activity target).icon = iconLine connection := by
  cases connection <;> rfl

theorem background_eq (connection : ConnectionState) (activity : ActivityState)
    (target : Option String) :
    (Style.of connection activity target.isSome).background =
      ground connection activity target := by
  cases connection <;> cases activity <;> cases target <;> rfl

end Badge

/-! ## The parts of a pass -/

section

open Program

variable {H C K : Type} [Host H] [LightingClient C] [Canvas K]

/-- What an effect makes of its surroundings. -/
def Effect.onto : Effect → Situation H C K → Situation H C K
  | .host command, s => { s with host := Host.obey command s.host }
  | .client command, s => { s with client := LightingClient.obey command s.client }
  | .canvas command, s => { s with canvas := Canvas.obey command s.canvas }
  | .saved _, s => { s with canvas := (Canvas.saveTransform s.canvas).2 }

/-- A situation after effects one after another. -/
def Situation.withEffects (s : Situation H C K) (done : List Effect) : Situation H C K :=
  done.foldl (fun s effect => effect.onto s) s

/-- The effects of drawing the badge in a rectangle: every part of it is placed from the same
rectangle, and the transform is restored to the state that was saved for the icon. Icon and label
are light grey. -/
def Situation.badgeEffects (s : Situation H C K) (rect : Rect) : List Effect :=
  let fill := .fillRect rect (Badge.ground (LightingClient.connectionState s.client)
    (LightingClient.activity s.client) (LightingClient.aerodrome s.client))
  let saved := (Canvas.saveTransform (Canvas.obey fill s.canvas)).1
  let right (inset : Int) := Float32.ofInt (rect.left.toInt + inset)
  let lightGrey : Color := ⟨0xcc, 0xcc, 0xcc⟩
  [.canvas fill,
    .host (.addScreenObject .menu rect true),
    .saved saved,
    .canvas (.translate (right 2) (Float32.ofInt (rect.top.toInt + 2))),
    .canvas (.drawLines (Badge.iconLine (LightingClient.connectionState s.client)) lightGrey),
    .canvas (.restore saved),
    .canvas (.drawText s.badgeLabel ⟨right 14, Float32.ofInt rect.top.toInt⟩ lightGrey)]

/-- The effects of passing the client's wish for a new background on. -/
def Situation.redrawEffects (s : Situation H C K) : List Effect :=
  if (LightingClient.takeRedraw s.client).1 then [.host .refreshMapContent] else []

/-- A situation in which the client's redraw flag has been read. -/
def Situation.redrawRead (s : Situation H C K) : Situation H C K :=
  { s with client := (LightingClient.takeRedraw s.client).2 }

/-- The call of the function that waits, with the slot emptied before; without one nothing is
done. -/
def Situation.flushed (geo : Bool) (s : Situation H C K) :
    Outcome Overlay (Situation H C K) Unit :=
  match s.memory.pending.entry with
  | none => ⟨.ok (), s, []⟩
  | some waiting =>
    Overlay.run (Overlay.callFunction geo waiting.function "" waiting.area)
      { s with memory := { s.memory with pending := .empty } }

/-- The parts of a badge are placed from its rectangle. -/
theorem Badge.origins_of_layout {area : Rect} {anchor : MenuAnchor} {labelWidth : Float32}
    {layout : Badge.Layout} (laid : Badge.Layout.of area anchor labelWidth = .ok layout) :
    layout.iconOrigin = ⟨Float32.ofInt (layout.rect.left.toInt + 2),
        Float32.ofInt (layout.rect.top.toInt + 2)⟩ ∧
      layout.labelOrigin = ⟨Float32.ofInt (layout.rect.left.toInt + 14),
        Float32.ofInt layout.rect.top.toInt⟩ := by
  have padded : padding.toInt = 2 ∧ labelHeight.toInt = 12 := by decide
  simp only [Layout.of, bind_eq_ok_iff, Coordinate.add_eq_ok_iff] at laid
  obtain ⟨_, -, rect, -, iconX, across, iconY, down, labelX, further, made⟩ := laid
  cases made
  rw [padded.1] at across down
  rw [across, padded.2, Int.add_assoc] at further
  simp only [across, down, further]
  exact ⟨trivial, rfl⟩

/-- The effects of a first part stand before those of what goes on from where it ended. -/
theorem effects_bind {α β : Type} {p : Callback α} {f : α → Callback β}
    {s next : Situation H C K} {a : α} {done : List Effect}
    (first : (Overlay.run p s).result = .ok a ∧ effects (Overlay.run p s).trace = done ∧
      (Overlay.run p s).state = next) :
    (Overlay.run (p.bind f) s).result = (Overlay.run (f a) next).result ∧
      effects (Overlay.run (p.bind f) s).trace = done ++ effects (Overlay.run (f a) next).trace ∧
      (Overlay.run (p.bind f) s).state = (Overlay.run (f a) next).state := by
  obtain ⟨ends, before, there⟩ := first
  simp only [Overlay.run] at ends before there ⊢
  rw [run_bind_of_ok ends, effects_append, before, there]
  exact ⟨rfl, rfl, rfl⟩

theorem run_drawBadge_eq {s : Situation H C K} {layout : Badge.Layout}
    (laid : s.badgeLayout = .ok layout) :
    (Overlay.run Overlay.drawBadge s).result = .ok () ∧
      effects (Overlay.run Overlay.drawBadge s).trace = s.badgeEffects layout.rect ∧
      (Overlay.run Overlay.drawBadge s).state = s.withEffects (s.badgeEffects layout.rect) := by
  obtain ⟨icon, label⟩ := Badge.origins_of_layout laid
  have drawn := (effects_drawBadge s).2 layout laid
  have background : s.badgeStyle.background = _ := Badge.background_eq ..
  have line : s.badgeStyle.icon = _ := Badge.icon_eq ..
  rw [icon, label, background, line] at drawn
  have measured : s.badgeLayout = Badge.Layout.of (Host.radarArea s.host) s.memory.anchor
      (Canvas.measureText s.canvas (Badge.label (LightingClient.aerodrome s.client))).width := rfl
  rw [measured] at laid
  refine ⟨?_, drawn, ?_⟩
  · simp [Overlay.drawBadge, withSavedTransform, Overlay.run, run, OverlayRequest.serve,
      ClientRequest.serve, HostRequest.serve, CanvasRequest.serve, laid, Program.ofExcept]
  · simp [Overlay.drawBadge, withSavedTransform, Overlay.run, run, OverlayRequest.serve,
      ClientRequest.serve, HostRequest.serve, CanvasRequest.serve, laid, Program.ofExcept, icon,
      label, Badge.icon_eq, Badge.background_eq]
    rfl

theorem run_refresh_eq (s : Situation H C K) :
    (Overlay.run Overlay.refreshIfRequired s).result = .ok () ∧
      effects (Overlay.run Overlay.refreshIfRequired s).trace = s.redrawEffects ∧
      (Overlay.run Overlay.refreshIfRequired s).state =
        s.redrawRead.withEffects s.redrawEffects := by
  cases wished : (LightingClient.takeRedraw s.client).1 <;>
    simp only [Overlay.refreshIfRequired, Overlay.askClient, request, bind_eq, ask_bind, done_bind,
      Overlay.run, run, OverlayRequest.serve, ClientRequest.serve, wished,
      Situation.redrawEffects] <;>
    exact ⟨rfl, rfl, rfl⟩

/-- A flush does what the call does that waits. -/
theorem run_flush_eq (geo : Bool) (s : Situation H C K) :
    (Overlay.run (Overlay.flush geo) s).result = (s.flushed geo).result ∧
      effects (Overlay.run (Overlay.flush geo) s).trace = effects (s.flushed geo).trace ∧
      (Overlay.run (Overlay.flush geo) s).state = (s.flushed geo).state := by
  obtain ⟨⟨anchor, ⟨entry⟩⟩, host, client, canvas⟩ := s
  cases entry with
  | none => exact ⟨rfl, rfl, rfl⟩
  | some waiting => exact ⟨rfl, rfl, rfl⟩

/-- The situation in which a pass comes to what waits: the badge is drawn, and the client's wish for
a new background passed on. -/
def Situation.badgeDrawn (s : Situation H C K) (rect : Rect) : Situation H C K :=
  (s.withEffects (s.badgeEffects rect)).redrawRead.withEffects s.redrawEffects

theorem Situation.badgeDrawn_memory (s : Situation H C K) (rect : Rect) :
    (s.badgeDrawn rect).memory = s.memory := by
  cases wished : (LightingClient.takeRedraw s.client).1 <;>
    simp only [badgeDrawn, redrawEffects, wished] <;> rfl

/-- A pass whose badge is laid out draws the badge, passes the client's wish for a new background
on and calls what waits, in this order, and has no other effect. -/
theorem run_drawDecorations_eq (geo : Bool) {s : Situation H C K} {layout : Badge.Layout}
    (laid : s.badgeLayout = .ok layout) :
    let ran := Overlay.run (Overlay.drawDecorations geo) s
    let last := (s.badgeDrawn layout.rect).flushed geo
    ran.result = last.result ∧ ran.state = last.state ∧
      effects ran.trace =
        s.badgeEffects layout.rect ++ (s.redrawEffects ++ effects last.trace) := by
  intro ran last
  -- Drawing the badge leaves the client alone, so its flag is the one at the start of the pass.
  have wish : (s.withEffects (s.badgeEffects layout.rect)).redrawEffects = s.redrawEffects := rfl
  have refreshing := run_refresh_eq (s.withEffects (s.badgeEffects layout.rect))
  rw [wish] at refreshing
  obtain ⟨result, badge, state⟩ := effects_bind (run_drawBadge_eq laid)
    (f := fun _ => Overlay.refreshIfRequired.bind fun _ => Overlay.flush geo)
  obtain ⟨result', redraw, state'⟩ := effects_bind refreshing (f := fun _ => Overlay.flush geo)
  obtain ⟨last, opened, state''⟩ := run_flush_eq geo (s.badgeDrawn layout.rect)
  refine ⟨result.trans (result'.trans last), state.trans (state'.trans state''), badge.trans ?_⟩
  rw [redraw]
  exact congrArg (fun last => s.badgeEffects layout.rect ++ (s.redrawEffects ++ last)) opened

/-- The effects of a decoration pass are those of the badge, then one redraw request if the client
has wished for it, then those of the call that waits. The badge is placed by the width that the
canvas measures for its label, and the label is the one that is drawn. -/
theorem decoration_pass_effects (geo : Bool) (s : Situation H C K) (layout : Badge.Layout)
    (laid : s.badgeLayout = .ok layout) :
    let ran := Overlay.run (Overlay.drawDecorations geo) s
    let rect := layout.rect
    let redraw : List Effect :=
      if (LightingClient.takeRedraw s.client).1 then [.host .refreshMapContent] else []
    let opened : Outcome Overlay (Situation H C K) Unit :=
      match s.memory.pending.entry with
      | none => ⟨.ok (), s.badgeDrawn rect, []⟩
      | some waiting =>
        Overlay.run (Overlay.callFunction geo waiting.function "" waiting.area)
          { s.badgeDrawn rect with memory := { s.memory with pending := .empty } }
    effects ran.trace = s.badgeEffects rect ++ redraw ++ effects opened.trace ∧
      ran.result = opened.result ∧ ran.state = opened.state ∧
      (Badge.iconLine (LightingClient.connectionState s.client)).length = 5 ∧
      s.badgeLabel.length = 4 ∧
      (∀ i < 4, s.badgeLabel.toList[i]? =
        ((LightingClient.aerodrome s.client).getD "").toList[i]?.or "BARS".toList[i]?) ∧
      ∃ width : Int32,
        width.toInt = Badge.pixels (Canvas.measureText s.canvas s.badgeLabel).width + 16 ∧
        Badge.Placed (Host.radarArea s.host) s.memory.anchor width rect := by
  intro ran rect redraw opened
  have waiting : (s.badgeDrawn rect).flushed geo = opened := by
    simp only [Situation.flushed, s.badgeDrawn_memory, opened]
  obtain ⟨result, state, all⟩ := run_drawDecorations_eq geo laid
  obtain ⟨four, written⟩ := Badge.label_written (LightingClient.aerodrome s.client)
  rw [waiting] at result state all
  rw [← List.append_assoc] at all
  exact ⟨all, result, state, Badge.length_iconLine _, four, written, Badge.placed_of_layout laid⟩

open Simulation in
/-- A pass of a controlled aerodrome with a redraw wished for and a submenu waiting. -/
theorem decoration_pass_effects_views :
    let scene : Scene := { Scene.controlled with
      memory := ⟨⟨0, 0⟩, ⟨some ⟨.openSelectView .opening, ⟨5, 5, 65, 25⟩⟩⟩⟩
      client := { Scene.controlled.client with redraw := true, aerodrome := some "ÉLL" } }
    let ran := Overlay.run (Overlay.drawDecorations false) scene
    ∃ layout, scene.badgeLayout = .ok layout ∧ layout.rect = ⟨758, 2, 798, 18⟩ ∧
      scene.badgeLabel = "ÉLLS" ∧
      effects ran.trace = scene.badgeEffects ⟨758, 2, 798, 18⟩ ++ [.host .refreshMapContent] ++
        [.host (.openPopupList ⟨5, 5, 65, 25⟩ "Select view" 1),
          .host (.addPopupListElement ⟨"North", .submitSelectView 0, .unchecked, false⟩),
          .host (.addPopupListElement ⟨"South", .submitSelectView 1, .checked, false⟩)] := by
  intro scene ran
  have room : Badge.HasRoom scene.host.area scene.badgeLabelWidth := by decide +kernel
  have across : scene.host.area.width = .ok 800 := Coordinate.sub_eq_ok_iff.mpr (by decide)
  have down : scene.host.area.height = .ok 600 := Coordinate.sub_eq_ok_iff.mpr (by decide)
  obtain ⟨layout, laid⟩ : ∃ layout, scene.badgeLayout = .ok layout :=
    Badge.exists_layout scene.memory.anchor across down room
  have there : scene.badgeLayout.toOption.map (·.rect) = some ⟨758, 2, 798, 18⟩ := by
    decide +kernel
  rw [laid] at there
  have rect : layout.rect = ⟨758, 2, 798, 18⟩ := Option.some.inj there
  obtain ⟨all, -⟩ := decoration_pass_effects false scene layout laid
  exact ⟨layout, laid, rect, by decide, rect ▸ all⟩

end

end RadarOverlay
