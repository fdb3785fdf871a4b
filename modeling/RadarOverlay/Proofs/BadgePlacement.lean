import RadarOverlay.Proofs.FunctionScope
import RadarOverlay.Proofs.History
import RadarOverlay.Proofs.LabelPixels
import RadarOverlay.Simulation.Scene

/-!
Where the badge is. The clearance that is kept for it is larger than most badges, and an
area may be smaller than the clearance and still have room for the badge: what decides
is the size of the badge itself. Main statements: `place_placed` gives the edges of a
placed badge as exact numbers, `effects_drawBadge` says what is drawn and registered of
it, and `badge_inside_iff_room` that the badge is inside the radar area exactly if there
is room for it, wherever it is anchored.
-/
namespace RadarOverlay

namespace Badge

/-- The distance from an edge at which the badge is put, for an anchored distance and the room
there is. The distance zero stands for two pixels. -/
def offset (anchored : Int32) (room : Int) : Int :=
  max (min (if anchored = 0 then 2 else anchored.toInt) room) 0

theorem offset_nonneg (anchored : Int32) (room : Int) : 0 ≤ offset anchored room :=
  Int.le_max_right _ _

theorem offset_le (anchored : Int32) (room : Int) : offset anchored room ≤ max room 0 := by
  unfold offset
  omega

/-- The room for the badge's distance from the right edge. -/
def roomX (area : Rect) (width : Int32) : Int :=
  area.right.toInt - area.left.toInt - max width.toInt 40

/-- The room for the badge's distance from the top edge. -/
def roomY (area : Rect) : Int := area.bottom.toInt - area.top.toInt - 20

/-- The edges of a badge as exact numbers. -/
structure Placed (area : Rect) (anchor : MenuAnchor) (width : Int32) (rect : Rect) : Prop where
  right : rect.right.toInt = area.right.toInt - offset anchor.x (roomX area width)
  left : rect.left.toInt = rect.right.toInt - width.toInt
  top : rect.top.toInt = area.top.toInt + offset anchor.y (roomY area)
  bottom : rect.bottom.toInt = rect.top.toInt + 16

/-- A distance that is brought down to a room and up to zero is the exact one. -/
theorem toInt_clamped {anchored room : Int32} {exact : Int} (same : room.toInt = exact) :
    (Coordinate.max (Coordinate.min (orDefault anchored) room) 0).toInt =
      offset anchored exact := by
  have distance : (orDefault anchored).toInt = if anchored = 0 then 2 else anchored.toInt := by
    unfold orDefault
    split <;> rfl
  rw [Coordinate.toInt_max, Coordinate.toInt_min, same, distance]
  rfl

variable {area : Rect} {anchor : MenuAnchor} {labelWidth : Float32}

/-- Where a badge is placed at all it is placed exactly. -/
theorem place_placed {width : Int32} {rect : Rect}
    (answered : place area anchor width = .ok rect) : Placed area anchor width rect := by
  simp only [place, Rect.fromOrigin, Rect.width, Rect.height, bind_eq_ok_iff,
    Coordinate.sub_eq_ok_iff, Coordinate.add_eq_ok_iff] at answered
  obtain ⟨_, across, _, roomX, _, down, _, roomY, _, inset, _, left, _, lowered, _, right, _,
    bottom, made⟩ := answered
  cases made
  rw [across, Coordinate.toInt_max] at roomX
  rw [down] at roomY
  rw [toInt_clamped roomX] at inset
  rw [toInt_clamped roomY] at lowered
  have rightEdge := right.trans (Int.sub_eq_iff_eq_add.mp left.symm).symm
  exact ⟨rightEdge.trans inset, left.trans (by rw [rightEdge]), lowered, bottom⟩

/-- A badge is sixteen pixels wider than its label. -/
theorem width_eq_ok_iff {w : Int32} :
    width labelWidth = .ok w ↔ w.toInt = pixels labelWidth + 16 := by
  simp only [width, bind_eq_ok_iff, Coordinate.add_eq_ok_iff, ← toInt_wholePixels]
  have padded : (4 : Int32).toInt = 4 ∧ labelHeight.toInt = 12 := by decide
  constructor
  · rintro ⟨inner, first, second⟩
    omega
  · intro exact
    obtain ⟨inner, added⟩ := Coordinate.exists_between (wholePixels labelWidth) w
      (n := (wholePixels labelWidth).toInt + 4) (by omega) (by omega)
    exact ⟨inner, by omega, by omega⟩

/-- An area has room for a badge that is no wider and no higher than it. -/
def HasRoom (area : Rect) (labelWidth : Float32) : Prop :=
  pixels labelWidth + 16 ≤ area.right.toInt - area.left.toInt ∧
    16 ≤ area.bottom.toInt - area.top.toInt

theorem hasRoom_iff {area : Rect} {labelWidth : Float32} : HasRoom area labelWidth ↔
    (wholePixels labelWidth).toInt + 16 ≤ area.right.toInt - area.left.toInt ∧
      16 ≤ area.bottom.toInt - area.top.toInt := by
  rw [HasRoom, toInt_wholePixels]

instance (area : Rect) (labelWidth : Float32) : Decidable (HasRoom area labelWidth) :=
  decidable_of_iff _ hasRoom_iff.symm

/-- A badge that is placed is inside the area exactly if there is room for it. -/
theorem Placed.inside_iff {width : Int32} {rect : Rect} (placed : Placed area anchor width rect) :
    area.Contains rect ↔ width.toInt ≤ area.right.toInt - area.left.toInt ∧
      16 ≤ area.bottom.toInt - area.top.toInt := by
  obtain ⟨right, left, top, bottom⟩ := placed
  have inset := offset_nonneg anchor.x (roomX area width)
  have insetFits := offset_le anchor.x (roomX area width)
  have lowered := offset_nonneg anchor.y (roomY area)
  have loweredFits := offset_le anchor.y (roomY area)
  unfold roomX at *
  unfold roomY at *
  unfold Rect.Contains
  omega

/-- A badge is placed without an overflow where there is room for it. -/
theorem exists_place {W H width : Int32} (across : area.width = .ok W) (down : area.height = .ok H)
    (nonneg : 0 ≤ width.toInt) (wide : width.toInt ≤ W.toInt) (high : 16 ≤ H.toInt) :
    ∃ rect, place area anchor width = .ok rect := by
  have exactW : W.toInt = area.right.toInt - area.left.toInt := Coordinate.sub_eq_ok_iff.mp across
  have exactH : H.toInt = area.bottom.toInt - area.top.toInt := Coordinate.sub_eq_ok_iff.mp down
  have inset := offset_nonneg anchor.x (roomX area width)
  have insetFits : offset anchor.x (roomX area width) ≤ max (W.toInt - max width.toInt 40) 0 :=
    exactW ▸ offset_le ..
  have lowered := offset_nonneg anchor.y (roomY area)
  have loweredFits : offset anchor.y (roomY area) ≤ max (H.toInt - 20) 0 := exactH ▸ offset_le ..
  have least : (-40 : Int32).toInt = -40 := by decide
  -- The room may be negative, but every edge lies between those of the area.
  obtain ⟨room, roomFits⟩ := Coordinate.exists_between (-40) W
    (n := W.toInt - max width.toInt 40) (by omega) (by omega)
  obtain ⟨drop, dropFits⟩ := Coordinate.exists_between (-40) H (n := H.toInt - 20)
    (by omega) (by omega)
  obtain ⟨right, rightFits⟩ := Coordinate.exists_between area.left area.right
    (n := area.right.toInt - offset anchor.x (roomX area width)) (by omega) (by omega)
  obtain ⟨left, leftFits⟩ := Coordinate.exists_between area.left area.right
    (n := right.toInt - width.toInt) (by omega) (by omega)
  obtain ⟨top, topFits⟩ := Coordinate.exists_between area.top area.bottom
    (n := area.top.toInt + offset anchor.y (roomY area)) (by omega) (by omega)
  obtain ⟨bottom, bottomFits⟩ := Coordinate.exists_between area.top area.bottom
    (n := top.toInt + 16) (by omega) (by omega)
  refine ⟨⟨left, top, right, bottom⟩, ?_⟩
  simp only [place, Rect.fromOrigin, bind_eq_ok_iff, Coordinate.sub_eq_ok_iff,
    Coordinate.add_eq_ok_iff]
  refine ⟨W, across, room, ?_, H, down, drop, dropFits, right, ?_, left, leftFits, top, ?_, right,
    by omega, bottom, bottomFits, rfl⟩
  · rw [Coordinate.toInt_max]; exact roomFits
  · rw [toInt_clamped (roomFits.trans (by rw [exactW])), rightFits]; rfl
  · rw [toInt_clamped (dropFits.trans (by rw [exactH])), topFits]; rfl

/-- What is laid out is placed, with the width of its label. -/
theorem placed_of_layout {layout : Layout}
    (answered : Layout.of area anchor labelWidth = .ok layout) :
    ∃ w : Int32, w.toInt = pixels labelWidth + 16 ∧
      Placed area anchor w layout.rect := by
  simp only [Layout.of, bind_eq_ok_iff] at answered
  obtain ⟨w, wide, rect, placed, _, -, _, -, _, -, made⟩ := answered
  cases made
  exact ⟨w, width_eq_ok_iff.mp wide, place_placed placed⟩

/-- A badge that is laid out is inside the area exactly if there is room for it. -/
theorem layout_inside_iff {layout : Layout}
    (answered : Layout.of area anchor labelWidth = .ok layout) :
    area.Contains layout.rect ↔ HasRoom area labelWidth := by
  obtain ⟨w, wide, placed⟩ := placed_of_layout answered
  rw [placed.inside_iff, wide]
  rfl

/-- A badge is laid out without an overflow where there is room for it. -/
theorem exists_layout (anchor : MenuAnchor) {W H : Int32} (across : area.width = .ok W)
    (down : area.height = .ok H) (room : HasRoom area labelWidth) :
    ∃ layout, Layout.of area anchor labelWidth = .ok layout := by
  have exactW : W.toInt = area.right.toInt - area.left.toInt := Coordinate.sub_eq_ok_iff.mp across
  have exactH : H.toInt = area.bottom.toInt - area.top.toInt := Coordinate.sub_eq_ok_iff.mp down
  have exact := toInt_wholePixels labelWidth
  have nonneg := pixels_nonneg labelWidth
  obtain ⟨wide, high⟩ := room
  rw [← exactW] at wide
  obtain ⟨w, widthFits⟩ := Coordinate.exists_between (wholePixels labelWidth) W
    (n := pixels labelWidth + 16) (by omega) wide
  obtain ⟨rect, placed⟩ : ∃ rect, place area anchor w = .ok rect :=
    exists_place across down (by omega) (by omega) (exactH ▸ high)
  -- The icon and the label begin inside the badge, which is a rectangle of words.
  obtain ⟨-, left, -, bottom⟩ := place_placed placed
  have padded : padding.toInt = 2 ∧ labelHeight.toInt = 12 := by decide
  obtain ⟨iconX, iconLeft⟩ := Coordinate.exists_between rect.left rect.right
    (n := rect.left.toInt + padding.toInt) (by omega) (by omega)
  obtain ⟨iconY, iconTop⟩ := Coordinate.exists_between rect.top rect.bottom
    (n := rect.top.toInt + padding.toInt) (by omega) (by omega)
  obtain ⟨labelX, labelLeft⟩ := Coordinate.exists_between rect.left rect.right
    (n := iconX.toInt + labelHeight.toInt) (by omega) (by omega)
  simp only [Layout.of, bind_eq_ok_iff, Coordinate.add_eq_ok_iff]
  exact ⟨_, w, width_eq_ok_iff.mpr widthFits, rect, placed, iconX, iconLeft, iconY, iconTop,
    labelX, labelLeft, rfl⟩

end Badge

section

open Program

variable {H C K : Type} [Host H] [LightingClient C] [Canvas K]

/-- The label of the badge in a situation. -/
def Situation.badgeLabel (s : Situation H C K) : String :=
  Badge.label (LightingClient.aerodrome s.client)

/-- The width that the canvas measures for the label of the badge. -/
def Situation.badgeLabelWidth (s : Situation H C K) : Float32 :=
  (Canvas.measureText s.canvas s.badgeLabel).width

/-- Where the badge is drawn in a situation. -/
def Situation.badgeLayout (s : Situation H C K) : Except Overflow Badge.Layout :=
  Badge.Layout.of (Host.radarArea s.host) s.memory.anchor s.badgeLabelWidth

/-- The look of the badge in a situation. -/
def Situation.badgeStyle (s : Situation H C K) : Badge.Style :=
  Badge.Style.of (LightingClient.connectionState s.client) (LightingClient.activity s.client)
    (LightingClient.aerodrome s.client).isSome

/-- The badge is drawn where it is laid out, and registered with the rectangle that is drawn; if it
cannot be laid out nothing is drawn and nothing registered. -/
theorem effects_drawBadge (s : Situation H C K) :
    (∀ cause, s.badgeLayout = .error cause →
      effects (Overlay.run Overlay.drawBadge s).trace = []) ∧
    ∀ layout, s.badgeLayout = .ok layout →
      let ground := .fillRect layout.rect s.badgeStyle.background
      let saved := (Canvas.saveTransform (Canvas.obey ground s.canvas)).1
      effects (Overlay.run Overlay.drawBadge s).trace =
        [.canvas ground,
          .host (.addScreenObject .menu layout.rect true),
          .saved saved,
          .canvas (.translate layout.iconOrigin.x layout.iconOrigin.y),
          .canvas (.drawLines s.badgeStyle.icon Badge.foregroundColor),
          .canvas (.restore saved),
          .canvas (.drawText s.badgeLabel layout.labelOrigin Badge.foregroundColor)] := by
  have measured : s.badgeLayout = Badge.Layout.of (Host.radarArea s.host) s.memory.anchor
      (Canvas.measureText s.canvas (Badge.label (LightingClient.aerodrome s.client))).width := rfl
  refine ⟨fun cause stops => ?_, fun layout laid => ?_⟩
  · rw [measured] at stops
    simp [Overlay.drawBadge, Overlay.run, run, OverlayRequest.serve, ClientRequest.serve,
      HostRequest.serve, CanvasRequest.serve, stops, Program.ofExcept, Program.bind]
    rfl
  · rw [measured] at laid
    simp [Overlay.drawBadge, Overlay.run, run, OverlayRequest.serve, ClientRequest.serve,
      HostRequest.serve, CanvasRequest.serve, laid, Program.ofExcept, Program.bind]
    rfl

/-- After the badge is drawn a decoration pass does what a call may do, which registers nothing. -/
theorem effects_drawDecorations (geo : Bool) (s : Situation H C K) :
    ∃ rest, effects (Overlay.run (Overlay.drawDecorations geo) s).trace =
        effects (Overlay.run Overlay.drawBadge s).trace ++ rest ∧
      ∀ object rect movable, .host (.addScreenObject object rect movable) ∉ rest := by
  have calling : Abides (only OverlayRequest.IsCalling) (fun _ => True)
      (Overlay.refreshIfRequired.bind fun _ => Overlay.flush geo) :=
    abides_bind.mpr (Overlay.refreshIfRequired_calling.mono fun _ _ => Overlay.flush_calling)
  simp only [Overlay.drawDecorations, bind_eq, Overlay.run]
  cases ended : (run OverlayRequest.serve Overlay.drawBadge s).result with
  | error cause => exact ⟨[], by simp [run_bind_of_error ended], by simp⟩
  | ok =>
    refine ⟨_, by rw [run_bind_of_ok ended, effects_append], fun object rect movable later => ?_⟩
    exact calling.asks_of_only OverlayRequest.serve _ _ (host_mem_effects.mp later)

/-- What a decoration pass registers for clicks is the badge where it is laid out, and nothing
else. -/
theorem registered_iff_badge {geo : Bool} {s : Situation H C K} {object : ScreenObject}
    {rect : Rect} {movable : Bool} :
    .host (.addScreenObject object rect movable) ∈
        effects (Overlay.run (Overlay.drawDecorations geo) s).trace ↔
      ∃ layout, s.badgeLayout = .ok layout ∧ object = .menu ∧ rect = layout.rect ∧
        movable = true := by
  obtain ⟨stopped, drawn⟩ := effects_drawBadge s
  obtain ⟨rest, split, quiet⟩ := effects_drawDecorations geo s
  rw [split, List.mem_append, or_iff_left (quiet object rect movable)]
  cases laid : s.badgeLayout with
  | error cause => simp [stopped cause laid]
  | ok layout => simp [drawn layout laid]

/-- Where an area has room for the badge it is laid out inside, and where not it is not inside,
whatever the anchor. So in every pass the badge that is registered is inside the radar area of the
pass exactly if there is room for it, whatever has been dragged and restored before. -/
theorem badge_inside_iff_room :
    (∀ (area : Rect) (W H : Int32) (anchor : MenuAnchor) (labelWidth : Float32),
      area.width = .ok W → area.height = .ok H →
      (Badge.HasRoom area labelWidth → ∃ layout,
        Badge.Layout.of area anchor labelWidth = .ok layout ∧ area.Contains layout.rect) ∧
      (¬ Badge.HasRoom area labelWidth → ∀ layout,
        Badge.Layout.of area anchor labelWidth = .ok layout → ¬ area.Contains layout.rect)) ∧
    ∀ {geo : Bool} {past : List (Passage H C K)} {s : Situation H C K},
      History geo AnyStep past s → ∀ p ∈ past, p.step = .event (.refresh .afterLists) →
      ∀ rect movable, .host (.addScreenObject .menu rect movable) ∈ effects p.outcome.trace →
      ((Host.radarArea p.before.host).Contains rect ↔
        Badge.HasRoom (Host.radarArea p.before.host) p.before.badgeLabelWidth) := by
  refine ⟨?_, ?_⟩
  · intro area W H anchor labelWidth across down
    refine ⟨fun room => ?_, fun none layout laid => ?_⟩
    · obtain ⟨layout, laid⟩ := Badge.exists_layout anchor across down room
      exact ⟨layout, laid, (Badge.layout_inside_iff laid).mpr room⟩
    · rwa [Badge.layout_inside_iff laid]
  · intro geo past s history p member pass rect movable registered
    obtain ⟨-, -, -, -, taken⟩ := history.ran member
    rw [taken, pass] at registered
    obtain ⟨layout, laid, -, rfl, -⟩ := registered_iff_badge.mp registered
    exact Badge.layout_inside_iff laid

open Simulation in
/-- An area that is lower than the clearance has room for the badge, and the badge stays inside
though it is dragged far to the left and below; an area that is a column narrower has none. -/
theorem badge_inside_low_area :
    let area : Rect := ⟨100, 50, 140, 66⟩
    let scene : Scene := { Scene.controlled with host := { Scene.controlled.host with area } }
    let drag : Step SceneHost SceneClient SceneCanvas := .event (.move .menu ⟨-5000, 7000⟩ true)
    let pass : Step SceneHost SceneClient SceneCanvas := .event (.refresh .afterLists)
    let s := (drag.run false scene).state
    s.memory.anchor = ⟨5132, 6942⟩ ∧
      (∃ rect, .host (.addScreenObject .menu rect true) ∈ effects (pass.run false s).trace ∧
        area.Contains rect) ∧
      ∀ layout, Badge.Layout.of ⟨100, 50, 139, 66⟩ s.memory.anchor s.badgeLabelWidth = .ok layout →
        ¬ Rect.Contains ⟨100, 50, 139, 66⟩ layout.rect := by
  intro area scene drag pass s
  have created : History false AnyStep [] scene := .created rfl
  have dragged : History false AnyStep [.take false drag scene] s := created.next drag trivial
  have anchored : s.memory.anchor = ⟨5132, 6942⟩ := by decide +kernel
  have same : Host.radarArea s.host = area := by decide +kernel
  have room : Badge.HasRoom area s.badgeLabelWidth := by decide +kernel
  have none : ¬ Badge.HasRoom ⟨100, 50, 139, 66⟩ s.badgeLabelWidth := by decide +kernel
  clear_value s
  obtain ⟨laid, registers⟩ :=
    badge_inside_iff_room (H := SceneHost) (C := SceneClient) (K := SceneCanvas)
  have across : area.width = .ok 40 := Coordinate.sub_eq_ok_iff.mpr (by decide)
  have narrower : Rect.width ⟨100, 50, 139, 66⟩ = .ok 39 :=
    Coordinate.sub_eq_ok_iff.mpr (by decide)
  have down : area.height = .ok 16 := Coordinate.sub_eq_ok_iff.mpr (by decide)
  obtain ⟨layout, drawn, -⟩ := (laid area 40 16 s.memory.anchor _ across down).1 room
  have drawn : s.badgeLayout = .ok layout := by rw [Situation.badgeLayout, same, drawn]
  have registered : .host (.addScreenObject .menu layout.rect true) ∈
      effects (pass.run false s).trace := registered_iff_badge.mpr ⟨layout, drawn, rfl, rfl, rfl⟩
  have inside := registers (dragged.next pass trivial) _ List.mem_cons_self rfl layout.rect true
    registered
  rw [Passage.take, same] at inside
  exact ⟨anchored, ⟨layout.rect, registered, inside.mpr room⟩,
    (laid ⟨100, 50, 139, 66⟩ 39 16 s.memory.anchor _ narrower down).2 none⟩

end

end RadarOverlay
