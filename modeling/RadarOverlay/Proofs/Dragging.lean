import RadarOverlay.Proofs.BadgePlacement
import RadarOverlay.Proofs.Overflows
import RadarOverlay.Proofs.SteadyEvents

/-!
The badge under the pointer. A drag turns a point into an anchor, which is brought up to
one, and a pass turns an anchor into a rectangle, which is brought down to the room there
is and for which an anchor of zero is another one. Together they hold the badge eight
pixels inside its top right corner, as far as that keeps it inside the area. Main
statements: `held_of_drag` composes the two in exact numbers, `anchor_after` says
which steps leave the anchor of a drag alone, and `dragged_badge_follows_pointer` what
the passes after a drag show.
-/
namespace RadarOverlay

/-- The number between two bounds that is nearest to `n`. -/
def nearestBetween (low high n : Int) : Int := max low (min high n)

/-- The distances at which a drag to a point anchors the badge are coordinates, and so are the
distances they are computed from. -/
structure Point.Measurable (point : Point) (area : Rect) : Prop where
  across : Coordinate.InRange (area.right.toInt - point.x.toInt)
  inset : Coordinate.InRange (area.right.toInt - point.x.toInt - 8)
  down : Coordinate.InRange (point.y.toInt - area.top.toInt)
  lowered : Coordinate.InRange (point.y.toInt - area.top.toInt - 8)

/-- An anchor is where a drag to a point puts it. -/
structure MenuAnchor.DraggedTo (anchor : MenuAnchor) (area : Rect) (point : Point) : Prop where
  x : anchor.x.toInt = max (area.right.toInt - point.x.toInt - 8) 1
  y : anchor.y.toInt = max (point.y.toInt - area.top.toInt - 8) 1

/-- A drag to a point whose distances are coordinates anchors the badge. -/
theorem exists_ofDrag {area : Rect} {point : Point} (measurable : point.Measurable area) :
    ∃ anchor, MenuAnchor.ofDrag area point = .ok anchor ∧ anchor.DraggedTo area point := by
  obtain ⟨across, inset, down, lowered⟩ := measurable
  have words : (8 : Int32).toInt = 8 ∧ (1 : Int32).toInt = 1 := by decide
  refine ⟨⟨Coordinate.max (Int32.ofInt (area.right.toInt - point.x.toInt - 8)) 1,
    Coordinate.max (Int32.ofInt (point.y.toInt - area.top.toInt - 8)) 1⟩, ?_, ?_, ?_⟩
  · simp only [MenuAnchor.ofDrag, bind_eq_ok_iff, Coordinate.sub_eq_ok_iff]
    refine ⟨_, Coordinate.toInt_ofInt_of_inRange across, _, ?_, _,
      Coordinate.toInt_ofInt_of_inRange down, _, ?_, rfl⟩
    · rw [Coordinate.toInt_ofInt_of_inRange inset, Coordinate.toInt_ofInt_of_inRange across,
        words.1]
    · rw [Coordinate.toInt_ofInt_of_inRange lowered, Coordinate.toInt_ofInt_of_inRange down,
        words.1]
  · rw [Coordinate.toInt_max, Coordinate.toInt_ofInt_of_inRange inset, words.2]
  · rw [Coordinate.toInt_max, Coordinate.toInt_ofInt_of_inRange lowered, words.2]

namespace Badge

/-- An area has room for a badge of a width and its clearance, and at least one pixel more. -/
structure Roomy (area : Rect) (width : Int32) : Prop where
  across : max width.toInt 40 + 1 ≤ area.right.toInt - area.left.toInt
  down : 21 ≤ area.bottom.toInt - area.top.toInt

/-- The rectangle of a badge that is held at a point, eight pixels inside its top right corner, as
far as the area allows. -/
structure HeldAt (point : Point) (area : Rect) (width : Int32) (rect : Rect) : Prop where
  right : rect.right.toInt = nearestBetween (area.left.toInt + max width.toInt 40)
    (area.right.toInt - 1) (point.x.toInt + 8)
  left : rect.left.toInt = rect.right.toInt - width.toInt
  top : rect.top.toInt = nearestBetween (area.top.toInt + 1) (area.bottom.toInt - 20)
    (point.y.toInt - 8)
  bottom : rect.bottom.toInt = rect.top.toInt + 16

/-- A point is where a rectangle is held when it is dragged by its top right corner. -/
structure GripOf (rect : Rect) (point : Point) : Prop where
  x : point.x.toInt = rect.right.toInt - 8
  y : point.y.toInt = rect.top.toInt + 8

variable {area : Rect} {point : Point} {width : Int32} {anchor : MenuAnchor} {rect other : Rect}

theorem GripOf.unique {grip : Point} (gripped : GripOf rect grip) (also : GripOf rect point) :
    grip = point := by
  obtain ⟨_, _⟩ := grip
  obtain ⟨_, _⟩ := point
  simpa only [Point.mk.injEq, Int32.toInt_inj] using
    And.intro (gripped.x.trans also.x.symm) (gripped.y.trans also.y.symm)

/-- There is one rectangle at most for a badge that is held at a point. -/
theorem HeldAt.unique (held : HeldAt point area width rect)
    (also : HeldAt point area width other) : rect = other := by
  obtain ⟨right, left, top, bottom⟩ := held
  obtain ⟨right', left', top', bottom'⟩ := also
  have edges : rect.left.toInt = other.left.toInt ∧ rect.top.toInt = other.top.toInt ∧
      rect.right.toInt = other.right.toInt ∧ rect.bottom.toInt = other.bottom.toInt := by omega
  obtain ⟨_, _, _, _⟩ := rect
  obtain ⟨_, _, _, _⟩ := other
  simpa only [Rect.mk.injEq, Int32.toInt_inj] using edges

/-- An anchor that a drag has left and the rectangle it leads to make one clamp: the badge is held
at the point. -/
theorem held_of_drag (dragged : anchor.DraggedTo area point) (roomy : Roomy area width)
    (placed : Placed area anchor width rect) : HeldAt point area width rect := by
  obtain ⟨x, y⟩ := dragged
  obtain ⟨across, down⟩ := roomy
  obtain ⟨right, left, top, bottom⟩ := placed
  have zero : (0 : Int32).toInt = 0 := by decide
  -- A drag never leaves the zero that stands for the default distance.
  have ownX : anchor.x ≠ 0 := fun none => by rw [none] at x; omega
  have ownY : anchor.y ≠ 0 := fun none => by rw [none] at y; omega
  rw [offset, if_neg ownX, x, roomX] at right
  rw [offset, if_neg ownY, y, roomY] at top
  refine ⟨?_, left, ?_, bottom⟩
  · rw [nearestBetween]
    omega
  · rw [nearestBetween]
    omega

/-- The offset of an anchored distance that is not negative is at least one pixel, if there is
room for one. -/
theorem one_le_offset {anchored : Int32} {room : Int} (nonneg : 0 ≤ anchored.toInt)
    (free : 1 ≤ room) : 1 ≤ offset anchored room := by
  have nonzero : anchored ≠ 0 → anchored.toInt ≠ 0 := fun other same =>
    other (Int32.toInt_inj.mp same)
  unfold offset
  split
  · omega
  · have := nonzero ‹_›
    omega

/-- The bounds of the edges of a badge that is shown a pixel at least from the top right corner of
the area, and that leaves the room for the clearance. -/
structure Clear (area : Rect) (width : Int32) (rect : Rect) : Prop where
  right : area.left.toInt + max width.toInt 40 ≤ rect.right.toInt ∧
    rect.right.toInt ≤ area.right.toInt - 1
  left : rect.left.toInt = rect.right.toInt - width.toInt
  top : area.top.toInt + 1 ≤ rect.top.toInt ∧ rect.top.toInt ≤ area.bottom.toInt - 20
  bottom : rect.bottom.toInt = rect.top.toInt + 16

theorem HeldAt.clear (held : HeldAt point area width rect) (roomy : Roomy area width) :
    Clear area width rect := by
  obtain ⟨right, left, top, bottom⟩ := held
  obtain ⟨across, down⟩ := roomy
  unfold nearestBetween at *
  refine ⟨?_, left, ?_, bottom⟩ <;> omega

/-- A badge whose anchor is not negative is clear. -/
theorem Placed.clear (placed : Placed area anchor width rect) (roomy : Roomy area width)
    (nonnegX : 0 ≤ anchor.x.toInt) (nonnegY : 0 ≤ anchor.y.toInt) : Clear area width rect := by
  obtain ⟨right, left, top, bottom⟩ := placed
  obtain ⟨across, down⟩ := roomy
  have roomX_pos : 1 ≤ roomX area width := by unfold roomX; omega
  have roomY_pos : 1 ≤ roomY area := by unfold roomY; omega
  have insetLeast := one_le_offset nonnegX roomX_pos
  have insetMost := offset_le anchor.x (roomX area width)
  have loweredLeast := one_le_offset nonnegY roomY_pos
  have loweredMost := offset_le anchor.y (roomY area)
  unfold roomX at *
  unfold roomY at *
  refine ⟨?_, left, ?_, bottom⟩ <;> omega

/-- A clear badge that is held by its top right corner stays where it is. -/
theorem Clear.held (clear : Clear area width rect) (grip : GripOf rect point) :
    HeldAt point area width rect := by
  obtain ⟨right, left, top, bottom⟩ := clear
  obtain ⟨x, y⟩ := grip
  refine ⟨?_, left, ?_, bottom⟩ <;> rw [nearestBetween] <;> omega

/-- The top right corner of a clear badge is a point that it can be dragged to. -/
theorem Clear.exists_grip {W H : Int32} (clear : Clear area width rect)
    (across : area.width = .ok W) (down : area.height = .ok H) :
    ∃ point, GripOf rect point ∧ point.Measurable area := by
  obtain ⟨right, left, top, bottom⟩ := clear
  have exactW : W.toInt = area.right.toInt - area.left.toInt := Coordinate.sub_eq_ok_iff.mp across
  have exactH : H.toInt = area.bottom.toInt - area.top.toInt := Coordinate.sub_eq_ok_iff.mp down
  obtain ⟨x, atX⟩ := Coordinate.exists_between area.left area.right (n := rect.right.toInt - 8)
    (by omega) (by omega)
  obtain ⟨y, atY⟩ := Coordinate.exists_between area.top area.bottom (n := rect.top.toInt + 8)
    (by omega) (by omega)
  have rangeW := Coordinate.inRange_toInt W
  have rangeH := Coordinate.inRange_toInt H
  unfold Coordinate.InRange at rangeW rangeH
  refine ⟨⟨x, y⟩, ⟨atX, atY⟩, ?_, ?_, ?_, ?_⟩ <;> unfold Coordinate.InRange <;> dsimp only <;> omega

end Badge

/-- An event that leaves the badge where it is anchored: it neither drags it nor loads content. -/
def Event.LeavesAnchor (call : Event) : Prop :=
  call.dragged? = none ∧ ∀ detailed, call ≠ .contentLoaded true detailed

/-- A step that leaves the badge where it is anchored. No change of the surroundings moves it. -/
def Step.LeavesAnchor {H C K : Type} : Step H C K → Prop
  | .event call => call.LeavesAnchor
  | _ => True

/-- A request that leaves the badge at an anchor. -/
def OverlayRequest.KeepsAnchor (anchor : MenuAnchor) : OverlayRequest → Prop
  | .writeMemory memory => memory.anchor = anchor
  | _ => True

namespace Overlay

open Program

/-- The rules of what leaves the badge at an anchor, and so finds it there. -/
def anchored (anchor : MenuAnchor) : Rules Overlay where
  asks := OverlayRequest.KeepsAnchor anchor
  relies
    | .readMemory, memory => memory.anchor = anchor
    | _, _ => True

@[simp] theorem anchored_asks {anchor : MenuAnchor} {request : OverlayRequest} :
    (anchored anchor).asks request ↔ request.KeepsAnchor anchor := Iff.rfl

section

variable {anchor : MenuAnchor} {geo : Bool}

theorem drawn_anchored {p : Callback Unit} (drawn : Abides drawing (fun _ => True) p) :
    Abides (anchored anchor) (fun _ => True) p := by
  refine drawn_within drawn fun request drawing => ?_
  cases request with
  | writeMemory memory => exact drawing.elim
  | _ => trivial

theorem refreshIfRequired_anchored :
    Abides (anchored anchor) (fun _ => True) refreshIfRequired := by
  simp [refreshIfRequired, OverlayRequest.KeepsAnchor]

theorem park_anchored (submenu : TagFunction) (area : Rect) :
    Abides (anchored anchor) (fun _ => True) (park submenu area) := by
  simp only [park, DeferredSlot.defer, bind_eq, abides_bind]
  refine ⟨trivial, fun memory found => ⟨found, fun _ _ => ?_⟩⟩
  cases memory.pending.entry <;> simp [OverlayRequest.KeepsAnchor]

theorem callFunction_anchored (f : TagFunction) (text : String) (area : Rect) :
    Abides (anchored anchor) (fun _ => True) (callFunction geo f text area) := by
  simp only [callFunction]
  cases f.deferred with
  | some submenu =>
    simp only [bind_eq, abides_bind]
    exact (park_anchored submenu area).mono fun _ _ => refreshIfRequired_anchored
  | none =>
    have performed : Abides (anchored anchor) (fun _ => True) (perform geo f text area) := by
      refine performed_within (fun request asked => ?_) text area
      cases request with
      | writeMemory memory => exact asked.elim
      | _ => trivial
    simp only [bind_eq, abides_bind]
    exact performed.mono fun _ _ => refreshIfRequired_anchored

theorem flush_anchored : Abides (anchored anchor) (fun _ => True) (flush geo) := by
  simp only [flush, DeferredSlot.take, bind_eq, abides_bind]
  refine ⟨trivial, fun memory found => ?_⟩
  obtain ⟨place, ⟨entry⟩⟩ := memory
  cases entry with
  | none => exact trivial
  | some waiting =>
    refine ⟨found, fun _ _ => ⟨trivial, fun _ _ => ?_⟩⟩
    exact callFunction_anchored waiting.function "" waiting.area

theorem click_anchored (object : ScreenObject) (point : Point) (area : Rect)
    (button : MouseButton) :
    Abides (anchored anchor) (fun _ => True) (click geo object point area button) := by
  cases object with
  | clickRegion => simp [click, OverlayRequest.KeepsAnchor]
  | menu =>
    have opened : Abides (anchored anchor) (fun _ => True) (opensMenu button) := by
      simp [opensMenu, OverlayRequest.KeepsAnchor]
    simp only [click, bind_eq, abides_bind]
    exact opened.mono fun menu _ => callFunction_anchored _ "" area

/-- An event that neither drags the badge nor loads content leaves it at its anchor. -/
theorem callback_anchored {call : Event} (leaves : call.LeavesAnchor) :
    Abides (anchored anchor) (fun _ => True) (call.callback geo) := by
  obtain ⟨undragged, unloaded⟩ := leaves
  cases call with
  | contentLoaded loaded detailed =>
    cases loaded with
    | false => exact trivial
    | true => exact absurd rfl (unloaded detailed)
  | refresh phase =>
    cases phase with
    | backBitmap => exact drawn_anchored drawBackground_drawn
    | beforeTags => exact drawn_anchored drawForeground_drawn
    | afterTags => exact trivial
    | afterLists =>
      simp only [Event.callback, refresh, drawDecorations, bind_eq, abides_bind]
      exact (drawn_anchored drawBadge_drawn).mono fun _ _ =>
        refreshIfRequired_anchored.mono fun _ _ => flush_anchored
  | callFunction f text area => exact callFunction_anchored f text area
  | callId id text area =>
    simp only [Event.callback, callId]
    cases TagFunction.decode id with
    | error cause => exact ⟨trivial, fun _ _ => trivial⟩
    | ok f => exact callFunction_anchored f text area
  | click object point area button => exact click_anchored object point area button
  | move object point released =>
    cases object with
    | clickRegion => exact trivial
    | menu => cases undragged

end

end Overlay

section

open Program

variable {H C K : Type} [Host H] [LightingClient C] [Canvas K]

theorem anchored_keptBy (anchor : MenuAnchor) :
    (Overlay.anchored anchor).KeptBy (OverlayRequest.serve (H := H) (C := C) (K := K))
      (fun s => s.memory.anchor = anchor) (fun _ => True) := by
  intro request s same asked _
  cases request with
  | readMemory => exact ⟨same, same⟩
  | writeMemory memory => exact ⟨trivial, asked⟩
  | _ => exact ⟨trivial, same⟩

theorem anchor_step (geo : Bool) {step : Step H C K} (leaves : step.LeavesAnchor)
    (s : Situation H C K) : (step.run geo s).state.memory.anchor = s.memory.anchor := by
  cases step with
  | event call =>
    have abides : Abides (Overlay.anchored s.memory.anchor) (fun _ => True) (call.callback geo) :=
      Overlay.callback_anchored leaves
    exact (abides.run (anchored_keptBy s.memory.anchor) rfl fun _ _ => trivial).2.1
  | _ => rfl

/-- The situation that steps lead to, one after another. A step that stops at an overflow counts
with what it has left. -/
def Situation.after (geo : Bool) (s : Situation H C K) (steps : List (Step H C K)) :
    Situation H C K :=
  steps.foldl (fun now step => (step.run geo now).state) s

/-- Steps that leave the badge where it is anchored leave it there one after another. -/
theorem anchor_after (geo : Bool) {steps : List (Step H C K)}
    (leave : ∀ step ∈ steps, step.LeavesAnchor) (s : Situation H C K) :
    (s.after geo steps).memory.anchor = s.memory.anchor := by
  induction steps generalizing s with
  | nil => rfl
  | cons step rest ih =>
    rw [List.forall_mem_cons] at leave
    exact (ih leave.2 (step.run geo s).state).trans (anchor_step geo leave.1 s)

/-- A decoration pass is completed. It fills a rectangle and registers it as the badge, before all
else that it does, and registers nothing but it. -/
structure Situation.ShowsBadge (geo : Bool) (s : Situation H C K) (rect : Rect) : Prop where
  completed : (Overlay.run (Overlay.refresh geo .afterLists) s).result = .ok ()
  shown : ∃ color rest, effects (Overlay.run (Overlay.refresh geo .afterLists) s).trace =
    .canvas (.fillRect rect color) :: .host (.addScreenObject .menu rect true) :: rest
  alone : ∀ object other movable, .host (.addScreenObject object other movable) ∈
    effects (Overlay.run (Overlay.refresh geo .afterLists) s).trace →
    object = .menu ∧ other = rect ∧ movable = true

theorem Situation.showsBadge_of_layout (geo : Bool) {s : Situation H C K} {layout : Badge.Layout}
    (laid : s.badgeLayout = .ok layout) : s.ShowsBadge geo layout.rect := by
  obtain ⟨rest, split, -⟩ := effects_drawDecorations geo s
  have drawn := (effects_drawBadge s).2 layout laid
  rw [drawn] at split
  refine ⟨?_, ⟨_, _, split⟩, fun object other movable registered => ?_⟩
  · let pass : Event := .refresh .afterLists
    cases ended : (Overlay.run (pass.callback geo) s).result with
    | ok => exact ended
    | error cause =>
      -- A pass that stops has done nothing, but this one has drawn.
      have nothing := (overflows_are_clean geo ended).1
      cases split.symm.trans nothing
  · obtain ⟨same, found, named, placed, moves⟩ := registered_iff_badge.mp registered
    cases laid.symm.trans found
    exact ⟨named, placed, moves⟩

/-- The badge that a pass shows is the one that is laid out. -/
theorem Situation.ShowsBadge.layout {geo : Bool} {s : Situation H C K} {rect : Rect}
    (shows : s.ShowsBadge geo rect) :
    ∃ layout, s.badgeLayout = .ok layout ∧ layout.rect = rect := by
  obtain ⟨color, rest, shown⟩ := shows.shown
  have registered : .host (.addScreenObject .menu rect true) ∈
      effects (Overlay.run (Overlay.drawDecorations geo) s).trace :=
    shown ▸ List.mem_cons_of_mem _ List.mem_cons_self
  obtain ⟨layout, laid, -, same, -⟩ := registered_iff_badge.mp registered
  exact ⟨layout, laid, same.symm⟩

theorem run_move {point : Point} {anchor : MenuAnchor} {s : Situation H C K}
    (anchors : MenuAnchor.ofDrag (Host.radarArea s.host) point = .ok anchor) (released : Bool) :
    (Overlay.run (Overlay.move .menu point released) s).result = .ok () ∧
      (Overlay.run (Overlay.move .menu point released) s).state.memory.anchor = anchor := by
  simp only [Overlay.move, Overlay.run, Overlay.askHost, request, bind_eq, lift_eq, ask_bind,
    done_bind, run, OverlayRequest.serve, HostRequest.serve, anchors, Program.ofExcept]
  cases released <;> exact ⟨rfl, rfl⟩

/-- A situation in which the badge may be asked for where it is: the radar area is `area` and the
badge of its label is as wide as `width`. -/
structure Situation.Frames (s : Situation H C K) (area : Rect) (width : Int32) : Prop where
  area : Host.radarArea s.host = area
  width : Badge.width s.badgeLabelWidth = .ok width

variable (H C K) in
/-- Wherever the badge was before, a drag to a point on an area is completed, and the decoration
passes on the area show a badge of the width at a rectangle, until it is dragged again or content
is loaded. -/
def DragShows (geo : Bool) (area : Rect) (width : Int32) (point : Point) (rect : Rect) : Prop :=
  ∀ (s : Situation H C K) (released : Bool), Host.radarArea s.host = area →
    (Overlay.run (Overlay.move .menu point released) s).result = .ok () ∧
    ∀ steps : List (Step H C K), (∀ step ∈ steps, step.LeavesAnchor) →
      let now := (Overlay.run (Overlay.move .menu point released) s).state.after geo steps
      now.Frames area width → now.ShowsBadge geo rect

variable {area : Rect} {width W T : Int32} {rect : Rect}

/-- An area as wide and as high as it takes has room for the badge. -/
theorem Badge.roomy_of_size (across : area.width = .ok W) (down : area.height = .ok T)
    (wide : max width.toInt 40 + 1 ≤ W.toInt) (high : 21 ≤ T.toInt) : Badge.Roomy area width where
  across := (Coordinate.sub_eq_ok_iff.mp across) ▸ wide
  down := (Coordinate.sub_eq_ok_iff.mp down) ▸ high

/-- In a situation that frames a badge there is room to lay it out. -/
theorem Situation.Frames.exists_layout {s : Situation H C K} (frames : s.Frames area width)
    (across : area.width = .ok W) (down : area.height = .ok T) (roomy : Badge.Roomy area width) :
    ∃ layout, s.badgeLayout = .ok layout ∧
      Badge.Placed area s.memory.anchor width layout.rect := by
  obtain ⟨same, measured⟩ := frames
  have wide := Badge.width_eq_ok_iff.mp measured
  have room : Badge.HasRoom area s.badgeLabelWidth := by
    obtain ⟨free, high⟩ := roomy
    exact ⟨by omega, by omega⟩
  obtain ⟨layout, laid⟩ := Badge.exists_layout s.memory.anchor across down room
  obtain ⟨w, exact, placed⟩ := Badge.placed_of_layout laid
  obtain rfl : w = width := Int32.toInt_inj.mp (exact.trans wide.symm)
  exact ⟨layout, by rw [Situation.badgeLayout, same, laid], placed⟩

/-- What the passes after a drag show is the badge that is held at the point. -/
theorem dragShows_of_held {geo : Bool} {point : Point} (across : area.width = .ok W)
    (down : area.height = .ok T) (roomy : Badge.Roomy area width)
    (measurable : point.Measurable area) (held : Badge.HeldAt point area width rect) :
    DragShows H C K geo area width point rect := by
  obtain ⟨anchor, anchors, dragged⟩ := exists_ofDrag measurable
  intro s released same
  rw [← same] at anchors
  obtain ⟨completed, anchored⟩ := run_move anchors released
  refine ⟨completed, fun steps leave => ?_⟩
  intro now frames
  have kept : now.memory.anchor = anchor := (anchor_after geo leave _).trans anchored
  obtain ⟨layout, laid, placed⟩ := frames.exists_layout across down roomy
  rw [kept] at placed
  obtain rfl := (Badge.held_of_drag dragged roomy placed).unique held
  exact Situation.showsBadge_of_layout geo laid

/-- A badge whose top right corner is dragged to where it is stays where it is. -/
theorem exists_grip_of_clear (geo : Bool) (across : area.width = .ok W) (down : area.height = .ok T)
    (roomy : Badge.Roomy area width) (clear : Badge.Clear area width rect) :
    ∃ grip, Badge.GripOf rect grip ∧ DragShows H C K geo area width grip rect := by
  obtain ⟨grip, gripped, measurable⟩ := clear.exists_grip across down
  exact ⟨grip, gripped, dragShows_of_held across down roomy measurable (clear.held gripped)⟩

/-- On an area with room for the badge, its clearance and one pixel more, a drag to a point is
completed, and the passes after it show the badge with its right edge eight pixels right of the
point and its top edge eight pixels above, each brought to the nearest place where the badge is a
pixel inside the area and leaves the clearance. The rectangle does not depend on where the badge
was before, so only the last point counts, and a drag to the place eight pixels inside the top right
corner of the shown badge leaves it where it is; so it does with every badge whose anchor is not
negative. -/
theorem dragged_badge_follows_pointer (geo : Bool) {labelWidth : Float32}
    (across : area.width = .ok W) (down : area.height = .ok T)
    (measured : Badge.width labelWidth = .ok width)
    (wide : max width.toInt 40 + 1 ≤ W.toInt) (high : 21 ≤ T.toInt) :
    (∀ point : Point, point.Measurable area → ∃ rect grip,
      Badge.HeldAt point area width rect ∧ DragShows H C K geo area width point rect ∧
      Badge.GripOf rect grip ∧ DragShows H C K geo area width grip rect) ∧
    ∀ (s : Situation H C K) (rect : Rect), s.Frames area width → 0 ≤ s.memory.anchor.x.toInt →
      0 ≤ s.memory.anchor.y.toInt → s.ShowsBadge geo rect →
      ∃ grip, Badge.GripOf rect grip ∧ DragShows H C K geo area width grip rect := by
  have roomy := Badge.roomy_of_size across down wide high
  have nonneg : 0 ≤ width.toInt := by
    have exact := Badge.width_eq_ok_iff.mp measured
    have pixels := Badge.pixels_nonneg labelWidth
    omega
  refine ⟨fun point measurable => ?_, fun s rect frames nonnegX nonnegY shows => ?_⟩
  · obtain ⟨anchor, -, dragged⟩ := exists_ofDrag measurable
    obtain ⟨rect, answered⟩ : ∃ rect, Badge.place area anchor width = .ok rect :=
      Badge.exists_place across down nonneg (by omega) (by omega)
    have held := Badge.held_of_drag dragged roomy (Badge.place_placed answered)
    obtain ⟨grip, gripped, stays⟩ := exists_grip_of_clear (H := H) (C := C) (K := K) geo across
      down roomy (held.clear roomy)
    exact ⟨rect, grip, held, dragShows_of_held across down roomy measurable held, gripped, stays⟩
  · obtain ⟨layout, laid, rfl⟩ := shows.layout
    obtain ⟨found, again, placed⟩ := frames.exists_layout across down roomy
    cases laid.symm.trans again
    exact exists_grip_of_clear geo across down roomy (placed.clear roomy nonnegX nonnegY)

open Simulation in
/-- A badge that is restored at a negative anchor is dragged far out of the area, to the left and
below. After a pass, a loss of the connection and a pick in between it is shown in the lower left
corner, and dragged by its top right corner it stays there. -/
theorem dragged_badge_follows_pointer_outside :
    let area : Rect := ⟨100, 50, 900, 650⟩
    let scene : Scene := { Scene.controlled with
      memory := ⟨⟨-7, 123⟩, .empty⟩
      host := { Scene.controlled.host with area } }
    let between : List (Step SceneHost SceneClient SceneCanvas) :=
      [.event (.refresh .beforeTags), .clientChanges fun c => { c with connection := .poisoned },
        .event (.callFunction (.openSelectView .request) "" ⟨100, 50, 160, 70⟩)]
    let dragged := (Overlay.run (Overlay.move .menu ⟨-5000, 7000⟩ false) scene).state.after false
      between
    let again := (Overlay.run (Overlay.move .menu ⟨132, 638⟩ true) dragged).state
    dragged.ShowsBadge false ⟨100, 630, 140, 646⟩ ∧
      again.ShowsBadge false ⟨100, 630, 140, 646⟩ := by
  intro area scene between dragged again
  have across : area.width = .ok 800 := Coordinate.sub_eq_ok_iff.mpr (by decide)
  have down : area.height = .ok 600 := Coordinate.sub_eq_ok_iff.mpr (by decide)
  have measured : Badge.width scene.badgeLabelWidth = .ok 40 :=
    Badge.width_eq_ok_iff.mpr (by decide +kernel)
  obtain ⟨follows, -⟩ := dragged_badge_follows_pointer (H := SceneHost) (C := SceneClient)
    (K := SceneCanvas) false across down measured (by decide) (by decide)
  obtain ⟨rect, grip, held, shows, gripped, stays⟩ :=
    follows ⟨-5000, 7000⟩ ⟨by decide, by decide, by decide, by decide⟩
  obtain rfl : rect = ⟨100, 630, 140, 646⟩ :=
    held.unique ⟨by decide, by decide, by decide, by decide⟩
  obtain rfl : grip = ⟨132, 638⟩ := gripped.unique ⟨by decide, by decide⟩
  have leave : ∀ step ∈ between, step.LeavesAnchor := by
    simp [between, Step.LeavesAnchor, Event.LeavesAnchor, Event.dragged?]
  have framed : dragged.Frames area 40 :=
    ⟨by decide +kernel, Badge.width_eq_ok_iff.mpr (by decide +kernel)⟩
  have framedAgain : again.Frames area 40 :=
    ⟨by decide +kernel, Badge.width_eq_ok_iff.mpr (by decide +kernel)⟩
  exact ⟨(shows scene false rfl).2 between leave framed,
    (stays dragged true framed.area).2 [] (by simp) framedAgain⟩

end

end RadarOverlay
