import RadarOverlay.Proofs.SavedTransforms
import RadarOverlay.Simulation.Scene

/-!
Drawings on a canvas with a transform. A drawing is laid out by its blocks alone: a shape is
shown under the translations that come before it in the blocks around it, and under no
other. Main statements: `drawn_as_shown` says that a canvas which brings a saved transform
back shows exactly this, and leaves the transform with the outermost translations only, and
`drawing_restores_transforms` what follows for blocks: their saves and restores are nested,
and what comes after a block is drawn as if the block were not there.
-/
namespace RadarOverlay

/-- A distance to the right and down. -/
abbrev Translation := Float32 × Float32

/-! ## What a drawing shows -/

namespace Drawing

/-- The translations that go on for the rest of what a drawing stands in: those of its blocks do
not. -/
def moves : Drawing → List Translation
  | .nothing => []
  | .draw _ rest => rest.moves
  | .translate dx dy rest => (dx, dy) :: rest.moves
  | .surface rest => rest.moves
  | .saved _ rest => rest.moves

/-- The shapes of a drawing, each with the translations it is under, after those made before. -/
def shown (made : List Translation) : Drawing → List (List Translation × Shape)
  | .nothing => []
  | .draw shape rest => (made, shape) :: rest.shown made
  | .translate dx dy rest => rest.shown (made ++ [(dx, dy)])
  | .surface rest => rest.shown made
  | .saved block rest => block.shown made ++ rest.shown made

end Drawing

/-! ## Canvases with a transform -/

/-- What becomes of a canvas that is drawn on and moved, and whose transform is saved and restored
in blocks, each closed before the one around it. -/
inductive Canvas.Used {K : Type} [Canvas K] : K → K → Prop where
  | not (k : K) : Used k k
  | drawn {k next : K} (shape : Shape) (later : Used (Canvas.obey shape.command k) next) :
      Used k next
  | moved {k next : K} (dx dy : Float32) (later : Used (Canvas.obey (.translate dx dy) k) next) :
      Used k next
  | block {k inner next : K} (inside : Used (Canvas.saveTransform k).2 inner)
      (later : Used (Canvas.obey (.restore (Canvas.saveTransform k).1) inner) next) : Used k next

/-- A canvas with a transform of type `T`. Neither a shape nor a save changes the transform, a
translation moves it, and a restored state brings back the transform that was in force when the
state was saved, as long as what was saved since is restored. -/
class TransformCanvas (K : Type) (T : outParam Type) [Canvas K] where
  transform : K → T
  translated : T → Translation → T
  transform_shape (k : K) (shape : Shape) : transform (Canvas.obey shape.command k) = transform k
  transform_translate (k : K) (dx dy : Float32) :
    transform (Canvas.obey (.translate dx dy) k) = translated (transform k) (dx, dy)
  transform_save (k : K) : transform (Canvas.saveTransform k).2 = transform k
  transform_restore {k inner : K} (inside : Canvas.Used (Canvas.saveTransform k).2 inner) :
    transform (Canvas.obey (.restore (Canvas.saveTransform k).1) inner) = transform k

export TransformCanvas (transform)

/-- The shape that an exchange draws. -/
def Exchange.shape? : Exchange Overlay → Option Shape
  | ⟨.canvas (.command (.drawText text origin color)), _⟩ => some (.text text origin color)
  | ⟨.canvas (.command (.fillRect area color)), _⟩ => some (.fill area color)
  | ⟨.canvas (.command (.drawLines points color)), _⟩ => some (.lines points color)
  | _ => none

@[simp] theorem Exchange.shape?_command (shape : Shape) :
    Exchange.shape? ⟨.canvas (.command shape.command), ()⟩ = some shape := by
  cases shape <;> rfl

section

open Program

variable {H C K T : Type} [Host H] [LightingClient C] [Canvas K] [TransformCanvas K T]

/-- A transform after translations in order. -/
def TransformCanvas.under (K : Type) {T : Type} [Canvas K] [TransformCanvas K T] (t : T)
    (moves : List Translation) : T :=
  moves.foldl (TransformCanvas.translated K) t

/-- What a record draws, each shape with the transform that is in force when it is drawn. -/
def painted (s : Situation H C K) : List (Exchange Overlay) → List (T × Shape)
  | [] => []
  | x :: rest =>
    (x.shape?.map fun shape => (transform s.canvas, shape)).toList ++
      painted (x.request.serve s).2 rest

/-- The shapes of a drawing with the transforms that it shows them under, from a transform on. -/
def Drawing.picture (K : Type) {T : Type} [Canvas K] [TransformCanvas K T] (t : T)
    (made : List Translation) (drawing : Drawing) : List (T × Shape) :=
  (drawing.shown made).map fun part => (TransformCanvas.under K t part.1, part.2)

theorem painted_append {α : Type} (p : Callback α) (s : Situation H C K)
    (later : List (Exchange Overlay)) :
    painted s ((Overlay.run p s).trace ++ later) =
      painted s (Overlay.run p s).trace ++ painted (Overlay.run p s).state later := by
  induction p generalizing s with
  | done => rfl
  | fault => rfl
  | ask r next ih =>
    have rest := ih (r.serve s).1 (r.serve s).2
    simp only [Overlay.run] at rest
    simp only [Overlay.run, run, painted, List.cons_append, rest, List.append_assoc]

/-- What the run of a drawing has done to a canvas, after translations made before it. -/
structure Drawn (t : T) (made : List Translation) (drawing : Drawing) (s : Situation H C K)
    (ran : Outcome Overlay (Situation H C K) Unit) : Prop where
  ends : ran.result = .ok ()
  used : Canvas.Used s.canvas ran.state.canvas
  moved : transform ran.state.canvas = TransformCanvas.under K t (made ++ drawing.moves)
  shows : painted s ran.trace = drawing.picture K t made

/-- A situation in which the canvas has saved its transform. -/
def Situation.saving (s : Situation H C K) : Situation H C K :=
  { s with canvas := (Canvas.saveTransform s.canvas).2 }

/-- A situation in which the canvas has restored a saved state. -/
def Situation.restored (s : Situation H C K) (state : TransformState) : Situation H C K :=
  { s with canvas := Canvas.obey (.restore state) s.canvas }

omit [TransformCanvas K T] in
/-- A block is drawn between a save and the restore of the state that was saved. -/
theorem run_withSavedTransform {block : Callback Unit} {s : Situation H C K}
    (ends : (Overlay.run block s.saving).result = .ok ()) :
    Overlay.run (withSavedTransform block) s =
      let state := (Canvas.saveTransform s.canvas).1
      let inner := Overlay.run block s.saving
      ⟨.ok (), inner.state.restored state, ⟨.canvas .saveTransform, state⟩ ::
        (inner.trace ++ [⟨.canvas (.command (.restore state)), ()⟩])⟩ := by
  let state := (Canvas.saveTransform s.canvas).1
  have split : Overlay.run (withSavedTransform block) s =
      let rest := Overlay.run (block.bind fun _ => Overlay.tellCanvas (.restore state)) s.saving
      { rest with trace := ⟨.canvas .saveTransform, state⟩ :: rest.trace } := rfl
  simp only [Overlay.run] at ends
  rw [split, Overlay.run, run_bind_of_ok ends]
  rfl

/-- A block is drawn as it is shown where it stands, and leaves the transform as it was. -/
theorem block_as_shown {t : T} {made : List Translation} {block : Drawing}
    {s : Situation H C K}
    (inside : Drawn t made block s.saving (Overlay.run block.callback s.saving)) :
    let ran := Overlay.run (withSavedTransform block.callback) s
    ran.result = .ok () ∧ transform ran.state.canvas = transform s.canvas ∧
      painted s ran.trace = block.picture K t made ∧
      ∀ {next : K}, Canvas.Used ran.state.canvas next → Canvas.Used s.canvas next := by
  obtain ⟨ends, used, -, shows⟩ := inside
  intro ran
  have split := run_withSavedTransform ends
  have painting : painted s ran.trace =
      painted s.saving (Overlay.run block.callback s.saving).trace := by
    have closing := painted_append block.callback s.saving
      [⟨.canvas (.command (.restore (Canvas.saveTransform s.canvas).1)), ()⟩]
    simp only [painted, Exchange.shape?, Option.map_none, Option.toList_none,
      List.append_nil] at closing
    simp only [ran, split, painted, Exchange.shape?, Option.map_none, Option.toList_none,
      List.nil_append]
    exact closing
  refine ⟨?_, ?_, painting.trans shows, ?_⟩
  · simp only [ran, split]
  · simp only [ran, split]
    exact TransformCanvas.transform_restore used
  · intro next later
    simp only [ran, split] at later
    exact .block used later

/-- A drawing shows its shapes as they are laid out, and leaves its own translations behind, on a
canvas on which some have been made before. -/
theorem drawn_as_shown (t : T) (drawing : Drawing) (made : List Translation)
    (s : Situation H C K) (start : transform s.canvas = TransformCanvas.under K t made) :
    Drawn t made drawing s (Overlay.run drawing.callback s) := by
  induction drawing generalizing made s with
  | nothing =>
    have same : transform s.canvas = TransformCanvas.under K t (made ++ []) := by
      rw [List.append_nil, start]
    exact ⟨rfl, .not _, same, rfl⟩
  | draw shape rest ih =>
    let next : Situation H C K := { s with canvas := Canvas.obey shape.command s.canvas }
    have kept : transform next.canvas = TransformCanvas.under K t made := by
      rw [← start]
      exact TransformCanvas.transform_shape s.canvas shape
    obtain ⟨ends, used, moved, shows⟩ := ih made next kept
    refine ⟨ends, .drawn shape used, moved, ?_⟩
    have painting : painted s (Overlay.run (Drawing.draw shape rest).callback s).trace =
        (transform s.canvas, shape) :: painted next (Overlay.run rest.callback next).trace := by
      simp only [Drawing.callback, Overlay.tellCanvas, Overlay.askCanvas, request, bind_eq,
        ask_bind, done_bind, Overlay.run, run, painted]
      exact congrArg (fun drawn : Option Shape =>
        (drawn.map fun shape => (transform s.canvas, shape)).toList ++ _)
        (Exchange.shape?_command shape)
    rw [painting, start, shows]
    rfl
  | translate dx dy rest ih =>
    let next : Situation H C K := { s with canvas := Canvas.obey (.translate dx dy) s.canvas }
    have further : transform next.canvas = TransformCanvas.under K t (made ++ [(dx, dy)]) := by
      simp only [TransformCanvas.under, List.foldl_append, List.foldl_cons, List.foldl_nil]
      simp only [TransformCanvas.under] at start
      rw [← start]
      exact TransformCanvas.transform_translate s.canvas dx dy
    obtain ⟨ends, used, moved, shows⟩ := ih (made ++ [(dx, dy)]) next further
    have order : made ++ (Drawing.translate dx dy rest).moves =
        made ++ [(dx, dy)] ++ rest.moves := by
      simp [Drawing.moves]
    refine ⟨ends, .moved dx dy used, ?_, shows⟩
    rw [order]
    exact moved
  | surface rest ih =>
    obtain ⟨ends, used, moved, shows⟩ := ih made s start
    exact ⟨ends, used, moved, shows⟩
  | saved block rest inside after =>
    have opened : transform s.saving.canvas = TransformCanvas.under K t made :=
      (TransformCanvas.transform_save s.canvas).trans start
    obtain ⟨closes, kept, painting, going⟩ := block_as_shown (inside made s.saving opened)
    let next := (Overlay.run (withSavedTransform block.callback) s).state
    obtain ⟨ends, used, moved, shows⟩ := after made next (kept.trans start)
    have ran : Overlay.run (Drawing.saved block rest).callback s =
        { Overlay.run rest.callback next with
          trace := (Overlay.run (withSavedTransform block.callback) s).trace ++
            (Overlay.run rest.callback next).trace } :=
      run_bind_of_ok closes fun _ => rest.callback
    rw [ran]
    refine ⟨ends, going used, moved, ?_⟩
    rw [painted_append, painting, shows]
    simp only [Drawing.picture, Drawing.shown, List.map_append]

theorem drawing_nests (drawing : Drawing) : Nests drawing.callback := by
  induction drawing with
  | nothing => exact fun _ _ _ _ _ => .nil
  | draw shape rest ih =>
    have plain : (OverlayRequest.canvas (.command shape.command)).IsUnmarked := by
      cases shape <;> trivial
    exact .after plain fun _ => ih
  | translate dx dy rest ih => exact .after trivial fun _ => ih
  | surface rest ih => exact .after trivial fun _ => ih
  | saved block rest inside after => exact .bind (.saved inside) fun _ => after

/-- Saves and restores of a drawing are nested, each shape is drawn under the transform it started
with and the translations made so far around it, and a block that a drawing is made into leaves the
transform as it was, so that what follows is drawn as without the block. -/
theorem drawing_restores_transforms (drawing : Drawing) (s : Situation H C K) :
    let ran := Overlay.run drawing.callback s
    let block := Overlay.run (withSavedTransform drawing.callback) s
    ran.result = .ok () ∧ Nested (marks ran.trace) ∧
      painted s ran.trace = drawing.picture K (transform s.canvas) [] ∧
      transform ran.state.canvas = TransformCanvas.under K (transform s.canvas) drawing.moves ∧
      block.result = .ok () ∧ Nested (marks block.trace) ∧
      transform block.state.canvas = transform s.canvas ∧
      ∀ rest : Drawing,
        let alone := Overlay.run rest.callback s
        let both := Overlay.run (Drawing.saved drawing rest).callback s
        painted s both.trace = painted s ran.trace ++ painted s alone.trace ∧
          transform both.state.canvas = transform alone.state.canvas := by
  intro ran block
  have drawn (other : Drawing) (from' : Situation H C K) :=
    drawn_as_shown (transform from'.canvas) other [] from' rfl
  have opened : transform s.saving.canvas = transform s.canvas :=
    TransformCanvas.transform_save s.canvas
  have inside := drawn_as_shown (transform s.canvas) drawing [] s.saving opened
  obtain ⟨ends, -, moved, shows⟩ := drawn drawing s
  obtain ⟨closes, kept, -, -⟩ := block_as_shown inside
  refine ⟨ends, drawing_nests drawing _ _ s () ends, shows, moved, closes,
    (drawing_nests drawing).saved _ _ s () closes, kept, fun rest => ?_⟩
  obtain ⟨-, -, movedAlone, showsAlone⟩ := drawn rest s
  obtain ⟨-, -, movedBoth, showsBoth⟩ := drawn (.saved drawing rest) s
  intro alone both
  constructor
  · rw [showsBoth, shows, showsAlone]
    simp only [Drawing.picture, Drawing.shown, List.map_append]
  · rw [movedBoth, movedAlone]
    rfl

end

/-! ## A canvas that keeps a stack -/

namespace Simulation

/-- A canvas with an origin that translations move, and a stack of the origins it has saved. -/
structure StackCanvas where
  origin : Translation
  stack : List (TransformState × Translation)

namespace StackCanvas

/-- Go back to the latest origin saved under a name, and forget what was saved since. -/
def restore (k : StackCanvas) (state : TransformState) : StackCanvas :=
  match k.stack.dropWhile fun entry => entry.1 ≠ state with
  | [] => k
  | entry :: below => ⟨entry.2, below⟩

instance : Canvas StackCanvas where
  surface _ := ⟨64⟩
  measureText _ := fixedExtent 6
  saveTransform k :=
    let state : TransformState := ⟨UInt32.ofNat (k.stack.length + 1)⟩
    (state, ⟨k.origin, (state, k.origin) :: k.stack⟩)
  obey
    | .translate dx dy, k => { k with origin := (k.origin.1 + dx, k.origin.2 + dy) }
    | .restore state, k => k.restore state
    | _, k => k

theorem restore_top {k : StackCanvas} {state : TransformState} {origin : Translation}
    {below : List (TransformState × Translation)} (top : k.stack = (state, origin) :: below) :
    k.restore state = ⟨origin, below⟩ := by
  simp [restore, top]

/-- Blocks leave the stack as they found it. -/
theorem stack_of_used {k next : StackCanvas} (used : Canvas.Used k next) :
    next.stack = k.stack := by
  induction used with
  | not => rfl
  | drawn shape _ ih =>
    cases shape <;> exact ih
  | moved dx dy _ ih => exact ih
  | block _ _ inner ih =>
    rw [ih]
    exact congrArg stack (restore_top inner)

instance : TransformCanvas StackCanvas Translation where
  transform := origin
  translated origin move := (origin.1 + move.1, origin.2 + move.2)
  transform_shape _ shape := by cases shape <;> rfl
  transform_translate _ _ _ := rfl
  transform_save _ := rfl
  transform_restore inside := congrArg origin (restore_top (stack_of_used inside))

end StackCanvas

/-- A block inside a block, with a line before, in and after each. -/
def twoBlocks : Drawing :=
  let line : Shape := .lines [⟨0, 0⟩, ⟨1, 1⟩] Badge.foregroundColor
  .translate 1 1 <| .draw line <| .saved
    (.translate 4 4 <| .draw line <| .saved (.translate 8 0 <| .draw line .nothing) <|
      .draw line .nothing) <|
    .draw line .nothing

/-- A scene with a canvas that keeps a stack. -/
def Scene.stacked : Situation SceneHost SceneClient StackCanvas :=
  { memory := .initial, host := Scene.initial.host, client := Scene.initial.client,
    canvas := ⟨(0, 0), []⟩ }

theorem drawing_restores_transforms_twoBlocks :
    (painted Scene.stacked (Overlay.run twoBlocks.callback Scene.stacked).trace).map Prod.fst =
        [(1, 1), (5, 5), (13, 5), (5, 5), (1, 1)] ∧
      transform (Overlay.run twoBlocks.callback Scene.stacked).state.canvas = (1, 1) ∧
      transform (Overlay.run (withSavedTransform twoBlocks.callback) Scene.stacked).state.canvas =
        (0, 0) := by
  obtain ⟨-, -, shows, moved, -, -, kept, -⟩ :=
    drawing_restores_transforms twoBlocks Scene.stacked
  refine ⟨?_, moved.trans (by decide +kernel), kept⟩
  rw [shows]
  decide +kernel

end Simulation

end RadarOverlay
