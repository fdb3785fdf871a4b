import RadarOverlay.Controller.Event
import RadarOverlay.Proofs.Rules

/-!
What the render passes ask. To draw, a pass asks questions, draws on the canvas, has the
client draw and registers objects for clicks, and nothing else; whatever else a
decoration pass does comes from its redraw check and from the slot. Main statements:
`drawBackground_drawn`, `drawForeground_drawn` and `drawBadge_drawn`; `viewport_asks` says
that the viewport is found out by questions, which change nothing.
-/
namespace RadarOverlay

/-- A request that only asks: it changes nothing, and the log says nothing of it. -/
def OverlayRequest.IsQuestion : OverlayRequest → Prop
  | .host (.command _) | .client (.command _) | .client .takeRedraw | .canvas (.command _)
  | .canvas .saveTransform | .writeMemory _ | .note _ => False
  | _ => True

/-- A request that is made to draw. It opens no popup, selects nothing, saves nothing and leaves
the memory alone. -/
def OverlayRequest.IsDrawing : OverlayRequest → Prop
  | .host (.command (.addScreenObject ..)) => True
  | .host (.command _) => False
  | .client (.command (.drawBackground ..)) | .client (.command (.setViewport _))
  | .client (.command (.drawForeground _)) => True
  | .client (.command _) | .client .takeRedraw | .writeMemory _ => False
  | _ => True

namespace Overlay

open Program

variable {geo : Bool}

/-- The viewport is found out by questions only. -/
theorem viewport_asks {post : Viewport → Prop} (afterwards : ∀ viewport, post viewport) :
    Abides (only OverlayRequest.IsQuestion) post (Viewport.current geo) := by
  simp only [Viewport.current, GeoSamples.take]
  simp [OverlayRequest.IsQuestion, afterwards]

theorem statusMessage_asks {post : Option StatusMessage → Prop}
    (afterwards : ∀ message, post message) :
    Abides (only OverlayRequest.IsQuestion) post (statusMessage geo) := by
  simp [statusMessage, OverlayRequest.IsQuestion, afterwards]

/-- What only asks questions is within any rules that allow all of them. -/
theorem asked_within {α : Type} {rules : Rules Overlay} {post : α → Prop} {p : Callback α}
    (questions : Abides (only OverlayRequest.IsQuestion) post p)
    (allowed : ∀ request, request.IsQuestion → rules.asks request) :
    Abides rules post p := questions.relax allowed fun _ _ _ => trivial

/-- The rules of drawing, which rely on no answer. -/
def drawing : Rules Overlay := ⟨OverlayRequest.IsDrawing, fun _ _ => True⟩

@[simp] theorem drawing_asks {request : OverlayRequest} :
    drawing.asks request ↔ request.IsDrawing := Iff.rfl

/-- What is only drawn is within any rules that allow all drawing. -/
theorem drawn_within {α : Type} {rules : Rules Overlay} {post : α → Prop} {p : Callback α}
    (drawn : Abides drawing post p) (allowed : ∀ request, request.IsDrawing → rules.asks request) :
    Abides rules post p := drawn.relax allowed fun _ _ _ => trivial

theorem drawing_of_question {request : OverlayRequest} (question : request.IsQuestion) :
    request.IsDrawing := by
  cases request with
  | host request => cases request <;> trivial
  | client request => cases request <;> trivial
  | canvas request => trivial
  | readMemory => trivial
  | writeMemory | note => exact question.elim

theorem viewport_drawn : Abides drawing (fun _ => True) (Viewport.current geo) :=
  asked_within (viewport_asks fun _ => trivial) fun _ => drawing_of_question

theorem drawBackground_drawn : Abides drawing (fun _ => True) (drawBackground geo) := by
  have statused : Abides drawing (fun _ => True) (statusMessage geo) :=
    asked_within (statusMessage_asks fun _ => trivial) fun _ => drawing_of_question
  simp only [drawBackground, bind_eq, abides_bind]
  refine statused.mono fun status _ => ?_
  cases status with
  | some message => simp [drawMessage, OverlayRequest.IsDrawing]
  | none =>
    simp only [abides_bind]
    refine viewport_drawn.mono fun viewport _ => ?_
    simp [OverlayRequest.IsDrawing]

theorem drawForeground_drawn : Abides drawing (fun _ => True) (drawForeground geo) := by
  simp only [drawForeground, bind_eq, abides_bind]
  refine viewport_drawn.mono fun viewport _ => ?_
  split
  · refine ⟨trivial, fun _ _ => ⟨trivial, fun surface _ => ⟨trivial, fun _ _ => ⟨trivial,
      fun regions _ => abides_each ?_ trivial⟩⟩⟩⟩
    simp [OverlayRequest.IsDrawing]
  · simp [OverlayRequest.IsDrawing]

theorem drawBadge_drawn : Abides drawing (fun _ => True) drawBadge := by
  simp [drawBadge, withSavedTransform, OverlayRequest.IsDrawing]

end Overlay

end RadarOverlay
