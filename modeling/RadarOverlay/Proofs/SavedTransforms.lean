import RadarOverlay.Proofs.FunctionScope
import RadarOverlay.Proofs.Passes

/-!
Saved transforms. A callback restores a transform only at the end of the block that it has
saved it for, and to the state that the canvas has named then. Main statements:
`Nests.saved` says so of one block, whatever is drawn in it, and `refresh_nests` of every
render pass.
-/
namespace RadarOverlay

/-- What concerns the transforms that a canvas keeps. -/
inductive TransformMark where
  /-- The present transform was saved under a name. -/
  | saved (state : TransformState)
  | restored (state : TransformState)
  deriving DecidableEq, Repr

def Exchange.mark? : Exchange Overlay → Option TransformMark
  | ⟨.canvas .saveTransform, state⟩ => some (.saved state)
  | ⟨.canvas (.command (.restore state)), _⟩ => some (.restored state)
  | _ => none

def marks (trace : List (Exchange Overlay)) : List TransformMark := trace.filterMap Exchange.mark?

@[simp] theorem marks_append (first second : List (Exchange Overlay)) :
    marks (first ++ second) = marks first ++ marks second := by
  simp [marks]

/-- Each save has its own restore of the same state after it, and what is saved in between is
restored in between. -/
inductive Nested : List TransformMark → Prop where
  | nil : Nested []
  | block {inside rest : List TransformMark} (state : TransformState) (within : Nested inside)
      (after : Nested rest) : Nested (.saved state :: (inside ++ .restored state :: rest))

theorem Nested.append {first second : List TransformMark} (nested : Nested first)
    (others : Nested second) : Nested (first ++ second) := by
  induction nested with
  | nil => exact others
  | block state within _ _ ih =>
    have joined := Nested.block state within ih
    simpa using joined

/-- A request that concerns no saved transform. -/
def OverlayRequest.IsUnmarked : OverlayRequest → Prop
  | .canvas .saveTransform | .canvas (.command (.restore _)) => False
  | _ => True

theorem Exchange.mark?_eq_none {x : Exchange Overlay} (unmarked : x.request.IsUnmarked) :
    x.mark? = none := by
  unfold Exchange.mark?
  split
  · exact unmarked.elim
  · exact unmarked.elim
  · rfl

open Program

/-- The rules of callbacks that save and restore nothing. -/
abbrev Overlay.unmarked : Rules Overlay := only OverlayRequest.IsUnmarked

/-- The runs of a callback that come to an end save and restore in nested blocks. -/
def Nests {α : Type} (p : Callback α) : Prop :=
  ∀ (σ : Type) (serve : Surroundings Overlay σ) (s : σ) (a : α),
    (p.run serve s).result = .ok a → Nested (marks (p.run serve s).trace)

variable {α β : Type}

/-- What saves and restores nothing nests. -/
theorem nests_of_unmarked {post : α → Prop} {p : Callback α}
    (unmarked : Abides Overlay.unmarked post p) : Nests p := by
  intro σ serve s a _
  have none : marks (p.run serve s).trace = [] := by
    rw [marks, List.filterMap_eq_nil_iff]
    exact fun x member => Exchange.mark?_eq_none (unmarked.asks_of_only serve s x member)
  rw [none]
  exact .nil

theorem Nests.bind {p : Callback α} {f : α → Callback β} (first : Nests p)
    (others : ∀ a, Nests (f a)) : Nests (p.bind f) := by
  intro σ serve s b ends
  cases yields : (p.run serve s).result with
  | error cause =>
    rw [run_bind_of_error yields] at ends
    cases ends
  | ok a =>
    rw [run_bind_of_ok yields] at ends ⊢
    rw [marks_append]
    exact (first σ serve s a yields).append (others a σ serve _ b ends)

/-- A request that saves and restores nothing may be made before. -/
theorem Nests.after {r : OverlayRequest} {f : r.Answer → Callback α} (unmarked : r.IsUnmarked)
    (nests : ∀ answer, Nests (f answer)) :
    Nests ((Program.request (V := Overlay) r).bind f) := by
  have asked : Abides Overlay.unmarked (fun _ => True)
      (Program.request (V := Overlay) r) := ⟨unmarked, fun _ _ => trivial⟩
  exact Nests.bind (nests_of_unmarked asked) nests

/-- A block is restored to the state that it was saved under, whatever is drawn in it. -/
theorem Nests.saved {block : Callback Unit} (nests : Nests block) :
    Nests (withSavedTransform block) := by
  intro σ serve s _ ends
  let state := (serve (.canvas .saveTransform) s).1
  let next := (serve (.canvas .saveTransform) s).2
  have split : (withSavedTransform block).run serve s =
      let rest := (block.bind fun _ => Overlay.tellCanvas (.restore state)).run serve next
      { rest with trace := ⟨.canvas .saveTransform, state⟩ :: rest.trace } := rfl
  cases yields : (block.run serve next).result with
  | error cause =>
    rw [split, run_bind_of_error yields] at ends
    cases ends
  | ok =>
    rw [split, run_bind_of_ok yields]
    have inside : Nested (marks (block.run serve next).trace) := nests σ serve next () yields
    have around := Nested.block state inside .nil
    simpa [marks, Exchange.mark?, run] using around

theorem nests_ofExcept (computed : Except Overflow α) :
    Nests (ofExcept computed : Callback α) := by
  have unmarked : Abides Overlay.unmarked (fun _ => True)
      (ofExcept computed : Callback α) := by simp
  exact nests_of_unmarked unmarked

section

variable {geo : Bool}

theorem unmarked_of_question {request : OverlayRequest} (question : request.IsQuestion) :
    request.IsUnmarked := by
  cases request with
  | canvas request => cases request <;> trivial
  | _ => trivial

theorem viewport_unmarked : Abides Overlay.unmarked (fun _ => True) (Viewport.current geo) :=
  Overlay.asked_within (Overlay.viewport_asks fun _ => trivial) fun _ => unmarked_of_question

theorem drawBackground_unmarked :
    Abides Overlay.unmarked (fun _ => True) (Overlay.drawBackground geo) := by
  have statused : Abides Overlay.unmarked (fun _ => True) (Overlay.statusMessage geo) :=
    Overlay.asked_within (Overlay.statusMessage_asks fun _ => trivial) fun _ => unmarked_of_question
  simp only [Overlay.drawBackground, bind_eq, abides_bind]
  refine statused.mono fun status _ => ?_
  cases status with
  | some message => simp [Overlay.drawMessage, OverlayRequest.IsUnmarked]
  | none =>
    simp only [abides_bind]
    refine viewport_unmarked.mono fun viewport _ => ?_
    simp [OverlayRequest.IsUnmarked]

theorem drawForeground_unmarked :
    Abides Overlay.unmarked (fun _ => True) (Overlay.drawForeground geo) := by
  simp only [Overlay.drawForeground, bind_eq, abides_bind]
  refine viewport_unmarked.mono fun viewport _ => ?_
  split
  · refine ⟨trivial, fun _ _ => ⟨trivial, fun surface _ => ⟨trivial, fun _ _ => ⟨trivial,
      fun regions _ => abides_each ?_ trivial⟩⟩⟩⟩
    simp [OverlayRequest.IsUnmarked]
  · simp [OverlayRequest.IsUnmarked]

/-- Calls leave the canvas alone. -/
theorem called_unmarked {p : Callback Unit}
    (called : Abides (only OverlayRequest.IsCalling) (fun _ => True) p) :
    Abides Overlay.unmarked (fun _ => True) p := by
  refine called.relax (fun request asked => ?_) fun _ _ _ => trivial
  cases request with
  | canvas request => exact asked.elim
  | _ => trivial

/-- The badge's icon is drawn in a block of its own. -/
theorem drawBadge_nests : Nests Overlay.drawBadge := by
  have icon (layout : Badge.Layout) (style : Badge.Style) :
      Abides Overlay.unmarked (fun _ => True) (do
        Overlay.tellCanvas (.translate layout.iconOrigin.x layout.iconOrigin.y)
        Overlay.tellCanvas (.drawLines style.icon Badge.foregroundColor)) := by
    simp [OverlayRequest.IsUnmarked]
  have label (layout : Badge.Layout) (aerodrome : Option String) :
      Abides Overlay.unmarked (fun _ => True)
        (Overlay.tellCanvas (.drawText (Badge.label aerodrome) layout.labelOrigin
          Badge.foregroundColor)) := by
    simp [OverlayRequest.IsUnmarked]
  simp only [Overlay.drawBadge, bind_eq, lift_eq]
  refine .after trivial fun aerodrome => .after trivial fun connection => .after trivial
    fun activity => .after trivial fun extent => .after trivial fun area => .after trivial
    fun memory => ?_
  refine .bind (nests_ofExcept _) fun layout => .after trivial fun _ => .after trivial fun _ => ?_
  exact .bind (.saved (nests_of_unmarked (icon layout _))) fun _ =>
    nests_of_unmarked (label layout aerodrome)

/-- Every render pass that comes to an end saves and restores in nested blocks. -/
theorem refresh_nests (geo : Bool) (phase : RefreshPhase) : Nests (Overlay.refresh geo phase) := by
  cases phase with
  | backBitmap => exact nests_of_unmarked drawBackground_unmarked
  | beforeTags => exact nests_of_unmarked drawForeground_unmarked
  | afterTags => exact fun _ _ _ _ _ => .nil
  | afterLists =>
    exact drawBadge_nests.bind fun _ =>
      (nests_of_unmarked (called_unmarked Overlay.refreshIfRequired_calling)).bind fun _ =>
        nests_of_unmarked (called_unmarked Overlay.flush_calling)

end

end RadarOverlay
