import RadarOverlay.Proofs.CallbackScope

/-!
Histories of one overlay: every order of events and of changes around them that leads
from a new overlay to a situation. What has passed is kept newest first, each step
with the situation it was taken in and with its outcome, so that a law can speak of
what was asked or handed out before. A history goes on after a step that stopped at
an overflow, with what that step has left. Main statement: `History.ran` says that each
step kept is a step taken.
-/
namespace RadarOverlay

/-- A step that was taken. -/
structure Passage (H C K : Type) where
  step : Step H C K
  /-- The situation it was taken in. -/
  before : Situation H C K
  outcome : Outcome Overlay (Situation H C K) Unit

section

variable {H C K : Type} [Host H] [LightingClient C] [Canvas K]

def Passage.take (geo : Bool) (step : Step H C K) (s : Situation H C K) : Passage H C K :=
  ⟨step, s, step.run geo s⟩

/-- What may have passed, newest first, before a new overlay on a surface has come to a
situation. Which step is taken next is limited by `admits` only. -/
inductive History (geo : Bool) (admits : List (Passage H C K) → Step H C K → Prop) :
    List (Passage H C K) → Situation H C K → Prop where
  | created {s : Situation H C K} (fresh : s.memory = .initial) : History geo admits [] s
  | next {past : List (Passage H C K)} {s : Situation H C K} (earlier : History geo admits past s)
      (step : Step H C K) (admitted : admits past step) :
      History geo admits (.take geo step s :: past) (step.run geo s).state

def AnyStep (_ : List (Passage H C K)) (_ : Step H C K) : Prop := True

variable {geo : Bool} {admits : List (Passage H C K) → Step H C K → Prop}
  {past : List (Passage H C K)} {s : Situation H C K}

/-- A history under narrow limits is one under wide limits. -/
theorem History.mono {wider : List (Passage H C K) → Step H C K → Prop}
    (history : History geo admits past s)
    (implies : ∀ past step, admits past step → wider past step) : History geo wider past s := by
  induction history with
  | created fresh => exact .created fresh
  | next _ step admitted ih => exact .next ih step (implies _ step admitted)

/-- Each step kept is a step taken, after a history of its own. -/
theorem History.ran (history : History geo admits past s) {p : Passage H C K}
    (member : p ∈ past) : ∃ earlier, History geo admits earlier p.before ∧ admits earlier p.step ∧
      (∀ q ∈ earlier, q ∈ past) ∧ p.outcome = p.step.run geo p.before := by
  induction history with
  | created => simp at member
  | @next past s earlier step admitted ih =>
    rcases List.mem_cons.mp member with rfl | before
    · exact ⟨past, earlier, admitted, fun q => List.mem_cons_of_mem _, rfl⟩
    · obtain ⟨rest, history, allowed, included, taken⟩ := ih before
      have kept (q) (early : q ∈ rest) := List.mem_cons_of_mem (.take geo step s) (included q early)
      exact ⟨rest, history, allowed, kept, taken⟩

end

end RadarOverlay
