import RadarOverlay.Proofs.Session

/-!
Loading into a session with a past. A store that keeps a target and both coordinates
determines what the session is after it is loaded, with one exception: a target that was
cleared in the store is not cleared in the session. Main statements:
`loads_agree_unless_cleared` says on what the loads of two sessions agree, and
`cleared_target_survives` shows the exception.
-/
namespace RadarOverlay

/-- A store keeps a whole session: a target, with the empty text for none, and an anchor. -/
structure KeepsSession (kept : String → Option String) (icao : String) (anchor : MenuAnchor) :
    Prop where
  target : kept SettingKey.aerodrome.key = some icao
  menuX : SettingKey.menuX.coordinate? kept = some anchor.x
  menuY : SettingKey.menuY.coordinate? kept = some anchor.y

theorem KeepsSession.ofStore {kept : String → Option String} {icao : String} {anchor : MenuAnchor}
    (keeps : KeepsSession kept icao anchor) :
    ScreenSettings.ofStore kept =
      ⟨if icao = "" then none else some icao, some anchor.x, some anchor.y⟩ := by
  rw [ScreenSettings.ofStore, keeps.target, keeps.menuX, keeps.menuY]
  by_cases cleared : icao = "" <;> simp [cleared]

section

variable {H C K : Type} [Host H] [LightingClient C] [Canvas K]

/-- A session that has loaded a whole session is at its anchor and has its target, but if that was
cleared it keeps the target it had. -/
theorem run_contentLoaded_session [LawfulTarget C] {s : Situation H C K} {icao : String}
    {anchor : MenuAnchor} (keeps : KeepsSession (Host.loadSetting s.host) icao anchor)
    (detailed : Bool) :
    let ran := Overlay.run (Overlay.contentLoaded true detailed) s
    ran.result = .ok () ∧ ran.state.memory.anchor = anchor ∧
      LightingClient.aerodrome ran.state.client =
        if icao = "" then LightingClient.aerodrome s.client else some icao := by
  intro ran
  obtain ⟨result, state, -⟩ := run_contentLoaded detailed s
  rw [keeps.ofStore] at state
  refine ⟨result, ?_, ?_⟩
  · simp only [ran, state, ScreenSettings.applyAnchor, Option.getD_some]
  · simp only [ran, state, aerodrome_retarget]
    by_cases cleared : icao = "" <;> simp [cleared]

/-- Two sessions of any past that load the same whole session both come to its anchor. Each has its
target then, but if that was cleared the one it had before; so the targets agree exactly if it was
not cleared or they agreed before. -/
theorem loads_agree_unless_cleared [LawfulTarget C] {s t : Situation H C K} {icao : String}
    {anchor : MenuAnchor} (first : KeepsSession (Host.loadSetting s.host) icao anchor)
    (second : KeepsSession (Host.loadSetting t.host) icao anchor) (detailed : Bool) :
    let loaded (u : Situation H C K) := Overlay.run (Overlay.contentLoaded true detailed) u
    let target (u : Situation H C K) := LightingClient.aerodrome u.client
    (∀ u, u = s ∨ u = t → (loaded u).result = .ok () ∧ (loaded u).state.memory.anchor = anchor ∧
      target (loaded u).state = if icao = "" then target u else some icao) ∧
    (target (loaded s).state = target (loaded t).state ↔ icao ≠ "" ∨ target s = target t) := by
  intro loaded target
  have atFirst := run_contentLoaded_session first detailed
  have atSecond := run_contentLoaded_session second detailed
  refine ⟨?_, ?_⟩
  · rintro u (rfl | rfl)
    · exact atFirst
    · exact atSecond
  · simp only [loaded, target, atFirst.2.2, atSecond.2.2]
    by_cases cleared : icao = "" <;> simp [cleared]

end

/-! ## A target that was cleared in the store -/

namespace ClearedTarget

open Simulation

/-- A target is submitted. -/
def submit : Step SceneHost SceneClient SceneCanvas :=
  .event (.callId 3 "EGLL" ⟨690, 580, 800, 600⟩)

/-- The store becomes that of a session with this target and the anchor (5, 6). -/
def rewrite (icao : String) : Step SceneHost SceneClient SceneCanvas :=
  .hostChanges fun host =>
    { host with settings := [("aerodrome", icao), ("menuX", "5"), ("menuY", "6")] }

/-- A session that has a target, over the rewritten store. -/
def used (icao : String) : Scene :=
  ((rewrite icao).run false (submit.run false Scene.initial).state).state

/-- A session without a past, over the same store. -/
def unused (icao : String) : Scene := ((rewrite icao).run false Scene.initial).state

def usedPast (icao : String) : List (Passage SceneHost SceneClient SceneCanvas) :=
  [.take false (rewrite icao) (submit.run false Scene.initial).state,
    .take false submit Scene.initial]

def unusedPast (icao : String) : List (Passage SceneHost SceneClient SceneCanvas) :=
  [.take false (rewrite icao) Scene.initial]

theorem used_history (icao : String) : History false AnyStep (usedPast icao) (used icao) :=
  ((History.created rfl).next submit trivial).next (rewrite icao) trivial

theorem unused_history (icao : String) : History false AnyStep (unusedPast icao) (unused icao) :=
  (History.created rfl).next (rewrite icao) trivial

theorem keeps_rewritten (icao : String) (s : Scene)
    (rewritten : s.host.settings = [("aerodrome", icao), ("menuX", "5"), ("menuY", "6")]) :
    KeepsSession (Host.loadSetting s.host) icao ⟨5, 6⟩ := by
  have kept (key : String) : Host.loadSetting s.host key =
      lookUp [("aerodrome", icao), ("menuX", "5"), ("menuY", "6")] key :=
    congrArg (lookUp · key) rewritten
  refine ⟨kept _, ?_, ?_⟩
  · rw [SettingKey.coordinate?, (kept _).trans (show _ = some "5" from rfl), Option.bind_some]
    decide +kernel
  · rw [SettingKey.coordinate?, (kept _).trans (show _ = some "6" from rfl), Option.bind_some]
    decide +kernel

end ClearedTarget

/-- Two sessions load the same store, in which the target was cleared. The one that had no target
has none, the other keeps the target it had. -/
theorem cleared_target_survives :
    History false AnyStep (ClearedTarget.usedPast "") (ClearedTarget.used "") ∧
      History false AnyStep (ClearedTarget.unusedPast "") (ClearedTarget.unused "") ∧
      KeepsSession (Host.loadSetting (ClearedTarget.used "").host) "" ⟨5, 6⟩ ∧
      KeepsSession (Host.loadSetting (ClearedTarget.unused "").host) "" ⟨5, 6⟩ ∧
      (Overlay.run (Overlay.contentLoaded true) (ClearedTarget.used "")).state.client.aerodrome =
        some "EGLL" ∧
      (Overlay.run (Overlay.contentLoaded true) (ClearedTarget.unused "")).state.client.aerodrome =
        none := by
  have used := ClearedTarget.keeps_rewritten "" (ClearedTarget.used "") rfl
  have unused := ClearedTarget.keeps_rewritten "" (ClearedTarget.unused "") rfl
  refine ⟨ClearedTarget.used_history "", ClearedTarget.unused_history "", used, unused, ?_, ?_⟩
  · exact (run_contentLoaded_session used true).2.2
  · exact (run_contentLoaded_session unused true).2.2

/-- Over a store with a target both sessions have it once it is loaded. -/
theorem loads_agree_gatwick :
    (Overlay.run (Overlay.contentLoaded true) (ClearedTarget.used "EGKK")).state.client.aerodrome =
      (Overlay.run (Overlay.contentLoaded true)
        (ClearedTarget.unused "EGKK")).state.client.aerodrome := by
  have used := ClearedTarget.keeps_rewritten "EGKK" (ClearedTarget.used "EGKK") rfl
  have unused := ClearedTarget.keeps_rewritten "EGKK" (ClearedTarget.unused "EGKK") rfl
  exact (loads_agree_unless_cleared used unused true).2.mpr (.inl (by decide))

end RadarOverlay
