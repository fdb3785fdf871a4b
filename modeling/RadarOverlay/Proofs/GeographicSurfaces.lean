import RadarOverlay.Proofs.Control

/-!
Views belong to planar surfaces. Nothing that is called checks the kind of the surface:
on a geographic surface views stay out because the menu does not offer them, so that no
later popup, and not the slot either, has anything to do with them. Main statement:
`geographic_surfaces_show_no_views`, for a host that calls only what it was handed.
-/
namespace RadarOverlay

section

open Simulation

variable {H C K : Type} [Host H] [LightingClient C] [Canvas K] {counts : PopupElement → Prop}
  {past : List (Passage H C K)} {s : Situation H C K}

/-- What has an effect is an event. -/
theorem event_of_effect {geo : Bool} {step : Step H C K} {effect : Effect}
    (made : effect ∈ effects (step.run geo s).trace) : ∃ call, step = .event call := by
  cases step with
  | event call => exact ⟨call, rfl⟩
  | _ => simp [Step.run, effects] at made

/-- On a geographic surface no popup hands out the list of views. -/
theorem views_not_handed {admits : List (Passage H C K) → Step H C K → Prop}
    (history : History true admits past s) (step : SubmenuStep) :
    ¬ Handed counts past (.openSelectView step) := by
  intro handed
  obtain ⟨_, _, _, _, _, _, _, _, _, _, _, offered⟩ := handed_offered history handed
  cases step with
  | request => cases offered.2
  | opening => exact offered

/-- The views never wait in the slot: who picked them would have been handed their list. -/
theorem views_not_awaited (history : History true (Answers counts) past s) (area : Rect) :
    awaited past ≠ some (.views, area) := by
  intro waits
  obtain ⟨p, member, picked⟩ := picked_of_awaited waits
  obtain ⟨earlier, before, admitted, -, -⟩ := history.ran member
  obtain ⟨f, calls, picks⟩ := calls_of_picked picked
  have views : ∃ step, f = .openSelectView step := by
    cases f with
    | openSelectView step => exact ⟨step, rfl⟩
    | openSelectProfile step => cases step <;> cases picks
    | openSelectPreset step => cases step <;> cases picks
    | _ => cases picks
  obtain ⟨step, rfl⟩ := views
  exact views_not_handed before step (admitted _ calls)

/-- No event carries out the list of views. -/
theorem views_not_performed (history : History true (Answers counts) past s) {call : Event}
    (admitted : Answers counts past (.event call)) (step : SubmenuStep) :
    ¬ call.Performs (Waits past) (.openSelectView step) := by
  intro performs
  rcases performs.source with ⟨-, calls⟩ | ⟨-, submenu, area, waits, same⟩ | ⟨same | same, -⟩
  · exact views_not_handed history step (admitted _ calls)
  · cases submenu <;> cases same
    exact views_not_awaited history area waits
  · cases same
  · cases same

/-- No popup hands out a view: only the list of views does. -/
theorem view_not_handed (history : History true (Answers counts) past s) (index : Nat) :
    ¬ Handed counts past (.submitSelectView index) := by
  intro handed
  obtain ⟨q, _, _, earlier, before, admitted, _, call, g, stepped, performs, step, rfl⟩ :=
    handed_offered history handed
  rw [stepped] at admitted
  exact views_not_performed before admitted step performs

/-- As long as the host of a geographic surface calls only what it was handed, views stay out of it:
they never wait in the slot, no step opens their list or adds one of them to a list, and no step
sets one. -/
theorem geographic_surfaces_show_no_views (history : History true (Answers counts) past s) :
    (∀ waiting step, s.memory.pending.entry = some waiting →
      waiting.function ≠ .openSelectView step) ∧
    ∀ step, Answers counts past step →
      let trace := (step.run true s).trace
      (∀ area columns, .host (.openPopupList area "Select view" columns) ∉ effects trace) ∧
      (∀ element index, .host (.addPopupListElement element) ∈ effects trace →
        element.function ≠ .submitSelectView index) ∧
      ∀ index, .client (.setView index) ∉ effects trace := by
  have free : History true AnyStep past s := history.mono fun _ _ _ => trivial
  refine ⟨?_, ?_⟩
  · rintro waiting step holds views
    have pending := (pending_eq_awaited free).symm.trans holds
    obtain ⟨⟨submenu, area⟩, waits, rfl⟩ := Option.map_eq_some_iff.mp pending
    cases submenu <;> cases views
    exact views_not_awaited history area waits
  · intro step admitted trace
    refine ⟨?_, ?_, ?_⟩
    · intro area columns opened
      obtain ⟨call, rfl⟩ := event_of_effect opened
      obtain ⟨f, performs, titled⟩ := popup_from_function free opened rfl
      have views : ∃ step, f = .openSelectView step := by
        cases f <;> simp [TagFunction.MayTellHost, TagFunction.listTitle?] at titled ⊢
      obtain ⟨step, rfl⟩ := views
      exact views_not_performed history admitted step performs
    · intro element index added view
      obtain ⟨call, rfl⟩ := event_of_effect added
      obtain ⟨f, performs, offered⟩ := popup_from_function free added rfl
      rw [TagFunction.MayTellHost, view] at offered
      obtain ⟨step, rfl⟩ := offered
      exact views_not_performed history admitted step performs
    · intro index ordered
      obtain ⟨calls, -⟩ := selected_by_call free step .view index ordered
      exact view_not_handed history index (admitted _ calls)

/-- On a geographic surface the profiles are picked in the menu, and the decoration pass opens them
and no views, though the client has some. -/
theorem geographic_surfaces_show_no_views_picked :
    let click : Step SceneHost SceneClient SceneCanvas :=
      .event (.click .menu ⟨700, 590⟩ ⟨690, 580, 800, 600⟩ .left)
    let answer : Step SceneHost SceneClient SceneCanvas := .event (.callId 5 "" ⟨0, 0, 60, 20⟩)
    let pass : Step SceneHost SceneClient SceneCanvas := .event (.refresh .afterLists)
    let s := (answer.run true (click.run true Scene.controlled).state).state
    s.memory.pending.entry = some ⟨.openSelectProfile .opening, ⟨0, 0, 60, 20⟩⟩ ∧
      s.client.views = ["North", "South"] ∧
      .openPopupList ⟨0, 0, 60, 20⟩ "Select profile" 1 ∈ popups (pass.run true s).trace ∧
      ∀ area columns, .host (.openPopupList area "Select view" columns) ∉
        effects (pass.run true s).trace := by
  intro click answer pass s
  have created : History true (Answers (·.disabled = false)) [] Scene.controlled := .created rfl
  have clicked := created.next click (answers_of_uncalled rfl)
  have entry : .addPopupListElement Menu.profilesEntry ∈
      popups (click.run true Scene.controlled).trace := by decide +kernel
  have handed : Handed (·.disabled = false) [Passage.take true click Scene.controlled]
      (.openSelectProfile .request) :=
    ⟨_, List.mem_singleton_self _, _, (mem_popups.mp entry).1, rfl, rfl⟩
  have answered := clicked.next answer (answers_of_encode handed rfl "" ⟨0, 0, 60, 20⟩)
  refine ⟨by decide +kernel, by decide +kernel, by decide +kernel, ?_⟩
  exact ((geographic_surfaces_show_no_views answered).2 pass (answers_of_uncalled rfl)).1

end

end RadarOverlay
