import RadarOverlay.Proofs.Offers

/-!
Where popup lists are opened. The host opens no list from inside the callback of a
popup, and nothing checks what it calls there: what keeps lists out of it is that no
popup hands out a function that opens a list at once. Main statement:
`lists_open_outside_answers`, for a host that calls only what it was handed.
-/
namespace RadarOverlay

/-- What a popup offers opens no list at once. -/
theorem TagFunction.Offers.listTitle_eq_none {told : ActivityState → Prop} {geo : Bool}
    {f g : TagFunction} (offered : g.Offers told geo f) (immediate : f.deferred = Option.none) :
    f.listTitle? = Option.none := by
  cases f with
  | openMenu => exact offered.elim
  | openSelectProfile step => cases step with
    | request => cases immediate
    | opening => exact offered.elim
  | openSelectPreset step => cases step with
    | request => cases immediate
    | opening => exact offered.elim
  | openSelectView step => cases step with
    | request => cases immediate
    | opening => exact offered.elim
  | _ => rfl

theorem Submenu.listTitle_opening (submenu : Submenu) :
    submenu.opening.listTitle? = some submenu.title := by
  cases submenu <;> rfl

section

open Simulation

variable {H C K : Type} [Host H] [LightingClient C] [Canvas K] {geo : Bool}
  {counts : PopupElement → Prop} {past : List (Passage H C K)} {s : Situation H C K}

/-- Nothing that was handed out opens a list at once. -/
theorem listTitle_of_handed {admits : List (Passage H C K) → Step H C K → Prop}
    (history : History geo admits past s) {f : TagFunction} (handed : Handed counts past f)
    (immediate : f.deferred = none) : f.listTitle? = none := by
  obtain ⟨_, _, _, _, _, _, _, _, _, _, _, offered⟩ := handed_offered history handed
  exact offered.listTitle_eq_none immediate

/-- As long as the host calls only what it was handed, a step that opens a list is no call of a
function: the lists of the submenus are opened in decoration passes, and the menu in clicks on
the badge. -/
theorem lists_open_outside_answers (history : History geo (Answers counts) past s)
    (step : Step H C K) (admitted : Answers counts past step) {area : Rect} {title : String}
    {columns : Int32}
    (opened : .host (.openPopupList area title columns) ∈ effects (step.run geo s).trace) :
    (∀ id text place, step ≠ .event (.callId id text place)) ∧
      (((∃ submenu : Submenu, title = submenu.title) ∧ step = .event (.refresh .afterLists)) ∨
        (title = "BARS menu" ∧ ∃ point place button,
          step = .event (.click .menu point place button))) := by
  cases step with
  | event call =>
    obtain ⟨f, performs, titled⟩ :=
      popup_from_function (history.mono fun _ _ _ => trivial) opened rfl
    rcases performs.source with ⟨immediate, calls⟩ | ⟨rfl, submenu, place, -, rfl⟩ |
      ⟨rfl | rfl, point, place, button, rfl⟩
    · have untitled := listTitle_of_handed history (admitted f calls) immediate
      rw [TagFunction.MayTellHost, untitled] at titled
      cases titled
    · rw [TagFunction.MayTellHost, submenu.listTitle_opening] at titled
      cases titled
      exact ⟨by simp, .inl ⟨⟨submenu, rfl⟩, rfl⟩⟩
    · cases titled
      exact ⟨by simp, .inr ⟨rfl, point, place, button, rfl⟩⟩
    · cases titled
  | _ => simp [Step.run, effects] at opened

/-- A click opens the menu, its entry for the profiles is activated by its id, and the profiles
are opened. -/
theorem profiles_open_outside_answers :
    let click : Step SceneHost SceneClient SceneCanvas :=
      .event (.click .menu ⟨700, 590⟩ ⟨690, 580, 800, 600⟩ .left)
    let answer : Step SceneHost SceneClient SceneCanvas := .event (.callId 5 "" ⟨0, 0, 60, 20⟩)
    let pass : Step SceneHost SceneClient SceneCanvas := .event (.refresh .afterLists)
    let s := (answer.run false (click.run false Scene.controlled).state).state
    .host (.openPopupList ⟨0, 0, 60, 20⟩ "Select profile" 1) ∈ effects (pass.run false s).trace ∧
      (∃ submenu : Submenu, "Select profile" = submenu.title) ∧
      pass = .event (.refresh .afterLists) := by
  intro click answer pass s
  have created : History false (Answers (·.disabled = false)) [] Scene.controlled := .created rfl
  have clicked := created.next click (answers_of_uncalled rfl)
  have entry : .addPopupListElement Menu.profilesEntry ∈
      popups (click.run false Scene.controlled).trace := by decide +kernel
  have handed : Handed (·.disabled = false) [Passage.take false click Scene.controlled]
      (.openSelectProfile .request) :=
    ⟨_, List.mem_singleton_self _, _, (mem_popups.mp entry).1, rfl, rfl⟩
  have answered := clicked.next answer (answers_of_encode handed rfl "" ⟨0, 0, 60, 20⟩)
  have shown : .openPopupList ⟨0, 0, 60, 20⟩ "Select profile" 1 ∈
      popups (pass.run false s).trace := by decide +kernel
  have opened := (mem_popups.mp shown).1
  refine ⟨opened, ?_⟩
  have placed := lists_open_outside_answers answered pass (answers_of_uncalled rfl) opened
  rcases placed.2 with submenu | ⟨menu, -⟩
  · exact submenu
  · exact absurd menu (by decide)

end

end RadarOverlay
