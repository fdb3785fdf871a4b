import RadarOverlay.Proofs.PopupContext

/-!
Control of the lighting. Whether the lighting may be changed is looked up when a popup
is built, not when an entry is activated, so an entry that is activated late still
selects. What holds is that nothing is selected unless the client had told, for a
popup that led to the entry, that it controls. Main statement:
`selections_follow_control`.
-/
namespace RadarOverlay

/-- The list as the client shows it. -/
def SelectionList.shown {C : Type} [LightingClient C] (list : SelectionList) (client : C) :
    List String :=
  match list with
  | .profile => LightingClient.profiles client
  | .preset => LightingClient.presets client
  | .view => LightingClient.views client

section

open Program

variable {H C K : Type} [Host H] [LightingClient C] [Canvas K] {geo : Bool}
  {counts : PopupElement → Prop} {past : List (Passage H C K)} {s : Situation H C K}

theorem run_list_request (list : SelectionList) (s : Situation H C K) :
    ∃ x, Exchange.effect? x = none ∧
      run OverlayRequest.serve list.request s = ⟨.ok (list.shown s.client), s, [x]⟩ := by
  cases list <;> exact ⟨_, rfl, rfl⟩

theorem run_select (list : SelectionList) (index : Nat) (s : Situation H C K) :
    (Overlay.run (Overlay.select list index) s).result = .ok () ∧
      effects (Overlay.run (Overlay.select list index) s).trace =
        if index < (list.shown s.client).length then [.client (list.select index)] else [] := by
  obtain ⟨x, question, asked⟩ := run_list_request list s
  simp only [Overlay.select, bind_eq, Overlay.run, run_bind, asked, Outcome.andThen]
  by_cases listed : index < (list.shown s.client).length
  · simp only [if_pos listed]
    refine ⟨rfl, ?_⟩
    rw [effects_append, effects, List.filterMap_cons_none question]
    rfl
  · simp only [if_neg listed]
    refine ⟨rfl, ?_⟩
    rw [effects_append, effects, List.filterMap_cons_none question]
    rfl

theorem refreshIfRequired_orders_nothing (command : ClientCommand) (s : Situation H C K) :
    .client command ∉ effects (Overlay.run Overlay.refreshIfRequired s).trace := by
  rw [client_mem_effects]
  cases redraw : (LightingClient.takeRedraw s.client).1 <;>
    simp [Overlay.refreshIfRequired, Overlay.run, run, OverlayRequest.serve, ClientRequest.serve,
      redraw]

/-- Calling the function that selects an entry gives the client one command, if the list has the
entry now, and none otherwise. -/
theorem ordered_by_submit_iff (list : SelectionList) (index : Nat) (text : String) (area : Rect)
    {command : ClientCommand} :
    .client command ∈
        effects (Overlay.run (Overlay.callFunction geo (list.submit index) text area) s).trace ↔
      command = list.select index ∧ index < (list.shown s.client).length := by
  obtain ⟨selected, ordered⟩ := run_select list index s
  have called : Overlay.callFunction geo (list.submit index) text area =
      (Overlay.select list index).bind fun _ => Overlay.refreshIfRequired := by
    cases list <;> rfl
  have quiet := refreshIfRequired_orders_nothing command
    (Overlay.run (Overlay.select list index) s).state
  simp only [Overlay.run] at selected ordered quiet
  simp only [called, Overlay.run, run_bind_of_ok selected, effects_append, ordered]
  by_cases listed : index < (list.shown s.client).length <;> simp [listed, quiet]

/-- A selection is a call of the function that selects the entry, and the list has the entry. -/
theorem selected_by_call (history : History geo AnyStep past s) (step : Step H C K)
    (list : SelectionList) (index : Nat)
    (ordered : .client (list.select index) ∈ effects (step.run geo s).trace) :
    step.Calls (list.submit index) ∧ index < (list.shown s.client).length := by
  cases step with
  | event call =>
    have order : (list.select index).isOrder := by cases list <;> rfl
    obtain ⟨f, performs, may⟩ := order_from_function history ordered order
    have submit : f = list.submit index := by cases list <;> exact may
    subst submit
    have called : ∃ area, call.called? = some (list.submit index, area) := by
      rcases performs.source with ⟨-, called⟩ | ⟨-, submenu, place, -, same⟩ | ⟨same | same, -⟩
      · exact called
      · cases list <;> cases submenu <;> cases same
      · cases list <;> cases same
      · cases list <;> cases same
    obtain ⟨area, called⟩ := called
    refine ⟨⟨area, called⟩, ?_⟩
    obtain ⟨text, ran⟩ := Event.callback_of_called geo called
    rw [Step.run, ran] at ordered
    exact ((ordered_by_submit_iff list index text area).mp ordered).2
  | _ => simp [Step.run, effects] at ordered

/-- The list of presets is opened only from a menu that was built under control. -/
private theorem presets_follow_control (history : History geo (Answers counts) past s) {index : Nat}
    (handed : Handed counts past (.submitSelectPreset index)) :
    ∃ q ∈ past, q.Hands counts (.openSelectPreset .request) ∧
      Told q.outcome.trace .controlling := by
  obtain ⟨r, -, -, earlier, before, admitted, included, call, g, stepped, performs, offered⟩ :=
    handed_offered history handed
  obtain ⟨step, rfl⟩ := offered
  -- Nothing that was handed out opens the list at once, so it came out of the slot.
  have flushed : Waits earlier (.openSelectPreset step) := by
    rcases performs.source with ⟨immediate, calls⟩ | ⟨-, waits⟩ | ⟨same | same, -⟩
    · rw [stepped] at admitted
      have untitled := listTitle_of_handed before (admitted _ calls) immediate
      cases untitled
    · exact waits
    · cases same
    · cases same
  -- What waits was picked by a call, and the function of that call was handed out before.
  obtain ⟨submenu, area, waits, same⟩ := flushed
  obtain ⟨p, member, picked⟩ := picked_of_awaited waits
  obtain ⟨before, history, admitted, within, -⟩ := before.ran member
  obtain ⟨f, calls, picks⟩ := calls_of_picked picked
  have gate : f = .openSelectPreset .request := by
    cases submenu <;> cases same
    cases f with
    | openSelectProfile step => cases step <;> cases picks
    | openSelectPreset step => cases step with
      | request => rfl
      | opening => cases picks
    | openSelectView step => cases step <;> cases picks
    | _ => cases picks
  subst gate
  obtain ⟨q, found, hands, _, _, _, _, _, _, _, _, offered⟩ :=
    handed_offered history (admitted _ calls)
  exact ⟨q, included q (within q found), hands, offered.2⟩

/-- As long as the host calls only what it was handed, a profile is selected or a preset applied
only by a call of the very function that was handed out for it, with the entry in the client's
list at that time, and only after the client had told that it controls: for a profile while the
list with the entry was built, for a preset while a menu with the entry of the presets was. -/
theorem selections_follow_control (history : History geo (Answers counts) past s)
    (step : Step H C K) (admitted : Answers counts past step) {command : ClientCommand}
    (ordered : .client command ∈ effects (step.run geo s).trace) (index : Nat) :
    (command = .setProfile index →
      step.Calls (.submitSelectProfile index) ∧
      index < (LightingClient.profiles s.client).length ∧
      ∃ q ∈ past, q.Hands counts (.submitSelectProfile index) ∧
        Told q.outcome.trace .controlling) ∧
    (command = .applyPreset index →
      step.Calls (.submitSelectPreset index) ∧
      index < (LightingClient.presets s.client).length ∧
      (∃ q ∈ past, q.Hands counts (.submitSelectPreset index)) ∧
      ∃ q ∈ past, q.Hands counts (.openSelectPreset .request) ∧
        Told q.outcome.trace .controlling) := by
  have free : History geo AnyStep past s := history.mono fun _ _ _ => trivial
  refine ⟨?_, ?_⟩
  · rintro rfl
    obtain ⟨calls, listed⟩ := selected_by_call free step .profile index ordered
    refine ⟨calls, listed, ?_⟩
    obtain ⟨q, member, hands, _, _, _, _, _, _, _, _, offered⟩ :=
      handed_offered history (admitted _ calls)
    exact ⟨q, member, hands, offered.2⟩
  · rintro rfl
    obtain ⟨calls, listed⟩ := selected_by_call free step .preset index ordered
    have handed := admitted _ calls
    exact ⟨calls, listed, handed, presets_follow_control history handed⟩

end

/-! ## An entry that is activated late -/

namespace LateActivation

open Simulation

/-- Where the menu is opened, and all that follows. -/
def badge : Rect := ⟨690, 580, 800, 600⟩

/-- The menu is opened under control. -/
def click : Step SceneHost SceneClient SceneCanvas := .event (.click .menu ⟨700, 590⟩ badge .left)

/-- The client loses control. -/
def loss : Step SceneHost SceneClient SceneCanvas :=
  .clientChanges fun client => { client with activity := .observing }

/-- The entry of the presets is activated. -/
def answer : Step SceneHost SceneClient SceneCanvas := .event (.callId 7 "" badge)

/-- The presets are opened. -/
def pass : Step SceneHost SceneClient SceneCanvas := .event (.refresh .afterLists)

/-- The first preset is activated. -/
def selection : Step SceneHost SceneClient SceneCanvas := .event (.callId 8 "" badge)

def opened : Scene := (click.run false Scene.controlled).state

def lost : Scene := (loss.run false opened).state

def picked : Scene := (answer.run false lost).state

def shown : Scene := (pass.run false picked).state

/-- What has passed before the preset is activated. -/
def past : List (Passage SceneHost SceneClient SceneCanvas) :=
  [.take false pass picked, .take false answer lost, .take false loss opened,
    .take false click Scene.controlled]

theorem handed_presets : Handed (·.disabled = false)
    [Passage.take false loss opened, .take false click Scene.controlled]
    (.openSelectPreset .request) := by
  have entry : .addPopupListElement (Menu.presetsEntry true) ∈
      popups (click.run false Scene.controlled).trace := by decide +kernel
  exact ⟨.take false click Scene.controlled, by simp, _, (mem_popups.mp entry).1, rfl, rfl⟩

theorem handed_preset : Handed (·.disabled = false) past (.submitSelectPreset 0) := by
  have entry : .addPopupListElement (.plain "Dusk" (.submitSelectPreset 0)) ∈
      popups (pass.run false picked).trace := by decide +kernel
  exact ⟨.take false pass picked, by simp [past], _, (mem_popups.mp entry).1, rfl, rfl⟩

theorem history : History false (Answers (·.disabled = false)) past shown := by
  have created : History false (Answers (·.disabled = false)) [] Scene.controlled := .created rfl
  have clicked := created.next click (answers_of_uncalled rfl)
  have observing := clicked.next loss (fun _ calls => calls.elim)
  have answered := observing.next answer (answers_of_encode handed_presets rfl "" badge)
  exact answered.next pass (answers_of_uncalled rfl)

theorem applied : .client (.applyPreset 0) ∈ effects (selection.run false shown).trace := by
  have listed : 0 < (SelectionList.preset.shown shown.client).length := by decide +kernel
  exact (ordered_by_submit_iff .preset 0 "" badge).mpr ⟨rfl, listed⟩

end LateActivation

/-- An enabled entry that is activated late applies a preset while the client only observes, from
the start of the call to its end. -/
theorem preset_applied_observing :
    History false (Answers (·.disabled = false)) LateActivation.past LateActivation.shown ∧
      Answers (·.disabled = false) LateActivation.past LateActivation.selection ∧
      LateActivation.shown.client.activity = .observing ∧
      (LateActivation.selection.run false LateActivation.shown).state.client.activity =
        .observing ∧
      .client (.applyPreset 0) ∈
        effects (LateActivation.selection.run false LateActivation.shown).trace := by
  refine ⟨LateActivation.history, ?_, by decide +kernel, by decide +kernel,
    LateActivation.applied⟩
  exact answers_of_encode LateActivation.handed_preset rfl "" LateActivation.badge

/-- A preset that is applied late follows the menu that was built under control. -/
theorem late_preset_follows_control :
    LateActivation.selection.Calls (.submitSelectPreset 0) ∧
      ∃ q ∈ LateActivation.past, Told q.outcome.trace .controlling := by
  have admitted := answers_of_encode LateActivation.handed_preset rfl "" LateActivation.badge
  obtain ⟨calls, -, -, q, member, -, told⟩ :=
    (selections_follow_control LateActivation.history LateActivation.selection admitted
      LateActivation.applied 0).2 rfl
  exact ⟨calls, q, member, told⟩

end RadarOverlay
