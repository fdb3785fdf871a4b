import RadarOverlay.Proofs.History
import RadarOverlay.Simulation.Scene

/-!
Submenus open late and once. A submenu that is picked in a menu waits in the slot
until the next decoration pass that is completed, and that pass opens the one picked
last. Main statements: `pending_eq_awaited` says that the slot holds what was picked
last since the last completed pass, and `submenu_opens_once` what calls and passes
open.
-/
namespace RadarOverlay

/-- The lists that are picked in a menu. -/
inductive Submenu where
  | profiles
  | presets
  | views
  deriving DecidableEq, Repr

namespace Submenu

def opening : Submenu → TagFunction
  | .profiles => .openSelectProfile .opening
  | .presets => .openSelectPreset .opening
  | .views => .openSelectView .opening

def title : Submenu → String
  | .profiles => "Select profile"
  | .presets => "Select preset"
  | .views => "Select view"

section

variable {C : Type} [LightingClient C]

/-- The names that a submenu lists. -/
def names (submenu : Submenu) (client : C) : List String :=
  match submenu with
  | .profiles => LightingClient.profiles client
  | .presets => LightingClient.presets client
  | .views => LightingClient.views client

/-- The entry of a submenu for the name at a position: it selects that position. The selected
profile and the selected view are checked and the others are not, presets have no checkbox, and
profiles are disabled and inert unless the client controls the lighting. -/
def entry (submenu : Submenu) (client : C) (index : Nat) (name : String) : PopupElement :=
  match submenu with
  | .profiles =>
    { label := name
      function := if LightingClient.activity client = .controlling then .submitSelectProfile index
        else .none
      checkbox := if LightingClient.profile client = index then .checked else .unchecked
      disabled := LightingClient.activity client ≠ .controlling }
  | .presets =>
    { label := name
      function := .submitSelectPreset index
      checkbox := .noCheckbox
      disabled := false }
  | .views =>
    { label := name
      function := .submitSelectView index
      checkbox := if LightingClient.view client = index then .checked else .unchecked
      disabled := false }

/-- The entries of a submenu, from what the client shows: one for each name, in order. -/
def entries (submenu : Submenu) (client : C) : List PopupElement :=
  (submenu.names client).mapIdx (submenu.entry client)

theorem entries_profiles (client : C) : Submenu.profiles.entries client =
    Menu.profileEntries (LightingClient.activity client = .controlling)
      (LightingClient.profile client) (LightingClient.profiles client) := by
  rw [entries, List.mapIdx_eq_zipIdx_map]
  simp [names, entry, Menu.profileEntries, PopupCheckbox.checkedIf]

theorem entries_presets (client : C) : Submenu.presets.entries client =
    Menu.presetEntries (LightingClient.presets client) := by
  rw [entries, List.mapIdx_eq_zipIdx_map]
  rfl

theorem entries_views (client : C) : Submenu.views.entries client =
    Menu.viewEntries (LightingClient.view client) (LightingClient.views client) := by
  rw [entries, List.mapIdx_eq_zipIdx_map]
  simp [names, entry, Menu.viewEntries, PopupCheckbox.checkedIf]

def popup (submenu : Submenu) (area : Rect) (client : C) : List HostCommand :=
  .openPopupList area submenu.title 1 :: (submenu.entries client).map .addPopupListElement

end

end Submenu

def TagFunction.picked? : TagFunction → Option Submenu
  | .openSelectProfile .request => some .profiles
  | .openSelectPreset .request => some .presets
  | .openSelectView .request => some .views
  | _ => Option.none

/-- Exactly the functions that pick a submenu are deferred, to the function that opens it. -/
theorem TagFunction.deferred_eq (f : TagFunction) :
    f.deferred = f.picked?.map Submenu.opening := by
  cases f with
  | openSelectProfile step => cases step <;> rfl
  | openSelectPreset step => cases step <;> rfl
  | openSelectView step => cases step <;> rfl
  | _ => rfl

theorem Submenu.deferred_opening (submenu : Submenu) : submenu.opening.deferred = none := by
  cases submenu <;> rfl

/-- The submenu that an event picks, and the area it is picked on. -/
def Event.picked? (call : Event) : Option (Submenu × Rect) :=
  call.called?.bind fun (function, area) => function.picked?.map (·, area)

/-- The commands of a record that show popups or fill them, in order. -/
def popups (trace : List (Exchange Overlay)) : List HostCommand :=
  (effects trace).filterMap fun
    | .host command => if command.isPopup then some command else none
    | _ => none

@[simp] theorem popups_append (first second : List (Exchange Overlay)) :
    popups (first ++ second) = popups first ++ popups second := by
  simp [popups]

theorem mem_popups {command : HostCommand} {trace : List (Exchange Overlay)} :
    command ∈ popups trace ↔ .host command ∈ effects trace ∧ command.isPopup := by
  rw [popups, List.mem_filterMap]
  constructor
  · rintro ⟨effect, member, found⟩
    split at found
    · split at found
      · cases found
        exact ⟨member, by assumption⟩
      · cases found
    · cases found
  · rintro ⟨member, popup⟩
    exact ⟨_, member, if_pos popup⟩

theorem popups_eq_nil {trace : List (Exchange Overlay)}
    (quiet : ∀ command, .host command ∈ effects trace → command.isPopup = false) :
    popups trace = [] := by
  rw [popups, List.filterMap_eq_nil_iff]
  intro effect member
  cases effect with
  | host command => simp [quiet command member]
  | _ => rfl

section

variable {H C K : Type}

/-- The submenu that a step picked, and the area it was picked on. -/
def Passage.picked? (p : Passage H C K) : Option (Submenu × Rect) :=
  match p.step with
  | .event call => call.picked?
  | _ => none

/-- The step was a decoration pass, and it was completed. -/
def Passage.decorated (p : Passage H C K) : Bool :=
  match p.step, p.outcome.result with
  | .event (.refresh .afterLists), .ok () => true
  | _, _ => false

theorem Passage.decorated_iff {p : Passage H C K} :
    p.decorated = true ↔ p.step = .event (.refresh .afterLists) ∧ p.outcome.result = .ok () := by
  unfold Passage.decorated
  split
  · simp_all
  · rename_i other
    simp only [Bool.false_eq_true, false_iff]
    rintro ⟨pass, completed⟩
    exact other pass completed

/-- What has passed since the last completed decoration pass, newest first. -/
def sinceDecorated (past : List (Passage H C K)) : List (Passage H C K) :=
  past.takeWhile fun p => !p.decorated

/-- The submenu that was picked last since the last completed decoration pass. -/
def awaited (past : List (Passage H C K)) : Option (Submenu × Rect) :=
  ((sinceDecorated past).filterMap Passage.picked?).head?

theorem awaited_cons (p : Passage H C K) (past : List (Passage H C K)) :
    awaited (p :: past) = if p.decorated then none else p.picked?.or (awaited past) := by
  cases decorated : p.decorated with
  | true => simp [awaited, sinceDecorated, decorated]
  | false => cases picked : p.picked? <;> simp [awaited, sinceDecorated, decorated, picked]

theorem picked_of_awaited {past : List (Passage H C K)} {waiting : Submenu × Rect}
    (waits : awaited past = some waiting) : ∃ p ∈ past, p.picked? = some waiting := by
  obtain ⟨p, member, picked⟩ := List.mem_filterMap.mp (List.mem_of_mem_head? waits)
  exact ⟨p, (List.takeWhile_prefix _).subset member, picked⟩

theorem awaited_isSome_iff {past : List (Passage H C K)} :
    (awaited past).isSome ↔ ∃ p ∈ sinceDecorated past, p.picked?.isSome := by
  rw [awaited, List.isSome_head?, ne_eq, List.filterMap_eq_nil_iff]
  simp [Option.isSome_iff_ne_none]

end

section

open Program Simulation

variable {H C K : Type} [Host H] [LightingClient C] [Canvas K] {geo : Bool}
  {s : Situation H C K}

/-- An event that carries no function out shows no popup. -/
theorem popups_of_idle {call : Event} (idle : ∀ f, ¬ call.Performs (fun _ => True) f) :
    popups (Overlay.run (call.callback geo) s).trace = [] := by
  have flushed : call = .refresh .afterLists → True ∧ ∀ entry : Deferred, True →
      entry.function.deferred = none ∧ True := by
    rintro rfl
    exact (idle .none trivial).elim
  obtain ⟨within, -⟩ := Overlay.run_in_scope (s := s) (fun _ => False) (fun _ => True)
    (fun _ => True) idle (fun _ _ _ _ _ => trivial) flushed trivial
  apply popups_eq_nil
  intro command member
  cases popup : command.isPopup with
  | false => rfl
  | true =>
    obtain ⟨f, impossible, -⟩ := within _ (host_mem_effects.mp member) popup
    exact impossible.elim

/-- An event that picks nothing leaves the slot alone, unless it is a decoration pass. -/
theorem pending_of_unpicked {call : Event} (unpicked : call.picked? = none)
    (other : call ≠ .refresh .afterLists) :
    (Overlay.run (call.callback geo) s).state.memory.pending = s.memory.pending := by
  have parked : ∀ f submenu area, call.called? = some (f, area) → f.deferred = some submenu →
      (⟨some ⟨submenu, area⟩⟩ : DeferredSlot) = s.memory.pending := by
    intro f submenu area called deferred
    rw [TagFunction.deferred_eq, Option.map_eq_some_iff] at deferred
    obtain ⟨submenu, picked, -⟩ := deferred
    simp [Event.picked?, called, picked] at unpicked
  exact (Overlay.run_in_scope (fun _ => True) (· = s.memory.pending) (fun _ => True)
    (fun _ _ => trivial) parked (fun pass => absurd pass other) rfl).2

theorem run_callFunction_picked {f : TagFunction} {submenu : Submenu}
    (picked : f.picked? = some submenu) (text : String) (area : Rect) :
    (Overlay.run (Overlay.callFunction geo f text area) s).state.memory.pending =
      ⟨some ⟨submenu.opening, area⟩⟩ := by
  have deferral : f.deferred = some submenu.opening := by rw [TagFunction.deferred_eq, picked]; rfl
  simp only [Overlay.run, Overlay.callFunction, deferral, Overlay.park, DeferredSlot.defer,
    Overlay.refreshIfRequired]
  cases waiting : s.memory.pending.entry <;>
    cases redraw : (LightingClient.takeRedraw s.client).1 <;>
      simp [run, OverlayRequest.serve, ClientRequest.serve, waiting, redraw]

/-- A request that shows no popup and leaves memory and client alone. -/
def OverlayRequest.IsPassive : OverlayRequest → Prop
  | .host (.command command) => command.isPopup = false
  | .client (.command _) | .client .takeRedraw | .writeMemory _ => False
  | _ => True

def Overlay.passive : Rules Overlay := ⟨OverlayRequest.IsPassive, fun _ _ => True⟩

theorem popups_of_passive {trace : List (Exchange Overlay)}
    (passive : ∀ x ∈ trace, x.request.IsPassive) : popups trace = [] :=
  popups_eq_nil fun _ member => passive _ (host_mem_effects.mp member)

theorem passive_keptBy (s : Situation H C K) :
    Overlay.passive.KeptBy (OverlayRequest.serve (H := H) (C := C) (K := K))
      (fun now => now.memory = s.memory ∧ now.client = s.client) (fun _ => True) := by
  intro request now unchanged asked _
  cases request with
  | client request => cases request <;> first | exact asked.elim | exact ⟨trivial, unchanged⟩
  | writeMemory memory => exact asked.elim
  | _ => exact ⟨trivial, unchanged⟩

/-- Drawing the badge shows no popup and leaves memory and client alone. -/
theorem run_drawBadge (s : Situation H C K) :
    (Overlay.run Overlay.drawBadge s).state.memory = s.memory ∧
      (Overlay.run Overlay.drawBadge s).state.client = s.client ∧
      popups (Overlay.run Overlay.drawBadge s).trace = [] := by
  have abides : Abides Overlay.passive (fun _ => True) Overlay.drawBadge := by
    simp [Overlay.drawBadge, withSavedTransform, Overlay.passive, OverlayRequest.IsPassive,
      HostCommand.isPopup]
  obtain ⟨passive, ⟨memory, client⟩, -⟩ :=
    abides.run (passive_keptBy s) ⟨rfl, rfl⟩ (fun _ _ => trivial)
  exact ⟨memory, client, popups_of_passive passive⟩

theorem run_refreshIfRequired (s : Situation H C K) :
    (Overlay.run Overlay.refreshIfRequired s).result = .ok () ∧
      (Overlay.run Overlay.refreshIfRequired s).state.memory = s.memory ∧
      (Overlay.run Overlay.refreshIfRequired s).state.client =
        (LightingClient.takeRedraw s.client).2 ∧
      popups (Overlay.run Overlay.refreshIfRequired s).trace = [] := by
  cases redraw : (LightingClient.takeRedraw s.client).1 <;>
    simp [Overlay.refreshIfRequired, Overlay.run, run, OverlayRequest.serve, ClientRequest.serve,
      redraw, popups, effects, Exchange.effect?, HostCommand.isPopup]

/-- The popups of a record whose first exchange shows one. -/
theorem popups_cons (command : HostCommand) (popup : command.isPopup = true)
    (trace : List (Exchange Overlay)) :
    popups (⟨.host (.command command), ()⟩ :: trace) = command :: popups trace := by
  simp [popups, effects, Exchange.effect?, popup]

theorem run_addElements (elements : List PopupElement) (s : Situation H C K) :
    (Overlay.run (Overlay.addElements elements) s).result = .ok () ∧
      (Overlay.run (Overlay.addElements elements) s).state.memory = s.memory ∧
      popups (Overlay.run (Overlay.addElements elements) s).trace =
        elements.map .addPopupListElement := by
  induction elements generalizing s with
  | nil => exact ⟨rfl, rfl, rfl⟩
  | cons e rest ih =>
    obtain ⟨result, memory, shown⟩ :=
      ih { s with host := Host.obey (.addPopupListElement e) s.host }
    refine ⟨result, memory, (popups_cons _ rfl _).trans ?_⟩
    rw [List.map_cons]
    exact congrArg _ shown

theorem run_perform_opening (geo : Bool) (submenu : Submenu) (area : Rect) (s : Situation H C K) :
    (Overlay.run (Overlay.perform geo submenu.opening "" area) s).result = .ok () ∧
      (Overlay.run (Overlay.perform geo submenu.opening "" area) s).state.memory = s.memory ∧
      popups (Overlay.run (Overlay.perform geo submenu.opening "" area) s).trace =
        submenu.popup area s.client := by
  obtain ⟨result, memory, shown⟩ := run_addElements (submenu.entries s.client)
    { s with host := Host.obey (.openPopupList area submenu.title 1) s.host }
  have opened := (popups_cons (.openPopupList area submenu.title 1) rfl _).trans
    (congrArg _ shown)
  rw [Submenu.popup]
  cases submenu with
  | profiles =>
    rw [Submenu.entries_profiles] at result memory opened ⊢
    exact ⟨result, memory, opened⟩
  | presets =>
    rw [Submenu.entries_presets] at result memory opened ⊢
    exact ⟨result, memory, opened⟩
  | views =>
    rw [Submenu.entries_views] at result memory opened ⊢
    exact ⟨result, memory, opened⟩

/-- Calling the function of a submenu shows the submenu. -/
theorem run_callFunction_opening (geo : Bool) (submenu : Submenu) (area : Rect)
    (s : Situation H C K) :
    (Overlay.run (Overlay.callFunction geo submenu.opening "" area) s).result = .ok () ∧
      (Overlay.run (Overlay.callFunction geo submenu.opening "" area) s).state.memory = s.memory ∧
      popups (Overlay.run (Overlay.callFunction geo submenu.opening "" area) s).trace =
        submenu.popup area s.client := by
  obtain ⟨result, memory, shown⟩ := run_perform_opening geo submenu area s
  obtain ⟨refreshed, kept, -, quiet⟩ := run_refreshIfRequired
    (Overlay.run (Overlay.perform geo submenu.opening "" area) s).state
  simp only [Overlay.run] at result memory shown refreshed kept quiet
  simp only [Overlay.callFunction, submenu.deferred_opening, bind_eq, Overlay.run,
    run_bind_of_ok result]
  refine ⟨refreshed, kept.trans memory, ?_⟩
  rw [popups_append, shown, quiet, List.append_nil]

/-- The pass of an overlay that keeps nothing waiting opens nothing, any other opens what waits. -/
theorem run_flush {waiting : Option (Submenu × Rect)}
    (pending : s.memory.pending.entry =
      waiting.map fun (submenu, area) => ⟨submenu.opening, area⟩) :
    (Overlay.run (Overlay.flush geo) s).result = .ok () ∧
      (Overlay.run (Overlay.flush geo) s).state.memory.pending = .empty ∧
      popups (Overlay.run (Overlay.flush geo) s).trace =
        (waiting.map fun (submenu, area) => submenu.popup area s.client).getD [] := by
  obtain ⟨⟨anchor, ⟨entry⟩⟩, host, client, canvas⟩ := s
  cases pending
  cases waiting with
  | none => exact ⟨rfl, rfl, rfl⟩
  | some waiting =>
    obtain ⟨result, memory, shown⟩ := run_callFunction_opening geo waiting.1 waiting.2
      (⟨⟨anchor, .empty⟩, host, client, canvas⟩ : Situation H C K)
    exact ⟨result, congrArg Memory.pending memory, shown⟩

/-- A decoration pass that is completed shows exactly the submenu that waits, from what the client
shows after its redraw flag is read, and one that stops leaves the slot alone. -/
theorem run_drawDecorations (geo : Bool) {waiting : Option (Submenu × Rect)}
    (pending : s.memory.pending.entry =
      waiting.map fun (submenu, area) => ⟨submenu.opening, area⟩) :
    ((Overlay.run (Overlay.drawDecorations geo) s).result = .ok () ∧
      (Overlay.run (Overlay.drawDecorations geo) s).state.memory.pending = .empty ∧
      popups (Overlay.run (Overlay.drawDecorations geo) s).trace = (waiting.map
        fun (submenu, area) => submenu.popup area (LightingClient.takeRedraw s.client).2).getD []) ∨
    ((Overlay.run (Overlay.drawDecorations geo) s).result ≠ .ok () ∧
      (Overlay.run (Overlay.drawDecorations geo) s).state.memory.pending = s.memory.pending) := by
  obtain ⟨memory, client, quiet⟩ := run_drawBadge s
  simp only [Overlay.run, Overlay.drawDecorations, bind_eq] at memory client quiet ⊢
  cases drawn : (run OverlayRequest.serve Overlay.drawBadge s).result with
  | error cause =>
    right
    simp only [run_bind_of_error drawn]
    exact ⟨by simp, congrArg Memory.pending memory⟩
  | ok =>
    left
    obtain ⟨refreshed, kept, redrawn, silent⟩ := run_refreshIfRequired
      (run OverlayRequest.serve Overlay.drawBadge s).state
    simp only [Overlay.run] at refreshed kept redrawn silent
    simp only [run_bind_of_ok drawn, run_bind_of_ok refreshed, popups_append, quiet, silent,
      List.nil_append]
    rw [← client, ← redrawn]
    rw [← memory, ← kept] at pending
    exact run_flush pending

/-- An event that picks a submenu puts it into the slot. -/
theorem pending_of_picked {call : Event} {submenu : Submenu} {area : Rect}
    (picked : call.picked? = some (submenu, area)) :
    (Overlay.run (call.callback geo) s).state.memory.pending = ⟨some ⟨submenu.opening, area⟩⟩ := by
  rw [Event.picked?, Option.bind_eq_some_iff] at picked
  obtain ⟨⟨f, place⟩, called, found⟩ := picked
  rw [Option.map_eq_some_iff] at found
  obtain ⟨submenu, picked, same⟩ := found
  cases same
  obtain ⟨text, ran⟩ := Event.callback_of_called geo called
  rw [ran]
  exact run_callFunction_picked picked text area

/-- A step keeps the slot in line with what is awaited. -/
theorem pending_step {past : List (Passage H C K)} (step : Step H C K)
    (pending : s.memory.pending.entry =
      (awaited past).map fun (submenu, area) => ⟨submenu.opening, area⟩) :
    (step.run geo s).state.memory.pending.entry = (awaited (.take geo step s :: past)).map
      fun (submenu, area) => ⟨submenu.opening, area⟩ := by
  rw [awaited_cons]
  cases step with
  | event call =>
    by_cases pass : call = .refresh .afterLists
    · subst pass
      obtain ⟨completed, emptied, -⟩ | ⟨stopped, kept⟩ := run_drawDecorations geo pending
      · rw [if_pos (Passage.decorated_iff.mpr ⟨rfl, completed⟩)]
        exact congrArg DeferredSlot.entry emptied
      · rw [if_neg fun decorated => stopped (Passage.decorated_iff.mp decorated).2]
        exact (congrArg DeferredSlot.entry kept).trans pending
    · rw [if_neg fun decorated => pass (Step.event.inj (Passage.decorated_iff.mp decorated).1)]
      cases picked : call.picked? with
      | none =>
        simp only [Passage.picked?, Passage.take, picked, Option.none_or]
        exact (congrArg DeferredSlot.entry (pending_of_unpicked picked pass)).trans pending
      | some waiting =>
        simp only [Passage.picked?, Passage.take, picked, Option.some_or]
        exact congrArg DeferredSlot.entry (pending_of_picked picked)
  | _ => exact pending

/-- The slot holds what was picked last since the last completed decoration pass. -/
theorem pending_eq_awaited {past : List (Passage H C K)} (history : History geo AnyStep past s) :
    s.memory.pending.entry =
      (awaited past).map fun (submenu, area) => ⟨submenu.opening, area⟩ := by
  induction history with
  | created fresh => rw [fresh]; rfl
  | next _ step _ ih => exact pending_step step ih

theorem opens_popup_iff {waiting : Option (Submenu × Rect)} {client : C} :
    (∃ area title columns, .openPopupList area title columns ∈
      (waiting.map fun (submenu, area) => submenu.popup area client).getD []) ↔ waiting.isSome := by
  cases waiting with
  | none => simp
  | some waiting => simp [Submenu.popup]

/-- An event that picks a submenu carries no function out. -/
theorem idle_of_picked {call : Event} (picked : call.picked?.isSome) (f : TagFunction) :
    ¬ call.Performs (fun _ => True) f := by
  have immediate : ¬ (f.deferred = none ∧ ∃ area, call.called? = some (f, area)) := by
    rintro ⟨immediate, area, called⟩
    rw [TagFunction.deferred_eq, Option.map_eq_none_iff] at immediate
    simp [Event.picked?, called, immediate] at picked
  cases call with
  | callFunction => exact immediate
  | callId => exact immediate
  | _ => simp [Event.picked?, Event.called?] at picked

/-- At any time the slot holds nothing or a submenu to open, and picking a submenu shows no popup.
A decoration pass that is completed opens a list exactly if a submenu was picked since the last
one that was; it then shows the submenu picked last, on the area it was picked on and from what
the client shows now, and nothing else. It leaves the slot empty. -/
theorem submenu_opens_once {past : List (Passage H C K)} (history : History geo AnyStep past s) :
    (s.memory.pending.entry = none ∨
      ∃ submenu area, s.memory.pending.entry = some ⟨Submenu.opening submenu, area⟩) ∧
    (∀ call, call.picked?.isSome →
      popups (Passage.take geo (.event call) s).outcome.trace = []) ∧
    ∀ pass, pass = Passage.take geo (.event (.refresh .afterLists)) s → pass.decorated →
      ((∃ area title columns, .openPopupList area title columns ∈ popups pass.outcome.trace) ↔
        ∃ p ∈ sinceDecorated past, p.picked?.isSome) ∧
      popups pass.outcome.trace = (match awaited past with
        | none => []
        | some (submenu, area) => submenu.popup area (LightingClient.takeRedraw s.client).2) ∧
      pass.outcome.state.memory.pending = .empty := by
  have pending := pending_eq_awaited history
  refine ⟨?_, ?_, ?_⟩
  · cases waits : awaited past with
    | none => exact .inl (by rw [pending, waits]; rfl)
    | some waiting => exact .inr ⟨waiting.1, waiting.2, by rw [pending, waits]; rfl⟩
  · exact fun call picked => popups_of_idle (idle_of_picked picked)
  · rintro pass rfl decorated
    obtain ⟨-, completed⟩ := Passage.decorated_iff.mp decorated
    obtain ⟨-, emptied, shown⟩ | ⟨stopped, -⟩ := run_drawDecorations geo pending
    · have popup : popups (Passage.take geo (.event (.refresh .afterLists)) s).outcome.trace = _ :=
        shown
      refine ⟨?_, ?_, emptied⟩
      · rw [popup, opens_popup_iff, awaited_isSome_iff]
      · rw [popup]
        cases awaited past <;> rfl
    · exact absurd completed stopped

/-- Profiles are picked, then views by their id, and views are opened. -/
theorem submenu_opens_once_views :
    let first : Step SceneHost SceneClient SceneCanvas :=
      .event (.callFunction (.openSelectProfile .request) "" ⟨0, 0, 60, 20⟩)
    let second : Step SceneHost SceneClient SceneCanvas := .event (.callId 9 "" ⟨5, 5, 65, 25⟩)
    let s := (second.run false (first.run false Scene.controlled).state).state
    let pass := Passage.take false (.event (.refresh .afterLists)) s
    pass.decorated ∧ popups pass.outcome.trace = [.openPopupList ⟨5, 5, 65, 25⟩ "Select view" 1,
      .addPopupListElement ⟨"North", .submitSelectView 0, .unchecked, false⟩,
      .addPopupListElement ⟨"South", .submitSelectView 1, .checked, false⟩] := by
  intro first second s pass
  have created : History false AnyStep [] Scene.controlled := .created rfl
  have history := (created.next first trivial).next second trivial
  have decorated : pass.decorated := by decide +kernel
  refine ⟨decorated, ?_⟩
  rw [((submenu_opens_once history).2.2 pass rfl decorated).2.1]
  decide +kernel

end

end RadarOverlay
