import RadarOverlay.Proofs.CallChecks
import RadarOverlay.Proofs.Restoring
import RadarOverlay.Proofs.SteadyEvents

/-!
Sessions across a restart. A submitted target is saved as it is set, and a drag of the
badge saves the anchor once the badge is released; so the store is in step with the
session, and a new overlay that loads it goes on where the old one has stopped. Main
statements: `session_run` says that a run keeps the store in step, and
`restart_restores_session` what this means for a restart, and which settings are saved
on the way.
-/
namespace RadarOverlay

open Program

def SettingKey.saving (setting : SettingKey) (value : String) : HostCommand :=
  .saveSetting setting.key setting.description value

/-- The settings that an event saves when it leaves the badge at an anchor. -/
def Event.saved (call : Event) (anchor : MenuAnchor) : List HostCommand :=
  match call.submitted?, call.dragged? with
  | some text, _ => [SettingKey.aerodrome.saving (Text.trim text)]
  | none, some true => [SettingKey.menuX.saving (coordinateText anchor.x),
    SettingKey.menuY.saving (coordinateText anchor.y)]
  | none, _ => []

section

variable {H C K : Type} [Host H] [LightingClient C] [Canvas K] {geo : Bool}

/-! ## What a store describes after a save -/

omit [LightingClient C] [Canvas K] in
theorem ofStore_saving_aerodrome [LawfulSettings H] (h : H) (icao : String) :
    ScreenSettings.ofStore (Host.loadSetting (Host.obey (SettingKey.aerodrome.saving icao) h)) =
      { ScreenSettings.ofStore (Host.loadSetting h) with
        aerodrome := if icao = "" then none else some icao } := by
  have kept : Host.loadSetting (Host.obey (SettingKey.aerodrome.saving icao) h)
      SettingKey.aerodrome.key = some icao := LawfulSettings.loadSetting_save _ _ _ _
  have others (key : String) (other : key ≠ SettingKey.aerodrome.key) :
      Host.loadSetting (Host.obey (SettingKey.aerodrome.saving icao) h) key =
        Host.loadSetting h key := LawfulSettings.loadSetting_save_of_ne _ _ _ other
  simp only [ScreenSettings.ofStore, SettingKey.coordinate?, kept]
  rw [others _ (by decide), others _ (by decide)]
  by_cases empty : icao = "" <;> simp [empty]

omit [LightingClient C] [Canvas K] in
theorem ofStore_saving_anchor [LawfulSettings H] (h : H) (anchor : MenuAnchor) :
    ScreenSettings.ofStore (Host.loadSetting
        (Host.obey (SettingKey.menuY.saving (coordinateText anchor.y))
          (Host.obey (SettingKey.menuX.saving (coordinateText anchor.x)) h))) =
      { ScreenSettings.ofStore (Host.loadSetting h) with
        menuX := some anchor.x
        menuY := some anchor.y } := by
  let first := Host.obey (SettingKey.menuX.saving (coordinateText anchor.x)) h
  let both := Host.obey (SettingKey.menuY.saving (coordinateText anchor.y)) first
  have target : Host.loadSetting both SettingKey.aerodrome.key =
      Host.loadSetting h SettingKey.aerodrome.key :=
    (LawfulSettings.loadSetting_save_of_ne first _ _ (by decide)).trans
      (LawfulSettings.loadSetting_save_of_ne h _ _ (by decide))
  have menuX : Host.loadSetting both SettingKey.menuX.key = some (coordinateText anchor.x) :=
    (LawfulSettings.loadSetting_save_of_ne first _ _ (by decide)).trans
      (LawfulSettings.loadSetting_save h _ _ _)
  have menuY : Host.loadSetting both SettingKey.menuY.key = some (coordinateText anchor.y) :=
    LawfulSettings.loadSetting_save first _ _ _
  simp only [both, first] at target menuX menuY
  simp only [ScreenSettings.ofStore, SettingKey.coordinate?, target, menuX, menuY,
    Option.bind_some, readCoordinate_coordinateText]

/-! ## Events that change the session -/

theorem run_submitAerodrome (text : String) (s : Situation H C K) :
    let icao := Text.trim text
    let target := if icao = "" then none else some icao
    let ran := Overlay.run (Overlay.submitAerodrome text) s
    ran.result = .ok () ∧
    ran.state = { s with
      host := Host.obey (SettingKey.aerodrome.saving icao) s.host
      client := LightingClient.obey (.setAerodrome target) s.client } ∧
    saves ran.trace = [SettingKey.aerodrome.saving icao] := by
  intro icao target ran
  simp only [ran, target, icao, Overlay.submitAerodrome]
  by_cases empty : Text.trim text = ""
  · simp only [if_pos empty]
    exact ⟨rfl, rfl, rfl⟩
  · simp only [if_neg empty]
    exact ⟨rfl, rfl, rfl⟩

/-- A submitted target is set and saved, and nothing else is saved. -/
theorem submit_run [LawfulSettings H] [LawfulTarget C] [LawfulRedraw C] (geo : Bool) {call : Event}
    {text : String} (submitted : call.submitted? = some text) (s : Situation H C K) :
    let icao := Text.trim text
    let ran := Overlay.run (call.callback geo) s
    ran.result = .ok () ∧ ran.state.memory = s.memory ∧
    LightingClient.aerodrome ran.state.client = (if icao = "" then none else some icao) ∧
    ScreenSettings.ofStore (Host.loadSetting ran.state.host) =
      { ScreenSettings.ofStore (Host.loadSetting s.host) with
        aerodrome := if icao = "" then none else some icao } ∧
    saves ran.trace = [SettingKey.aerodrome.saving icao] := by
  intro icao ran
  let target := if icao = "" then none else some icao
  let now : Situation H C K := { s with
    host := Host.obey (SettingKey.aerodrome.saving icao) s.host
    client := LightingClient.obey (.setAerodrome target) s.client }
  obtain ⟨area, called⟩ := Event.callback_of_submitted geo submitted
  obtain ⟨result, state, saved⟩ := run_submitAerodrome text s
  obtain ⟨refreshed, memory, -, -⟩ := run_refreshIfRequired now
  have redraws := refreshIfRequired_onlyRedraws now
  have split : ran = { Overlay.run Overlay.refreshIfRequired now with
      trace := (Overlay.run (Overlay.submitAerodrome text) s).trace ++
        (Overlay.run Overlay.refreshIfRequired now).trace } := by
    have state : (Overlay.run (Overlay.submitAerodrome text) s).state = now := state
    rw [← state]
    simp only [ran, called]
    exact run_bind_of_ok result _
  have targeted : LightingClient.aerodrome ran.state.client = target := by
    rw [split]
    exact (redraws.reads LawfulRedraw.aerodrome_takeRedraw).trans
      (LawfulTarget.aerodrome_setAerodrome s.client target)
  have quiet : saves (Overlay.run Overlay.refreshIfRequired now).trace = [] := by
    rw [saves]
    rcases redraws.effects with silent | shown
    · rw [silent]
      rfl
    · rw [shown]
      rfl
  refine ⟨split ▸ refreshed, split ▸ memory, targeted, ?_, ?_⟩
  · rw [split, redraws.loadSetting]
    exact ofStore_saving_aerodrome s.host icao
  · rw [split, saves_append, saved, quiet, List.append_nil]

/-- A drag leaves the badge at a new anchor, and saves it if the badge is released. -/
theorem drag_run (point : Point) (released : Bool) (s : Situation H C K)
    (completed : (Overlay.run (Overlay.move .menu point released) s).result = .ok ()) :
    ∃ anchor : MenuAnchor,
      let first := SettingKey.menuX.saving (coordinateText anchor.x)
      let second := SettingKey.menuY.saving (coordinateText anchor.y)
      let ran := Overlay.run (Overlay.move .menu point released) s
      ran.state = { s with
        memory := { s.memory with anchor := anchor }
        host := if released then Host.obey second (Host.obey first s.host) else s.host } ∧
      saves ran.trace = if released then [first, second] else [] := by
  cases dragged : MenuAnchor.ofDrag (Host.radarArea s.host) point with
  | error cause =>
    simp [Overlay.move, Overlay.run, run, OverlayRequest.serve, HostRequest.serve, dragged,
      Program.ofExcept, Program.bind] at completed
  | ok anchor =>
    refine ⟨anchor, ?_⟩
    simp only [Overlay.move, Overlay.run, Overlay.askHost, request, bind_eq, lift_eq, ask_bind,
      done_bind, run, OverlayRequest.serve, HostRequest.serve, dragged, Program.ofExcept]
    cases released <;> exact ⟨rfl, rfl⟩

/-! ## The store in step with the session -/

omit [Host H] [Canvas K] in
theorem aerodrome_retarget [LawfulTarget C] (settings : ScreenSettings) (client : C) :
    LightingClient.aerodrome (settings.retarget client) =
      settings.aerodrome.or (LightingClient.aerodrome client) := by
  unfold ScreenSettings.retarget
  cases settings.aerodrome with
  | none => rfl
  | some icao => exact LawfulTarget.aerodrome_setAerodrome client (some icao)

/-- Applying the same coordinates twice is applying them once. -/
theorem applyAnchor_applyAnchor (settings : ScreenSettings) (anchor : MenuAnchor) :
    settings.applyAnchor (settings.applyAnchor anchor) = settings.applyAnchor anchor := by
  obtain ⟨aerodrome, menuX, menuY⟩ := settings
  cases menuX <;> cases menuY <;> rfl

/-- The target is the one that the store describes, and no submit waits. -/
structure Situation.InStep (s : Situation H C K) : Prop where
  slot : s.memory.pending.NoSubmit
  target : LightingClient.aerodrome s.client =
    (ScreenSettings.ofStore (Host.loadSetting s.host)).aerodrome

/-- The badge is where the store would put that of a new overlay. -/
def Situation.Anchored (s : Situation H C K) : Prop :=
  s.memory.anchor =
    (ScreenSettings.ofStore (Host.loadSetting s.host)).applyAnchor Memory.initial.anchor

/-- What the run of an event leaves: the target is in step, the anchor is so unless the badge is
in the middle of a drag, and what is saved is what the event has to save. -/
structure Event.Continues (call : Event) (s : Situation H C K)
    (ran : Outcome Overlay (Situation H C K) Unit) : Prop where
  inStep : ran.state.InStep
  anchored : call.dragged? = some true ∨ call.dragged? = none ∧ s.Anchored → ran.state.Anchored
  saved : saves ran.trace = call.saved ran.state.memory.anchor

theorem submit_continues [LawfulSettings H] [LawfulTarget C] [LawfulRedraw C] {call : Event}
    {text : String} (submitted : call.submitted? = some text) {s : Situation H C K}
    (inStep : s.InStep) : call.Continues s (Overlay.run (call.callback geo) s) := by
  obtain ⟨-, memory, target, stored, saved⟩ := submit_run geo submitted s
  refine ⟨⟨memory ▸ inStep.slot, by rw [target, stored]⟩, ?_, ?_⟩
  · rintro (released | ⟨-, anchored⟩)
    · obtain ⟨point, rfl⟩ := Event.eq_move_of_dragged released
      cases submitted
    · rw [Situation.Anchored, memory, stored]
      exact anchored
  · rw [saved, Event.saved, submitted]

theorem drag_continues [LawfulSettings H] {point : Point} {released : Bool} {s : Situation H C K}
    (inStep : s.InStep)
    (completed : (Overlay.run (Overlay.move .menu point released) s).result = .ok ()) :
    (Event.move .menu point released).Continues s
      (Overlay.run (Overlay.move .menu point released) s) := by
  obtain ⟨anchor, state, saved⟩ := drag_run point released s completed
  cases released with
  | false =>
    refine ⟨⟨?_, ?_⟩, ?_, saved⟩
    · rw [state]
      exact inStep.slot
    · rw [state]
      exact inStep.target
    · rintro (⟨⟨⟩⟩ | ⟨⟨⟩, -⟩)
  | true =>
    have stored := ofStore_saving_anchor s.host anchor
    refine ⟨⟨?_, ?_⟩, fun _ => ?_, ?_⟩
    · rw [state]
      exact inStep.slot
    · rw [state, if_pos rfl, stored]
      exact inStep.target
    · rw [Situation.Anchored, state, if_pos rfl, stored]
      rfl
    · rw [saved, state]
      rfl

theorem saves_contentLoaded (detailed : Bool) (s : Situation H C K) :
    saves (Overlay.run (Overlay.contentLoaded true detailed) s).trace = [] := by
  obtain ⟨-, -, told⟩ := run_contentLoaded detailed s
  rw [saves, told]
  cases (ScreenSettings.ofStore (Host.loadSetting s.host)).aerodrome <;> rfl

theorem load_continues [LawfulTarget C] {s : Situation H C K} (detailed : Bool)
    (inStep : s.InStep) :
    (Event.contentLoaded true detailed).Continues s
      (Overlay.run (Overlay.contentLoaded true detailed) s) := by
  obtain ⟨-, state, -⟩ := run_contentLoaded detailed s
  refine ⟨⟨?_, ?_⟩, ?_, ?_⟩
  · rw [state]
    exact inStep.slot
  · rw [state, aerodrome_retarget, inStep.target, Option.or_self]
  · rintro (⟨⟨⟩⟩ | ⟨-, anchored⟩)
    rw [Situation.Anchored, state, anchored]
    exact applyAnchor_applyAnchor _ _
  · exact saves_contentLoaded detailed s

theorem steady_continues [LawfulSettings H] [LawfulTarget C] [LawfulRedraw C] {call : Event}
    (unsubmitted : call.submitted? = none) (undragged : call.dragged? = none)
    (unloaded : ∀ detailed, call ≠ .contentLoaded true detailed) {s : Situation H C K}
    (inStep : s.InStep) :
    call.Continues s (Overlay.run (call.callback geo) s) := by
  obtain ⟨keeps, saved⟩ := steady_run geo unsubmitted undragged unloaded inStep.slot
  refine ⟨⟨keeps.slot, ?_⟩, ?_, ?_⟩
  · rw [keeps.target, keeps.settings]
    exact inStep.target
  · rw [undragged]
    rintro (⟨⟨⟩⟩ | ⟨-, anchored⟩)
    rw [Situation.Anchored, keeps.anchor, keeps.settings]
    exact anchored
  · rw [saved, Event.saved, unsubmitted, undragged]

/-- An event that is completed leaves a session in step. -/
theorem event_continues [LawfulSettings H] [LawfulTarget C] [LawfulRedraw C] {call : Event}
    {s : Situation H C K} (inStep : s.InStep)
    (completed : (Overlay.run (call.callback geo) s).result = .ok ()) :
    call.Continues s (Overlay.run (call.callback geo) s) := by
  cases submitted : call.submitted? with
  | some text => exact submit_continues submitted inStep
  | none =>
    cases dragged : call.dragged? with
    | some released =>
      obtain ⟨point, rfl⟩ := Event.eq_move_of_dragged dragged
      exact drag_continues inStep completed
    | none =>
      by_cases loaded : ∃ detailed, call = .contentLoaded true detailed
      · obtain ⟨detailed, rfl⟩ := loaded
        exact load_continues detailed inStep
      · exact steady_continues submitted dragged (not_exists.mp loaded) inStep

/-! ## Runs -/

/-- A step that leaves settings and target to the overlay. -/
def Step.LeavesSession : Step H C K → Prop
  | .hostChanges change => ∀ h, Host.loadSetting (change h) = Host.loadSetting h
  | .clientChanges change => ∀ c, LightingClient.aerodrome (change c) = LightingClient.aerodrome c
  | _ => True

def Step.dragged? : Step H C K → Option Bool
  | .event call => call.dragged?
  | _ => none

/-- The last drag of the badge has released it, if there was any. -/
def Released (steps : List (Step H C K)) : Prop :=
  (steps.filterMap Step.dragged?).getLast? ≠ some false

omit [Host H] [LightingClient C] [Canvas K] in
theorem released_cons {step : Step H C K} {rest : List (Step H C K)}
    (released : Released (step :: rest)) : Released rest ∧
      (rest.filterMap Step.dragged? = [] → step.dragged? ≠ some false) := by
  simp only [Released, List.filterMap_cons] at released ⊢
  cases dragged : step.dragged? with
  | none =>
    rw [dragged] at released
    exact ⟨released, by simp⟩
  | some last =>
    rw [dragged] at released
    cases others : rest.filterMap Step.dragged? with
    | nil => simp_all
    | cons next later => simp_all

theorem step_continues [LawfulSettings H] [LawfulTarget C] [LawfulRedraw C] {step : Step H C K}
    (leaves : step.LeavesSession) {s : Situation H C K} (inStep : s.InStep)
    (completed : (step.run geo s).result = .ok ()) :
    (step.run geo s).state.InStep ∧
      (step.dragged? = some true ∨ step.dragged? = none ∧ s.Anchored →
        (step.run geo s).state.Anchored) := by
  cases step with
  | event call =>
    have continued := event_continues inStep completed
    exact ⟨continued.inStep, continued.anchored⟩
  | hostChanges change =>
    have settings : Host.loadSetting (change s.host) = Host.loadSetting s.host := leaves s.host
    refine ⟨⟨inStep.slot, ?_⟩, ?_⟩
    · simp only [Step.run, settings]
      exact inStep.target
    · rintro (⟨⟨⟩⟩ | ⟨-, anchored⟩)
      simp only [Situation.Anchored, Step.run, settings]
      exact anchored
  | clientChanges change =>
    refine ⟨⟨inStep.slot, (leaves s.client).trans inStep.target⟩, ?_⟩
    rintro (⟨⟨⟩⟩ | ⟨-, anchored⟩)
    exact anchored
  | canvasChanges change =>
    refine ⟨⟨inStep.slot, inStep.target⟩, ?_⟩
    rintro (⟨⟨⟩⟩ | ⟨-, anchored⟩)
    exact anchored

/-- A run that is completed has completed its first step and gone on from there. -/
theorem run_of_cons {step : Step H C K} {rest : List (Step H C K)} {s : Situation H C K}
    (completed : (runHistory geo (step :: rest) s).result = .ok ()) :
    (step.run geo s).result = .ok () ∧
      (runHistory geo rest (step.run geo s).state).result = .ok () ∧
      (runHistory geo (step :: rest) s).state =
        (runHistory geo rest (step.run geo s).state).state := by
  simp only [runHistory, Outcome.andThen] at completed ⊢
  cases first : (step.run geo s).result with
  | error cause =>
    rw [first] at completed
    cases completed
  | ok =>
    rw [first] at completed
    exact ⟨rfl, completed, rfl⟩

/-- Steps that leave settings and target to the overlay keep a session in step, and the badge is
where the store puts it once it is released. -/
theorem session_run [LawfulSettings H] [LawfulTarget C] [LawfulRedraw C]
    {steps : List (Step H C K)} (leave : ∀ step ∈ steps, step.LeavesSession)
    {s : Situation H C K} (inStep : s.InStep)
    (completed : (runHistory geo steps s).result = .ok ()) :
    (runHistory geo steps s).state.InStep ∧
      (Released steps → (steps.filterMap Step.dragged? = [] → s.Anchored) →
        (runHistory geo steps s).state.Anchored) := by
  induction steps generalizing s with
  | nil => exact ⟨inStep, fun _ anchored => anchored rfl⟩
  | cons step rest ih =>
    obtain ⟨first, others, final⟩ := run_of_cons completed
    obtain ⟨stepped, anchors⟩ := step_continues (leave step (by simp)) inStep first
    obtain ⟨ended, rests⟩ := ih (fun later member => leave later (by simp [member])) stepped others
    rw [final]
    refine ⟨ended, fun released anchored => ?_⟩
    obtain ⟨later, last⟩ := released_cons released
    -- The last drag decides: the anchor after this step counts only if no drag follows it.
    refine rests later fun undragged => anchors ?_
    cases dragged : step.dragged? with
    | none => exact .inr ⟨rfl, anchored (by rw [List.filterMap_cons_none dragged, undragged])⟩
    | some dropped =>
      cases dropped with
      | true => exact .inl rfl
      | false => exact absurd dragged (last undragged)

/-- A new overlay that loads its content is in step, with the badge where the store puts it. -/
theorem session_begins [LawfulTarget C] {s : Situation H C K} (fresh : s.memory = .initial)
    (detailed : Bool) (untargeted : LightingClient.aerodrome s.client = none) :
    (Overlay.run (Overlay.contentLoaded true detailed) s).result = .ok () ∧
      (Overlay.run (Overlay.contentLoaded true detailed) s).state.host = s.host ∧
      (Overlay.run (Overlay.contentLoaded true detailed) s).state.InStep ∧
      (Overlay.run (Overlay.contentLoaded true detailed) s).state.Anchored := by
  obtain ⟨result, state, -⟩ := run_contentLoaded detailed s
  refine ⟨result, by rw [state], ⟨?_, ?_⟩, ?_⟩
  · rw [state, fresh]
    rintro _ ⟨⟩
  · rw [state, aerodrome_retarget, untargeted, Option.or_none]
  · rw [Situation.Anchored, state, fresh]

/-- A run that is completed has completed each beginning, and gone on from there. -/
theorem run_of_append {before after : List (Step H C K)} {s : Situation H C K}
    (completed : (runHistory geo (before ++ after) s).result = .ok ()) :
    (runHistory geo before s).result = .ok () ∧
      (runHistory geo after (runHistory geo before s).state).result = .ok () := by
  induction before generalizing s with
  | nil => exact ⟨rfl, completed⟩
  | cons step rest ih =>
    obtain ⟨first, others, -⟩ := run_of_cons completed
    simp only [runHistory, Outcome.andThen, first]
    exact ih others

/-- Along a run that begins with loaded content each event saves what it has to, and no more. -/
theorem saves_along [LawfulSettings H] [LawfulTarget C] [LawfulRedraw C]
    {steps : List (Step H C K)} {s : Situation H C K} (fresh : s.memory = .initial)
    (detailed : Bool) (untargeted : LightingClient.aerodrome s.client = none)
    (leave : ∀ step ∈ steps, step.LeavesSession)
    (completed :
      (runHistory geo (.event (.contentLoaded true detailed) :: steps) s).result = .ok ())
    {before after : List (Step H C K)} {call : Event}
    (reached : .event (.contentLoaded true detailed) :: steps = before ++ .event call :: after) :
    let ran := Overlay.run (call.callback geo) (runHistory geo before s).state
    saves ran.trace = call.saved ran.state.memory.anchor := by
  intro ran
  obtain ⟨-, -, began, -⟩ := session_begins fresh detailed untargeted
  obtain ⟨loaded, others, -⟩ := run_of_cons completed
  cases before with
  | nil =>
    cases reached
    exact saves_contentLoaded detailed s
  | cons first rest =>
    cases reached
    obtain ⟨earlier, later⟩ := run_of_append others
    obtain ⟨stepped, -⟩ := run_of_cons later
    obtain ⟨inStep, -⟩ :=
      session_run (fun step member => leave step (by simp [member])) began earlier
    have state : (runHistory geo (.event (.contentLoaded true detailed) :: rest) s).state =
        (runHistory geo rest
          (Step.run geo (.event (.contentLoaded true detailed)) s).state).state := by
      simp only [runHistory, Outcome.andThen, loaded]
    simp only [ran, state]
    exact (event_continues inStep stepped).saved

/-- A run that begins as a new overlay loads its content, in which nobody else sets the target or
saves settings, and which leaves the badge released, can be taken up again: a new overlay that
loads what is stored at the end has the same target and the same anchor. On the way an event
saves the trimmed target if it submits one, the two coordinates of the anchor if it releases the
badge, and nothing otherwise. -/
theorem restart_restores_session [LawfulSettings H] [LawfulTarget C] [LawfulRedraw C] (geo : Bool)
    (detailed detailedAgain : Bool) {steps : List (Step H C K)} {s t : Situation H C K}
    (fresh : s.memory = .initial)
    (untargeted : LightingClient.aerodrome s.client = none)
    (leave : ∀ step ∈ steps, step.LeavesSession)
    (completed :
      (runHistory geo (.event (.contentLoaded true detailed) :: steps) s).result = .ok ())
    (released : Released steps) (restarted : t.memory = .initial)
    (reconnected : LightingClient.aerodrome t.client = none)
    (stored : Host.loadSetting t.host =
      Host.loadSetting
        (runHistory geo (.event (.contentLoaded true detailed) :: steps) s).state.host) :
    let old := (runHistory geo (.event (.contentLoaded true detailed) :: steps) s).state
    let new := Overlay.run (Overlay.contentLoaded true detailedAgain) t
    new.result = .ok () ∧
    LightingClient.aerodrome new.state.client = LightingClient.aerodrome old.client ∧
    new.state.memory.anchor = old.memory.anchor ∧
    ∀ before call after,
      .event (.contentLoaded true detailed) :: steps = before ++ .event call :: after →
      let ran := Overlay.run (call.callback geo) (runHistory geo before s).state
      saves ran.trace = call.saved ran.state.memory.anchor := by
  intro old new
  obtain ⟨-, -, began, placed⟩ := session_begins fresh detailed untargeted
  obtain ⟨result, host, again, anchored⟩ := session_begins restarted detailedAgain reconnected
  obtain ⟨-, others, final⟩ := run_of_cons completed
  obtain ⟨inStep, ended⟩ := session_run leave began others
  have store : Host.loadSetting new.state.host = Host.loadSetting old.host :=
    (congrArg _ host).trans stored
  have oldInStep : old.InStep := by
    simp only [old, final]
    exact inStep
  have oldAnchored : old.Anchored := by
    simp only [old, final]
    exact ended released fun _ => placed
  refine ⟨result, ?_, ?_,
    fun before call after => saves_along fresh detailed untargeted leave completed⟩
  · rw [again.target, oldInStep.target, store]
  · rw [Situation.Anchored] at anchored oldAnchored
    rw [anchored, oldAnchored, store]

end

namespace RestartRun

open Simulation

/-- A surface whose stored target is no UTF-8 and whose stored coordinate is no number. -/
def surface : Situation OctetHost SceneClient SceneCanvas where
  memory := .initial
  host := ⟨Scene.initial.host, [("aerodrome", [0xff]), ("menuX", [49, 50, 120])]⟩
  client := { Scene.controlled.client with aerodrome := none }
  canvas := Scene.initial.canvas

/-- The badge is dragged, a target is submitted in between, and the content is loaded again. -/
def steps : List (Step OctetHost SceneClient SceneCanvas) :=
  [.event (.move .menu ⟨700, 50⟩ false), .event (.callId 3 " EGLL " ⟨0, 0, 60, 20⟩),
    .clientChanges fun c => { c with activity := .observing },
    .event (.move .menu ⟨600, 40⟩ true), .event (.contentLoaded true)]

def ended : Situation OctetHost SceneClient SceneCanvas :=
  (runHistory false (.event (.contentLoaded true) :: steps) surface).state

theorem completed :
    (runHistory false (.event (.contentLoaded true) :: steps) surface).result = .ok () := by
  have ends :
      (runHistory false (.event (.contentLoaded true) :: steps) surface).result.isOk := by
    decide +kernel
  cases result : (runHistory false (.event (.contentLoaded true) :: steps) surface).result with
  | error cause =>
    rw [result] at ends
    cases ends
  | ok => rfl

theorem leave : ∀ step ∈ steps, step.LeavesSession := by
  simp only [steps, List.forall_mem_cons, List.not_mem_nil, false_imp_iff, implies_true, and_true]
  exact ⟨trivial, trivial, fun _ => rfl, trivial, trivial⟩

/-- A new overlay on the same surface, with a client that has no target yet. -/
def again : Situation OctetHost SceneClient SceneCanvas := { surface with host := ended.host }

end RestartRun

theorem restart_restores_session_octets :
    let new := Overlay.run (Overlay.contentLoaded true) RestartRun.again
    new.result = .ok () ∧ LightingClient.aerodrome new.state.client = some "EGLL" ∧
      new.state.memory.anchor = RestartRun.ended.memory.anchor := by
  intro new
  have released : Released RestartRun.steps := by
    rw [Released]
    decide
  have stored : Host.loadSetting RestartRun.again.host = Host.loadSetting RestartRun.ended.host :=
    rfl
  obtain ⟨result, target, anchor, -⟩ := restart_restores_session false true true rfl rfl
    RestartRun.leave
    RestartRun.completed released rfl rfl stored
  have ended : LightingClient.aerodrome RestartRun.ended.client = some "EGLL" := by decide +kernel
  exact ⟨result, target.trans ended, anchor⟩

end RadarOverlay
