import RadarOverlay.Proofs.Control
import RadarOverlay.Proofs.Surroundings

/-!
Calls checked at the time of the call. What a call asks for may have been allowed when
its popup was built, and may not be any more; so the control toggle looks at the host
and the connection again, and a selection at the list. Main statements:
`orders_callFunction` says which command a call gives to the client, and
`calls_are_checked` what this means for every call, and what a call leaves that is
refused.
-/
namespace RadarOverlay

/-- The commands of a record to the client, in order. -/
def orders (trace : List (Exchange Overlay)) : List ClientCommand :=
  (effects trace).filterMap fun
    | .client command => some command
    | _ => none

@[simp] theorem orders_append (first second : List (Exchange Overlay)) :
    orders (first ++ second) = orders first ++ orders second := by
  simp [orders]

theorem mem_orders {command : ClientCommand} {trace : List (Exchange Overlay)} :
    command ∈ orders trace ↔ .client command ∈ effects trace := by
  rw [orders, List.mem_filterMap]
  constructor
  · rintro ⟨effect, member, found⟩
    split at found <;> cases found
    exact member
  · intro member
    exact ⟨_, member, rfl⟩

theorem orders_eq_nil {trace : List (Exchange Overlay)}
    (none : ∀ command, .client command ∉ effects trace) : orders trace = [] :=
  List.eq_nil_iff_forall_not_mem.mpr fun command member => none command (mem_orders.mp member)

section

open Program Simulation

variable {H C K : Type} [Host H] [LightingClient C] [Canvas K] {geo : Bool}

/-! ## What is asked for, and what is allowed -/

/-- Control may be toggled now: by a controller, or by anyone on a local server. -/
def Situation.MayControl (s : Situation H C K) : Prop :=
  Host.isController s.host = true ∨ LightingClient.connectionState s.client = .connectedLocal

instance (s : Situation H C K) : Decidable s.MayControl := inferInstanceAs (Decidable (_ ∨ _))

/-- The command of a selection, if the list has the entry now. -/
def SelectionList.order? (list : SelectionList) (index : Nat) (s : Situation H C K) :
    Option ClientCommand :=
  if index < (list.shown s.client).length then some (list.select index) else none

/-- The command that calling a function now gives to the client. -/
def TagFunction.order? (f : TagFunction) (text : String) (s : Situation H C K) :
    Option ClientCommand :=
  match f with
  | .submitEditAerodrome =>
    some (.setAerodrome (if Text.trim text = "" then Option.none else some (Text.trim text)))
  | .toggleControlling =>
    if s.MayControl then some (.setActivity (LightingClient.activity s.client).toggled)
    else Option.none
  | .submitSelectProfile index => SelectionList.profile.order? index s
  | .submitSelectPreset index => SelectionList.preset.order? index s
  | .submitSelectView index => SelectionList.view.order? index s
  | _ => Option.none

/-- What a function asks for is not allowed now, or not in the list. -/
def TagFunction.Refused (s : Situation H C K) : TagFunction → Prop
  | .toggleControlling => ¬ s.MayControl
  | .submitSelectProfile index => (LightingClient.profiles s.client).length ≤ index
  | .submitSelectPreset index => (LightingClient.presets s.client).length ≤ index
  | .submitSelectView index => (LightingClient.views s.client).length ≤ index
  | _ => False

/-- The events that call a function or an id. -/
def Event.IsCall : Event → Prop
  | .callFunction .. | .callId .. => True
  | _ => False

/-- A call that has nothing to do now: its id stands for no function, or its function picks a
submenu, or it is refused. -/
def Event.Barren (s : Situation H C K) (call : Event) : Prop :=
  call.called? = none ∨
    ∃ f area, call.called? = some (f, area) ∧ (f.picked?.isSome ∨ f.Refused s)

/-! ## The one command of a call -/

theorem run_canControl (s : Situation H C K) : ∃ allowed trace, (allowed = true ↔ s.MayControl) ∧
    effects trace = [] ∧
    run OverlayRequest.serve Overlay.canControl s = ⟨.ok allowed, s, trace⟩ := by
  cases controller : Host.isController s.host with
  | true =>
    refine ⟨true, [⟨.host .isController, true⟩], ?_, rfl, ?_⟩
    · simp [Situation.MayControl, controller]
    · simp [Overlay.canControl, run, OverlayRequest.serve, HostRequest.serve, controller]
  | false =>
    refine ⟨LightingClient.connectionState s.client = .connectedLocal,
      [⟨.host .isController, false⟩,
        ⟨.client .connectionState, LightingClient.connectionState s.client⟩], ?_, rfl, ?_⟩
    · simp [Situation.MayControl, controller]
    · simp [Overlay.canControl, run, OverlayRequest.serve, HostRequest.serve, ClientRequest.serve,
        controller]
      rfl

theorem orders_toggleControlling (text : String) (s : Situation H C K) :
    orders (Overlay.run Overlay.toggleControlling s).trace =
      (TagFunction.order? .toggleControlling text s).toList := by
  obtain ⟨allowed, trace, permitted, quiet, asked⟩ := run_canControl s
  have silent : orders trace = [] := by rw [orders, quiet]; rfl
  simp only [Overlay.toggleControlling, bind_eq, Overlay.run, run_bind, asked, Outcome.andThen]
  rw [orders_append, silent, TagFunction.order?]
  cases allowed with
  | true =>
    rw [if_pos (permitted.mp rfl)]
    rfl
  | false =>
    rw [if_neg fun may => absurd (permitted.mpr may) (by decide)]
    rfl

theorem orders_select (list : SelectionList) (index : Nat) (s : Situation H C K) :
    orders (Overlay.run (Overlay.select list index) s).trace = (list.order? index s).toList := by
  rw [orders, (run_select list index s).2, SelectionList.order?]
  split <;> rfl

theorem orders_submitAerodrome (text : String) (s : Situation H C K) :
    orders (Overlay.run (Overlay.submitAerodrome text) s).trace =
      (TagFunction.order? .submitEditAerodrome text s).toList := by
  simp only [Overlay.submitAerodrome, TagFunction.order?]
  by_cases empty : Text.trim text = ""
  · simp only [if_pos empty]
    rfl
  · simp only [if_neg empty]
    rfl

/-- Carrying out a function gives the client nothing that is not in the function's scope. -/
theorem orders_perform_eq_nil {f : TagFunction} (silent : ∀ command, ¬ f.MayTellClient command)
    (text : String) (area : Rect) (s : Situation H C K) :
    orders (Overlay.run (Overlay.perform geo f text area) s).trace = [] := by
  have kept : (f.scope (fun _ => True) geo).KeptBy (OverlayRequest.serve (H := H) (C := C) (K := K))
      (fun _ => True) (fun _ => True) := by
    intro request _ _ _ _
    refine ⟨?_, trivial⟩
    cases request with
    | client request => cases request <;> trivial
    | _ => trivial
  have abides : Abides (f.scope (fun _ => True) geo) (fun _ => True)
      (Overlay.perform geo f text area) := perform_abides text area
  obtain ⟨within, -⟩ := abides.run kept (s := s) trivial fun _ _ => trivial
  exact orders_eq_nil fun command member => silent command (within _ (client_mem_effects.mp member))

theorem orders_perform (f : TagFunction) (text : String) (area : Rect) (s : Situation H C K) :
    orders (Overlay.run (Overlay.perform geo f text area) s).trace = (f.order? text s).toList := by
  cases f with
  | submitEditAerodrome => exact orders_submitAerodrome text s
  | toggleControlling => exact orders_toggleControlling text s
  | submitSelectProfile index => exact orders_select .profile index s
  | submitSelectPreset index => exact orders_select .preset index s
  | submitSelectView index => exact orders_select .view index s
  | _ =>
    refine orders_perform_eq_nil (fun command => ?_) text area s
    cases command <;> simp [TagFunction.MayTellClient]

/-- Every function can be carried out to its end. -/
theorem perform_total (geo : Bool) (f : TagFunction) (text : String) (area : Rect) :
    Total (Overlay.perform geo f text area) := by
  have filled (elements : List PopupElement) : Total (Overlay.addElements elements) :=
    total_each fun _ _ => trivial
  have allowed : Total Overlay.canControl := fun controller => by cases controller <;> simp
  have selected (list : SelectionList) (index : Nat) : Total (Overlay.select list index) := by
    cases list <;> intro entries <;> simp only [done_bind] <;> split <;> exact fun _ => trivial
  cases f with
  | none => exact trivial
  | openMenu =>
    refine allowed.bind fun _ activity => fun _ => (filled _).bind fun _ presets => ?_
    exact (filled _).bind fun _ => filled _
  | openEditAerodrome => exact fun _ _ => trivial
  | submitEditAerodrome =>
    simp only [Overlay.perform, Overlay.submitAerodrome]
    split <;> exact fun _ _ _ => trivial
  | toggleControlling =>
    refine allowed.bind fun permitted => ?_
    split
    · exact fun _ _ _ => trivial
    · exact fun _ => trivial
  | openSelectProfile step => exact fun _ _ _ _ => filled _
  | openSelectPreset step => exact fun _ _ => filled _
  | openSelectView step => exact fun _ _ _ => filled _
  | submitSelectProfile index => exact selected .profile index
  | submitSelectPreset index => exact selected .preset index
  | submitSelectView index => exact selected .view index

/-! ## Calls with nothing to do -/

/-- A run that ends, and leaves host and client as they are. -/
structure OnlyAsks (ran : Outcome Overlay (Situation H C K) Unit) (s : Situation H C K) : Prop where
  result : ran.result = .ok ()
  host : ran.state.host = s.host
  client : ran.state.client = s.client
  effects : effects ran.trace = []

theorem park_onlyAsks (submenu : TagFunction) (area : Rect) (s : Situation H C K) :
    OnlyAsks (Overlay.run (Overlay.park submenu area) s) s := by
  simp only [Overlay.park, DeferredSlot.defer]
  cases waiting : s.memory.pending.entry <;>
    constructor <;> simp [Overlay.run, run, OverlayRequest.serve, waiting, effects,
      Exchange.effect?]

theorem toggleControlling_onlyAsks {s : Situation H C K} (refused : ¬ s.MayControl) :
    OnlyAsks (Overlay.run Overlay.toggleControlling s) s := by
  obtain ⟨allowed, trace, permitted, quiet, asked⟩ := run_canControl s
  simp only [Overlay.toggleControlling, bind_eq, Overlay.run, run_bind, asked, Outcome.andThen]
  cases allowed with
  | true => exact absurd (permitted.mp rfl) refused
  | false =>
    refine ⟨rfl, rfl, rfl, ?_⟩
    rw [effects_append, quiet]
    rfl

theorem select_onlyAsks (list : SelectionList) {index : Nat} {s : Situation H C K}
    (absent : (list.shown s.client).length ≤ index) :
    OnlyAsks (Overlay.run (Overlay.select list index) s) s := by
  obtain ⟨x, question, asked⟩ := run_list_request list s
  have listed : ¬ index < (list.shown s.client).length := Nat.not_lt.mpr absent
  simp only [Overlay.select, bind_eq, Overlay.run, run_bind, asked, Outcome.andThen, if_neg listed]
  refine ⟨rfl, rfl, rfl, ?_⟩
  rw [effects_append, effects, List.filterMap_cons_none question]
  rfl

/-- What a refused function does besides the redraw check is only asking. -/
theorem perform_onlyAsks {f : TagFunction} {s : Situation H C K} (refused : f.Refused s)
    (text : String) (area : Rect) :
    OnlyAsks (Overlay.run (Overlay.perform geo f text area) s) s := by
  cases f with
  | toggleControlling => exact toggleControlling_onlyAsks refused
  | submitSelectProfile index => exact select_onlyAsks .profile refused
  | submitSelectPreset index => exact select_onlyAsks .preset refused
  | submitSelectView index => exact select_onlyAsks .view refused
  | _ => exact refused.elim

/-- A run that does nothing but read the redraw flag and pass it on. -/
structure OnlyRedraws (ran : Outcome Overlay (Situation H C K) Unit) (s : Situation H C K) :
    Prop where
  host : ran.state.host = s.host ∨ ran.state.host = Host.obey .refreshMapContent s.host
  client : ran.state.client = s.client ∨ ran.state.client = (LightingClient.takeRedraw s.client).2
  effects : effects ran.trace = [] ∨ effects ran.trace = [.host .refreshMapContent]

omit [Canvas K] in
/-- Passing the redraw flag on changes no setting. -/
theorem OnlyRedraws.loadSetting [LawfulSettings H] {s : Situation H C K}
    {ran : Outcome Overlay (Situation H C K) Unit} (redraws : OnlyRedraws ran s) :
    Host.loadSetting ran.state.host = Host.loadSetting s.host := by
  rcases redraws.host with same | redrawn
  · rw [same]
  · rw [redrawn]
    exact LawfulSettings.loadSetting_obey _ _ (by simp)

omit [Canvas K] in
/-- What is read of a client stays as it is, if lowering the redraw flag does not change it. -/
theorem OnlyRedraws.reads {α : Type} {s : Situation H C K}
    {ran : Outcome Overlay (Situation H C K) Unit} (redraws : OnlyRedraws ran s) {read : C → α}
    (kept : ∀ c, read (LightingClient.takeRedraw c).2 = read c) :
    read ran.state.client = read s.client := by
  rcases redraws.client with same | lowered
  · rw [same]
  · rw [lowered, kept]

theorem refreshIfRequired_onlyRedraws (s : Situation H C K) :
    OnlyRedraws (Overlay.run Overlay.refreshIfRequired s) s := by
  cases redraw : (LightingClient.takeRedraw s.client).1 <;>
    constructor <;> simp [Overlay.refreshIfRequired, Overlay.run, run, OverlayRequest.serve,
      ClientRequest.serve, HostRequest.serve, redraw, effects, List.filterMap_cons,
      Exchange.effect?]

theorem OnlyAsks.then_redraws {p : Callback Unit} {s : Situation H C K}
    (asks : OnlyAsks (Overlay.run p s) s) :
    OnlyRedraws (Overlay.run (p.bind fun _ => Overlay.refreshIfRequired) s) s := by
  obtain ⟨result, host, client, quiet⟩ := asks
  obtain ⟨host', client', shown⟩ := refreshIfRequired_onlyRedraws (Overlay.run p s).state
  rw [host] at host'
  rw [client] at client'
  simp only [Overlay.run] at result quiet host' client' shown ⊢
  constructor <;> simp only [run_bind_of_ok result, effects_append, quiet, List.nil_append] <;>
    assumption

theorem callFunction_onlyRedraws {f : TagFunction} {s : Situation H C K}
    (barren : f.picked?.isSome ∨ f.Refused s) (text : String) (area : Rect) :
    OnlyRedraws (Overlay.run (Overlay.callFunction geo f text area) s) s := by
  simp only [Overlay.callFunction, TagFunction.deferred_eq]
  cases picked : f.picked? with
  | some submenu => exact (park_onlyAsks submenu.opening area s).then_redraws
  | none =>
    rw [picked] at barren
    have refused : f.Refused s := barren.resolve_left (by simp)
    exact (perform_onlyAsks refused text area).then_redraws

theorem barren_onlyRedraws (geo : Bool) {call : Event} (isCall : call.IsCall) {s : Situation H C K}
    (barren : call.Barren s) : OnlyRedraws (Overlay.run (call.callback geo) s) s := by
  rcases barren with unknown | ⟨f, area, called, barren⟩
  · cases call with
    | callFunction function text area => cases unknown
    | callId id text area =>
      cases decoded : TagFunction.decode id with
      | ok function => simp [Event.called?, decoded, Except.toOption] at unknown
      | error cause =>
        simp only [Event.callback, Overlay.callId, decoded]
        exact ⟨.inl rfl, .inl rfl, .inl rfl⟩
    | _ => exact isCall.elim
  · obtain ⟨text, ran⟩ := Event.callback_of_called geo called
    rw [ran]
    exact callFunction_onlyRedraws barren text area

/-! ## All calls -/

/-- A call gives the client the command of its function, and nothing else. -/
theorem orders_callFunction (f : TagFunction) (text : String) (area : Rect)
    (s : Situation H C K) :
    orders (Overlay.run (Overlay.callFunction geo f text area) s).trace =
      (f.order? text s).toList := by
  cases picked : f.picked? with
  | some submenu =>
    have redraws : OnlyRedraws (Overlay.run (Overlay.callFunction geo f text area) s) s :=
      callFunction_onlyRedraws (.inl (by simp [picked])) text area
    have unordered : f.order? text s = none := by
      cases f <;> first | rfl | cases picked
    rw [unordered, orders]
    rcases redraws.effects with quiet | shown
    · rw [quiet]
      rfl
    · rw [shown]
      rfl
  | none =>
    obtain ⟨_, ended⟩ := (perform_total geo f text area).run OverlayRequest.serve s
    have quiet (now : Situation H C K) :
        orders (run OverlayRequest.serve Overlay.refreshIfRequired now).trace = [] :=
      orders_eq_nil fun command => refreshIfRequired_orders_nothing command now
    simp only [Overlay.callFunction, TagFunction.deferred_eq, picked, Option.map_none, bind_eq,
      Overlay.run, run_bind_of_ok ended, orders_append, quiet, List.append_nil]
    exact orders_perform f text area s

/-- An event that calls gives the client the command of the function that it calls, if there is
one. -/
theorem orders_of_call (geo : Bool) {call : Event} (isCall : call.IsCall) (s : Situation H C K) :
    orders (Overlay.run (call.callback geo) s).trace = [] ∨ ∃ (f : TagFunction) (text : String),
      orders (Overlay.run (call.callback geo) s).trace = (f.order? text s).toList := by
  cases call with
  | callFunction f text area => exact .inr ⟨f, text, orders_callFunction f text area s⟩
  | callId id text area =>
    cases decoded : TagFunction.decode id with
    | ok f =>
      simp only [Event.callback, Overlay.callId, decoded]
      exact .inr ⟨f, text, orders_callFunction f text area s⟩
    | error cause =>
      simp only [Event.callback, Overlay.callId, decoded]
      exact .inl rfl
  | _ => exact isCall.elim

omit [Canvas K] in
theorem setActivity_allowed {f : TagFunction} {text : String} {s : Situation H C K}
    {activity : ActivityState} (ordered : f.order? text s = some (.setActivity activity)) :
    s.MayControl ∧ activity =
      if LightingClient.activity s.client = .observing then .controlling else .observing := by
  unfold TagFunction.order? SelectionList.order? at ordered
  split at ordered
  all_goals try split at ordered
  all_goals cases ordered
  exact ⟨‹_›, (LightingClient.activity s.client).toggled_eq⟩

omit [Canvas K] in
theorem select_listed {f : TagFunction} {text : String} {s : Situation H C K}
    {list : SelectionList} {index : Nat} (ordered : f.order? text s = some (list.select index)) :
    index < (list.shown s.client).length := by
  unfold TagFunction.order? SelectionList.order? at ordered
  split at ordered
  all_goals try split at ordered
  all_goals cases list <;> cases ordered
  all_goals assumption

theorem call_total (geo : Bool) {call : Event} (isCall : call.IsCall) :
    Total (call.callback geo) := by
  have called (f : TagFunction) (text : String) (area : Rect) :
      Total (Overlay.callFunction geo f text area) := by
    have refreshed : Total Overlay.refreshIfRequired := fun redraw => by cases redraw <;> simp
    simp only [Overlay.callFunction]
    split
    · refine Total.bind (fun memory _ => ?_) fun _ => refreshed
      split <;> simp
    · exact (perform_total geo f text area).bind fun _ => refreshed
  cases call with
  | callFunction f text area => exact called f text area
  | callId id text area =>
    simp only [Event.callback, Overlay.callId]
    cases TagFunction.decode id with
    | ok f => exact called f text area
    | error cause => exact fun _ => trivial
  | _ => exact isCall.elim

/-- Whatever is called and whenever, a call comes to its end and gives the client one command at
most: the activity is switched, from observing to controlling and from any other to observing, only
if that is allowed now, and an entry is selected only if its list has it now. A call whose id stands for nothing, that picks a
submenu or that is refused does no more than pass the redraw flag on; it shows no popup, and
settings, target, activity and selections stay as they are. -/
theorem calls_are_checked [LawfulSettings H] [LawfulRedraw C] (geo : Bool) {call : Event}
    (isCall : call.IsCall) (s : Situation H C K) :
    let ran := Overlay.run (call.callback geo) s
    ran.result = .ok () ∧
    (orders ran.trace).length ≤ 1 ∧
    (∀ activity, .setActivity activity ∈ orders ran.trace →
      (Host.isController s.host = true ∨
        LightingClient.connectionState s.client = .connectedLocal) ∧
      activity =
        if LightingClient.activity s.client = .observing then .controlling else .observing) ∧
    (∀ index,
      (.setProfile index ∈ orders ran.trace →
        index < (LightingClient.profiles s.client).length) ∧
      (.applyPreset index ∈ orders ran.trace →
        index < (LightingClient.presets s.client).length) ∧
      (.setView index ∈ orders ran.trace → index < (LightingClient.views s.client).length)) ∧
    (call.Barren s →
      (effects ran.trace = [] ∨ effects ran.trace = [.host .refreshMapContent]) ∧
      LightingClient.aerodrome ran.state.client = LightingClient.aerodrome s.client ∧
      LightingClient.activity ran.state.client = LightingClient.activity s.client ∧
      LightingClient.profile ran.state.client = LightingClient.profile s.client ∧
      LightingClient.view ran.state.client = LightingClient.view s.client ∧
      Host.loadSetting ran.state.host = Host.loadSetting s.host) := by
  intro ran
  obtain ⟨_, completed⟩ := (call_total geo isCall).run OverlayRequest.serve s
  have single : ∃ command : Option ClientCommand, orders ran.trace = command.toList ∧
      (command = none ∨ ∃ f text, TagFunction.order? f text s = command) := by
    rcases orders_of_call geo isCall s with nothing | ⟨f, text, ordered⟩
    · exact ⟨none, nothing, .inl rfl⟩
    · exact ⟨_, ordered, .inr ⟨f, text, rfl⟩⟩
  obtain ⟨command, ordered, source⟩ := single
  have called {given : ClientCommand} (member : given ∈ orders ran.trace) :
      ∃ f text, TagFunction.order? f text s = some given := by
    rw [ordered, Option.mem_toList] at member
    subst member
    exact source.resolve_left (by simp)
  have listed (list : SelectionList) {index : Nat}
      (member : list.select index ∈ orders ran.trace) :
      index < (list.shown s.client).length := by
    obtain ⟨f, text, given⟩ := called member
    exact select_listed given
  refine ⟨completed, ?_, fun activity member => ?_,
    fun _ => ⟨listed .profile, listed .preset, listed .view⟩, fun barren => ?_⟩
  · rw [ordered]
    cases command <;> simp
  · obtain ⟨f, text, given⟩ := called member
    exact setActivity_allowed given
  · have redraws := barren_onlyRedraws geo isCall barren
    exact ⟨redraws.effects, redraws.reads LawfulRedraw.aerodrome_takeRedraw,
      redraws.reads LawfulRedraw.activity_takeRedraw,
      redraws.reads LawfulRedraw.profile_takeRedraw,
      redraws.reads LawfulRedraw.view_takeRedraw, redraws.loadSetting⟩

/-- The id of the second profile comes back after the client has dropped it. -/
theorem calls_are_checked_dropped :
    let shortened : Scene :=
      { Scene.controlled with client := { Scene.controlled.client with profiles := ["Day"] } }
    let call : Event := .callId 0x106 "" ⟨0, 0, 60, 20⟩
    let ran := Overlay.run (call.callback false) shortened
    call.called? = some (.submitSelectProfile 1, ⟨0, 0, 60, 20⟩) ∧ call.Barren shortened ∧
      ran.result = .ok () ∧ LightingClient.profile ran.state.client = 0 ∧
      (effects ran.trace = [] ∨ effects ran.trace = [.host .refreshMapContent]) := by
  intro shortened call ran
  have called : call.called? = some (.submitSelectProfile 1, ⟨0, 0, 60, 20⟩) := rfl
  have barren : call.Barren shortened :=
    .inr ⟨.submitSelectProfile 1, ⟨0, 0, 60, 20⟩, called, .inr (Nat.le_refl 1)⟩
  obtain ⟨completed, -, -, -, left⟩ :=
    calls_are_checked false (show call.IsCall from trivial) shortened
  obtain ⟨shown, -, -, profile, -, -⟩ := left barren
  exact ⟨called, barren, completed, profile, shown⟩

end

end RadarOverlay
