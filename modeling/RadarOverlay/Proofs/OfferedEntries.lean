import RadarOverlay.Proofs.Overflows

/-!
Entries that are offered are accepted. A list is filled from what host and client say when
it is opened, and a call is checked against what they say when it is made; the two
decide by different rules, in different places. Main statements: `popups_event` says which
popup an event shows, `unrefused_is_accepted` that a call whose function is allowed is
refused nowhere, and `offered_exactly_when_accepted` that the entries of every list are
disabled, enabled and checked as the calls of their functions will find it.
-/
namespace RadarOverlay

/-- A notice that a call was not allowed, or points beyond the end of its list. -/
def Notice.IsRefusal : Notice → Prop
  | .controlRefused | .indexRejected .. => True
  | _ => False

/-- A request that notes no refusal. -/
def OverlayRequest.NotesNoRefusal : OverlayRequest → Prop
  | .note notice => ¬ notice.IsRefusal
  | _ => True

section

open Program

variable {H C K : Type} [Host H] [LightingClient C] [Canvas K] {geo : Bool}

/-! ## What a function shows -/

/-- The entries of the badge's menu in a situation. -/
def Situation.menu (geo : Bool) (s : Situation H C K) : List PopupElement :=
  let controlling : Bool := LightingClient.activity s.client = .controlling
  [Menu.aerodromeEntry, Menu.controlEntry s.MayControl controlling, Menu.profilesEntry] ++
    (if LightingClient.presets s.client = [] then [] else [Menu.presetsEntry controlling]) ++
    if geo then [] else [Menu.viewsEntry]

/-- The popup that a function shows when it is carried out. -/
def TagFunction.popup (geo : Bool) (area : Rect) (s : Situation H C K) :
    TagFunction → List HostCommand
  | .openMenu => .openPopupList area "BARS menu" 1 :: (s.menu geo).map .addPopupListElement
  | .openEditAerodrome =>
    [.openPopupEdit area .submitEditAerodrome ((LightingClient.aerodrome s.client).getD "")]
  | .openSelectProfile _ => Submenu.profiles.popup area s.client
  | .openSelectPreset _ => Submenu.presets.popup area s.client
  | .openSelectView _ => Submenu.views.popup area s.client
  | _ => []

/-- A run that yields a value, leaves the client as it is and shows popups. -/
structure Shows {α : Type} (p : Callback α) (s : Situation H C K) (a : α)
    (shown : List HostCommand) : Prop where
  result : (Overlay.run p s).result = .ok a
  client : (Overlay.run p s).state.client = s.client
  popups : popups (Overlay.run p s).trace = shown

theorem Shows.bind {α β : Type} {p : Callback α} {f : α → Callback β} {s : Situation H C K} {a : α}
    {b : β} {shown later : List HostCommand} (first : Shows p s a shown)
    (second : ∀ u : Situation H C K, u.client = s.client → Shows (f a) u b later) :
    Shows (p.bind f) s b (shown ++ later) := by
  obtain ⟨result, client, popups⟩ := first
  obtain ⟨result', client', popups'⟩ := second _ client
  simp only [Overlay.run] at result client popups result' client' popups'
  constructor <;> simp only [Overlay.run, run_bind_of_ok result]
  · exact result'
  · exact client'.trans client
  · rw [popups_append, popups, popups']

theorem canControl_shows (s : Situation H C K) :
    Shows Overlay.canControl s (decide s.MayControl) [] := by
  obtain ⟨allowed, trace, permitted, quiet, asked⟩ := run_canControl s
  have same : allowed = decide s.MayControl := by
    simp only [← permitted, Bool.decide_eq_true]
  rw [← same]
  constructor <;> rw [Overlay.run, asked]
  exact popups_eq_nil (by simp [quiet])

theorem isControlling_shows (s : Situation H C K) :
    Shows Overlay.isControlling s (LightingClient.activity s.client = .controlling) [] :=
  ⟨rfl, rfl, rfl⟩

theorem addElements_shows (elements : List PopupElement) (s : Situation H C K) :
    Shows (Overlay.addElements elements) s () (elements.map .addPopupListElement) := by
  refine ⟨(run_addElements elements s).1, ?_, (run_addElements elements s).2.2⟩
  induction elements generalizing s with
  | nil => rfl
  | cons e rest ih => exact ih { s with host := Host.obey (.addPopupListElement e) s.host }

theorem openMenu_shows (area : Rect) (s : Situation H C K) :
    Shows (Overlay.openMenu geo area) s () (TagFunction.popup geo area s .openMenu) := by
  have split : TagFunction.popup geo area s .openMenu =
      [] ++ ([] ++ ([.openPopupList area "BARS menu" 1] ++
        ([Menu.aerodromeEntry, Menu.controlEntry (decide s.MayControl)
          (decide (LightingClient.activity s.client = .controlling)),
            Menu.profilesEntry].map .addPopupListElement ++
        ([] ++ ((if LightingClient.presets s.client = [] then []
          else [Menu.presetsEntry (decide (LightingClient.activity s.client = .controlling))]).map
            .addPopupListElement ++
        (if geo then [] else [Menu.viewsEntry]).map .addPopupListElement))))) := by
    simp [TagFunction.popup, Situation.menu]
  rw [split]
  simp only [Overlay.openMenu, bind_eq]
  refine (canControl_shows s).bind fun u same => ?_
  rw [← same]
  refine (isControlling_shows u).bind fun u same => ?_
  rw [← same]
  refine Shows.bind (p := Overlay.openList area "BARS menu") ⟨rfl, rfl, rfl⟩ fun u same => ?_
  rw [← same]
  refine (addElements_shows _ u).bind fun u same => ?_
  rw [← same]
  refine Shows.bind (p := Overlay.askClient .presets) (a := LightingClient.presets u.client)
    ⟨rfl, rfl, rfl⟩ fun u same => ?_
  rw [← same]
  exact (addElements_shows _ u).bind fun u _ => addElements_shows _ u

/-- A function that opens nothing shows no popup. -/
theorem popups_of_unopening {f : TagFunction} (listless : f.listTitle? = none)
    (editless : f ≠ .openEditAerodrome) (text : String) (area : Rect) (s : Situation H C K) :
    popups (Overlay.run (Overlay.perform geo f text area) s).trace = [] := by
  have silent : Abides (only fun request : OverlayRequest => ∀ command,
      request = .host (.command command) → command.isPopup = false) (fun _ => True)
      (Overlay.perform geo f text area) := by
    have selects (list : SelectionList) (index : Nat) :
        Abides (only fun request : OverlayRequest => ∀ command,
          request = .host (.command command) → command.isPopup = false) (fun _ => True)
          (Overlay.select list index) := by
      cases list <;> simp [Overlay.select, SelectionList.request]
    cases f with
    | none => exact trivial
    | submitEditAerodrome =>
      simp [Overlay.perform, Overlay.submitAerodrome, saveAerodrome, SettingKey.save,
        HostCommand.isPopup]
    | toggleControlling =>
      simp [Overlay.perform, Overlay.toggleControlling, Overlay.canControl]
    | submitSelectProfile index => exact selects .profile index
    | submitSelectPreset index => exact selects .preset index
    | submitSelectView index => exact selects .view index
    | openEditAerodrome => exact absurd rfl editless
    | _ => cases listless
  exact popups_eq_nil fun command member =>
    silent.asks_of_only OverlayRequest.serve s _ (host_mem_effects.mp member) command rfl

theorem popups_perform (geo : Bool) (f : TagFunction) (text : String) (area : Rect)
    (s : Situation H C K) :
    popups (Overlay.run (Overlay.perform geo f text area) s).trace = f.popup geo area s := by
  cases f with
  | openMenu => exact (openMenu_shows area s).popups
  | openEditAerodrome => rfl
  | openSelectProfile step => exact (run_perform_opening geo .profiles area s).2.2
  | openSelectPreset step => exact (run_perform_opening geo .presets area s).2.2
  | openSelectView step => exact (run_perform_opening geo .views area s).2.2
  | _ => exact popups_of_unopening rfl (by simp) text area s

/-! ## What an event shows -/

/-- A call shows the popup of its function, or nothing if the function is parked. -/
theorem popups_callFunction (f : TagFunction) (text : String) (area : Rect)
    (s : Situation H C K) :
    popups (Overlay.run (Overlay.callFunction geo f text area) s).trace =
      if f.picked?.isSome then [] else f.popup geo area s := by
  cases picked : f.picked? with
  | some submenu =>
    have redraws : OnlyRedraws (Overlay.run (Overlay.callFunction geo f text area) s) s :=
      callFunction_onlyRedraws (.inl (by simp [picked])) text area
    rw [popups]
    rcases redraws.effects with quiet | shown
    · rw [quiet]
      rfl
    · rw [shown]
      rfl
  | none =>
    obtain ⟨_, ended⟩ := (perform_total geo f text area).run OverlayRequest.serve s
    have shown := popups_perform geo f text area s
    have quiet := (run_refreshIfRequired
      (Overlay.run (Overlay.perform geo f text area) s).state).2.2.2
    simp only [Overlay.run] at shown quiet
    simp only [Overlay.callFunction, TagFunction.deferred_eq, picked, Option.map_none, bind_eq,
      Overlay.run, run_bind_of_ok ended, popups_append, shown, quiet, List.append_nil]
    rfl

/-- A call shows nothing, or the popup of a function. -/
theorem exists_popup_of_call (geo : Bool) (f : TagFunction) (text : String) (area : Rect)
    (s : Situation H C K) :
    popups (Overlay.run (Overlay.callFunction geo f text area) s).trace = [] ∨
      ∃ (g : TagFunction) (place : Rect),
        popups (Overlay.run (Overlay.callFunction geo f text area) s).trace =
          g.popup geo place s := by
  rw [popups_callFunction]
  split
  · exact .inl rfl
  · exact .inr ⟨f, area, rfl⟩

theorem exists_popup_of_flush (s : Situation H C K) :
    popups (Overlay.run (Overlay.flush geo) s).trace = [] ∨ ∃ (g : TagFunction) (area : Rect),
      popups (Overlay.run (Overlay.flush geo) s).trace = g.popup geo area s := by
  obtain ⟨⟨anchor, ⟨entry⟩⟩, host, client, canvas⟩ := s
  cases entry with
  | none => exact .inl rfl
  | some waiting =>
    exact exists_popup_of_call geo waiting.function "" waiting.area
      (⟨⟨anchor, .empty⟩, host, client, canvas⟩ : Situation H C K)

/-- The situation in which an event looks at host and client to fill a list: a decoration pass does
so when it has drawn the badge and read the redraw flag. -/
def Event.looksAt (s : Situation H C K) : Event → Situation H C K
  | .refresh .afterLists =>
    (Overlay.run (Overlay.drawBadge.bind fun _ => Overlay.refreshIfRequired) s).state
  | _ => s

/-- An event shows nothing, or the popup of a function. -/
theorem popups_event (geo : Bool) (call : Event) (s : Situation H C K) :
    popups (Overlay.run (call.callback geo) s).trace = [] ∨ ∃ (g : TagFunction) (area : Rect),
      popups (Overlay.run (call.callback geo) s).trace = g.popup geo area (call.looksAt s) := by
  cases call with
  | contentLoaded loaded detailed =>
    exact .inl (popups_of_idle (by simp [Event.Performs, Event.called?]))
  | refresh phase =>
    cases phase with
    | afterLists =>
      have split : Overlay.drawDecorations geo =
          (Overlay.drawBadge.bind fun _ => Overlay.refreshIfRequired).bind
            fun _ => Overlay.flush geo := (bind_assoc _ _ _).symm
      obtain ⟨-, -, quiet⟩ := run_drawBadge s
      have silent : popups (Overlay.run
          (Overlay.drawBadge.bind fun _ => Overlay.refreshIfRequired) s).trace = [] := by
        simp only [Overlay.run] at quiet ⊢
        cases drawn : (run OverlayRequest.serve Overlay.drawBadge s).result with
        | error cause => rw [run_bind_of_error drawn, quiet]
        | ok =>
          obtain ⟨-, -, -, still⟩ := run_refreshIfRequired
            (run OverlayRequest.serve Overlay.drawBadge s).state
          simp only [Overlay.run] at still
          rw [run_bind_of_ok drawn, popups_append, quiet, still, List.append_nil]
      simp only [Event.callback, Overlay.refresh, split, Event.looksAt]
      simp only [Overlay.run] at silent ⊢
      cases checked : (run OverlayRequest.serve
          (Overlay.drawBadge.bind fun _ => Overlay.refreshIfRequired) s).result with
      | error cause => exact .inl (by rw [run_bind_of_error checked, silent])
      | ok =>
        rw [run_bind_of_ok checked, popups_append, silent, List.nil_append]
        exact exists_popup_of_flush _
    | _ => exact .inl (popups_of_idle (by simp [Event.Performs, Event.called?]))
  | callFunction f text area =>
    exact exists_popup_of_call geo f text area s
  | callId id text area =>
    simp only [Event.callback, Overlay.callId]
    cases TagFunction.decode id with
    | error cause => exact .inl rfl
    | ok f =>
      exact exists_popup_of_call geo f text area s
  | click object point area button =>
    cases object with
    | clickRegion => exact .inl rfl
    | menu =>
      have opened : Abides (only OverlayRequest.IsQuestion) (fun _ => True)
          (Overlay.opensMenu button) := by
        simp [Overlay.opensMenu, OverlayRequest.IsQuestion]
      have questions := opened.asks_of_only OverlayRequest.serve s
      have same : (run OverlayRequest.serve (Overlay.opensMenu button) s).state = s :=
        state_of_questions questions
      obtain ⟨menu, ended⟩ := (Overlay.opensMenu_total button).run OverlayRequest.serve s
      have quiet : popups (run OverlayRequest.serve (Overlay.opensMenu button) s).trace = [] :=
        popups_eq_nil (by simp [effects_of_questions questions])
      simp only [Event.callback, Overlay.click, bind_eq, Overlay.run, run_bind_of_ok ended,
        popups_append, quiet, same, List.nil_append]
      exact exists_popup_of_call geo _ "" area s
  | move object point released =>
    exact .inl (popups_of_idle (by simp [Event.Performs, Event.called?]))

/-! ## Calls that are allowed -/

/-- Host and client say the same in two situations, as far as a call is checked against it. -/
structure Situation.SaysAs (u t : Situation H C K) : Prop where
  controller : Host.isController u.host = Host.isController t.host
  connection : LightingClient.connectionState u.client = LightingClient.connectionState t.client
  activity : LightingClient.activity u.client = LightingClient.activity t.client
  lists : ∀ list : SelectionList, list.shown u.client = list.shown t.client

omit [Canvas K] in
theorem Situation.SaysAs.mayControl_iff {u t : Situation H C K} (agrees : u.SaysAs t) :
    u.MayControl ↔ t.MayControl := by
  rw [Situation.MayControl, agrees.controller, agrees.connection, Situation.MayControl]

omit [Canvas K] in
theorem Situation.SaysAs.refused_iff {u t : Situation H C K} (agrees : u.SaysAs t)
    (f : TagFunction) : f.Refused u ↔ f.Refused t := by
  cases f with
  | toggleControlling => exact not_congr agrees.mayControl_iff
  | submitSelectProfile index =>
    exact iff_of_eq (congrArg (·.length ≤ index) (agrees.lists .profile))
  | submitSelectPreset index => exact iff_of_eq (congrArg (·.length ≤ index) (agrees.lists .preset))
  | submitSelectView index => exact iff_of_eq (congrArg (·.length ≤ index) (agrees.lists .view))
  | _ => exact Iff.rfl

/-- Nothing is refused in a run. -/
def Accepts {α : Type} (p : Callback α) (s : Situation H C K) : Prop :=
  ∀ x ∈ (Overlay.run p s).trace, x.request.NotesNoRefusal

/-- The rules of what notes no refusal whatever it is answered. -/
def Overlay.unrefusing : Rules Overlay := only OverlayRequest.NotesNoRefusal

/-- Nothing is refused in two runs in a row if nothing is in the first, and nothing in the second
for the value that the first yields. -/
theorem Accepts.bind {α β : Type} {p : Callback α} {f : α → Callback β} {s : Situation H C K}
    {a : α} (first : Accepts p s) (yields : (Overlay.run p s).result = .ok a)
    (second : ∀ u : Situation H C K, Accepts (f a) u) : Accepts (p.bind f) s := by
  intro x member
  simp only [Overlay.run] at yields
  simp only [Overlay.run, run_bind_of_ok yields] at member
  rcases List.mem_append.mp member with before | after
  · exact first x before
  · exact second _ x after

theorem accepts_of_abides {α : Type} {p : Callback α}
    (abides : Abides Overlay.unrefusing (fun _ => True) p) (s : Situation H C K) : Accepts p s :=
  abides.asks_of_only OverlayRequest.serve s

theorem select_accepts (list : SelectionList) {index : Nat} {s : Situation H C K}
    (listed : index < (list.shown s.client).length) : Accepts (Overlay.select list index) s := by
  have asks : Abides Overlay.unrefusing (fun _ => True) list.request := by
    cases list <;> simp [SelectionList.request, Overlay.unrefusing, OverlayRequest.NotesNoRefusal]
  obtain ⟨y, -, answered⟩ := run_list_request list s
  refine (accepts_of_abides asks s).bind (congrArg Outcome.result answered) fun u => ?_
  rw [if_pos listed]
  apply accepts_of_abides
  exact ⟨trivial, fun _ _ => trivial⟩

theorem toggleControlling_accepts {s : Situation H C K} (may : s.MayControl) :
    Accepts Overlay.toggleControlling s := by
  have asks : Abides Overlay.unrefusing (fun _ => True) Overlay.canControl := by
    simp [Overlay.canControl, Overlay.unrefusing, OverlayRequest.NotesNoRefusal]
  refine (accepts_of_abides asks s).bind (canControl_shows s).result fun u => ?_
  rw [if_pos (decide_eq_true may)]
  apply accepts_of_abides
  exact ⟨trivial, fun _ _ => ⟨id, fun _ _ => ⟨trivial, fun _ _ => trivial⟩⟩⟩

/-- Filling a popup notes nothing. -/
theorem addElements_unrefusing (elements : List PopupElement) :
    Abides Overlay.unrefusing (fun _ => True) (Overlay.addElements elements) :=
  abides_addElements (fun _ _ => trivial) trivial

theorem openMenu_unrefusing (area : Rect) :
    Abides Overlay.unrefusing (fun _ => True) (Overlay.openMenu geo area) := by
  have asks : Abides Overlay.unrefusing (fun _ => True) Overlay.canControl := by
    simp [Overlay.canControl, Overlay.unrefusing, OverlayRequest.NotesNoRefusal]
  simp only [Overlay.openMenu, bind_eq, abides_bind]
  refine asks.mono fun allowed _ => ⟨trivial, fun activity _ => ⟨trivial, fun _ _ => ?_⟩⟩
  refine (addElements_unrefusing _).mono fun _ _ => ⟨trivial, fun presets _ => ?_⟩
  exact (addElements_unrefusing _).mono fun _ _ => addElements_unrefusing _

/-- A function that is not refused is carried out without a refusal. -/
theorem perform_accepts {f : TagFunction} {s : Situation H C K} (unrefused : ¬ f.Refused s)
    (text : String) (area : Rect) : Accepts (Overlay.perform geo f text area) s := by
  cases f with
  | toggleControlling => exact toggleControlling_accepts (Classical.not_not.mp unrefused)
  | submitSelectProfile index => exact select_accepts .profile (Nat.not_le.mp unrefused)
  | submitSelectPreset index => exact select_accepts .preset (Nat.not_le.mp unrefused)
  | submitSelectView index => exact select_accepts .view (Nat.not_le.mp unrefused)
  | openMenu => exact accepts_of_abides (openMenu_unrefusing area) s
  | submitEditAerodrome =>
    apply accepts_of_abides
    simp [Overlay.perform, Overlay.submitAerodrome, saveAerodrome, SettingKey.save,
      Overlay.unrefusing, OverlayRequest.NotesNoRefusal, Notice.IsRefusal]
  | none =>
    apply accepts_of_abides
    exact trivial
  | openEditAerodrome =>
    apply accepts_of_abides
    exact ⟨trivial, fun _ _ => ⟨trivial, fun _ _ => trivial⟩⟩
  | openSelectProfile step =>
    apply accepts_of_abides
    exact ⟨trivial, fun _ _ => ⟨trivial, fun _ _ => ⟨trivial, fun _ _ => ⟨trivial, fun names _ =>
      addElements_unrefusing _⟩⟩⟩⟩
  | openSelectPreset step =>
    apply accepts_of_abides
    exact ⟨trivial, fun _ _ => ⟨trivial, fun names _ => addElements_unrefusing _⟩⟩
  | openSelectView step =>
    apply accepts_of_abides
    exact ⟨trivial, fun _ _ => ⟨trivial, fun _ _ => ⟨trivial, fun names _ =>
      addElements_unrefusing _⟩⟩⟩

/-- A call of a function that is not refused notes no refusal. -/
theorem unrefused_is_accepted {f : TagFunction} {s : Situation H C K} (unrefused : ¬ f.Refused s)
    (text : String) (area : Rect) :
    ∀ notice ∈ notices (Overlay.run (Overlay.callFunction geo f text area) s).trace,
      ¬ notice.IsRefusal := by
  have refreshed (u : Situation H C K) : Accepts Overlay.refreshIfRequired u := by
    apply accepts_of_abides
    simp [Overlay.refreshIfRequired, Overlay.unrefusing, OverlayRequest.NotesNoRefusal]
  have accepts : Accepts (Overlay.callFunction geo f text area) s := by
    simp only [Overlay.callFunction, bind_eq]
    cases f.deferred with
    | none =>
      obtain ⟨_, ended⟩ := (perform_total geo f text area).run OverlayRequest.serve s
      exact (perform_accepts unrefused text area).bind ended fun u => refreshed u
    | some submenu =>
      refine Accepts.bind ?_ (park_onlyAsks submenu area s).result fun u => refreshed u
      apply accepts_of_abides
      simp only [Overlay.park, DeferredSlot.defer, bind_eq, abides_bind]
      refine ⟨trivial, fun memory _ => ⟨trivial, fun _ _ => ?_⟩⟩
      cases memory.pending.entry with
      | none => exact trivial
      | some old => exact ⟨id, fun _ _ => trivial⟩
  intro notice member
  obtain ⟨x, exchanged, noted⟩ := List.mem_filterMap.mp member
  unfold Exchange.notice? at noted
  split at noted <;> cases noted
  exact accepts _ exchanged

/-! ## What the entries promise -/

/-- An entry is disabled exactly if its function is the inert one. As long as host and client say
what they say in `t` a call of an enabled entry's function is refused nowhere, and a call of a
disabled entry's function is the redraw check and nothing else. -/
structure PopupElement.Honest (geo : Bool) (t : Situation H C K) (element : PopupElement) :
    Prop where
  disabled_iff : element.disabled = true ↔ element.function = .none
  accepted : element.disabled = false → ∀ u : Situation H C K, u.SaysAs t → ∀ text area,
    ¬ element.function.Refused u ∧ ∀ notice ∈
      notices (Overlay.run (Overlay.callFunction geo element.function text area) u).trace,
        ¬ notice.IsRefusal
  idle : element.disabled = true → ∀ text area,
    Overlay.callFunction geo element.function text area = Overlay.refreshIfRequired

theorem honest_of_allowed {t : Situation H C K} {element : PopupElement}
    (disabled_iff : element.disabled = true ↔ element.function = .none)
    (allowed : ¬ element.function.Refused t) : element.Honest geo t where
  disabled_iff := disabled_iff
  accepted _ u agrees text area :=
    have unrefused : ¬ element.function.Refused u := fun refused =>
      allowed ((agrees.refused_iff _).mp refused)
    ⟨unrefused, unrefused_is_accepted unrefused text area⟩
  idle disabled text area := by
    rw [disabled_iff.mp disabled]
    rfl

/-- The entries of the menu are honest: control may be toggled if its entry is enabled. -/
theorem honest_of_menu {t : Situation H C K} {element : PopupElement}
    (offered : element ∈ t.menu geo) : element.Honest geo t := by
  simp only [Situation.menu, List.mem_append, List.mem_cons, List.not_mem_nil, or_false] at offered
  rcases offered with ((rfl | rfl | rfl) | preset) | view
  · exact honest_of_allowed (by decide) id
  · by_cases may : t.MayControl
    · exact honest_of_allowed (by simp [Menu.controlEntry, may])
        (by simp [Menu.controlEntry, may, TagFunction.Refused])
    · exact honest_of_allowed (by simp [Menu.controlEntry, may])
        (by simp [Menu.controlEntry, may, TagFunction.Refused])
  · exact honest_of_allowed (by decide) id
  · split at preset
    · simp at preset
    · obtain rfl := List.mem_singleton.mp preset
      cases LightingClient.activity t.client <;>
        exact honest_of_allowed (by decide) (by simp [Menu.presetsEntry, TagFunction.Refused])
  · split at view
    · simp at view
    · obtain rfl := List.mem_singleton.mp view
      exact honest_of_allowed (by decide) id

/-- The entries of a submenu are honest: each stands at a position that its list has. -/
theorem honest_of_entries {t : Situation H C K} (submenu : Submenu) {element : PopupElement}
    (offered : element ∈ submenu.entries t.client) : element.Honest geo t := by
  obtain ⟨index, short, rfl⟩ := List.mem_mapIdx.mp offered
  cases submenu with
  | profiles =>
    by_cases controlling : LightingClient.activity t.client = .controlling
    · exact honest_of_allowed (by simp [Submenu.entry, controlling])
        (by simpa [Submenu.entry, controlling, TagFunction.Refused, Submenu.names] using short)
    · exact honest_of_allowed (by simp [Submenu.entry, controlling])
        (by simp [Submenu.entry, controlling, TagFunction.Refused])
  | presets =>
    exact honest_of_allowed (by simp [Submenu.entry])
      (by simpa [Submenu.entry, TagFunction.Refused, Submenu.names] using short)
  | views =>
    exact honest_of_allowed (by simp [Submenu.entry])
      (by simpa [Submenu.entry, TagFunction.Refused, Submenu.names] using short)

theorem honest_of_popup {t : Situation H C K} {f : TagFunction} {area : Rect}
    {element : PopupElement} (offered : .addPopupListElement element ∈ f.popup geo area t) :
    element.Honest geo t := by
  cases f with
  | openMenu => exact honest_of_menu (by simpa [TagFunction.popup] using offered)
  | openSelectProfile step =>
    exact honest_of_entries .profiles
      (by simpa [TagFunction.popup, Submenu.popup] using offered)
  | openSelectPreset step =>
    exact honest_of_entries .presets
      (by simpa [TagFunction.popup, Submenu.popup] using offered)
  | openSelectView step =>
    exact honest_of_entries .views
      (by simpa [TagFunction.popup, Submenu.popup] using offered)
  | _ => simp [TagFunction.popup] at offered

omit [Canvas K] in
/-- The list under the menu's title is the menu. -/
theorem popup_of_title {t : Situation H C K} {f : TagFunction} {area place : Rect} {columns : Int32}
    (opened : .openPopupList place "BARS menu" columns ∈ f.popup geo area t) :
    f = .openMenu ∧ place = area ∧ columns = 1 := by
  cases f with
  | openMenu => simpa [TagFunction.popup] using opened
  | _ => simp [TagFunction.popup, Submenu.popup, Submenu.title] at opened

/-- Calling the toggle gives the client an activity exactly if control may be toggled. -/
theorem toggle_orders_iff (text : String) (area : Rect) (u : Situation H C K) :
    (∃ activity, .setActivity activity ∈
      orders (Overlay.run (Overlay.callFunction geo .toggleControlling text area) u).trace) ↔
      u.MayControl := by
  rw [orders_callFunction, TagFunction.order?]
  by_cases may : u.MayControl <;> simp [may]

/-- In every list that an event shows, whatever it is and whatever the overlay remembers, an entry
is disabled exactly if its function is inert, a call of an enabled entry's function is refused
nowhere as long as host and client say what they said when the list was filled, and a call of a
disabled one is nothing but the redraw check. The badge's menu has one entry for control, which is
enabled exactly if a toggle would then switch the activity, and checked exactly while the client
controls. -/
theorem offered_exactly_when_accepted (geo : Bool) (call : Event) (s : Situation H C K) :
    let shown := popups (Overlay.run (call.callback geo) s).trace
    let t := call.looksAt s
    (∀ element, .addPopupListElement element ∈ shown → element.Honest geo t) ∧
    ∀ area columns, .openPopupList area "BARS menu" columns ∈ shown → ∃ control rest,
      shown = .openPopupList area "BARS menu" 1 ::
        (Menu.aerodromeEntry :: control :: rest).map .addPopupListElement ∧
      control.label = "Control" ∧ (∀ other ∈ rest, other.label ≠ "Control") ∧
      (∀ u : Situation H C K, u.SaysAs t → ∀ text place, control.disabled = false ↔
        ∃ activity, .setActivity activity ∈
          orders (Overlay.run (Overlay.callFunction geo .toggleControlling text place) u).trace) ∧
      (control.checkbox = .checked ↔ LightingClient.activity t.client = .controlling) := by
  intro shown t
  rcases popups_event geo call s with quiet | ⟨f, area, found⟩
  · have none : shown = [] := quiet
    simp [none]
  have found : shown = f.popup geo area t := found
  refine ⟨fun element offered => honest_of_popup (found ▸ offered), fun place columns opened => ?_⟩
  obtain ⟨rfl, rfl, -⟩ := popup_of_title (found ▸ opened)
  refine ⟨Menu.controlEntry t.MayControl (LightingClient.activity t.client = .controlling), _,
    found, rfl, ?_, fun u agrees text area => ?_, ?_⟩
  · intro other member
    rcases List.mem_cons.mp member with rfl | member
    · decide
    rcases List.mem_append.mp member with preset | view
    · split at preset <;> simp_all [Menu.presetsEntry]
    · split at view <;> simp_all [Menu.viewsEntry, PopupElement.plain]
  · rw [toggle_orders_iff, agrees.mayControl_iff]
    simp [Menu.controlEntry]
  · by_cases controlling : LightingClient.activity t.client = .controlling <;>
      simp [Menu.controlEntry, PopupCheckbox.checkedIf, controlling]

open Simulation in
/-- A decoration pass shows the profiles to a client that observes by now, each of them disabled; a
click on the badge shows a menu in which an observer on a local server may take control, and calling
the toggle gives it. -/
theorem offered_exactly_when_accepted_observing :
    let observing : Scene := { Scene.controlled with
      memory := ⟨⟨0, 0⟩, ⟨some ⟨.openSelectProfile .opening, ⟨5, 5, 65, 25⟩⟩⟩⟩
      host := { Scene.controlled.host with controller := false }
      client := { Scene.controlled.client with
        activity := .observing, connection := .connectedLocal, presets := [] } }
    let pass : Event := .refresh .afterLists
    let click : Event := .click .menu ⟨780, 10⟩ ⟨758, 2, 798, 18⟩ .left
    let day : PopupElement := ⟨"Day", .none, .checked, true⟩
    let control : PopupElement := ⟨"Control", .toggleControlling, .unchecked, false⟩
    .addPopupListElement day ∈ popups (Overlay.run (pass.callback false) observing).trace ∧
      day.Honest false (pass.looksAt observing) ∧
      popups (Overlay.run (click.callback false) observing).trace =
        .openPopupList ⟨758, 2, 798, 18⟩ "BARS menu" 1 ::
          [Menu.aerodromeEntry, control, Menu.profilesEntry, Menu.viewsEntry].map
            .addPopupListElement ∧
      ∃ activity, .setActivity activity ∈ orders (Overlay.run
        (Overlay.callFunction false .toggleControlling "" ⟨758, 2, 798, 18⟩) observing).trace := by
  intro observing pass click day control
  obtain ⟨honest, -⟩ := offered_exactly_when_accepted false pass observing
  obtain ⟨-, menus⟩ := offered_exactly_when_accepted false click observing
  have offered : .addPopupListElement day ∈
      popups (Overlay.run (pass.callback false) observing).trace := by decide +kernel
  have listed : popups (Overlay.run (click.callback false) observing).trace =
      .openPopupList ⟨758, 2, 798, 18⟩ "BARS menu" 1 ::
        [Menu.aerodromeEntry, control, Menu.profilesEntry, Menu.viewsEntry].map
          .addPopupListElement := by decide +kernel
  obtain ⟨entry, rest, shown, -, -, enabled, -⟩ :=
    menus ⟨758, 2, 798, 18⟩ 1 (listed ▸ List.mem_cons_self)
  have same : entry = control := by simp_all
  exact ⟨offered, honest day offered, listed,
    (enabled observing ⟨rfl, rfl, rfl, fun _ => rfl⟩ _ _).mp (same ▸ rfl)⟩

end

end RadarOverlay
