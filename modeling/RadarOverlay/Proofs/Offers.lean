import RadarOverlay.Proofs.Deferral

/-!
What the host is handed: each entry of a popup list and each edit comes with a
function, and the host calls functions that it was handed, at any later time. Main
statements: `popup_from_function` and `order_from_function` say that each popup and
each order of a step belongs to a function that the step carries out, and
`handed_offered` that each function that was handed out was offered by a popup of
such a function.
-/
namespace RadarOverlay

/-- A command hands a function to the host: an entry of a popup list that counts, or an edit. -/
def HostCommand.Hands (counts : PopupElement → Prop) (f : TagFunction) : HostCommand → Prop
  | .addPopupListElement element => counts element ∧ element.function = f
  | .openPopupEdit _ submitted _ => submitted = f
  | _ => False

section

variable {H C K : Type}

/-- The host was handed a function in a step. -/
def Passage.Hands (counts : PopupElement → Prop) (p : Passage H C K) (f : TagFunction) : Prop :=
  ∃ command, .host command ∈ effects p.outcome.trace ∧ command.Hands counts f

/-- The host was handed a function before. -/
def Handed (counts : PopupElement → Prop) (past : List (Passage H C K)) (f : TagFunction) : Prop :=
  ∃ p ∈ past, p.Hands counts f

def Step.Calls (f : TagFunction) : Step H C K → Prop
  | .event call => ∃ area, call.called? = some (f, area)
  | _ => False

/-- The host calls a function only if it was handed that function before, however long ago. -/
def Answers (counts : PopupElement → Prop) (past : List (Passage H C K)) (step : Step H C K) :
    Prop := ∀ f, step.Calls f → Handed counts past f

/-- The id of a function that was handed out is an answer. -/
theorem answers_of_encode {counts : PopupElement → Prop} {past : List (Passage H C K)}
    {f : TagFunction} {id : Int32} (handed : Handed counts past f) (encoded : f.encode = .ok id)
    (text : String) (area : Rect) :
    Answers counts past (.event (.callId id text area) : Step H C K) := by
  rintro called ⟨place, found⟩
  rw [Event.called?, TagFunction.decode_of_encode encoded] at found
  cases found
  exact handed

theorem answers_of_uncalled {counts : PopupElement → Prop} {past : List (Passage H C K)}
    {call : Event} (uncalled : call.called? = none) :
    Answers counts past (.event call : Step H C K) := by
  rintro f ⟨area, called⟩
  rw [uncalled] at called
  cases called

theorem calls_of_picked {p : Passage H C K} {submenu : Submenu} {area : Rect}
    (picked : p.picked? = some (submenu, area)) :
    ∃ f, p.step.Calls f ∧ f.picked? = some submenu := by
  unfold Passage.picked? at picked
  split at picked
  case h_1 call stepped =>
    obtain ⟨⟨f, place⟩, called, found⟩ := Option.bind_eq_some_iff.mp picked
    obtain ⟨picks, known, same⟩ := Option.map_eq_some_iff.mp found
    cases same
    refine ⟨f, ?_, known⟩
    rw [stepped]
    exact ⟨area, called⟩
  case h_2 => cases picked

/-- The client has told an activity in a run. -/
def Told (trace : List (Exchange Overlay)) (activity : ActivityState) : Prop :=
  ⟨.client .activity, activity⟩ ∈ trace

/-- A function is the one that the next decoration pass carries out. -/
def Waits (past : List (Passage H C K)) (f : TagFunction) : Prop :=
  ∃ submenu area, awaited past = some (submenu, area) ∧ f = submenu.opening

end

section

variable {H C K : Type} [Host H] [LightingClient C] [Canvas K] {geo : Bool}
  {past : List (Passage H C K)} {s : Situation H C K} {call : Event}

/-- A step asks within the scopes of the functions it carries out. -/
private theorem asked_within (history : History geo AnyStep past s) :
    ∀ x ∈ (Overlay.run (call.callback geo) s).trace,
      Overlay.MayAsk (Told (Overlay.run (call.callback geo) s).trace) geo
        (fun f => call.Performs (Waits past) f)
        (fun slot => call = .refresh .afterLists → slot = .empty ∨ slot = s.memory.pending)
        x.request := by
  -- Only decoration passes carry out what is in the slot, so what calls park there is left open.
  have parked : ∀ f submenu area, call.called? = some (f, area) → f.deferred = some submenu →
      call = .refresh .afterLists → (⟨some ⟨submenu, area⟩⟩ : DeferredSlot) = .empty ∨
        (⟨some ⟨submenu, area⟩⟩ : DeferredSlot) = s.memory.pending := by
    rintro f submenu area called deferred rfl
    cases called
  refine (Overlay.run_in_scope _ _ (Waits past) (fun _ performs => performs) parked ?_
    (fun _ => .inr rfl)).1
  intro pass
  refine ⟨fun _ => .inl rfl, fun entry found => ?_⟩
  rcases found pass with empty | kept
  · cases empty
  · have pending := pending_eq_awaited history
    rw [← kept] at pending
    obtain ⟨⟨submenu, area⟩, waits, same⟩ := Option.map_eq_some_iff.mp pending.symm
    cases same
    exact ⟨submenu.deferred_opening, submenu, area, waits, rfl⟩

/-- Each popup command of a step is one that a function carried out in it may give. -/
theorem popup_from_function (history : History geo AnyStep past s) {command : HostCommand}
    (shown : .host command ∈ effects (Overlay.run (call.callback geo) s).trace)
    (popup : command.isPopup) : ∃ f, call.Performs (Waits past) f ∧
      f.MayTellHost (Told (Overlay.run (call.callback geo) s).trace) geo command :=
  asked_within history _ (host_mem_effects.mp shown) popup

/-- Each order of a step is one that a function carried out in it may give. -/
theorem order_from_function (history : History geo AnyStep past s) {command : ClientCommand}
    (ordered : .client command ∈ effects (Overlay.run (call.callback geo) s).trace)
    (order : command.isOrder) : ∃ f, call.Performs (Waits past) f ∧ f.MayTellClient command :=
  asked_within history _ (client_mem_effects.mp ordered) order

variable {admits : List (Passage H C K) → Step H C K → Prop} {counts : PopupElement → Prop}
  {f : TagFunction}

/-- Each function that was handed out was offered by a popup of a function that was carried out
after a history of its own. -/
theorem handed_offered (history : History geo admits past s) (handed : Handed counts past f) :
    ∃ q ∈ past, q.Hands counts f ∧ ∃ earlier, History geo admits earlier q.before ∧
      admits earlier q.step ∧ (∀ p ∈ earlier, p ∈ past) ∧ ∃ call g, q.step = .event call ∧
        call.Performs (Waits earlier) g ∧ g.Offers (Told q.outcome.trace) geo f := by
  obtain ⟨q, member, command, told, hands⟩ := handed
  obtain ⟨earlier, before, admitted, included, ran⟩ := history.ran member
  refine ⟨q, member, ⟨command, told, hands⟩, earlier, before, admitted, included, ?_⟩
  rw [ran] at told ⊢
  cases stepped : q.step with
  | event call =>
    rw [stepped] at told
    have popup : command.isPopup := by cases command <;> first | rfl | exact hands.elim
    obtain ⟨g, performs, may⟩ :=
      popup_from_function (before.mono fun _ _ _ => trivial) told popup
    refine ⟨call, g, rfl, performs, ?_⟩
    cases command with
    | addPopupListElement element =>
      obtain ⟨-, rfl⟩ := hands
      exact may
    | openPopupEdit area submitted initial =>
      cases hands
      exact may.1
    | _ => exact hands.elim
  | _ => simp [stepped, Step.run, effects] at told

end

end RadarOverlay
