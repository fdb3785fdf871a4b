import RadarOverlay.Proofs.Deferral
import RadarOverlay.Proofs.Overflows
import RadarOverlay.Proofs.Surroundings

/-!
The redraw flag. The client raises its flag when the background is out of date, and the
overlay passes this on to the host when it reads the flag, which lowers it. The flag is
read after every call of a function and in every decoration pass, and nowhere else.
Main statements: `lowered_add_raised` says that the flag is lowered as often as it goes
up, but for the time it stays up at the end, and `redraws_are_passed_on` that each time
it goes up the host is asked for one redraw.
-/
namespace RadarOverlay

/-- A request that is no part of a redraw check: it neither reads the flag nor asks for a redraw. -/
def OverlayRequest.SkipsCheck : OverlayRequest → Prop
  | .client .takeRedraw | .host (.command .refreshMapContent) => False
  | _ => True

theorem skips_of_question {request : OverlayRequest} (question : request.IsQuestion) :
    request.SkipsCheck := by
  cases request with
  | host request => cases request <;> trivial
  | client request => cases request <;> trivial
  | _ => trivial

/-- The exchange asks the host for a redraw. -/
def Exchange.refreshes : Exchange Overlay → Bool
  | ⟨.host (.command .refreshMapContent), _⟩ => true
  | _ => false

/-- The exchange lowers the redraw flag: it was read, and raised. -/
def Exchange.lowers : Exchange Overlay → Bool
  | ⟨.client .takeRedraw, raised⟩ => raised
  | _ => false

/-- How often the host is asked for a redraw. -/
def refreshes (trace : List (Exchange Overlay)) : Nat := trace.countP (·.refreshes)

/-- How often the redraw flag is lowered. -/
def lowered (trace : List (Exchange Overlay)) : Nat := trace.countP (·.lowers)

@[simp] theorem refreshes_append (first second : List (Exchange Overlay)) :
    refreshes (first ++ second) = refreshes first + refreshes second := List.countP_append

@[simp] theorem lowered_append (first second : List (Exchange Overlay)) :
    lowered (first ++ second) = lowered first + lowered second := List.countP_append

theorem Exchange.refreshes_of_skips {x : Exchange Overlay} (skips : x.request.SkipsCheck) :
    x.refreshes = false := by
  unfold Exchange.refreshes
  split
  · exact skips.elim
  · rfl

theorem Exchange.lowers_of_skips {x : Exchange Overlay} (skips : x.request.SkipsCheck) :
    x.lowers = false := by
  unfold Exchange.lowers
  split
  · exact skips.elim
  · rfl

/-- Where no check is made, nothing is refreshed or lowered. -/
theorem counts_of_skips {trace : List (Exchange Overlay)}
    (skips : ∀ x ∈ trace, x.request.SkipsCheck) : refreshes trace = 0 ∧ lowered trace = 0 := by
  simp only [refreshes, lowered, List.countP_eq_zero, Bool.not_eq_true]
  exact ⟨fun x member => Exchange.refreshes_of_skips (skips x member),
    fun x member => Exchange.lowers_of_skips (skips x member)⟩

section

open Program Simulation

variable {H C K : Type} [Host H] [LightingClient C] [Canvas K] {geo : Bool}

def Situation.raised (s : Situation H C K) : Bool := LightingClient.redraw s.client

/-- How often the redraw flag went up from one situation to the next. -/
def rise (s next : Situation H C K) : Nat := (!s.raised && next.raised).toNat

/-- How often the redraw flag goes up while the requests of a record are served. -/
def rises : Situation H C K → List (Exchange Overlay) → Nat
  | _, [] => 0
  | s, x :: rest => rise s (x.request.serve s).2 + rises (x.request.serve s).2 rest

/-! ## What goes up comes down -/

/-- A request that is served keeps the balance of the flag. -/
theorem serve_balance [LawfulFlag C] (request : OverlayRequest) (s : Situation H C K) :
    (Exchange.lowers ⟨request, (request.serve s).1⟩).toNat + (request.serve s).2.raised.toNat =
      rise s (request.serve s).2 + s.raised.toNat := by
  -- A request that leaves the client alone leaves the flag alone.
  have unchanged (t : Situation H C K) (same : t.client = s.client) :
      t.raised.toNat = rise s t + s.raised.toNat := by
    simp [rise, Situation.raised, same]
  cases request with
  | client request =>
    cases request with
    | takeRedraw =>
      have low : (OverlayRequest.serve (.client .takeRedraw) s).2.raised = false :=
        LawfulFlag.redraw_takeRedraw s.client
      simp only [rise, low, Bool.and_false, Bool.toNat_false, Nat.zero_add, Nat.add_zero]
      rfl
    | command command =>
      let next : Situation H C K := { s with client := LightingClient.obey command s.client }
      have kept : s.raised = true → next.raised = true :=
        LawfulFlag.redraw_obey s.client command
      have balance : next.raised.toNat = rise s next + s.raised.toNat := by
        unfold rise
        cases raised : s.raised with
        | true => simp [kept raised]
        | false => simp
      exact (Nat.zero_add _).trans balance
    | _ => exact (Nat.zero_add _).trans (unchanged _ rfl)
  | _ => exact (Nat.zero_add _).trans (unchanged _ rfl)

/-- In a run the redraw flag is lowered as often as it goes up, counting the start as going up if
it is up there, and the end as lowering if it is up there. -/
theorem lowered_add_raised [LawfulFlag C] {α : Type} (p : Callback α) (s : Situation H C K) :
    lowered (Overlay.run p s).trace + (Overlay.run p s).state.raised.toNat =
      rises s (Overlay.run p s).trace + s.raised.toNat := by
  -- Each request keeps the balance, so the program does: the induction is on its requests.
  induction p generalizing s with
  | done | fault => simp [Overlay.run, run, lowered, rises]
  | ask r next ih =>
    have first := serve_balance r s
    have rest := ih (r.serve s).1 (r.serve s).2
    simp only [Overlay.run] at rest
    simp only [Overlay.run, run, rises, lowered, List.countP_cons]
    simp only [lowered] at rest
    cases lowers : Exchange.lowers ⟨r, (r.serve s).1⟩ <;> simp [lowers] at first ⊢ <;> omega

/-- A run that makes no check keeps the flag raised if it is. -/
theorem raised_of_skips [LawfulFlag C] {α : Type} {p : Callback α} {s : Situation H C K}
    (skips : ∀ x ∈ (Overlay.run p s).trace, x.request.SkipsCheck) (raised : s.raised = true) :
    (Overlay.run p s).state.raised = true := by
  have balance := lowered_add_raised p s
  rw [(counts_of_skips skips).2, raised] at balance
  cases up : (Overlay.run p s).state.raised with
  | true => rfl
  | false => simp [up] at balance

/-! ## Where the flag is read -/

/-- The flag is read in a call of a function, by whatever event, and in a decoration pass. -/
def Event.ChecksRedraw : Event → Prop
  | .callFunction .. | .click .menu .. | .refresh .afterLists => True
  | .callId id _ _ => ∃ function, TagFunction.decode id = .ok function
  | _ => False

namespace Overlay

/-- The rules of programs that make no redraw check. -/
abbrev unchecked : Rules Overlay := only OverlayRequest.SkipsCheck

/-- Drawing makes no check. -/
theorem drawn_unchecked {p : Callback Unit} (drawn : Abides drawing (fun _ => True) p) :
    Abides unchecked (fun _ => True) p := by
  refine drawn_within drawn fun request drawn => ?_
  cases request with
  | host request =>
    cases request with
    | command command => cases command <;> trivial
    | _ => trivial
  | client request => cases request <;> trivial
  | _ => trivial

/-- Carrying out a function makes no check. -/
theorem perform_unchecked (f : TagFunction) (text : String) (area : Rect) :
    Abides unchecked (fun _ => True) (perform geo f text area) := by
  refine performed_within (fun request asked => ?_) text area
  cases request with
  | host request =>
    cases request with
    | command command => cases command <;> trivial
    | _ => trivial
  | client request => cases request <;> trivial
  | _ => trivial

theorem park_unchecked (submenu : TagFunction) (area : Rect) :
    Abides unchecked (fun _ => True) (park submenu area) := by
  simp only [park, DeferredSlot.defer, bind_eq, abides_bind]
  refine ⟨trivial, fun memory _ => ⟨trivial, fun _ _ => ?_⟩⟩
  cases memory.pending.entry <;> simp [OverlayRequest.SkipsCheck]

theorem loadNumber_unchecked (setting : SettingKey) :
    Abides unchecked (fun _ => True) setting.loadNumber := by
  simp only [SettingKey.loadNumber, bind_eq, abides_bind]
  refine ⟨trivial, fun kept _ => ?_⟩
  cases kept with
  | none => exact trivial
  | some value =>
    cases parsed : setting.parseNumber value <;> simp [parsed, OverlayRequest.SkipsCheck]

theorem contentLoaded_unchecked (loaded detailed : Bool) :
    Abides unchecked (fun _ => True) (contentLoaded loaded detailed) := by
  cases loaded with
  | false => exact trivial
  | true =>
    simp only [contentLoaded, ScreenSettings.load, ↓reduceIte, bind_eq, abides_bind]
    refine ⟨trivial, fun kept _ => (loadNumber_unchecked _).mono fun menuX _ =>
      (loadNumber_unchecked _).mono fun menuY _ => ?_⟩
    cases kept.filter (· ≠ "") <;> cases detailed <;> simp [OverlayRequest.SkipsCheck]

theorem move_unchecked (object : ScreenObject) (point : Point) (released : Bool) :
    Abides unchecked (fun _ => True) (move object point released) := by
  cases object with
  | clickRegion => exact trivial
  | menu =>
    cases released <;>
      simp [move, MenuAnchor.save, SettingKey.save, OverlayRequest.SkipsCheck]

/-- An event that calls no function makes no check, unless it is a decoration pass. -/
theorem callback_unchecked {call : Event} (skips : ¬ call.ChecksRedraw) :
    Abides unchecked (fun _ => True) (call.callback geo) := by
  cases call with
  | contentLoaded loaded detailed => exact contentLoaded_unchecked loaded detailed
  | refresh phase =>
    cases phase with
    | backBitmap => exact drawn_unchecked drawBackground_drawn
    | beforeTags => exact drawn_unchecked drawForeground_drawn
    | afterTags => exact trivial
    | afterLists => exact absurd trivial skips
  | callFunction => exact absurd trivial skips
  | callId id text area =>
    simp only [Event.callback, callId]
    cases decoded : TagFunction.decode id with
    | ok function => exact absurd ⟨function, decoded⟩ skips
    | error cause => exact ⟨trivial, fun _ _ => trivial⟩
  | click object point area button =>
    cases object with
    | clickRegion => exact ⟨trivial, fun _ _ => trivial⟩
    | menu => exact absurd trivial skips
  | move object point released => exact move_unchecked object point released

end Overlay

theorem counts_of_unchecked {α : Type} {p : Callback α}
    (unchecked : Abides Overlay.unchecked (fun _ => True) p) (s : Situation H C K) :
    refreshes (Overlay.run p s).trace = 0 ∧ lowered (Overlay.run p s).trace = 0 :=
  counts_of_skips (unchecked.asks_of_only _ s)

/-- What a callback leaves that has made its check: the flag is low, and one redraw was asked for at
most, if the flag was lowered. -/
structure Settles (ran : Outcome Overlay (Situation H C K) Unit) : Prop where
  low : ran.state.raised = false
  relayed : refreshes ran.trace = lowered ran.trace
  once : refreshes ran.trace ≤ 1

/-- What makes no check may come before what settles. -/
theorem Settles.after {α : Type} {p : Callback α} {f : α → Callback Unit} {s : Situation H C K}
    {a : α} (unchecked : Abides Overlay.unchecked (fun _ => True) p)
    (yields : (Overlay.run p s).result = .ok a)
    (settles : Settles (Overlay.run (f a) (Overlay.run p s).state)) :
    Settles (Overlay.run (p.bind f) s) := by
  obtain ⟨unrefreshed, unlowered⟩ := counts_of_unchecked unchecked s
  have split : Overlay.run (p.bind f) s = { Overlay.run (f a) (Overlay.run p s).state with
      trace := (Overlay.run p s).trace ++ (Overlay.run (f a) (Overlay.run p s).state).trace } :=
    run_bind_of_ok yields f
  rw [split]
  refine ⟨settles.low, ?_, ?_⟩
  · rw [refreshes_append, lowered_append, unrefreshed, unlowered, settles.relayed]
  · rw [refreshes_append, unrefreshed, Nat.zero_add]
    exact settles.once

/-- Where a check was made once at most, the host was asked for a redraw exactly if the flag was
raised at the start or went up on the way. -/
theorem Settles.refreshes_eq [LawfulFlag C] {p : Callback Unit} {s : Situation H C K}
    (settles : Settles (Overlay.run p s)) :
    refreshes (Overlay.run p s).trace =
      if s.raised ∨ 0 < rises s (Overlay.run p s).trace then 1 else 0 := by
  have balance := lowered_add_raised p s
  have once := settles.once
  rw [← settles.relayed, settles.low, Bool.toNat_false] at balance
  cases raised : s.raised <;> simp only [raised, Bool.toNat_true, Bool.toNat_false] at balance
  · by_cases up : 0 < rises s (Overlay.run p s).trace
    · simp only [up, or_true, if_true]
      omega
    · simp only [up, Bool.false_eq_true, or_false, if_false]
      omega
  · simp only [true_or, if_true]
    omega

/-- A check asks for a redraw exactly if it finds the flag raised. -/
theorem run_check [LawfulFlag C] (s : Situation H C K) :
    (Overlay.run Overlay.refreshIfRequired s).result = .ok () ∧
      (Overlay.run Overlay.refreshIfRequired s).state.raised = false ∧
      refreshes (Overlay.run Overlay.refreshIfRequired s).trace = s.raised.toNat ∧
      lowered (Overlay.run Overlay.refreshIfRequired s).trace = s.raised.toNat := by
  obtain ⟨result, -, client, -⟩ := run_refreshIfRequired s
  refine ⟨result, ?_, ?_⟩
  · rw [Situation.raised, client]
    exact LawfulFlag.redraw_takeRedraw s.client
  · have raised : s.raised = (LightingClient.takeRedraw s.client).1 := rfl
    rw [raised]
    cases redraw : (LightingClient.takeRedraw s.client).1 <;>
      simp [Overlay.refreshIfRequired, Overlay.run, run, OverlayRequest.serve, ClientRequest.serve,
        redraw, refreshes, lowered, Exchange.refreshes, Exchange.lowers]

theorem check_settles [LawfulFlag C] (s : Situation H C K) :
    Settles (Overlay.run Overlay.refreshIfRequired s) := by
  obtain ⟨-, low, asked, read⟩ := run_check s
  refine ⟨low, asked.trans read.symm, ?_⟩
  rw [asked]
  exact Bool.toNat_le s.raised

/-- A call settles, whatever is called: it ends with its check. -/
theorem callFunction_settles [LawfulFlag C] (geo : Bool) (f : TagFunction) (text : String)
    (area : Rect) (s : Situation H C K) :
    Settles (Overlay.run (Overlay.callFunction geo f text area) s) := by
  simp only [Overlay.callFunction, bind_eq]
  cases f.deferred with
  | none =>
    obtain ⟨_, performed⟩ := (perform_total geo f text area).run OverlayRequest.serve s
    exact .after (Overlay.perform_unchecked f text area) performed (check_settles _)
  | some submenu =>
    exact .after (Overlay.park_unchecked submenu area) (park_onlyAsks submenu area s).result
      (check_settles _)

theorem click_settles [LawfulFlag C] (geo : Bool) (point : Point) (area : Rect)
    (button : MouseButton) (s : Situation H C K) :
    Settles (Overlay.run (Overlay.click geo .menu point area button) s) := by
  have unchecked : Abides Overlay.unchecked (fun _ => True) (Overlay.opensMenu button) := by
    simp [Overlay.opensMenu, OverlayRequest.SkipsCheck]
  obtain ⟨_, opens⟩ := (Overlay.opensMenu_total button).run OverlayRequest.serve s
  exact .after unchecked opens (callFunction_settles geo _ "" area _)

/-! ## The second check of a decoration pass -/

/-- Opening a submenu leaves the client as it is. -/
theorem client_of_opening (geo : Bool) (submenu : Submenu) (area : Rect) (s : Situation H C K) :
    (Overlay.run (Overlay.perform geo submenu.opening "" area) s).state.client = s.client := by
  have inner : Abides (submenu.opening.scope (fun _ => True) geo) (fun _ => True)
      (Overlay.perform geo submenu.opening "" area) := perform_abides "" area
  have kept : (submenu.opening.scope (fun _ => True) geo).KeptBy
      (OverlayRequest.serve (H := H) (C := C) (K := K)) (fun now => now.client = s.client)
      (fun _ => True) := by
    intro request now same asked _
    cases request with
    | client request =>
      cases request with
      | command command => cases submenu <;> cases command <;> cases asked
      | takeRedraw => exact asked.elim
      | _ => exact ⟨trivial, same⟩
    | _ => exact ⟨trivial, same⟩
  exact (inner.run kept rfl fun _ _ => trivial).2.1

/-- Calling the function that opens a submenu asks for no redraw if the flag is low. -/
theorem run_opening_low [LawfulFlag C] (geo : Bool) (submenu : Submenu) (area : Rect)
    {s : Situation H C K} (low : s.raised = false) :
    let ran := Overlay.run (Overlay.callFunction geo submenu.opening "" area) s
    ran.state.raised = false ∧ refreshes ran.trace = 0 ∧ lowered ran.trace = 0 := by
  let opened := Overlay.run (Overlay.perform geo submenu.opening "" area) s
  have result : opened.result = .ok () := (run_perform_opening geo submenu area s).1
  have still : opened.state.raised = false := by
    rw [Situation.raised, client_of_opening geo submenu area s]
    exact low
  obtain ⟨unrefreshed, unlowered⟩ :=
    counts_of_unchecked (Overlay.perform_unchecked submenu.opening "" area) s
  obtain ⟨-, checked, asked, read⟩ := run_check opened.state
  rw [still] at asked read
  have split : Overlay.run (Overlay.callFunction geo submenu.opening "" area) s =
      { Overlay.run Overlay.refreshIfRequired opened.state with
        trace := opened.trace ++ (Overlay.run Overlay.refreshIfRequired opened.state).trace } := by
    rw [Overlay.callFunction, submenu.deferred_opening]
    exact run_bind_of_ok result _
  rw [split]
  refine ⟨checked, ?_, ?_⟩
  · rw [refreshes_append, unrefreshed, asked, Bool.toNat_false]
  · rw [lowered_append, unlowered, read, Bool.toNat_false]

/-- What waits is opened without a redraw if the flag is low. -/
theorem run_flush_low [LawfulFlag C] (geo : Bool) {s : Situation H C K}
    {waiting : Option (Submenu × Rect)} (pending : s.memory.pending.entry =
      waiting.map fun (submenu, area) => ⟨submenu.opening, area⟩) (low : s.raised = false) :
    let ran := Overlay.run (Overlay.flush geo) s
    ran.state.raised = false ∧ refreshes ran.trace = 0 ∧ lowered ran.trace = 0 := by
  obtain ⟨⟨anchor, ⟨entry⟩⟩, host, client, canvas⟩ := s
  cases pending
  cases waiting with
  | none => exact ⟨low, rfl, rfl⟩
  | some waiting =>
    let now : Situation H C K := ⟨⟨anchor, .empty⟩, host, client, canvas⟩
    have still : now.raised = false := low
    exact run_opening_low geo waiting.1 waiting.2 still

/-- A decoration pass that is completed settles: its second check, after what waited was opened,
finds the flag as the first has left it. -/
theorem drawDecorations_settles [LawfulFlag C] {s : Situation H C K}
    {waiting : Option (Submenu × Rect)} (pending : s.memory.pending.entry =
      waiting.map fun (submenu, area) => ⟨submenu.opening, area⟩)
    (completed : (Overlay.run (Overlay.drawDecorations geo) s).result = .ok ()) :
    Settles (Overlay.run (Overlay.drawDecorations geo) s) := by
  let drawn := Overlay.run Overlay.drawBadge s
  let checked := Overlay.run Overlay.refreshIfRequired drawn.state
  have waits : checked.state.memory.pending.entry =
      waiting.map fun (submenu, area) => ⟨submenu.opening, area⟩ := by
    rw [(run_refreshIfRequired drawn.state).2.1, (run_drawBadge s).1, pending]
  obtain ⟨result, low, asked, read⟩ := run_check drawn.state
  obtain ⟨still, unrefreshed, unlowered⟩ := run_flush_low geo waits low
  have split : Overlay.run (Overlay.refreshIfRequired.bind fun _ => Overlay.flush geo) drawn.state =
      { Overlay.run (Overlay.flush geo) checked.state with
        trace := checked.trace ++ (Overlay.run (Overlay.flush geo) checked.state).trace } :=
    run_bind_of_ok result _
  cases badge : drawn.result with
  | error cause =>
    have stopped := run_bind_of_error badge fun _ =>
      Overlay.refreshIfRequired.bind fun _ => Overlay.flush geo
    cases (congrArg Outcome.result stopped).symm.trans completed
  | ok =>
    refine .after (Overlay.drawn_unchecked Overlay.drawBadge_drawn) badge ?_
    rw [← bind_eq] at split
    rw [split]
    refine ⟨still, ?_, ?_⟩
    · rw [refreshes_append, lowered_append, unrefreshed, unlowered, asked, read]
    · rw [refreshes_append, unrefreshed, asked]
      exact Bool.toNat_le _

/-! ## Every event -/

/-- An event that reads the flag settles, if it is completed. -/
theorem event_settles [LawfulFlag C] {past : List (Passage H C K)} {s : Situation H C K}
    (history : History geo AnyStep past s) {call : Event} (checks : call.ChecksRedraw)
    (completed : (Overlay.run (call.callback geo) s).result = .ok ()) :
    Settles (Overlay.run (call.callback geo) s) := by
  cases call with
  | refresh phase =>
    cases phase with
    | afterLists => exact drawDecorations_settles (pending_eq_awaited history) completed
    | _ => exact checks.elim
  | callFunction f text area => exact callFunction_settles geo f text area s
  | callId id text area =>
    obtain ⟨f, decoded⟩ := checks
    have called : (Event.callId id text area).callback geo =
        Overlay.callFunction geo f text area := by
      simp only [Event.callback, Overlay.callId, decoded]
    rw [called]
    exact callFunction_settles geo f text area s
  | click object point area button =>
    cases object with
    | menu => exact click_settles geo point area button s
    | clickRegion => exact checks.elim
  | _ => exact checks.elim

/-- An event that does not read the flag makes no check, and neither does one that stops at an
overflow. -/
theorem event_skips {call : Event} {s : Situation H C K}
    (skips : ¬ call.ChecksRedraw ∨ (Overlay.run (call.callback geo) s).result ≠ .ok ()) :
    ∀ x ∈ (Overlay.run (call.callback geo) s).trace, x.request.SkipsCheck := by
  rcases skips with unchecking | stopped
  · exact (Overlay.callback_unchecked unchecking).asks_of_only _ s
  · cases result : (Overlay.run (call.callback geo) s).result with
    | ok => exact absurd result stopped
    | error cause =>
      exact fun x member => skips_of_question ((callback_stopsEarly geo call).run result x member)

/-- Whatever an event does, the host is asked for a redraw as often as the flag goes up, counting
the start and the end as for the flag. -/
theorem event_balance [LawfulFlag C] {past : List (Passage H C K)} {s : Situation H C K}
    (history : History geo AnyStep past s) (call : Event) :
    let ran := Overlay.run (call.callback geo) s
    refreshes ran.trace + ran.state.raised.toNat = rises s ran.trace + s.raised.toNat := by
  intro ran
  have relayed : refreshes ran.trace = lowered ran.trace := by
    by_cases settles : call.ChecksRedraw ∧ ran.result = .ok ()
    · exact (event_settles history settles.1 settles.2).relayed
    · obtain ⟨unrefreshed, unlowered⟩ :=
        counts_of_skips (event_skips (Classical.not_and_iff_not_or_not.mp settles))
      rw [unrefreshed, unlowered]
  rw [relayed]
  exact lowered_add_raised (call.callback geo) s

/-! ## A whole history -/

/-- What changes the client between two events does not lower its redraw flag. -/
def KeepsFlag (_ : List (Passage H C K)) (step : Step H C K) : Prop :=
  ∀ change, step = .clientChanges change →
    ∀ client, LightingClient.redraw client = true → LightingClient.redraw (change client) = true

/-- How often the redraw flag went up in a step: on the way of an event, or by the change. -/
def Passage.rises (p : Passage H C K) : Nat :=
  match p.step with
  | .event _ => RadarOverlay.rises p.before p.outcome.trace
  | _ => rise p.before p.outcome.state

/-- What is counted in each step, over all steps. -/
def tally (count : Passage H C K → Nat) (past : List (Passage H C K)) : Nat :=
  past.foldr (fun p others => count p + others) 0

/-- The situation that the oldest step kept was taken in. -/
def origin (past : List (Passage H C K)) (s : Situation H C K) : Situation H C K :=
  (past.getLast?.map Passage.before).getD s

theorem origin_take (geo : Bool) (step : Step H C K) (past : List (Passage H C K))
    (s : Situation H C K) :
    origin (.take geo step s :: past) (step.run geo s).state = origin past s := by
  cases past with
  | nil => rfl
  | cons p past => simp [origin, List.getLast?_cons]

/-- A step keeps the balance of redraws and flag. -/
theorem step_balance [LawfulFlag C] {past : List (Passage H C K)} {s : Situation H C K}
    (history : History geo AnyStep past s) {step : Step H C K} (admitted : KeepsFlag past step) :
    let p := Passage.take geo step s
    refreshes p.outcome.trace + p.outcome.state.raised.toNat = p.rises + s.raised.toNat := by
  intro p
  cases step with
  | event call => exact event_balance history call
  | clientChanges change =>
    have kept : s.raised = true → p.outcome.state.raised = true := admitted change rfl s.client
    have quiet : refreshes p.outcome.trace = 0 := rfl
    have rose : p.rises = rise s p.outcome.state := rfl
    rw [quiet, rose, rise]
    cases raised : s.raised with
    | true => simp [kept raised]
    | false => simp
  | hostChanges | canvasChanges =>
    have quiet : refreshes p.outcome.trace = 0 := rfl
    have rose : p.rises = rise s p.outcome.state := rfl
    have same : p.outcome.state.raised = s.raised := rfl
    rw [quiet, rose, rise, same]
    cases s.raised <;> rfl

/-- Over a history the host is asked for a redraw as often as the flag goes up. -/
theorem history_balance [LawfulFlag C] {past : List (Passage H C K)} {s : Situation H C K}
    (history : History geo KeepsFlag past s) :
    tally (refreshes ·.outcome.trace) past + s.raised.toNat =
      tally Passage.rises past + (origin past s).raised.toNat := by
  induction history with
  | created fresh => rfl
  | @next past s earlier step admitted ih =>
    have balance := step_balance (earlier.mono fun _ _ _ => trivial) admitted
    rw [origin_take]
    simp only [tally, List.foldr_cons] at ih ⊢
    simp only [Passage.take] at balance ⊢
    omega

/-- No redraw is lost and none is asked for twice. After a call of a function and after a decoration
pass that is completed the redraw flag is low, and the host was asked for one redraw if the flag was
raised before or went up on the way, and for none otherwise. Any other event, and one that stops at
an overflow, neither asks for a redraw nor reads the flag nor lowers it. So over a history the host
is asked for a redraw as often as the flag goes up, but for the time that it is still up at the
end. -/
theorem redraws_are_passed_on [LawfulFlag C] {past : List (Passage H C K)} {s : Situation H C K}
    (history : History geo KeepsFlag past s) :
    (∀ call : Event, let ran := Overlay.run (call.callback geo) s
      call.ChecksRedraw → ran.result = .ok () → ran.state.raised = false ∧
        refreshes ran.trace = if s.raised ∨ 0 < rises s ran.trace then 1 else 0) ∧
    (∀ call : Event, let ran := Overlay.run (call.callback geo) s
      ¬ call.ChecksRedraw ∨ ran.result ≠ .ok () → refreshes ran.trace = 0 ∧
        (∀ x ∈ ran.trace, x.request ≠ .client .takeRedraw) ∧
        (s.raised = true → ran.state.raised = true)) ∧
    tally (refreshes ·.outcome.trace) past + s.raised.toNat =
      tally Passage.rises past + (origin past s).raised.toNat := by
  have free : History geo AnyStep past s := history.mono fun _ _ _ => trivial
  refine ⟨?_, ?_, history_balance history⟩
  · intro call ran checks completed
    have settles := event_settles free checks completed
    exact ⟨settles.low, settles.refreshes_eq⟩
  · intro call ran unchecked
    have skips := event_skips unchecked
    refine ⟨(counts_of_skips skips).1, ?_, raised_of_skips skips⟩
    intro x member read
    have skipped := skips x member
    rw [read] at skipped
    exact skipped

/-- Control is toggled, and the flag goes up once more from outside. The decoration pass asks for
one redraw, and before it the flag went up one time more than a redraw was asked for. -/
theorem redraws_are_passed_on_pass :
    let toggle : Step SceneHost SceneClient SceneCanvas :=
      .event (.callFunction .toggleControlling "" ⟨0, 0, 60, 20⟩)
    let raise : Step SceneHost SceneClient SceneCanvas :=
      .clientChanges fun client => { client with redraw := true }
    let toggled := (toggle.run false Scene.controlled).state
    let s := (raise.run false toggled).state
    let past := [Passage.take false raise toggled, .take false toggle Scene.controlled]
    let pass := Passage.take false (.event (.refresh .afterLists)) s
    pass.outcome.state.raised = false ∧ refreshes pass.outcome.trace = 1 ∧
      tally (refreshes ·.outcome.trace) past + 1 = tally Passage.rises past := by
  intro toggle raise toggled s past pass
  have created : History false KeepsFlag [] Scene.controlled := .created rfl
  have toggles : KeepsFlag [] toggle := by
    intro change changes
    simp [toggle] at changes
  have raises : KeepsFlag [.take false toggle Scene.controlled] raise := by
    intro change changes client _
    rw [← Step.clientChanges.inj changes]
    rfl
  have history : History false KeepsFlag past s := (created.next toggle toggles).next raise raises
  obtain ⟨checks, -, balance⟩ := redraws_are_passed_on history
  have decorated : pass.decorated = true := by decide +kernel
  have completed : pass.outcome.result = .ok () := (Passage.decorated_iff.mp decorated).2
  obtain ⟨low, asked⟩ := checks (.refresh .afterLists) trivial completed
  exact ⟨low, asked, balance⟩

end

end RadarOverlay
