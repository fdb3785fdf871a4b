import RadarOverlay.Proofs.CallbackScope
import RadarOverlay.Proofs.Refinement
import RadarOverlay.Proofs.SavedTransforms

/-!
What a screen holds, and how it gives it back: the client's screen for its whole life, and
a graphics context for each pass that draws. A pass that cannot draw leaves no trace, so
that a submenu goes on waiting. Main statements: `runLife_calls` says how the calls of a
life begin and end, `refresh_gives_back` the same of a refresh, `waits_until_drawn` when
the slot can change, and `resources_are_given_back` puts them together.
-/
namespace RadarOverlay.Native

open Program

/-- One step in the life of a screen. The host makes each call with the screen, if there is one
by then, or without any. -/
inductive LifeStep (σ : Type) where
  | entry (given : Bool) (call : EntryPoint)
  | destroy (given : Bool)
  /-- Host or client change on their own. -/
  | outsideChanges (change : σ → σ)

/-- The step destroys the screen, if there is one. -/
def LifeStep.destroys {σ : Type} : LifeStep σ → Bool
  | .destroy given => given
  | _ => false

section

variable {σ : Type}

/-- The outcome of a step, with the screen that is left. -/
def LifeStep.run (outside : Outside σ) (live : Option Screen) (step : LifeStep σ)
    (s : ShellSituation σ) : Outcome Shell (ShellSituation σ) (Option Screen) :=
  match step with
  | .entry given call =>
    (Shell.run outside (call.program (if given then live else none)) s).andThen
      fun _ s => ⟨.ok live, s, []⟩
  | .destroy given =>
    match if given then live else none with
    | none => ⟨.ok live, s, []⟩
    | some screen => (Shell.run outside screen.destroy s).andThen fun _ s => ⟨.ok none, s, []⟩
  | .outsideChanges change => ⟨.ok live, { s with outside := change s.outside }, []⟩

/-- The outcome of steps in order, up to the first overflow. -/
def runLife (outside : Outside σ) : List (LifeStep σ) → Option Screen → ShellSituation σ →
    Outcome Shell (ShellSituation σ) (Option Screen)
  | [], live, s => ⟨.ok live, s, []⟩
  | step :: rest, live, s =>
    (step.run outside live s).andThen fun live s => runLife outside rest live s

/-- The outcome of a life: a screen is created, with or without function tables, and the steps
follow. -/
def life (outside : Outside σ) (hasHost hasClient geo : Bool) (steps : List (LifeStep σ))
    (s : ShellSituation σ) : Outcome Shell (ShellSituation σ) (Option Screen) :=
  (Shell.run outside (Screen.create hasHost hasClient geo) s).andThen
    fun live s => runLife outside steps live s

end

/-- A call that creates the client's screen or gives it back. -/
def NativeCall.concernsScreen : NativeCall → Bool
  | .createScreen _ | .destroyScreen _ => true
  | _ => false

/-! ## Saved transforms on the wire -/

namespace Shell

/-- What a native call tells a graphics context about its transforms. -/
def mark? : Exchange Shell → Option TransformMark
  | ⟨.call (.save _), state⟩ => some (.saved ⟨state⟩)
  | ⟨.call (.restore _ state), _⟩ => some (.restored ⟨state⟩)
  | _ => none

def marks (trace : List (Exchange Shell)) : List TransformMark := trace.filterMap mark?

theorem marks_append (first second : List (Exchange Shell)) :
    marks (first ++ second) = marks first ++ marks second := by
  simp [marks]

/-- A call that saves or restores a transform. -/
def marked : NativeCall → Bool
  | .save _ | .restore .. => true
  | _ => false

theorem marks_eq_nil {trace : List (Exchange Shell)}
    (unmarked : ∀ native ∈ calls trace, marked native = false) : marks trace = [] := by
  rw [marks, List.filterMap_eq_nil_iff]
  intro x member
  unfold mark?
  split
  · cases unmarked _ (List.mem_filterMap.mpr ⟨_, member, rfl⟩)
  · cases unmarked _ (List.mem_filterMap.mpr ⟨_, member, rfl⟩)
  · rfl

end Shell

section

variable {σ : Type} {outside : Outside σ}

/-- The wire image of a request saves or restores a transform only if the request does. -/
theorem wireImage_unmarked {screen : Handle} {context : Adapter.Context} {request : OverlayRequest}
    {native : NativeCall} (unmarked : request.IsUnmarked)
    (image : wireImage screen context request = some native) : Shell.marked native = false := by
  cases request with
  | canvas request =>
    cases request with
    | surface => cases image
    | measureText text =>
      rw [wireImage, canvasCrossing] at image
      split at image <;> cases image
      rfl
    | saveTransform => exact unmarked.elim
    | command command =>
      rw [wireImage, canvasCrossing, Crossing.call?_ofCommand] at image
      cases command with
      | drawText text origin color =>
        obtain ⟨text, -, rfl⟩ := Option.map_eq_some_iff.mp image
        rfl
      | restore state => exact unmarked.elim
      | _ => cases image; rfl
  | host request =>
    have made := wireImage_party image
    cases native <;> first | rfl | cases made
  | client request =>
    have made := wireImage_party image
    cases native <;> first | rfl | cases made
  | _ => cases image

/-- The adapter saves and restores the transforms that the overlay saves and restores. -/
theorem speak_marks (screen : Handle) (context : Adapter.Context) (request : OverlayRequest)
    (s : ShellSituation σ) :
    ∃ trace, trace.filterMap Shell.mark? =
        (Exchange.mark? ⟨request, (decoded outside screen context request s).1⟩).toList ∧
      (Adapter.speak screen context request).run (Shell.serve outside) s =
        ⟨.ok (decoded outside screen context request s).1,
          (decoded outside screen context request s).2, trace⟩ := by
  by_cases unmarked : request.IsUnmarked
  · obtain ⟨trace, calls, ran⟩ := speak_faithful screen context request s
    refine ⟨trace, ?_, ran⟩
    rw [Exchange.mark?_eq_none unmarked]
    apply Shell.marks_eq_nil
    intro native member
    rw [Shell.calls, calls, Option.mem_toList] at member
    exact wireImage_unmarked unmarked member
  · cases request with
    | canvas request =>
      cases request with
      | saveTransform => exact ⟨_, rfl, rfl⟩
      | command command =>
        cases command with
        | restore state => exact ⟨_, rfl, rfl⟩
        | _ => exact absurd trivial unmarked
      | _ => exact absurd trivial unmarked
    | _ => exact absurd trivial unmarked

/-! ## A refresh -/

/-- There is something to draw, and something to draw on: the number is that of a phase that is
drawn in, and the device context is not null. -/
def Drawable (device : UInt64) (phase : Int32) : Prop :=
  device ≠ 0 ∧ ∃ pass, phaseCodes.lookup phase = some pass ∧ pass ≠ .afterTags

theorem reading_of_undrawable {device : UInt64} {phase : Int32}
    (undrawable : ¬ Drawable device phase) :
    (EntryPoint.refresh device phase).reading = .nothing := by
  simp only [EntryPoint.reading]
  split
  · rfl
  · rfl
  · rename_i pass tags known
    split
    · rfl
    · rename_i given
      exact absurd ⟨given, pass, known, fun same => tags (same ▸ rfl)⟩ undrawable

theorem reading_of_drawable {device : UInt64} {phase : Int32} (drawable : Drawable device phase) :
    ∃ pass, phaseCodes.lookup phase = some pass ∧
      (EntryPoint.refresh device phase).reading = .pass device pass := by
  obtain ⟨given, pass, known, drawn⟩ := drawable
  refine ⟨pass, known, ?_⟩
  simp only [EntryPoint.reading, known]
  cases pass <;> first | exact absurd rfl drawn | simp [given]

/-- What a refresh leaves that comes to its end. Without anything to draw or to draw on it does
nothing. With a graphics context that is refused it does nothing but ask for it. A context that it
gets it gives back at the end; in between it calls on no other context, and what it saves there it
restores there. -/
def GivesBack (outside : Outside σ) (device : UInt64) (phase : Int32) (s : ShellSituation σ)
    (ran : Outcome Shell (ShellSituation σ) Unit) : Prop :=
  (¬ Drawable device phase → Shell.calls ran.trace = [] ∧ ran.state = s) ∧
  (Drawable device phase → match outside (.createGraphics device) s.outside with
    | (none, o) =>
      Shell.calls ran.trace = [.createGraphics device] ∧ ran.state = { s with outside := o }
    | (some graphics, _) => ∃ between, Shell.calls ran.trace =
        .createGraphics device :: between ++ [.releaseGraphics graphics] ∧
      (∀ native ∈ between, native.isLifecycle = false ∧
        ∀ other, native.party = .canvas other → other = graphics) ∧
      Nested (Shell.marks ran.trace))

/-- The calls in a turn's pass are on the context of the pass, and neither create nor give back. -/
theorem images_on_context {screen : Handle} {turn : Turn} :
    ∀ native ∈ turn.images screen, native.isLifecycle = false ∧
      ∀ other, native.party = .canvas other → other = turn.context.graphics := by
  intro native member
  obtain ⟨x, -, image⟩ := List.mem_filterMap.mp member
  refine ⟨wireImage_isLifecycle image, fun other party => ?_⟩
  have made := wireImage_party image
  rw [party] at made
  cases request : x.request <;> rw [request] at made <;> cases made
  rfl

/-- A pass that is drawn to its end saves and restores in nested blocks. -/
theorem pass_nests {screen : Screen} {device : UInt64} {graphics : Handle} {phase : RefreshPhase}
    {s : ShellSituation σ} {o : σ} (given : device ≠ 0)
    (reply : outside (.createGraphics device) s.outside = (some graphics, o))
    (completed : (Shell.run outside (screen.draw device phase) s).result = .ok ()) :
    Nested (Shell.marks (Shell.run outside (screen.draw device phase) s).trace) := by
  let context : Adapter.Context := ⟨device, graphics⟩
  let next : ShellSituation σ := { s with outside := o }
  obtain ⟨opened, left, calls⟩ := openCanvas_yields given reply
  obtain ⟨same, -, heard⟩ := run_via_image Exchange.mark? (speak_marks screen.client context)
    (Overlay.refresh screen.geo phase) next
  -- The pass opens the context, runs the callback and closes the context; only the callback saves.
  obtain ⟨_, yields, rest⟩ := yields_of_bind completed
  cases opened.symm.trans yields
  obtain ⟨_, ran, -⟩ := yields_of_bind rest
  rw [Shell.run] at left opened
  rw [left] at ran
  have unmarked :
      Shell.marks ((Adapter.openCanvas device).run (Shell.serve outside) s).trace = [] := by
    apply Shell.marks_eq_nil
    rw [← Shell.run, calls]
    simp [Shell.marked]
  have nested : Nested (Shell.marks ((screen.runCallback context
      (Overlay.refresh screen.geo phase)).run (Shell.serve outside) next).trace) := by
    rw [Shell.marks, Screen.runCallback, heard]
    exact refresh_nests screen.geo phase _ _ next () (same.symm.trans ran)
  rw [Screen.draw, bind_eq, Shell.run, run_bind_of_ok opened, Shell.marks_append, unmarked, left]
  simp only [Option.map_some, bind_eq, run_bind_of_ok ran, Shell.marks_append, List.nil_append]
  have closed : Shell.marks ((Adapter.closeCanvas context).run (Shell.serve outside)
      ((screen.runCallback context (Overlay.refresh screen.geo phase)).run (Shell.serve outside)
        next).state).trace = [] := rfl
  rw [closed, List.append_nil]
  exact nested

/-- A refresh that comes to its end gives back what it got. -/
theorem refresh_gives_back {screen : Screen} {device : UInt64} {phase : Int32}
    {s : ShellSituation σ}
    (completed : (Shell.run outside (screen.refresh device phase) s).result = .ok ()) :
    GivesBack outside device phase s (Shell.run outside (screen.refresh device phase) s) := by
  let entry := EntryPoint.refresh device phase
  obtain ⟨turn, final, taken⟩ :=
    turn_of_completed (show (Shell.run outside (entry.on screen) s).result = .ok () from completed)
  obtain ⟨-, left, calls⟩ := entry_refines taken
  refine ⟨fun undrawable => ?_, fun drawable => ?_⟩
  · have read := reading_of_undrawable undrawable
    simp only [Screen.turn, entry, read] at taken
    cases taken
    exact ⟨calls, left⟩
  · obtain ⟨pass, known, read⟩ := reading_of_drawable drawable
    rcases turn_of_pass read taken with
      ⟨o, reply, rfl, rfl⟩ | ⟨graphics, o, ran, reply, rfl, -, rfl, -⟩
    · rw [reply]
      exact ⟨calls, left⟩
    · rw [reply]
      have runs := on_of_reading outside screen entry
      simp only [entry, read] at runs
      have draws : screen.refresh device phase = screen.draw device pass := runs.2
      refine ⟨_, calls, images_on_context, ?_⟩
      rw [draws] at completed ⊢
      exact pass_nests runs.1 reply completed

/-! ## A life -/

/-- The calls of a turn leave the client's screen in being. -/
theorem turn_spares_screen (screen : Handle) (turn : Turn) :
    ∀ native ∈ turn.calls screen, native.concernsScreen = false := by
  have spared : ∀ native ∈ turn.images screen, native.concernsScreen = false := by
    intro native member
    have lives := (images_on_context native member).1
    cases native <;> first | rfl | cases lives
  intro native member
  cases turn with
  | idle => exact spared native member
  | event call trace => exact spared native member
  | refused device =>
    cases List.mem_singleton.mp member
    rfl
  | pass context phase trace =>
    rcases List.mem_append.mp member with first | last
    · rcases List.mem_cons.mp first with rfl | within
      · rfl
      · exact spared native within
    · cases List.mem_singleton.mp last
      rfl

/-- An entry point that is called without a screen does nothing. -/
theorem run_entry_none (call : EntryPoint) (s : ShellSituation σ) :
    Shell.run outside (call.program none) s = ⟨.ok (), s, []⟩ := rfl

/-- Without a screen a step calls nothing, and no screen comes into being. -/
theorem step_without_screen (outside : Outside σ) (step : LifeStep σ) (s : ShellSituation σ) :
    (step.run outside none s).result = .ok none ∧
      Shell.calls (step.run outside none s).trace = [] := by
  cases step with
  | entry given call => cases given <;> exact ⟨rfl, rfl⟩
  | destroy given => cases given <;> exact ⟨rfl, rfl⟩
  | outsideChanges change => exact ⟨rfl, rfl⟩

/-- A step that comes to its end destroys the screen, with one call to the client and no other, or
it leaves it in being. -/
theorem step_with_screen {screen : Screen} {step : LifeStep σ} {s : ShellSituation σ}
    {live : Option Screen} (completed : (step.run outside (some screen) s).result = .ok live) :
    if step.destroys then
      live = none ∧
        Shell.calls (step.run outside (some screen) s).trace = [.destroyScreen screen.client]
    else
      live = some screen ∧ ∀ native ∈ Shell.calls (step.run outside (some screen) s).trace,
        native.concernsScreen = false := by
  cases step with
  | entry given call =>
    cases given with
    | false =>
      cases completed
      exact ⟨rfl, by simp [LifeStep.run, run_entry_none, Outcome.andThen, Shell.calls]⟩
    | true =>
      obtain ⟨_, ends, same, split⟩ := yields_of_andThen completed
      cases same
      obtain ⟨turn, final, taken⟩ := turn_of_completed ends
      have calls := (entry_refines taken).calls
      refine ⟨rfl, fun native member => turn_spares_screen screen.client turn native ?_⟩
      rw [← calls]
      have made : Shell.calls (LifeStep.run outside (some screen) (.entry true call) s).trace =
          Shell.calls (Shell.run outside (call.on screen) s).trace := by
        refine (congrArg (fun ran => Shell.calls ran.trace) split).trans ?_
        exact congrArg Shell.calls (List.append_nil _)
      rw [← made]
      exact member
  | destroy given =>
    cases given with
    | false =>
      cases completed
      exact ⟨rfl, by simp [LifeStep.run, Shell.calls]⟩
    | true =>
      cases completed
      exact ⟨rfl, rfl⟩
  | outsideChanges change =>
    cases completed
    exact ⟨rfl, by simp [LifeStep.run, Shell.calls]⟩

theorem runLife_without_screen (steps : List (LifeStep σ)) (s : ShellSituation σ) :
    Shell.calls (runLife outside steps none s).trace = [] := by
  induction steps generalizing s with
  | nil => rfl
  | cons step rest ih =>
    obtain ⟨ends, silent⟩ := step_without_screen outside step s
    simp only [runLife, Outcome.andThen, ends]
    rw [Shell.calls_append, silent, ih, List.append_nil]

/-- The calls of a life with a screen leave it in being, up to the one that gives it back. There is
that one, and no call after it, if the host destroys the screen. -/
theorem runLife_calls {screen : Screen} {steps : List (LifeStep σ)} {s : ShellSituation σ}
    {live : Option Screen} (completed : (runLife outside steps (some screen) s).result = .ok live) :
    ∃ between, (∀ native ∈ between, native.concernsScreen = false) ∧
      Shell.calls (runLife outside steps (some screen) s).trace =
        between ++ if steps.any (·.destroys) then [.destroyScreen screen.client] else [] := by
  induction steps generalizing s with
  | nil => exact ⟨[], by simp, rfl⟩
  | cons step rest ih =>
    obtain ⟨left, ends, others, split⟩ := yields_of_andThen completed
    let now := step.run outside (some screen) s
    have made : Shell.calls (runLife outside (step :: rest) (some screen) s).trace =
        Shell.calls now.trace ++ Shell.calls (runLife outside rest left now.state).trace := by
      rw [runLife, split, Shell.calls_append]
    have first := step_with_screen ends
    rw [made]
    -- Once the screen is destroyed nothing is called any more, so there is no second destruction.
    cases destroyed : step.destroys with
    | true =>
      rw [destroyed, if_pos rfl] at first
      obtain ⟨rfl, last⟩ := first
      refine ⟨[], by simp, ?_⟩
      rw [last, runLife_without_screen]
      simp [destroyed]
    | false =>
      rw [destroyed, if_neg (by simp)] at first
      obtain ⟨rfl, spared⟩ := first
      obtain ⟨between, kept, calls⟩ := ih others
      refine ⟨Shell.calls now.trace ++ between, ?_, ?_⟩
      · intro native member
        rcases List.mem_append.mp member with now | later
        · exact spared native now
        · exact kept native later
      · rw [calls, List.append_assoc]
        simp [destroyed]

/-! ## The submenu that waits -/

/-- A step that may change what waits: a decoration pass that gets a graphics context, or a call
that picks a submenu. -/
def LifeStep.MovesSlot (outside : Outside σ) (s : ShellSituation σ) : LifeStep σ → Prop
  | .entry true (.refresh device phase) =>
    device ≠ 0 ∧ phaseCodes.lookup phase = some .afterLists ∧
      (outside (.createGraphics device) s.outside).1.isSome
  | .entry true (.functionCall id _ _) =>
    ∃ f, TagFunction.decode id = .ok f ∧ f.deferred.isSome
  | _ => False

/-- An event that calls for no submenu leaves the slot alone, unless it is a decoration pass. -/
theorem overlay_pending {screen : Screen} {context : Adapter.Context} {call : Event}
    {s : ShellSituation σ} (other : call ≠ .refresh .afterLists)
    (unpicked : ∀ f area, call.called? = some (f, area) → f.deferred = none) :
    (screen.overlay outside context call s).state.memory.pending = s.memory.pending := by
  have permitted : ∀ f, call.Performs (fun _ => True) f → True := fun _ _ => trivial
  have abides : Abides (Overlay.scope (fun _ => True) screen.geo (fun _ => True)
      (· = s.memory.pending)) (fun _ => True) (call.callback screen.geo) := by
    refine Overlay.callback_abides permitted ?_ fun pass => absurd pass other
    intro f submenu area called deferred
    cases (unpicked f area called).symm.trans deferred
  have kept : (Overlay.scope (fun _ => True) screen.geo (fun _ => True)
      (· = s.memory.pending)).KeptBy (decoded outside screen.client context)
      (fun now => now.memory.pending = s.memory.pending) (fun _ => True) := by
    intro request now same asked _
    cases request with
    | client request => cases request <;> exact ⟨trivial, same⟩
    | readMemory => exact ⟨same, same⟩
    | writeMemory memory => exact ⟨trivial, asked⟩
    | _ => exact ⟨trivial, same⟩
  exact (abides.run kept rfl fun _ _ => trivial).2.1

/-- The event of an entry point is no render pass, and the function that it calls is that of an
id. -/
theorem entry_of_event {entry : EntryPoint} {call : Event} (read : entry.reading = .event call) :
    call ≠ .refresh .afterLists ∧ ∀ f area, call.called? = some (f, area) →
      ∃ id text, entry = .functionCall id text area ∧ TagFunction.decode id = .ok f := by
  rcases event_of_reading read with ⟨object, point, area, button, rfl⟩ |
    ⟨object, point, released, rfl⟩ | ⟨loaded, detailed, rfl⟩ | ⟨id, text, area, rfl, rfl⟩
  · exact ⟨by simp, by simp [Event.called?]⟩
  · exact ⟨by simp, by simp [Event.called?]⟩
  · exact ⟨by simp, by simp [Event.called?]⟩
  · refine ⟨by simp, fun f place called => ⟨id, text, ?_⟩⟩
    cases decoded : TagFunction.decode id with
    | error cause => simp [Event.called?, decoded, Except.toOption] at called
    | ok function =>
      simp only [Event.called?, decoded, Except.toOption] at called
      cases called
      exact ⟨rfl, rfl⟩

theorem entry_of_pass {entry : EntryPoint} {device : UInt64} {phase : RefreshPhase}
    (read : entry.reading = .pass device phase) : device ≠ 0 ∧ ∃ number,
      entry = .refresh device number ∧ phaseCodes.lookup number = some phase := by
  cases entry with
  | refresh given number =>
    simp only [EntryPoint.reading] at read
    split at read
    · cases read
    · cases read
    · rename_i pass tags known
      split at read
      · cases read
      · rename_i present
        cases read
        exact ⟨present, number, rfl, known⟩
  | click kind point area button =>
    simp only [EntryPoint.reading] at read
    split at read <;> cases read
  | move kind point released =>
    simp only [EntryPoint.reading] at read
    split at read <;> cases read
  | _ => cases read

/-- A call of an entry point that comes to its end leaves the slot alone, unless it may move it. -/
theorem entry_keeps_slot {screen : Screen} {entry : EntryPoint} {s : ShellSituation σ}
    (completed : (Shell.run outside (entry.on screen) s).result = .ok ())
    (unmoved : ¬ LifeStep.MovesSlot outside s (.entry true entry)) :
    (Shell.run outside (entry.on screen) s).state.memory.pending = s.memory.pending := by
  obtain ⟨turn, final, taken⟩ := turn_of_completed completed
  rw [(entry_refines taken).state]
  cases read : entry.reading with
  | nothing =>
    simp only [Screen.turn, read] at taken
    cases taken
    rfl
  | event call =>
    obtain ⟨-, -, rfl⟩ := turn_of_event read taken
    obtain ⟨other, called⟩ := entry_of_event read
    refine overlay_pending other fun f area asked => ?_
    obtain ⟨id, text, rfl, decoded⟩ := called f area asked
    cases deferral : f.deferred with
    | none => rfl
    | some submenu => exact absurd ⟨f, decoded, by rw [deferral]; rfl⟩ unmoved
  | pass device phase =>
    obtain ⟨given, number, rfl, known⟩ := entry_of_pass read
    rcases turn_of_pass read taken with ⟨o, -, -, rfl⟩ | ⟨graphics, o, ran, reply, rfl, -, -, rfl⟩
    · rfl
    · have other : phase ≠ .afterLists := by
        rintro rfl
        exact unmoved ⟨given, known, by rw [reply]; rfl⟩
      refine overlay_pending (fun same => other (Event.refresh.inj same)) fun f area called => ?_
      cases called

theorem step_keeps_slot {live left : Option Screen} {step : LifeStep σ} {s : ShellSituation σ}
    (completed : (step.run outside live s).result = .ok left)
    (unmoved : live.isSome → ¬ step.MovesSlot outside s) :
    (step.run outside live s).state.memory.pending = s.memory.pending := by
  cases live with
  | none =>
    cases step with
    | entry given call => cases given <;> rfl
    | destroy given => cases given <;> rfl
    | outsideChanges change => rfl
  | some screen =>
    cases step with
    | entry given call =>
      cases given with
      | false => rfl
      | true =>
        obtain ⟨_, ends, -, split⟩ := yields_of_andThen completed
        refine (congrArg (fun ran => ran.state.memory.pending) split).trans ?_
        exact entry_keeps_slot ends (unmoved rfl)
    | destroy given => cases given <;> rfl
    | outsideChanges change => rfl

/-- What waits goes on waiting, until a decoration pass gets a graphics context or another submenu
is picked. -/
theorem waits_until_drawn {steps : List (LifeStep σ)} {live left : Option Screen}
    {s : ShellSituation σ} (completed : (runLife outside steps live s).result = .ok left) :
    (runLife outside steps live s).state.memory.pending = s.memory.pending ∨
      ∃ before step after screen, steps = before ++ step :: after ∧
        (runLife outside before live s).result = .ok (some screen) ∧
        step.MovesSlot outside (runLife outside before live s).state := by
  induction steps generalizing live s with
  | nil => exact .inl rfl
  | cons step rest ih =>
    -- The first step that may move the slot is the one to name.
    by_cases moves : live.isSome ∧ step.MovesSlot outside s
    · obtain ⟨screen, rfl⟩ := Option.isSome_iff_exists.mp moves.1
      exact .inr ⟨[], step, rest, screen, rfl, rfl, moves.2⟩
    · obtain ⟨next, ends, others, -⟩ := yields_of_andThen completed
      have kept := step_keeps_slot ends fun given moved => moves ⟨given, moved⟩
      have goesOn (later : List (LifeStep σ)) :
          (runLife outside (step :: later) live s).result =
              (runLife outside later next (step.run outside live s).state).result ∧
            (runLife outside (step :: later) live s).state =
              (runLife outside later next (step.run outside live s).state).state := by
        simp only [runLife, Outcome.andThen, ends, and_self]
      rcases ih others with still | ⟨before, mover, after, screen, same, alive, moved⟩
      · left
        rw [(goesOn rest).2, still, kept]
      · right
        refine ⟨step :: before, mover, after, screen, by rw [same]; rfl, ?_, ?_⟩
        · rw [(goesOn before).1, alive]
        · rw [(goesOn before).2]
          exact moved

/-! ## What a life gives back -/

/-- The calls of a life. The client is asked for one screen, if there are both function tables, and
if it makes none nothing else is called. A screen that it makes is given back once, in the last call
of all, if the host destroys it. -/
theorem life_calls {hasHost hasClient geo : Bool} {steps : List (LifeStep σ)}
    {s : ShellSituation σ} {live : Option Screen}
    (completed : (life outside hasHost hasClient geo steps s).result = .ok live) :
    ∃ between, (∀ native ∈ between, native.concernsScreen = false) ∧
      Shell.calls (life outside hasHost hasClient geo steps s).trace =
        match hasHost && hasClient, (outside (.createScreen geo) s.outside).1 with
        | false, _ => []
        | true, none => [.createScreen geo]
        | true, some client => .createScreen geo :: between ++
            if steps.any (·.destroys) then [.destroyScreen client] else [] := by
  obtain ⟨made, yields, others, split⟩ := yields_of_andThen completed
  rw [life, split, Shell.calls_append]
  cases tables : hasHost && hasClient with
  | false =>
    obtain ⟨result, state, silent⟩ := create_without_tables tables geo s
    cases result.symm.trans yields
    exact ⟨[], by simp, by rw [silent, runLife_without_screen]; rfl⟩
  | true =>
    obtain ⟨rfl, rfl⟩ := Bool.and_eq_true_iff.mp tables
    rcases reply : outside (.createScreen geo) s.outside with ⟨created, o⟩
    obtain ⟨result, -, asked⟩ := create_with_tables reply
    cases result.symm.trans yields
    cases created with
    | none => exact ⟨[], by simp, by rw [asked, Option.map_none, runLife_without_screen]; rfl⟩
    | some client =>
      obtain ⟨between, spared, calls⟩ := runLife_calls others
      refine ⟨between, spared, ?_⟩
      rw [asked, Option.map_some, calls]
      rfl

/-- Whatever the host calls, and with whatever tables, as long as no overflow stops it: the client's
screen is created once at most and given back in the last call, and nothing is called without it. A
refresh gives back the graphics context that it gets, with all that it has saved on it restored, and
does nothing without one. So a submenu that waits goes on waiting until a decoration pass can draw,
or until another submenu is picked. -/
theorem resources_are_given_back (outside : Outside σ) (hasHost hasClient geo : Bool)
    (steps : List (LifeStep σ)) (s : ShellSituation σ) {live : Option Screen}
    (completed : (life outside hasHost hasClient geo steps s).result = .ok live) :
    (∃ between, (∀ native ∈ between, native.concernsScreen = false) ∧
      Shell.calls (life outside hasHost hasClient geo steps s).trace =
        match hasHost && hasClient, (outside (.createScreen geo) s.outside).1 with
        | false, _ => []
        | true, none => [.createScreen geo]
        | true, some client => .createScreen geo :: between ++
            if steps.any (·.destroys) then [.destroyScreen client] else []) ∧
    (∀ (screen : Screen) (device : UInt64) (phase : Int32) (t : ShellSituation σ),
      let ran := Shell.run outside (screen.refresh device phase) t
      ran.result = .ok () → GivesBack outside device phase t ran) ∧
    ∀ (later : List (LifeStep σ)) (alive left : Option Screen) (t : ShellSituation σ),
      let ran := runLife outside later alive t
      ran.result = .ok left → ran.state.memory.pending = t.memory.pending ∨
        ∃ before step after screen, later = before ++ step :: after ∧
          (runLife outside before alive t).result = .ok (some screen) ∧
          step.MovesSlot outside (runLife outside before alive t).state :=
  ⟨life_calls completed, fun _ _ _ _ => refresh_gives_back, fun _ _ _ _ => waits_until_drawn⟩

end

namespace RefusedPass

open Simulation

def badge : Rect := ⟨690, 580, 800, 600⟩

/-- The views are picked, and the pass that is to open them is refused its context. The next one
gets it, and then the screen is destroyed. Calls without a screen stand in between and after. -/
def steps : List (LifeStep NativeScene) :=
  [.entry true (.functionCall 9 none badge), .outsideChanges fun s => { s with graphics := false },
    .entry true (.refresh 64 3), .entry true (.refresh 64 2), .entry false (.refresh 64 3),
    .destroy false, .outsideChanges fun s => { s with graphics := true },
    .entry true (.refresh 64 3), .destroy true, .entry true (.refresh 64 3)]

theorem ends : ∃ live, (life NativeScene.serve true true false steps
    ⟨.initial, PresetRun.scene⟩).result = .ok live := by
  have completes : (life NativeScene.serve true true false steps
      ⟨.initial, PresetRun.scene⟩).result.isOk := by
    decide +kernel
  cases ended : (life NativeScene.serve true true false steps
      ⟨.initial, PresetRun.scene⟩).result with
  | error cause =>
    rw [ended] at completes
    cases completes
  | ok live => exact ⟨live, rfl⟩

end RefusedPass

theorem resources_are_given_back_refused : ∃ between,
    (∀ native ∈ between, native.concernsScreen = false) ∧
      Shell.calls (life Simulation.NativeScene.serve true true false RefusedPass.steps
          ⟨.initial, PresetRun.scene⟩).trace =
        .createScreen false :: between ++ [.destroyScreen ⟨1⟩] := by
  obtain ⟨live, ends⟩ := RefusedPass.ends
  obtain ⟨calls, -, -⟩ := resources_are_given_back Simulation.NativeScene.serve true true false
    RefusedPass.steps ⟨.initial, PresetRun.scene⟩ ends
  exact calls

end RadarOverlay.Native
