import RadarOverlay.Proofs.WireImage
import RadarOverlay.Simulation.NativeScene

/-!
The plugin shell refines the overlay. Over the whole life of a screen the calls of the
function tables are, in order, the wire images of what one overlay asks at the same
events, when it sees the other side through the boundary. Around them stand only the
calls that create and give back the client's screen and the graphics contexts. Main
statement: `shell_refines_overlay`; `entry_refines` is its step.
-/
namespace RadarOverlay.Native

open Program Text

inductive ShellStep (σ : Type) where
  | entry (call : EntryPoint)
  /-- Host or client change on their own. -/
  | outsideChanges (change : σ → σ)

section

variable {σ : Type}

def ShellStep.run (outside : Outside σ) (screen : Option Screen) (step : ShellStep σ)
    (s : ShellSituation σ) : Outcome Shell (ShellSituation σ) Unit :=
  match step with
  | .entry call => Shell.run outside (call.program screen) s
  | .outsideChanges change => ⟨.ok (), { s with outside := change s.outside }, []⟩

/-- The outcome of steps in order, up to the first overflow. -/
def runSteps (outside : Outside σ) (screen : Option Screen) : List (ShellStep σ) →
    ShellSituation σ → Outcome Shell (ShellSituation σ) Unit
  | [], s => ⟨.ok (), s, []⟩
  | step :: rest, s => (step.run outside screen s).andThen fun _ s => runSteps outside screen rest s

/-- The outcome of the whole life of a screen: it is created with both function tables, and
destroyed after the steps if there is one. -/
def lifetime (outside : Outside σ) (geo : Bool) (steps : List (ShellStep σ))
    (s : ShellSituation σ) : Outcome Shell (ShellSituation σ) Unit :=
  (Shell.run outside (Screen.create true true geo) s).andThen fun screen s =>
    (runSteps outside screen steps s).andThen fun _ s =>
      match screen with
      | none => ⟨.ok (), s, []⟩
      | some screen => Shell.run outside screen.destroy s

end

/-! ## What the overlay does at the same events -/

/-- What a call of an entry point means to the overlay. -/
inductive Reading where
  | nothing
  | event (call : Event)
  /-- A render pass, if there is something to draw on. -/
  | pass (device : UInt64) (phase : RefreshPhase)

/-- The meaning of an entry point's call: its numbers are looked up in the tables of codes, and it
means nothing with a number that is not there, after the tags, and without a device context. A
button that is not there is another button. -/
def EntryPoint.reading : EntryPoint → Reading
  | .refresh device number =>
    match phaseCodes.lookup number with
    | none | some .afterTags => .nothing
    | some phase => if device = 0 then .nothing else .pass device phase
  | .click kind point area number =>
    match objectCodes.lookup kind with
    | none => .nothing
    | some object =>
      .event (.click object point area ((buttonCodes.lookup number).getD (.other number)))
  | .move kind point released =>
    match objectCodes.lookup kind with
    | none => .nothing
    | some object => .event (.move object point released)
  | .functionCall id text area => .event (.callId id ((text.map bufferText).getD "") area)
  | .contentLoaded loaded detailed => .event (.contentLoaded loaded detailed)

/-- The events that a call of an entry point can mean. -/
theorem event_of_reading {entry : EntryPoint} {call : Event} (read : entry.reading = .event call) :
    (∃ object point area button, call = .click object point area button) ∨
      (∃ object point released, call = .move object point released) ∨
      (∃ loaded detailed, call = .contentLoaded loaded detailed) ∨
      ∃ id text area, entry = .functionCall id text area ∧
        call = .callId id ((text.map bufferText).getD "") area := by
  cases entry with
  | refresh device number =>
    simp only [EntryPoint.reading] at read
    repeat' split at read
    all_goals cases read
  | click kind point area button =>
    simp only [EntryPoint.reading] at read
    split at read <;> cases read
    exact .inl ⟨_, _, _, _, rfl⟩
  | move kind point released =>
    simp only [EntryPoint.reading] at read
    split at read <;> cases read
    exact .inr (.inl ⟨_, _, _, rfl⟩)
  | contentLoaded loaded detailed =>
    cases read
    exact .inr (.inr (.inl ⟨_, _, rfl⟩))
  | functionCall id text area =>
    cases read
    exact .inr (.inr (.inr ⟨_, _, _, rfl, rfl⟩))

/-- What the overlay does at a call of an entry point, with all it asks. -/
inductive Turn where
  | idle
  /-- There is no event, for want of a graphics context. -/
  | refused (device : UInt64)
  | event (call : Event) (trace : List (Exchange Overlay))
  | pass (context : Adapter.Context) (phase : RefreshPhase) (trace : List (Exchange Overlay))

namespace Turn

def trace : Turn → List (Exchange Overlay)
  | .idle | .refused _ => []
  | .event _ trace | .pass _ _ trace => trace

def context : Turn → Adapter.Context
  | .pass context _ _ => context
  | _ => .null

def images (screen : Handle) (turn : Turn) : List NativeCall :=
  turn.trace.filterMap fun x => wireImage screen turn.context x.request

/-- The calls of a turn. A graphics context is created before a pass and given back after it. -/
def calls (screen : Handle) (turn : Turn) : List NativeCall :=
  match turn with
  | .idle | .event .. => turn.images screen
  | .refused device => [.createGraphics device]
  | .pass context .. =>
    .createGraphics context.device :: turn.images screen ++ [.releaseGraphics context.graphics]

end Turn

section

variable {σ : Type}

/-- What the overlay does at an event, when it sees the other side through the boundary. -/
def Screen.overlay (screen : Screen) (outside : Outside σ) (context : Adapter.Context)
    (call : Event) (s : ShellSituation σ) : Outcome Overlay (ShellSituation σ) Unit :=
  (call.callback screen.geo).run (decoded outside screen.client context) s

/-- The overlay's turn at a call of an entry point, and what it leaves. -/
def Screen.turn (screen : Screen) (outside : Outside σ) (entry : EntryPoint)
    (s : ShellSituation σ) : Except Overflow (Turn × ShellSituation σ) :=
  match entry.reading with
  | .nothing => .ok (.idle, s)
  | .event call =>
    let ran := screen.overlay outside .null call s
    ran.result.map fun _ => (.event call ran.trace, ran.state)
  | .pass device phase =>
    match outside (.createGraphics device) s.outside with
    | (none, o) => .ok (.refused device, { s with outside := o })
    | (some graphics, o) =>
      let ran := screen.overlay outside ⟨device, graphics⟩ (.refresh phase) { s with outside := o }
      ran.result.map fun _ => (.pass ⟨device, graphics⟩ phase ran.trace,
        { ran.state with outside := (outside (.releaseGraphics graphics) ran.state.outside).2 })

/-- The turns of one overlay, one for each call of an entry point, and what they leave. -/
def Screen.turns (screen : Screen) (outside : Outside σ) : List (ShellStep σ) →
    ShellSituation σ → Except Overflow (List Turn × ShellSituation σ)
  | [], s => .ok ([], s)
  | .outsideChanges change :: rest, s =>
    screen.turns outside rest { s with outside := change s.outside }
  | .entry call :: rest, s => do
    let (turn, s) ← screen.turn outside call s
    let (turns, s) ← screen.turns outside rest s
    return (turn :: turns, s)

end

/-! ## The refinement -/

/-- The pass of a phase that is drawn in, on a device context. -/
def Screen.draw (screen : Screen) (device : UInt64) (phase : RefreshPhase) : ShellProgram Unit := do
  if let some context := ← Adapter.openCanvas device then
    screen.runCallback context (Overlay.refresh screen.geo phase)
    Adapter.closeCanvas context

/-- A run yields a value and leaves a situation, after certain native calls in order. -/
structure Yields {σ α : Type} (ran : Outcome Shell (ShellSituation σ) α) (value : α)
    (left : ShellSituation σ) (made : List NativeCall) : Prop where
  result : ran.result = .ok value
  state : ran.state = left
  calls : Shell.calls ran.trace = made

section

variable {σ : Type} {outside : Outside σ} {s final : ShellSituation σ}

theorem Yields.andThen {α β : Type} {ran : Outcome Shell (ShellSituation σ) α} {a : α} {b : β}
    {next : ShellSituation σ} {made later : List NativeCall}
    {f : α → ShellSituation σ → Outcome Shell (ShellSituation σ) β}
    (first : Yields ran a next made) (others : Yields (f a next) b final later) :
    Yields (ran.andThen f) b final (made ++ later) := by
  obtain ⟨result, state, calls⟩ := first
  obtain ⟨result', state', calls'⟩ := others
  simp only [Outcome.andThen, result, state]
  refine ⟨result', state', ?_⟩
  rw [Shell.calls_append, calls, calls']

theorem Yields.bind {α β : Type} {p : ShellProgram α} {f : α → ShellProgram β} {a : α} {b : β}
    {next : ShellSituation σ} {made later : List NativeCall}
    (first : Yields (Shell.run outside p s) a next made)
    (others : Yields (Shell.run outside (f a) next) b final later) :
    Yields (Shell.run outside (p.bind f) s) b final (made ++ later) := by
  rw [Shell.run, run_bind]
  exact first.andThen others

/-- A callback runs through the adapter as the overlay runs, and its calls are the wire images of
what the overlay asks. -/
theorem runCallback_yields {screen : Screen} {context : Adapter.Context} {call : Event}
    (runs : (screen.overlay outside context call s).result = .ok ()) :
    Yields (Shell.run outside (screen.runCallback context (call.callback screen.geo)) s) ()
      (screen.overlay outside context call s).state
      ((screen.overlay outside context call s).trace.filterMap
        fun x => wireImage screen.client context x.request) := by
  obtain ⟨result, state, calls⟩ :=
    run_via (speak_faithful screen.client context) (call.callback screen.geo) s
  exact ⟨result.trans runs, state, calls⟩

/-! ### Turns taken apart -/

variable {screen : Screen} {entry : EntryPoint} {turn : Turn}

/-- A turn at an event is the whole run of the overlay. -/
theorem turn_of_event {call : Event} (read : entry.reading = .event call)
    (taken : screen.turn outside entry s = .ok (turn, final)) :
    (screen.overlay outside .null call s).result = .ok () ∧
      turn = .event call (screen.overlay outside .null call s).trace ∧
      final = (screen.overlay outside .null call s).state := by
  simp only [Screen.turn, read] at taken
  cases ran : (screen.overlay outside .null call s).result with
  | error cause => simp [ran, Except.map] at taken
  | ok =>
    simp only [ran, Except.map, Except.ok.injEq, Prod.mk.injEq] at taken
    exact ⟨rfl, taken.1.symm, taken.2.symm⟩

/-- A turn at a render pass is refused, or it is the whole run of the overlay on a new graphics
context. -/
theorem turn_of_pass {device : UInt64} {phase : RefreshPhase}
    (read : entry.reading = .pass device phase)
    (taken : screen.turn outside entry s = .ok (turn, final)) :
    (∃ o, outside (.createGraphics device) s.outside = (none, o) ∧
      turn = .refused device ∧ final = { s with outside := o }) ∨
    ∃ graphics o ran, outside (.createGraphics device) s.outside = (some graphics, o) ∧
      ran = screen.overlay outside ⟨device, graphics⟩ (.refresh phase) { s with outside := o } ∧
      ran.result = .ok () ∧ turn = .pass ⟨device, graphics⟩ phase ran.trace ∧
      final = { ran.state with
        outside := (outside (.releaseGraphics graphics) ran.state.outside).2 } := by
  simp only [Screen.turn, read] at taken
  rcases reply : outside (.createGraphics device) s.outside with ⟨created, o⟩
  simp only [reply] at taken
  cases created with
  | none =>
    cases taken
    exact .inl ⟨o, rfl, rfl, rfl⟩
  | some graphics =>
    refine .inr ⟨graphics, o, _, rfl, rfl, ?_⟩
    cases ran : (screen.overlay outside ⟨device, graphics⟩ (.refresh phase)
        { s with outside := o }).result with
    | error cause => simp [ran, Except.map] at taken
    | ok =>
      simp only [ran, Except.map, Except.ok.injEq, Prod.mk.injEq] at taken
      exact ⟨rfl, taken.1.symm, taken.2.symm⟩

/-! ### One call of an entry point -/

theorem event_refines {call : Event} (read : entry.reading = .event call)
    (runs : entry.on screen = screen.runCallback .null (call.callback screen.geo))
    (taken : screen.turn outside entry s = .ok (turn, final)) :
    Yields (Shell.run outside (entry.on screen) s) () final (turn.calls screen.client) := by
  obtain ⟨ran, rfl, rfl⟩ := turn_of_event read taken
  rw [runs]
  exact runCallback_yields ran

theorem idle_refines (read : entry.reading = .nothing)
    (silent : Meets outside (entry.on screen) (.inside ()))
    (taken : screen.turn outside entry s = .ok (turn, final)) :
    Yields (Shell.run outside (entry.on screen) s) () final (turn.calls screen.client) := by
  obtain ⟨trace, calls, ran⟩ := silent s
  simp only [Screen.turn, read] at taken
  cases taken
  rw [ran]
  exact ⟨rfl, rfl, calls⟩

theorem openCanvas_yields {device : UInt64} {created : Option Handle} {o : σ} (given : device ≠ 0)
    (reply : outside (.createGraphics device) s.outside = (created, o)) :
    Yields (Shell.run outside (Adapter.openCanvas device) s)
      (created.map fun graphics => ⟨device, graphics⟩) { s with outside := o }
      [.createGraphics device] := by
  simp only [Adapter.openCanvas, if_neg given, Shell.call, request, bind_eq, ask_bind, done_bind,
    Shell.run, run, Shell.serve, reply]
  cases created <;> exact ⟨rfl, rfl, rfl⟩

/-- A render pass creates its graphics context, draws, and gives the context back. -/
theorem pass_refines {device : UInt64} {phase : RefreshPhase}
    (read : entry.reading = .pass device phase) (given : device ≠ 0)
    (draws : entry.on screen = screen.draw device phase)
    (taken : screen.turn outside entry s = .ok (turn, final)) :
    Yields (Shell.run outside (entry.on screen) s) () final (turn.calls screen.client) := by
  rw [draws, Screen.draw]
  rcases turn_of_pass read taken with
    ⟨o, reply, rfl, rfl⟩ | ⟨graphics, o, _, reply, rfl, ran, rfl, rfl⟩
  · exact (openCanvas_yields given reply).bind ⟨rfl, rfl, rfl⟩
  · have opened := openCanvas_yields given reply
    have closed : ∀ next : ShellSituation σ,
        Yields (Shell.run outside (Adapter.closeCanvas ⟨device, graphics⟩) next) ()
          { next with outside := (outside (.releaseGraphics graphics) next.outside).2 }
          [.releaseGraphics graphics] := fun _ => ⟨rfl, rfl, rfl⟩
    exact opened.bind ((runCallback_yields ran).bind (closed _))

/-- What the shell runs at a call of an entry point, by its meaning. -/
theorem on_of_reading (outside : Outside σ) (screen : Screen) (entry : EntryPoint) :
    match entry.reading with
    | .nothing => Meets outside (entry.on screen) (.inside ())
    | .event call => entry.on screen = screen.runCallback .null (call.callback screen.geo)
    | .pass device phase => device ≠ 0 ∧ entry.on screen = screen.draw device phase := by
  cases entry with
  | refresh device number =>
    have read := ofHost?_eq_lookup number
    cases known : phaseCodes.lookup number with
    | none =>
      rw [known] at read
      simp only [EntryPoint.reading, EntryPoint.on, Screen.refresh, known, read]
      exact note_meets _ (done_meets ())
    | some phase =>
      rw [known] at read
      by_cases tags : phase = .afterTags
      · subst tags
        simp only [EntryPoint.reading, EntryPoint.on, Screen.refresh, known, read]
        exact done_meets ()
      · have draws : EntryPoint.on screen (.refresh device number) = screen.draw device phase := by
          simp only [EntryPoint.on, Screen.refresh, read]
          cases phase with
          | afterTags => exact absurd rfl tags
          | _ => rfl
        have meant : EntryPoint.reading (.refresh device number) =
            if device = 0 then .nothing else .pass device phase := by
          simp only [EntryPoint.reading, known]
        by_cases given : device = 0
        · rw [meant, if_pos given, draws]
          simp only [Screen.draw, Adapter.openCanvas, if_pos given]
          exact done_meets ()
        · rw [meant, if_neg given]
          exact ⟨given, draws⟩
  | click kind point area button =>
    simp only [EntryPoint.reading, EntryPoint.on, Screen.click, ofId?_eq_lookup, ofHost_eq_lookup]
    cases objectCodes.lookup kind with
    | none => exact note_meets _ (done_meets ())
    | some object => rfl
  | move kind point released =>
    simp only [EntryPoint.reading, EntryPoint.on, Screen.move, ofId?_eq_lookup]
    cases objectCodes.lookup kind with
    | none => exact note_meets _ (done_meets ())
    | some object => rfl
  | functionCall id text area => rfl
  | contentLoaded loaded detailed => rfl

/-- A call of an entry point makes the calls of the overlay's turn and leaves what the turn
leaves. -/
theorem entry_refines (taken : screen.turn outside entry s = .ok (turn, final)) :
    Yields (Shell.run outside (entry.on screen) s) () final (turn.calls screen.client) := by
  have runs := on_of_reading outside screen entry
  cases read : entry.reading with
  | nothing =>
    rw [read] at runs
    exact idle_refines read runs taken
  | event call =>
    rw [read] at runs
    exact event_refines read runs taken
  | pass device phase =>
    rw [read] at runs
    exact pass_refines read runs.1 runs.2 taken

/-- A call of an entry point that comes to an end is a turn of the overlay. -/
theorem turn_of_completed (completed : (Shell.run outside (entry.on screen) s).result = .ok ()) :
    ∃ turn final, screen.turn outside entry s = .ok (turn, final) := by
  have runs := on_of_reading outside screen entry
  cases read : entry.reading with
  | nothing => exact ⟨.idle, s, by simp only [Screen.turn, read]⟩
  | event call =>
    let ran := screen.overlay outside .null call s
    rw [read] at runs
    rw [runs] at completed
    obtain ⟨same, -, -⟩ :=
      run_via (speak_faithful screen.client .null) (call.callback screen.geo) s
    have ends : ran.result = .ok () := same.symm.trans completed
    refine ⟨.event call ran.trace, ran.state, ?_⟩
    simp only [Screen.turn, read]
    exact congrArg (Except.map _) ends
  | pass device phase =>
    rw [read] at runs
    rw [runs.2, Screen.draw] at completed
    rcases reply : outside (.createGraphics device) s.outside with ⟨created, o⟩
    obtain ⟨opened, left, -⟩ := openCanvas_yields runs.1 reply
    cases created with
    | none =>
      refine ⟨.refused device, { s with outside := o }, ?_⟩
      simp only [Screen.turn, read, reply]
    | some graphics =>
      let context : Adapter.Context := ⟨device, graphics⟩
      let ran := screen.overlay outside context (.refresh phase) { s with outside := o }
      obtain ⟨_, yields, drawn⟩ := yields_of_bind completed
      cases opened.symm.trans yields
      obtain ⟨_, passed, -⟩ := yields_of_bind drawn
      rw [Shell.run] at left
      rw [left] at passed
      obtain ⟨same, -, -⟩ := run_via (speak_faithful screen.client context)
        (Overlay.refresh screen.geo phase) { s with outside := o }
      have ends : ran.result = .ok () := same.symm.trans passed
      refine ⟨.pass context phase ran.trace,
        { ran.state with outside := (outside (.releaseGraphics graphics) ran.state.outside).2 }, ?_⟩
      simp only [Screen.turn, read, reply]
      exact congrArg (Except.map _) ends

/-! ### Runs -/

/-- The turns of a step and the steps after it are its turn and the turns after that. -/
theorem turns_entry {call : EntryPoint} {rest : List (ShellStep σ)} {turns : List Turn}
    (taken : screen.turns outside (.entry call :: rest) s = .ok (turns, final)) :
    ∃ turn next later, screen.turn outside call s = .ok (turn, next) ∧
      screen.turns outside rest next = .ok (later, final) ∧ turns = turn :: later := by
  have unfolded : screen.turns outside (.entry call :: rest) s =
      (screen.turn outside call s).bind fun played =>
        (screen.turns outside rest played.2).bind fun others =>
          .ok (played.1 :: others.1, others.2) := rfl
  rw [unfolded] at taken
  cases first : screen.turn outside call s with
  | error cause =>
    rw [first] at taken
    cases taken
  | ok played =>
    rw [first, Except.bind] at taken
    cases others : screen.turns outside rest played.2 with
    | error cause =>
      simp only [others, Except.bind] at taken
      cases taken
    | ok later =>
      simp only [others, Except.bind] at taken
      cases taken
      exact ⟨played.1, played.2, later.1, rfl, others, rfl⟩

/-- Steps make the calls of the overlay's turns, in order, and leave what the turns leave. -/
theorem steps_refine {steps : List (ShellStep σ)} {turns : List Turn}
    (taken : screen.turns outside steps s = .ok (turns, final)) :
    Yields (runSteps outside (some screen) steps s) () final
      (turns.flatMap (·.calls screen.client)) := by
  induction steps generalizing s turns with
  | nil =>
    cases taken
    exact ⟨rfl, rfl, rfl⟩
  | cons step rest ih =>
    cases step with
    | outsideChanges change => exact ih taken
    | entry call =>
      obtain ⟨turn, next, later, first, others, rfl⟩ := turns_entry taken
      exact (entry_refines first).andThen (ih others)

/-- Without both function tables there is no screen, and nothing is called. -/
theorem create_without_tables {hasHost hasClient : Bool} (missing : (hasHost && hasClient) = false)
    (geo : Bool) (s : ShellSituation σ) :
    Yields (Shell.run outside (Screen.create hasHost hasClient geo) s) none s [] := by
  rw [Screen.create, missing]
  exact ⟨rfl, rfl, rfl⟩

/-- With both function tables the client is asked for its screen, and it decides. -/
theorem create_with_tables {geo : Bool} {created : Option Handle} {o : σ}
    (reply : outside (.createScreen geo) s.outside = (created, o)) :
    Yields (Shell.run outside (Screen.create true true geo) s)
      (created.map fun client => ⟨geo, client⟩)
      ⟨if created.isSome then .initial else s.memory, o⟩ [.createScreen geo] := by
  simp only [Screen.create, Adapter.openClient, Shell.call, Shell.writeMemory, Shell.note, request,
    Bool.and_self, ↓reduceIte, bind_eq, pure_eq, ask_bind, done_bind, Shell.run, run, Shell.serve,
    reply]
  cases created <;> exact ⟨rfl, rfl, rfl⟩

/-- The whole life of a screen makes the calls of the overlay's turns, between those that create
and give back the client's screen. -/
theorem lifetime_refines {geo : Bool} {steps : List (ShellStep σ)} {client : Handle} {o : σ}
    {turns : List Turn} (created : outside (.createScreen geo) s.outside = (some client, o))
    (played : Screen.turns ⟨geo, client⟩ outside steps ⟨.initial, o⟩ = .ok (turns, final)) :
    Yields (lifetime outside geo steps s) ()
      { final with outside := (outside (.destroyScreen client) final.outside).2 }
      (.createScreen geo :: turns.flatMap (·.calls client) ++ [.destroyScreen client]) := by
  have opened : Yields (Shell.run outside (Screen.create true true geo) s) (some ⟨geo, client⟩)
      ⟨.initial, o⟩ [.createScreen geo] := create_with_tables created
  have closed : Yields (Shell.run outside (Screen.destroy ⟨geo, client⟩) final) ()
      { final with outside := (outside (.destroyScreen client) final.outside).2 }
      [.destroyScreen client] := ⟨rfl, rfl, rfl⟩
  exact opened.andThen ((steps_refine played).andThen closed)

/-! ### Omissions -/

/-- The texts that a call of an entry point brings have no zero character. -/
theorem reading_clean {entry : EntryPoint} {call : Event} (read : entry.reading = .event call) :
    ∀ text ∈ call.texts, NoZero text := by
  rcases event_of_reading read with ⟨object, point, area, button, rfl⟩ |
    ⟨object, point, released, rfl⟩ | ⟨loaded, detailed, rfl⟩ | ⟨id, text, area, rfl, rfl⟩
  · simp [Event.texts]
  · simp [Event.texts]
  · simp [Event.texts]
  · cases text with
    | none => simp [Event.texts, NoZero]
    | some buffer => simp [Event.texts, noZero_bufferText]

/-- Every request of the overlay at an event with clean texts has a call, but for those that have
to be omitted. -/
theorem overlay_omits {call : Event} (clean : ∀ text ∈ call.texts, NoZero text)
    (context : Adapter.Context) {x : Exchange Overlay}
    (asked : x ∈ (screen.overlay outside context call s).trace) :
    wireImage screen.client context x.request = none ↔ Omitted x.request := by
  have abides : Abides Overlay.clean (fun _ => True) (call.callback screen.geo) :=
    Overlay.callback_clean clean
  have rules := abides.run (decoded_clean outside screen.client context) (s := s) trivial
    fun _ _ => trivial
  exact wireImage_eq_none_iff (rules.1 x asked)

theorem turn_omits (taken : screen.turn outside entry s = .ok (turn, final))
    {x : Exchange Overlay} (asked : x ∈ turn.trace) :
    wireImage screen.client turn.context x.request = none ↔ Omitted x.request := by
  cases read : entry.reading with
  | nothing =>
    simp only [Screen.turn, read] at taken
    cases taken
    cases asked
  | event call =>
    obtain ⟨-, rfl, -⟩ := turn_of_event read taken
    exact overlay_omits (reading_clean read) _ asked
  | pass device phase =>
    rcases turn_of_pass read taken with ⟨o, -, rfl, -⟩ | ⟨graphics, o, _, -, rfl, -, rfl, -⟩
    · cases asked
    · exact overlay_omits (by simp [Event.texts]) _ asked

theorem turns_omit {steps : List (ShellStep σ)} {turns : List Turn}
    (taken : screen.turns outside steps s = .ok (turns, final)) :
    ∀ turn ∈ turns, ∀ x ∈ turn.trace,
      wireImage screen.client turn.context x.request = none ↔ Omitted x.request := by
  induction steps generalizing s turns with
  | nil =>
    cases taken
    simp
  | cons step rest ih =>
    cases step with
    | outsideChanges change => exact ih taken
    | entry call =>
      obtain ⟨turn, next, later, first, others, rfl⟩ := turns_entry taken
      intro played member x asked
      rcases List.mem_cons.mp member with rfl | following
      · exact turn_omits first asked
      · exact ih others played following x asked

/-- Without the calls around it a turn makes the wire images of what the overlay asks. -/
theorem turn_images (screen : Handle) (turn : Turn) :
    (turn.calls screen).filter (!·.isLifecycle) = turn.images screen := by
  have kept : (turn.images screen).filter (!·.isLifecycle) = turn.images screen := by
    rw [List.filter_eq_self]
    intro native member
    obtain ⟨x, -, image⟩ := List.mem_filterMap.mp member
    simp [wireImage_isLifecycle image]
  cases turn with
  | refused device => rfl
  | pass context phase trace =>
    simp only [Turn.calls, List.cons_append, List.filter_cons, List.filter_append, kept]
    simp [NativeCall.isLifecycle]
  | _ => exact kept

/-- Over the whole life of a screen that the client makes, as long as its overlay meets no overflow,
the calls of the function tables are the wire images of what the overlay asks at the same events,
in order. The only other calls create and give back the client's screen, and a graphics context
around each pass. All requests of the overlay have an image but for those that have to be
omitted. -/
theorem shell_refines_overlay (outside : Outside σ) (geo : Bool) (steps : List (ShellStep σ))
    (s : ShellSituation σ) {client : Handle} {o : σ} {turns : List Turn} {final : ShellSituation σ}
    (created : outside (.createScreen geo) s.outside = (some client, o))
    (played : Screen.turns ⟨geo, client⟩ outside steps ⟨.initial, o⟩ = .ok (turns, final)) :
    (lifetime outside geo steps s).result = .ok () ∧
      (lifetime outside geo steps s).state =
        { final with outside := (outside (.destroyScreen client) final.outside).2 } ∧
      Shell.calls (lifetime outside geo steps s).trace =
        .createScreen geo :: turns.flatMap (·.calls client) ++ [.destroyScreen client] ∧
      (Shell.calls (lifetime outside geo steps s).trace).filter (!·.isLifecycle) =
        turns.flatMap (·.images client) ∧
      ∀ turn ∈ turns, ∀ x ∈ turn.trace,
        wireImage client turn.context x.request = none ↔ Omitted x.request := by
  obtain ⟨result, state, calls⟩ := lifetime_refines created played
  refine ⟨result, state, calls, ?_, turns_omit played⟩
  rw [calls, List.cons_append, List.filter_cons_of_neg (by simp [NativeCall.isLifecycle]),
    List.filter_append, List.filter_flatMap]
  simp only [turn_images]
  simp [NativeCall.isLifecycle]

end

namespace PresetRun

open Simulation

/-- The tables of a controlled aerodrome with one preset. -/
def scene : NativeScene :=
  { NativeScene.initial with
    connection := 1
    activity := 2
    aerodrome := some [69, 71, 76, 76]
    presets := some [[68, 117, 115, 107]]
    views := some [[78]] }

def badge : Rect := ⟨690, 580, 800, 600⟩

/-- The menu is opened, control is lost, and a preset is selected all the same. Two calls in
between mean nothing. -/
def steps : List (ShellStep NativeScene) :=
  [.entry (.contentLoaded true), .entry (.click 2 ⟨700, 590⟩ badge 1),
    .outsideChanges fun s => { s with activity := 1 },
    .entry (.functionCall 7 none badge), .entry (.refresh 64 3),
    .entry (.refresh 0 3), .entry (.click 9 ⟨700, 590⟩ badge 1),
    .entry (.functionCall 8 none badge)]

theorem plays : ∃ turns final, Screen.turns ⟨false, ⟨1⟩⟩ NativeScene.serve steps
    ⟨.initial, scene⟩ = .ok (turns, final) := by
  have ends : (Screen.turns ⟨false, ⟨1⟩⟩ NativeScene.serve steps ⟨.initial, scene⟩).isOk := by
    decide +kernel
  cases played : Screen.turns ⟨false, ⟨1⟩⟩ NativeScene.serve steps ⟨.initial, scene⟩ with
  | error cause =>
    rw [played] at ends
    cases ends
  | ok left => exact ⟨left.1, left.2, rfl⟩

/-- The numbers of an entry, of a registered object and of a preset that is applied. -/
def numbers? : NativeCall → Option (List Int32)
  | .addPopupListElement _ function checkbox _ => some [function, checkbox]
  | .addScreenObject object _ _ => some [object]
  | .applyPreset _ index => some [.ofNat index]
  | _ => none

end PresetRun

/-- The menu has five entries, of which the one for control is checked. The badge is registered as a
menu, the submenu has one entry, and its preset is applied. -/
theorem shell_refines_overlay_presets :
    ∃ turns final, Screen.turns ⟨false, ⟨1⟩⟩ Simulation.NativeScene.serve PresetRun.steps
        ⟨.initial, PresetRun.scene⟩ = .ok (turns, final) ∧
      Shell.calls (lifetime Simulation.NativeScene.serve false PresetRun.steps
          ⟨.initial, PresetRun.scene⟩).trace =
        .createScreen false :: turns.flatMap (·.calls ⟨1⟩) ++ [.destroyScreen ⟨1⟩] ∧
      (Shell.calls (lifetime Simulation.NativeScene.serve false PresetRun.steps
          ⟨.initial, PresetRun.scene⟩).trace).filterMap PresetRun.numbers? =
        [[2, 0], [4, 2], [5, 0], [7, 0], [9, 0], [2], [8, 0], [0]] := by
  obtain ⟨turns, final, played⟩ := PresetRun.plays
  have refined := shell_refines_overlay Simulation.NativeScene.serve false PresetRun.steps
    ⟨.initial, PresetRun.scene⟩ rfl played
  exact ⟨turns, final, played, refined.2.2.1, by decide +kernel⟩

end RadarOverlay.Native
