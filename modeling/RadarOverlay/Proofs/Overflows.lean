import RadarOverlay.Proofs.CallChecks
import RadarOverlay.Proofs.Passes

/-!
Callbacks that stop at an overflow. Coordinates are computed before anything is done
with them, so a callback that stops has only asked. Main statements:
`Program.StopsEarly.run` says what the run of a program leaves that stops before its
first command, and `overflows_are_clean` that every callback is such a program, and
which callbacks can stop at all.
-/
namespace RadarOverlay

namespace Program

variable {V : Vocabulary} {α β σ : Type} {asks : V.Request → Prop}

/-- A program that stops at an overflow, if at all, while it has made no other requests than those
of `asks`: with the first other request it is on its way to a value. -/
def StopsEarly (asks : V.Request → Prop) : Program V α → Prop
  | .done _ | .fault _ => True
  | .ask r next =>
    (asks r ∧ ∀ answer, StopsEarly asks (next answer)) ∨ ∀ answer, Total (next answer)

theorem Total.stopsEarly {p : Program V α} (total : Total p) : StopsEarly asks p := by
  cases p with
  | done | fault => exact trivial
  | ask r next => exact .inr total

theorem stopsEarly_ofExcept (computed : Except Overflow α) :
    StopsEarly asks (ofExcept computed : Program V α) := by
  cases computed <;> exact trivial

/-- One request of `asks` may be made before what stops early. -/
theorem StopsEarly.after {r : V.Request} {f : V.Answer r → Program V α} (asked : asks r)
    (early : ∀ answer, StopsEarly asks (f answer)) :
    StopsEarly asks ((request r).bind f) := .inl ⟨asked, early⟩

/-- What makes requests of `asks` only may go on with what stops early. -/
theorem Abides.stopsEarly {p : Program V α} {f : α → Program V β}
    (abides : Abides (only asks) (fun a => StopsEarly asks (f a)) p) :
    StopsEarly asks (p.bind f) := by
  induction p with
  | done a => exact abides
  | fault => exact trivial
  | ask r next ih => exact .inl ⟨abides.1, fun answer => ih answer (abides.2 answer trivial)⟩

/-- What stops early may go on with what does not stop. -/
theorem StopsEarly.bind {p : Program V α} {f : α → Program V β} (first : StopsEarly asks p)
    (others : ∀ a, Total (f a)) : StopsEarly asks (p.bind f) := by
  induction p with
  | done a => exact (others a).stopsEarly
  | fault => exact trivial
  | ask r next ih =>
    rcases first with ⟨asked, early⟩ | total
    · exact .inl ⟨asked, fun answer => ih answer (early answer)⟩
    · exact .inr fun answer => (total answer).bind others

/-- A run that stopped, of a program that stops early, has made requests of `asks` only. -/
theorem StopsEarly.run {p : Program V α} (early : StopsEarly asks p) {serve : Surroundings V σ}
    {s : σ} {cause : Overflow} (stopped : (p.run serve s).result = .error cause) :
    ∀ x ∈ (p.run serve s).trace, asks x.request := by
  induction p generalizing s with
  | done | fault => simp [Program.run]
  | ask r next ih =>
    rcases early with ⟨asked, early⟩ | total
    · simp only [Program.run, List.forall_mem_cons]
      exact ⟨asked, ih _ (early _) stopped⟩
    · obtain ⟨a, ended⟩ := (total (serve r s).1).run serve (serve r s).2
      rw [Program.run, ended] at stopped
      cases stopped

end Program

namespace Overlay

open Program

variable {geo : Bool}

theorem drawBackground_stopsEarly : StopsEarly OverlayRequest.IsQuestion (drawBackground geo) := by
  simp only [drawBackground, bind_eq]
  apply Abides.stopsEarly
  apply statusMessage_asks
  intro status
  cases status with
  | some message =>
    refine StopsEarly.after trivial fun area => ?_
    exact StopsEarly.bind (stopsEarly_ofExcept area.center) fun _ _ _ => trivial
  | none =>
    apply Abides.stopsEarly
    apply viewport_asks
    intro viewport
    apply Total.stopsEarly
    split
    · exact fun _ _ => trivial
    · exact fun _ => trivial

theorem drawForeground_stopsEarly : StopsEarly OverlayRequest.IsQuestion (drawForeground geo) := by
  simp only [drawForeground, bind_eq]
  apply Abides.stopsEarly
  apply viewport_asks
  intro viewport
  apply Total.stopsEarly
  split
  · exact fun _ _ _ regions => total_each fun _ _ => trivial
  · exact fun _ => trivial

/-- The badge is laid out before it is drawn. -/
theorem drawBadge_stopsEarly : StopsEarly OverlayRequest.IsQuestion drawBadge := by
  simp only [drawBadge, bind_eq, lift_eq]
  refine .after trivial fun aerodrome => .after trivial fun connection => .after trivial
    fun activity => .after trivial fun extent => .after trivial fun area => .after trivial
    fun memory => ?_
  exact StopsEarly.bind (stopsEarly_ofExcept _) fun layout _ _ _ _ _ _ _ => trivial

theorem refreshIfRequired_total : Total refreshIfRequired := by
  intro redraw
  cases redraw <;> simp

theorem callFunction_total (geo : Bool) (f : TagFunction) (text : String) (area : Rect) :
    Total (callFunction geo f text area) :=
  call_total geo (show (Event.callFunction f text area).IsCall from trivial)

theorem flush_total (geo : Bool) : Total (flush geo) := by
  simp only [flush, DeferredSlot.take, bind_eq]
  intro memory
  simp only [done_bind]
  cases memory.pending.entry with
  | none => exact trivial
  | some waiting => exact fun _ _ => callFunction_total geo waiting.function "" waiting.area

theorem drawDecorations_stopsEarly :
    StopsEarly OverlayRequest.IsQuestion (drawDecorations geo) := by
  simp only [drawDecorations, bind_eq]
  exact drawBadge_stopsEarly.bind fun _ => refreshIfRequired_total.bind fun _ => flush_total geo

theorem move_stopsEarly (point : Point) (released : Bool) :
    StopsEarly OverlayRequest.IsQuestion (move .menu point released) := by
  simp only [move, MenuAnchor.save, SettingKey.save, bind_eq, lift_eq]
  refine .after trivial fun area => ?_
  refine StopsEarly.bind (stopsEarly_ofExcept _) fun anchor memory _ => ?_
  cases released <;> simp

theorem loadNumber_total (setting : SettingKey) : Total setting.loadNumber := by
  simp only [SettingKey.loadNumber, bind_eq]
  intro kept
  cases kept with
  | none => exact trivial
  | some value =>
    simp only [done_bind]
    cases setting.parseNumber value with
    | ok n => exact trivial
    | error cause => exact fun _ => trivial

theorem contentLoaded_total (loaded detailed : Bool) : Total (contentLoaded loaded detailed) := by
  cases loaded with
  | false => exact trivial
  | true =>
    simp only [contentLoaded, ScreenSettings.load, ↓reduceIte, bind_eq]
    refine Total.bind (fun kept => (loadNumber_total _).bind fun menuX =>
      (loadNumber_total _).bind fun menuY => trivial) fun settings => ?_
    cases detailed <;> cases settings.aerodrome
    case false.none => exact fun _ _ => trivial
    case false.some => exact fun _ _ _ _ => trivial
    case true.none => exact fun _ _ _ _ => trivial
    case true.some => exact fun _ _ _ _ _ _ => trivial

theorem opensMenu_total (button : MouseButton) : Total (opensMenu button) := by
  simp only [opensMenu]
  split
  · intro connection
    simp only [done_bind]
    split
    · exact fun _ => trivial
    · exact trivial
  · exact trivial

theorem click_total (object : ScreenObject) (point : Point) (area : Rect) (button : MouseButton) :
    Total (click geo object point area button) := by
  cases object with
  | clickRegion => exact fun _ => trivial
  | menu => exact (opensMenu_total button).bind fun _ => callFunction_total geo _ "" area

end Overlay

/-- The events whose callbacks compute coordinates: a render pass that draws, and a drag of the
badge. -/
def Event.Measures : Event → Prop
  | .refresh phase => phase ≠ .afterTags
  | .move object _ _ => object = .menu
  | _ => False

section

open Program Overlay Simulation

variable {H C K : Type} [Host H] [LightingClient C] [Canvas K] {geo : Bool}

/-- Only an event that computes coordinates can stop at an overflow. -/
theorem callback_total {call : Event} (unmeasured : ¬ call.Measures) :
    Total (call.callback geo) := by
  cases call with
  | contentLoaded loaded detailed => exact contentLoaded_total loaded detailed
  | refresh phase =>
    cases phase with
    | afterTags => exact trivial
    | _ => exact absurd (by simp [Event.Measures]) unmeasured
  | callFunction | callId => exact call_total geo trivial
  | click object point area button => exact click_total object point area button
  | move object point released =>
    cases object with
    | clickRegion => exact trivial
    | menu => exact absurd rfl unmeasured

theorem callback_stopsEarly (geo : Bool) (call : Event) :
    StopsEarly OverlayRequest.IsQuestion (call.callback geo) := by
  by_cases measures : call.Measures
  · cases call with
    | refresh phase =>
      cases phase with
      | backBitmap => exact drawBackground_stopsEarly
      | beforeTags => exact drawForeground_stopsEarly
      | afterTags => exact trivial
      | afterLists => exact drawDecorations_stopsEarly
    | move object point released =>
      cases measures
      exact move_stopsEarly point released
    | _ => exact measures.elim
  · exact (callback_total measures).stopsEarly

theorem serve_of_question {request : OverlayRequest} (question : request.IsQuestion)
    (s : Situation H C K) : (request.serve s).2 = s := by
  cases request with
  | host request => cases request <;> first | exact question.elim | rfl
  | client request => cases request <;> first | exact question.elim | rfl
  | canvas request => cases request <;> first | exact question.elim | rfl
  | readMemory => rfl
  | writeMemory | note => exact question.elim

/-- A run that has only asked leaves everything as it was. -/
theorem state_of_questions {α : Type} {p : Callback α} {s : Situation H C K}
    (questions : ∀ x ∈ (Overlay.run p s).trace, x.request.IsQuestion) :
    (Overlay.run p s).state = s := by
  induction p with
  | done | fault => rfl
  | ask r next ih =>
    simp only [Overlay.run, Program.run, List.forall_mem_cons] at questions
    have same := serve_of_question questions.1 s
    simp only [Overlay.run, Program.run, same] at questions ⊢
    exact ih _ questions.2

theorem effects_of_questions {trace : List (Exchange Overlay)}
    (questions : ∀ x ∈ trace, x.request.IsQuestion) : effects trace = [] := by
  rw [effects, List.filterMap_eq_nil_iff]
  intro x member
  have question := questions x member
  unfold Exchange.effect?
  split <;> first | exact question.elim | rfl

/-- A callback that stops at an overflow has done nothing: it has made no command and has not read
the redraw flag, and the memory, the host, the client and the canvas are as before. Only a render
pass that draws and a drag of the badge can stop. -/
theorem overflows_are_clean (geo : Bool) {call : Event} {s : Situation H C K} {cause : Overflow}
    (stopped : (Overlay.run (call.callback geo) s).result = .error cause) :
    let ran := Overlay.run (call.callback geo) s
    effects ran.trace = [] ∧ (∀ x ∈ ran.trace, x.request.IsQuestion) ∧ ran.state = s ∧
      ((∃ phase, phase ≠ .afterTags ∧ call = .refresh phase) ∨
        ∃ point released, call = .move .menu point released) := by
  intro ran
  have questions : ∀ x ∈ ran.trace, x.request.IsQuestion :=
    (callback_stopsEarly geo call).run stopped
  refine ⟨effects_of_questions questions, questions, state_of_questions questions, ?_⟩
  have measures : call.Measures := Classical.byContradiction fun unmeasured => by
    obtain ⟨_, ended⟩ := (callback_total unmeasured).run OverlayRequest.serve s
    rw [Overlay.run, ended] at stopped
    cases stopped
  cases call with
  | refresh phase => exact .inl ⟨phase, measures, rfl⟩
  | move object point released =>
    cases measures
    exact .inr ⟨point, released, rfl⟩
  | _ => exact measures.elim

/-- On a radar area whose width is no coordinate a decoration pass stops. The submenu that waits
goes on waiting, and the redraw flag stays raised. -/
theorem overflows_are_clean_wide :
    let wide : Scene := { Scene.controlled with
      memory := ⟨⟨7, 7⟩, ⟨some ⟨.openSelectView .opening, ⟨5, 5, 65, 25⟩⟩⟩⟩
      host := { Scene.controlled.host with area := ⟨-2147483648, 0, 2147483647, 600⟩ }
      client := { Scene.controlled.client with redraw := true } }
    let ran := Overlay.run ((Event.refresh .afterLists).callback false) wide
    ran.result.isOk = false ∧ effects ran.trace = [] ∧ ran.state = wide := by
  intro wide ran
  have stops : ran.result.isOk = false := by decide +kernel
  cases stopped : ran.result with
  | ok => cases (congrArg Except.isOk stopped).symm.trans stops
  | error cause =>
    obtain ⟨quiet, -, same, -⟩ := overflows_are_clean false stopped
    exact ⟨rfl, quiet, same⟩

end

end RadarOverlay
