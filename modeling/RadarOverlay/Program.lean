import RadarOverlay.Coordinate

/-!
Programs over a vocabulary of requests. A program is data: it is finished, it has
stopped at a coordinate overflow, or it asks one request and goes on with the
answer. The same program runs against any surroundings that answer the requests,
and can be carried over into another vocabulary. Main statements: `run_bind` says
that a run of two programs in a row is the second run after the first, with nothing
lost or added in the record of exchanges; `via_bind` says that carrying a program
over carries its parts over, and `run_via_image` that a program carried over
faithfully runs as it does at home.
-/
namespace RadarOverlay

/-- A set of requests, each with the type of the answer it gets. -/
structure Vocabulary where
  Request : Type
  /-- What each request is answered with. -/
  Answer : Request → Type

/-- A program that asks requests of vocabulary `V` one after another and yields an `α`. -/
inductive Program (V : Vocabulary) (α : Type) : Type where
  | done (value : α)
  /-- The program stopped because a coordinate left its range. -/
  | fault (cause : Overflow)
  /-- The program asks, and goes on with the answer. -/
  | ask (request : V.Request) (next : V.Answer request → Program V α)

/-- One request of a run together with the answer it got. -/
structure Exchange (V : Vocabulary) where
  request : V.Request
  answer : V.Answer request

/-- What a run leaves: its result, the surroundings it ended in, and all exchanges in order. -/
structure Outcome (V : Vocabulary) (σ α : Type) where
  /-- The value, or the overflow the run stopped at. -/
  result : Except Overflow α
  state : σ
  /-- Every exchange of the run, oldest first. -/
  trace : List (Exchange V)

/-- Surroundings of type `σ` answer each request and move on. -/
abbrev Surroundings (V : Vocabulary) (σ : Type) := (request : V.Request) → σ → V.Answer request × σ

namespace Program

variable {V W : Vocabulary} {α β γ σ : Type}

/-- Go on with what a program yields. A program that has stopped stays so. -/
def bind (p : Program V α) (f : α → Program V β) : Program V β :=
  match p with
  | .done a => f a
  | .fault cause => .fault cause
  | .ask r next => .ask r (fun answer => (next answer).bind f)

instance : Monad (Program V) where
  pure := .done
  bind := Program.bind

/-- The program that asks one request and yields the answer. -/
@[simp] def request (r : V.Request) : Program V (V.Answer r) := .ask r .done

/-- A computed value, or the overflow of its computation. -/
def ofExcept : Except Overflow α → Program V α
  | .ok a => .done a
  | .error cause => .fault cause

instance : MonadLift (Except Overflow) (Program V) := ⟨ofExcept⟩

/-- Run a program for each element of a list, from the first on. -/
def each (xs : List α) (f : α → Program V Unit) : Program V Unit :=
  match xs with
  | [] => .done ()
  | x :: rest => (f x).bind fun _ => each rest f

/-- Say each request of a program in another vocabulary. -/
def via (p : Program V α) (speak : (r : V.Request) → Program W (V.Answer r)) : Program W α :=
  match p with
  | .done a => .done a
  | .fault cause => .fault cause
  | .ask r next => (speak r).bind fun answer => (next answer).via speak

/-- Run a program in surroundings that answer its requests. -/
def run (serve : Surroundings V σ) : Program V α → σ → Outcome V σ α
  | .done a, s => ⟨.ok a, s, []⟩
  | .fault cause, s => ⟨.error cause, s, []⟩
  | .ask r next, s =>
    let reply := serve r s
    let rest := run serve (next reply.1) reply.2
    { rest with trace := ⟨r, reply.1⟩ :: rest.trace }

end Program

namespace Outcome

variable {V : Vocabulary} {α β σ : Type}

/-- The outcomes of steps taken one after another, each from where the one before it ended, up to
and with the first that stops at an overflow. -/
def sequence : List (σ → Outcome V σ α) → σ → List (Outcome V σ α)
  | [], _ => []
  | step :: rest, s =>
    let outcome := step s
    match outcome.result with
    | .error _ => [outcome]
    | .ok _ => outcome :: sequence rest outcome.state

/-- Where steps taken from `s` have ended. -/
def lastState (s : σ) (outcomes : List (Outcome V σ α)) : σ :=
  (outcomes.getLast?.map Outcome.state).getD s

/-- Go on from where a run ended, unless it stopped at an overflow. -/
def andThen (o : Outcome V σ α) (f : α → σ → Outcome V σ β) : Outcome V σ β :=
  match o.result with
  | .error cause => ⟨.error cause, o.state, o.trace⟩
  | .ok a =>
    let rest := f a o.state
    { rest with trace := o.trace ++ rest.trace }

end Outcome

namespace Program

variable {V W : Vocabulary} {α β γ σ : Type}

@[simp] theorem bind_eq (p : Program V α) (f : α → Program V β) : p >>= f = p.bind f := rfl

@[simp] theorem pure_eq (a : α) : (pure a : Program V α) = .done a := rfl

@[simp] theorem lift_eq (computed : Except Overflow α) :
    (liftM computed : Program V α) = ofExcept computed := rfl

@[simp] theorem done_bind (a : α) (f : α → Program V β) : (done a).bind f = f a := rfl

@[simp] theorem ask_bind (r : V.Request) (next : V.Answer r → Program V α)
    (f : α → Program V β) : (ask r next).bind f = ask r fun answer => (next answer).bind f := rfl

@[simp] theorem bind_done (p : Program V α) : p.bind .done = p := by
  induction p with
  | done => rfl
  | fault => rfl
  | ask r next ih => simp only [bind]; congr 1; funext answer; exact ih answer

theorem bind_assoc (p : Program V α) (f : α → Program V β) (g : β → Program V γ) :
    (p.bind f).bind g = p.bind fun a => (f a).bind g := by
  induction p with
  | done => rfl
  | fault => rfl
  | ask r next ih => simp only [bind]; congr 1; funext answer; exact ih answer

/-- A run of two programs in a row is the second run after the first. -/
theorem run_bind (serve : Surroundings V σ) (p : Program V α) (f : α → Program V β) (s : σ) :
    (p.bind f).run serve s = (p.run serve s).andThen fun a s' => (f a).run serve s' := by
  induction p generalizing s with
  | done => simp [bind, run, Outcome.andThen]
  | fault => rfl
  | ask r next ih =>
    simp only [bind, run, ih]
    unfold Outcome.andThen
    cases ((next (serve r s).1).run serve (serve r s).2).result <;> simp

/-- After a run that yields a value the second run goes on with that value. -/
theorem run_bind_of_ok {serve : Surroundings V σ} {p : Program V α} {s : σ} {a : α}
    (yields : (p.run serve s).result = .ok a) (f : α → Program V β) :
    (p.bind f).run serve s =
      { (f a).run serve (p.run serve s).state with
        trace := (p.run serve s).trace ++ ((f a).run serve (p.run serve s).state).trace } := by
  simp only [run_bind, Outcome.andThen, yields]

/-- A run that stops at an overflow stops the runs after it. -/
theorem run_bind_of_error {serve : Surroundings V σ} {p : Program V α} {s : σ} {cause : Overflow}
    (stops : (p.run serve s).result = .error cause) (f : α → Program V β) :
    (p.bind f).run serve s = ⟨.error cause, (p.run serve s).state, (p.run serve s).trace⟩ := by
  simp only [run_bind, Outcome.andThen, stops]

/-- What goes on to a value has come from one, and is what follows that value. -/
theorem yields_of_andThen {o : Outcome V σ α} {f : α → σ → Outcome V σ β} {b : β}
    (yields : (o.andThen f).result = .ok b) : ∃ a, o.result = .ok a ∧
      (f a o.state).result = .ok b ∧
      o.andThen f = { f a o.state with trace := o.trace ++ (f a o.state).trace } := by
  cases first : o.result with
  | error cause => simp [Outcome.andThen, first] at yields
  | ok a =>
    simp only [Outcome.andThen, first] at yields ⊢
    exact ⟨a, rfl, yields, rfl⟩

/-- Two programs in a row yield a value if each of them does. -/
theorem yields_of_bind {serve : Surroundings V σ} {p : Program V α} {f : α → Program V β} {s : σ}
    {b : β} (yields : ((p.bind f).run serve s).result = .ok b) : ∃ a,
      (p.run serve s).result = .ok a ∧ ((f a).run serve (p.run serve s).state).result = .ok b := by
  rw [run_bind] at yields
  obtain ⟨a, first, second, -⟩ := yields_of_andThen yields
  exact ⟨a, first, second⟩

theorem via_bind (p : Program V α) (f : α → Program V β)
    (speak : (r : V.Request) → Program W (V.Answer r)) :
    (p.bind f).via speak = (p.via speak).bind fun a => (f a).via speak := by
  induction p with
  | done => rfl
  | fault => rfl
  | ask r next ih => simp only [bind, via, ih, bind_assoc]

/-- A program carried over runs as at home, if each request is said so that it gets the answer of
home and leaves the surroundings of home. What is heard of the run is the image of what passes at
home. -/
theorem run_via_image {heard : Exchange W → Option β} {home : Surroundings V σ}
    {abroad : Surroundings W σ} {speak : (r : V.Request) → Program W (V.Answer r)}
    (image : Exchange V → Option β)
    (faithful : ∀ r s, ∃ trace, trace.filterMap heard = (image ⟨r, (home r s).1⟩).toList ∧
      (speak r).run abroad s = ⟨.ok (home r s).1, (home r s).2, trace⟩)
    (p : Program V α) (s : σ) :
    ((p.via speak).run abroad s).result = (p.run home s).result ∧
      ((p.via speak).run abroad s).state = (p.run home s).state ∧
      ((p.via speak).run abroad s).trace.filterMap heard =
        (p.run home s).trace.filterMap image := by
  induction p generalizing s with
  | done => exact ⟨rfl, rfl, rfl⟩
  | fault => exact ⟨rfl, rfl, rfl⟩
  | ask r next ih =>
    obtain ⟨trace, said, ran⟩ := faithful r s
    obtain ⟨result, state, rest⟩ := ih (home r s).1 (home r s).2
    simp only [via, run, run_bind, ran, Outcome.andThen]
    refine ⟨result, state, ?_⟩
    rw [List.filterMap_append, said, rest]
    cases crossed : image ⟨r, (home r s).1⟩ <;> simp [crossed]

/-- The same, where what is heard of a request does not depend on its answer. -/
theorem run_via {heard : Exchange W → Option β} {image : V.Request → Option β}
    {home : Surroundings V σ} {abroad : Surroundings W σ}
    {speak : (r : V.Request) → Program W (V.Answer r)}
    (faithful : ∀ r s, ∃ trace, trace.filterMap heard = (image r).toList ∧
      (speak r).run abroad s = ⟨.ok (home r s).1, (home r s).2, trace⟩)
    (p : Program V α) (s : σ) :
    ((p.via speak).run abroad s).result = (p.run home s).result ∧
      ((p.via speak).run abroad s).state = (p.run home s).state ∧
      ((p.via speak).run abroad s).trace.filterMap heard =
        (p.run home s).trace.filterMap fun x => image x.request :=
  run_via_image (fun x => image x.request) faithful p s

end Program

end RadarOverlay
