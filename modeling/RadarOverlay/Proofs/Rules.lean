import RadarOverlay.Controller.Vocabulary

/-!
Rules for programs: which requests a program makes, given what it may rely on in the
answers. Whether a program abides by rules is read off the program alone; the main
statement, `Abides.run`, turns it into a fact about every run in surroundings that
keep the rules on their side. Whether a program always ends with a value is read off
it as well, and `Total.run` says so of every run.
-/
namespace RadarOverlay

/-- What a program may ask, and what it relies on in the answers. -/
structure Rules (V : Vocabulary) where
  asks : V.Request → Prop
  relies : (request : V.Request) → V.Answer request → Prop

/-- Surroundings in a state with the invariant answer every allowed request as it is relied on,
and the invariant stays, as long as all that passes meets `heard`. -/
def Rules.KeptBy {V : Vocabulary} {σ : Type} (rules : Rules V) (serve : Surroundings V σ)
    (invariant : σ → Prop) (heard : Exchange V → Prop) : Prop :=
  ∀ request s, invariant s → rules.asks request → heard ⟨request, (serve request s).1⟩ →
    rules.relies request (serve request s).1 ∧ invariant (serve request s).2

namespace Program

variable {V : Vocabulary} {α β σ : Type} {rules : Rules V}

/-- A program asks only what the rules allow and yields only what `post` admits, whatever it is
answered within the rules. -/
def Abides (rules : Rules V) (post : α → Prop) : Program V α → Prop
  | .done a => post a
  | .fault _ => True
  | .ask r next => rules.asks r ∧ ∀ answer, rules.relies r answer → Abides rules post (next answer)

@[simp] theorem abides_done {post : α → Prop} {a : α} :
    Abides rules post (.done a : Program V α) ↔ post a := Iff.rfl

@[simp] theorem abides_ask {post : α → Prop} {r : V.Request} {next : V.Answer r → Program V α} :
    Abides rules post (.ask r next) ↔
      rules.asks r ∧ ∀ answer, rules.relies r answer → Abides rules post (next answer) := Iff.rfl

@[simp] theorem abides_bind {post : β → Prop} {p : Program V α} {f : α → Program V β} :
    Abides rules post (p.bind f) ↔ Abides rules (fun a => Abides rules post (f a)) p := by
  induction p with
  | done => exact Iff.rfl
  | fault => exact Iff.rfl
  | ask r next ih =>
    exact and_congr Iff.rfl (forall_congr' fun answer => imp_congr Iff.rfl (ih answer))

@[simp] theorem abides_ofExcept {post : α → Prop} {computed : Except Overflow α} :
    Abides rules post (ofExcept computed : Program V α) ↔ ∀ a, computed = .ok a → post a := by
  cases computed with
  | ok a => simp [ofExcept]
  | error cause => simp [ofExcept, Abides]

@[simp] theorem abides_ite {post : α → Prop} {c : Prop} [Decidable c] {p q : Program V α} :
    Abides rules post (if c then p else q) ↔
      (c → Abides rules post p) ∧ (¬ c → Abides rules post q) := by
  split <;> simp_all

/-- A weaker postcondition asks for less. -/
theorem Abides.mono {post weaker : α → Prop} {p : Program V α} (abides : Abides rules post p)
    (implies : ∀ a, post a → weaker a) : Abides rules weaker p := by
  induction p with
  | done a => exact implies a abides
  | fault => exact trivial
  | ask r next ih => exact ⟨abides.1, fun answer told => ih answer (abides.2 answer told)⟩

/-- Weaker rules are kept by every program that keeps the stronger ones. -/
theorem Abides.relax {weaker : Rules V} {post : α → Prop} {p : Program V α}
    (abides : Abides rules post p) (asks : ∀ r, rules.asks r → weaker.asks r)
    (relies : ∀ r answer, weaker.relies r answer → rules.relies r answer) :
    Abides weaker post p := by
  induction p with
  | done a => exact abides
  | fault => exact trivial
  | ask r next ih =>
    exact ⟨asks r abides.1, fun answer told => ih answer (abides.2 answer (relies r answer told))⟩

theorem abides_each {post : Unit → Prop} {xs : List α} {f : α → Program V Unit}
    (bodies : ∀ x ∈ xs, Abides rules (fun _ => True) (f x)) (afterwards : post ()) :
    Abides rules post (each xs f) := by
  induction xs with
  | nil => exact afterwards
  | cons x rest ih =>
    rw [each, abides_bind]
    exact (bodies x (by simp)).mono fun _ _ => ih fun y member => bodies y (by simp [member])

/-- Where the surroundings keep the rules, a run of a program that abides by them asks only what
is allowed and ends in the invariant, with an admitted value if it ends at all. -/
theorem Abides.run {post : α → Prop} {p : Program V α} {serve : Surroundings V σ}
    {invariant : σ → Prop} {heard : Exchange V → Prop} (abides : Abides rules post p)
    (kept : rules.KeptBy serve invariant heard) {s : σ} (start : invariant s)
    (hears : ∀ x ∈ (p.run serve s).trace, heard x) :
    (∀ x ∈ (p.run serve s).trace, rules.asks x.request) ∧ invariant (p.run serve s).state ∧
      ∀ a, (p.run serve s).result = .ok a → post a := by
  induction p generalizing s with
  | done a => exact ⟨by simp [Program.run], start, by rintro _ ⟨⟩; exact abides⟩
  | fault cause => exact ⟨by simp [Program.run], start, by rintro _ ⟨⟩⟩
  | ask r next ih =>
    obtain ⟨told, kept'⟩ := kept r s start abides.1 (hears _ (by simp [Program.run]))
    obtain ⟨trace, final, value⟩ := ih (serve r s).1 (abides.2 _ told) kept'
      fun x member => hears x (by simp [Program.run, member])
    refine ⟨?_, final, value⟩
    intro x member
    rcases List.mem_cons.mp member with rfl | later
    · exact abides.1
    · exact trace x later

/-- The rules of programs that make some requests only, whatever they are answered. -/
def only (asks : V.Request → Prop) : Rules V := ⟨asks, fun _ _ => True⟩

@[simp] theorem only_asks {asks : V.Request → Prop} {request : V.Request} :
    (only asks).asks request ↔ asks request := Iff.rfl

/-- What a program may ask of any surroundings is all that it asks in a run. -/
theorem Abides.asks_of_only {asks : V.Request → Prop} {post : α → Prop} {p : Program V α}
    (abides : Abides (only asks) post p) (serve : Surroundings V σ) (s : σ) :
    ∀ x ∈ (p.run serve s).trace, asks x.request := by
  have kept : (only asks).KeptBy serve (fun _ => True) (fun _ => True) :=
    fun _ _ _ _ _ => ⟨trivial, trivial⟩
  exact (abides.run kept trivial fun _ _ => trivial).1

/-- A program that stops at no overflow, whatever it is answered. -/
def Total : Program V α → Prop
  | .done _ => True
  | .fault _ => False
  | .ask _ next => ∀ answer, Total (next answer)

@[simp] theorem total_done (a : α) : Total (.done a : Program V α) := trivial

@[simp] theorem total_ask {r : V.Request} {next : V.Answer r → Program V α} :
    Total (.ask r next) ↔ ∀ answer, Total (next answer) := Iff.rfl

theorem Total.bind {p : Program V α} {f : α → Program V β} (first : Total p)
    (others : ∀ a, Total (f a)) : Total (p.bind f) := by
  induction p with
  | done a => exact others a
  | fault => exact first.elim
  | ask r next ih => exact fun answer => ih answer (first answer)

theorem total_each {xs : List α} {f : α → Program V Unit} (bodies : ∀ x, Total (f x)) :
    Total (each xs f) := by
  induction xs with
  | nil => exact trivial
  | cons x rest ih => exact (bodies x).bind fun _ => ih

/-- Every run of a total program ends with a value. -/
theorem Total.run {p : Program V α} (total : Total p) (serve : Surroundings V σ) (s : σ) :
    ∃ a, (p.run serve s).result = .ok a := by
  induction p generalizing s with
  | done a => exact ⟨a, rfl⟩
  | fault => exact total.elim
  | ask r next ih => exact ih _ (total _) _

end Program

end RadarOverlay
