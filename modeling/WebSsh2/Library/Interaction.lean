import Mathlib.Data.List.Basic

namespace WebSsh2.Library

-- A program that asks its surroundings for one answer after another.
inductive Prog (ρ : Type) (Answer : ρ → Type) (α : Type) where
  | done (result : α)
  | ask (request : ρ) (next : Answer request → Prog ρ Answer α)

abbrev Event (ρ : Type) (Answer : ρ → Type) := (request : ρ) × Answer request

namespace Prog

section Programs

variable {ρ : Type} {Answer : ρ → Type} {α β : Type}

protected def bind : Prog ρ Answer α → (α → Prog ρ Answer β) → Prog ρ Answer β
  | .done result, f => f result
  | .ask request next, f => .ask request fun answer => (next answer).bind f

instance : Monad (Prog ρ Answer) where
  pure := .done
  bind := Prog.bind

def request (request : ρ) : Prog ρ Answer (Answer request) :=
  .ask request .done

-- A run: the answers are whatever the surroundings gave.
inductive Runs : Prog ρ Answer α → List (Event ρ Answer) → α → Prop where
  | done (result : α) : Runs (.done result) [] result
  | ask (request : ρ) (answer : Answer request) {next : Answer request → Prog ρ Answer α}
      {events : List (Event ρ Answer)} {result : α} (rest : Runs (next answer) events result) :
      Runs (.ask request next) (⟨request, answer⟩ :: events) result

-- The run in surroundings that answer a request always alike.
def play (answers : (request : ρ) → Answer request) :
    Prog ρ Answer α → List (Event ρ Answer) × α
  | .done result => ([], result)
  | .ask request next =>
    let (events, result) := (next (answers request)).play answers
    (⟨request, answers request⟩ :: events, result)

theorem runs_play (answers : (request : ρ) → Answer request) (program : Prog ρ Answer α) :
    Runs program (program.play answers).1 (program.play answers).2 := by
  induction program with
  | done result => exact .done result
  | ask request next ih => exact .ask request _ (ih (answers request))

@[simp] theorem pure_eq (result : α) : (pure result : Prog ρ Answer α) = .done result := rfl

variable (program : Prog ρ Answer α) (f : α → Prog ρ Answer β)

@[simp] theorem done_bind (result : α) (f : α → Prog ρ Answer β) :
    (Prog.done result : Prog ρ Answer α).bind f = f result := rfl

variable (request : ρ)

@[simp] theorem ask_bind (next : Answer request → Prog ρ Answer α) (f : α → Prog ρ Answer β) :
    (Prog.ask request next).bind f = .ask request fun answer => (next answer).bind f := rfl

@[simp] theorem runs_done_iff (value result : α) (events : List (Event ρ Answer)) :
    Runs (.done value) events result ↔ events = [] ∧ result = value := by
  constructor
  · rintro ⟨⟩
    exact ⟨rfl, rfl⟩
  · rintro ⟨rfl, rfl⟩
    exact .done _

theorem runs_ask_iff (next : Answer request → Prog ρ Answer α) (events : List (Event ρ Answer))
    (result : α) :
    Runs (.ask request next) events result ↔
      ∃ answer later, events = ⟨request, answer⟩ :: later ∧ Runs (next answer) later result := by
  constructor
  · intro h
    cases h with
    | ask _ answer hrest => exact ⟨answer, _, rfl, hrest⟩
  · rintro ⟨answer, later, rfl, hrest⟩
    exact .ask request answer hrest

-- A run of two programs in a row is a run of the first followed by one of the second.
theorem runs_bind_iff (events : List (Event ρ Answer)) (result : β) :
    Runs (program.bind f) events result ↔
      ∃ first middle second, events = first ++ second ∧ Runs program first middle ∧
        Runs (f middle) second result := by
  induction program generalizing events with
  | done value => simp
  | ask request next ih =>
    rw [ask_bind, runs_ask_iff]
    constructor
    · rintro ⟨answer, later, rfl, hrest⟩
      obtain ⟨first, middle, second, rfl, hfirst, hsecond⟩ := (ih answer later).mp hrest
      exact ⟨⟨request, answer⟩ :: first, middle, second, rfl, .ask request answer hfirst,
        hsecond⟩
    · rintro ⟨first, middle, second, rfl, hfirst, hsecond⟩
      obtain ⟨answer, later, rfl, hrest⟩ := (runs_ask_iff _ _ _ _).mp hfirst
      exact ⟨answer, later ++ second, rfl,
        (ih answer _).mpr ⟨later, middle, second, rfl, hrest, hsecond⟩⟩

-- The answers alone decide how a run goes on.
theorem Runs.eq_of_append {program : Prog ρ Answer α} {first second : List (Event ρ Answer)}
    {value other : α} (hfirst : Runs program first value) (hsecond : Runs program second other)
    {later further : List (Event ρ Answer)} (h : first ++ later = second ++ further) :
    first = second ∧ value = other := by
  induction hfirst generalizing second with
  | done result =>
    obtain ⟨rfl, rfl⟩ := (runs_done_iff _ _ _).mp hsecond
    exact ⟨rfl, rfl⟩
  | ask request answer rest ih =>
    obtain ⟨answer', events, rfl, hrest⟩ := (runs_ask_iff _ _ _ _).mp hsecond
    obtain ⟨hevent, hlater⟩ := List.cons.inj h
    obtain rfl := eq_of_heq (Sigma.mk.inj hevent).2
    obtain ⟨rfl, rfl⟩ := ih hrest hlater
    exact ⟨rfl, rfl⟩

-- Once the first program is done, a run goes on as one of the second.
theorem runs_bind_append_iff {program : Prog ρ Answer α} {f : α → Prog ρ Answer β}
    {first : List (Event ρ Answer)} {middle : α} (h : Runs program first middle)
    (second : List (Event ρ Answer)) (result : β) :
    Runs (program.bind f) (first ++ second) result ↔ Runs (f middle) second result := by
  rw [runs_bind_iff]
  constructor
  · rintro ⟨first', middle', second', heq, hfirst, hsecond⟩
    obtain ⟨rfl, rfl⟩ := h.eq_of_append hfirst heq
    rwa [List.append_cancel_left heq]
  · intro hsecond
    exact ⟨first, middle, second, rfl, h, hsecond⟩

-- Some run comes to a request of a kind.
def Asks (kind : ρ → Prop) : Prog ρ Answer α → Prop
  | .done _ => False
  | .ask request next => kind request ∨ ∃ answer, (next answer).Asks kind

section Asking

variable {kind : ρ → Prop} {program : Prog ρ Answer α} {f : α → Prog ρ Answer β}

theorem Asks.bind (h : program.Asks kind) : (program.bind f).Asks kind := by
  induction program with
  | done result => exact h.elim
  | ask request next ih =>
    rcases h with hkind | ⟨answer, hlater⟩
    · exact .inl hkind
    · exact .inr ⟨answer, ih answer hlater⟩

end Asking

-- What every run leaves behind: the weakest condition on the program.
def Ensures : Prog ρ Answer α → (List (Event ρ Answer) → α → Prop) → Prop
  | .done result, post => post [] result
  | .ask request next, post => ∀ answer, (next answer).Ensures fun events result =>
    post (⟨request, answer⟩ :: events) result

@[simp] theorem ensures_done (value : α) (post : List (Event ρ Answer) → α → Prop) :
    (Prog.done value : Prog ρ Answer α).Ensures post ↔ post [] value := Iff.rfl

@[simp] theorem ensures_ask (next : Answer request → Prog ρ Answer α)
    (post : List (Event ρ Answer) → α → Prop) :
    (Prog.ask request next).Ensures post ↔
      ∀ answer, (next answer).Ensures fun events result =>
        post (⟨request, answer⟩ :: events) result := Iff.rfl

theorem ensures_iff_runs (post : List (Event ρ Answer) → α → Prop) :
    program.Ensures post ↔ ∀ events result, Runs program events result → post events result := by
  induction program generalizing post with
  | done value =>
    constructor
    · intro h events result hrun
      obtain ⟨rfl, rfl⟩ := (runs_done_iff _ _ _).mp hrun
      exact h
    · exact fun h => h [] value (.done value)
  | ask request next ih =>
    constructor
    · intro h events result hrun
      obtain ⟨answer, later, rfl, hrest⟩ := (runs_ask_iff _ _ _ _).mp hrun
      exact (ih answer _).mp (h answer) later result hrest
    · intro h answer
      exact (ih answer _).mpr fun events result hrun => h _ _ (.ask request answer hrun)

theorem ensures_bind (post : List (Event ρ Answer) → β → Prop) :
    (program.bind f).Ensures post ↔
      program.Ensures fun first middle =>
        (f middle).Ensures fun second result => post (first ++ second) result := by
  induction program generalizing post with
  | done value => rfl
  | ask request next ih => simp only [ask_bind, ensures_ask, ih, List.cons_append]

theorem Ensures.mono {program : Prog ρ Answer α} {pre post : List (Event ρ Answer) → α → Prop}
    (h : program.Ensures pre) (himp : ∀ events result, pre events result → post events result) :
    program.Ensures post := by
  rw [ensures_iff_runs] at h ⊢
  exact fun events result hrun => himp events result (h events result hrun)

-- The rule for one program after another.
theorem Ensures.bind {program : Prog ρ Answer α} {f : α → Prog ρ Answer β}
    {middle : List (Event ρ Answer) → α → Prop} {post : List (Event ρ Answer) → β → Prop}
    (h : program.Ensures middle)
    (hnext : ∀ first value, middle first value →
      (f value).Ensures fun second result => post (first ++ second) result) :
    (program.bind f).Ensures post :=
  (ensures_bind program f post).mpr (h.mono hnext)

-- The requests a run made, in order.
def requests (events : List (Event ρ Answer)) : List ρ :=
  events.map Sigma.fst

@[simp] theorem requests_append (first second : List (Event ρ Answer)) :
    requests (first ++ second) = requests first ++ requests second :=
  List.map_append

end Programs

end Prog

end WebSsh2.Library

namespace WebSsh2.Library.Prog

variable {ρ σ : Type} {Answer : ρ → Type} {Reply : σ → Type} {α β : Type}

-- Programs that may ask questions of two kinds, and among them those that ask only
-- questions of the first.
def lift : Prog ρ Answer α → Prog (ρ ⊕ σ) (Sum.elim Answer Reply) α
  | .done result => .done result
  | .ask request next => .ask (.inl request) fun answer => (next answer).lift

def liftEvent (event : Event ρ Answer) : Event (ρ ⊕ σ) (Sum.elim Answer Reply) :=
  ⟨.inl event.1, event.2⟩

@[simp] theorem lift_done (result : α) :
    (Prog.done result : Prog ρ Answer α).lift =
      (.done result : Prog (ρ ⊕ σ) (Sum.elim Answer Reply) α) :=
  rfl

@[simp] theorem lift_ask (request : ρ) (next : Answer request → Prog ρ Answer α) :
    ((Prog.ask request next).lift : Prog (ρ ⊕ σ) (Sum.elim Answer Reply) α) =
      .ask (.inl request) fun answer => (next answer).lift :=
  rfl

-- A lifted program has the runs that it had, each event seen as one of the first kind.
theorem ensures_lift (program : Prog ρ Answer α)
    (post : List (Event (ρ ⊕ σ) (Sum.elim Answer Reply)) → α → Prop) :
    program.lift.Ensures post ↔
      program.Ensures fun events result => post (events.map liftEvent) result := by
  induction program generalizing post with
  | done result => rfl
  | ask request next ih =>
    rw [lift_ask, ensures_ask, ensures_ask]
    constructor
    · intro h answer
      exact (ih answer _).mp (h answer)
    · intro h answer
      exact (ih answer _).mpr (h answer)

-- What holds of every run of a program holds of it lifted, said of the lifted events.
theorem Ensures.lift {program : Prog ρ Answer α} {pre : List (Event ρ Answer) → α → Prop}
    {post : List (Event (ρ ⊕ σ) (Sum.elim Answer Reply)) → α → Prop} (h : program.Ensures pre)
    (himp : ∀ events result, pre events result → post (events.map liftEvent) result) :
    program.lift.Ensures post :=
  (ensures_lift program post).mpr (h.mono himp)

-- Two facts about every run are one.
theorem Ensures.and {program : Prog ρ Answer α} {first second : List (Event ρ Answer) → α → Prop}
    (hfirst : program.Ensures first) (hsecond : program.Ensures second) :
    program.Ensures fun events result => first events result ∧ second events result := by
  rw [ensures_iff_runs] at *
  exact fun events result hrun => ⟨hfirst events result hrun, hsecond events result hrun⟩

end WebSsh2.Library.Prog
