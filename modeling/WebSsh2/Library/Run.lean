import Mathlib.Data.List.Basic

namespace WebSsh2.Library.Run

section Machine

variable {σ ι : Type*} (step : σ → ι → σ)

def run (state : σ) (inputs : List ι) : σ :=
  inputs.foldl step state

-- Every step of the run meets `P`, read in the state before the step.
def Along (P : σ → ι → Prop) : σ → List ι → Prop
  | _, [] => True
  | state, input :: rest => P state input ∧ Along P (step state input) rest

-- `Inv` holds of every state the run passes through, first and last included.
def Throughout (Inv : σ → Prop) : σ → List ι → Prop
  | state, [] => Inv state
  | state, input :: rest => Inv state ∧ Throughout Inv (step state input) rest

instance Along.decidable (P : σ → ι → Prop) [∀ state input, Decidable (P state input)] :
    ∀ state inputs, Decidable (Along step P state inputs)
  | _, [] => inferInstanceAs (Decidable True)
  | state, input :: rest =>
    have := Along.decidable P (step state input) rest
    inferInstanceAs (Decidable (P state input ∧ Along step P (step state input) rest))

instance Throughout.decidable (Inv : σ → Prop) [∀ state, Decidable (Inv state)] :
    ∀ state inputs, Decidable (Throughout step Inv state inputs)
  | state, [] => inferInstanceAs (Decidable (Inv state))
  | state, input :: rest =>
    have := Throughout.decidable Inv (step state input) rest
    inferInstanceAs (Decidable (Inv state ∧ Throughout step Inv (step state input) rest))

variable (state : σ)

@[simp] theorem run_nil : run step state [] = state := rfl

@[simp] theorem run_cons (input : ι) (rest : List ι) :
    run step state (input :: rest) = run step (step state input) rest := rfl

theorem run_append (first second : List ι) :
    run step state (first ++ second) = run step (run step state first) second :=
  List.foldl_append

theorem along_iff (P : σ → ι → Prop) (state : σ) (inputs : List ι) :
    Along step P state inputs ↔
      ∀ before input after, inputs = before ++ input :: after →
        P (run step state before) input := by
  induction inputs generalizing state with
  | nil => simp [Along]
  | cons head rest ih =>
    constructor
    · rintro ⟨hhead, hrest⟩ before input after heq
      cases before with
      | nil =>
        obtain ⟨rfl, rfl⟩ := List.cons.inj heq
        exact hhead
      | cons first before =>
        obtain ⟨rfl, htail⟩ := List.cons.inj heq
        exact (ih (step state head)).mp hrest before input after htail
    · intro h
      refine ⟨h [] head rest rfl, (ih (step state head)).mpr ?_⟩
      intro before input after heq
      exact h (head :: before) input after (by rw [heq, List.cons_append])

-- Two conditions on steps that agree on the inputs of the run.
theorem along_congr_mem {P Q : σ → ι → Prop} (inputs : List ι)
    (h : ∀ input ∈ inputs, ∀ state, P state input ↔ Q state input) :
    Along step P state inputs ↔ Along step Q state inputs := by
  induction inputs generalizing state with
  | nil => exact Iff.rfl
  | cons input rest ih =>
    refine and_congr (h input List.mem_cons_self state) (ih _ ?_)
    exact fun other hmem => h other (List.mem_cons_of_mem _ hmem)

theorem along_of_forall_mem {P : σ → ι → Prop} (inputs : List ι)
    (h : ∀ input ∈ inputs, ∀ state, P state input) : Along step P state inputs := by
  induction inputs generalizing state with
  | nil => exact trivial
  | cons input rest ih =>
    exact ⟨h input List.mem_cons_self state,
      ih _ fun other hmem => h other (List.mem_cons_of_mem _ hmem)⟩

theorem along_and (P Q : σ → ι → Prop) (state : σ) (inputs : List ι) :
    Along step (fun state input => P state input ∧ Q state input) state inputs ↔
      Along step P state inputs ∧ Along step Q state inputs := by
  induction inputs generalizing state with
  | nil => exact ⟨fun _ => ⟨trivial, trivial⟩, fun _ => trivial⟩
  | cons input rest ih =>
    simp only [Along]
    rw [ih]
    exact and_and_and_comm

theorem throughout_iff (Inv : σ → Prop) (state : σ) (inputs : List ι) :
    Throughout step Inv state inputs ↔
      ∀ before, before <+: inputs → Inv (run step state before) := by
  induction inputs generalizing state with
  | nil => simp [Throughout]
  | cons head rest ih =>
    constructor
    · rintro ⟨hhead, hrest⟩ before hpre
      cases before with
      | nil => exact hhead
      | cons first before =>
        obtain ⟨rfl, htail⟩ := List.cons_prefix_cons.mp hpre
        exact (ih (step state first)).mp hrest before htail
    · intro h
      refine ⟨h [] List.nil_prefix, (ih (step state head)).mpr ?_⟩
      intro before hpre
      exact h (head :: before) (List.cons_prefix_cons.mpr ⟨rfl, hpre⟩)

theorem throughout_iff_init (Inv : σ → Prop) (state : σ) (inputs : List ι) :
    Throughout step Inv state inputs ↔
      Inv state ∧ Along step (fun state input => Inv (step state input)) state inputs := by
  induction inputs generalizing state with
  | nil => simp [Throughout, Along]
  | cons input rest ih =>
    simp only [Throughout, Along]
    rw [ih]

theorem throughout_last {Inv : σ → Prop} {state : σ} {inputs : List ι}
    (h : Throughout step Inv state inputs) : Inv (run step state inputs) :=
  (throughout_iff step Inv state inputs).mp h inputs (List.prefix_refl inputs)

end Machine

section Rules

variable {σ ι : Type*} {step : σ → ι → σ}

-- The invariant rule: a property that every allowed step keeps holds
-- throughout every run of allowed steps.
theorem throughout_of_step {Inv : σ → Prop} {P : σ → ι → Prop} {state : σ} {inputs : List ι}
    (hinit : Inv state) (hstep : ∀ state input, Inv state → P state input → Inv (step state input))
    (hrun : Along step P state inputs) : Throughout step Inv state inputs := by
  induction inputs generalizing state with
  | nil => exact hinit
  | cons input rest ih =>
    obtain ⟨hinput, hrest⟩ := hrun
    exact ⟨hinit, ih (hstep state input hinit hinput) hrest⟩

theorem throughout_mono {Inv Inv' : σ → Prop} (hmono : ∀ state, Inv state → Inv' state)
    {state : σ} {inputs : List ι} (h : Throughout step Inv state inputs) :
    Throughout step Inv' state inputs := by
  induction inputs generalizing state with
  | nil => exact hmono state h
  | cons input rest ih => exact ⟨hmono state h.1, ih h.2⟩

theorem along_mono {P Q : σ → ι → Prop} (hmono : ∀ state input, P state input → Q state input)
    {state : σ} {inputs : List ι} (h : Along step P state inputs) : Along step Q state inputs := by
  induction inputs generalizing state with
  | nil => exact trivial
  | cons input rest ih => exact ⟨hmono state input h.1, ih h.2⟩

theorem invariant_of_step {Inv : σ → Prop} {state : σ}
    (hinit : Inv state) (hstep : ∀ state input, Inv state → Inv (step state input))
    (inputs : List ι) : Inv (run step state inputs) := by
  induction inputs generalizing state with
  | nil => exact hinit
  | cons input rest ih => exact ih (hstep state input hinit)

-- Two conditions on steps that agree wherever the invariant holds, which the
-- steps that meet the second keep.
theorem along_congr_of_kept {Inv : σ → Prop} {P Q : σ → ι → Prop}
    (hstep : ∀ state input, Inv state → Q state input → Inv (step state input))
    (hiff : ∀ state input, Inv state → (P state input ↔ Q state input))
    {state : σ} (hinit : Inv state) (inputs : List ι) :
    Along step P state inputs ↔ Along step Q state inputs := by
  induction inputs generalizing state with
  | nil => exact Iff.rfl
  | cons input rest ih =>
    simp only [Along]
    rw [hiff state input hinit]
    exact and_congr_right fun hinput => ih (hstep state input hinit hinput)

theorem along_congr {Inv : σ → Prop} {P Q : σ → ι → Prop}
    (hstep : ∀ state input, Inv state → Inv (step state input))
    (hiff : ∀ state input, Inv state → (P state input ↔ Q state input))
    {state : σ} (hinit : Inv state) (inputs : List ι) :
    Along step P state inputs ↔ Along step Q state inputs :=
  along_congr_of_kept (fun state input h _ => hstep state input h) hiff hinit inputs

-- Where a step keeps the property exactly when it is allowed, so does a run.
-- `Aux` is what every run keeps, allowed or not.
theorem throughout_iff_along {Aux Inv : σ → Prop} {P : σ → ι → Prop}
    (haux : ∀ state input, Aux state → Aux (step state input))
    (hstep : ∀ state input, Aux state → Inv state → (Inv (step state input) ↔ P state input))
    {state : σ} (ha : Aux state) (hi : Inv state) (inputs : List ι) :
    Throughout step Inv state inputs ↔ Along step P state inputs := by
  induction inputs generalizing state with
  | nil => exact ⟨fun _ => trivial, fun _ => hi⟩
  | cons input rest ih =>
    have hnext := hstep state input ha hi
    constructor
    · rintro ⟨_, hrest⟩
      have hinv : Inv (step state input) :=
        (throughout_iff step Inv _ rest).mp hrest [] List.nil_prefix
      exact ⟨hnext.mp hinv, (ih (haux _ _ ha) hinv).mp hrest⟩
    · rintro ⟨hinput, hrest⟩
      have hinv := hnext.mpr hinput
      exact ⟨hi, (ih (haux _ _ ha) hinv).mpr hrest⟩

-- A property that no later step restores holds at the end of a run exactly
-- when it holds throughout.
theorem throughout_iff_last {Inv : σ → Prop}
    (hback : ∀ state input, Inv (step state input) → Inv state)
    (state : σ) (inputs : List ι) :
    Throughout step Inv state inputs ↔ Inv (run step state inputs) := by
  induction inputs generalizing state with
  | nil => exact Iff.rfl
  | cons input rest ih =>
    constructor
    · rintro ⟨_, hrest⟩
      exact (ih _).mp hrest
    · intro hlast
      have hrest := (ih (step state input)).mpr hlast
      have hinv : Inv (step state input) :=
        (throughout_iff step Inv _ rest).mp hrest [] List.nil_prefix
      exact ⟨hback state input hinv, hrest⟩

end Rules

end WebSsh2.Library.Run

namespace WebSsh2.Library.Descent

section Relation

variable {σ : Type*} (Step : σ → σ → Prop)

inductive Run : Nat → σ → σ → Prop where
  | nil (state : σ) : Run 0 state state
  | cons {count : Nat} {state next last : σ} (hstep : Step state next)
      (hrun : Run count next last) : Run (count + 1) state last

-- However the steps are taken, there are no more than so many.
def Bounded (state : σ) : Prop :=
  ∃ bound, ∀ count last, Run Step count state last → count ≤ bound

variable {Step}

-- Each state of the run has a rank, and the next one has a smaller rank.
theorem bounded_of_rank {Ranked : Nat → σ → Prop}
    (hstep : ∀ rank state next, Ranked rank state → Step state next →
      ∃ smaller, smaller < rank ∧ Ranked smaller next)
    {rank : Nat} {state : σ} (h : Ranked rank state) : Bounded Step state := by
  refine ⟨rank, fun count last hrun => ?_⟩
  induction hrun generalizing rank with
  | nil state => exact Nat.zero_le rank
  | cons hnext _ ih =>
    obtain ⟨smaller, hsmaller, hranked⟩ := hstep _ _ _ h hnext
    have hrest := ih hranked
    omega

-- A property that some step always keeps makes runs of every length.
theorem not_bounded_of_step {P : σ → Prop}
    (hstep : ∀ state, P state → ∃ next, Step state next ∧ P next)
    {state : σ} (h : P state) : ¬Bounded Step state := by
  have hruns : ∀ count state, P state → ∃ last, Run Step count state last := by
    intro count
    induction count with
    | zero => exact fun state _ => ⟨state, .nil state⟩
    | succ count ih =>
      intro state hstate
      obtain ⟨next, hnext, hkept⟩ := hstep state hstate
      obtain ⟨last, hrun⟩ := ih next hkept
      exact ⟨last, .cons hnext hrun⟩
  rintro ⟨bound, hbound⟩
  obtain ⟨last, hrun⟩ := hruns (bound + 1) state h
  have hlength := hbound _ _ hrun
  omega

end Relation

end WebSsh2.Library.Descent
