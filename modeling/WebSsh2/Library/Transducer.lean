import Mathlib.Data.List.Basic

namespace WebSsh2.Library.Transducer

section Machine

variable {σ ι ω : Type*} (step : σ → ι → σ × List ω)

-- A machine that takes one input after the other and gives something out on each.
def feed : σ → List ι → σ × List ω
  | state, [] => (state, [])
  | state, input :: rest =>
    let next := step state input
    let later := feed next.1 rest
    (later.1, next.2 ++ later.2)

@[simp] theorem feed_nil (state : σ) : feed step state [] = (state, []) := rfl

theorem feed_cons (state : σ) (input : ι) (rest : List ι) :
    feed step state (input :: rest) =
      ((feed step (step state input).1 rest).1,
        (step state input).2 ++ (feed step (step state input).1 rest).2) := rfl

theorem feed_append (state : σ) (first second : List ι) :
    feed step state (first ++ second) =
      ((feed step (feed step state first).1 second).1,
        (feed step state first).2 ++ (feed step (feed step state first).1 second).2) := by
  induction first generalizing state with
  | nil => rfl
  | cons input rest ih => simp only [List.cons_append, feed_cons, ih, List.append_assoc]

end Machine

section Simulation

variable {σ τ ι ι' ω : Type*} {step : σ → ι → σ × List ω} {serve : τ → ι' → τ × List ω}
  {encode : ι' → List ι} {Related : σ → τ → Prop}

-- A machine that does on each encoded input what the other does on the input itself
-- does so on a sequence of them.
theorem feed_encoded
    (hstep : ∀ state other input, Related state other →
      (feed step state (encode input)).2 = (serve other input).2 ∧
        Related (feed step state (encode input)).1 (serve other input).1)
    {state : σ} {other : τ} (hrelated : Related state other) (inputs : List ι') :
    (feed step state (inputs.flatMap encode)).2 = (feed serve other inputs).2 ∧
      Related (feed step state (inputs.flatMap encode)).1 (feed serve other inputs).1 := by
  induction inputs generalizing state other with
  | nil => exact ⟨rfl, hrelated⟩
  | cons input rest ih =>
    obtain ⟨hout, hnext⟩ := hstep state other input hrelated
    obtain ⟨hlater, hlast⟩ := ih hnext
    rw [List.flatMap_cons, feed_append, feed_cons]
    exact ⟨by rw [hout, hlater], hlast⟩

end Simulation

end WebSsh2.Library.Transducer
