import Mathlib.Logic.Basic

namespace BluetoothStack
namespace Simulation

/-!
# Sequences of calls and lockstep simulation

An object with a partial step function, one call at a time, answers each
call with a reply and a new state; a call it must not receive (undefined
behaviour, an assertion) is none.  A sequence of calls is run from left to
right and fails at its first failing call.

An implementation simulates a specification in lockstep when from related
states each call fails on both sides or on neither, with the same reply and
related states after.  A whole run then does the same, so an argument about
one call at a time settles every sequence of calls.
-/

variable {σ τ ι ρ : Type}

/-- The replies of a sequence of calls and the state after them. -/
def run (step : σ → ι → Option (ρ × σ)) (state : σ) : List ι → Option (List ρ × σ)
  | [] => some ([], state)
  | first :: rest =>
    (step state first).bind fun outcome =>
      (run step outcome.2 rest).map fun after => (outcome.1 :: after.1, after.2)

@[simp]
theorem run_nil (step : σ → ι → Option (ρ × σ)) (state : σ) : run step state [] = some ([], state) := rfl

theorem run_cons (step : σ → ι → Option (ρ × σ)) (state : σ) (first : ι) (rest : List ι) :
    run step state (first :: rest) =
      (step state first).bind fun outcome =>
        (run step outcome.2 rest).map fun after => (outcome.1 :: after.1, after.2) := rfl

/-- A property every call keeps holds after a whole run, by induction on the
calls. -/
theorem run_invariant {step : σ → ι → Option (ρ × σ)} (holds : σ → Prop)
    (preserved : ∀ state input outcome, holds state → step state input = some outcome → holds outcome.2)
    {state : σ} (start : holds state) {inputs : List ι} {result : List ρ × σ}
    (ran : run step state inputs = some result) : holds result.2 := by
  induction inputs generalizing state result with
  | nil =>
    cases ran
    exact start
  | cons first rest ih =>
    rw [run_cons] at ran
    obtain ⟨outcome, stepped, after⟩ := Option.bind_eq_some_iff.1 ran
    obtain ⟨tail, ranRest, rfl⟩ := Option.map_eq_some_iff.1 after
    have afterRest := ih (preserved state first outcome start stepped) ranRest
    exact afterRest

theorem rel_bind {α β γ δ : Type} {r : α → β → Prop} {s : γ → δ → Prop} {x : Option α} {y : Option β}
    {f : α → Option γ} {g : β → Option δ} (related : Option.Rel r x y)
    (after : ∀ a b, r a b → Option.Rel s (f a) (g b)) : Option.Rel s (x.bind f) (y.bind g) := by
  cases related with
  | none => exact Option.Rel.none
  | some holds => exact after _ _ holds

theorem rel_map {α β γ δ : Type} {r : α → β → Prop} {s : γ → δ → Prop} {x : Option α} {y : Option β}
    {f : α → γ} {g : β → δ} (related : Option.Rel r x y) (after : ∀ a b, r a b → s (f a) (g b)) :
    Option.Rel s (x.map f) (y.map g) := by
  cases related with
  | none => exact Option.Rel.none
  | some holds => exact Option.Rel.some (after _ _ holds)

/-- Two outcomes agree: the same reply, and related states. -/
def Agree {α : Type} (related : σ → τ → Prop) (outcome : α × σ) (spec : α × τ) : Prop :=
  outcome.1 = spec.1 ∧ related outcome.2 spec.2

/-- Lockstep simulation under a relation of states, for the inputs a
precondition allows. -/
def SimulatesOn (allowed : ι → Prop) (impl : σ → ι → Option (ρ × σ)) (spec : τ → ι → Option (ρ × τ))
    (related : σ → τ → Prop) : Prop :=
  ∀ state abstract, related state abstract → ∀ input, allowed input →
    Option.Rel (Agree related) (impl state input) (spec abstract input)

/-- Lockstep simulation under a relation of states, for every input. -/
def Simulates (impl : σ → ι → Option (ρ × σ)) (spec : τ → ι → Option (ρ × τ)) (related : σ → τ → Prop) :
    Prop :=
  ∀ state abstract, related state abstract → ∀ input, Option.Rel (Agree related) (impl state input) (spec abstract input)

section Lockstep

variable {impl : σ → ι → Option (ρ × σ)} {spec : τ → ι → Option (ρ × τ)} {related : σ → τ → Prop}

/-- A whole run of allowed inputs agrees with the specification's run, by
induction on the inputs with the relation as the invariant. -/
theorem run_simulatesOn {allowed : ι → Prop} (simulates : SimulatesOn allowed impl spec related) {state : σ}
    {abstract : τ} (start : related state abstract) (inputs : List ι) (allAllowed : ∀ input ∈ inputs, allowed input) :
    Option.Rel (Agree related) (run impl state inputs) (run spec abstract inputs) := by
  induction inputs generalizing state abstract with
  | nil => exact Option.Rel.some ⟨rfl, start⟩
  | cons first rest ih =>
    rw [run_cons, run_cons]
    apply rel_bind (simulates state abstract start first (allAllowed first List.mem_cons_self))
    rintro outcome specOutcome ⟨sameReply, related'⟩
    apply rel_map (ih related' fun input member => allAllowed input (List.mem_cons_of_mem _ member))
    rintro after specAfter ⟨sameReplies, relatedAfter⟩
    exact ⟨by rw [sameReply, sameReplies], relatedAfter⟩

theorem run_simulates (simulates : Simulates impl spec related) {state : σ} {abstract : τ}
    (start : related state abstract) (inputs : List ι) :
    Option.Rel (Agree related) (run impl state inputs) (run spec abstract inputs) := by
  have everywhere : SimulatesOn (fun _ : ι => True) impl spec related :=
    fun state abstract related input _ => simulates state abstract related input
  exact run_simulatesOn everywhere start inputs fun _ _ => trivial

end Lockstep

end Simulation
end BluetoothStack
