import Mathlib.Order.Basic

namespace BluetoothStack
namespace FuelLoop

/-!
# Loops without an evident bound

A C loop whose number of rounds its code does not bound (a `for` whose body
moves its index back, a search that restarts) is modelled by its body, one
round from a state to the next state or to the loop's result, run for at most
`fuel` rounds.  `some r` is the result the loop leaves with; `none` says the
rounds ran out first.

A statement that such a loop returns is then proved as one: `run_terminates`
gives a result within one round more than a measure the rounds decrease, and
`run_mono` keeps it for any larger fuel.  `run_induction` proves what the
result satisfies from an invariant of the rounds, and `run_diverges` proves
that no fuel is enough, from an invariant every round keeps without leaving.
-/

/-- What one round of a loop body does: go on from a new state, or leave the
loop with a result. -/
inductive Flow (σ ρ : Type*) where
  | next (state : σ)
  | exit (result : ρ)

variable {σ ρ : Type*}

/-- The loop of `body` from `state` for at most `fuel` rounds: the result it
leaves with, or `none` when the rounds run out first. -/
def run (body : σ → Flow σ ρ) : Nat → σ → Option ρ
  | 0, _ => none
  | fuel + 1, state =>
      match body state with
      | .next state => run body fuel state
      | .exit result => some result

section Rules

variable {body : σ → Flow σ ρ}

@[simp]
theorem run_zero (state : σ) : run body 0 state = none := rfl

theorem run_next {fuel : Nat} {state state' : σ} (going : body state = .next state') :
    run body (fuel + 1) state = run body fuel state' := by
  simp only [run, going]

theorem run_exit {fuel : Nat} {state : σ} {result : ρ} (leaving : body state = .exit result) :
    run body (fuel + 1) state = some result := by
  simp only [run, leaving]

/-- A loop that has left with a result leaves with it given more rounds. -/
theorem run_mono {fuel more : Nat} {state : σ} {result : ρ} (ran : run body fuel state = some result)
    (enough : fuel ≤ more) : run body more state = some result := by
  induction fuel generalizing more state with
  | zero => cases ran
  | succ fuel ih =>
      obtain ⟨more, rfl⟩ : ∃ rounds, more = rounds + 1 := ⟨more - 1, by omega⟩
      cases round : body state with
      | next state' =>
          rw [run_next round] at ran ⊢
          exact ih ran (Nat.le_of_succ_le_succ enough)
      | exit r =>
          rw [run_exit round] at ran ⊢
          exact ran

/-- Partial correctness: an invariant that every round going on keeps, and
that gives the postcondition at every round that leaves, gives the
postcondition of the result. -/
theorem run_induction (Inv : σ → Prop) (Post : ρ → Prop)
    (next : ∀ s s', Inv s → body s = .next s' → Inv s')
    (exit : ∀ s r, Inv s → body s = .exit r → Post r)
    {fuel : Nat} {state : σ} {result : ρ} (init : Inv state) (ran : run body fuel state = some result) :
    Post result := by
  induction fuel generalizing state with
  | zero => cases ran
  | succ fuel ih =>
      cases round : body state with
      | next state' =>
          rw [run_next round] at ran
          exact ih (next state state' init round) ran
      | exit r =>
          rw [run_exit round, Option.some.injEq] at ran
          exact ran ▸ exit state r init round

/-- Divergence: from a state of an invariant whose every round goes on to a
state of the invariant, the loop leaves for no fuel. -/
theorem run_diverges (Inv : σ → Prop) (next : ∀ s, Inv s → ∃ s', body s = .next s' ∧ Inv s')
    {state : σ} (init : Inv state) (fuel : Nat) : run body fuel state = none := by
  induction fuel generalizing state with
  | zero => rfl
  | succ fuel ih =>
      obtain ⟨state', going, kept⟩ := next state init
      rw [run_next going]
      exact ih kept

/-- Termination: when every round going on keeps an invariant and decreases a
measure, the loop leaves within one round more than the measure. -/
theorem run_terminates (Inv : σ → Prop) (measure : σ → Nat)
    (next : ∀ s s', Inv s → body s = .next s' → Inv s' ∧ measure s' < measure s)
    {state : σ} (init : Inv state) : ∃ result, run body (measure state + 1) state = some result := by
  suffices bounded : ∀ n s, measure s = n → Inv s → ∃ result, run body (n + 1) s = some result from
    bounded _ state rfl init
  intro n
  induction n using Nat.strongRecOn with
  | _ n ih =>
      intro s measured kept
      cases round : body s with
      | next s' =>
          obtain ⟨kept', smaller⟩ := next s s' kept round
          obtain ⟨result, ran⟩ := ih (measure s') (measured ▸ smaller) s' rfl kept'
          refine ⟨result, ?_⟩
          rw [run_next round]
          exact run_mono ran (by omega)
      | exit r => exact ⟨r, run_exit round⟩

/-- Total correctness: the loop leaves, for every fuel above the measure, with
a result of the postcondition. -/
theorem run_spec (Inv : σ → Prop) (Post : ρ → Prop) (measure : σ → Nat)
    (next : ∀ s s', Inv s → body s = .next s' → Inv s' ∧ measure s' < measure s)
    (exit : ∀ s r, Inv s → body s = .exit r → Post r)
    {state : σ} (init : Inv state) :
    ∃ result, Post result ∧ ∀ fuel, measure state < fuel → run body fuel state = some result := by
  obtain ⟨result, ran⟩ := run_terminates Inv measure next init
  refine ⟨result, run_induction Inv Post (fun s s' kept going => (next s s' kept going).1) exit init ran, ?_⟩
  intro fuel above
  exact run_mono ran above

end Rules

end FuelLoop
end BluetoothStack
