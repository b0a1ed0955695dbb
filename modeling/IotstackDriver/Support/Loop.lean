import Mathlib.Tactic.Common

/-! Loops as rounds: a round goes on with a new state or ends the loop with a result. -/

namespace IotstackDriver.Support

inductive Round (σ : Type u) (ρ : Type v) where
  | next (state : σ)
  | done (result : ρ)

namespace Loop

variable {σ : Type u} {ρ : Type v} {round : σ → Round σ ρ} {start state after final : σ}
  {count rounds : Nat} {result : ρ}

/-- The state after so many rounds. -/
inductive Reaches (round : σ → Round σ ρ) (start : σ) : Nat → σ → Prop
  | start : Reaches round start 0 start
  | next {count : Nat} {state after : σ} (reached : Reaches round start count state)
      (goes : round state = .next after) : Reaches round start (count + 1) after

/-- The loop ends in this state after so many rounds. -/
structure Ends (round : σ → Round σ ρ) (start : σ) (count : Nat) (final : σ) (result : ρ) : Prop where
  reached : Reaches round start count final
  ended : round final = .done result

/-- The loop with at most so many rounds; `none` is a loop that is not over then. -/
def run (round : σ → Round σ ρ) : Nat → σ → Option ρ
  | 0, _ => none
  | rounds + 1, state =>
    match round state with
    | .next after => run round rounds after
    | .done result => some result

theorem Reaches.invariant {holds : σ → Prop} (reached : Reaches round start count state)
    (initially : holds start)
    (kept : ∀ state after, holds state → round state = .next after → holds after) : holds state := by
  induction reached with
  | start => exact initially
  | next reached goes ih => exact kept _ _ ih goes

/-- A first round in front of the others. -/
theorem Reaches.before (goes : round start = .next after) (reached : Reaches round after count state) :
    Reaches round start (count + 1) state := by
  induction reached with
  | start => exact .next .start goes
  | next reached later ih => exact .next ih later

theorem Ends.before (goes : round start = .next after) (ends : Ends round after count final result) :
    Ends round start (count + 1) final result :=
  ⟨ends.reached.before goes, ends.ended⟩

theorem Ends.at_once (ended : round start = .done result) : Ends round start 0 start result :=
  ⟨.start, ended⟩

/-- A loop that goes on from a state runs on from there. -/
theorem Reaches.run (reached : Reaches round start count state) (rounds : Nat) :
    run round (count + rounds) start = run round rounds state := by
  induction reached generalizing rounds with
  | start => rw [Nat.zero_add]
  | next reached goes ih => rw [Nat.add_assoc, ih, Nat.add_comm 1, Loop.run, goes]

/-- Enough rounds give the result. -/
theorem Ends.run (ends : Ends round start count final result) (enough : count < rounds) :
    run round rounds start = some result := by
  obtain ⟨extra, rfl⟩ := Nat.exists_eq_add_of_lt enough
  rw [Nat.add_assoc, ends.reached.run, Loop.run, ends.ended]

end Loop

end IotstackDriver.Support
