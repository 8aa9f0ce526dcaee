import Mathlib.Data.Nat.Init
import Mathlib.Logic.Basic
import Mathlib.Tactic.Common

/-!
# Runs of clocked machines

A clocked machine takes one step for every cycle of its input.  This module
holds the vocabulary of such runs over arbitrary state and input types: the
state at the start of a cycle, the invariant rule, and the rule for a phase
that is left only when its timer has reached the limit.
-/

namespace Clocked

variable {State Input Control : Type*}

/-- The state at the start of cycle `t` of a run. -/
def run (step : State → Input → State) (start : State)
    (input : ℕ → Input) : ℕ → State
  | 0 => start
  | t + 1 => step (run step start input t) (input t)

@[simp] theorem run_zero
    (step : State → Input → State) (start : State) (input : ℕ → Input) :
    run step start input 0 = start := rfl

/-- A property of the start state that every step keeps holds in every
cycle. -/
theorem run_invariant
    {step : State → Input → State} {start : State} {P : State → Prop}
    (hstart : P start) (hstep : ∀ s i, P s → P (step s i))
    (input : ℕ → Input) (t : ℕ) :
    P (run step start input t) := by
  induction t with
  | zero => exact hstart
  | succ t ih => exact hstep _ _ ih

/-- A state is reachable when some finite list of inputs leads to it. -/
def Reachable
    (step : State → Input → State) (start s : State) : Prop :=
  ∃ inputs : List Input, inputs.foldl step start = s

theorem Reachable.invariant
    {step : State → Input → State} {start s : State} {P : State → Prop}
    (hreach : Reachable step start s)
    (hstart : P start) (hstep : ∀ s i, P s → P (step s i)) : P s := by
  obtain ⟨inputs, rfl⟩ := hreach
  induction inputs generalizing start with
  | nil => exact hstart
  | cons i rest ih => exact ih (hstep _ _ hstart)

/-- Timed phases.  While the control part of the state is `phase` and the
timer is below `limit`, a step keeps the control part and advances the timer
by one.  A phase entered with timer zero then lasts exactly until the timer
shows `limit`. -/
theorem dwell (timer : State → ℕ) (limit : ℕ)
    {step : State → Input → State} {start : State} {input : ℕ → Input}
    {control : State → Control} {phase : Control}
    (hstay : ∀ s i, control s = phase → timer s < limit →
      control (step s i) = phase ∧ timer (step s i) = timer s + 1)
    {t : ℕ} (hphase : control (run step start input t) = phase)
    (hzero : timer (run step start input t) = 0) :
    ∀ c, c ≤ limit →
      control (run step start input (t + c)) = phase ∧
        timer (run step start input (t + c)) = c := by
  intro c
  induction c with
  | zero =>
      intro _
      exact ⟨hphase, hzero⟩
  | succ c ih =>
      intro hc
      obtain ⟨hctl, htimer⟩ := ih (Nat.le_of_succ_le hc)
      have hnext := hstay _ (input (t + c)) hctl (by omega)
      rw [htimer] at hnext
      exact hnext

end Clocked
