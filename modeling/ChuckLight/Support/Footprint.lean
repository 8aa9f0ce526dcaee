import ChuckLight.Support.Java
import Mathlib.Logic.Function.Basic

/-!
# The footprint of a method

A method on a store of values under keys touches one key if it reads and writes
nothing but the value under that key.
-/

namespace Java

/-! ## Definitions -/

/-- How a method ends, apart from its state. -/
def outcome {σ α : Type} (x : Run σ α) (s : σ) : Except Abrupt α :=
  match x s with
  | .ok a _ => .ok a
  | .error e _ => .error e

variable {κ β α γ : Type}

/-- The method reads and writes nothing but the value under `k`. -/
structure Touches (k : κ) (x : Run (κ → β) α) : Prop where
  ends : ∀ s s', s k = s' k → outcome x s = outcome x s'
  leaves : ∀ s s', s k = s' k → stateAfter x s k = stateAfter x s' k
  frame : ∀ s k', k' ≠ k → stateAfter x s k' = s k'

/-- The method touches this key and no other one. -/
structure OperatesOn (k : κ) (x : Run (κ → β) α) : Prop where
  touches : Touches k x
  reaches : (∃ s, stateAfter x s k ≠ s k) ∨
    ∃ s s', outcome x s ≠ outcome x s'

/-! ## Sequences of methods -/

section Bind

variable {σ : Type} {x : Run σ α} {f : α → Run σ γ} {a : α} {e : Abrupt}
  {s s' : σ}

theorem outcome_bind_of_ok (h : x s = .ok a s') :
    outcome (x >>= f) s = outcome (f a) s' := by
  unfold outcome
  rw [bind_of_ok h]

theorem outcome_bind_of_error (h : x s = .error e s') :
    outcome (x >>= f) s = .error e := by
  unfold outcome
  rw [bind_of_error h]

theorem stateAfter_bind_of_ok (h : x s = .ok a s') :
    stateAfter (x >>= f) s = stateAfter (f a) s' := by
  unfold stateAfter
  rw [bind_of_ok h]

theorem stateAfter_bind_of_error (h : x s = .error e s') :
    stateAfter (x >>= f) s = stateAfter x s := by
  unfold stateAfter
  rw [bind_of_error h, h]

end Bind

namespace Touches

variable {k : κ} {x : Run (κ → β) α} {f : α → Run (κ → β) γ}
  {s s' : κ → β}

theorem pure (a : α) : Touches k (pure a : Run (κ → β) α) :=
  ⟨fun _ _ _ => rfl, fun _ _ h => h, fun _ _ _ => rfl⟩

theorem throw (e : Abrupt) : Touches k (throw e : Run (κ → β) α) :=
  ⟨fun _ _ _ => rfl, fun _ _ h => h, fun _ _ _ => rfl⟩

/-- What a method does on stores that agree under the key. -/
theorem agree_cases (hx : Touches k x) (h : s k = s' k) :
    (∃ a t t', x s = .ok a t ∧ x s' = .ok a t' ∧ t k = t' k) ∨
    ∃ e t t', x s = .error e t ∧ x s' = .error e t' ∧ t k = t' k := by
  have hends := hx.ends s s' h
  have hleaves := hx.leaves s s' h
  unfold outcome at hends
  unfold stateAfter at hleaves
  cases hs : x s with
  | ok a t =>
      cases hs' : x s' with
      | ok a' t' =>
          rw [hs, hs'] at hends hleaves
          cases hends
          exact Or.inl ⟨a, t, t', rfl, rfl, hleaves⟩
      | error e' t' =>
          rw [hs, hs'] at hends
          cases hends
  | error e t =>
      cases hs' : x s' with
      | ok a' t' =>
          rw [hs, hs'] at hends
          cases hends
      | error e' t' =>
          rw [hs, hs'] at hends hleaves
          cases hends
          exact Or.inr ⟨e, t, t', rfl, rfl, hleaves⟩

theorem bind (hx : Touches k x) (hf : ∀ a, Touches k (f a)) :
    Touches k (x >>= f) := by
  refine ⟨fun s s' h => ?_, fun s s' h => ?_, fun s k' hne => ?_⟩
  · rcases hx.agree_cases h with
      ⟨a, t, t', hs, hs', ht⟩ | ⟨e, t, t', hs, hs', -⟩
    · rw [outcome_bind_of_ok hs, outcome_bind_of_ok hs']
      exact (hf a).ends t t' ht
    · rw [outcome_bind_of_error hs, outcome_bind_of_error hs']
  · rcases hx.agree_cases h with
      ⟨a, t, t', hs, hs', ht⟩ | ⟨e, t, t', hs, hs', ht⟩
    · rw [stateAfter_bind_of_ok hs, stateAfter_bind_of_ok hs']
      exact (hf a).leaves t t' ht
    · rw [stateAfter_bind_of_error hs, stateAfter_bind_of_error hs']
      exact hx.leaves s s' h
  · have hframe := hx.frame s k' hne
    cases hs : x s with
    | ok a t =>
        unfold stateAfter at hframe
        rw [hs] at hframe
        rw [stateAfter_bind_of_ok hs, (hf a).frame t k' hne]
        exact hframe
    | error e t =>
        rw [stateAfter_bind_of_error hs]
        exact hframe

/-- Nothing of the store is read but the value under the key. -/
theorem get_bind {g : (κ → β) → Run (κ → β) γ}
    (hread : ∀ s s', s k = s' k → g s = g s') (hg : ∀ s, Touches k (g s)) :
    Touches k (get >>= g) := by
  refine ⟨fun s s' h => ?_, fun s s' h => ?_, fun s => (hg s).frame s⟩
  · rw [outcome_bind_of_ok (x := get) rfl, outcome_bind_of_ok (x := get) rfl,
      hread s s' h]
    exact (hg s').ends s s' h
  · rw [stateAfter_bind_of_ok (x := get) rfl,
      stateAfter_bind_of_ok (x := get) rfl, hread s s' h]
    exact (hg s').leaves s s' h

/-- The value under the key is replaced. -/
theorem modify_update [DecidableEq κ] (value : β) :
    Touches k (modify fun s => Function.update s k value :
      Run (κ → β) PUnit) := by
  refine ⟨fun _ _ _ => rfl, fun s s' _ => ?_, fun s k' hne => ?_⟩
  · show Function.update s k value k = Function.update s' k value k
    rw [Function.update_self, Function.update_self]
  · exact Function.update_of_ne hne value s

end Touches

end Java
