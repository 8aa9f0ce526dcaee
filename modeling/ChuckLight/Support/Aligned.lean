import Mathlib.Data.List.Forall2

/-!
# Aligned lists

Two lists of the same length, related element by element, stay aligned when an
element is removed from both at the same position.
-/

namespace Aligned

variable {α β : Type} {R : α → β → Prop} {xs : List α} {ys : List β} {x : α}
  {i : ℕ}

/-- The partner of an element. -/
theorem exists_getElem? (h : List.Forall₂ R xs ys) (hx : xs[i]? = some x) :
    ∃ y, ys[i]? = some y ∧ R x y := by
  induction h generalizing i with
  | nil => cases hx
  | cons hxy htail ih =>
      cases i with
      | zero =>
          cases hx
          exact ⟨_, rfl, hxy⟩
      | succ i => exact ih hx

theorem eraseIdx (h : List.Forall₂ R xs ys) (i : ℕ) :
    List.Forall₂ R (xs.eraseIdx i) (ys.eraseIdx i) := by
  induction h generalizing i with
  | nil => exact .nil
  | cons hxy htail ih =>
      cases i with
      | zero => exact htail
      | succ i => exact .cons hxy (ih i)

end Aligned
