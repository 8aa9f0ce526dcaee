import ChuckLight.Support.Java

/-!
# Methods that agree

Two methods, each on the state of its own object, agree when they take related
states to related states, and either both return or both end abruptly.  The
rules follow the structure of the two bodies.
-/

namespace Java

variable {σ τ α β γ δ : Type}

/-- From states related by `rel` the methods `x` and `y` both return, with
results related by `same`, or both end abruptly; they leave related states. -/
def Agrees (rel : σ → τ → Prop) (same : α → β → Prop) (x : Run σ α)
    (y : Run τ β) : Prop :=
  ∀ s t, rel s t →
    match x s, y t with
    | .ok a s', .ok b t' => same a b ∧ rel s' t'
    | .error _ s', .error _ t' => rel s' t'
    | _, _ => False

namespace Agrees

variable {rel : σ → τ → Prop} {same : α → β → Prop} {same' : γ → δ → Prop}

theorem pure {a : α} {b : β} (h : same a b) :
    Agrees rel same (pure a) (pure b) :=
  fun _ _ hrel => ⟨h, hrel⟩

theorem throw (e e' : Abrupt) :
    Agrees rel same (throw e : Run σ α) (throw e' : Run τ β) :=
  fun _ _ hrel => hrel

theorem bind {x : Run σ α} {y : Run τ β} {f : α → Run σ γ} {g : β → Run τ δ}
    (hxy : Agrees rel same x y)
    (hfg : ∀ a b, same a b → Agrees rel same' (f a) (g b)) :
    Agrees rel same' (x >>= f) (y >>= g) := by
  intro s t hrel
  have h := hxy s t hrel
  cases hx : x s with
  | ok a s' =>
      cases hy : y t with
      | ok b t' =>
          rw [hx, hy] at h
          rw [bind_of_ok hx, bind_of_ok hy]
          exact hfg a b h.1 s' t' h.2
      | error e t' =>
          rw [hx, hy] at h
          exact h.elim
  | error e s' =>
      cases hy : y t with
      | ok b t' =>
          rw [hx, hy] at h
          exact h.elim
      | error e' t' =>
          rw [hx, hy] at h
          rw [bind_of_error hx, bind_of_error hy]
          exact h

theorem ite {c : Prop} [Decidable c] {x x' : Run σ α} {y y' : Run τ β}
    (h : c → Agrees rel same x y) (h' : ¬ c → Agrees rel same x' y') :
    Agrees rel same (if c then x else x') (if c then y else y') := by
  by_cases hc : c
  · rw [if_pos hc, if_pos hc]
    exact h hc
  · rw [if_neg hc, if_neg hc]
    exact h' hc

/-- Both bodies start with a look at the state. -/
theorem get_bind {f : σ → Run σ γ} {g : τ → Run τ δ}
    (h : ∀ s t, rel s t → Agrees rel same' (f s) (g t)) :
    Agrees rel same' (MonadState.get >>= f) (MonadState.get >>= g) :=
  fun s t hrel => h s t hrel s t hrel

/-- The method on the left goes on while the one on the right is done. -/
theorem of_left {x : Run σ α} {b : β} (h : ∀ t, Triple (fun s => rel s t) x
    (fun a s => same a b ∧ rel s t) (fun _ _ => False)) :
    Agrees rel same x (Pure.pure b) := by
  intro s t hrel
  have hx := h t s hrel
  cases hrun : x s with
  | ok a s' =>
      rw [hrun] at hx
      exact hx
  | error e s' =>
      rw [hrun] at hx
      exact hx.elim

theorem forM {ι : Type} {body : ι → Run σ PUnit} {body' : ι → Run τ PUnit}
    {xs : List ι}
    (h : ∀ i ∈ xs, Agrees rel (fun _ _ => True) (body i) (body' i)) :
    Agrees rel (fun _ _ => True) (xs.forM body) (xs.forM body') := by
  induction xs with
  | nil => exact pure trivial
  | cons i rest ih =>
      rw [List.forM_eq_forM, List.forM_eq_forM, List.forM_cons,
        List.forM_cons]
      exact (h i (List.mem_cons_self ..)).bind fun _ _ _ =>
        ih fun j hj => h j (List.mem_cons_of_mem _ hj)

end Agrees

end Java
