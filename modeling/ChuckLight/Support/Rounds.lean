import ChuckLight.Support.Java

/-!
# Rounds of a loop

A loop over a list comes to the round of an element when the rounds before it
have all returned.
-/

namespace Java

variable {σ β : Type} {body : β → Run σ PUnit} {xs : List β} {s t : σ} {x : β}

/-- The loop over `xs` from the state `s` comes to the round of `x` in the
state `t`. -/
def ComesTo (body : β → Run σ PUnit) (xs : List β) (s : σ) (x : β)
    (t : σ) : Prop :=
  ∃ done rest, xs = done ++ x :: rest ∧ done.forM body s = .ok ⟨⟩ t

/-- What the rounds preserve holds where a round begins. -/
theorem ComesTo.invariant {inv : σ → Prop} (h : ComesTo body xs s x t)
    (hbody : ∀ y ∈ xs, Leads inv (body y) inv) (hs : inv s) : inv t := by
  obtain ⟨done, rest, rfl, hrun⟩ := h
  have hdone : Leads inv (done.forM body) inv :=
    Triple.forM fun y hy => hbody y (List.mem_append_left _ hy)
  exact hdone.of_ok hs hrun

end Java
