import ChuckLight.Support.Runs

/-!
# Fair rounds

Several actors take the steps of a system, in any order.  In a fair round every
actor has a turn at least.  If in every state that is not final some actor can
bring the system nearer to the end, and goes on to be able to whatever the
others do, then the number of fair rounds to the end is bounded.
-/

namespace Runs

variable {σ ι α : Type} (step : σ → ι → σ) (actor : ι → Option α)

/-- Every actor has a turn in every round. -/
def Fair (rounds : List (List ι)) : Prop :=
  ∀ round ∈ rounds, ∀ a, ∃ i ∈ round, actor i = some a

/-- Some actor can lower the measure, as long as it is not zero. -/
structure Helped (inv : σ → Prop) (measure : σ → ℕ)
    (helps : σ → α → Prop) : Prop where
  inv_step : ∀ s i, inv s → inv (step s i)
  le_step : ∀ s i, inv s → measure (step s i) ≤ measure s
  exists_helps : ∀ s, inv s → measure s ≠ 0 → ∃ a, helps s a
  lt_step : ∀ s i a, inv s → helps s a → actor i = some a →
    measure (step s i) < measure s
  helps_step : ∀ s i a, inv s → helps s a → actor i ≠ some a →
    measure (step s i) < measure s ∨ helps (step s i) a

namespace Helped

variable {step actor} {inv : σ → Prop} {measure : σ → ℕ}
  {helps : σ → α → Prop} {s : σ} {is : List ι} {a : α}
  (h : Helped step actor inv measure helps)

include h

theorem inv_foldl (hs : inv s) : inv (is.foldl step s) := by
  induction is generalizing s with
  | nil => exact hs
  | cons i is ih => exact ih (h.inv_step s i hs)

theorem le_foldl (hs : inv s) :
    measure (is.foldl step s) ≤ measure s := by
  induction is generalizing s with
  | nil => exact Nat.le_refl _
  | cons i is ih =>
      have hrest := ih (h.inv_step s i hs)
      have hfirst := h.le_step s i hs
      exact Nat.le_trans hrest hfirst

/-- The actor that helps has a turn. -/
theorem lt_foldl_of_helps (hs : inv s) (hhelps : helps s a)
    (hturn : ∃ i ∈ is, actor i = some a) :
    measure (is.foldl step s) < measure s := by
  induction is generalizing s with
  | nil =>
      obtain ⟨i, hi, -⟩ := hturn
      exact absurd hi List.not_mem_nil
  | cons i is ih =>
      have hinv := h.inv_step s i hs
      have hrest : measure ((i :: is).foldl step s) ≤ measure (step s i) :=
        h.le_foldl hinv
      by_cases ha : actor i = some a
      · exact Nat.lt_of_le_of_lt hrest (h.lt_step s i a hs hhelps ha)
      · rcases h.helps_step s i a hs hhelps ha with hlt | hstill
        · exact Nat.lt_of_le_of_lt hrest hlt
        · have hlater : ∃ i ∈ is, actor i = some a := by
            obtain ⟨j, hj, heq⟩ := hturn
            rcases List.mem_cons.mp hj with rfl | hj
            · exact absurd heq ha
            · exact ⟨j, hj, heq⟩
          exact Nat.lt_of_lt_of_le (ih hinv hstill hlater) (h.le_step s i hs)

/-- Every fair round lowers the measure. -/
theorem le_rounds {rounds : List (List ι)} (hfair : Fair actor rounds)
    (hs : inv s) :
    measure (rounds.flatten.foldl step s) ≤ measure s - rounds.length := by
  induction rounds generalizing s with
  | nil => exact Nat.le_refl _
  | cons round rounds ih =>
      have hinv : inv (round.foldl step s) := h.inv_foldl hs
      have hrest := ih (fun r hr => hfair r (List.mem_cons_of_mem _ hr)) hinv
      have hround : measure (round.foldl step s) ≤ measure s - 1 := by
        by_cases hzero : measure s = 0
        · have hle : measure (round.foldl step s) ≤ measure s :=
            h.le_foldl hs
          omega
        · obtain ⟨a, ha⟩ := h.exists_helps s hs hzero
          have hlt := h.lt_foldl_of_helps hs ha
            (hfair round (List.mem_cons_self ..) a)
          omega
      rw [List.flatten_cons, List.foldl_append, List.length_cons]
      omega

end Helped

end Runs
