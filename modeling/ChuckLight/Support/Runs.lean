import Mathlib.Data.List.Basic

/-!
# Runs of a deterministic system

A run feeds a list of inputs to a step function.  An invariant that every step
under a condition keeps holds throughout the runs whose steps all meet the
condition.
-/

namespace Runs

variable {σ ι : Type} (step : σ → ι → σ)

/-- The states of the run from `s`, the first and the last included. -/
def states (s : σ) : List ι → List σ
  | [] => [s]
  | i :: is => s :: states (step s i) is

/-- Every step of the run from `s` meets `ok`. -/
def AllSteps (ok : σ → ι → Prop) (s : σ) : List ι → Prop
  | [] => True
  | i :: is => ok s i ∧ AllSteps ok (step s i) is

instance (ok : σ → ι → Prop) [∀ s i, Decidable (ok s i)] (s : σ)
    (is : List ι) : Decidable (AllSteps step ok s is) := by
  induction is generalizing s with
  | nil => exact inferInstanceAs (Decidable True)
  | cons i is ih =>
      have hrest := ih (step s i)
      exact inferInstanceAs (Decidable (_ ∧ _))

variable {step} {inv : σ → Prop} {ok : σ → ι → Prop} {s : σ} {is : List ι}

theorem allSteps_true (s : σ) (is : List ι) :
    AllSteps step (fun _ _ => True) s is := by
  induction is generalizing s with
  | nil => trivial
  | cons i is ih => exact ⟨trivial, ih _⟩

theorem allSteps_of_forall (h : ∀ i ∈ is, ∀ s, ok s i) (s : σ) :
    AllSteps step ok s is := by
  induction is generalizing s with
  | nil => trivial
  | cons i is ih =>
      exact ⟨h i (List.mem_cons_self ..) s,
        ih (fun j hj => h j (List.mem_cons_of_mem _ hj)) _⟩

/-- What a condition implies wherever an invariant holds that every step under
the condition keeps. -/
theorem AllSteps.imp {ok' : σ → ι → Prop} (hsteps : AllSteps step ok s is)
    (hstep : ∀ s i, inv s → ok s i → inv (step s i))
    (h : ∀ s i, inv s → ok s i → ok' s i) (hs : inv s) :
    AllSteps step ok' s is := by
  induction is generalizing s with
  | nil => trivial
  | cons i is ih =>
      exact ⟨h s i hs hsteps.1, ih hsteps.2 (hstep s i hs hsteps.1)⟩

/-- Two conditions that are the same wherever an invariant holds that every step
under the first one keeps. -/
theorem allSteps_congr {ok' : σ → ι → Prop}
    (hstep : ∀ s i, inv s → ok s i → inv (step s i))
    (h : ∀ s i, inv s → (ok s i ↔ ok' s i)) (hs : inv s) :
    AllSteps step ok s is ↔ AllSteps step ok' s is := by
  induction is generalizing s with
  | nil => exact Iff.rfl
  | cons i is ih =>
      constructor
      · rintro ⟨hok, hrest⟩
        exact ⟨(h s i hs).mp hok, (ih (hstep s i hs hok)).mp hrest⟩
      · rintro ⟨hok', hrest⟩
        have hok := (h s i hs).mpr hok'
        exact ⟨hok, (ih (hstep s i hs hok)).mpr hrest⟩

theorem allSteps_append {is' : List ι} :
    AllSteps step ok s (is ++ is') ↔
      AllSteps step ok s is ∧ AllSteps step ok (is.foldl step s) is' := by
  induction is generalizing s with
  | nil => exact ⟨fun h => ⟨trivial, h⟩, fun h => h.2⟩
  | cons i is ih =>
      show ok s i ∧ AllSteps step ok (step s i) (is ++ is') ↔ _
      rw [ih]
      exact and_assoc.symm

/-- One more step meets the condition. -/
theorem allSteps_concat {i : ι} (h : AllSteps step ok s is)
    (hi : ok (is.foldl step s) i) : AllSteps step ok s (is ++ [i]) :=
  allSteps_append.mpr ⟨h, hi, trivial⟩

theorem start_mem_states : s ∈ states step s is := by
  cases is with
  | nil => exact List.mem_singleton_self s
  | cons i is => exact List.mem_cons_self ..

theorem foldl_mem_states : is.foldl step s ∈ states step s is := by
  induction is generalizing s with
  | nil => exact List.mem_singleton_self s
  | cons i is ih => exact List.mem_cons_of_mem _ ih

theorem mem_states_append {is' : List ι} {t : σ} :
    t ∈ states step s (is ++ is') ↔
      t ∈ states step s is ∨ t ∈ states step (is.foldl step s) is' := by
  induction is generalizing s with
  | nil =>
      refine ⟨.inr, ?_⟩
      rintro (hfirst | hlater)
      · rw [List.mem_singleton.mp hfirst]
        exact start_mem_states
      · exact hlater
  | cons i is ih =>
      show t ∈ s :: states step (step s i) (is ++ is') ↔ _
      rw [List.mem_cons, ih, ← or_assoc, ← List.mem_cons]
      rfl

/-- An invariant of every step under the condition. -/
theorem invariant (hstep : ∀ s i, inv s → ok s i → inv (step s i))
    (hs : inv s) (hsteps : AllSteps step ok s is) :
    ∀ t ∈ states step s is, inv t := by
  induction is generalizing s with
  | nil =>
      intro t ht
      rw [List.mem_singleton.mp ht]
      exact hs
  | cons i is ih =>
      intro t ht
      rcases List.mem_cons.mp ht with rfl | ht
      · exact hs
      · exact ih (hstep s i hs hsteps.1) hsteps.2 t ht

/-- A measure that no step raises and that every counted step lowers. -/
theorem countdown {measure : σ → ℕ} {counted : ι → Bool}
    (hstep : ∀ s i, inv s → ok s i → inv (step s i))
    (hkeep : ∀ s i, inv s → ok s i → measure (step s i) ≤ measure s)
    (hlower : ∀ s i, inv s → ok s i → counted i = true →
      measure (step s i) ≤ measure s - 1)
    (hs : inv s) (hsteps : AllSteps step ok s is) :
    measure (is.foldl step s) ≤ measure s - is.countP counted := by
  induction is generalizing s with
  | nil => exact Nat.le_refl _
  | cons i is ih =>
      have hrest := ih (hstep s i hs hsteps.1) hsteps.2
      have hfirst := hkeep s i hs hsteps.1
      rw [List.countP_cons, List.foldl_cons]
      by_cases hcounted : counted i = true
      · have hless := hlower s i hs hsteps.1 hcounted
        rw [if_pos hcounted]
        omega
      · rw [if_neg hcounted]
        omega

/-- A measure that grows only in counted steps, and by one at most. -/
theorem growth {measure : σ → ℕ} {counted : ι → Bool}
    (hstep : ∀ s i, inv s → ok s i → inv (step s i))
    (hgrow : ∀ s i, inv s → ok s i →
      measure (step s i) ≤ measure s + if counted i then 1 else 0)
    (hs : inv s) (hsteps : AllSteps step ok s is) :
    measure (is.foldl step s) ≤ measure s + is.countP counted := by
  induction is generalizing s with
  | nil => exact Nat.le_refl _
  | cons i is ih =>
      have hrest := ih (hstep s i hs hsteps.1) hsteps.2
      have hfirst := hgrow s i hs hsteps.1
      rw [List.countP_cons, List.foldl_cons]
      omega

/-- A measure that every counted step raises. -/
theorem progress {measure : σ → ℕ} {counted : ι → Bool}
    (hstep : ∀ s i, inv s → ok s i → inv (step s i))
    (hraise : ∀ s i, inv s → ok s i →
      (measure s + if counted i then 1 else 0) ≤ measure (step s i))
    (hs : inv s) (hsteps : AllSteps step ok s is) :
    measure s + is.countP counted ≤ measure (is.foldl step s) := by
  induction is generalizing s with
  | nil => exact Nat.le_refl _
  | cons i is ih =>
      have hrest := ih (hstep s i hs hsteps.1) hsteps.2
      have hfirst := hraise s i hs hsteps.1
      rw [List.countP_cons, List.foldl_cons]
      omega

/-- What holds in all states holds after every step. -/
theorem allSteps_of_states {prop : σ → Prop}
    (h : ∀ t ∈ states step s is, prop t) :
    AllSteps step (fun s i => prop (step s i)) s is := by
  induction is generalizing s with
  | nil => trivial
  | cons i is ih =>
      have hrest : ∀ t ∈ states step (step s i) is, prop t :=
        fun t ht => h t (List.mem_cons_of_mem _ ht)
      exact ⟨hrest _ start_mem_states, ih hrest⟩

/-- If the condition decides whether a step keeps the invariant, then it decides
whether a run does. -/
theorem invariant_iff (hstep : ∀ s i, inv s → (inv (step s i) ↔ ok s i)) :
    (∀ t ∈ states step s is, inv t) ↔ inv s ∧ AllSteps step ok s is := by
  constructor
  · intro h
    induction is generalizing s with
    | nil => exact ⟨h s (List.mem_singleton_self s), trivial⟩
    | cons i is ih =>
        have hs := h s (List.mem_cons_self ..)
        have hrest := ih fun t ht => h t (List.mem_cons_of_mem _ ht)
        exact ⟨hs, (hstep s i hs).mp hrest.1, hrest.2⟩
  · rintro ⟨hs, hsteps⟩
    exact invariant (fun s i hs hok => (hstep s i hs).mpr hok) hs hsteps

/-- A property of the states of a run holds throughout if and only if every
step meets the condition, when the condition keeps an invariant that implies
the property and every other step breaks the property. -/
theorem forall_states_iff {prop : σ → Prop} (hprop : ∀ s, inv s → prop s)
    (hstep : ∀ s i, inv s → ok s i → inv (step s i))
    (hbreak : ∀ s i, inv s → ¬ ok s i → ¬ prop (step s i)) (hs : inv s) :
    (∀ t ∈ states step s is, prop t) ↔ AllSteps step ok s is := by
  constructor
  · intro h
    induction is generalizing s with
    | nil => trivial
    | cons i is ih =>
        have hrest : ∀ t ∈ states step (step s i) is, prop t :=
          fun t ht => h t (List.mem_cons_of_mem _ ht)
        have hfirst : step s i ∈ states step (step s i) is := by
          cases is <;> exact List.mem_cons_self ..
        have hok : ok s i := by
          by_contra hnot
          exact hbreak s i hs hnot (hrest _ hfirst)
        exact ⟨hok, ih (hstep s i hs hok) hrest⟩
  · intro hsteps t ht
    exact hprop t (invariant hstep hs hsteps t ht)

end Runs
