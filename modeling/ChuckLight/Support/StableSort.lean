import Mathlib.Data.List.Sort

/-!
# Sorting by a key

An insertion sort by a key orders a list by that key and keeps elements with
the same key in the order in which they were.  Elements are numbered so that
those with the same key can be told apart.
-/

namespace StableSort

/-! ## What the sort keeps -/

section Keeps

variable {α : Type} {r P : α → α → Prop} [DecidableRel r]

theorem pairwise_orderedInsert (h : ∀ a b, ¬ r a b → P b a) {a : α}
    {l : List α} (hl : l.Pairwise P) (ha : ∀ b ∈ l, P a b) :
    (l.orderedInsert r a).Pairwise P := by
  induction l with
  | nil => exact List.pairwise_singleton P a
  | cons b l ih =>
      obtain ⟨hb, hl⟩ := List.pairwise_cons.mp hl
      by_cases hab : r a b
      · rw [List.orderedInsert_cons_of_le _ _ hab]
        exact List.pairwise_cons.mpr ⟨ha, List.pairwise_cons.mpr ⟨hb, hl⟩⟩
      · rw [List.orderedInsert_cons, if_neg hab]
        refine List.pairwise_cons.mpr ⟨fun c hc => ?_,
          ih hl fun c hc => ha c (List.mem_cons_of_mem _ hc)⟩
        rcases (List.mem_orderedInsert r).mp hc with rfl | hc
        · exact h _ _ hab
        · exact hb c hc

/-- The sort keeps a relation between earlier and later elements that holds for
those that it exchanges. -/
theorem pairwise_insertionSort (h : ∀ a b, ¬ r a b → P b a) {l : List α}
    (hl : l.Pairwise P) : (l.insertionSort r).Pairwise P := by
  induction l with
  | nil => exact List.Pairwise.nil
  | cons a l ih =>
      obtain ⟨ha, hl⟩ := List.pairwise_cons.mp hl
      exact pairwise_orderedInsert h (ih hl) fun b hb =>
        ha b ((List.mem_insertionSort r).mp hb)

end Keeps

/-! ## Keys -/

variable {α κ : Type} [LinearOrder κ] (key : α → κ)

/-- A sort by a key orders the list by that key. -/
theorem pairwise_insertionSort_of_key {r : α → α → Prop} [DecidableRel r]
    {l : List α} (h : ∀ a ∈ l, ∀ b ∈ l, r a b ↔ key a ≤ key b) :
    (l.insertionSort r).Pairwise fun a b => key a ≤ key b := by
  have hmap := List.map_insertionSort r (· ≤ ·) key l h
  have hsorted := List.pairwise_insertionSort (· ≤ ·) (l.map key)
  rw [← hmap] at hsorted
  exact List.pairwise_map.mp hsorted

/-- The first element comes before the second one: by the key, or by the number
if the keys are the same. -/
def Before (e e' : α × ℕ) : Prop :=
  key e.1 < key e'.1 ∨ key e.1 = key e'.1 ∧ e.2 < e'.2

variable {key} {r : α × ℕ → α × ℕ → Prop} [DecidableRel r]
  {l : List (α × ℕ)}

/-- The sort of numbered elements. -/
theorem pairwise_before
    (h : ∀ e ∈ l, ∀ e' ∈ l, r e e' ↔ key e.1 ≤ key e'.1)
    (hsame : ∀ e e', key e.1 = key e'.1 → r e e')
    (hl : l.Pairwise fun e e' => key e.1 = key e'.1 → e.2 < e'.2) :
    (l.insertionSort r).Pairwise (Before key) := by
  have hsorted := pairwise_insertionSort_of_key (fun e : α × ℕ => key e.1) h
  have hkept := pairwise_insertionSort
    (P := fun e e' : α × ℕ => key e.1 = key e'.1 → e.2 < e'.2)
    (fun e e' hnot hkey => absurd (hsame e e' hkey.symm) hnot) hl
  refine (hsorted.and hkept).imp fun {e e'} hboth => ?_
  rcases lt_or_eq_of_le hboth.1 with hlt | heq
  · exact Or.inl hlt
  · exact Or.inr ⟨heq, hboth.2 heq⟩

/-- Elements that are numbered in the order of the list. -/
theorem pairwise_zipIdx (l : List α) (n : ℕ) :
    (l.zipIdx n).Pairwise fun e e' => e.2 < e'.2 := by
  induction l generalizing n with
  | nil => exact List.Pairwise.nil
  | cons a l ih =>
      refine List.pairwise_cons.mpr ⟨fun e he => ?_, ih (n + 1)⟩
      exact (List.mem_zipIdx he).1

/-- A further element with the greatest number. -/
theorem pairwise_concat (hl : l.Pairwise (Before key)) {n : ℕ}
    (hn : ∀ e ∈ l, e.2 < n) (a : α) :
    (l ++ [(a, n)]).Pairwise fun e e' => key e.1 = key e'.1 → e.2 < e'.2 := by
  refine List.pairwise_append.mpr ⟨hl.imp fun {e e'} hbefore hkey => ?_,
    List.pairwise_singleton _ _, fun e he e' he' _ => ?_⟩
  · rcases hbefore with hlt | ⟨-, hlt⟩
    · exact absurd hkey hlt.ne
    · exact hlt
  · rw [List.mem_singleton.mp he']
    exact hn e he

end StableSort
