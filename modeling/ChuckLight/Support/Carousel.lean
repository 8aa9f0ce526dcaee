import Mathlib.Data.List.Iterate
import Mathlib.Data.List.Rotate

/-!
# Positions on a cycle

A cycle of `n` stops has the positions below `n`.  One step goes on to the next
position or back to the last one, and `n` steps in one direction visit every
position once.
-/

namespace Carousel

variable {α : Type} {n p : ℕ}

/-- The position after `p`. -/
def next (n p : ℕ) : ℕ := if p + 1 < n then p + 1 else 0

/-- The position before `p`. -/
def last (n p : ℕ) : ℕ := if p = 0 then n - 1 else p - 1

theorem next_lt (h : p < n) : next n p < n := by
  unfold next
  split_ifs <;> omega

theorem last_lt (h : p < n) : last n p < n := by
  unfold last
  split_ifs <;> omega

theorem last_next (h : p < n) : last n (next n p) = p := by
  by_cases hlt : p + 1 < n
  · rw [next, if_pos hlt]
    rfl
  · rw [next, if_neg hlt, last, if_pos rfl]
    omega

theorem next_last (h : p < n) : next n (last n p) = p := by
  by_cases hzero : p = 0
  · rw [last, if_pos hzero, next, if_neg (by omega), hzero]
  · rw [last, if_neg hzero, next, if_pos (by omega)]
    omega

theorem next_eq_mod (h : p < n) : next n p = (p + 1) % n := by
  unfold next
  split_ifs with hlt
  · rw [Nat.mod_eq_of_lt hlt]
  · have hend : p + 1 = n := by omega
    rw [hend, Nat.mod_self]

theorem last_eq_emod (h : p < n) : (last n p : ℤ) = ((p : ℤ) - 1) % n := by
  unfold last
  split_ifs with hzero
  · have hwrap : (p : ℤ) - 1 = ((n : ℤ) - 1) - n := by omega
    have hsmall : ((n : ℤ) - 1) % n = (n : ℤ) - 1 :=
      Int.emod_eq_of_lt (by omega) (by omega)
    rw [hwrap, Int.sub_emod_right, hsmall]
    omega
  · have hsmall : ((p : ℤ) - 1) % n = (p : ℤ) - 1 :=
      Int.emod_eq_of_lt (by omega) (by omega)
    rw [hsmall]
    omega

/-- A step on and a step back lead to the same position only on a cycle of at
most two stops. -/
theorem next_eq_last_iff (h : p < n) : next n p = last n p ↔ n ≤ 2 := by
  unfold next last
  split_ifs <;> omega

/-! ## Steps in one direction -/

theorem iterate_next (h : p < n) (k : ℕ) : (next n)^[k] p = (p + k) % n := by
  induction k with
  | zero => exact (Nat.mod_eq_of_lt h).symm
  | succ k ih =>
      have hlt : (p + k) % n < n := Nat.mod_lt _ (by omega)
      rw [Function.iterate_succ_apply', ih, next_eq_mod hlt, Nat.mod_add_mod,
        Nat.add_assoc]

/-- `n` steps lead back to the start. -/
theorem iterate_next_self (h : p < n) : (next n)^[n] p = p := by
  rw [iterate_next h, Nat.add_mod_right, Nat.mod_eq_of_lt h]

/-- The positions from `p` on, once around. -/
theorem iterate_next_eq_rotate (h : p < n) :
    List.iterate (next n) p n = (List.range n).rotate p := by
  apply List.ext_getElem
  · rw [List.length_iterate, List.length_rotate, List.length_range]
  · intro k hk hk'
    rw [List.getElem_iterate, iterate_next h, List.getElem_rotate,
      List.getElem_range, List.length_range, Nat.add_comm]

theorem iterate_next_perm (h : p < n) :
    (List.iterate (next n) p n).Perm (List.range n) := by
  rw [iterate_next_eq_rotate h]
  exact List.rotate_perm _ _

/-- A function that undoes the steps of another one leads back the way that
one has led. -/
theorem iterate_undo {f g : α → α} {a : α} {k : ℕ}
    (h : ∀ j < k, g (f^[j + 1] a) = f^[j] a) {j : ℕ} (hj : j ≤ k) :
    g^[j] (f^[k] a) = f^[k - j] a := by
  induction j with
  | zero => rfl
  | succ j ih =>
      have hprev : k - j = k - (j + 1) + 1 := by omega
      rw [Function.iterate_succ_apply', ih (by omega), hprev, h _ (by omega)]

/-- The way back visits the same elements. -/
theorem iterate_eq_reverse {f g : α → α} {a : α} {k : ℕ}
    (h : ∀ j < k, g (f^[j + 1] a) = f^[j] a) :
    List.iterate g (g (f^[k] a)) k = (List.iterate f a k).reverse := by
  apply List.ext_getElem
  · rw [List.length_iterate, List.length_reverse, List.length_iterate]
  · intro i hi hi'
    rw [List.length_iterate] at hi
    rw [List.getElem_iterate, List.getElem_reverse, List.getElem_iterate,
      List.length_iterate, ← Function.iterate_succ_apply,
      iterate_undo h (Nat.succ_le_of_lt hi), Nat.sub_sub, Nat.add_comm 1]

theorem last_iterate_next (h : p < n) (j : ℕ) :
    last n ((next n)^[j + 1] p) = (next n)^[j] p := by
  have hlt : (next n)^[j] p < n := by
    rw [iterate_next h]
    exact Nat.mod_lt _ (by omega)
  rw [Function.iterate_succ_apply', last_next hlt]

theorem iterate_last_perm (h : p < n) :
    (List.iterate (last n) (last n p) n).Perm (List.range n) := by
  have hback := iterate_eq_reverse (k := n) fun j _ => last_iterate_next h j
  rw [iterate_next_self h] at hback
  rw [hback]
  exact (List.reverse_perm _).trans (iterate_next_perm h)

theorem iterate_last_self (h : p < n) : (last n)^[n] p = p := by
  have hback := iterate_undo (fun j _ => last_iterate_next h j) (Nat.le_refl n)
  rwa [iterate_next_self h, Nat.sub_self] at hback

end Carousel
