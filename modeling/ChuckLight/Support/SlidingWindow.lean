import Mathlib.Algebra.BigOperators.Group.List.Basic
import Mathlib.Data.List.DropRight
import Mathlib.Data.List.Rotate

/-!
# Sliding windows in a ring

A ring of fixed size takes up one value after another, each in place of the
oldest one.  It then holds the last values, in an order that is turned.
-/

namespace SlidingWindow

variable {α : Type}

/-! ## Definitions -/

/-- The last `n` values, with zeros in place of those that are missing. -/
def window [Zero α] (n : ℕ) (values : List α) : List α :=
  (List.replicate n 0 ++ values).rtake n

/-- The ring holds the last `n` values, and `next` is the place of the oldest
one. -/
structure Ring [Zero α] (n : ℕ) (values : List α) (ring : List α)
    (next : ℕ) : Prop where
  next_lt : next < n
  rotate : ring.rotate next = window n values

/-! ## The window -/

section Window

variable [Zero α] {n : ℕ} {values : List α}

@[simp]
theorem window_nil : window n ([] : List α) = List.replicate n 0 := by
  unfold window List.rtake
  rw [List.append_nil, List.length_replicate, Nat.sub_self, List.drop_zero]

@[simp]
theorem length_window : (window n values).length = n := by
  unfold window List.rtake
  rw [List.length_drop, List.length_append, List.length_replicate]
  omega

/-- The oldest value leaves the window, and the new one enters. -/
theorem window_concat (value : α) :
    window n (values ++ [value]) = ((window n values) ++ [value]).tail := by
  cases n with
  | zero =>
      rw [List.eq_nil_of_length_eq_zero (length_window (n := 0)),
        List.eq_nil_of_length_eq_zero (length_window (n := 0))]
      rfl
  | succ n =>
      have hlength : (List.replicate (n + 1) 0 ++ values).rtake (n + 1) ≠ [] :=
        List.ne_nil_of_length_eq_add_one length_window
      unfold window
      rw [← List.append_assoc, List.rtake_concat_succ,
        List.tail_append_of_ne_nil hlength]
      unfold List.rtake
      rw [List.tail_drop, List.length_append, List.length_replicate]
      congr 2
      omega

/-- The values in the window are among the given ones and zero. -/
theorem mem_window {value : α} (h : value ∈ window n values) :
    value = 0 ∨ value ∈ values := by
  rcases List.mem_append.mp (List.mem_of_mem_drop h) with hzero | hmem
  · exact Or.inl (List.eq_of_mem_replicate hzero)
  · exact Or.inr hmem

end Window

/-! ## The ring -/

/-- The place after the one that has been written is that of the oldest
value. -/
theorem rotate_set {ring : List α} {next : ℕ} (h : next < ring.length)
    (value : α) :
    (ring.set next value).rotate (next + 1) =
      (ring.rotate next ++ [value]).tail := by
  obtain ⟨older, oldest, newer, rfl, rfl⟩ :
      ∃ older oldest newer, ring = older ++ oldest :: newer ∧
        older.length = next := by
    refine ⟨ring.take next, ring[next], ring.drop (next + 1), ?_,
      List.length_take_of_le (Nat.le_of_lt h)⟩
    rw [← List.drop_eq_getElem_cons h, List.take_append_drop]
  have hlength : (older ++ [value]).length = older.length + 1 :=
    List.length_append
  rw [List.set_append_right _ _ (Nat.le_refl _), Nat.sub_self,
    List.set_cons_zero, List.append_cons, ← hlength,
    List.rotate_append_length_eq, List.rotate_append_length_eq,
    List.append_assoc, List.cons_append, List.tail_cons]

section Ring

variable [Zero α] {n next : ℕ} {values ring : List α}

theorem Ring.length_eq (h : Ring n values ring next) : ring.length = n := by
  rw [← List.length_rotate ring next, h.rotate, length_window]

/-- A ring of zeros, before the first value. -/
theorem ring_replicate (h : 0 < n) :
    Ring n ([] : List α) (List.replicate n 0) 0 :=
  ⟨h, by rw [List.rotate_zero, window_nil]⟩

/-- A value is put in place of the oldest one. -/
theorem Ring.set (h : Ring n values ring next) (value : α) :
    Ring n (values ++ [value]) (ring.set next value)
      (if next + 1 < n then next + 1 else 0) := by
  have hrotate : (ring.set next value).rotate (next + 1) =
      window n (values ++ [value]) := by
    rw [rotate_set (h.length_eq ▸ h.next_lt), h.rotate, window_concat]
  have hlt := h.next_lt
  by_cases hnext : next + 1 < n
  · rw [if_pos hnext]
    exact ⟨hnext, hrotate⟩
  · have hlength : (ring.set next value).length = next + 1 := by
      rw [List.length_set, h.length_eq]
      omega
    rw [if_neg hnext]
    refine ⟨by omega, ?_⟩
    rw [← hrotate, ← hlength, List.rotate_length, List.rotate_zero]

theorem Ring.mem (h : Ring n values ring next) {value : α}
    (hvalue : value ∈ ring) : value = 0 ∨ value ∈ values :=
  mem_window (h.rotate ▸ List.mem_rotate.mpr hvalue)

end Ring

/-- The sum does not depend on how far the ring is turned. -/
theorem Ring.sum_eq [AddCommMonoid α] {n next : ℕ} {values ring : List α}
    (h : Ring n values ring next) : ring.sum = (window n values).sum := by
  rw [← h.rotate]
  exact (List.rotate_perm ring next).sum_eq.symm

end SlidingWindow
