import Mathlib.Algebra.Order.BigOperators.Group.List
import Mathlib.Algebra.Order.Group.Unbundled.Int
import Mathlib.Algebra.Ring.Int.Defs
import Mathlib.Data.Nat.Cast.Basic

/-!
# The `int` arithmetic of C

An `int` expression whose value does not fit has no defined result.
-/

namespace CheckedInt

/-- The value of an `int` expression. -/
def int (value : ℤ) : Option ℤ :=
  if -2 ^ 31 ≤ value ∧ value < 2 ^ 31 then some value else none

theorem int_eq {value : ℤ} (hlow : -2 ^ 31 ≤ value) (hhigh : value < 2 ^ 31) :
    int value = some value := if_pos ⟨hlow, hhigh⟩

theorem bind_of_some {α β : Type} {x : Option α} {a : α} (h : x = some a)
    (f : α → Option β) : (x >>= f) = f a := by
  rw [h]
  rfl

/-- The sum of a few small values fits at every step. -/
theorem foldlM_add {values : List ℤ} {bound : ℤ} (hbound : 0 ≤ bound)
    (h : ∀ value ∈ values, -bound ≤ value ∧ value ≤ bound) (sum : ℤ)
    (hlow : -2 ^ 31 ≤ sum - values.length * bound)
    (hhigh : sum + values.length * bound < 2 ^ 31) :
    values.foldlM (fun sum value => int (sum + value)) sum =
      some (sum + values.sum) := by
  induction values generalizing sum with
  | nil =>
      rw [List.sum_nil, Int.add_zero]
      rfl
  | cons value values ih =>
      have hvalue := h value (List.mem_cons_self ..)
      have hrest : 0 ≤ values.length * bound :=
        Int.mul_nonneg (Int.natCast_nonneg _) hbound
      rw [List.length_cons, Int.natCast_succ, Int.add_mul, Int.one_mul]
        at hlow hhigh
      have hint : int (sum + value) = some (sum + value) :=
        int_eq (by omega) (by omega)
      rw [List.foldlM_cons, hint, List.sum_cons, ← Int.add_assoc]
      exact ih (fun v hv => h v (List.mem_cons_of_mem _ hv)) (sum + value)
        (by omega) (by omega)

/-- The truncated average lies within the bounds of the values. -/
theorem tdiv_sum_mem {values : List ℤ} {low high : ℤ} {n : ℕ}
    (h : ∀ value ∈ values, low ≤ value ∧ value ≤ high)
    (hlength : values.length = n) (hpos : 0 < n) :
    low ≤ values.sum.tdiv n ∧ values.sum.tdiv n ≤ high := by
  have hlow : (n : ℤ) * low ≤ values.sum := by
    rw [← nsmul_eq_mul, ← hlength]
    exact List.card_nsmul_le_sum values low fun v hv => (h v hv).1
  have hhigh : values.sum ≤ (n : ℤ) * high := by
    rw [← nsmul_eq_mul, ← hlength]
    exact List.sum_le_card_nsmul values high fun v hv => (h v hv).2
  have hn : (0 : ℤ) < n := Int.natCast_pos.mpr hpos
  have hcancel : ∀ v : ℤ, ((n : ℤ) * v).tdiv n = v := fun v =>
    Int.mul_tdiv_cancel_left v hn.ne'
  constructor
  · rw [← hcancel low]
    exact Int.tdiv_le_tdiv hn hlow
  · rw [← hcancel high]
    exact Int.tdiv_le_tdiv hn hhigh

end CheckedInt
