import Mathlib.Data.List.Basic

/-!
# Interleavings of two sequences

`Interleaving xs ys zs` says that `zs` merges `xs` and `ys` and keeps the order
of each.
-/

/-- The list `zs` merges `xs` and `ys`, each in its own order. -/
inductive Interleaving {α : Type*} : List α → List α → List α → Prop where
  | nil : Interleaving [] [] []
  | left {x : α} {xs ys zs : List α} :
      Interleaving xs ys zs → Interleaving (x :: xs) ys (x :: zs)
  | right {y : α} {xs ys zs : List α} :
      Interleaving xs ys zs → Interleaving xs (y :: ys) (y :: zs)

namespace Interleaving

variable {α β : Type*} {xs ys zs : List α}

/-- What a partial function makes of the parts, it makes of the whole. -/
theorem filterMap (f : α → Option β) (h : Interleaving xs ys zs) :
    Interleaving (xs.filterMap f) (ys.filterMap f) (zs.filterMap f) := by
  induction h with
  | nil => exact nil
  | @left x _ _ _ _ ih =>
      cases hx : f x with
      | none =>
          rw [List.filterMap_cons_none hx, List.filterMap_cons_none hx]
          exact ih
      | some b =>
          rw [List.filterMap_cons_some hx, List.filterMap_cons_some hx]
          exact ih.left
  | @right y _ _ _ _ ih =>
      cases hy : f y with
      | none =>
          rw [List.filterMap_cons_none hy, List.filterMap_cons_none hy]
          exact ih
      | some b =>
          rw [List.filterMap_cons_some hy, List.filterMap_cons_some hy]
          exact ih.right

theorem mem (h : Interleaving xs ys zs) {z : α} (hz : z ∈ zs) :
    z ∈ xs ∨ z ∈ ys := by
  induction h with
  | nil => cases hz
  | left _ ih =>
      rcases List.mem_cons.mp hz with rfl | hz
      · exact .inl (List.mem_cons_self ..)
      · exact (ih hz).imp_left (List.mem_cons_of_mem _)
  | right _ ih =>
      rcases List.mem_cons.mp hz with rfl | hz
      · exact .inr (List.mem_cons_self ..)
      · exact (ih hz).imp_right (List.mem_cons_of_mem _)

theorem nil_left (ys : List α) : Interleaving [] ys ys := by
  induction ys with
  | nil => exact nil
  | cons y rest ih => exact ih.right

theorem eq_of_nil_left (h : Interleaving [] ys zs) : zs = ys := by
  generalize hxs : ([] : List α) = xs at h
  induction h with
  | nil => rfl
  | left => cases hxs
  | right _ ih => rw [ih hxs]

theorem eq_of_nil_right (h : Interleaving xs [] zs) : zs = xs := by
  generalize hys : ([] : List α) = ys at h
  induction h with
  | nil => rfl
  | left _ ih => rw [ih hys]
  | right => cases hys

/-- The first sequence, then the second. -/
theorem append (xs ys : List α) : Interleaving xs ys (xs ++ ys) := by
  induction xs with
  | nil => exact nil_left ys
  | cons x rest ih => exact ih.left

/-- Two single elements merge in two ways. -/
theorem singletons {x y : α} (h : Interleaving [x] [y] zs) :
    zs = [x, y] ∨ zs = [y, x] := by
  cases h with
  | left h => exact .inl (congrArg (x :: ·) h.eq_of_nil_left)
  | right h => exact .inr (congrArg (y :: ·) h.eq_of_nil_right)

end Interleaving
