import Mathlib.Data.List.Basic
import Mathlib.Data.List.Nodup

/-!
# Ledgers

A ledger assigns values to keys, in the order in which the keys have come in.
It can be kept as two lists, one of the keys and one of the values at the same
positions.
-/

namespace Ledger

variable {κ ν : Type} [DecidableEq κ] {ledger : List (κ × ν)} {k : κ} {v : ν}

/-- The ledger without a key. -/
def without (k : κ) (ledger : List (κ × ν)) : List (κ × ν) :=
  ledger.filter fun e => e.1 ≠ k

theorem mem_without_iff {e : κ × ν} :
    e ∈ without k ledger ↔ e ∈ ledger ∧ e.1 ≠ k := by
  unfold without
  rw [List.mem_filter, decide_eq_true_eq]

theorem without_of_not_mem (h : k ∉ ledger.map Prod.fst) :
    without k ledger = ledger := by
  refine List.filter_eq_self.mpr fun e he => decide_eq_true fun heq => ?_
  exact h (heq ▸ List.mem_map_of_mem he)

theorem without_cons_self (v : ν) (h : k ∉ ledger.map Prod.fst) :
    without k ((k, v) :: ledger) = ledger := by
  unfold without
  rw [List.filter_cons_of_neg (by simp)]
  exact without_of_not_mem h

theorem without_cons_of_ne {e : κ × ν} (h : e.1 ≠ k) :
    without k (e :: ledger) = e :: without k ledger :=
  List.filter_cons_of_pos (decide_eq_true h)

/-- The key leaves the list of the keys. -/
theorem map_fst_without (h : (ledger.map Prod.fst).Nodup) (k : κ) :
    (without k ledger).map Prod.fst = (ledger.map Prod.fst).erase k := by
  induction ledger with
  | nil => rfl
  | cons e rest ih =>
      obtain ⟨hnot, hrest⟩ := List.nodup_cons.mp h
      obtain ⟨key, v⟩ := e
      by_cases hk : key = k
      · subst hk
        rw [without_cons_self v hnot, List.map_cons, List.erase_cons_head]
      · rw [without_cons_of_ne (e := (key, v)) hk, List.map_cons,
          List.map_cons, ih hrest, List.erase_cons_tail (by simpa using hk)]

/-- Its value leaves the list of the values. -/
theorem map_snd_without (h : (ledger.map Prod.fst).Nodup) (k : κ) :
    (without k ledger).map Prod.snd =
      (ledger.map Prod.snd).eraseIdx ((ledger.map Prod.fst).idxOf k) := by
  induction ledger with
  | nil => rfl
  | cons e rest ih =>
      obtain ⟨hnot, hrest⟩ := List.nodup_cons.mp h
      obtain ⟨key, v⟩ := e
      by_cases hk : key = k
      · subst hk
        rw [without_cons_self v hnot, List.map_cons, List.map_cons,
          List.idxOf_cons_self, List.eraseIdx_cons_zero]
      · rw [without_cons_of_ne (e := (key, v)) hk, List.map_cons,
          List.map_cons, List.map_cons, List.idxOf_cons_ne _ hk,
          List.eraseIdx_cons_succ, ih hrest]

theorem nodup_without (h : (ledger.map Prod.fst).Nodup) (k : κ) :
    ((without k ledger).map Prod.fst).Nodup := by
  rw [map_fst_without h]
  exact h.erase k

/-- The value of a key is at the position of the key. -/
theorem getElem?_idxOf (h : (ledger.map Prod.fst).Nodup)
    (hmem : (k, v) ∈ ledger) :
    (ledger.map Prod.snd)[(ledger.map Prod.fst).idxOf k]? = some v := by
  induction ledger with
  | nil => cases hmem
  | cons e rest ih =>
      obtain ⟨hnot, hrest⟩ := List.nodup_cons.mp h
      rcases List.mem_cons.mp hmem with rfl | hmem
      · rw [List.map_cons, List.map_cons, List.idxOf_cons_self]
        rfl
      · have hne : e.1 ≠ k := fun heq =>
          hnot (heq ▸ List.mem_map_of_mem (f := Prod.fst) hmem)
        rw [List.map_cons, List.map_cons, List.idxOf_cons_ne _ hne]
        exact ih hrest hmem

end Ledger
