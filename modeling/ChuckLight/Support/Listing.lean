import Mathlib.Data.List.Basic
import Mathlib.Data.List.Nodup

/-!
# Lists without duplicates

A list that holds every wanted element once, and exactly these where that is
required.
-/

variable {ι : Type}

/-- The list holds every wanted element once and, under `exact`, nothing
else. -/
structure Listing (exact : Prop) (wanted : ι → Prop) (list : List ι) :
    Prop where
  nodup : list.Nodup
  mem : ∀ i, wanted i → i ∈ list
  only : exact → ∀ i ∈ list, wanted i

namespace Listing

variable {exact : Prop} {wanted wanted' : ι → Prop} {list : List ι}

theorem congr (h : Listing exact wanted list)
    (hwanted : ∀ i, wanted' i ↔ wanted i) : Listing exact wanted' list where
  nodup := h.nodup
  mem := fun i hi => h.mem i ((hwanted i).mp hi)
  only := fun hexact i hi => (hwanted i).mpr (h.only hexact i hi)

theorem singleton (i : ι) : Listing exact (fun j => j = i) [i] where
  nodup := List.nodup_singleton i
  mem := fun _ hj => List.mem_singleton.mpr hj
  only := fun _ _ hj => List.mem_singleton.mp hj

theorem concat (h : Listing exact wanted list) {i : ι} (hi : i ∉ list) :
    Listing exact (fun j => wanted j ∨ j = i) (list ++ [i]) where
  nodup := by
    rw [← List.concat_eq_append]
    exact h.nodup.concat hi
  mem := by
    rintro j (hj | rfl)
    · exact List.mem_append_left _ (h.mem j hj)
    · exact List.mem_append_right _ (List.mem_singleton_self j)
  only := fun hexact j hj => (List.mem_append.mp hj).imp (h.only hexact j)
    List.mem_singleton.mp

/-- An element of the list may be wanted as well. -/
theorem of_mem (h : Listing exact wanted list) {i : ι} (hi : i ∈ list) :
    Listing exact (fun j => wanted j ∨ j = i) list where
  nodup := h.nodup
  mem := by
    rintro j (hj | rfl)
    · exact h.mem j hj
    · exact hi
  only := fun hexact j hj => .inl (h.only hexact j hj)

theorem erase [DecidableEq ι] (h : Listing exact wanted list) (i : ι) :
    Listing exact (fun j => wanted j ∧ j ≠ i) (list.erase i) where
  nodup := h.nodup.erase i
  mem := fun j hj => (List.mem_erase_of_ne hj.2).mpr (h.mem j hj.1)
  only := fun hexact j hj => by
    obtain ⟨hne, hmem⟩ := h.nodup.mem_erase_iff.mp hj
    exact ⟨h.only hexact j hmem, hne⟩

/-- The elements of an exact list are the wanted ones. -/
theorem mem_iff (h : Listing True wanted list) (i : ι) :
    i ∈ list ↔ wanted i := ⟨h.only trivial i, h.mem i⟩

end Listing
