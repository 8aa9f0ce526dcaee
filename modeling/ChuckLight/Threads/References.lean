import ChuckLight.Threads.Steady

/-!
# The workers that fields refer to

A field refers to a worker from the time it is started until it has been told
to stop and has ended.  As long as the field refers to a worker, no use of the
field throws.
-/

namespace ChuckLight.Server

open Java

/-- The field refers to a worker whose object meets the condition. -/
def Refers (k : WorkerField) (object : k.Object → Prop) (s : Server) : Prop :=
  ∃ t, (s.slots k).object? = some t ∧ object t

variable {k : WorkerField} {object : k.Object → Prop} {s : Server} {α : Type}

instance [DecidablePred object] : Decidable (Refers k object s) :=
  inferInstanceAs (Decidable (∃ t ∈ (s.slots k).object?, object t))

theorem Refers.imp {object' : k.Object → Prop} (h : Refers k object s)
    (hobject : ∀ t, object t → object' t) : Refers k object' s := by
  obtain ⟨t, ht, hmeets⟩ := h
  exact ⟨t, ht, hobject t hmeets⟩

/-- The worker that the field refers to. -/
theorem Refers.deref (h : Refers k object s) :
    ∃ i w, (s.slots k).ref = some i ∧ (s.slots k).workers[i]? = some w ∧
      object w.object ∧ deref k s = .ok (i, w) s := by
  obtain ⟨t, ht, hmeets⟩ := h
  obtain ⟨i, hi, hobject⟩ := Option.bind_eq_some_iff.mp ht
  obtain ⟨w, hw, rfl⟩ := Option.map_eq_some_iff.mp hobject
  exact ⟨i, w, hi, hw, hmeets, deref_of_ref hi hw⟩

theorem Refers.setSlot (h : Refers k object s) {slot : Slot k.Object}
    (hslot : (s.slots k).SameObjects slot) :
    Refers k object (s.setSlot k slot) := by
  unfold Refers
  rw [slots_setSlot_self, hslot.object?]
  exact h

theorem Refers.setSlot_of_ne (h : Refers k object s) {k' : WorkerField}
    (hk : k ≠ k') (slot : Slot k'.Object) :
    Refers k object (s.setSlot k' slot) := by
  unfold Refers
  rw [slots_setSlot_of_ne hk]
  exact h

/-- The reference does not depend on what is shown nor on which workers
run. -/
theorem ticks_refers (hobject : ∀ t t', k.Alike t t' → object t → object t') :
    Ticks (Refers k object) where
  rig := fun _ _ _ h => h
  object := fun s k' i stage w hw hstage h => by
    by_cases hk : k = k'
    · subst hk
      obtain ⟨t, ht, hmeets⟩ := h
      unfold Refers store
      rw [slots_setSlot_self]
      by_cases hi : (s.slots k).ref = some i
      · have heq : w.object = t :=
          Option.some.inj ((Slot.object?_of_getElem? hi hw).symm.trans ht)
        subst heq
        exact ⟨stage.2, Slot.object?_setObject stage.2 hi hw,
          hobject _ _ hstage.object hmeets⟩
      · rw [Slot.object?_setObject_of_ne _ hi]
        exact ⟨t, ht, hmeets⟩
    · exact h.setSlot_of_ne hk _
  workers := fun s k' slot hslot h => by
    by_cases hk : k = k'
    · subst hk
      exact h.setSlot hslot
    · exact h.setSlot_of_ne hk _

/-! ## Starting and stopping -/

namespace Workable

variable {inv : Server → Prop} (h : Workable inv) {c : Prop}

include h

theorem triple_startWorker (k : WorkerField) (t : k.Object) :
    Triple inv (Server.startWorker k t)
      (fun _ s => inv s ∧ Refers k (fun t' => t' = t) s)
      (fun e _ => c → ¬ e.IsThrown) := by
  refine Triple.modify fun s hs => ⟨h.slots _ _ hs, t, ?_, rfl⟩
  rw [slots_setSlot_self, Slot.sameObjects_launch.object?]
  exact Slot.object?_construct ..

theorem triple_clearRunning :
    Triple (fun s => inv s ∧ Refers k object s) (Server.clearRunning k)
      (fun _ s => inv s ∧ Refers k object s)
      (fun e _ => c → ¬ e.IsThrown) := by
  rintro s ⟨hs, href⟩
  obtain ⟨i, w, -, -, -, hderef⟩ := href.deref
  unfold Server.clearRunning
  rw [bind_of_ok hderef]
  exact ⟨h.slots _ _ hs, href.setSlot (Slot.sameObjects_setRunning ..)⟩

/-- The thread waits for a worker that has not begun. -/
theorem triple_join :
    Triple (fun s => inv s ∧ Refers k object s) (Server.join k)
      (fun _ => inv) (fun e _ => c → ¬ e.IsThrown) := by
  rintro s ⟨hs, href⟩
  obtain ⟨i, w, -, -, -, hderef⟩ := href.deref
  unfold Server.join
  rw [bind_of_ok hderef]
  by_cases hwaits : w.alive = true ∧ w.begun = false
  · rw [if_pos hwaits]
    exact fun _ => nofun
  · rw [if_neg hwaits]
    exact h.slots _ _ hs

theorem triple_redrum :
    Triple (fun s => inv s ∧ Refers k object s) (Server.redrum k)
      (fun _ => inv) (fun e _ => c → ¬ e.IsThrown) :=
  h.triple_clearRunning.bind fun _ => h.triple_join

end Workable

end ChuckLight.Server
