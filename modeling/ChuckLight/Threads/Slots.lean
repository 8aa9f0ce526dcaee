import ChuckLight.Threads.ServerRun

/-!
# The workers of a field

At any time at most one worker of a field matters: the one that the field
refers to, which is first constructed, then started, then told to stop.  All
earlier workers of the field have ended.
-/

namespace ChuckLight

/-- How far the worker of a field is. -/
inductive Phase where
  | constructed
  | started
  | told
  deriving DecidableEq, Repr

variable {β : Type}

/-- The worker is in a phase.  A worker that has been started and has begun
runs until it is told to stop. -/
def Worker.In (w : Worker β) : Phase → Prop
  | .constructed => w.begun = false
  | .started => w.alive = true ∧ (w.begun = true → w.running = true)
  | .told => w.alive = true

namespace Slot

/-- No worker is alive. -/
def Idle (slot : Slot β) : Prop :=
  ∀ (i : ℕ) (w : Worker β), slot.workers[i]? = some w → w.alive = false

/-- The field refers to a worker in the phase, and no other worker is alive. -/
def Only (phase : Phase) (slot : Slot β) : Prop :=
  ∃ (i : ℕ) (w : Worker β), slot.ref = some i ∧
    slot.workers[i]? = some w ∧ w.In phase ∧
    ∀ (j : ℕ) (v : Worker β), j ≠ i → slot.workers[j]? = some v →
      v.alive = false

/-- The worker of the field is in the phase, or there is none. -/
def Is (slot : Slot β) : Option Phase → Prop
  | none => slot.Idle
  | some phase => slot.Only phase

/-! ## Single workers -/

theorem getElem?_modifyAt (slot : Slot β) (i j : ℕ)
    (f : Worker β → Worker β) :
    (slot.modifyAt i f).workers[j]? =
      slot.workers[j]?.map fun w => if i = j then f w else w := by
  unfold modifyAt
  rw [List.getElem?_modify]
  rfl

theorem getElem?_setRunning (slot : Slot β) (isStatic running : Bool)
    (i j : ℕ) :
    (slot.setRunning isStatic i running).workers[j]? =
      slot.workers[j]?.map fun w =>
        if isStatic = true ∨ i = j then { w with running := running }
        else w := by
  unfold setRunning
  cases isStatic with
  | true => simp
  | false =>
      rw [if_neg Bool.false_ne_true, getElem?_modifyAt]
      simp

@[simp]
theorem ref_setRunning (slot : Slot β) (isStatic running : Bool) (i : ℕ) :
    (slot.setRunning isStatic i running).ref = slot.ref := by
  unfold setRunning modifyAt
  split_ifs <;> rfl

/-! ## All workers of a field -/

variable {slot slot' : Slot β} {phase phase' : Phase}
  {f : ℕ → Worker β → Worker β}

theorem Idle.change (h : slot.Idle)
    (hworkers : ∀ j, slot'.workers[j]? = slot.workers[j]?.map (f j))
    (halive : ∀ j w, w.alive = false → (f j w).alive = false) :
    slot'.Idle := by
  intro j v hv
  rw [hworkers j] at hv
  obtain ⟨w, hw, rfl⟩ := Option.map_eq_some_iff.mp hv
  exact halive j w (h j w hw)

theorem Only.change (h : slot.Only phase) (href : slot'.ref = slot.ref)
    (hworkers : ∀ j, slot'.workers[j]? = slot.workers[j]?.map (f j))
    (hown : ∀ i w, slot.ref = some i → w.In phase → (f i w).In phase')
    (halive : ∀ j w, w.alive = false → (f j w).alive = false) :
    slot'.Only phase' := by
  obtain ⟨i, w, hi, hw, hin, hothers⟩ := h
  refine ⟨i, f i w, href.trans hi, ?_, hown i w hi hin, ?_⟩
  · rw [hworkers i, hw]
    rfl
  · intro j v hj hv
    rw [hworkers j] at hv
    obtain ⟨u, hu, rfl⟩ := Option.map_eq_some_iff.mp hv
    exact halive j u (hothers j u hj hu)

/-- A new worker. -/
theorem Idle.construct (h : slot.Idle) (object : β) :
    (slot.construct object).Only .constructed := by
  refine ⟨slot.workers.length, ⟨false, false, false, object⟩, rfl, ?_, rfl, ?_⟩
  · exact List.getElem?_concat_length
  · intro j v hj hv
    have hlt : j < (slot.construct object).workers.length :=
      (List.getElem?_eq_some_iff.mp hv).1
    have hlen : (slot.construct object).workers.length =
        slot.workers.length + 1 := List.length_append
    have hold : slot.workers[j]? = some v := by
      rw [← hv]
      exact (List.getElem?_append_left (by omega)).symm
    exact h j v hold

theorem Only.launch (h : slot.Only .constructed) :
    slot.launch.Only .started := by
  obtain ⟨i, w, hi, hw, hin, hothers⟩ := h
  have hlaunch : slot.launch =
      slot.modifyAt i fun w => { w with alive := true } := by
    unfold Slot.launch
    rw [hi]
  rw [hlaunch]
  refine ⟨i, { w with alive := true }, hi, ?_, ⟨rfl, ?_⟩, ?_⟩
  · rw [getElem?_modifyAt, hw]
    simp
  · intro hbegun
    have hnot : w.begun = false := hin
    rw [hnot] at hbegun
    cases hbegun
  · intro j v hj hv
    rw [getElem?_modifyAt] at hv
    obtain ⟨u, hu, rfl⟩ := Option.map_eq_some_iff.mp hv
    rw [if_neg (Ne.symm hj)]
    exact hothers j u hj hu

/-- The worker is told to stop. -/
theorem Only.tell (h : slot.Only .started) (isStatic : Bool) (i : ℕ) :
    (slot.setRunning isStatic i false).Only .told :=
  h.change (ref_setRunning ..) (getElem?_setRunning slot isStatic false i)
    (fun j w _ hin => by split_ifs <;> exact hin.1)
    (fun j w hw => by split_ifs <;> exact hw)

/-- The worker ends, and the field becomes null. -/
theorem Only.finish (h : slot.Only .told) {i : ℕ} (hi : slot.ref = some i) :
    Idle { slot.finish i with ref := none } := by
  obtain ⟨i', w, hi', hw, hin, hothers⟩ := h
  have heq : i' = i := Option.some.inj (hi'.symm.trans hi)
  subst heq
  intro j v hv
  have hmod : (slot.finish i').workers[j]? = some v := hv
  unfold Slot.finish at hmod
  rw [getElem?_modifyAt] at hmod
  obtain ⟨u, hu, rfl⟩ := Option.map_eq_some_iff.mp hmod
  by_cases hj : i' = j
  · rw [if_pos hj]
  · rw [if_neg hj]
    exact hothers j u (Ne.symm hj) hu

/-- The object of a worker does not matter. -/
theorem Is.object {expected : Option Phase} (h : slot.Is expected) (i : ℕ)
    (object : β) :
    (slot.modifyAt i fun w => { w with object := object }).Is expected := by
  cases expected with
  | none =>
      exact Idle.change h (getElem?_modifyAt slot i · _)
        (fun j w hw => by split_ifs <;> exact hw)
  | some phase =>
      refine Only.change h rfl (getElem?_modifyAt slot i · _) ?_
        (fun j w hw => by split_ifs <;> exact hw)
      intro j w _ hin
      cases phase <;> split_ifs <;> exact hin

/-- A worker begins. -/
theorem Only.begin (h : slot.Only .started) (isStatic : Bool) {i : ℕ}
    (hi : slot.ref = some i) :
    ((slot.setRunning isStatic i true).modifyAt i fun w =>
      { w with begun := true }).Only .started := by
  have hrunning := getElem?_setRunning slot isStatic true i
  refine h.change (f := fun j w =>
    if i = j then
      { (if isStatic = true ∨ i = j then { w with running := true } else w)
        with begun := true }
    else if isStatic = true ∨ i = j then { w with running := true } else w)
    (ref_setRunning ..) ?_ ?_ ?_
  · intro j
    rw [getElem?_modifyAt, hrunning, Option.map_map]
    rfl
  · intro j w hj hin
    have heq : i = j := Option.some.inj (hi.symm.trans hj)
    rw [if_pos heq, if_pos (Or.inr heq)]
    exact ⟨hin.1, fun _ => rfl⟩
  · intro j w hw
    split_ifs <;> exact hw

/-- A live worker is the one that the field refers to. -/
theorem Only.eq_ref (h : slot.Only phase) {i : ℕ} {w : Worker β}
    (hw : slot.workers[i]? = some w) (halive : w.alive = true) :
    slot.ref = some i ∧ w.In phase := by
  obtain ⟨i', w', hi', hw', hin, hothers⟩ := h
  by_cases heq : i = i'
  · subst heq
    have hsame : w' = w := Option.some.inj (hw'.symm.trans hw)
    exact ⟨hi', hsame ▸ hin⟩
  · have hdead := hothers i w heq hw
    rw [halive] at hdead
    cases hdead

/-- The live workers of a field with a started worker. -/
theorem Only.alive_iff (h : slot.Only .started) (i : ℕ) :
    (∃ w, slot.workers[i]? = some w ∧ w.alive = true) ↔
      slot.ref = some i := by
  constructor
  · rintro ⟨w, hw, halive⟩
    exact (h.eq_ref hw halive).1
  · intro hi
    obtain ⟨i', w, hi', hw, hin, _⟩ := h
    have heq : i' = i := Option.some.inj (hi'.symm.trans hi)
    exact ⟨w, heq ▸ hw, hin.1⟩

/-! ## Objects -/

/-- The object that the field refers to. -/
def object? (slot : Slot β) : Option β :=
  slot.ref.bind fun i => slot.workers[i]?.map Worker.object

/-- The workers are the same objects. -/
structure SameObjects (slot slot' : Slot β) : Prop where
  ref : slot'.ref = slot.ref
  workers : slot'.workers.map Worker.object = slot.workers.map Worker.object

theorem SameObjects.trans {slot'' : Slot β} (h : slot.SameObjects slot')
    (h' : slot'.SameObjects slot'') : slot.SameObjects slot'' :=
  ⟨h'.ref.trans h.ref, h'.workers.trans h.workers⟩

theorem SameObjects.object? (h : slot.SameObjects slot') :
    slot'.object? = slot.object? := by
  unfold Slot.object?
  rw [h.ref]
  simp only [← List.getElem?_map, h.workers]

theorem sameObjects_modifyAt (i : ℕ) {f : Worker β → Worker β}
    (hf : ∀ w, (f w).object = w.object) :
    slot.SameObjects (slot.modifyAt i f) := by
  refine ⟨rfl, List.ext_getElem? fun j => ?_⟩
  simp only [List.getElem?_map, getElem?_modifyAt, Option.map_map]
  congr 1
  funext w
  show Worker.object (if i = j then f w else w) = w.object
  split_ifs
  · exact hf w
  · rfl

theorem sameObjects_setRunning (isStatic : Bool) (i : ℕ) (running : Bool) :
    slot.SameObjects (slot.setRunning isStatic i running) := by
  unfold setRunning
  split_ifs
  · exact ⟨rfl, by rw [List.map_map]; rfl⟩
  · exact sameObjects_modifyAt i fun _ => rfl

theorem sameObjects_launch : slot.SameObjects slot.launch := by
  unfold launch
  cases slot.ref with
  | none => exact ⟨rfl, rfl⟩
  | some i => exact sameObjects_modifyAt i fun _ => rfl

theorem object?_construct (slot : Slot β) (object : β) :
    (slot.construct object).object? = some object := by
  show (slot.workers ++ [_])[slot.workers.length]?.map Worker.object = _
  rw [List.getElem?_concat_length]
  rfl

theorem object?_of_getElem? {i : ℕ} {w : Worker β} (hi : slot.ref = some i)
    (hw : slot.workers[i]? = some w) : slot.object? = some w.object := by
  unfold Slot.object?
  rw [hi, Option.bind_some, hw]
  rfl

/-- The object of a worker changes. -/
theorem object?_setObject {i : ℕ} {w : Worker β} (object : β)
    (hi : slot.ref = some i) (hw : slot.workers[i]? = some w) :
    (slot.modifyAt i fun w => { w with object := object }).object? =
      some object := by
  refine object?_of_getElem? (w := { w with object := object }) hi ?_
  rw [getElem?_modifyAt, hw, Option.map_some, if_pos rfl]

/-- The object of another worker changes. -/
theorem object?_setObject_of_ne {i : ℕ} (object : β)
    (hi : slot.ref ≠ some i) :
    (slot.modifyAt i fun w => { w with object := object }).object? =
      slot.object? := by
  unfold Slot.object?
  show slot.ref.bind _ = _
  cases href : slot.ref with
  | none => rfl
  | some j =>
      have hne : i ≠ j := fun h => hi (href.trans (congrArg some h.symm))
      rw [Option.bind_some, Option.bind_some, getElem?_modifyAt]
      simp only [if_neg hne, Option.map_id']

end Slot

end ChuckLight
