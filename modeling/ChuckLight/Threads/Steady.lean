import ChuckLight.Threads.Frame
import ChuckLight.Threads.Slots

/-!
# What workers leave alone

Starting and stopping workers changes the workers and the cursor over the
controls, and what edits leave alone.
-/

namespace ChuckLight.Server

open Java

/-- The invariant ignores what the lights show and the workers. -/
structure Workable (inv : Server → Prop) : Prop extends Shown inv where
  slots : ∀ s slots, inv s → inv { s with slots := slots }

/-- The invariant also ignores the cursor over the controls and what edits
change. -/
structure Working (inv : Server → Prop) : Prop extends Edits inv,
    Workable inv where
  control : ∀ s index, inv s → inv { s with currentControlIndex := index }

/-- A frame that ignores the workers and the cursor over the controls. -/
structure Steady (inv : Server → Prop) : Prop extends Frame inv where
  control : ∀ s index slots, inv s →
    inv { s with currentControlIndex := index, slots := slots }

variable {inv : Server → Prop}

theorem Steady.working (h : Steady inv) : Working inv :=
  { h.edits with
    slots := fun s slots => h.control s s.currentControlIndex slots
    control := fun s index => h.control s index s.slots }

namespace Workable

variable (h : Workable inv)

include h

/-! ## Workers -/

theorem setSlot (k : WorkerField) (f : Server → Slot k.Object) :
    Preserves inv (modify fun s => s.setSlot k (f s)) :=
  Preserves.modify fun s hs => h.slots s _ hs

theorem startWorker (k : WorkerField) (object : k.Object) :
    Preserves inv (startWorker k object) := h.setSlot k _

theorem clearRunning (k : WorkerField) : Preserves inv (clearRunning k) :=
  (preserves_deref k).bind fun _ => h.setSlot k _

theorem join (k : WorkerField) : Preserves inv (join k) :=
  (preserves_deref k).bind fun _ =>
    Preserves.ite (Preserves.throw _) (h.setSlot k _)

theorem redrum (k : WorkerField) : Preserves inv (redrum k) :=
  (h.clearRunning k).bind fun _ => h.join k

theorem startRainbow : Preserves inv startRainbow :=
  Preserves.get_bind fun _ => h.startWorker .rainbowVisual _

theorem startDMXVisual : Preserves inv startDMXVisual :=
  Preserves.get_bind fun _ => h.startWorker .dmxVisual _

theorem startPresetVisual : Preserves inv startPresetVisual :=
  Preserves.get_bind fun _ => h.startWorker .presetVisual _

theorem startChase : Preserves inv startChase :=
  Preserves.get_bind fun _ => h.startWorker .chase _

/-- The object of a worker does not matter. -/
theorem onHighlight {α : Type} {x : Run (Stage HighlightThread) α}
    (hx : ∀ r, Preserves (Stage.Beside r) x) :
    Preserves inv (onHighlight x) := by
  refine (preserves_deref .highlight).bind fun p s hs => ?_
  unfold Java.zoom
  have hstart : Stage.Beside s.rig (s.rig, p.2.object) := Rig.Follows.refl _
  cases hrun : x (s.rig, p.2.object) with
  | ok a stage =>
      have hrig := h.rig s stage.1 ((hx s.rig).of_ok hstart hrun) hs
      exact h.slots _ _ hrig
  | error e stage =>
      have hrig := h.rig s stage.1 ((hx s.rig).of_error hstart hrun) hs
      exact h.slots _ _ hrig

theorem startHighlight : Preserves inv startHighlight :=
  (h.setSlot .highlight _).bind fun _ => h.currentLight.bind fun light =>
    (h.onHighlight fun _ => HighlightThread.beside_addLight light).bind
      fun _ => h.setSlot .highlight _

theorem redrumHighlight : Preserves inv redrumHighlight :=
  (h.clearRunning .highlight).bind fun _ =>
    (h.onHighlight fun _ => HighlightThread.beside_redrum).bind fun _ =>
      (h.join .highlight).bind fun _ => Preserves.pure _

/-! ## The cursor over the lights -/

theorem leaveLight : Preserves inv leaveLight := by
  refine h.currentLight.bind fun light => ?_
  refine (h.onRig (Rig.reads_isSelected light).shows).bind fun _ => ?_
  refine Preserves.ite ?_ (Preserves.pure _)
  refine (h.onHighlight fun _ =>
    HighlightThread.beside_removeLight light).bind fun _ => ?_
  exact h.revertScene.bind fun _ => h.setUpdateDefaultColor

theorem enterLight : Preserves inv enterLight :=
  h.currentLight.bind fun light =>
    (h.onRig (Rig.reads_isSelected light).shows).bind fun _ =>
      Preserves.ite (h.onHighlight fun _ =>
        HighlightThread.beside_addLight light) (Preserves.pure _)

theorem redrumControl (index : ℤ) : Preserves inv (redrumControl index) :=
  Preserves.ite (h.redrum .dmxVisual) (Preserves.ite (h.redrum .rainbowVisual)
    (Preserves.ite (h.redrum .presetVisual) (Preserves.pure _)))

end Workable

namespace Working

variable (h : Working inv)

include h

theorem takeSelection : Preserves inv takeSelection :=
  h.redrumHighlight.bind fun _ => (h.setSelectedLights _).bind fun _ =>
    h.firstNumChannels.bind fun _ => h.compareChannels _ _

/-! ## The control selection -/

theorem setControlIndex (index : ℤ) : Preserves inv (setControlIndex index) :=
  Preserves.modify fun s hs => h.control s index hs

/-- A visual starts for a control, with or without the scene. -/
theorem switchControl {start : Run Server Unit} (hstart : Preserves inv start)
    (index : ℤ) :
    Preserves inv
      (do Server.setControlIndex index; Server.revertScene; start) :=
  (h.setControlIndex index).bind fun _ => h.revertScene.bind fun _ => hstart

theorem controlLeft (index : ℤ) : Preserves inv (controlLeft index) := by
  refine Preserves.ite ?_ (Preserves.ite ?_ (Preserves.ite ?_ ?_))
  · exact (h.redrum .dmxVisual).bind fun _ =>
      h.switchControl h.startPresetVisual 1
  · refine (h.redrum .rainbowVisual).bind fun _ =>
      Preserves.get_bind fun _ => Preserves.ite ?_ ?_
    · exact h.switchControl h.startDMXVisual (-1)
    · exact (h.setControlIndex 1).bind fun _ => h.startPresetVisual
  · exact (h.redrum .presetVisual).bind fun _ =>
      h.switchControl h.startRainbow 0
  · exact Preserves.pure _

theorem controlRight (index : ℤ) : Preserves inv (controlRight index) := by
  refine Preserves.ite ?_ (Preserves.ite ?_ (Preserves.ite ?_ ?_))
  · exact (h.redrum .dmxVisual).bind fun _ =>
      h.switchControl h.startRainbow 0
  · exact (h.redrum .rainbowVisual).bind fun _ =>
      h.switchControl h.startPresetVisual 1
  · refine (h.redrum .presetVisual).bind fun _ =>
      Preserves.get_bind fun _ => Preserves.ite ?_ ?_
    · exact h.switchControl h.startDMXVisual (-1)
    · exact (h.setControlIndex 0).bind fun _ => h.startRainbow
  · exact Preserves.pure _

end Working

/-! ## Passes -/

/-- A step of a worker begins it, makes a pass, or ends it. -/
theorem preserves_tick {k : WorkerField} {i : ℕ}
    (hfinish : ∀ s, inv s → inv (finishWorker k i s))
    (hbegin : ∀ s, inv s → inv (beginWorker k i s))
    (hstore : ∀ s w stage, (s.slots k).workers[i]? = some w →
      Stage.Follows k (s.rig, w.object) stage → inv s →
        inv (store k i stage s)) : Preserves inv (tick k i) := by
  intro s hs
  unfold Server.tick
  cases hw : (s.slots k).workers[i]? with
  | none => exact hs
  | some w =>
      by_cases halive : w.alive = false
      · simp only [halive, if_true]
        exact hs
      · simp only [if_neg halive]
        by_cases hbegun : w.begun = false
        · simp only [hbegun, if_true]
          split_ifs
          · exact hfinish _ (hbegin s hs)
          · exact hbegin s hs
        · simp only [if_neg hbegun]
          by_cases hrunning : w.running = false
          · simp only [hrunning, if_true]
            exact hfinish s hs
          · simp only [if_neg hrunning]
            have hpass := WorkerField.follows_pass s.sceneManager k
              (s.rig, w.object)
            have hstart := Stage.Follows.refl k (s.rig, w.object)
            cases hresult : passResult k w.object s with
            | ok a stage =>
                exact hstore s w stage hw (hpass.of_ok hstart hresult) hs
            | error e stage =>
                have hstored := hstore s w stage hw
                  (hpass.of_error hstart hresult) hs
                cases e with
                | thrown t => exact hfinish _ hstored
                | exited => exact hstored
                | blocked => exact hs

/-- The invariant ignores what the lights show, how far animations are, and
which workers run. -/
structure Ticks (inv : Server → Prop) : Prop extends Shown inv where
  workers : ∀ s k slot, (s.slots k).SameObjects slot → inv s →
    inv (s.setSlot k slot)

/-- A step of a worker. -/
theorem Ticks.tick (h : Ticks inv) (k : WorkerField) (i : ℕ) :
    Preserves inv (tick k i) := by
  have hfinish : ∀ s, inv s → inv (finishWorker k i s) := fun s hs =>
    h.workers s k _ (Slot.sameObjects_modifyAt i fun _ => rfl) hs
  have hbegin : ∀ s, inv s → inv (beginWorker k i s) := fun s hs =>
    h.workers s k _ ((Slot.sameObjects_setRunning _ i true).trans
      (Slot.sameObjects_modifyAt i fun _ => rfl)) hs
  exact preserves_tick hfinish hbegin fun s w stage hw hstage hs =>
    h.object s k i stage w hw hstage hs

theorem Workable.ticks (h : Workable inv) : Ticks inv :=
  { h.toShown with
    workers := fun s _ _ _ hs => h.slots s _ hs }

theorem Ticks.and {inv' : Server → Prop} (h : Ticks inv) (h' : Ticks inv') :
    Ticks fun s => inv s ∧ inv' s where
  rig := fun s r hr hs => ⟨h.rig s r hr hs.1, h'.rig s r hr hs.2⟩
  object := fun s k i stage w hw hstage hs =>
    ⟨h.object s k i stage w hw hstage hs.1,
      h'.object s k i stage w hw hstage hs.2⟩
  workers := fun s k slot hslot hs =>
    ⟨h.workers s k slot hslot hs.1, h'.workers s k slot hslot hs.2⟩

theorem Ticks.exists {ι : Type} {inv : ι → Server → Prop}
    (h : ∀ i, Ticks (inv i)) : Ticks fun s => ∃ i, inv i s where
  rig := fun s r hr ⟨i, hs⟩ => ⟨i, (h i).rig s r hr hs⟩
  object := fun s k j stage w hw hstage ⟨i, hs⟩ =>
    ⟨i, (h i).object s k j stage w hw hstage hs⟩
  workers := fun s k slot hslot ⟨i, hs⟩ =>
    ⟨i, (h i).workers s k slot hslot hs⟩

end ChuckLight.Server
