import ChuckLight.Threads.Cursors
import ChuckLight.Threads.StoredScenes

/-!
# Stored scenes can be shown

The only scene that the loop ever stores is the look of the lights.  So if the
scenes that the server starts with can be shown, all scenes that it recalls
can be shown.
-/

namespace ChuckLight

open Java Connection SceneManager

namespace Server

/-- All stored scenes can be shown. -/
def StoresPlayable (s : Server) : Prop :=
  ∀ scene ∈ s.sceneManager.scenes, Playable scene

theorem storedOnly_storesPlayable : StoredOnly StoresPlayable where
  rig := fun _ _ h => h
  scenes := fun s m hscenes _ h => by
    unfold StoresPlayable at h ⊢
    rw [hscenes]
    exact h
  object := fun _ _ _ _ h => h
  fields := fun _ _ _ _ _ _ _ h => h
  control := fun _ _ _ _ _ h => h

variable {s : Server}

theorem StoresPlayable.not_recallsNoByte (h : StoresPlayable s)
    (command : WirelessCommand) : ¬ RecallsNoByte s command := by
  rintro ⟨-, -, scene, hrecalled, v, hv, hbyte⟩
  refine hbyte ((h scene ?_).bytes v (List.mem_of_mem_tail hv))
  rcases hrecalled with ⟨-, hlast⟩ | ⟨-, hnext⟩
  · unfold lastScene? at hlast
    split_ifs at hlast
    · exact List.mem_of_getLast? hlast
    · exact List.mem_of_getElem? hlast
  · exact List.mem_of_getElem? hnext

/-! ## Storing and dropping -/

/-- Scenes that can be shown, in the scene manager. -/
def AllPlayable (m : SceneManager) : Prop :=
  ∀ scene ∈ m.scenes, Playable scene

theorem allPlayable_addScene {scene : Scene} (hscene : Playable scene) :
    Preserves AllPlayable (addScene scene) := by
  refine Preserves.modify fun m h t ht => ?_
  rcases List.mem_append.mp ht with hold | hnew
  · exact h t hold
  · rw [List.mem_singleton.mp hnew]
    exact hscene

theorem allPlayable_updateSceneFile :
    Preserves AllPlayable updateSceneFile := by
  intro m h
  rw [updateSceneFile_eq fun scene hscene => (h scene hscene).full]
  exact h

theorem allPlayable_removeAt (index : ℤ) :
    Preserves AllPlayable (removeAt index) :=
  Preserves.get_bind fun _ => Preserves.ite
    (Preserves.modify fun _ h t ht => h t (List.mem_of_mem_eraseIdx ht))
    (Preserves.throw _)

theorem allPlayable_deleteScene : Preserves AllPlayable deleteScene :=
  Preserves.get_bind fun _ => Preserves.ite
    (Preserves.get_bind fun _ => (allPlayable_removeAt _).bind fun _ =>
      Preserves.modify fun _ h => h)
    (Preserves.pure _)

theorem allPlayable_deleteSceneAt (index : ℤ) :
    Preserves AllPlayable (deleteSceneAt index) :=
  Preserves.get_bind fun _ => Preserves.ite (Preserves.pure _)
    (allPlayable_removeAt _)

theorem storesPlayable_onScenes {α : Type} {x : Run SceneManager α}
    (hx : Preserves AllPlayable x) : Preserves StoresPlayable (onScenes x) :=
  triple_onScenes hx

theorem storesPlayable_dropScene : Preserves StoresPlayable dropScene := by
  have h := storedOnly_storesPlayable
  refine Preserves.get_bind fun _ => Preserves.ite ?_
    (Preserves.get_bind fun _ => ?_)
  · exact (storesPlayable_onScenes allPlayable_deleteScene).bind fun _ =>
      (storesPlayable_onScenes allPlayable_updateSceneFile).bind fun _ =>
        h.edits.revertScene
  · exact (storesPlayable_onScenes (allPlayable_deleteSceneAt _)).bind
      fun _ => preserves_try (h.onRig _)

/-- The scene that is stored is the look of the lights. -/
theorem storesPlayable_storeScene :
    Triple (fun s => StoresPlayable s ∧ Ground s) storeScene
      (fun _ => StoresPlayable) (fun _ => StoresPlayable) := by
  refine Triple.get_bind_eq fun s ⟨h, hground⟩ => Triple.ite ?_ ?_
  · intro _
    have hadd := storesPlayable_onScenes
      (allPlayable_addScene hground.playable)
    rintro t rfl
    rw [bind_of_ok (onRig_getDmx t)]
    exact (hadd.bind fun _ =>
      storesPlayable_onScenes allPlayable_updateSceneFile) t h
  · exact fun _ => Triple.pure fun t ht => ht ▸ h

/-! ## The loop -/

variable {c : WirelessCommand}

theorem storesPlayable_idleMode (c : WirelessCommand) :
    Triple (fun s => StoresPlayable s ∧ Ground s) (idleMode c)
      (fun _ => StoresPlayable) (fun _ => StoresPlayable) := by
  have h := storedOnly_storesPlayable
  have hkeeps : ∀ {x : Run Server Bool}, Preserves StoresPlayable x →
      Triple (fun s => StoresPlayable s ∧ Ground s) x
        (fun _ => StoresPlayable) (fun _ => StoresPlayable) :=
    fun hx => hx.conseq (fun _ hs => hs.1) (fun _ _ hs => hs)
      fun _ _ hs => hs
  have hreturn : ∀ {x : Run Server Unit} (b : Bool),
      Preserves StoresPlayable x →
        Preserves StoresPlayable (do x; return b) :=
    fun b hx => hx.bind fun _ => Preserves.pure b
  refine Triple.ite (fun _ => hkeeps (Preserves.pure _)) fun _ => ?_
  refine Triple.ite (fun _ => hkeeps (hreturn _
    (h.recallScene keepsStored_getLastScene))) fun _ => ?_
  refine Triple.ite (fun _ => hkeeps (hreturn _
    (h.recallScene keepsStored_getNextScene))) fun _ => ?_
  refine Triple.ite (fun _ => hkeeps (hreturn _ h.recallCurrent)) fun _ => ?_
  refine Triple.ite (fun _ => hkeeps ((h.modeless.setState _).bind fun _ =>
    h.saveScene.bind fun _ => hreturn _ h.working.startHighlight)) fun _ => ?_
  refine Triple.ite (fun _ => hkeeps h.modeless.enterChase) fun _ => ?_
  refine Triple.ite (fun _ => storesPlayable_storeScene.bind fun _ =>
    Preserves.pure _) fun _ => ?_
  refine Triple.ite (fun _ => hkeeps (hreturn _ storesPlayable_dropScene))
    fun _ => ?_
  refine Triple.ite (fun _ => hkeeps (hreturn _ (h.modeless.setState _)))
    fun _ => ?_
  exact Triple.ite (fun _ => hkeeps (hreturn _ (h.modeless.setState _)))
    fun _ => hkeeps (Preserves.pure _)

theorem storesPlayable_mainSwitch (colorConverter : XYConverter)
    (random : ℕ → Color) (c : WirelessCommand) :
    Triple (fun s => StoresPlayable s ∧ Ground s)
      (mainSwitch colorConverter random c) (fun _ => StoresPlayable)
      (fun _ => StoresPlayable) := by
  have h := storedOnly_storesPlayable
  have hkeeps : ∀ {s : Server} {x : Run Server Bool}, StoresPlayable s →
      Preserves StoresPlayable x → Triple (fun t => t = s) x
        (fun _ => StoresPlayable) (fun _ => StoresPlayable) :=
    fun hs hx => hx.of_eq hs
  refine Triple.get_bind_eq fun s hs => ?_
  cases s.currentState with
  | IDLE => exact (storesPlayable_idleMode c).of_eq hs
  | CHASE => exact hkeeps hs.1 (h.modeless.chaseMode c)
  | LIGHT_SELECTION => exact hkeeps hs.1 (h.modeless.lightSelectionMode c)
  | CONTROL_SELECTION =>
      exact hkeeps hs.1 (h.modeless.controlSelectionMode c)
  | COLOR_WHEEL =>
      exact hkeeps hs.1 (h.modeless.colorWheelMode colorConverter c)
  | DMX => exact hkeeps hs.1 (h.modeless.dmxMode c)
  | PRESET => exact hkeeps hs.1 (h.modeless.presetMode c)
  | PARTY => exact hkeeps hs.1 (h.modeless.gyroMode _ _ c)
  | SCARY => exact hkeeps hs.1 (h.modeless.gyroMode _ _ c)

theorem Valid.ground (h : Valid s) : Ground s := by
  obtain ⟨mode, hsteered, -⟩ := h
  exact hsteered.ground

theorem Ground.setMode (h : Ground s) (mode : Mode) :
    Ground { s with currentState := mode } :=
  ⟨h.usable, h.bytes, h.light, h.preset, h.delay, h.steps, h.scenes,
    h.selected⟩

theorem storesPlayable_processCommand (colorConverter : XYConverter)
    (random : ℕ → Color) (command : WirelessCommand) :
    Triple (fun s => StoresPlayable s ∧ Ground s)
      (processCommand colorConverter random command)
      (fun _ => StoresPlayable) (fun _ => StoresPlayable) := by
  have hdebug : Triple (fun s => StoresPlayable s ∧ Ground s)
      (debugSwitch command.parse.2)
      (fun _ s => StoresPlayable s ∧ Ground s) (fun _ => StoresPlayable) :=
    Triple.ite (fun _ s h => ⟨h.1, h.2.setMode _⟩)
      fun _ => Triple.pure fun _ h => h
  refine Triple.ite (fun _ => hdebug.bind fun konami => ?_) fun _ =>
    Triple.pure fun _ h => h.1
  refine (storesPlayable_mainSwitch colorConverter random _).bind fun beat =>
    Triple.ite (fun _ => ?_) fun _ => Triple.pure fun _ h => h
  exact storedOnly_storesPlayable.modeless.sendHeartbeat

end Server

namespace Process

open Server

variable {colorConverter : XYConverter} {p : Process} {e : Event}

/-- A step keeps the stored scenes showable. -/
theorem while_storesPlayable_step (hvalid : While Valid p)
    (h : While StoresPlayable p) :
    While StoresPlayable (step colorConverter p e) := by
  cases e with
  | packet random receiveData =>
      have hpre : While (fun s => StoresPlayable s ∧ Ground s) p :=
        fun hended => ⟨h hended, Valid.ground (hvalid hended)⟩
      exact while_step hpre
        ((storesPlayable_processCommand colorConverter random _).conseq
          (fun _ hs => hs) (fun _ _ hs => hs) fun _ _ _ => trivial)
        fun _ => h
  | tick k i =>
      exact while_step h
        (storedOnly_storesPlayable.working.ticks.tick k i).leads fun _ => h

end Process

end ChuckLight
