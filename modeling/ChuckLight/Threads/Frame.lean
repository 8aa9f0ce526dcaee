import ChuckLight.Threads.Edits

/-!
# What the parts of the server loop leave alone

Most methods of the loop change the fixtures, the live scene, the objects of
workers and some plain fields, but neither the mode nor the stored scenes nor
which workers there are.  A frame is an invariant that ignores the former.
-/

namespace ChuckLight.Server

open Java SceneManager

/-- The invariant ignores the fixtures, the live scene, the objects of workers
and the plain fields. -/
structure Frame (inv : Server → Prop) : Prop where
  rig : ∀ s r, inv s → inv { s with rig := r }
  scenes : ∀ s (m : SceneManager), m.scenes = s.sceneManager.scenes →
    m.file = s.sceneManager.file → inv s → inv { s with sceneManager := m }
  object : ∀ s k i stage, inv s → inv (store k i stage s)
  fields : ∀ s selectedLights delay light preset channel canChangeDMX, inv s →
    inv { s with
      selectedLights := selectedLights
      chaseSceneDelay := delay
      currentLightIndex := light
      currentPresetIndex := preset
      currentChannelIndex := channel
      canChangeDMX := canChangeDMX }

/-! ## The scene manager -/

/-- The method does not change the stored scenes. -/
def KeepsStored {α : Type} (x : Run SceneManager α) : Prop :=
  ∀ scenes file, Preserves
    (fun m : SceneManager => m.scenes = scenes ∧ m.file = file) x

theorem keepsStored_setIndex (index : ℤ) : KeepsStored (setIndex index) :=
  fun _ _ => Preserves.modify fun _ h => h

theorem keepsStored_setCurrentScene (dmxVals : Scene) :
    KeepsStored (setCurrentScene dmxVals) :=
  fun _ _ => Preserves.modify fun _ h => h

theorem keepsStored_getCurrentScene : KeepsStored getCurrentScene :=
  fun _ _ => Preserves.get_bind fun _ => Preserves.pure _

theorem keepsStored_getScene (index : ℤ) : KeepsStored (getScene index) :=
  fun _ _ => Preserves.get_bind fun _ => Preserves.orThrow _ _

theorem keepsStored_getNextScene : KeepsStored getNextScene :=
  fun scenes file => Preserves.get_bind fun _ =>
    (keepsStored_setIndex _ scenes file).bind fun _ =>
      Preserves.get_bind fun _ => Preserves.ite
        ((keepsStored_setIndex _ scenes file).bind fun _ =>
          keepsStored_getCurrentScene scenes file)
        (keepsStored_getScene _ scenes file)

theorem keepsStored_getLastScene : KeepsStored getLastScene :=
  fun scenes file => Preserves.get_bind fun _ => Preserves.ite
    ((keepsStored_setIndex _ scenes file).bind fun _ =>
      keepsStored_getScene _ scenes file)
    (Preserves.get_bind fun _ =>
      (keepsStored_setIndex _ scenes file).bind fun _ =>
        Preserves.get_bind fun _ => Preserves.ite
          ((keepsStored_setIndex _ scenes file).bind fun _ =>
            keepsStored_getCurrentScene scenes file)
          (keepsStored_getScene _ scenes file))

/-! ## Methods of the loop -/

namespace Frame

variable {inv : Server → Prop} (h : Frame inv) {α : Type}

include h

/-- What edits leave alone. -/
theorem edits : Edits inv where
  rig := fun s r _ hs => h.rig s r hs
  object := fun s k i stage _ _ _ hs => h.object s k i stage hs
  fields := fun s selectedLights delay preset channel canChangeDMX hs =>
    h.fields s selectedLights delay s.currentLightIndex preset channel
      canChangeDMX hs

theorem onRig (x : Run Rig α) : Preserves inv (onRig x) :=
  Preserves.zoom x h.rig

theorem onScenes {x : Run SceneManager α} (hx : KeepsStored x) :
    Preserves inv (onScenes x) := by
  intro s hs
  have hkept := hx s.sceneManager.scenes s.sceneManager.file
  unfold Server.onScenes Java.zoom
  cases hrun : x s.sceneManager with
  | ok a m =>
      obtain ⟨hscenes, hfile⟩ := hkept.of_ok ⟨rfl, rfl⟩ hrun
      exact h.scenes s m hscenes hfile hs
  | error e m =>
      obtain ⟨hscenes, hfile⟩ := hkept.of_error ⟨rfl, rfl⟩ hrun
      exact h.scenes s m hscenes hfile hs

theorem onHighlight (x : Run (Stage HighlightThread) α) :
    Preserves inv (onHighlight x) :=
  (preserves_deref .highlight).bind fun p => Preserves.zoom x fun s stage =>
    h.object s .highlight p.1 stage

theorem modifyLightIndex (f : Server → ℤ) :
    Preserves inv (modify fun s => { s with currentLightIndex := f s }) :=
  Preserves.modify fun s hs => h.fields s s.selectedLights s.chaseSceneDelay
    (f s) s.currentPresetIndex s.currentChannelIndex s.canChangeDMX hs

theorem recallScene {x : Run SceneManager Scene} (hx : KeepsStored x) :
    Preserves inv (recallScene x) :=
  h.edits.recallScene (h.onScenes hx)

theorem saveScene : Preserves inv saveScene :=
  Shown.saveScene fun _ => h.onScenes (keepsStored_setCurrentScene _)

theorem leaveLight : Preserves inv leaveLight :=
  h.edits.currentLight.bind fun _ => (h.onRig _).bind fun _ => Preserves.ite
    ((h.onHighlight _).bind fun _ => h.edits.revertScene.bind fun _ =>
      h.onHighlight _) (Preserves.pure _)

theorem moveLightIndex : Preserves inv moveLightIndex :=
  (h.modifyLightIndex _).bind fun _ => Preserves.get_bind fun _ =>
    Preserves.ite (h.modifyLightIndex _) (Preserves.pure _)

theorem enterLight : Preserves inv enterLight :=
  h.edits.currentLight.bind fun _ => (h.onRig _).bind fun _ =>
    Preserves.ite (h.onHighlight _) (Preserves.pure _)

theorem stepLight : Preserves inv stepLight :=
  h.leaveLight.bind fun _ => h.moveLightIndex.bind fun _ => h.enterLight

theorem toggleLight : Preserves inv toggleLight :=
  h.edits.currentLight.bind fun _ => (h.onRig _).bind fun _ =>
    Preserves.ite (h.onRig _) (h.onRig _)

theorem recallCurrent : Preserves inv recallCurrent :=
  h.edits.recallCurrent fun _ => h.onScenes (keepsStored_setCurrentScene _)

end Frame

end ChuckLight.Server
