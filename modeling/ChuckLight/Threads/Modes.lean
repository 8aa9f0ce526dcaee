import ChuckLight.Threads.Steady

/-!
# What a round of the loop leaves alone

Some invariants hold in every mode alike: they ignore the mode, what the lights
show, and which of them are selected, and they survive a move of the cursor over
the lights.  A command keeps them whatever the mode is.
-/

namespace ChuckLight.Server

open Java Connection SceneManager

/-! ## The light selection -/

/-- The invariant also ignores which lights are selected, and survives a move of
the cursor over them. -/
structure Marking (inv : Server → Prop) : Prop extends Working inv where
  marks : ∀ s r, s.rig.Marks r → inv s → inv { s with rig := r }
  moveLightIndex : Preserves inv moveLightIndex

namespace Marking

variable {inv : Server → Prop} (h : Marking inv) {α : Type}

include h

theorem onRig_of_marks {x : Run Rig α} (hx : ∀ r : Rig, Preserves r.Marks x) :
    Preserves inv (Server.onRig x) := by
  intro s hs
  unfold Server.onRig Java.zoom
  cases hrun : x s.rig with
  | ok a r => exact h.marks s r ((hx s.rig).of_ok (Rig.Marks.refl _) hrun) hs
  | error e r =>
      exact h.marks s r ((hx s.rig).of_error (Rig.Marks.refl _) hrun) hs

theorem clearSelected : Preserves inv clearSelected :=
  h.onRig_of_marks fun _ => Rig.marks_clearSelected

theorem toggleLight : Preserves inv toggleLight :=
  h.currentLight.bind fun light =>
    (h.onRig (Rig.reads_isSelected light).shows).bind fun _ =>
      Preserves.ite
        (h.onRig_of_marks fun _ => Rig.marks_setSelected light false)
        (h.onRig_of_marks fun _ => Rig.marks_setSelected light true)

theorem stepLight : Preserves inv stepLight :=
  h.leaveLight.bind fun _ => h.moveLightIndex.bind fun _ => h.enterLight

end Marking

/-! ## Modes -/

/-- The invariant also ignores the mode, the heartbeats and the live scene. -/
structure Modeless (inv : Server → Prop) : Prop extends Marking inv where
  mode : ∀ s mode heartbeats, inv s →
    inv { s with currentState := mode, heartbeats := heartbeats }
  saveScene : Preserves inv saveScene

namespace Modeless

variable {inv : Server → Prop} (h : Modeless inv)

include h

theorem setState (mode : Mode) : Preserves inv (setState mode) :=
  Preserves.modify fun s hs => h.mode s mode s.heartbeats hs

theorem sendHeartbeat : Preserves inv sendHeartbeat :=
  Preserves.modify fun s hs => h.mode s s.currentState _ hs

theorem chaseMode (c : WirelessCommand) : Preserves inv (chaseMode c) := by
  refine Preserves.ite (Preserves.pure _) ?_
  refine Preserves.ite (h.raiseDelay.bind fun _ => Preserves.pure _) ?_
  refine Preserves.ite (h.lowerDelay.bind fun _ => Preserves.pure _) ?_
  refine Preserves.ite ?_ (Preserves.pure _)
  exact (h.setState _).bind fun _ => (h.redrum .chase).bind fun _ =>
    h.revertScene.bind fun _ => Preserves.pure _

theorem enterChase : Preserves inv enterChase :=
  Preserves.get_bind fun _ => Preserves.ite
    ((h.setState _).bind fun _ => h.startChase.bind fun _ =>
      Preserves.pure _)
    (Preserves.pure _)

theorem lightSelectionMode (c : WirelessCommand) :
    Preserves inv (lightSelectionMode c) := by
  refine Preserves.ite (Preserves.pure _) ?_
  refine Preserves.ite (h.stepLight.bind fun _ => Preserves.pure _) ?_
  refine Preserves.ite (h.stepLight.bind fun _ => Preserves.pure _) ?_
  refine Preserves.ite (h.toggleLight.bind fun _ => Preserves.pure _) ?_
  refine Preserves.ite ?_ (Preserves.ite ?_ (Preserves.ite ?_ ?_))
  · exact h.clearSelected.bind fun _ => h.currentLight.bind fun light =>
      (h.onHighlight fun _ => HighlightThread.beside_addLight light).bind
        fun _ => Preserves.pure _
  · exact (h.setState _).bind fun _ => h.takeSelection.bind fun _ =>
      h.clearSelected.bind fun _ => h.revertScene.bind fun _ =>
        (h.setControlIndex _).bind fun _ =>
          h.startPresetVisual.bind fun _ => Preserves.pure _
  · exact h.redrumHighlight.bind fun _ => h.clearSelected.bind fun _ =>
      h.revertScene.bind fun _ => (h.setState _).bind fun _ =>
        Preserves.pure _
  · exact Preserves.pure _

theorem controlEnter (index : ℤ) : Preserves inv (controlEnter index) := by
  refine Preserves.ite ?_ (Preserves.ite ?_ (Preserves.ite ?_ ?_))
  · exact (h.redrum .dmxVisual).bind fun _ =>
      h.revertScene.bind fun _ =>
        (h.modifyChannelIndex _).bind fun _ => h.setState _
  · exact (h.redrum .rainbowVisual).bind fun _ => h.setState _
  · exact (h.redrum .presetVisual).bind fun _ => h.setState _
  · exact Preserves.pure _

theorem controlSelectionMode (c : WirelessCommand) :
    Preserves inv (controlSelectionMode c) := by
  refine Preserves.ite (Preserves.pure _) ?_
  refine Preserves.ite (Preserves.get_bind fun _ =>
    (h.controlLeft _).bind fun _ => Preserves.pure _) ?_
  refine Preserves.ite (Preserves.get_bind fun _ =>
    (h.controlRight _).bind fun _ => Preserves.pure _) ?_
  refine Preserves.ite (Preserves.get_bind fun _ =>
    (h.controlEnter _).bind fun _ => Preserves.pure _) ?_
  refine Preserves.ite ?_ (Preserves.pure _)
  exact (h.setState _).bind fun _ => Preserves.get_bind fun _ =>
    (h.redrumControl _).bind fun _ => h.revertScene.bind fun _ =>
      h.startHighlight.bind fun _ => Preserves.pure _

theorem confirm : Preserves inv confirm :=
  h.saveScene.bind fun _ => (h.setState _).bind fun _ =>
    h.startHighlight

theorem colorWheelMode (colorConverter : XYConverter) (c : WirelessCommand) :
    Preserves inv (colorWheelMode colorConverter c) := by
  refine Preserves.ite (Preserves.ite ?_ (Preserves.ite ?_ ?_))
    (Preserves.ite ?_ (Preserves.pure _))
  · exact h.confirm.bind fun _ => Preserves.pure _
  · exact (h.setState _).bind fun _ => h.startRainbow.bind fun _ =>
      Preserves.pure _
  · exact Preserves.pure _
  · exact (Preserves.orThrow _ _).bind fun _ =>
      (h.showColor colorConverter _ _).bind fun _ => Preserves.pure _

theorem dmxMode (c : WirelessCommand) : Preserves inv (dmxMode c) := by
  refine Preserves.ite (Preserves.pure _) ?_
  refine Preserves.ite (h.channelLeft.bind fun _ => Preserves.pure _) ?_
  refine Preserves.ite (h.channelRight.bind fun _ => Preserves.pure _) ?_
  refine Preserves.ite ((h.changeChannel _ _).bind fun _ =>
    Preserves.pure _) ?_
  refine Preserves.ite ((h.changeChannel _ _).bind fun _ =>
    Preserves.pure _) ?_
  refine Preserves.ite (h.confirm.bind fun _ => Preserves.pure _) ?_
  refine Preserves.ite ?_ (Preserves.ite (h.clearLights.bind fun _ =>
    Preserves.pure _) (Preserves.pure _))
  exact (h.setState _).bind fun _ => h.revertScene.bind fun _ =>
    h.startDMXVisual.bind fun _ => Preserves.pure _

theorem presetMode (c : WirelessCommand) : Preserves inv (presetMode c) := by
  refine Preserves.ite (h.presetLeft.bind fun _ =>
    h.showPreset.bind fun _ => Preserves.pure _) ?_
  refine Preserves.ite (h.presetRight.bind fun _ =>
    h.showPreset.bind fun _ => Preserves.pure _) ?_
  refine Preserves.ite (h.confirm.bind fun _ => Preserves.pure _) ?_
  exact Preserves.ite ((h.setState _).bind fun _ =>
    h.startPresetVisual.bind fun _ => Preserves.pure _)
    (Preserves.pure _)

theorem gyroMode (dimmer : Int32 → Int32) (color : ℕ → Color)
    (c : WirelessCommand) : Preserves inv (gyroMode dimmer color c) :=
  Preserves.ite
    (Preserves.ite ((h.setState _).bind fun _ => Preserves.pure _)
      (Preserves.pure _))
    (Preserves.ite ((h.showAll _ _).bind fun _ => Preserves.pure _)
      (Preserves.pure _))

/-! ## Rounds -/

/-- The idle mode, for an invariant that also ignores the stored scenes. -/
theorem idleMode
    (hscenes : ∀ {α : Type} (x : Run SceneManager α),
      Preserves inv (onScenes x)) (c : WirelessCommand) :
    Preserves inv (idleMode c) := by
  refine Preserves.ite (Preserves.pure _) ?_
  refine Preserves.ite ((h.recallScene (hscenes _)).bind fun _ =>
    Preserves.pure _) ?_
  refine Preserves.ite ((h.recallScene (hscenes _)).bind fun _ =>
    Preserves.pure _) ?_
  refine Preserves.ite ((h.recallCurrent fun _ => hscenes _).bind fun _ =>
    Preserves.pure _) ?_
  refine Preserves.ite ?_ (Preserves.ite h.enterChase ?_)
  · exact (h.setState _).bind fun _ => h.saveScene.bind fun _ =>
      h.startHighlight.bind fun _ => Preserves.pure _
  refine Preserves.ite ((Shown.storeScene fun _ => hscenes _).bind fun _ =>
    Preserves.pure _) ?_
  refine Preserves.ite ((h.dropScene fun _ => hscenes _).bind fun _ =>
    Preserves.pure _) ?_
  exact Preserves.ite ((h.setState _).bind fun _ => Preserves.pure _)
    (Preserves.ite ((h.setState _).bind fun _ => Preserves.pure _)
      (Preserves.pure _))

theorem mainSwitch (colorConverter : XYConverter) (random : ℕ → Color)
    {c : WirelessCommand} (hidle : Preserves inv (Server.idleMode c)) :
    Preserves inv (mainSwitch colorConverter random c) := by
  refine Preserves.get_bind fun s => ?_
  cases s.currentState with
  | CHASE => exact h.chaseMode c
  | IDLE => exact hidle
  | LIGHT_SELECTION => exact h.lightSelectionMode c
  | CONTROL_SELECTION => exact h.controlSelectionMode c
  | COLOR_WHEEL => exact h.colorWheelMode colorConverter c
  | DMX => exact h.dmxMode c
  | PRESET => exact h.presetMode c
  | PARTY => exact h.gyroMode _ _ c
  | SCARY => exact h.gyroMode _ _ c

theorem debugSwitch (c : WirelessCommand) : Preserves inv (debugSwitch c) :=
  Preserves.ite ((h.setState _).bind fun _ => Preserves.pure _)
    (Preserves.pure _)

theorem processCommand (colorConverter : XYConverter) (random : ℕ → Color)
    {command : WirelessCommand}
    (hidle : Preserves inv (Server.idleMode command.parse.2)) :
    Preserves inv (processCommand colorConverter random command) :=
  Preserves.ite
    ((h.debugSwitch _).bind fun _ =>
      (h.mainSwitch colorConverter random hidle).bind fun _ =>
        Preserves.ite h.sendHeartbeat (Preserves.pure _))
    (Preserves.pure _)

end Modeless

end ChuckLight.Server
