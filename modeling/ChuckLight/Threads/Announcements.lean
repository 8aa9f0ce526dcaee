import ChuckLight.Threads.Steady

/-!
# A change of the mode is announced

Every handler of the loop returns whether a heartbeat is due.  It says so
whenever it changes the mode, and leaves the heartbeats to the loop.
-/

namespace ChuckLight.Server

open Java Connection SceneManager

/-- The heartbeats so far. -/
def Logs (log : List Int8) (s : Server) : Prop := s.heartbeats = log

/-- The mode and the heartbeats so far. -/
def Silent (mode : Mode) (log : List Int8) (s : Server) : Prop :=
  s.currentState = mode ∧ s.heartbeats = log

theorem steady_logs (log : List Int8) : Steady (Logs log) where
  rig := fun _ _ h => h
  scenes := fun _ _ _ _ h => h
  object := fun _ _ _ _ h => h
  fields := fun _ _ _ _ _ _ _ h => h
  control := fun _ _ _ h => h

theorem steady_silent (mode : Mode) (log : List Int8) :
    Steady (Silent mode log) where
  rig := fun _ _ h => h
  scenes := fun _ _ _ _ h => h
  object := fun _ _ _ _ h => h
  fields := fun _ _ _ _ _ _ _ h => h
  control := fun _ _ _ h => h

variable {mode : Mode} {log : List Int8}

theorem silent_onScenes {α : Type} (x : Run SceneManager α) :
    Preserves (Silent mode log) (onScenes x) :=
  Preserves.zoom x fun _ _ h => h

theorem logs_setState (mode : Mode) : Preserves (Logs log) (setState mode) :=
  Preserves.modify fun _ h => h

/-! ## Handlers -/

/-- The method says so if it has changed the mode, and adds no heartbeat. -/
def Announces (x : Run Server Bool) : Prop :=
  ∀ mode log, Triple (Silent mode log) x
    (fun beat s => Logs log s ∧ (beat = false → s.currentState = mode))
    (fun _ _ => True)

namespace Announces

theorem ite {c : Prop} [Decidable c] {x y : Run Server Bool}
    (hx : Announces x) (hy : Announces y) : Announces (if c then x else y) :=
  fun mode log => Triple.ite (fun _ => hx mode log) fun _ => hy mode log

theorem get_bind {f : Server → Run Server Bool} (h : ∀ s, Announces (f s)) :
    Announces (MonadState.get >>= f) :=
  fun mode log => Triple.get_bind fun s _ => h s mode log

theorem pure (beat : Bool) : Announces (Pure.pure beat) :=
  fun _ _ => Triple.pure fun _ h => ⟨h.2, fun _ => h.1⟩

/-- First a method that keeps the mode. -/
theorem bind {α : Type} {x : Run Server α} {f : α → Run Server Bool}
    (hx : ∀ mode log, Preserves (Silent mode log) x)
    (hf : ∀ a, Announces (f a)) : Announces (x >>= f) :=
  fun mode log => Triple.bind (hx mode log).leads fun a => hf a mode log

end Announces

/-- The method makes a heartbeat due, and adds none. -/
def Due (x : Run Server Bool) : Prop :=
  ∀ log, Triple (Logs log) x (fun beat s => Logs log s ∧ beat = true)
    (fun _ _ => True)

namespace Due

theorem pure : Due (Pure.pure true) :=
  fun _ => Triple.pure fun _ h => ⟨h, rfl⟩

theorem bind {α : Type} {x : Run Server α} {f : α → Run Server Bool}
    (hx : ∀ log, Preserves (Logs log) x) (hf : ∀ a, Due (f a)) :
    Due (x >>= f) :=
  fun log => Triple.bind (hx log).leads fun a => hf a log

theorem get_bind {f : Server → Run Server Bool} (h : ∀ s, Due (f s)) :
    Due (MonadState.get >>= f) :=
  fun log => Triple.get_bind fun s _ => h s log

theorem announces {x : Run Server Bool} (h : Due x) : Announces x :=
  fun _ log => (h log).conseq (fun _ hs => hs.2)
    (fun _ _ hs => ⟨hs.1, fun hbeat => nomatch hbeat.symm.trans hs.2⟩)
    fun _ _ _ => trivial

end Due

/-! ## Modes -/

theorem announces_chaseMode (c : WirelessCommand) :
    Announces (chaseMode c) := by
  refine .ite (.pure _) (.ite ?_ (.ite ?_ (.ite ?_ (.pure _))))
  · exact .bind (fun _ _ => (steady_silent _ _).edits.raiseDelay) fun _ =>
      .pure _
  · exact .bind (fun _ _ => (steady_silent _ _).edits.lowerDelay) fun _ =>
      .pure _
  · exact Due.announces <| .bind (fun _ => logs_setState _) fun _ =>
      .bind (fun _ => (steady_logs _).working.redrum .chase) fun _ =>
        .bind (fun _ => (steady_logs _).edits.revertScene) fun _ => .pure

theorem announces_enterChase : Announces enterChase := by
  refine .get_bind fun _ => .ite (Due.announces ?_) (.pure _)
  exact .bind (fun _ => logs_setState _) fun _ =>
    .bind (fun _ => (steady_logs _).working.startChase) fun _ => .pure

theorem announces_idleMode (c : WirelessCommand) :
    Announces (idleMode c) := by
  refine .ite (.pure _) (.ite ?_ (.ite ?_ (.ite ?_ (.ite ?_ (.ite ?_
    (.ite ?_ (.ite ?_ (.ite ?_ (.ite ?_ (.pure _))))))))))
  · exact .bind (fun _ _ => (steady_silent _ _).recallScene
      keepsStored_getLastScene) fun _ => .pure _
  · exact .bind (fun _ _ => (steady_silent _ _).recallScene
      keepsStored_getNextScene) fun _ => .pure _
  · exact .bind (fun _ _ => (steady_silent _ _).recallCurrent) fun _ =>
      .pure _
  · exact Due.announces <| .bind (fun _ => logs_setState _) fun _ =>
      .bind (fun _ => (steady_logs _).saveScene) fun _ =>
        .bind (fun _ => (steady_logs _).working.startHighlight) fun _ => .pure
  · exact announces_enterChase
  · exact .bind (fun _ _ => Shown.storeScene silent_onScenes) fun _ => .pure _
  · exact .bind (fun _ _ => (steady_silent _ _).edits.dropScene
      silent_onScenes) fun _ => .pure _
  · exact Due.announces <| .bind (fun _ => logs_setState _) fun _ => .pure
  · exact Due.announces <| .bind (fun _ => logs_setState _) fun _ => .pure

theorem announces_lightSelectionMode (c : WirelessCommand) :
    Announces (lightSelectionMode c) := by
  have hsteady := steady_silent
  have hlogs := steady_logs
  refine .ite (.pure _) (.ite ?_ (.ite ?_ (.ite ?_ (.ite ?_ (.ite ?_
    (.ite ?_ (.pure _)))))))
  · exact .bind (fun _ _ => (hsteady _ _).stepLight) fun _ => .pure _
  · exact .bind (fun _ _ => (hsteady _ _).stepLight) fun _ => .pure _
  · exact .bind (fun _ _ => (hsteady _ _).toggleLight) fun _ => .pure _
  · exact .bind (fun _ _ => (hsteady _ _).onRig _) fun _ =>
      .bind (fun _ _ => (hsteady _ _).edits.currentLight) fun _ =>
        .bind (fun _ _ => (hsteady _ _).onHighlight _) fun _ => .pure _
  · exact Due.announces <| .bind (fun _ => logs_setState _) fun _ =>
      .bind (fun _ => (hlogs _).working.takeSelection) fun _ =>
        .bind (fun _ => (hlogs _).onRig _) fun _ =>
          .bind (fun _ => (hlogs _).edits.revertScene) fun _ =>
            .bind (fun _ => (hlogs _).working.setControlIndex _) fun _ =>
              .bind (fun _ => (hlogs _).working.startPresetVisual)
                fun _ => .pure
  · exact Due.announces <| .bind (fun _ => (hlogs _).working.redrumHighlight)
      fun _ => .bind (fun _ => (hlogs _).onRig _) fun _ =>
        .bind (fun _ => (hlogs _).edits.revertScene) fun _ =>
          .bind (fun _ => logs_setState _) fun _ => .pure

theorem logs_controlEnter (log : List Int8) (index : ℤ) :
    Preserves (Logs log) (controlEnter index) := by
  have hlogs := steady_logs log
  refine Preserves.ite ?_ (Preserves.ite ?_ (Preserves.ite ?_ ?_))
  · exact (hlogs.working.redrum .dmxVisual).bind fun _ =>
      hlogs.edits.revertScene.bind fun _ =>
        (hlogs.edits.modifyChannelIndex _).bind fun _ => logs_setState _
  · exact (hlogs.working.redrum .rainbowVisual).bind fun _ => logs_setState _
  · exact (hlogs.working.redrum .presetVisual).bind fun _ => logs_setState _
  · exact Preserves.pure _

theorem announces_controlSelectionMode (c : WirelessCommand) :
    Announces (controlSelectionMode c) := by
  have hsteady := steady_silent
  have hlogs := steady_logs
  refine .ite (.pure _) (.ite ?_ (.ite ?_ (.ite ?_ (.ite ?_ (.pure _)))))
  · exact .get_bind fun _ => .bind
      (fun _ _ => (hsteady _ _).working.controlLeft _) fun _ => .pure _
  · exact .get_bind fun _ => .bind
      (fun _ _ => (hsteady _ _).working.controlRight _) fun _ => .pure _
  · exact .get_bind fun _ => Due.announces <|
      .bind (fun log => logs_controlEnter log _) fun _ => .pure
  · exact Due.announces <| .bind (fun _ => logs_setState _) fun _ =>
      .get_bind fun _ =>
        .bind (fun _ => (hlogs _).working.redrumControl _) fun _ =>
          .bind (fun _ => (hlogs _).edits.revertScene) fun _ =>
            .bind (fun _ => (hlogs _).working.startHighlight) fun _ => .pure

theorem logs_confirm (log : List Int8) : Preserves (Logs log) confirm :=
  (steady_logs log).saveScene.bind fun _ => (logs_setState _).bind fun _ =>
    (steady_logs log).working.startHighlight

theorem announces_colorWheelMode (colorConverter : XYConverter)
    (c : WirelessCommand) : Announces (colorWheelMode colorConverter c) := by
  refine .ite (.ite ?_ (.ite ?_ (.pure _))) (.ite ?_ (.pure _))
  · exact Due.announces <| .bind logs_confirm fun _ => .pure
  · exact Due.announces <| .bind (fun _ => logs_setState _) fun _ =>
      .bind (fun _ => (steady_logs _).working.startRainbow) fun _ => .pure
  · exact .bind (fun _ _ => Preserves.orThrow _ _) fun _ =>
      .bind (fun _ _ => (steady_silent _ _).edits.showColor _ _ _) fun _ =>
          .pure _

theorem announces_dmxMode (c : WirelessCommand) : Announces (dmxMode c) := by
  have hsteady := steady_silent
  refine .ite (.pure _) (.ite ?_ (.ite ?_ (.ite ?_ (.ite ?_ (.ite ?_
    (.ite ?_ (.ite ?_ (.pure _))))))))
  · exact .bind (fun _ _ => (hsteady _ _).edits.channelLeft) fun _ => .pure _
  · exact .bind (fun _ _ => (hsteady _ _).edits.channelRight) fun _ => .pure _
  · exact .bind (fun _ _ => (hsteady _ _).edits.changeChannel _ _) fun _ =>
      .pure _
  · exact .bind (fun _ _ => (hsteady _ _).edits.changeChannel _ _) fun _ =>
      .pure _
  · exact Due.announces <| .bind logs_confirm fun _ => .pure
  · exact Due.announces <| .bind (fun _ => logs_setState _) fun _ =>
      .bind (fun _ => (steady_logs _).edits.revertScene) fun _ =>
        .bind (fun _ => (steady_logs _).working.startDMXVisual) fun _ => .pure
  · exact .bind (fun _ _ => (hsteady _ _).edits.clearLights) fun _ => .pure _

theorem announces_presetMode (c : WirelessCommand) :
    Announces (presetMode c) := by
  have hsteady := steady_silent
  refine .ite ?_ (.ite ?_ (.ite ?_ (.ite ?_ (.pure _))))
  · exact .bind (fun _ _ => (hsteady _ _).edits.presetLeft) fun _ =>
      .bind (fun _ _ => (hsteady _ _).edits.showPreset) fun _ => .pure _
  · exact .bind (fun _ _ => (hsteady _ _).edits.presetRight) fun _ =>
      .bind (fun _ _ => (hsteady _ _).edits.showPreset) fun _ => .pure _
  · exact Due.announces <| .bind logs_confirm fun _ => .pure
  · exact Due.announces <| .bind (fun _ => logs_setState _) fun _ =>
      .bind (fun _ => (steady_logs _).working.startPresetVisual) fun _ => .pure

theorem announces_gyroMode (dimmer : Int32 → Int32) (color : ℕ → Color)
    (c : WirelessCommand) : Announces (gyroMode dimmer color c) := by
  refine .ite (.ite ?_ (.pure _)) (.ite ?_ (.pure _))
  · exact Due.announces <| .bind (fun _ => logs_setState _) fun _ => .pure
  · exact .bind (fun _ _ => (steady_silent _ _).edits.showAll _ _) fun _ =>
      .pure _

theorem announces_mainSwitch (colorConverter : XYConverter)
    (random : ℕ → Color) (c : WirelessCommand) :
    Announces (mainSwitch colorConverter random c) := by
  refine .get_bind fun s => ?_
  cases s.currentState with
  | CHASE => exact announces_chaseMode c
  | IDLE => exact announces_idleMode c
  | LIGHT_SELECTION => exact announces_lightSelectionMode c
  | CONTROL_SELECTION => exact announces_controlSelectionMode c
  | COLOR_WHEEL => exact announces_colorWheelMode colorConverter c
  | DMX => exact announces_dmxMode c
  | PRESET => exact announces_presetMode c
  | PARTY => exact announces_gyroMode partyDimmer random c
  | SCARY => exact announces_gyroMode scaryDimmer _ c

theorem announces_debugSwitch (c : WirelessCommand) :
    Announces (debugSwitch c) := by
  refine .ite (Due.announces ?_) (.pure _)
  exact .bind (fun _ => logs_setState _) fun _ => .pure

/-! ## A round of the loop -/

/-- After the round the mode is the one before it and no heartbeat was due, or
the last heartbeat is the mode. -/
def Announced (mode : Mode) (log : List Int8) (s : Server) : Prop :=
  Silent mode log s ∨ s.heartbeats = log ++ [s.currentState.toByte]

/-- A method that announces, and the heartbeat that it makes due. -/
theorem triple_sendHeartbeat (log : List Int8) :
    Triple (Logs log) sendHeartbeat
      (fun _ s => s.heartbeats = log ++ [s.currentState.toByte])
      (fun _ _ => True) :=
  Triple.modify fun s h => congrArg (· ++ [s.currentState.toByte]) h

theorem triple_processCommand_announced (colorConverter : XYConverter)
    (random : ℕ → Color) (command : WirelessCommand) (mode : Mode)
    (log : List Int8) :
    Triple (Silent mode log) (processCommand colorConverter random command)
      (fun _ => Announced mode log) (fun _ _ => True) := by
  by_cases hinterprets : Interprets command
  · rw [processCommand_of_interprets hinterprets]
    refine Triple.bind (announces_debugSwitch _ mode log) fun konami => ?_
    cases konami with
    | false =>
        have hpre : Triple (Silent mode log)
            (mainSwitch colorConverter random command.parse.2)
            (fun beat s => Logs log s ∧
              (beat = false → s.currentState = mode)) (fun _ _ => True) :=
          announces_mainSwitch colorConverter random _ mode log
        refine Triple.bind (hpre.conseq (fun s h => ⟨h.2 rfl, h.1⟩)
          (fun _ _ h => h) (fun _ _ h => h)) fun beat => ?_
        cases beat with
        | false => exact Triple.pure fun s h => .inl ⟨h.2 rfl, h.1⟩
        | true =>
            exact (triple_sendHeartbeat log).conseq (fun _ h => h.1)
              (fun _ _ h => .inr h) fun _ _ h => h
    | true =>
        have hlogs : Triple (Logs log)
            (mainSwitch colorConverter random command.parse.2)
            (fun _ => Logs log) (fun _ _ => True) := fun s hs =>
          ((announces_mainSwitch colorConverter random _ s.currentState
            log).conseq (fun _ h => h) (fun _ _ h => h.1)
              (fun _ _ h => h)) s ⟨rfl, hs⟩
        refine Triple.bind (hlogs.conseq (fun _ h => h.1) (fun _ _ h => h)
          (fun _ _ h => h)) fun beat => ?_
        exact (triple_sendHeartbeat log).conseq (fun _ h => h)
          (fun _ _ h => .inr h) fun _ _ h => h
  · rw [processCommand_of_not_interprets hinterprets]
    exact Triple.pure fun _ h => .inl h

end ChuckLight.Server
