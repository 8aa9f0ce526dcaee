import ChuckLight.Threads.Below
import ChuckLight.Threads.Modes

/-!
# Cancelling

The light selection saves the look that it finds.  Until a change is
confirmed, the only way back to the idle mode shows that look again.
-/

namespace ChuckLight

open Java Connection LightingDefines

/-- Without faults, a bulk write that returns shows its values. -/
theorem DefaultDMX.triple_setAllDMX_shows (values : List Int32) :
    Triple NoFault (setAllDMX values)
      (fun _ d => NoFault d ∧
        ∀ a : Fin 513, 1 ≤ (a : ℕ) → d.dmxShadow a = values.getD a 0)
      (fun e d => NoFault d ∧ ¬ e.IsIOException) := by
  intro d hd
  cases hrun : setAllDMX values d with
  | error e d' => exact (quiet_setAllDMX values).of_error hd hrun
  | ok u d' =>
      have hgroups := Call.run_eq_of_ok (c := .setAllDMX values) hrun
      rw [runGroups_of_accepts (accepts_of_runGroups_eq_ok hgroups) hd]
        at hgroups
      injection hgroups with _ hd'
      subst hd'
      refine ⟨hd.storeGroups _, fun a ha => ?_⟩
      rw [dmxShadow_storeGroups, Call.latest_groups, Call.supplies, if_pos ha]
      rfl

namespace Server

/-! ## The saved look -/

/-- The modes from the light selection down. -/
def Selects (mode : Mode) : Prop :=
  mode ∈ [.LIGHT_SELECTION, .CONTROL_SELECTION, .COLOR_WHEEL, .DMX, .PRESET]

instance (mode : Mode) : Decidable (Selects mode) :=
  inferInstanceAs (Decidable (_ ∈ _))

/-- The server is in a mode and has saved a look, and no future write of the
driver fails. -/
structure Inside (look : Scene) (mode : Mode) (s : Server) : Prop where
  state : s.currentState = mode
  scene : s.sceneManager.currentScene = look
  noFault : s.rig.dmx.NoFault

/-- The driver holds the look at the addresses 1 to 512. -/
def Shows (look : Scene) (s : Server) : Prop :=
  ∀ a : Fin 513, 1 ≤ (a : ℕ) → s.rig.dmx.dmxShadow a = look.getD a 0

/-- The server is back in the idle mode and shows the look. -/
structure Returned (look : Scene) (s : Server) : Prop where
  state : s.currentState = .IDLE
  shows : Shows look s

/-- The server has the look saved, or shows it again. -/
def Remembers (look : Scene) (s : Server) : Prop :=
  (∃ mode, Selects mode ∧ Inside look mode s) ∨ Returned look s

variable {look : Scene} {mode : Mode} {s : Server} {α : Type}

theorem working_inside : Working (Inside look mode) where
  rig := fun _ _ hr h => ⟨h.state, h.scene, hr.noFault h.noFault⟩
  object := fun _ _ _ _ _ _ hstage h =>
    ⟨h.state, h.scene, hstage.rig.noFault h.noFault⟩
  fields := fun _ _ _ _ _ _ h => ⟨h.state, h.scene, h.noFault⟩
  slots := fun _ _ h => ⟨h.state, h.scene, h.noFault⟩
  control := fun _ _ h => ⟨h.state, h.scene, h.noFault⟩

theorem leads_setState_inside (mode' : Mode) :
    Leads (Inside look mode) (setState mode') (Inside look mode') :=
  Leads.modify fun _ h => ⟨rfl, h.scene, h.noFault⟩

theorem marking_inside : Marking (Inside look mode) where
  toWorking := working_inside
  marks := fun _ _ hr h => ⟨h.state, h.scene, hr.dmx ▸ h.noFault⟩
  moveLightIndex :=
    (Preserves.modify fun _ h => ⟨h.state, h.scene, h.noFault⟩).bind fun _ =>
      Preserves.get_bind fun _ => Preserves.ite
        (Preserves.modify fun _ h => ⟨h.state, h.scene, h.noFault⟩)
        (Preserves.pure _)

/-- The look is written to the driver, and the lights take it over. -/
theorem leads_revertScene_shows :
    Leads (Inside look mode) revertScene
      (fun s => Inside look mode s ∧ Shows look s) := by
  have hwrite : Leads (Inside look mode)
      ( tryIO do
        let scene ← onScenes SceneManager.getCurrentScene
        onRig (Rig.callDmx (DefaultDMX.setAllDMX scene)))
      (fun s => Inside look mode s ∧ Shows look s) := by
    intro s h
    have hget : onScenes SceneManager.getCurrentScene s = .ok look s := by
      rw [← h.scene]
      rfl
    have hset := DefaultDMX.triple_setAllDMX_shows look
    unfold tryIO catchIOException
    rw [bind_of_ok hget]
    unfold onRig Rig.callDmx Java.zoom
    cases hrun : DefaultDMX.setAllDMX look s.rig.dmx with
    | ok u d =>
        obtain ⟨hfault, hshows⟩ := hset.of_ok h.noFault hrun
        exact ⟨⟨h.state, h.scene, hfault⟩, hshows⟩
    | error e d =>
        obtain ⟨-, hio⟩ := hset.of_error h.noFault hrun
        cases e with
        | exited => trivial
        | blocked => trivial
        | thrown t =>
            cases t with
            | ioException message => exact absurd ⟨message, rfl⟩ hio
            | _ => trivial
  refine hwrite.bind fun _ => Leads.get_bind fun s _ => ?_
  cases s.selectedLights with
  | none => exact Leads.pure _ fun _ h => h
  | some lights =>
      refine (Preserves.forM fun light _ t h => ?_).leads
      have hsync := Rig.preserves_callLight_dmx (J := fun d => d = t.rig.dmx)
        (Light.dmx_syncLight _) light
      have hkept : ∀ r : Rig, r.dmx = t.rig.dmx →
          Inside look mode { t with rig := r } ∧
            Shows look { t with rig := r } := fun r hr =>
        ⟨⟨h.1.state, h.1.scene, hr ▸ h.1.noFault⟩, fun a ha => by
          rw [← h.2 a ha, ← hr]⟩
      unfold onRig Java.zoom
      cases hrun : Rig.callLight light Light.syncLight t.rig with
      | ok u r => exact hkept r (hsync.of_ok rfl hrun)
      | error e r => exact hkept r (hsync.of_error rfl hrun)

/-! ## Modes -/

theorem Inside.remembers (h : Inside look mode s) (hmode : Selects mode) :
    Remembers look s := .inl ⟨mode, hmode, h⟩

theorem remembers_of_preserves {x : Run Server α} (hmode : Selects mode)
    (hx : Preserves (Inside look mode) x) :
    Leads (Inside look mode) x (Remembers look) :=
  hx.leads.mono fun _ h => h.remembers hmode

/-- A method that stays in the mode, and the result of the handler. -/
theorem remembers_stay {x : Run Server Unit} {beat : Bool}
    (hmode : Selects mode) (hx : Preserves (Inside look mode) x) :
    Leads (Inside look mode) (do x; return beat) (Remembers look) :=
  (remembers_of_preserves hmode hx).returning

theorem remembers_pure {beat : Bool} (hmode : Selects mode) :
    Leads (Inside look mode) (pure beat) (Remembers look) :=
  remembers_of_preserves hmode (Preserves.pure beat)

theorem remembers_lightSelectionMode (c : WirelessCommand) :
    Leads (Inside look .LIGHT_SELECTION) (lightSelectionMode c)
      (Remembers look) := by
  have hmode : Selects .LIGHT_SELECTION := by decide
  have hcontrol : Selects .CONTROL_SELECTION := by decide
  unfold lightSelectionMode
  refine Leads.ite (fun _ => remembers_pure hmode) fun _ => ?_
  refine Leads.ite (fun _ => remembers_stay hmode marking_inside.stepLight)
    fun _ => ?_
  refine Leads.ite (fun _ => remembers_stay hmode marking_inside.stepLight)
    fun _ => ?_
  refine Leads.ite (fun _ => remembers_stay hmode marking_inside.toggleLight)
    fun _ => ?_
  refine Leads.ite (fun _ => ?_) fun _ => ?_
  · refine remembers_of_preserves hmode
      (marking_inside.clearSelected.bind fun _ => ?_)
    refine working_inside.currentLight.bind fun light => ?_
    exact (working_inside.onHighlight fun _ =>
      HighlightThread.beside_addLight light).bind fun _ => Preserves.pure _
  refine Leads.ite (fun _ => ?_) fun _ => ?_
  · refine (leads_setState_inside .CONTROL_SELECTION).bind fun _ => ?_
    refine remembers_of_preserves hcontrol ?_
    refine working_inside.takeSelection.bind fun _ => ?_
    refine marking_inside.clearSelected.bind fun _ => ?_
    refine working_inside.revertScene.bind fun _ => ?_
    refine (working_inside.setControlIndex 1).bind fun _ => ?_
    exact working_inside.startPresetVisual.bind fun _ => Preserves.pure _
  refine Leads.ite (fun _ => ?_) fun _ => remembers_pure hmode
  refine working_inside.redrumHighlight.leads.bind fun _ => ?_
  refine marking_inside.clearSelected.leads.bind fun _ => ?_
  refine leads_revertScene_shows.bind fun _ => ?_
  refine Leads.returning (Leads.modify fun _ h => ?_)
  exact .inr ⟨rfl, h.2⟩

/-- The saved look follows the server through the modes. -/
theorem passage_inside : Passage (Inside look) (Remembers look) where
  working := fun _ => working_inside
  setState := fun _ mode' => leads_setState_inside mode'
  below := fun mode _ hmode h => h.remembers (List.mem_cons_of_mem _ hmode)
  highlight := working_inside.startHighlight.leads.mono fun _ h =>
    h.remembers (by decide)

/-! ## The loop -/

/-- The command confirms a change of the selected lights. -/
def Confirms (mode : Mode) (c : WirelessCommand) : Prop :=
  mode ∈ [.COLOR_WHEEL, .DMX, .PRESET] ∧ c.userActionData = B1

instance (mode : Mode) (c : WirelessCommand) : Decidable (Confirms mode c) :=
  inferInstanceAs (Decidable (_ ∧ _))

theorem remembers_mainSwitch (colorConverter : XYConverter)
    (random : ℕ → Color) {c : WirelessCommand} (hmode : Selects mode)
    (hc : ¬ Confirms mode c) :
    Leads (Inside look mode) (mainSwitch colorConverter random c)
      (Remembers look) := by
  refine Leads.get_bind_eq fun s h => ?_
  have hconfirm : mode ∈ [.COLOR_WHEEL, .DMX, .PRESET] →
      c.userActionData = B1 →
        Leads (Inside look mode) confirm (Remembers look) :=
    fun hmem hB1 => absurd ⟨hmem, hB1⟩ hc
  have hpassage : Passage (Inside look) (Remembers look) := passage_inside
  rw [h.state]
  cases mode with
  | LIGHT_SELECTION => exact (remembers_lightSelectionMode c).of_eq h
  | CONTROL_SELECTION => exact (hpassage.controlSelectionMode c).of_eq h
  | COLOR_WHEEL =>
      exact (hpassage.colorWheelMode colorConverter
        (hconfirm (by decide))).of_eq h
  | DMX => exact (hpassage.dmxMode (hconfirm (by decide))).of_eq h
  | PRESET => exact (hpassage.presetMode (hconfirm (by decide))).of_eq h
  | CHASE => exact absurd hmode (by decide)
  | IDLE => exact absurd hmode (by decide)
  | PARTY => exact absurd hmode (by decide)
  | SCARY => exact absurd hmode (by decide)

theorem remembers_sendHeartbeat : Preserves (Remembers look) sendHeartbeat := by
  refine Preserves.modify fun s h => ?_
  rcases h with ⟨mode, hmode, h⟩ | h
  · exact .inl ⟨mode, hmode, h.state, h.scene, h.noFault⟩
  · exact .inr ⟨h.state, h.shows⟩

/-- A command that neither confirms a change nor starts the party. -/
theorem remembers_processCommand (colorConverter : XYConverter)
    (random : ℕ → Color) (command : WirelessCommand) (hmode : Selects mode)
    (hc : Interprets command → ¬ Confirms mode command.parse.2 ∧
      command.parse.2.userActionData ≠ KONAMI) :
    Leads (Inside look mode) (processCommand colorConverter random command)
      (Remembers look) := by
  by_cases hinterprets : Interprets command
  · obtain ⟨hconfirms, hkonami⟩ := hc hinterprets
    have hdebug : debugSwitch command.parse.2 = pure false := if_neg hkonami
    rw [processCommand_of_interprets hinterprets, hdebug]
    refine (remembers_mainSwitch colorConverter random hmode hconfirms).bind
      fun beat => ?_
    exact Leads.ite (fun _ => remembers_sendHeartbeat.leads) fun _ =>
      Leads.pure _ fun _ h => h
  · rw [processCommand_of_not_interprets hinterprets]
    exact Leads.pure _ fun _ h => h.remembers hmode

/-- The look of the driver is saved. -/
theorem leads_saveScene {look : Scene}
    (hlook : List.ofFn s.rig.dmx.dmxShadow = look)
    (hfault : s.rig.dmx.NoFault) :
    Leads (fun t => t = s) saveScene (Inside look s.currentState) := by
  rintro t rfl
  have hget : onRig (Rig.callDmx DefaultDMX.getDmx) t = .ok look t := by
    rw [← hlook]
    rfl
  unfold saveScene
  rw [bind_of_ok hget]
  exact ⟨rfl, rfl, hfault⟩

/-- The light selection is entered, and the look is saved. -/
theorem leads_idleMode_B1 {c : WirelessCommand} {look : Scene}
    (hdata : c.dataType = USER_ACTION_DATA) (hB1 : c.userActionData = B1)
    (hlook : List.ofFn s.rig.dmx.dmxShadow = look)
    (hfault : s.rig.dmx.NoFault) :
    Leads (fun t => t = s) (idleMode c) (Inside look .LIGHT_SELECTION) := by
  unfold idleMode
  rw [if_neg (not_not.mpr hdata), hB1, if_neg (by decide), if_neg (by decide),
    if_neg (by decide), if_pos rfl]
  have hset : Leads (fun t => t = s) (setState .LIGHT_SELECTION)
      (fun t => t = { s with currentState := .LIGHT_SELECTION }) :=
    Leads.modify fun t ht => ht ▸ rfl
  refine hset.bind fun _ => ?_
  refine (leads_saveScene (s := { s with currentState := .LIGHT_SELECTION })
    hlook hfault).bind fun _ => ?_
  exact (working_inside.startHighlight.bind fun _ => Preserves.pure _).leads

/-- A round that enters the light selection. -/
theorem leads_processCommand_enters (colorConverter : XYConverter)
    (random : ℕ → Color) {command : WirelessCommand} {look : Scene}
    (hidle : s.currentState = .IDLE) (hinterprets : Interprets command)
    (hdata : command.parse.2.dataType = USER_ACTION_DATA)
    (hB1 : command.parse.2.userActionData = B1)
    (hlook : List.ofFn s.rig.dmx.dmxShadow = look)
    (hfault : s.rig.dmx.NoFault) :
    Leads (fun t => t = s) (processCommand colorConverter random command)
      (Inside look .LIGHT_SELECTION) := by
  have hdebug : debugSwitch command.parse.2 = pure false := by
    unfold debugSwitch
    rw [hB1]
    rfl
  have hmain : Leads (fun t => t = s)
      (mainSwitch colorConverter random command.parse.2)
      (Inside look .LIGHT_SELECTION) := by
    refine Leads.get_bind_eq fun t ht => ?_
    subst ht
    rw [hidle]
    exact leads_idleMode_B1 hdata hB1 hlook hfault
  rw [processCommand_of_interprets hinterprets, hdebug]
  refine hmain.bind fun beat => Leads.ite (fun _ => ?_) fun _ =>
    Leads.pure _ fun _ h => h
  exact Leads.modify fun _ h => ⟨h.state, h.scene, h.noFault⟩

end Server

namespace Process

open Server

/-- The button that enters the light selection. -/
def Enters (p : Process) (receiveData : Buffer) : Prop :=
  p.server.currentState = .IDLE ∧ Interprets (.new receiveData) ∧
    (WirelessCommand.new receiveData).parse.2.dataType = USER_ACTION_DATA ∧
    (WirelessCommand.new receiveData).parse.2.userActionData = B1

/-- The server is not back yet, and the event neither confirms a change nor
starts the party. -/
def Cancels (p : Process) (e : Event) : Prop :=
  p.server.currentState ≠ .IDLE ∧
    match e with
    | .packet _ receiveData =>
        let c := (WirelessCommand.new receiveData).parse.2
        Interprets (.new receiveData) →
          ¬ Confirms p.server.currentState c ∧ c.userActionData ≠ KONAMI
    | .tick _ _ => True

instance (p : Process) (e : Event) : Decidable (Cancels p e) :=
  match e with
  | .packet _ receiveData =>
      inferInstanceAs (Decidable (p.server.currentState ≠ .IDLE ∧
        (Interprets (.new receiveData) →
          ¬ Confirms p.server.currentState
            (WirelessCommand.new receiveData).parse.2 ∧
          (WirelessCommand.new receiveData).parse.2.userActionData ≠ KONAMI)))
  | .tick _ _ =>
      inferInstanceAs (Decidable (p.server.currentState ≠ .IDLE ∧ True))

variable {colorConverter : XYConverter} {p : Process} {look : Scene}

theorem while_remembers_of_enters {receiveData : Buffer}
    (h : Enters p receiveData)
    (hlook : List.ofFn p.server.rig.dmx.dmxShadow = look)
    (hfault : p.server.rig.dmx.NoFault) (random : ℕ → Color) :
    While (Remembers look)
      (step colorConverter p (.packet random receiveData)) := by
  obtain ⟨hidle, hinterprets, hdata, hB1⟩ := h
  have hstart : While (fun s => s = p.server) p := fun _ => rfl
  refine while_step hstart ?_ fun hignores hended => ?_
  · exact (leads_processCommand_enters colorConverter random hidle hinterprets
      hdata hB1 hlook hfault).mono fun _ h => h.remembers (by decide)
  · have hsome : p.ended.isSome = true := hignores
    rw [hended] at hsome
    cases hsome

theorem while_remembers_step {e : Event} (h : While (Remembers look) p)
    (hcancels : Cancels p e) :
    While (Remembers look) (step colorConverter p e) := by
  obtain ⟨hback, hevent⟩ := hcancels
  have hinside : While (fun s => Selects p.server.currentState ∧
      Inside look p.server.currentState s) p := by
    intro hended
    rcases h hended with ⟨mode, hmode, hin⟩ | hreturned
    · rw [hin.state]
      exact ⟨hmode, hin⟩
    · exact absurd hreturned.state hback
  refine while_step hinside ?_ fun _ => h
  cases e with
  | packet random receiveData =>
      exact fun s ⟨hmode, hin⟩ => remembers_processCommand colorConverter random
        (.new receiveData) hmode hevent s hin
  | tick k i =>
      exact fun s ⟨hmode, hin⟩ => ((working_inside.ticks.tick k i).leads.mono
        fun _ h => h.remembers hmode) s hin

/-- The light selection is entered, and then no command confirms a change or
starts the party until the server is back in the idle mode: then the driver
holds at the addresses 1 to 512 what it held before, if no write fails. -/
theorem dmxShadow_of_cancels {receiveData : Buffer} {random : ℕ → Color}
    {events : List Event} (henters : Enters p receiveData)
    (hfault : p.server.rig.dmx.NoFault)
    (hcancels : Runs.AllSteps (step colorConverter) Cancels
      (step colorConverter p (.packet random receiveData)) events) :
    ∀ t ∈ Runs.states (step colorConverter)
        (step colorConverter p (.packet random receiveData)) events,
      t.ended = none → t.server.currentState = .IDLE →
        ∀ a : Fin 513, 1 ≤ (a : ℕ) →
          t.server.rig.dmx.dmxShadow a = p.server.rig.dmx.dmxShadow a := by
  intro t ht hended hidle a ha
  have hremembers := Runs.invariant
    (fun _ _ h hok => while_remembers_step h hok)
    (while_remembers_of_enters henters rfl hfault random) hcancels t ht
  rcases hremembers hended with ⟨mode, hmode, hin⟩ | hreturned
  · rw [← hin.state, hidle] at hmode
    exact absurd hmode (by decide)
  · rw [hreturned.shows a ha, List.getD_eq_getElem?_getD, List.getElem?_ofFn,
      dif_pos a.isLt]
    rfl

/-- The server in its loop, with one light that is on. -/
def lit : Process where
  server := stateAfter startScenes
    (init { blackout with dmxShadow := fun a => if (a : ℕ) = 4 then 180 else 0 }
      [parLight] none)
  ended := none

/-- The light is highlighted, the controls are entered and left, and the light
is highlighted again. -/
def throughSelection : List Event :=
  [.tick .highlight 0, .tick .highlight 0, button B1, .tick .presetVisual 0,
    button B2, .tick .highlight 1, button B2]

/-- The server after the selection. -/
def backFromSelection : Process :=
  throughSelection.foldl (step fun _ _ => Color.WHITE)
    (step (fun _ _ => Color.WHITE) lit (button B1))

theorem dmxShadow_of_cancels_throughSelection :
    backFromSelection.server.rig.dmx.dmxShadow 4 = 180 := by
  have henters : Enters lit (dataBuffer [USER_ACTION_DATA, B1]) :=
    ⟨rfl, by decide, by decide, by decide⟩
  have hlook : lit.server.rig.dmx.dmxShadow 4 = 180 := by decide +kernel
  have hrun : Runs.AllSteps (step fun _ _ => Color.WHITE) Cancels
      (step (fun _ _ => Color.WHITE) lit (button B1)) throughSelection ∧
      backFromSelection.ended = none ∧
      backFromSelection.server.currentState = .IDLE := by
    -- every index into a scene would be a walk through its list
    delta backFromSelection step run processCommand mainSwitch
      lightSelectionMode controlSelectionMode revertScene
    rw [DefaultDMX.setAllDMX_eq_inFours]
    decide +kernel
  obtain ⟨hcancels, hended, hidle⟩ := hrun
  exact (dmxShadow_of_cancels henters rfl hcancels backFromSelection
    Runs.foldl_mem_states hended hidle 4 (by decide)).trans hlook

end Process

end ChuckLight
