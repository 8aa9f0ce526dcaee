import ChuckLight.Threads.SafeEdits
import ChuckLight.Threads.Selection

/-!
# Which commands end the server

In every mode the server has what it needs, whatever is sent, unless one of
three commands ends the loop by an exception: coordinates without a color, the
hand-over of an empty list, and the recall of a stored scene with a value that
is no byte.
-/

namespace ChuckLight

open Java Connection LightingDefines SceneManager

namespace Server

variable {mode : Mode} {c : Prop} {s : Server}

/-! ## The loop -/

/-- The command asks for a color that the wheel does not have, or hands over an
empty list. -/
def Strands (s : Server) (command : WirelessCommand) : Prop :=
  (s.currentState = .COLOR_WHEEL ∧ command.dataType = JOYSTIC_DATA ∧
    ¬ OnWheel command) ∨
  (s.currentState = .LIGHT_SELECTION ∧ command.userActionData = B1 ∧
    ListsNone s)

instance (s : Server) (command : WirelessCommand) :
    Decidable (Strands s command) :=
  inferInstanceAs (Decidable ((_ ∧ _ ∧ ¬ OnWheel command) ∨ (_ ∧ _ ∧ _)))

/-- The command does not strand the server and, if `c` holds, recalls no scene
with a value that is no byte. -/
structure Spares (c : Prop) (s : Server) (command : WirelessCommand) :
    Prop where
  strands : ¬ Strands s command
  recalls : c → ¬ RecallsNoByte s command

instance [Decidable c] (s : Server) (command : WirelessCommand) :
    Decidable (Spares c s command) :=
  decidable_of_iff (¬ Strands s command ∧ (c → ¬ RecallsNoByte s command))
    ⟨fun h => ⟨h.1, h.2⟩, fun h => ⟨h.1, h.2⟩⟩

theorem spares_party (h : s.currentState = .PARTY)
    (command : WirelessCommand) : Spares c s command := by
  refine ⟨?_, fun _ hrecalls => ?_⟩
  · rintro (⟨hwheel, -⟩ | ⟨hlight, -⟩)
    · cases h.symm.trans hwheel
    · cases h.symm.trans hlight
  · cases h.symm.trans hrecalls.1

theorem safe_debugSwitch (command : WirelessCommand) :
    Triple (fun s => Valid s ∧ Spares c s command) (debugSwitch command)
      (fun _ s => Valid s ∧ Spares c s command)
      (fun e _ => Excused c e) := by
  refine Triple.ite (fun _ => Triple.returning ?_) fun _ =>
    Triple.pure fun _ h => h
  refine Triple.modify fun s h => ?_
  obtain ⟨⟨mode, hsteered, -⟩, -⟩ := h
  exact ⟨⟨.PARTY, hsteered.setState .PARTY, trivial⟩, spares_party rfl _⟩

theorem safe_mainSwitch (colorConverter : XYConverter) (random : ℕ → Color)
    (command : WirelessCommand) :
    Triple (fun s => Valid s ∧ Spares c s command)
      (mainSwitch colorConverter random command) (fun _ => Valid)
      (fun e _ => Excused c e) := by
  refine Triple.get_bind_eq fun s h => ?_
  obtain ⟨⟨mode, hsteered, hneeds⟩, hstrands, hrecalls⟩ := h
  have hstate := hsteered.state
  rw [hstate]
  cases mode with
  | CHASE =>
      exact (excused_of_safe (safe_chaseMode command)).of_eq
        ⟨hsteered, hneeds⟩
  | IDLE => exact (safe_idleMode command).of_eq ⟨hsteered, hrecalls⟩
  | LIGHT_SELECTION =>
      exact (excused_of_safe (safe_lightSelectionMode command)).of_eq
        ⟨⟨hsteered, hneeds⟩, fun hB1 hnone =>
          hstrands (.inr ⟨hstate, hB1, hnone⟩)⟩
  | CONTROL_SELECTION =>
      exact (excused_of_safe (safe_controlSelectionMode command)).of_eq
        ⟨hsteered, hneeds⟩
  | COLOR_WHEEL =>
      have hheld : Held .COLOR_WHEEL 0 s := ⟨hsteered, hneeds.1, hneeds.2⟩
      have hwheel : command.dataType = JOYSTIC_DATA → OnWheel command := by
        intro hdata
        by_contra hoff
        exact hstrands (.inl ⟨hstate, hdata, hoff⟩)
      exact (excused_of_safe (safe_colorWheelMode colorConverter command
        hwheel)).of_eq hheld
  | DMX =>
      obtain ⟨hpicked, hindex, hchannels⟩ := hneeds
      have htuned : Tuned .DMX s.currentChannelIndex s :=
        ⟨⟨hsteered, hpicked, hindex⟩, hchannels, rfl⟩
      exact (excused_of_safe (safe_dmxMode command)).of_eq htuned
  | PRESET =>
      have hheld : Held .PRESET 1 s := ⟨hsteered, hneeds.1, hneeds.2⟩
      exact (excused_of_safe (safe_presetMode command)).of_eq hheld
  | PARTY =>
      have hparty : ∀ t, Steered .PARTY t → Valid t :=
        fun _ ht => ⟨.PARTY, ht, trivial⟩
      exact (excused_of_safe (safe_gyroMode isByte_partyDimmer hparty random
        command)).of_eq hsteered
  | SCARY =>
      have hscary : ∀ t, Steered .SCARY t → Valid t :=
        fun _ ht => ⟨.SCARY, ht, trivial⟩
      exact (excused_of_safe (safe_gyroMode isByte_scaryDimmer hscary _
        command)).of_eq hsteered

theorem Valid.setHeartbeats (h : Valid s) (heartbeats : List Int8) :
    Valid { s with heartbeats := heartbeats } := by
  obtain ⟨mode, hsteered, hneeds⟩ := h
  have hground := hsteered.ground.setPlain s.currentState
    s.currentControlIndex s.currentChannelIndex s.canChangeDMX heartbeats
  refine ⟨mode, ⟨hground, hsteered.state, hsteered.control,
    hsteered.compared, hsteered.level⟩, ?_⟩
  cases mode <;> exact hneeds

/-- A command that spares the server. -/
theorem safe_processCommand (colorConverter : XYConverter)
    (random : ℕ → Color) (command : WirelessCommand) :
    Triple (fun s => Valid s ∧
        (Interprets command → Spares c s command.parse.2))
      (processCommand colorConverter random command) (fun _ => Valid)
      (fun e _ => Excused c e) := by
  by_cases hinterprets : Interprets command
  · rw [processCommand_of_interprets hinterprets]
    have hdebug : Triple (fun s => Valid s ∧
          (Interprets command → Spares c s command.parse.2))
        (debugSwitch command.parse.2)
        (fun _ s => Valid s ∧ Spares c s command.parse.2)
        (fun e _ => Excused c e) :=
      (safe_debugSwitch _).conseq (fun _ h => ⟨h.1, h.2 hinterprets⟩)
        (fun _ _ h => h) fun _ _ h => h
    refine hdebug.bind fun konami => ?_
    refine (safe_mainSwitch colorConverter random _).bind fun beat => ?_
    exact Triple.ite (fun _ => Triple.modify fun _ h => h.setHeartbeats _)
      fun _ => Triple.pure fun _ h => h
  · rw [processCommand_of_not_interprets hinterprets]
    exact Triple.pure fun _ h => h.1

/-- Where the selection law holds, the highlight thread lists a light. -/
theorem Lawful.not_listsNone {exact : Prop} {n : ℕ} {s : Server}
    (h : Lawful exact n s) (hmode : s.currentState = .LIGHT_SELECTION) :
    ¬ ListsNone s := by
  rintro ⟨t, ht, hnil⟩
  cases h with
  | elsewhere hother stands alone =>
      exact hother (stands.state.symm.trans hmode)
  | @selecting cursor flags list stands lights chosen =>
      obtain ⟨t', ht', hlights, -⟩ := lights
      have hcursor := chosen.mem cursor (.inl rfl)
      rw [← hlights, Option.some.inj (ht'.symm.trans ht), hnil] at hcursor
      exact List.not_mem_nil hcursor

/-- A step of a worker ends the main thread only by `System.exit`. -/
theorem tick_exits (k : WorkerField) (i : ℕ) :
    Triple (fun _ => True) (tick k i) (fun _ _ => True)
      (fun e _ => e = .exited) := by
  intro s _
  unfold Server.tick
  cases (s.slots k).workers[i]? with
  | none => trivial
  | some w =>
      dsimp only
      split_ifs
      · trivial
      · trivial
      · trivial
      · trivial
      · cases passResult k w.object s with
        | ok a stage => trivial
        | error e stage =>
            cases e with
            | thrown t => trivial
            | exited => rfl
            | blocked => trivial

/-! ## The start -/

/-- The lights are on and show bytes. -/
structure Staged (dmx : DefaultDMX) (profiles : List FixtureProfile) :
    Prop where
  lights : profiles ≠ []
  usable : ∀ f ∈ profiles, Light.Usable f
  bytes : Rig.Bytes ⟨dmx, profiles⟩

variable {dmx : DefaultDMX} {profiles : List FixtureProfile}
  {file : Option (List Char)}

theorem Staged.steered (h : Staged dmx profiles) {m : SceneManager}
    (hm : InOrder m) :
    Steered .IDLE { init dmx profiles file with sceneManager := m } where
  ground := by
    have hlight : (0 : ℤ) ≤ 0 ∧ (0 : ℤ) < profiles.length :=
      ⟨Int.le_refl _,
        Int.ofNat_lt.mpr (List.length_pos_of_ne_nil h.lights)⟩
    have hpreset : (0 : ℤ) ≤ 0 ∧ (0 : ℤ) < PRESETS.length := by decide
    have hdelay : MIN_CHASE_DELAY ≤ 100 ∧ 100 ≤ MAX_CHASE_DELAY := by decide
    have hsteps : CHASE_STEP ∣ 100 := by decide
    exact ⟨h.usable, h.bytes, hlight, hpreset, hdelay, hsteps, hm, nofun⟩
  state := rfl
  control := .inr (.inl rfl)
  compared := nofun
  level := fun hindex => by
    have hzero : (0 : ℤ) ≠ -1 := by decide
    exact absurd hindex hzero

theorem valid_startScenes (h : Staged dmx profiles) :
    Leads (fun s => s = init dmx profiles file) startScenes Valid := by
  intro s hs
  subst hs
  have hplayable : Playable
      (List.ofFn (init dmx profiles file).rig.dmx.dmxShadow) := by
    refine ⟨List.length_ofFn, fun v hv => ?_⟩
    obtain ⟨a, rfl⟩ := List.mem_ofFn.mp hv
    exact h.bytes.shadow a
  have hcreate : Leads (fun s => s = init dmx profiles file)
      (onScenes (SceneManager.create
        (List.ofFn (init dmx profiles file).rig.dmx.dmxShadow)))
      (Steered .IDLE) :=
    Triple.zoom (inOrder_create hplayable) (fun _ _ => trivial)
      (fun _ _ _ ht hm => ht ▸ h.steered hm) fun _ _ _ _ _ => trivial
  unfold startScenes
  rw [bind_of_ok (onRig_getDmx _)]
  refine (hcreate.bind fun _ => ?_) _ rfl
  exact (triple_scenes (inOrder_updateSceneFile _)).mono fun _ _ hsteered =>
    ⟨.IDLE, hsteered, trivial⟩

end Server

namespace Process

open Server

variable {colorConverter : XYConverter} {p : Process} {e : Event} {c : Prop}

/-! ## Runs -/

/-- The running server has what its mode needs, and the main thread has not
ended by an exception that has no excuse. -/
structure Safe (c : Prop) (p : Process) : Prop where
  valid : While Valid p
  excused : ∀ a, p.ended = some a → Excused c a

/-- The event spares the running server. -/
def Sparing (c : Prop) (p : Process) : Event → Prop
  | .packet _ receiveData => p.ended = none → Interprets (.new receiveData) →
      Spares c p.server (WirelessCommand.new receiveData).parse.2
  | .tick _ _ => True

instance [Decidable c] (p : Process) (e : Event) :
    Decidable (Sparing c p e) :=
  match e with
  | .packet _ receiveData =>
      inferInstanceAs (Decidable (p.ended = none →
        Interprets (.new receiveData) →
          Spares c p.server (WirelessCommand.new receiveData).parse.2))
  | .tick _ _ => inferInstanceAs (Decidable True)

theorem safe_step (h : Safe c p) (hsparing : Sparing c p e) :
    Safe c (step colorConverter p e) where
  valid := by
    cases e with
    | packet random receiveData =>
        have hpre : While (fun s => Valid s ∧ (Interprets (.new receiveData) →
            Spares c s (WirelessCommand.new receiveData).parse.2)) p :=
          fun hended => ⟨h.valid hended, hsparing hended⟩
        exact while_step hpre (safe_processCommand colorConverter random
          (.new receiveData)).leads fun _ => h.valid
    | tick k i =>
        exact while_step h.valid (ticks_valid.tick k i).leads fun _ => h.valid
  excused := by
    refine step_ended h.excused fun hignores a s hrun => ?_
    cases e with
    | packet random receiveData =>
        have hended : p.ended = none :=
          Option.isNone_iff_eq_none.mp (Option.isSome_eq_false_iff.mp hignores)
        exact (safe_processCommand colorConverter random
          (.new receiveData)).of_error
            ⟨h.valid hended, hsparing hended⟩ hrun
    | tick k i =>
        have hexited : a = .exited := (tick_exits k i).of_error trivial hrun
        rw [hexited]
        exact nofun

variable {dmx : DefaultDMX} {profiles : List FixtureProfile}
  {file : Option (List Char)} {events : List Event}

theorem safe_of_starts (hstart : Starts dmx profiles file p)
    (hstaged : Staged dmx profiles) : Safe c p where
  valid := fun _ => (valid_startScenes hstaged).of_ok rfl hstart.1
  excused := fun a ha => by
    rw [hstart.2] at ha
    cases ha

theorem safe_of_sparing (hstart : Starts dmx profiles file p)
    (hstaged : Staged dmx profiles)
    (hsparing : Runs.AllSteps (step colorConverter) (Sparing c) p events) :
    ∀ t ∈ Runs.states (step colorConverter) p events, Safe c t :=
  Runs.invariant (fun _ _ h hok => safe_step h hok)
    (safe_of_starts hstart hstaged) hsparing

theorem staged_parLight : Staged blackout [parLight] where
  lights := List.cons_ne_nil _ _
  usable := fun f hf => List.mem_singleton.mp hf ▸ usable_parLight
  bytes := ⟨fun f hf => List.mem_singleton.mp hf ▸ by decide,
    fun _ => isByte_zero⟩

/-- In every run in which all commands spare the server, no exception leaves
the loop. -/
theorem not_thrown_of_sparing (hstart : Starts dmx profiles file p)
    (hstaged : Staged dmx profiles)
    (hsparing :
      Runs.AllSteps (step colorConverter) (Sparing True) p events) :
    ∀ t ∈ Runs.states (step colorConverter) p events,
      ∀ e, t.ended ≠ some (.thrown e) := by
  intro t ht e hended
  have hsafe := safe_of_sparing hstart hstaged hsparing t ht
  exact (hsafe.excused _ hended ⟨e, rfl⟩).1 trivial

/-- The datagram of the joystick. -/
def joystick (bytes : List Int8) : Event :=
  .packet (fun _ => Color.WHITE)
    (dataBuffer (JOYSTIC_DATA :: 0 :: bytes))

/-- Both lights are selected, and their device is lost; a color is shown in the
wheel, and a channel is raised in the DMX mode. -/
def throughControls : List Event :=
  [button B1, button PS2, .tick .highlight 0, button RIGHT, button PS2,
    .tick .highlight 0, button B1, .tick .presetVisual 0, button LEFT,
    .tick .rainbowVisual 0, button B1, joystick [100, 0, 0, 0, -56, 0, 0, 0],
    button B2, .tick .rainbowVisual 1, button RIGHT, .tick .presetVisual 1,
    button RIGHT, .tick .dmxVisual 0, button B1, button RIGHT, button UP]

theorem staged_twoLights :
    Staged (lostAfter 48) [parLight, { parLight with address := 5 }] where
  lights := List.cons_ne_nil _ _
  usable := by
    intro f hf
    rcases List.mem_pair.mp hf with rfl | rfl
    · exact usable_parLight
    · exact ⟨nofun, by decide, by decide, usable_parLight.offset, rfl, rfl,
        rfl, rfl, rfl⟩
  bytes := ⟨by decide, fun _ => isByte_zero⟩

/-- The server with both lights on that device. -/
def losingBoth : Process :=
  losingDevice 48 [parLight, { parLight with address := 5 }]

theorem starts_losingBoth :
    Starts (lostAfter 48) [parLight, { parLight with address := 5 }] none
      losingBoth := ⟨rfl, rfl⟩

theorem not_thrown_of_sparing_throughControls :
    (throughControls.foldl (step fun _ _ => Color.WHITE) losingBoth).ended ≠
      some (.thrown .arrayIndexOutOfBoundsException) := by
  have hsparing : Runs.AllSteps (step fun _ _ => Color.WHITE) (Sparing True)
      losingBoth throughControls := by decide +kernel
  exact not_thrown_of_sparing starts_losingBoth staged_twoLights hsparing _
    Runs.foldl_mem_states _

/-- The server in its loop, with one light on a device that is lost after the
first highlight. -/
def unplugged : Process where
  server := stateAfter startScenes
    (init { blackout with fault := fun n => decide (16 ≤ n) } [parLight] none)
  ended := none

/-- The coordinate -4 is below the color wheel. -/
theorem not_spared_joystick :
    ¬ ∀ t ∈ Runs.states (step fun _ _ => Color.WHITE) unplugged
        [button B1, .tick .highlight 0, button B1, .tick .presetVisual 0,
          button LEFT, .tick .rainbowVisual 0, button B1,
          joystick [-4, -1, -1, -1, 0, 0, 0, 0]],
      ∀ e, t.ended ≠ some (.thrown e) := by
  intro h
  have hended : ((Runs.states (step fun _ _ => Color.WHITE) unplugged
      [button B1, .tick .highlight 0, button B1, .tick .presetVisual 0,
        button LEFT, .tick .rainbowVisual 0, button B1,
        joystick [-4, -1, -1, -1, 0, 0, 0, 0]])[8]?).map Process.ended =
      some (some (.thrown .arrayIndexOutOfBoundsException)) := by
    decide +kernel
  obtain ⟨t, ht, hthrown⟩ := Option.map_eq_some_iff.mp hended
  exact h t (List.mem_of_getElem? ht) _ hthrown

/-! ## Cursors -/

/-- A reference to nothing, or an index out of range. -/
def IsStray (e : Throwable) : Prop :=
  e = .nullPointerException ∨ e = .arrayIndexOutOfBoundsException ∨
    ∃ message, e = .indexOutOfBoundsException message

/-- In a show of `n` lights, all cursors are in range. -/
structure CursorsValid (n : ℕ) (s : Server) : Prop where
  length : s.rig.profiles.length = n
  light : 0 ≤ s.currentLightIndex ∧ s.currentLightIndex < n
  preset : 0 ≤ s.currentPresetIndex ∧ s.currentPresetIndex < PRESETS.length
  control : s.currentControlIndex ∈ [-1, 0, 1]
  level : s.currentControlIndex = -1 → Level s
  channel : s.currentState = .DMX → InChannels s
  picked : Below s.currentState → Picked s
  selected : ∀ lights, s.selectedLights = some lights → ∀ i ∈ lights, i < n
  delay : MIN_CHASE_DELAY ≤ s.chaseSceneDelay ∧
    s.chaseSceneDelay ≤ MAX_CHASE_DELAY

theorem cursorsValid_of_valid {n : ℕ} {s : Server} (h : Valid s)
    (hlength : s.rig.profiles.length = n) : CursorsValid n s := by
  obtain ⟨mode, hsteered, hneeds⟩ := h
  obtain ⟨hground, hstate, hcontrol, -, hlevel⟩ := hsteered
  subst hlength hstate
  refine ⟨rfl, hground.light, hground.preset, ?_, hlevel, fun hmode => ?_,
    fun hbelow => ?_, hground.selected, hground.delay⟩
  · rcases hcontrol with hindex | hindex | hindex <;> simp [hindex]
  · rw [hmode] at hneeds
    exact hneeds.2.2
  · simp only [Below, List.mem_cons, List.not_mem_nil, or_false] at hbelow
    rcases hbelow with hmode | hmode | hmode | hmode <;>
      rw [hmode] at hneeds <;> exact hneeds.1

/-- The coordinate is one that the controller reads. -/
def OnStick (v : Int32) : Prop := 0 ≤ v.toInt ∧ v.toInt ≤ 4095

/-- The event is one that the controller sends: the party command arrives only
in the idle mode, and coordinates are in range. -/
def FromController (p : Process) : Event → Prop
  | .packet _ receiveData => Interprets (.new receiveData) →
      (∀ q, (WirelessCommand.new receiveData).parse.2.joystickData = some q →
        OnStick q.1 ∧ OnStick q.2) ∧
      ((WirelessCommand.new receiveData).parse.2.userActionData = KONAMI →
        p.server.currentState = .IDLE)
  | .tick _ _ => True

instance (v : Int32) : Decidable (OnStick v) :=
  inferInstanceAs (Decidable (_ ∧ _))

instance (p : Process) (e : Event) : Decidable (FromController p e) :=
  match e with
  | .packet _ receiveData =>
      -- a search through all coordinates would decide this as well
      have : Decidable (∀ q ∈
          (WirelessCommand.new receiveData).parse.2.joystickData,
          OnStick q.1 ∧ OnStick q.2) := Option.decidableForallMem _
      inferInstanceAs (Decidable (Interprets (.new receiveData) →
        (∀ q ∈ (WirelessCommand.new receiveData).parse.2.joystickData,
          OnStick q.1 ∧ OnStick q.2) ∧
        ((WirelessCommand.new receiveData).parse.2.userActionData = KONAMI →
          p.server.currentState = .IDLE)))
  | .tick _ _ => inferInstanceAs (Decidable True)

theorem FromController.heeds (h : FromController p e) : Heeds False p e := by
  cases e with
  | packet random receiveData =>
      intro hinterprets hparts
      obtain ⟨hlight, hkonami | hfalse, -⟩ := hparts
      · cases hlight.symm.trans ((h hinterprets).2 hkonami)
      · exact hfalse.1
  | tick k i => trivial

theorem FromController.sparing {n : ℕ} (h : FromController p e)
    (hlawful : While (Lawful False n) p) : Sparing False p e := by
  cases e with
  | tick k i => trivial
  | packet random receiveData =>
      refine fun hended hinterprets => ⟨?_, False.elim⟩
      rintro (⟨-, hdata, hoff⟩ | ⟨hmode, -, hnone⟩)
      · obtain ⟨q, hq⟩ := WirelessCommand.exists_joystickData hinterprets.1
          hinterprets.2 hdata
        obtain ⟨⟨hx, hx'⟩, hy, hy'⟩ := (h hinterprets).1 q hq
        exact hoff ⟨q, hq, ⟨by omega, hx'⟩, by omega, hy'⟩
      · exact (hlawful hended).not_listsNone hmode hnone

/-- In every run of a show in which no light is selected at first, with events
that the controller sends, all cursors stay valid, and no reference to nothing
and no index out of range ends the loop. -/
theorem cursorsValid_of_fromController (hstart : Starts dmx profiles file p)
    (hstaged : Staged dmx profiles)
    (hnone : ∀ f ∈ profiles, f.isSelected = false)
    (hevents : Runs.AllSteps (step colorConverter) FromController p events) :
    ∀ t ∈ Runs.states (step colorConverter) p events,
      (t.ended = none → CursorsValid profiles.length t.server) ∧
        ∀ e, t.ended = some (.thrown e) → ¬ IsStray e := by
  have hstep : ∀ t e,
      (Safe False t ∧ While (Lawful False profiles.length) t) →
        FromController t e →
          (Safe False (step colorConverter t e) ∧
            While (Lawful False profiles.length) (step colorConverter t e)) :=
    fun _ _ h hfrom => ⟨safe_step h.1 (hfrom.sparing h.2),
      while_lawful_step h.2 hfrom.heeds⟩
  have hrun := Runs.invariant hstep
    ⟨safe_of_starts hstart hstaged,
      fun _ => lawful_of_starts hstart hstaged.lights hnone⟩ hevents
  intro t ht
  obtain ⟨hsafe, hlawful⟩ := hrun t ht
  refine ⟨fun hended => ?_, fun e hended hstray => ?_⟩
  · exact cursorsValid_of_valid (hsafe.valid hended)
      (hlawful hended).length_profiles
  · obtain ⟨-, message, hmessage⟩ := hsafe.excused _ hended ⟨e, rfl⟩
    cases hmessage
    rcases hstray with h | h | ⟨_, h⟩ <;> cases h

theorem cursorsValid_of_fromController_throughControls :
    CursorsValid 2 (throughControls.foldl (step fun _ _ => Color.WHITE)
      losingBoth).server := by
  have hevents : Runs.AllSteps (step fun _ _ => Color.WHITE) FromController
      losingBoth throughControls := by decide +kernel
  have hended : (throughControls.foldl (step fun _ _ => Color.WHITE)
      losingBoth).ended = none := by decide +kernel
  exact (cursorsValid_of_fromController starts_losingBoth staged_twoLights
    (by decide) hevents _ Runs.foldl_mem_states).1 hended

end Process

end ChuckLight
