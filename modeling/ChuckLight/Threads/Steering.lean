import ChuckLight.Threads.Below
import ChuckLight.Threads.Ground
import ChuckLight.Threads.Ownership

/-!
# What a mode needs

The cursor over the controls, the comparison of the selected lights and the
references to workers are set by one mode and used by another.  `Valid` says
what each mode finds when a packet arrives.
-/

namespace ChuckLight.Server

open Java Connection LightingDefines SceneManager

/-! ## Selected lights -/

/-- All selected lights have the same number of channels. -/
def Level (s : Server) : Prop :=
  ∀ lights, s.selectedLights = some lights → ∀ i ∈ lights, ∀ j ∈ lights,
    s.rig.sizes[i]? = s.rig.sizes[j]?

/-- Some light is selected. -/
def Picked (s : Server) : Prop :=
  ∃ lights, s.selectedLights = some lights ∧ lights ≠ []

/-- The channel at the cursor is one of every selected light. -/
def InChannels (s : Server) : Prop :=
  ∀ lights, s.selectedLights = some lights → ∀ i ∈ lights,
    ∃ n : ℕ, s.rig.sizes[i]? = some n ∧ 0 ≤ s.currentChannelIndex ∧
      s.currentChannelIndex < n

variable {s : Server} {r : Rig}

theorem Level.setRig (h : Level s) (hr : s.rig.Similar r) :
    Level { s with rig := r } := by
  show ∀ lights, s.selectedLights = some lights → ∀ i ∈ lights, ∀ j ∈ lights,
    r.sizes[i]? = r.sizes[j]?
  rw [hr.sizes]
  exact h

theorem InChannels.setRig (h : InChannels s) (hr : s.rig.Similar r) :
    InChannels { s with rig := r } := by
  show ∀ lights, s.selectedLights = some lights → ∀ i ∈ lights,
    ∃ n : ℕ, r.sizes[i]? = some n ∧ 0 ≤ s.currentChannelIndex ∧
      s.currentChannelIndex < n
  rw [hr.sizes]
  exact h

/-! ## Invariants of the modes -/

theorem Ground.move (h : Ground s) {cursor : ℤ}
    (hcursor : 0 ≤ cursor ∧ cursor < s.rig.profiles.length) :
    Ground { s with currentLightIndex := cursor } :=
  ⟨h.usable, h.bytes, hcursor, h.preset, h.delay, h.steps, h.scenes,
    h.selected⟩

/-- Fields that no cursor is compared with. -/
theorem Ground.setPlain (h : Ground s) (mode : Mode) (control channel : ℤ)
    (canChangeDMX : Bool) (heartbeats : List Int8) :
    Ground { s with
      currentState := mode
      currentControlIndex := control
      currentChannelIndex := channel
      canChangeDMX := canChangeDMX
      heartbeats := heartbeats } :=
  ⟨h.usable, h.bytes, h.light, h.preset, h.delay, h.steps, h.scenes,
    h.selected⟩

/-- The server is in a mode, and its control is one that the selected lights
have. -/
structure Steered (mode : Mode) (s : Server) : Prop where
  ground : Ground s
  state : s.currentState = mode
  control : Fits .CONTROL_SELECTION s.currentControlIndex
  compared : s.canChangeDMX = true → Level s
  level : s.currentControlIndex = -1 → Level s

/-- A control of the selected lights. -/
structure Held (mode : Mode) (index : ℤ) (s : Server) : Prop where
  steered : Steered mode s
  picked : Picked s
  index : s.currentControlIndex = index

/-- A channel of the selected lights. -/
structure Tuned (mode : Mode) (channel : ℤ) (s : Server) : Prop where
  held : Held mode (-1) s
  inChannels : InChannels s
  channel : s.currentChannelIndex = channel

variable {mode mode' : Mode} {index index' channel : ℤ} {c : Prop}

theorem grounded_steered : Grounded (Steered mode) where
  ground := fun _ h => h.ground
  rig := fun _ _ hr h => ⟨h.ground.setRig hr, h.state, h.control,
    fun hcan => (h.compared hcan).setRig hr,
    fun hindex => (h.level hindex).setRig hr⟩
  slots := fun _ slots h => ⟨h.ground.setSlots slots, h.state, h.control,
    h.compared, h.level⟩
  move := fun _ _ hcursor h => ⟨h.ground.move hcursor, h.state, h.control,
    h.compared, h.level⟩

theorem grounded_held : Grounded (Held mode index) where
  ground := fun _ h => h.steered.ground
  rig := fun s r hr h =>
    ⟨grounded_steered.rig s r hr h.steered, h.picked, h.index⟩
  slots := fun s slots h =>
    ⟨grounded_steered.slots s slots h.steered, h.picked, h.index⟩
  move := fun s cursor hcursor h =>
    ⟨grounded_steered.move s cursor hcursor h.steered, h.picked, h.index⟩

theorem grounded_tuned : Grounded (Tuned mode channel) where
  ground := fun _ h => h.held.steered.ground
  rig := fun s r hr h =>
    ⟨grounded_held.rig s r hr h.held, h.inChannels.setRig hr, h.channel⟩
  slots := fun s slots h =>
    ⟨grounded_held.slots s slots h.held, h.inChannels, h.channel⟩
  move := fun s cursor hcursor h =>
    ⟨grounded_held.move s cursor hcursor h.held, h.inChannels, h.channel⟩

theorem Steered.setState (h : Steered mode s) (mode' : Mode) :
    Steered mode' { s with currentState := mode' } :=
  ⟨h.ground.setPlain mode' s.currentControlIndex s.currentChannelIndex
    s.canChangeDMX s.heartbeats, rfl, h.control, h.compared, h.level⟩

theorem Held.setState (h : Held mode index s) (mode' : Mode) :
    Held mode' index { s with currentState := mode' } :=
  ⟨h.steered.setState mode', h.picked, h.index⟩

theorem Held.setIndex (h : Held mode index s)
    (hfits : Fits .CONTROL_SELECTION index')
    (hlevel : index' = -1 → Level s) :
    Held mode index' { s with currentControlIndex := index' } :=
  ⟨⟨h.steered.ground.setPlain s.currentState index' s.currentChannelIndex
    s.canChangeDMX s.heartbeats, h.steered.state, hfits, h.steered.compared,
    hlevel⟩, h.picked, rfl⟩

/-- The channels of a light that has as many as all selected lights. -/
theorem Held.tune (h : Held mode (-1) s) {lights : List ℕ} {i n : ℕ}
    (hlights : s.selectedLights = some lights) (hi : i ∈ lights)
    (hsize : s.rig.sizes[i]? = some n) (hpos : 0 ≤ channel)
    (hlt : channel < n) :
    Tuned mode channel { s with currentChannelIndex := channel } := by
  have hground := h.steered.ground
  have hlevel := h.steered.level h.index
  refine ⟨⟨⟨hground.setPlain s.currentState s.currentControlIndex channel
    s.canChangeDMX s.heartbeats, h.steered.state, h.steered.control,
    h.steered.compared, h.steered.level⟩, h.picked, h.index⟩, ?_, rfl⟩
  intro lights' hlights' j hj
  have heq : lights' = lights := Option.some.inj (hlights'.symm.trans hlights)
  rw [heq] at hj
  exact ⟨n, (hlevel lights hlights j hj i hi).trans hsize, hpos, hlt⟩

theorem Tuned.setState (h : Tuned mode channel s) (mode' : Mode) :
    Tuned mode' channel { s with currentState := mode' } :=
  ⟨h.held.setState mode', h.inChannels, h.channel⟩

/-- What a mode needs besides what holds in every mode. -/
def Needs : Mode → Server → Prop
  | .CHASE, s => Refers .chase (fun _ => True) s
  | .LIGHT_SELECTION, s => ∃ list, (∀ i ∈ list, i < s.rig.profiles.length) ∧
      Lights True list s
  | .CONTROL_SELECTION, s => Picked s ∧
      ∀ k, owner .CONTROL_SELECTION s.currentControlIndex = some k →
        Refers k (fun _ => True) s
  | .COLOR_WHEEL, s => Picked s ∧ s.currentControlIndex = 0
  | .DMX, s => Picked s ∧ s.currentControlIndex = -1 ∧ InChannels s
  | .PRESET, s => Picked s ∧ s.currentControlIndex = 1
  | _, _ => True

/-- Every mode has what it needs. -/
def Valid (s : Server) : Prop :=
  ∃ mode, Steered mode s ∧ Needs mode s

theorem Tuned.valid (h : Tuned .DMX channel s) : Valid s :=
  ⟨.DMX, h.held.steered, h.held.picked, h.held.index, h.inChannels⟩

theorem Held.valid_colorWheel (h : Held .COLOR_WHEEL 0 s) : Valid s :=
  ⟨.COLOR_WHEEL, h.steered, h.picked, h.index⟩

theorem Held.valid_preset (h : Held .PRESET 1 s) : Valid s :=
  ⟨.PRESET, h.steered, h.picked, h.index⟩

/-- A control whose visual has been started. -/
theorem Held.valid_control {k : WorkerField}
    (h : Held .CONTROL_SELECTION index s)
    (howner : owner .CONTROL_SELECTION index = some k)
    (href : Refers k (fun _ => True) s) : Valid s := by
  refine ⟨.CONTROL_SELECTION, h.steered, h.picked, fun k' hk' => ?_⟩
  rw [h.index, howner] at hk'
  cases hk'
  exact href

/-! ## Ticks -/

/-- What a mode needs does not depend on what is shown nor on which workers
run. -/
theorem ticks_needs (mode : Mode) : Ticks (Needs mode) := by
  have hrefers : ∀ k : WorkerField, Ticks (Refers k fun _ => True) :=
    fun k => ticks_refers fun _ _ _ _ => trivial
  have hpicked : Workable Picked :=
    ⟨⟨fun _ _ _ h => h, fun _ _ _ _ _ _ _ h => h⟩, fun _ _ h => h⟩
  have hindex : ∀ index : ℤ, Workable fun s => s.currentControlIndex = index :=
    fun index =>
      ⟨⟨fun _ _ _ h => h, fun _ _ _ _ _ _ _ h => h⟩, fun _ _ h => h⟩
  cases mode with
  | CHASE => exact hrefers .chase
  | LIGHT_SELECTION =>
      refine Ticks.exists fun list => Ticks.and ?_ ticks_lights
      refine ⟨⟨fun s r hr h => ?_, fun s k i stage w _ hstage h => ?_⟩,
        fun _ _ _ _ h => h⟩
      · show ∀ i ∈ list, i < r.profiles.length
        rw [hr.similar.length]
        exact h
      · show ∀ i ∈ list, i < stage.1.profiles.length
        rw [hstage.rig.similar.length]
        exact h
  | CONTROL_SELECTION =>
      refine hpicked.ticks.and ⟨⟨fun s r hr h k hk => ?_,
        fun s k i stage w hw hstage h k' hk' => ?_⟩,
        fun s k slot hslot h k' hk' => ?_⟩
      · exact (hrefers k).rig s r hr (h k hk)
      · exact (hrefers k').object s k i stage w hw hstage (h k' hk')
      · exact (hrefers k').workers s k slot hslot (h k' hk')
  | COLOR_WHEEL => exact hpicked.ticks.and (hindex 0).ticks
  | DMX =>
      refine hpicked.ticks.and ((hindex (-1)).ticks.and
        ⟨⟨fun s r hr h => h.setRig hr.similar,
          fun s k i stage w _ hstage h => ?_⟩, fun _ _ _ _ h => h⟩)
      have hset := InChannels.setRig (s := s) h hstage.rig.similar
      exact hset
  | PRESET => exact hpicked.ticks.and (hindex 1).ticks
  | _ =>
      exact ⟨⟨fun _ _ _ _ => trivial, fun _ _ _ _ _ _ _ _ => trivial⟩,
        fun _ _ _ _ _ => trivial⟩

theorem ticks_valid : Ticks Valid :=
  Ticks.exists fun mode =>
    grounded_steered.workable.ticks.and (ticks_needs mode)

end ChuckLight.Server
