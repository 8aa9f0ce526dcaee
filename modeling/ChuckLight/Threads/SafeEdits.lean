import ChuckLight.Threads.SafeScenes

/-!
# Editing the selected lights

The color wheel, the channels and the presets change the selected lights, and
the party modes change all lights.  Nothing is thrown as long as the color
wheel is asked for coordinates that have a color.
-/

namespace ChuckLight.Server

open Java Connection LightingDefines

variable {mode : Mode} {index channel : ℤ} {c : Prop} {s : Server}

/-! ## The color wheel -/

theorem Held.selected (h : Held mode index s) :
    ∃ lights, s.selectedLights = some lights := by
  obtain ⟨lights, hlights, -⟩ := h.picked
  exact ⟨lights, hlights⟩

theorem triple_showColor (colorConverter : XYConverter) {x y : Int32}
    (hx : XYConverter.InWheel x) (hy : XYConverter.InWheel y) :
    Triple (Held mode index) (showColor colorConverter x y)
      (fun _ => Held mode index) (fun e _ => c → ¬ e.IsThrown) := by
  obtain ⟨color, hcolor⟩ :=
    (XYConverter.exists_getColor_eq_ok_iff colorConverter x y).mpr ⟨hx, hy⟩
  refine Grounded.triple_forSelected (fun _ h => h.selected)
    fun lights light hlight => ?_
  rw [hcolor]
  exact grounded_held.triple_tryLight (Light.calm_setColor color) hlight
    fun _ _ _ _ _ husable => husable

/-- The coordinates of the command have a color. -/
def OnWheel (command : WirelessCommand) : Prop :=
  ∃ p, command.joystickData = some p ∧ XYConverter.InWheel p.1 ∧
    XYConverter.InWheel p.2

instance (command : WirelessCommand) : Decidable (OnWheel command) :=
  inferInstanceAs (Decidable (∃ p ∈ command.joystickData,
    XYConverter.InWheel p.1 ∧ XYConverter.InWheel p.2))

theorem safe_colorWheelMode (colorConverter : XYConverter)
    (command : WirelessCommand)
    (hwheel : command.dataType = JOYSTIC_DATA → OnWheel command) :
    Triple (Held .COLOR_WHEEL 0) (colorWheelMode colorConverter command)
      (fun _ => Valid) (fun e _ => c → ¬ e.IsThrown) := by
  have hpure : ∀ beat : Bool, Triple (Held .COLOR_WHEEL 0) (pure beat)
      (fun _ => Valid) (fun e _ => c → ¬ e.IsThrown) :=
    fun _ => Triple.pure fun _ h => h.valid_colorWheel
  unfold colorWheelMode
  refine Triple.ite (fun _ => ?_) fun _ => Triple.ite (fun hdata => ?_)
    fun _ => hpure true
  · refine Triple.ite (fun _ => ?_) fun _ => Triple.ite (fun _ => ?_)
      fun _ => hpure false
    · exact (triple_confirm.conseq (fun _ h => h.steered) (fun _ _ h => h)
        fun _ _ he => he).returning
    · have hstate : Triple (Held .COLOR_WHEEL 0) (setState .CONTROL_SELECTION)
          (fun _ => Held .CONTROL_SELECTION 0)
          (fun e _ => c → ¬ e.IsThrown) :=
        Triple.modify fun _ h => h.setState .CONTROL_SELECTION
      exact hstate.bind fun _ => triple_startRainbow.returning
  · obtain ⟨p, hp, hx, hy⟩ := hwheel hdata
    rw [hp, orThrow_some_bind]
    exact ((triple_showColor colorConverter hx hy).mono
      fun _ _ h => h.valid_colorWheel).returning

/-! ## The channels -/

/-- What `changeChannel` writes is a byte if what it reads is one. -/
def StepsBytes (step : Int32) (outOfRange : Int32 → Bool) : Prop :=
  ∀ v, IsByte v → outOfRange (v + step) = false → IsByte (v + step)

theorem stepsBytes_up : StepsBytes DMX_STEP fun value => value > 255 := by
  intro v hv hrange
  obtain ⟨hlo, hhi⟩ := hv
  have h5 : DMX_STEP.toInt = 5 := rfl
  have h255 : (255 : Int32).toInt = 255 := rfl
  have hsum : (v + DMX_STEP).toInt = v.toInt + 5 :=
    toInt_add_of_le (by omega) (by omega)
  simp only [decide_eq_false_iff_not, gt_iff_lt, Int32.lt_iff_toInt_lt,
    h255] at hrange
  exact ⟨by omega, by omega⟩

theorem stepsBytes_down : StepsBytes (-DMX_STEP) fun value => value < 0 := by
  intro v hv hrange
  obtain ⟨hlo, hhi⟩ := hv
  have h5 : (-DMX_STEP).toInt = -5 := rfl
  have h0 : (0 : Int32).toInt = 0 := rfl
  have hsum : (v + -DMX_STEP).toInt = v.toInt - 5 :=
    toInt_add_of_le (by omega) (by omega)
  simp only [decide_eq_false_iff_not, Int32.lt_iff_toInt_lt, h0] at hrange
  exact ⟨by omega, by omega⟩

/-- The channel at the cursor, for a selected light. -/
theorem Tuned.lt (h : Tuned mode channel s) {lights : List ℕ} {i : ℕ}
    {f : FixtureProfile} (hlights : s.selectedLights = some lights)
    (hi : i ∈ lights) (hf : s.rig.profiles[i]? = some f) :
    0 ≤ channel ∧ channel < f.channelMap.size := by
  obtain ⟨n, hn, hpos, hlt⟩ := h.inChannels lights hlights i hi
  obtain ⟨hsize, -, -⟩ := h.held.steered.ground.numChannels hf
  have heq : f.channelMap.size = n := Option.some.inj (hsize.symm.trans hn)
  rw [h.channel] at hpos hlt
  rw [heq]
  exact ⟨hpos, hlt⟩

theorem triple_changeChannel {step : Int32} {outOfRange : Int32 → Bool}
    (hstep : StepsBytes step outOfRange) :
    Triple (Tuned mode channel) (changeChannel step outOfRange)
      (fun _ => Tuned mode channel) (fun e _ => c → ¬ e.IsThrown) := by
  refine Grounded.triple_forSelected (fun _ h => h.held.selected)
    fun lights light hlight => ?_
  rintro s ⟨hs, hlights⟩
  have hground := hs.held.steered.ground
  obtain ⟨f, hf, husable⟩ :=
    hground.getElem? (hground.selected lights hlights light hlight)
  obtain ⟨hpos, hlt⟩ := hs.lt hlights hlight hf
  have hlength := husable.length_dmxVals
  have hindex : channel.toNat < f.dmxVals.length := by omega
  have hvalue := hground.mirror hf _ (List.getElem_mem hindex)
  rw [bind_of_ok (x := get) rfl, bind_of_ok (onRig_fixture hf), hs.channel,
    if_neg (by omega), arrayGet_bind_of_lt hindex]
  cases hrange : outOfRange (f.dmxVals[channel.toNat] + step) with
  | true => exact ⟨hs, hlights⟩
  | false =>
      refine grounded_tuned.triple_tryLight (Light.calm_setChannelManual _ _)
        hlight (fun t g ht hlights' hg husable' => ?_) s ⟨hs, hlights⟩
      obtain ⟨-, hlt'⟩ := ht.lt hlights' hlight hg
      have hone := husable'.one_le_address
      have hadd := husable'.address_add_le
      have hofInt : (Int32.ofInt channel).toInt = channel := by
        have hint : Int32.size = 2 ^ 32 := rfl
        rw [Int32.toInt_ofInt, hint]
        exact Int.bmod_eq_of_le (by omega) (by omega)
      rw [hofInt]
      exact ⟨husable'.mounted, hpos, hlt', hstep _ hvalue hrange⟩

theorem triple_channelLeft :
    Triple (Tuned .DMX channel) channelLeft (fun _ => Valid)
      (fun e _ => c → ¬ e.IsThrown) := by
  intro s h
  obtain ⟨first, rest, f, hlights, hf⟩ := h.held.first
  have hfirst := List.mem_cons_self (a := first) (l := rest)
  obtain ⟨hsize, hnum, hone⟩ := h.held.steered.ground.numChannels hf
  obtain ⟨hpos, hlt⟩ := h.lt hlights hfirst hf
  unfold channelLeft
  rw [bind_of_ok (x := modify _) rfl, bind_of_ok (x := get) rfl]
  dsimp only
  rw [h.channel]
  by_cases hneg : channel - 1 < 0
  · have hcount := firstNumChannels_eq (s := { s with
      currentChannelIndex := channel - 1 }) hlights hf
    rw [if_pos hneg, bind_of_ok hcount, hnum]
    exact (h.held.tune hlights hfirst hsize (by omega) (by omega)).valid
  · rw [if_neg hneg]
    exact (h.held.tune hlights hfirst hsize (by omega) (by omega)).valid

theorem triple_channelRight :
    Triple (Tuned .DMX channel) channelRight (fun _ => Valid)
      (fun e _ => c → ¬ e.IsThrown) := by
  intro s h
  obtain ⟨first, rest, f, hlights, hf⟩ := h.held.first
  have hfirst := List.mem_cons_self (a := first) (l := rest)
  obtain ⟨hsize, hnum, hone⟩ := h.held.steered.ground.numChannels hf
  obtain ⟨hpos, hlt⟩ := h.lt hlights hfirst hf
  have hcount := firstNumChannels_eq (s := { s with
    currentChannelIndex := s.currentChannelIndex + 1 }) hlights hf
  unfold channelRight
  rw [bind_of_ok (x := modify _) rfl, bind_of_ok hcount,
    bind_of_ok (x := get) rfl]
  dsimp only
  rw [hnum, h.channel]
  by_cases hend : channel + 1 ≥ f.channelMap.size
  · rw [if_pos hend]
    exact (h.held.tune hlights hfirst hsize (by omega) (by omega)).valid
  · rw [if_neg hend]
    exact (h.held.tune hlights hfirst hsize (by omega) (by omega)).valid

theorem triple_clearLights :
    Triple (Tuned mode channel) clearLights (fun _ => Tuned mode channel)
      (fun e _ => c → ¬ e.IsThrown) :=
  Grounded.triple_forSelected (fun _ h => h.held.selected)
    fun _ _ hlight => grounded_tuned.triple_tryLight Light.calm_clearLight
      hlight fun _ _ _ _ _ husable => husable.mounted

theorem safe_dmxMode (command : WirelessCommand) :
    Triple (Tuned .DMX channel) (dmxMode command) (fun _ => Valid)
      (fun e _ => c → ¬ e.IsThrown) := by
  have hstay : ∀ {x : Run Server Unit} {beat : Bool},
      Triple (Tuned .DMX channel) x (fun _ => Tuned .DMX channel)
        (fun e _ => c → ¬ e.IsThrown) →
      Triple (Tuned .DMX channel) (do x; return beat) (fun _ => Valid)
        (fun e _ => c → ¬ e.IsThrown) := fun hx =>
    (hx.mono fun _ _ h => h.valid).returning
  have hpure : ∀ beat : Bool, Triple (Tuned .DMX channel) (pure beat)
      (fun _ => Valid) (fun e _ => c → ¬ e.IsThrown) :=
    fun _ => Triple.pure fun _ h => h.valid
  unfold dmxMode
  refine Triple.ite (fun _ => hpure true) fun _ => ?_
  refine Triple.ite (fun _ => triple_channelLeft.returning) fun _ => ?_
  refine Triple.ite (fun _ => triple_channelRight.returning) fun _ => ?_
  refine Triple.ite (fun _ => hstay (triple_changeChannel stepsBytes_up))
    fun _ => ?_
  refine Triple.ite (fun _ => hstay (triple_changeChannel stepsBytes_down))
    fun _ => ?_
  refine Triple.ite (fun _ => ?_) fun _ => Triple.ite (fun _ => ?_)
    fun _ => Triple.ite (fun _ => hstay triple_clearLights)
      fun _ => hpure false
  · exact (triple_confirm.conseq (fun _ h => h.held.steered)
      (fun _ _ h => h) fun _ _ he => he).returning
  · have hstate : Triple (Tuned .DMX channel) (setState .CONTROL_SELECTION)
        (fun _ => Held .CONTROL_SELECTION (-1))
        (fun e _ => c → ¬ e.IsThrown) :=
      Triple.modify fun _ h => h.held.setState .CONTROL_SELECTION
    exact hstate.bind fun _ => grounded_held.triple_revertScene.bind
      fun _ => triple_startDMXVisual.returning

/-! ## The presets -/

theorem Held.setPreset (h : Held mode index s) {preset : ℤ}
    (hpreset : 0 ≤ preset ∧ preset < PRESETS.length) :
    Held mode index { s with currentPresetIndex := preset } := by
  have hground := h.steered.ground
  exact ⟨⟨⟨hground.usable, hground.bytes, hground.light, hpreset,
    hground.delay, hground.steps, hground.scenes, hground.selected⟩,
    h.steered.state, h.steered.control, h.steered.compared, h.steered.level⟩,
    h.picked, h.index⟩

theorem triple_presetLeft :
    Triple (Held mode index) presetLeft (fun _ => Held mode index)
      (fun e _ => c → ¬ e.IsThrown) := by
  intro s h
  have hlength : PRESETS.length = 8 := rfl
  obtain ⟨hpos, hlt⟩ := h.steered.ground.preset
  unfold presetLeft
  rw [bind_of_ok (x := modify _) rfl, bind_of_ok (x := get) rfl]
  dsimp only
  by_cases hneg : s.currentPresetIndex - 1 < 0
  · rw [if_pos hneg]
    exact h.setPreset (by omega)
  · rw [if_neg hneg]
    exact h.setPreset (by omega)

theorem triple_presetRight :
    Triple (Held mode index) presetRight (fun _ => Held mode index)
      (fun e _ => c → ¬ e.IsThrown) := by
  intro s h
  have hlength : PRESETS.length = 8 := rfl
  obtain ⟨hpos, hlt⟩ := h.steered.ground.preset
  unfold presetRight
  rw [bind_of_ok (x := modify _) rfl, bind_of_ok (x := get) rfl]
  dsimp only
  by_cases hend : s.currentPresetIndex + 1 ≥ PRESETS.length
  · rw [if_pos hend]
    exact h.setPreset (by omega)
  · rw [if_neg hend]
    exact h.setPreset (by omega)

theorem triple_showPreset :
    Triple (Held mode index) showPreset (fun _ => Held mode index)
      (fun e _ => c → ¬ e.IsThrown) := by
  refine Grounded.triple_forSelected (fun _ h => h.selected)
    fun lights light hlight => ?_
  have hexit : Triple
      (fun s => Held mode index s ∧ s.selectedLights = some lights)
      (throw .exited : Run Server Unit)
      (fun _ s => Held mode index s ∧ s.selectedLights = some lights)
      (fun e _ => c → ¬ e.IsThrown) :=
    Triple.throw fun _ _ _ => nofun
  refine Triple.catchIOException_of ?_ hexit
  rintro s ⟨hs, hlights⟩
  have hground := hs.steered.ground
  obtain ⟨hpos, hlt⟩ := hground.preset
  have hindex : s.currentPresetIndex.toNat < PRESETS.length := by omega
  rw [bind_of_ok (x := get) rfl, if_neg (by omega),
    arrayGet_bind_of_lt hindex]
  refine (Triple.conseq ((grounded_held.given lights).triple_callLight
    (Light.calm_setColor _) fun t ht => ?_) (fun _ h => h) (fun _ _ h => h)
      fun _ _ he => ⟨he.1, fun hnot => absurd he.2 hnot⟩) s ⟨hs, hlights⟩
  have hground' := ht.1.steered.ground
  exact hground'.getElem? (hground'.selected lights ht.2 light hlight)

theorem safe_presetMode (command : WirelessCommand) :
    Triple (Held .PRESET 1) (presetMode command) (fun _ => Valid)
      (fun e _ => c → ¬ e.IsThrown) := by
  have hshow : Triple (Held .PRESET 1) showPreset (fun _ => Valid)
      (fun e _ => c → ¬ e.IsThrown) :=
    triple_showPreset.mono fun _ _ h => h.valid_preset
  unfold presetMode
  refine Triple.ite (fun _ => triple_presetLeft.bind fun _ =>
    hshow.returning) fun _ => ?_
  refine Triple.ite (fun _ => triple_presetRight.bind fun _ =>
    hshow.returning) fun _ => ?_
  refine Triple.ite (fun _ => ?_) fun _ => Triple.ite (fun _ => ?_)
    fun _ => Triple.pure fun _ h => h.valid_preset
  · exact (triple_confirm.conseq (fun _ h => h.steered)
      (fun _ _ h => h) fun _ _ he => he).returning
  · have hstate : Triple (Held .PRESET 1) (setState .CONTROL_SELECTION)
        (fun _ => Held .CONTROL_SELECTION 1)
        (fun e _ => c → ¬ e.IsThrown) :=
      Triple.modify fun _ h => h.setState .CONTROL_SELECTION
    exact hstate.bind fun _ => triple_startPresetVisual.returning

/-! ## The party -/

theorem isByte_dimmerFor {start : Int32} {bounds : List (Int32 × Int32)}
    (hstart : IsByte start)
    (hbounds : bounds.all fun bound => decide (IsByte bound.2))
    (gyroData : Int32) : IsByte (dimmerFor start bounds gyroData) := by
  induction bounds generalizing start with
  | nil => exact hstart
  | cons bound rest ih =>
      rw [List.all_cons, Bool.and_eq_true, decide_eq_true_eq] at hbounds
      refine ih ?_ hbounds.2
      dsimp only
      split_ifs
      · exact hbounds.1
      · exact hstart

theorem isByte_partyDimmer (gyroData : Int32) :
    IsByte (partyDimmer gyroData) :=
  isByte_dimmerFor (by decide) (by decide) gyroData

theorem isByte_scaryDimmer (gyroData : Int32) :
    IsByte (scaryDimmer gyroData) :=
  isByte_dimmerFor (by decide) (by decide) gyroData

/-- The show has `n` lights. -/
theorem grounded_sized (mode : Mode) (n : ℕ) :
    Grounded fun s => Steered mode s ∧ s.rig.profiles.length = n where
  ground := fun _ h => h.1.ground
  rig := fun s r hr h => ⟨grounded_steered.rig s r hr h.1, hr.length.trans h.2⟩
  slots := fun s slots h => ⟨grounded_steered.slots s slots h.1, h.2⟩
  move := fun s cursor hcursor h =>
    ⟨grounded_steered.move s cursor hcursor h.1, h.2⟩

/-- One light of the show. -/
theorem triple_showLight {n i : ℕ} (hi : i < n) {dv : Int32} (hdv : IsByte dv)
    (color : Color) :
    Triple (fun s => Steered mode s ∧ s.rig.profiles.length = n)
      ( tryIO do
        let light ← onRig (Rig.getLight i)
        onRig (Rig.callLight light (Light.setDimmerValue dv))
        onRig (Rig.callLight light (Light.setColor color)))
      (fun _ s => Steered mode s ∧ s.rig.profiles.length = n)
      (fun e _ => c → ¬ e.IsThrown) := by
  have hsized := grounded_sized mode n
  have hlight : ∀ s, (Steered mode s ∧ s.rig.profiles.length = n) →
      ∃ f, s.rig.profiles[i]? = some f ∧ Light.Usable f :=
    fun s h => h.1.ground.getElem? (h.2 ▸ hi)
  refine Grounded.triple_try ?_
  refine Triple.reads_bind (a := i) (fun s h => ?_) ?_
  · have hlt : (i : ℤ) < s.rig.profiles.length := Int.ofNat_lt.mpr (h.2 ▸ hi)
    unfold onRig Java.zoom
    rw [Rig.getLight_of_lt (Int.natCast_nonneg i) hlt]
    rfl
  · refine Triple.bind (hsized.triple_callLight
      (Light.calm_setDimmerValue dv) fun s h => ?_) fun _ =>
        hsized.triple_callLight (Light.calm_setColor color) hlight
    obtain ⟨f, hf, husable⟩ := hlight s h
    exact ⟨f, hf, husable.mounted, husable.dimmer, hdv⟩

theorem triple_showAll {dv : Int32} (hdv : IsByte dv) (color : ℕ → Color) :
    Triple (Steered mode) (showAll dv color) (fun _ => Steered mode)
      (fun e _ => c → ¬ e.IsThrown) := by
  refine Triple.get_bind_eq fun s hs => ?_
  have hsized : ∀ t, t = s →
      Steered mode t ∧ t.rig.profiles.length = s.rig.profiles.length := by
    rintro _ rfl
    exact ⟨hs, rfl⟩
  exact (Triple.forM fun i hi => triple_showLight (List.mem_range.mp hi) hdv
    (color i)).conseq hsized (fun _ _ h => h.1) fun _ _ he => he

theorem safe_gyroMode {dimmer : Int32 → Int32}
    (hdimmer : ∀ gyroData, IsByte (dimmer gyroData))
    (hneeds : ∀ s, Steered mode s → Valid s) (color : ℕ → Color)
    (command : WirelessCommand) :
    Triple (Steered mode) (gyroMode dimmer color command) (fun _ => Valid)
      (fun e _ => c → ¬ e.IsThrown) := by
  have hpure : ∀ beat : Bool, Triple (Steered mode) (pure beat)
      (fun _ => Valid) (fun e _ => c → ¬ e.IsThrown) :=
    fun _ => Triple.pure hneeds
  unfold gyroMode
  refine Triple.ite (fun _ => Triple.ite (fun _ => ?_) fun _ => hpure false)
    fun _ => Triple.ite (fun _ => ?_) fun _ => hpure true
  · exact ((triple_setState .IDLE).mono
      fun _ _ h => ⟨.IDLE, h, trivial⟩).returning
  · exact ((triple_showAll (hdimmer _) color).mono
      fun _ s h => hneeds s h).returning

end ChuckLight.Server
