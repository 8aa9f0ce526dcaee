import ChuckLight.Lighting.RigEffects
import ChuckLight.Threads.Dimming

/-!
# The dimmers of the DMX visual

The DMX visual reconsiders the direction of its dimmer value only after a pass
over all lights.  The value stays within 0 and 255 if and only if some number of
passes takes it from the high value to below the low value, and not below zero.
-/

namespace ChuckLight

open Java LightingDefines

namespace Light

/-- The fixture has a white channel, or the three channels of a color. -/
def ShowsWhite (f : FixtureProfile) : Prop :=
  (f.channelMap.lookup "white").isSome ∨
    ((f.channelMap.lookup "red").isSome ∧
      (f.channelMap.lookup "green").isSome ∧
        (f.channelMap.lookup "blue").isSome)

/-- The fixture can show white, and has a dimmer. -/
structure Dimmable (f : FixtureProfile) : Prop where
  white : ShowsWhite f
  dimmer : (f.channelMap.lookup "dimmer").isSome

/-- The call fails with an exception that nobody catches. -/
def Effect.Fails (effect : Effect) : Prop :=
  ∃ e, effect = .rejects e ∧ ∀ message, e ≠ .ioException message

variable {f : FixtureProfile} {dimmerVal : Int32}

theorem Mounted.whiteEffect_eq (h : Mounted f) (hwhite : ShowsWhite f) :
    ∃ ws, whiteEffect f 255 = .writes ws := by
  unfold whiteEffect
  cases hlookup : f.channelMap.lookup "white" with
  | some offset =>
      have hrange := h.offset _ _ hlookup
      have hbyte : IsByte 255 := by decide
      refine ⟨[(offset.toInt.toNat, 255)], ?_⟩
      dsimp only
      unfold channelEffect
      rw [if_neg (not_not.mpr hrange), if_neg (not_not.mpr hbyte)]
  | none =>
      have hrgb := hwhite.resolve_left (by
        rw [hlookup]
        exact Bool.false_ne_true)
      obtain ⟨red, hred⟩ := Option.isSome_iff_exists.mp hrgb.1
      obtain ⟨green, hgreen⟩ := Option.isSome_iff_exists.mp hrgb.2.1
      obtain ⟨blue, hblue⟩ := Option.isSome_iff_exists.mp hrgb.2.2
      dsimp only
      unfold colorEffect
      rw [hred, hgreen, hblue]
      exact ⟨_, rfl⟩

theorem fails_whiteEffect (hwhite : ¬ ShowsWhite f) :
    (whiteEffect f 255).Fails := by
  unfold whiteEffect
  cases hlookup : f.channelMap.lookup "white" with
  | some offset =>
      refine absurd (Or.inl ?_) hwhite
      rw [hlookup]
      rfl
  | none =>
      have hrgb := fun h => hwhite (.inr h)
      exact ⟨_, colorEffect_of_not Color.WHITE hrgb, fun _ => nofun⟩

theorem dimmerEffect_eq (hbyte : IsByte dimmerVal)
    (hdimmer : (f.channelMap.lookup "dimmer").isSome) :
    ∃ ws, dimmerEffect f dimmerVal = .writes ws := by
  obtain ⟨offset, hlookup⟩ := Option.isSome_iff_exists.mp hdimmer
  unfold dimmerEffect
  rw [if_neg (not_not.mpr hbyte), hlookup]
  exact ⟨_, rfl⟩

theorem fails_dimmerEffect
    (h : ¬ (IsByte dimmerVal ∧ (f.channelMap.lookup "dimmer").isSome)) :
    (dimmerEffect f dimmerVal).Fails := by
  unfold dimmerEffect
  by_cases hbyte : IsByte dimmerVal
  · rw [if_neg (not_not.mpr hbyte)]
    cases hlookup : f.channelMap.lookup "dimmer" with
    | some offset =>
        refine absurd ⟨hbyte, ?_⟩ h
        rw [hlookup]
        rfl
    | none => exact ⟨_, rfl, fun _ => nofun⟩
  · rw [if_pos hbyte]
    exact ⟨_, rfl, fun _ => nofun⟩

end Light

namespace DMXVisualThread

open Stage

theorem turn_eq (t : DMXVisualThread) :
    turn t = { t with direction := turned t.direction t.dimmerValue } := by
  unfold turn turned
  split_ifs <;> rfl

/-- The next dimmer value, handed to a method of a light. -/
def dimWith (setDimmerValue : Int32 → Run (Stage DMXVisualThread) Unit) :
    Run (Stage DMXVisualThread) Unit := do
  update fun t => { t with dimmerValue := t.dimmerValue + t.direction }
  setDimmerValue (← get).2.dimmerValue

/-- The round of a light, before its `catch`. -/
def tryLight (light : ℕ) : Run (Stage DMXVisualThread) Unit := do
  rig (Rig.callLight light (Light.setWhite 255))
  dimWith fun dimmerValue =>
    rig (Rig.callLight light (Light.setDimmerValue dimmerValue))

def showLight (light : ℕ) : Run (Stage DMXVisualThread) Unit :=
  catchIOException (tryLight light) (pure ())

theorem pass_eq : pass = (do
    forLights (← get).2.lights showLight
    update turn) := rfl

/-- The argument of the next call of `setDimmerValue`. -/
def value (t : DMXVisualThread) : Int32 := t.dimmerValue + t.direction

theorem dimWith_eq (method : Int32 → Run (Stage DMXVisualThread) Unit)
    (st : Stage DMXVisualThread) :
    dimWith method st =
      method (value st.2) (st.1, { st.2 with dimmerValue := value st.2 }) :=
  rfl

theorem eq_value_of_dimWith {st called : Stage DMXVisualThread}
    {dimmerVal : Int32}
    (h : ∀ method, dimWith method st = method dimmerVal called) :
    dimmerVal = value st.2 := by
  by_contra hne
  have hprobe := h fun v => if v = dimmerVal then pure () else throw .exited
  rw [dimWith_eq, if_neg (Ne.symm hne), if_pos rfl] at hprobe
  cases hprobe

/-- The pass comes to a call of `setDimmerValue` with the value: whatever method
stands there, this is its argument. -/
def Dims (st : Stage DMXVisualThread) (dimmerVal : Int32) : Prop :=
  ∃ lights light t t' called, st.2.lights = some lights ∧
    ComesTo showLight lights st light t ∧
    rig (Rig.callLight light (Light.setWhite 255)) t = .ok ⟨⟩ t' ∧
    ∀ method, dimWith method t' = method dimmerVal called

/-- The states between the passes of an animation of the lights.  The fixtures
may show something else in the meantime. -/
inductive Animated (r : Rig) (lights : List ℕ) : Stage DMXVisualThread → Prop
  | start : Animated r lights (r, new (some lights))
  | change {st : Stage DMXVisualThread} (h : Animated r lights st) {r' : Rig}
      (hr : st.1.Follows r') : Animated r lights (r', st.2)
  | pass {st st' : Stage DMXVisualThread} (h : Animated r lights st)
      (hrun : pass st = .ok ⟨⟩ st') : Animated r lights st'

/-! ## One light -/

/-- There is a fixture that can show white and be dimmed. -/
def Dimmable (r : Rig) (light : ℕ) : Prop :=
  ∃ f, r.profiles[light]? = some f ∧ Light.Dimmable f

variable {r r' : Rig} {light : ℕ} {f : FixtureProfile} {t : DMXVisualThread}

theorem Dimmable.of_setup (h : Dimmable r light)
    (hsetup : r'.profiles.map FixtureProfile.setup =
      r.profiles.map FixtureProfile.setup) : Dimmable r' light := by
  obtain ⟨f, hf, hdimmable⟩ := h
  obtain ⟨g, hg, hsetup⟩ := Rig.exists_getElem?_of_setup hsetup hf
  have hmap : g.channelMap = f.channelMap :=
    congrArg (·.1.channelMap) hsetup
  refine ⟨g, hg, ?_, ?_⟩
  · unfold Light.ShowsWhite
    rw [hmap]
    exact hdimmable.white
  · rw [hmap]
    exact hdimmable.dimmer

theorem dimmable_iff_of_follows (hr : r.Follows r') :
    Dimmable r' light ↔ Dimmable r light :=
  ⟨fun h => h.of_setup hr.setup.symm, fun h => h.of_setup hr.setup⟩

theorem setWhite_eq (h : r.Ready light f) (hwhite : Light.ShowsWhite f) :
    ∃ r', r.Follows r' ∧
      rig (Rig.callLight light (Light.setWhite 255)) (r, t) =
        .ok ⟨⟩ (r', t) := by
  obtain ⟨ws, hws⟩ := h.mounted.whiteEffect_eq hwhite
  have hgives := Light.gives_setWhite (l := ⟨r.dmx, f⟩) h.mounted h.noFault
    255
  rw [hws] at hgives
  obtain ⟨r', hrun, -⟩ := h.callLight_of_writes hgives
  have hfollows :=
    (Rig.shows_callLight (Light.calm_setWhite 255) light r).of_ok rfl hrun
  exact ⟨r', hfollows, rig_of_ok hrun⟩

theorem setDimmerValue_eq {dimmerVal : Int32} (h : r.Ready light f)
    (hdimmer : (f.channelMap.lookup "dimmer").isSome)
    (hbyte : IsByte dimmerVal) :
    ∃ r', r.Follows r' ∧
      rig (Rig.callLight light (Light.setDimmerValue dimmerVal)) (r, t) =
        .ok ⟨⟩ (r', t) := by
  obtain ⟨ws, hws⟩ := Light.dimmerEffect_eq hbyte hdimmer
  have hgives := Light.gives_setDimmerValue (l := ⟨r.dmx, f⟩) h.mounted
    h.noFault dimmerVal
  rw [hws] at hgives
  obtain ⟨r', hrun, -⟩ := h.callLight_of_writes hgives
  have hfollows := (Rig.shows_callLight (Light.calm_setDimmerValue dimmerVal)
    light r).of_ok rfl hrun
  exact ⟨r', hfollows, rig_of_ok hrun⟩

/-- The object after a round. -/
def advance (t : DMXVisualThread) : DMXVisualThread :=
  { t with dimmerValue := value t }

theorem tryLight_eq (hwhite :
    rig (Rig.callLight light (Light.setWhite 255)) (r, t) = .ok ⟨⟩ (r', t)) :
    tryLight light (r, t) =
      rig (Rig.callLight light (Light.setDimmerValue (value t)))
        (r', advance t) := by
  unfold tryLight
  rw [bind_of_ok hwhite]
  rfl

/-- The round of a light that can be dimmed, with a value within 0 and 255. -/
theorem showLight_eq (h : r.Ready light f) (hd : Light.Dimmable f)
    (hbyte : IsByte (value t)) :
    ∃ r', r.Follows r' ∧ showLight light (r, t) = .ok ⟨⟩ (r', advance t) := by
  obtain ⟨r₁, hr₁, hwhite⟩ := setWhite_eq (t := t) h hd.white
  obtain ⟨g, hg, hmap⟩ := h.of_follows hr₁
  obtain ⟨r₂, hr₂, hdimmer⟩ := setDimmerValue_eq (t := advance t) hg
    (by rw [hmap]; exact hd.dimmer) hbyte
  exact ⟨r₂, hr₁.trans hr₂,
    catchIOException_of_ok ((tryLight_eq hwhite).trans hdimmer)⟩

/-- Any other round ends the animation. -/
theorem showLight_fails (h : r.Ready light f)
    (hnot : ¬ (Light.Dimmable f ∧ IsByte (value t))) :
    ∃ e st, showLight light (r, t) = .error (.thrown e) st := by
  by_cases hshows : Light.ShowsWhite f
  · obtain ⟨r₁, hr₁, hwhite⟩ := setWhite_eq (t := t) h hshows
    obtain ⟨g, hg, hmap⟩ := h.of_follows hr₁
    have hdimmer : ¬ (IsByte (value t) ∧
        (g.channelMap.lookup "dimmer").isSome) := by
      rw [hmap]
      exact fun hc => hnot ⟨⟨hshows, hc.2⟩, hc.1⟩
    obtain ⟨e, heffect, he⟩ := Light.fails_dimmerEffect hdimmer
    have hgives := Light.gives_setDimmerValue (l := ⟨r₁.dmx, g⟩) hg.mounted
      hg.noFault (value t)
    rw [heffect] at hgives
    have hrun := rig_of_error (s := (r₁, advance t))
      (hg.callLight_of_rejects hgives)
    exact ⟨e, _, catchIOException_of_thrown
      ((tryLight_eq hwhite).trans hrun) he⟩
  · obtain ⟨e, heffect, he⟩ := Light.fails_whiteEffect hshows
    have hgives := Light.gives_setWhite (l := ⟨r.dmx, f⟩) h.mounted h.noFault
      255
    rw [heffect] at hgives
    have hrun := rig_of_error (s := (r, t)) (h.callLight_of_rejects hgives)
    exact ⟨e, _, catchIOException_of_thrown (bind_of_error hrun) he⟩

/-! ## A pass -/

variable {lights : List ℕ} {s : Ramp.State} {st st' : Stage DMXVisualThread}
  {n : ℕ}

/-- The values of a pass over the lights, from a state of the ramp on. -/
def InRange (count : ℕ) (s : Ramp.State) : Prop :=
  ∀ j, 0 < j → j ≤ count → 0 ≤ s.climb j ∧ s.climb j ≤ 51

theorem inRange_cons_iff {count : ℕ} :
    InRange (count + 1) s ↔ (0 ≤ s.climb 1 ∧ s.climb 1 ≤ 51) ∧
      InRange count { s with level := s.climb 1 } := by
  constructor
  · intro h
    refine ⟨h 1 Nat.one_pos (Nat.le_add_left 1 count), fun j hpos hj => ?_⟩
    rw [Ramp.State.climb_climb]
    exact h (1 + j) (by omega) (by omega)
  · rintro ⟨hone, hrest⟩ j hpos hj
    obtain ⟨j, rfl⟩ := Nat.exists_eq_add_of_le (show 1 ≤ j from hpos)
    rcases Nat.eq_zero_or_pos j with rfl | hjpos
    · exact hone
    · have hj' := hrest j hjpos (by omega)
      rwa [Ramp.State.climb_climb] at hj'

theorem Ramps.isByte_value (h : Ramps t.direction t.dimmerValue s)
    (hbyte : IsByte t.dimmerValue) :
    IsByte (value t) ↔ 0 ≤ s.climb 1 ∧ s.climb 1 ≤ 51 :=
  (h.step hbyte).isByte

/-- Within the range, the rounds of lights that can be dimmed return. -/
theorem showLights_eq (hmounted : ∀ light ∈ lights, r.Mounted light)
    (hfault : r.dmx.NoFault) (hd : ∀ light ∈ lights, Dimmable r light)
    (hramps : Ramps t.direction t.dimmerValue s)
    (hbyte : IsByte t.dimmerValue) (hrange : InRange lights.length s) :
    ∃ r' dimmerValue, r.Follows r' ∧
      lights.forM showLight (r, t) =
        .ok ⟨⟩ (r', { t with dimmerValue := dimmerValue }) ∧
      Ramps t.direction dimmerValue
        { s with level := s.climb lights.length } ∧
      IsByte dimmerValue := by
  induction lights generalizing r t s with
  | nil =>
      refine ⟨r, t.dimmerValue, .refl r, rfl, ?_, hbyte⟩
      rw [List.length_nil, Ramp.State.climb_zero]
      exact hramps
  | cons light rest ih =>
      obtain ⟨hone, hrest⟩ := inRange_cons_iff.mp hrange
      obtain ⟨f, hf⟩ :=
        (hmounted light (List.mem_cons_self ..)).exists_ready hfault
      obtain ⟨g, hg, hdimmable⟩ := hd light (List.mem_cons_self ..)
      cases hf.profile.symm.trans hg
      have hvalue := (Ramps.isByte_value hramps hbyte).mpr hone
      obtain ⟨r₁, hr₁, hround⟩ := showLight_eq hf hdimmable hvalue
      obtain ⟨r', dimmerValue, hr', hrun, hramps', hbyte'⟩ :=
        ih (t := advance t)
          (fun l hl => (hmounted l (List.mem_cons_of_mem _ hl)).of_follows hr₁)
          (hr₁.noFault hfault)
          (fun l hl => (dimmable_iff_of_follows hr₁).mpr
            (hd l (List.mem_cons_of_mem _ hl)))
          (hramps.step hbyte) hvalue hrest
      refine ⟨r', dimmerValue, hr₁.trans hr', ?_, ?_, hbyte'⟩
      · rw [List.forM_eq_forM, List.forM_cons, bind_of_ok hround]
        exact hrun
      · rw [Ramp.State.climb_climb, Nat.add_comm] at hramps'
        exact hramps'

/-- If the rounds return, the lights can be dimmed, and the values are within
the range. -/
theorem dimmable_of_showLights_eq_ok
    (hmounted : ∀ light ∈ lights, r.Mounted light) (hfault : r.dmx.NoFault)
    (hramps : Ramps t.direction t.dimmerValue s)
    (hbyte : IsByte t.dimmerValue)
    (hrun : lights.forM showLight (r, t) = .ok ⟨⟩ st') :
    (∀ light ∈ lights, Dimmable r light) ∧ InRange lights.length s := by
  induction lights generalizing r t s with
  | nil =>
      refine ⟨fun _ hl => absurd hl List.not_mem_nil, fun j hpos hj => ?_⟩
      exact absurd hj (Nat.not_le.mpr hpos)
  | cons light rest ih =>
      obtain ⟨f, hf⟩ :=
        (hmounted light (List.mem_cons_self ..)).exists_ready hfault
      have hround : Light.Dimmable f ∧ IsByte (value t) := by
        by_contra hnot
        obtain ⟨e, st, hfails⟩ := showLight_fails hf hnot
        rw [List.forM_eq_forM, List.forM_cons, bind_of_error hfails] at hrun
        cases hrun
      obtain ⟨hdimmable, hvalue⟩ := hround
      obtain ⟨r₁, hr₁, hfirst⟩ := showLight_eq hf hdimmable hvalue
      rw [List.forM_eq_forM, List.forM_cons, bind_of_ok hfirst] at hrun
      obtain ⟨hd, hrange⟩ := ih (t := advance t)
        (fun l hl => (hmounted l (List.mem_cons_of_mem _ hl)).of_follows hr₁)
        (hr₁.noFault hfault) (hramps.step hbyte) hvalue hrun
      refine ⟨fun l hl => ?_, inRange_cons_iff.mpr
        ⟨(Ramps.isByte_value hramps hbyte).mp hvalue, hrange⟩⟩
      rcases List.mem_cons.mp hl with rfl | hl
      · exact ⟨f, hf.profile, hdimmable⟩
      · exact (dimmable_iff_of_follows hr₁).mp (hd l hl)

theorem pass_of_lights (h : st.2.lights = some lights) :
    pass st = (do lights.forM showLight; update turn) st := by
  rw [pass_eq, bind_of_ok (x := get) rfl, h]
  rfl

/-! ## An animation -/

/-- The animation of the lights after `n` passes. -/
structure Paces (r : Rig) (lights : List ℕ) (n : ℕ)
    (st : Stage DMXVisualThread) : Prop where
  rig : r.Follows st.1
  lights_eq : st.2.lights = some lights
  ramps : Ramps st.2.direction st.2.dimmerValue
    ((Ramp.pass 5 51 lights.length)^[n] (Ramp.top 51))
  isByte : IsByte st.2.dimmerValue

/-- The fixtures of the lights are mounted, and no write fails. -/
structure Sound (r : Rig) (lights : List ℕ) : Prop where
  mounted : ∀ light ∈ lights, r.Mounted light
  noFault : r.dmx.NoFault

theorem Sound.of_follows (h : Sound r lights) (hr : r.Follows r') :
    Sound r' lights :=
  ⟨fun l hl => (h.mounted l hl).of_follows hr, hr.noFault h.noFault⟩

theorem paces_start : Paces r lights 0 (r, new (some lights)) := by
  have hbyte : IsByte 255 := by decide
  exact ⟨.refl r, rfl, ramps_top, hbyte⟩

/-- The next pass returns if the lights can be dimmed and its values are within
the range. -/
theorem Paces.pass_eq (h : Paces r lights n st) (hr : Sound r lights)
    (hd : ∀ light ∈ lights, Dimmable r light)
    (hrange : InRange lights.length
      ((Ramp.pass 5 51 lights.length)^[n] (Ramp.top 51))) :
    ∃ st', pass st = .ok ⟨⟩ st' ∧ Paces r lights (n + 1) st' := by
  have hst := hr.of_follows h.rig
  obtain ⟨r', dimmerValue, hr', hrun, hramps, hbyte⟩ := showLights_eq
    (t := st.2) hst.mounted hst.noFault
    (fun l hl => (dimmable_iff_of_follows h.rig).mpr (hd l hl)) h.ramps
    h.isByte hrange
  refine ⟨(r', turn { st.2 with dimmerValue := dimmerValue }), ?_, ?_⟩
  · rw [pass_of_lights h.lights_eq, bind_of_ok hrun]
    rfl
  · rw [turn_eq]
    refine ⟨h.rig.trans hr', h.lights_eq, ?_, hbyte⟩
    rw [Function.iterate_succ_apply']
    exact hramps.turned

/-- A pass that returns has shown that the lights can be dimmed and that its
values are within the range. -/
theorem Paces.of_pass_eq_ok (h : Paces r lights n st) (hr : Sound r lights)
    (hrun : pass st = .ok ⟨⟩ st') :
    (∀ light ∈ lights, Dimmable r light) ∧
      InRange lights.length
        ((Ramp.pass 5 51 lights.length)^[n] (Ramp.top 51)) := by
  have hst := hr.of_follows h.rig
  rw [pass_of_lights h.lights_eq] at hrun
  obtain ⟨_, _, hrounds, -⟩ := exists_of_bind_eq_ok hrun
  obtain ⟨hd, hrange⟩ := dimmable_of_showLights_eq_ok (t := st.2) hst.mounted
    hst.noFault h.ramps h.isByte hrounds
  exact ⟨fun l hl => (dimmable_iff_of_follows h.rig).mp (hd l hl), hrange⟩

theorem Paces.pass (h : Paces r lights n st) (hr : Sound r lights)
    (hrun : pass st = .ok ⟨⟩ st') : Paces r lights (n + 1) st' := by
  obtain ⟨hd, hrange⟩ := h.of_pass_eq_ok hr hrun
  obtain ⟨st'', hrun', hpaces⟩ := h.pass_eq hr hd hrange
  cases hrun.symm.trans hrun'
  exact hpaces

theorem exists_paces (hr : Sound r lights) (h : Animated r lights st) :
    ∃ n, Paces r lights n st := by
  induction h with
  | start => exact ⟨0, paces_start⟩
  | change _ hfollows ih =>
      obtain ⟨n, hn⟩ := ih
      exact ⟨n, hn.rig.trans hfollows, hn.lights_eq, hn.ramps, hn.isByte⟩
  | pass _ hrun ih =>
      obtain ⟨n, hn⟩ := ih
      exact ⟨n + 1, hn.pass hr hrun⟩

/-- The next value after the rounds of some lights is that of the ramp. -/
theorem Paces.rounds_eq (h : Paces r lights n st) (hr : Sound r lights)
    {done : List ℕ} (hmem : ∀ light ∈ done, light ∈ lights)
    (hd : ∀ light ∈ done, Dimmable r light)
    (hrange : InRange done.length
      ((Ramp.pass 5 51 lights.length)^[n] (Ramp.top 51))) :
    ∃ r' t, st.1.Follows r' ∧ done.forM showLight st = .ok ⟨⟩ (r', t) ∧
      (IsByte (value t) ↔
        0 ≤ ((Ramp.pass 5 51 lights.length)^[n] (Ramp.top 51)).climb
            (done.length + 1) ∧
          ((Ramp.pass 5 51 lights.length)^[n] (Ramp.top 51)).climb
            (done.length + 1) ≤ 51) := by
  have hst := hr.of_follows h.rig
  obtain ⟨r', dimmerValue, hr', hrun, hramps, hbyte⟩ := showLights_eq
    (t := st.2) (fun l hl => hst.mounted l (hmem l hl)) hst.noFault
    (fun l hl => (dimmable_iff_of_follows h.rig).mpr (hd l hl))
    h.ramps h.isByte hrange
  refine ⟨r', _, hr', hrun, ?_⟩
  rw [← Ramp.State.climb_climb]
  exact Ramps.isByte_value hramps hbyte

theorem Paces.isByte_of_range (h : Paces r lights n st) (hr : Sound r lights)
    (hd : ∀ light ∈ lights, Dimmable r light)
    (hrange : InRange lights.length
      ((Ramp.pass 5 51 lights.length)^[n] (Ramp.top 51)))
    {dimmerVal : Int32} (hdims : Dims st dimmerVal) : IsByte dimmerVal := by
  obtain ⟨_, light, t, t', called, hlights, ⟨done, rest, rfl, hrounds⟩, hwhite,
    hcall⟩ := hdims
  cases hlights.symm.trans h.lights_eq
  have hmem : ∀ l ∈ done, l ∈ done ++ light :: rest := fun l hl =>
    List.mem_append_left _ hl
  have hlength : done.length + 1 ≤ (done ++ light :: rest).length := by
    rw [List.length_append, List.length_cons]
    omega
  obtain ⟨r', t₁, -, hrun, hvalue⟩ := h.rounds_eq hr hmem
    (fun l hl => hd l (hmem l hl)) fun j hpos hj => hrange j hpos (by omega)
  cases hrounds.symm.trans hrun
  rw [eq_value_of_dimWith hcall, snd_of_rig_eq_ok hwhite]
  exact hvalue.mpr (hrange (done.length + 1) (Nat.succ_pos _) hlength)

/-- The pass comes to the light after some rounds. -/
theorem Paces.exists_dims (h : Paces r lights n st) (hr : Sound r lights)
    (hd : ∀ light ∈ lights, Dimmable r light) {done rest : List ℕ}
    (hlights : lights = done ++ light :: rest)
    (hrange : InRange done.length
      ((Ramp.pass 5 51 lights.length)^[n] (Ramp.top 51))) :
    ∃ v, Dims st v ∧ (IsByte v ↔
      0 ≤ ((Ramp.pass 5 51 lights.length)^[n] (Ramp.top 51)).climb
          (done.length + 1) ∧
        ((Ramp.pass 5 51 lights.length)^[n] (Ramp.top 51)).climb
          (done.length + 1) ≤ 51) := by
  have hmem : ∀ l ∈ done, l ∈ lights := fun l hl =>
    hlights ▸ List.mem_append_left _ hl
  have hlight : light ∈ lights :=
    hlights ▸ List.mem_append_right _ (List.mem_cons_self ..)
  obtain ⟨r', t, hr', hrun, hvalue⟩ := h.rounds_eq hr hmem
    (fun l hl => hd l (hmem l hl)) hrange
  have hfollows := h.rig.trans hr'
  obtain ⟨f, hf⟩ := ((hr.mounted light hlight).of_follows hfollows).exists_ready
    (hfollows.noFault hr.noFault)
  obtain ⟨g, hg, hdimmable⟩ :=
    (dimmable_iff_of_follows hfollows).mpr (hd light hlight)
  cases hf.profile.symm.trans hg
  obtain ⟨r₁, -, hwhite⟩ := setWhite_eq (t := t) hf hdimmable.white
  exact ⟨value t, ⟨lights, light, (r', t), (r₁, t), _, h.lights_eq,
    ⟨done, rest, hlights, hrun⟩, hwhite, fun _ => rfl⟩, hvalue⟩

/-- All values of the animation are within 0 and 255, and all passes return. -/
def StaysInRange (r : Rig) (lights : List ℕ) : Prop :=
  ∀ st, Animated r lights st →
    (∀ v, Dims st v → IsByte v) ∧ ∃ st', pass st = .ok ⟨⟩ st'

theorem StaysInRange.exists_paces (h : StaysInRange r lights)
    (hr : Sound r lights) (n : ℕ) :
    ∃ st, Animated r lights st ∧ Paces r lights n st := by
  induction n with
  | zero => exact ⟨_, .start, paces_start⟩
  | succ n ih =>
      obtain ⟨st, hanimated, hn⟩ := ih
      obtain ⟨-, st', hrun⟩ := h st hanimated
      exact ⟨st', hanimated.pass hrun, hn.pass hr hrun⟩

theorem StaysInRange.inRange (h : StaysInRange r lights)
    (hr : Sound r lights) (n : ℕ) :
    (∀ light ∈ lights, Dimmable r light) ∧
      InRange lights.length
        ((Ramp.pass 5 51 lights.length)^[n] (Ramp.top 51)) := by
  obtain ⟨st, hanimated, hn⟩ := h.exists_paces hr n
  obtain ⟨-, st', hrun⟩ := h st hanimated
  exact hn.of_pass_eq_ok hr hrun

theorem ramp_inRange_iff (hne : lights ≠ []) :
    (∀ n, InRange lights.length
      ((Ramp.pass 5 51 lights.length)^[n] (Ramp.top 51))) ↔
      ∃ m, 46 < lights.length * m ∧ lights.length * m ≤ 51 :=
  have hlow : 0 < 5 := by decide
  Ramp.inRange_iff (List.length_pos_of_ne_nil hne) hlow (by decide)

/-- The animation stays in range if and only if the lights can be dimmed and a
multiple of their number takes the dimmer to below the low value and not below
zero. -/
theorem staysInRange_iff (hr : Sound r lights) (hne : lights ≠ []) :
    StaysInRange r lights ↔ (∀ light ∈ lights, Dimmable r light) ∧
      ∃ m, 46 < lights.length * m ∧ lights.length * m ≤ 51 := by
  rw [← ramp_inRange_iff hne]
  constructor
  · intro h
    exact ⟨(h.inRange hr 0).1, fun n => (h.inRange hr n).2⟩
  · rintro ⟨hd, hrange⟩ st hanimated
    obtain ⟨n, hn⟩ := exists_paces hr hanimated
    obtain ⟨st', hrun, -⟩ := hn.pass_eq hr hd (hrange n)
    exact ⟨fun v hv => hn.isByte_of_range hr hd (hrange n) hv, st', hrun⟩

/-! ## Lights in a row -/

open Process

/-- A light with three colors and a dimmer at each fourth address. -/
def lightsInRow (count : ℕ) : Rig :=
  ⟨blackout, (List.range count).map fun i =>
    { parLight with address := Int32.ofNat (1 + 4 * i) }⟩

theorem getElem?_lightsInRow {count i : ℕ} (hi : i < count) :
    (lightsInRow count).profiles[i]? =
      some { parLight with address := Int32.ofNat (1 + 4 * i) } := by
  show ((List.range count).map _)[i]? = _
  rw [List.getElem?_map, List.getElem?_range hi]
  rfl

theorem dimmable_lightsInRow {count i : ℕ} (hi : i < count) :
    Dimmable (lightsInRow count) i :=
  ⟨_, getElem?_lightsInRow hi, .inr ⟨rfl, rfl, rfl⟩, rfl⟩

theorem sound_lightsInRow {count : ℕ} (hcount : count ≤ 128) :
    Sound (lightsInRow count) (List.range count) := by
  refine ⟨fun i hi => ?_, rfl⟩
  have hlt := List.mem_range.mp hi
  have haddress : (Int32.ofNat (1 + 4 * i)).toInt = (1 + 4 * i : ℕ) :=
    Int32.toInt_ofNat_of_lt (by omega)
  exact ⟨_, getElem?_lightsInRow hlt,
    mounted_parLight (by omega) (by omega)⟩

theorem staysInRange_eightLights :
    StaysInRange (lightsInRow 8) (List.range 8) :=
  (staysInRange_iff (sound_lightsInRow (by decide)) (by decide)).mpr
    ⟨fun _ hi => dimmable_lightsInRow (List.mem_range.mp hi), 6, by decide,
      by decide⟩

theorem iterate_pass_nine {n : ℕ} (hn : n < 6) :
    (Ramp.pass 5 51 9)^[n] (Ramp.top 51) = ⟨false, 51 - (9 * n : ℕ)⟩ :=
  Ramp.iterate_pass_top (m := 6) (fun i hi => by omega) hn

theorem climb_down (level : ℤ) (j : ℕ) :
    (⟨false, level⟩ : Ramp.State).climb j = level - j := rfl

/-- With nine lights the sixth pass takes the dimmer below zero. -/
theorem dims_nineLights :
    ∃ st v, Animated (lightsInRow 9) (List.range 9) st ∧ Dims st v ∧
      ¬ IsByte v := by
  have hr : Sound (lightsInRow 9) (List.range 9) :=
    sound_lightsInRow (by decide)
  have hd : ∀ light ∈ List.range 9, Dimmable (lightsInRow 9) light :=
    fun _ hi => dimmable_lightsInRow (List.mem_range.mp hi)
  have hpaces : ∀ n < 6, ∃ st, Animated (lightsInRow 9) (List.range 9) st ∧
      Paces (lightsInRow 9) (List.range 9) n st := by
    intro n hn
    induction n with
    | zero => exact ⟨_, .start, paces_start⟩
    | succ n ih =>
        obtain ⟨st, hanimated, hst⟩ := ih (by omega)
        obtain ⟨st', hrun, hst'⟩ := hst.pass_eq hr hd (by
          rw [List.length_range, iterate_pass_nine (by omega)]
          intro j _ hj
          rw [climb_down]
          constructor <;> omega)
        exact ⟨st', hanimated.pass hrun, hst'⟩
  obtain ⟨st, hanimated, hst⟩ := hpaces 5 (by decide)
  have hsplit : List.range 9 = List.range 6 ++ 6 :: [7, 8] := by decide
  obtain ⟨v, hdims, hv⟩ := hst.exists_dims hr hd hsplit (by
      rw [List.length_range, List.length_range, iterate_pass_nine (by decide)]
      intro j _ hj
      rw [climb_down]
      constructor <;> omega)
  refine ⟨st, v, hanimated, hdims, fun hbyte => ?_⟩
  have hlo := (hv.mp hbyte).1
  rw [List.length_range, List.length_range, iterate_pass_nine (by decide),
    climb_down] at hlo
  omega

end DMXVisualThread

end ChuckLight
