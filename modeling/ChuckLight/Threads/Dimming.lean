import ChuckLight.Support.Ramp
import ChuckLight.Support.Rounds
import ChuckLight.Threads.Passes
import ChuckLight.Threads.ServerRun

/-!
# The dimmer of an animation

Two animations move a dimmer value down and up in steps.  The value is a level
on a ramp, in units of the step.  The highlight thread reconsiders the direction
before every step, and its values stay within 0 and 255, whatever happens to its
lights between the passes.
-/

namespace ChuckLight

open Java LightingDefines

/-- The direction after a look at the dimmer value. -/
def turned (direction dimmerValue : Int32) : Int32 :=
  if direction = -1 * HIGHLIGHT_DIMMER_STEP ∧
      dimmerValue < HIGHLIGHT_DIMMER_LOW_VAL then HIGHLIGHT_DIMMER_STEP
  else if direction = HIGHLIGHT_DIMMER_STEP ∧
      dimmerValue ≥ HIGHLIGHT_DIMMER_HIGH_VAL then -1 * HIGHLIGHT_DIMMER_STEP
  else direction

/-- The dimmer is in a state of the ramp. -/
structure Ramps (direction dimmerValue : Int32) (s : Ramp.State) : Prop where
  direction_eq : direction =
    if s.up then HIGHLIGHT_DIMMER_STEP else -1 * HIGHLIGHT_DIMMER_STEP
  level_eq : dimmerValue.toInt = 5 * s.level

variable {direction dimmerValue : Int32} {s : Ramp.State}

theorem ramps_top : Ramps (-1 * HIGHLIGHT_DIMMER_STEP) 255 (Ramp.top 51) :=
  ⟨rfl, rfl⟩

theorem Ramps.isByte (h : Ramps direction dimmerValue s) :
    IsByte dimmerValue ↔ 0 ≤ s.level ∧ s.level ≤ 51 := by
  have hlevel := h.level_eq
  unfold IsByte
  constructor
  · rintro ⟨hlo, hhi⟩
    constructor <;> omega
  · rintro ⟨hlo, hhi⟩
    constructor <;> omega

/-- The direction turns as that of the ramp does. -/
theorem Ramps.turned (h : Ramps direction dimmerValue s) :
    Ramps (turned direction dimmerValue) dimmerValue (Ramp.turn 5 51 s) := by
  obtain ⟨up, level⟩ := s
  obtain ⟨hdirection, hlevel⟩ := h
  have hval : dimmerValue.toInt = 5 * level := hlevel
  have hlow : dimmerValue < HIGHLIGHT_DIMMER_LOW_VAL ↔ level < (5 : ℕ) := by
    have h25 : HIGHLIGHT_DIMMER_LOW_VAL.toInt = 25 := rfl
    rw [Int32.lt_iff_toInt_lt, h25]
    omega
  have hhigh : dimmerValue ≥ HIGHLIGHT_DIMMER_HIGH_VAL ↔
      level ≥ (51 : ℕ) := by
    have h255 : HIGHLIGHT_DIMMER_HIGH_VAL.toInt = 255 := rfl
    rw [ge_iff_le, Int32.le_iff_toInt_le, h255]
    omega
  cases up with
  | false =>
      have hdown : direction = -1 * HIGHLIGHT_DIMMER_STEP := hdirection
      have hne : ¬ (-1 * HIGHLIGHT_DIMMER_STEP = HIGHLIGHT_DIMMER_STEP ∧
          dimmerValue ≥ HIGHLIGHT_DIMMER_HIGH_VAL) := fun hc =>
        absurd hc.1 (by decide)
      subst hdown
      unfold ChuckLight.turned
      by_cases hlt : level < (5 : ℕ)
      · rw [Ramp.turn_down_of_lt hlt, if_pos ⟨rfl, hlow.mpr hlt⟩]
        exact ⟨rfl, hlevel⟩
      · rw [Ramp.turn_down_of_le (Int.not_lt.mp hlt),
          if_neg fun hc => hlt (hlow.mp hc.2), if_neg hne]
        exact ⟨rfl, hlevel⟩
  | true =>
      have hup : direction = HIGHLIGHT_DIMMER_STEP := hdirection
      have hne : ¬ (HIGHLIGHT_DIMMER_STEP = -1 * HIGHLIGHT_DIMMER_STEP ∧
          dimmerValue < HIGHLIGHT_DIMMER_LOW_VAL) := fun hc =>
        absurd hc.1 (by decide)
      subst hup
      unfold ChuckLight.turned
      by_cases hge : (51 : ℕ) ≤ level
      · rw [Ramp.turn_up_of_le hge, if_neg hne, if_pos ⟨rfl, hhigh.mpr hge⟩]
        exact ⟨rfl, hlevel⟩
      · rw [Ramp.turn_up_of_lt (Int.not_le.mp hge), if_neg hne,
          if_neg fun hc => hge (hhigh.mp hc.2)]
        exact ⟨rfl, hlevel⟩

/-- A step of the dimmer is a step on the ramp. -/
theorem Ramps.step (h : Ramps direction dimmerValue s)
    (hbyte : IsByte dimmerValue) :
    Ramps direction (dimmerValue + direction)
      { s with level := s.climb 1 } := by
  obtain ⟨up, level⟩ := s
  obtain ⟨hdirection, hlevel⟩ := h
  obtain ⟨hlo, hhi⟩ := hbyte
  have hval : dimmerValue.toInt = 5 * level := hlevel
  refine ⟨hdirection, ?_⟩
  cases up with
  | false =>
      have hdown : direction.toInt = -5 := congrArg Int32.toInt hdirection
      rw [toInt_add_of_le (by omega) (by omega)]
      show dimmerValue.toInt + direction.toInt = 5 * (level - (1 : ℕ))
      omega
  | true =>
      have hup : direction.toInt = 5 := congrArg Int32.toInt hdirection
      rw [toInt_add_of_le (by omega) (by omega)]
      show dimmerValue.toInt + direction.toInt = 5 * (level + (1 : ℕ))
      omega

open Stage

/-! ## Highlight -/

namespace HighlightThread

theorem turn_eq (t : HighlightThread) :
    turn t = { t with direction := turned t.direction t.dimmerValue } := by
  unfold turn turned
  split_ifs <;> rfl

/-- The pass, cut off after `n` lights when it finds `running` cleared. -/
def passUpTo (n : ℕ) : Run (Stage HighlightThread) Unit := do
  acquire
  ((← get).2.lights.take n).forM passLight
  update fun t => { t with updateDefaultColor := false }
  release

/-- What comes before the dimmer step of a light. -/
def refresh (light : ℕ) : Run (Stage HighlightThread) Unit := do
  if (← get).2.updateDefaultColor then refreshColor light

/-- The argument of the next call of `setDimmerValue`. -/
def value (t : HighlightThread) : Int32 :=
  (turn t).dimmerValue + (turn t).direction

/-- The object after a dimmer step. -/
def advance (t : HighlightThread) : HighlightThread :=
  { turn t with dimmerValue := value t }

theorem passLight_eq (light : ℕ) (st : Stage HighlightThread) :
    passLight light st = (do refresh light; dim light) st := by
  unfold passLight refresh
  rw [bind_of_ok (x := get) rfl]
  cases hupdate : st.2.updateDefaultColor with
  | false =>
      have hskip : (do
          if (← get).2.updateDefaultColor then refreshColor light :
            Run (Stage HighlightThread) Unit) st = .ok ⟨⟩ st := by
        rw [bind_of_ok (x := get) rfl, hupdate]
        rfl
      rw [bind_of_ok hskip]
      rfl
  | true =>
      have hrefresh : (do
          if (← get).2.updateDefaultColor then refreshColor light :
            Run (Stage HighlightThread) Unit) st = refreshColor light st := by
        rw [bind_of_ok (x := get) rfl, hupdate]
        rfl
      rw [if_pos rfl]
      cases hrun : refreshColor light st with
      | ok _ st' =>
          rw [bind_of_ok hrun, bind_of_ok (hrefresh.trans hrun)]
      | error e st' =>
          rw [bind_of_error hrun, bind_of_error (hrefresh.trans hrun)]

theorem dim_eq (light : ℕ) (st : Stage HighlightThread) :
    dim light st =
      catchIOException
        (rig (Rig.callLight light (Light.setDimmerValue (value st.2))))
        (pure ()) (st.1, advance st.2) := rfl

theorem dimWith_eq (method : Int32 → Run (Stage HighlightThread) Unit)
    (st : Stage HighlightThread) :
    dimWith method st = catchIOException (method (value st.2)) (pure ())
      (st.1, advance st.2) := rfl

/-- A method that only accepts one argument tells it apart. -/
theorem eq_value_of_dimWith {st called : Stage HighlightThread}
    {dimmerVal : Int32} (h : ∀ method, dimWith method st =
      catchIOException (method dimmerVal) (pure ()) called) :
    dimmerVal = value st.2 := by
  by_contra hne
  have hprobe := h fun v => if v = dimmerVal then pure () else throw .exited
  rw [dimWith_eq, if_neg (Ne.symm hne), if_pos rfl] at hprobe
  cases hprobe

/-- A pass that nothing cuts off visits all lights. -/
theorem passUpTo_of_le {n : ℕ} {st : Stage HighlightThread}
    (h : st.2.lights.length ≤ n) : passUpTo n st = pass st := by
  unfold passUpTo pass
  cases hrun : acquire st with
  | ok _ started =>
      have hlights : started.2.lights = st.2.lights :=
        (follows_acquire.of_ok (Follows.refl .highlight st) hrun).object.1
      rw [bind_of_ok hrun, bind_of_ok hrun, bind_of_ok (x := get) rfl,
        bind_of_ok (x := get) rfl, hlights, List.take_of_length_le h]
  | error e started => rw [bind_of_error hrun, bind_of_error hrun]

/-- The pass comes to a call of `setDimmerValue` with the value: whatever method
stands there, this is its argument. -/
def Dims (st : Stage HighlightThread) (dimmerVal : Int32) : Prop :=
  ∃ started light t t' called, acquire st = .ok ⟨⟩ started ∧
    ComesTo passLight st.2.lights started light t ∧
    refresh light t = .ok ⟨⟩ t' ∧
    ∀ method, dimWith method t' =
      catchIOException (method dimmerVal) (pure ()) called

/-- The states of an animation.  Between the passes, and by a pass that is cut
off, everything may change but the local variables of `run`. -/
inductive Animated : Stage HighlightThread → Prop
  | start (r : Rig) : Animated (r, new)
  | change {st st' : Stage HighlightThread} (h : Animated st)
      (hdirection : st'.2.direction = st.2.direction)
      (hdimmerValue : st'.2.dimmerValue = st.2.dimmerValue) : Animated st'
  | pass {st : Stage HighlightThread} (h : Animated st) (n : ℕ) :
      Animated (stateAfter (passUpTo n) st)

/-- The next step of the dimmer stays on the ramp. -/
def Swings (t : HighlightThread) : Prop :=
  ∃ s, Ramps t.direction t.dimmerValue s ∧
    Ramp.Between 51 1 47 (Ramp.turn 5 51 s)

theorem reaches_bounds : Ramp.Reaches 5 51 1 47 :=
  ⟨by decide, by decide, fun i hi => by omega⟩

theorem swings_new : Swings new :=
  ⟨Ramp.top 51, ramps_top, Ramp.between_top (by decide) reaches_bounds⟩

/-- The step takes the dimmer to a byte, and the one after it stays on the
ramp. -/
theorem Swings.advance {t : HighlightThread} (h : Swings t) :
    IsByte (value t) ∧ Swings (advance t) := by
  obtain ⟨s, hramps, hbetween⟩ := h
  have hturned := hramps.turned
  have hstart := hbetween.climb reaches_bounds (Nat.zero_le 1)
  have hend := hbetween.climb reaches_bounds (Nat.le_refl 1)
  have hbyte : IsByte t.dimmerValue := hturned.isByte.mpr (by
    rwa [Ramp.State.climb_zero] at hstart)
  have hstep := hturned.step hbyte
  have hvalue : value t =
      t.dimmerValue + turned t.direction t.dimmerValue := by
    unfold value
    rw [turn_eq]
  have hdirection : (HighlightThread.advance t).direction =
      turned t.direction t.dimmerValue := by
    unfold HighlightThread.advance
    rw [turn_eq]
  rw [← hvalue] at hstep
  refine ⟨hstep.isByte.mpr hend, _, ?_,
    hbetween.pass Nat.one_pos reaches_bounds⟩
  rw [hdirection]
  exact hstep

/-- The dimmer of the thread swings. -/
def Swinging (st : Stage HighlightThread) : Prop := Swings st.2

theorem swinging_rig {α : Type} (x : Run Rig α) :
    Preserves Swinging (rig x) :=
  Preserves.zoom x fun _ _ h => h

theorem swinging_acquire : Preserves Swinging acquire :=
  Preserves.get_bind fun _ => Preserves.ite (Preserves.modify fun _ h => h)
    (Preserves.throw _)

theorem swinging_refresh (light : ℕ) : Preserves Swinging (refresh light) := by
  refine Preserves.get_bind fun _ => Preserves.ite ?_ (Preserves.pure _)
  refine (swinging_rig _).bind fun _ => (swinging_rig _).bind fun _ => ?_
  refine Preserves.ite ?_ (Preserves.pure _)
  exact (swinging_rig _).bind fun _ =>
    Preserves.catchIOException (swinging_rig _) (Preserves.throw _)

theorem swinging_dim (light : ℕ) : Preserves Swinging (dim light) := by
  intro st h
  rw [dim_eq]
  exact Preserves.catchIOException (swinging_rig _) (Preserves.pure _)
    (st.1, advance st.2) h.advance.2

theorem swinging_passLight (light : ℕ) :
    Preserves Swinging (passLight light) := by
  intro st h
  rw [passLight_eq]
  exact ((swinging_refresh light).bind fun _ => swinging_dim light) st h

theorem swinging_passUpTo (n : ℕ) : Preserves Swinging (passUpTo n) := by
  refine swinging_acquire.bind fun _ => Preserves.get_bind fun _ => ?_
  refine (Preserves.forM fun light _ => swinging_passLight light).bind
    fun _ => ?_
  exact Preserves.bind (Preserves.modify fun _ h => h) fun _ =>
    Preserves.modify fun _ h => h

theorem swinging_of_animated {st : Stage HighlightThread} (h : Animated st) :
    Swinging st := by
  induction h with
  | start r => exact swings_new
  | @change st st' _ hdirection hdimmerValue ih =>
      obtain ⟨s, hramps, hbetween⟩ := ih
      refine ⟨s, ?_, hbetween⟩
      rw [hdirection, hdimmerValue]
      exact hramps
  | pass _ n ih => exact (swinging_passUpTo n).stateAfter ih

/-- Whatever happens to the lights between the passes, the values for the
dimmers are within 0 and 255. -/
theorem isByte_of_dims {st : Stage HighlightThread} (h : Animated st)
    {dimmerVal : Int32} (hdims : Dims st dimmerVal) : IsByte dimmerVal := by
  obtain ⟨started, light, t, t', called, hacquire, hcomes, hrefresh, hcall⟩ :=
    hdims
  have hstarted : Swinging started :=
    swinging_acquire.of_ok (swinging_of_animated h) hacquire
  have ht : Swinging t :=
    hcomes.invariant (fun light _ => (swinging_passLight light).leads) hstarted
  rw [eq_value_of_dimWith hcall]
  exact ((swinging_refresh light).of_ok ht hrefresh).advance.1

/-- The thread with the first light of a show highlighted. -/
def oneHighlighted : Stage HighlightThread :=
  (⟨Process.blackout, [Process.parLight]⟩,
    { new with lights := [0], savedValues := [[0, 0, 0, 0]] })

theorem isByte_of_dims_oneHighlighted :
    Dims oneHighlighted 250 ∧ IsByte 250 := by
  have hanimated : Animated oneHighlighted :=
    (Animated.start oneHighlighted.1).change rfl rfl
  have hdims : Dims oneHighlighted 250 :=
    ⟨_, 0, _, _, _, rfl, ⟨[], [], rfl, rfl⟩, rfl, fun _ => rfl⟩
  exact ⟨hdims, isByte_of_dims hanimated hdims⟩

end HighlightThread

end ChuckLight
