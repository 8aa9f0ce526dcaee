import ChuckLight.Firmware.MainLoop
import ChuckLight.Support.Playlist

/-!
# The LEDs of the controller

`set_leds` shows the mode.  While no base station is known, the LEDs flash a
text in Morse code instead: `pre_connect_animation` goes through the signs of
the text, and the function of each sign counts its calls in a static variable.
-/

namespace ChuckLight.Firmware

open UdpController Playlist

def CHASE_MODE : UInt8 := 0
def LIGHT_SELECTION_MODE : UInt8 := 2
def CONTROL_SELECTION_MODE : UInt8 := 3
def DMX_MODE : UInt8 := 5
def PRESET_MODE : UInt8 := 6

namespace LedController

def HIGH : Bool := true
def LOW : Bool := false
def TIMER_UNIT : ℕ := 113

/-- The levels of `RED_PIN`, `GREEN_PIN` and `BLUE_PIN`. -/
structure Leds where
  red : Bool
  green : Bool
  blue : Bool
  deriving DecidableEq

def Leds.all (level : Bool) : Leds := ⟨level, level, level⟩

def initLedController : Leds := .all HIGH

/-- What `set_leds` writes for a mode. -/
def levelsOf (mode : UInt8) : Option Leds :=
  if mode = CHASE_MODE then some ⟨LOW, LOW, HIGH⟩
  else if mode = IDLE_MODE then some ⟨LOW, HIGH, LOW⟩
  else if mode = LIGHT_SELECTION_MODE then some ⟨LOW, HIGH, HIGH⟩
  else if mode = CONTROL_SELECTION_MODE then some ⟨HIGH, LOW, LOW⟩
  else if mode = COLOR_WHEEL_MODE then some ⟨HIGH, LOW, HIGH⟩
  else if mode = DMX_MODE then some ⟨HIGH, HIGH, LOW⟩
  else if mode = PRESET_MODE then some ⟨HIGH, HIGH, HIGH⟩
  else if mode = PARTY_MODE then some ⟨LOW, LOW, LOW⟩
  else if mode = SCARY_MODE then some ⟨LOW, LOW, LOW⟩
  else none

def setLeds (mode : UInt8) (leds : Leds) : Leds :=
  (levelsOf mode).getD leds

/-! ## Signs -/

/-- The body of `dot` and `dash`: the result, the static `tick`, and the
LEDs. -/
def flash (units : ℕ) (tick : UInt16) (leds : Leds) : Bool × UInt16 × Leds :=
  if tick = 0 then (false, tick + 1, .all HIGH)
  else if (tick + 1).toNat > TIMER_UNIT * units then (true, 0, .all LOW)
  else (false, tick + 1, leds)

/-- The body of the three breaks. -/
def pause (units : ℕ) (tick : UInt16) (leds : Leds) : Bool × UInt16 × Leds :=
  if tick.toNat > TIMER_UNIT * units then (true, 0, leds)
  else (false, tick + 1, leds)

def dot := flash 1
def dash := flash 3
def subLetterBreak := pause 1
def letterBreak := pause 3
def wordBreak := pause 7

/-- The functions of the signs. -/
inductive Sign where
  | dot
  | dash
  | subLetterBreak
  | letterBreak
  | wordBreak
  deriving DecidableEq

namespace Sign

def run : Sign → UInt16 → Leds → Bool × UInt16 × Leds
  | .dot => LedController.dot
  | .dash => LedController.dash
  | .subLetterBreak => LedController.subLetterBreak
  | .letterBreak => LedController.letterBreak
  | .wordBreak => LedController.wordBreak

def units : Sign → ℕ
  | .dot => 1
  | .dash => 3
  | .subLetterBreak => 1
  | .letterBreak => 3
  | .wordBreak => 7

def isMark : Sign → Bool
  | .dot => true
  | .dash => true
  | _ => false

theorem run_of_isMark {sign : Sign} (h : sign.isMark = true) :
    sign.run = flash sign.units := by
  cases sign <;> first | rfl | cases h

theorem run_of_not_isMark {sign : Sign} (h : sign.isMark = false) :
    sign.run = pause sign.units := by
  cases sign <;> first | rfl | cases h

/-- The levels after the calls for a sign. -/
def frames (sign : Sign) : List Bool :=
  if sign.isMark then List.replicate (TIMER_UNIT * sign.units) HIGH ++ [LOW]
  else List.replicate (TIMER_UNIT * sign.units + 2) LOW

end Sign

/-! ## The animation -/

/-- The static variables: `state` of `pre_connect_animation`, and `tick` of
the function of each sign. -/
structure Animation where
  state : UInt8
  tick : Sign → UInt16

def Animation.start : Animation := ⟨0, fun _ => 0⟩

/-- What the cases of the `switch` call, in their order. -/
def animationCases : List Sign :=
  [.dash, .subLetterBreak, .dot, .subLetterBreak, .dot, .subLetterBreak, .dot,
    .letterBreak, .dot, .letterBreak, .dot, .letterBreak, .dot,
    .subLetterBreak, .dash, .subLetterBreak, .dash, .subLetterBreak, .dot,
    .wordBreak]

def preConnectAnimation (a : Animation) (leds : Leds) : Animation × Leds :=
  match animationCases[a.state.toNat]? with
  | none => (a, leds)
  | some sign =>
      let (done, tick, leds) := sign.run (a.tick sign) leds
      (⟨if done then if a.state = 19 then 0 else a.state + 1 else a.state,
        Function.update a.tick sign tick⟩, leds)

/-! ## The text -/

/-- The signs of a text.  A space ends a letter, and the end of the text ends
the word. -/
def signsOf : List Char → List Sign
  | [] => []
  | [c] => [if c = '-' then .dash else .dot, .wordBreak]
  | c :: ' ' :: rest =>
      (if c = '-' then .dash else .dot) :: .letterBreak :: signsOf rest
  | c :: rest =>
      (if c = '-' then .dash else .dot) :: .subLetterBreak :: signsOf rest

/-- The line that the main loop logs at its start. -/
def logo : List Char := "-... . . .--.".toList

theorem animationCases_eq_signsOf : animationCases = signsOf logo := by
  decide

/-- The levels that show a text. -/
def waveform (text : List Char) : List Bool :=
  ((signsOf text).map Sign.frames).flatten

/-! ## One call -/

/-- The LEDs are as the call for frame `f` of a sign expects them: a mark lets
them shine after its first call, and a break leaves them dark. -/
def Sign.Ready (sign : Sign) (f : ℕ) (leds : Leds) : Prop :=
  if sign.isMark then 0 < f → leds = .all HIGH else leds = .all LOW

variable {sign : Sign} {tick : UInt16} {leds : Leds} {f : ℕ}

theorem Sign.ready_of_isMark (h : sign.isMark = true) :
    sign.Ready f leds ↔ (0 < f → leds = .all HIGH) := by
  unfold Sign.Ready
  rw [if_pos h]

theorem Sign.ready_of_not_isMark (h : ¬ sign.isMark = true) :
    sign.Ready f leds ↔ leds = .all LOW := by
  unfold Sign.Ready
  rw [if_neg h]

theorem Sign.ready_of_dark (sign : Sign) : sign.Ready 0 (.all LOW) := by
  by_cases h : sign.isMark = true
  · exact (Sign.ready_of_isMark h).mpr fun hlt => absurd hlt (Nat.lt_irrefl 0)
  · exact (Sign.ready_of_not_isMark h).mpr rfl

theorem Sign.frames_ne_nil (sign : Sign) : sign.frames ≠ [] := by
  unfold Sign.frames
  split_ifs
  · exact List.append_ne_nil_of_right_ne_nil _ (List.cons_ne_nil _ _)
  · exact List.cons_ne_nil _ _

theorem Sign.length_frames_le (sign : Sign) : sign.frames.length ≤ 793 := by
  cases sign <;> decide +kernel

/-- What the call for frame `f` of a sign does. -/
structure Performs (sign : Sign) (f : ℕ) (r : Bool × UInt16 × Leds) :
    Prop where
  shown : ∃ level, sign.frames[f]? = some level ∧ r.2.2 = .all level
  more : f + 1 < sign.frames.length →
    r.1 = false ∧ r.2.1.toNat = f + 1 ∧ sign.Ready (f + 1) r.2.2
  last : ¬ f + 1 < sign.frames.length →
    r.1 = true ∧ r.2.1 = 0 ∧ r.2.2 = .all LOW

theorem toNat_succ (htick : tick.toNat = f) (hf : f ≤ 793) :
    (tick + 1).toNat = f + 1 := by
  have hadd : (tick + 1).toNat = (tick.toNat + 1) % 2 ^ 16 :=
    UInt16.toNat_add tick 1
  rw [hadd, htick, Nat.mod_eq_of_lt (by omega)]

theorem performs_flash (hmark : sign.isMark = true) (htick : tick.toNat = f)
    (hf : f < sign.frames.length) (hleds : sign.Ready f leds) :
    Performs sign f (flash sign.units tick leds) := by
  have hle := sign.length_frames_le
  have hsucc := toNat_succ htick (by omega)
  have hframes : sign.frames =
      List.replicate (TIMER_UNIT * sign.units) HIGH ++ [LOW] := if_pos hmark
  have hlength : sign.frames.length = TIMER_UNIT * sign.units + 1 := by
    rw [hframes, List.length_append, List.length_replicate]
    rfl
  have hready : ∀ k, sign.Ready (k + 1) (.all HIGH) := fun _ =>
    (Sign.ready_of_isMark hmark).mpr fun _ => rfl
  have hlit : f + 1 < sign.frames.length →
      Performs sign f (false, tick + 1, .all HIGH) := by
    intro hmore
    refine ⟨⟨HIGH, ?_, rfl⟩, fun _ => ⟨rfl, hsucc, hready f⟩,
      fun hlast => absurd hmore hlast⟩
    have hlt : f < TIMER_UNIT * sign.units := by omega
    rw [hframes, List.getElem?_append_left (by rwa [List.length_replicate]),
      List.getElem?_replicate_of_lt hlt]
  have hpos : 0 < TIMER_UNIT * sign.units := by
    cases sign <;> decide
  unfold flash
  by_cases hzero : tick = 0
  · rw [if_pos hzero]
    have hf0 : f = 0 := by
      rw [← htick, hzero]
      rfl
    exact hlit (by omega)
  · rw [if_neg hzero]
    by_cases hover : (tick + 1).toNat > TIMER_UNIT * sign.units
    · rw [if_pos hover]
      rw [hsucc] at hover
      have hend : f =
          (List.replicate (TIMER_UNIT * sign.units) HIGH).length := by
        rw [List.length_replicate]
        omega
      refine ⟨⟨LOW, ?_, rfl⟩, fun hmore => ?_, fun _ => ⟨rfl, rfl, rfl⟩⟩
      · rw [hframes, hend, List.getElem?_concat_length]
      · omega
    · rw [if_neg hover]
      rw [hsucc] at hover
      have hpositive : 0 < f := by
        refine Nat.pos_of_ne_zero fun hf0 => hzero ?_
        exact UInt16.toNat_inj.mp (htick.trans hf0)
      rw [(Sign.ready_of_isMark hmark).mp hleds hpositive]
      exact hlit (by omega)

theorem performs_pause (hmark : sign.isMark = false) (htick : tick.toNat = f)
    (hf : f < sign.frames.length) (hleds : sign.Ready f leds) :
    Performs sign f (pause sign.units tick leds) := by
  have hle := sign.length_frames_le
  have hnot : ¬ sign.isMark = true := by
    rw [hmark]
    exact Bool.false_ne_true
  have hframes : sign.frames =
      List.replicate (TIMER_UNIT * sign.units + 2) LOW := if_neg hnot
  have hlength : sign.frames.length = TIMER_UNIT * sign.units + 2 := by
    rw [hframes, List.length_replicate]
  have hdark := (Sign.ready_of_not_isMark hnot).mp hleds
  have hshown : ∃ level, sign.frames[f]? = some level ∧
      Leds.all LOW = .all level := by
    refine ⟨LOW, ?_, rfl⟩
    rw [hframes, List.getElem?_replicate_of_lt (hlength ▸ hf)]
  have hready : sign.Ready (f + 1) (.all LOW) :=
    (Sign.ready_of_not_isMark hnot).mpr rfl
  unfold pause
  rw [htick, hdark]
  by_cases hover : f > TIMER_UNIT * sign.units
  · rw [if_pos hover]
    exact ⟨hshown, fun hmore => absurd hmore (by omega),
      fun _ => ⟨rfl, rfl, rfl⟩⟩
  · rw [if_neg hover]
    exact ⟨hshown, fun _ => ⟨rfl, toNat_succ htick (by omega), hready⟩,
      fun hlast => absurd hlast (by omega)⟩

theorem Sign.performs (htick : tick.toNat = f) (hf : f < sign.frames.length)
    (hleds : sign.Ready f leds) : Performs sign f (sign.run tick leds) := by
  cases hmark : sign.isMark with
  | true =>
      rw [Sign.run_of_isMark hmark]
      exact performs_flash hmark htick hf hleds
  | false =>
      rw [Sign.run_of_not_isMark hmark]
      exact performs_pause hmark htick hf hleds

/-! ## The player -/

/-- What the cases show. -/
def clips : List (List Bool) := animationCases.map Sign.frames

theorem ne_nil_of_mem_clips : ∀ clip ∈ clips, clip ≠ [] := by
  intro clip hclip
  obtain ⟨sign, -, rfl⟩ := List.mem_map.mp hclip
  exact sign.frames_ne_nil

/-- The animation is about to show the frame at the cursor. -/
structure Plays (c : Cursor) (a : Animation) (leds : Leds) (sign : Sign) :
    Prop where
  case_eq : animationCases[c.clip]? = some sign
  frame_lt : c.frame < sign.frames.length
  state : a.state.toNat = c.clip
  tick : (a.tick sign).toNat = c.frame
  others : ∀ sign' ≠ sign, a.tick sign' = 0
  ready : sign.Ready c.frame leds

variable {c : Cursor} {a : Animation}

theorem framesOf_clips (h : animationCases[c.clip]? = some sign) :
    framesOf clips c.clip = sign.frames := by
  unfold framesOf clips
  rw [List.getD_eq_getElem?_getD, List.getElem?_map, h]
  rfl

theorem plays_start : Plays .start .start initLedController .dash :=
  ⟨rfl, by decide +kernel, rfl, rfl, fun _ _ => rfl,
    fun h => absurd h (Nat.lt_irrefl 0)⟩

/-- Where the animation goes on. -/
theorem toNat_state (h : animationCases[a.state.toNat]? = some sign) :
    (if a.state = 19 then 0 else a.state + 1).toNat =
      Carousel.next clips.length a.state.toNat := by
  have hlt : a.state.toNat < 20 := (List.getElem?_eq_some_iff.mp h).1
  have hadd : (a.state + 1).toNat = (a.state.toNat + 1) % 2 ^ 8 :=
    UInt8.toNat_add a.state 1
  have hlength : clips.length = 20 := rfl
  rw [hlength]
  unfold Carousel.next
  by_cases hlast : a.state = 19
  · rw [if_pos hlast, hlast]
    rfl
  · have hne : a.state.toNat ≠ 19 := fun heq =>
      hlast (UInt8.toNat_inj.mp heq)
    rw [if_neg hlast, hadd, if_pos (by omega), Nat.mod_eq_of_lt (by omega)]

/-- One call shows the frame at the cursor. -/
theorem Plays.step (h : Plays c a leds sign) :
    (∃ level, c.shown clips = some level ∧
      (preConnectAnimation a leds).2 = .all level) ∧
    ∃ sign', Plays (c.next clips) (preConnectAnimation a leds).1
      (preConnectAnimation a leds).2 sign' := by
  have hperforms := Sign.performs h.tick h.frame_lt h.ready
  have hcase : animationCases[a.state.toNat]? = some sign :=
    h.state ▸ h.case_eq
  have hframes := framesOf_clips h.case_eq
  unfold preConnectAnimation Cursor.shown Cursor.next
  simp only [hcase, hframes]
  generalize sign.run (a.tick sign) leds = r at hperforms ⊢
  obtain ⟨done, tick, leds'⟩ := r
  obtain ⟨hshown, hmore, hlast⟩ := hperforms
  refine ⟨hshown, ?_⟩
  by_cases hgo : c.frame + 1 < sign.frames.length
  · obtain ⟨hdone, htick, hready⟩ := hmore hgo
    have hdone' : done = false := hdone
    subst hdone'
    rw [if_pos hgo]
    refine ⟨sign, h.case_eq, hgo, h.state, ?_, fun sign' hne => ?_, hready⟩
    · show (Function.update a.tick sign tick sign).toNat = _
      rw [Function.update_self]
      exact htick
    · show Function.update a.tick sign tick sign' = 0
      rw [Function.update_of_ne hne]
      exact h.others sign' hne
  · obtain ⟨hdone, htick, hdark⟩ := hlast hgo
    have hdone' : done = true := hdone
    have htick' : tick = 0 := htick
    have hdark' : leds' = .all LOW := hdark
    subst hdone' htick' hdark'
    rw [if_neg hgo]
    have hstate := toNat_state hcase
    have hlt : Carousel.next clips.length c.clip < animationCases.length := by
      have hclip := (List.getElem?_eq_some_iff.mp h.case_eq).1
      have hlength : clips.length = animationCases.length := rfl
      rw [hlength]
      exact Carousel.next_lt hclip
    have hzero : ∀ sign', Function.update a.tick sign 0 sign' = 0 := by
      intro sign'
      by_cases hsign : sign' = sign
      · rw [hsign, Function.update_self]
      · rw [Function.update_of_ne hsign]
        exact h.others sign' hsign
    refine ⟨animationCases[Carousel.next clips.length c.clip],
      List.getElem?_eq_getElem hlt, ?_, ?_, ?_, fun sign' _ => hzero sign',
      Sign.ready_of_dark _⟩
    · exact List.length_pos_iff.mpr (Sign.frames_ne_nil _)
    · rw [h.state] at hstate
      exact hstate
    · exact congrArg UInt16.toNat (hzero _)

/-! ## Runs -/

/-- One call, on the variables and the LEDs. -/
def animate (x : Animation × Leds) : Animation × Leds :=
  preConnectAnimation x.1 x.2

theorem plays_animate (n : ℕ) :
    ∃ sign, Plays ((Cursor.next clips)^[n] .start)
      (animate^[n] (.start, initLedController)).1
      (animate^[n] (.start, initLedController)).2 sign := by
  induction n with
  | zero => exact ⟨_, plays_start⟩
  | succ n ih =>
      obtain ⟨sign, h⟩ := ih
      rw [Function.iterate_succ_apply', Function.iterate_succ_apply']
      exact h.step.2

/-- The calls show the text again and again. -/
theorem leds_animate (n : ℕ) :
    ∃ level, (waveform logo)[n % (waveform logo).length]? = some level ∧
      (animate^[n + 1] (.start, initLedController)).2 = .all level := by
  obtain ⟨sign, h⟩ := plays_animate n
  have hshown := shown_iterate ne_nil_of_mem_clips (by decide) n
  have hclips : clips.flatten = waveform logo := by
    unfold clips waveform
    rw [animationCases_eq_signsOf]
  rw [← hclips, ← hshown, Function.iterate_succ_apply']
  exact h.step.1

end LedController

end ChuckLight.Firmware
