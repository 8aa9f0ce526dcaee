import ChuckLight.Firmware.ButtonControllers
import Mathlib.Data.List.Induction

/-!
# Which presses are returned

A counter that is left alone while its button is released counts the samples of
two presses as one, and a counter that stays at `-1` keeps the next press from
being returned.  Without these two the buttons are debounced.
-/

namespace ChuckLight.Firmware.ButtonControllers

/-! ## Histories -/

def step (c : Counters) (level : Levels) : Counters := (readButton level c).2

/-- The counters after some calls. -/
def after (history : List Levels) : Counters :=
  history.foldl step .start

/-- What successive calls return. -/
def results (c : Counters) : List Levels → List Button
  | [] => []
  | level :: rest => (readButton level c).1 :: results (step c level) rest

variable {pin : Pin} {level : Levels} {c : Counters} {history : List Levels}

theorem after_concat (history : List Levels) (level : Levels) :
    after (history ++ [level]) = step (after history) level :=
  List.foldl_append

/-! ## Soundness -/

/-- The counters that the call leaves alone with their buttons released are too
small to matter. -/
def LeavesSmall (c : Counters) (level : Levels) : Prop :=
  (∀ pin, ¬ Low pin level → ¬ Reaches pin level → c.count pin ≤ 1) ∧
    (¬ Low .ps2 level → ¬ Reaches .ps2 level → c.ps2LongCount ≤ 2)

instance (c : Counters) (level : Levels) : Decidable (LeavesSmall c level) :=
  inferInstanceAs (Decidable ((∀ _, _ → _ → _) ∧ (_ → _ → _)))

/-- What the counters say about the last calls. -/
structure Witnessed (history : List Levels) (c : Counters) : Prop where
  both : Debounce.Lasts BothLow c.b12Count.toNat history
  single : ∀ pin, Debounce.Lasts (Low pin) (c.count pin - 1).toNat history
  long : Debounce.Lasts (Low .ps2) (c.ps2LongCount - 2).toNat history

theorem witnessed_start : Witnessed [] .start :=
  ⟨Debounce.lasts_zero [],
    fun pin => by cases pin <;> exact Debounce.lasts_zero [],
    Debounce.lasts_zero []⟩

theorem lasts_of_nonpos {p : Levels → Prop} {n : ℤ} (h : n ≤ 0) :
    Debounce.Lasts p n.toNat history := by
  rw [Int.toNat_of_nonpos h]
  exact Debounce.lasts_zero history

/-- One more sample at which the condition holds. -/
theorem Lasts.grow {p : Levels → Prop} {n n' : ℤ}
    (h : Debounce.Lasts p n.toNat history) (hlevel : p level)
    (hn : n' ≤ max 0 (n + 1)) :
    Debounce.Lasts p n'.toNat (history ++ [level]) :=
  (h.concat hlevel).mono (by omega)

theorem Witnessed.step (h : Witnessed history c)
    (hsmall : LeavesSmall c level) :
    Witnessed (history ++ [level]) (step c level) := by
  refine ⟨?_, fun pin => ?_, ?_⟩
  · rcases b12Count_readButton level c with
        hreset | ⟨hlow, hle⟩
    · exact lasts_of_nonpos hreset
    · exact Lasts.grow h.both hlow hle
  · have hcount := count_readButton pin level c
    have hle := Debounce.hold_le DEBOUNCE_COUNT (c.count pin)
    by_cases hlow : Low pin level
    · refine Lasts.grow (h.single pin) hlow ?_
      show (readButton level c).2.count pin - 1 ≤ _
      rw [if_pos hlow] at hcount
      split_ifs at hcount <;> omega
    · apply lasts_of_nonpos
      show (readButton level c).2.count pin - 1 ≤ 0
      rw [if_neg hlow] at hcount
      split_ifs at hcount with hreach
      · omega
      · have hsmaller := hsmall.1 pin hlow hreach
        omega
  · rcases ps2LongCount_readButton level c with
        ⟨hlow, hle⟩ | ⟨hlow, hcount⟩
    · exact Lasts.grow h.long hlow (by
        show (readButton level c).2.ps2LongCount - 2 ≤ _
        omega)
    · apply lasts_of_nonpos
      show (readButton level c).2.ps2LongCount - 2 ≤ 0
      split_ifs at hcount with hreach
      · omega
      · have hle := hsmall.2 hlow hreach
        omega

theorem witnessed (hsmall : Runs.AllSteps step LeavesSmall .start history) :
    Witnessed history (after history) := by
  induction history using List.reverseRecOn with
  | nil => exact witnessed_start
  | append_singleton history level ih =>
      obtain ⟨hhistory, hlevel, -⟩ := Runs.allSteps_append.mp hsmall
      rw [after_concat]
      exact (ih hhistory).step hlevel

/-- The button that a call returns was pressed at the last calls. -/
def HeldFor (calls : List Levels) : Button → Prop
  | .none => True
  | .ps2 => Debounce.Lasts (Low .ps2) (DEBOUNCE_COUNT + 1).toNat calls
  | .ps2Long => Debounce.Lasts (Low .ps2) LONG_HOLD_COUNT.toNat calls
  | .b1 => Debounce.Lasts (Low .b1) (DEBOUNCE_COUNT + 1).toNat calls
  | .b2 => Debounce.Lasts (Low .b2) (DEBOUNCE_COUNT + 1).toNat calls
  | .b12 => Debounce.Lasts BothLow (DEBOUNCE_COUNT + 1).toNat calls

/-- In every run whose calls leave only small counters behind, a button is
returned only after it has been held for long enough. -/
theorem heldFor (history : List Levels) (level : Levels)
    (hsmall : Runs.AllSteps step LeavesSmall .start history) :
    HeldFor (history ++ [level]) (readButton level (after history)).1 := by
  have hwitnessed := witnessed hsmall
  have hlimit : DEBOUNCE_COUNT = 3 := rfl
  have hlong : LONG_HOLD_COUNT = 300 := rfl
  have hreturns := returns level (after history)
  generalize (readButton level (after history)).1 = result at hreturns
  cases hreturns with
  | none => trivial
  | b12 hlow hcount =>
      exact (hwitnessed.both.concat hlow).mono (by omega)
  | ps2Long hlow hcount =>
      exact (hwitnessed.long.concat hlow).mono (by omega)
  | single pin hlow hcount =>
      have hlasts : Debounce.Lasts (Low pin) (DEBOUNCE_COUNT + 1).toNat
          (history ++ [level]) :=
        ((hwitnessed.single pin).concat hlow).mono (by omega)
      cases pin with
      | b1 => exact hlasts
      | b2 => exact hlasts
      | ps2 => exact hlasts

/-- The levels with only the given buttons pressed. -/
def pressing (pins : List Pin) : Levels := fun pin => !pins.contains pin

/-- B2 is pressed right after B1. -/
theorem heldFor_b2 :
    HeldFor (pressing [.b1] :: List.replicate 5 (pressing [.b2])) .b2 :=
  heldFor (pressing [.b1] :: List.replicate 4 (pressing [.b2]))
    (pressing [.b2]) (by decide)

/-- B2 is pressed, released while B1 is pressed, and pressed again. -/
theorem not_heldFor_b2 :
    ¬ ∀ history level,
      HeldFor (history ++ [level]) (readButton level (after history)).1 := by
  intro h
  have hlasts : Debounce.Lasts (Low .b2) 4
      (List.replicate 4 (pressing [.b2]) ++ [pressing [.b1]] ++
        [pressing [.b2]]) :=
    h (List.replicate 4 (pressing [.b2]) ++ [pressing [.b1]])
      (pressing [.b2])
  exact absurd hlasts (by decide)

/-! ## Completeness -/

/-- The button is the only pressed one. -/
def Only (pin : Pin) (level : Levels) : Prop :=
  ∀ other, Low other level ↔ other = pin

instance (pin : Pin) (level : Levels) : Decidable (Only pin level) :=
  inferInstanceAs (Decidable (∀ _, _ ↔ _))

theorem Only.reaches (h : Only pin level) : Reaches pin level := by
  have hother : ∀ other, other ≠ pin → ¬ Low other level :=
    fun other hne hlow => hne ((h other).mp hlow)
  cases pin with
  | b1 => exact fun hboth => hother .b2 (by decide) hboth.2
  | b2 => exact hother .b1 (by decide)
  | ps2 => exact ⟨hother .b1 (by decide), hother .b2 (by decide)⟩

theorem Only.count_readButton (h : Only pin level) :
    (readButton level c).2.count pin =
      (Debounce.hold DEBOUNCE_COUNT (c.count pin)).2 := by
  rw [ButtonControllers.count_readButton, if_pos h.reaches,
    if_pos ((h pin).mpr rfl)]

theorem readSingle_eq_iff (pin : Pin) {count : ℤ} :
    (readSingle pin.result count).1 = pin.result ↔
      (Debounce.hold DEBOUNCE_COUNT count).1 = true := by
  rw [readSingle_result]
  cases (Debounce.hold DEBOUNCE_COUNT count).1 with
  | false => cases pin <;> decide
  | true => exact ⟨fun _ => rfl, fun _ => rfl⟩

/-- A single pressed button is returned when its counter has passed the
limit. -/
theorem Only.result_eq_iff (h : Only pin level) :
    (readButton level c).1 = pin.result ↔
      (Debounce.hold DEBOUNCE_COUNT (c.count pin)).1 = true := by
  have hlow : Low pin level := (h pin).mpr rfl
  have hreach := h.reaches
  cases pin with
  | b1 =>
      rw [readButton_of_b1 hreach hlow]
      exact readSingle_eq_iff .b1
  | b2 =>
      rw [readButton_of_b2 hreach hlow]
      exact readSingle_eq_iff .b2
  | ps2 =>
      rw [readButton_of_ps2 hreach hlow]
      have hcounter : ({ c.apart with
          b1Count := 0, b2Count := 0 } : Counters).ps2Count =
            c.count .ps2 := rfl
      by_cases hcount : c.count .ps2 = -1
      · rw [hcount, Debounce.hold_neg_one]
        rcases readPS2_result { c.apart with b1Count := 0, b2Count := 0 } with
            hnone | ⟨-, hlt⟩ | ⟨hlong, -⟩
        · rw [hnone]
          decide
        · rw [hcounter, hcount] at hlt
          exact absurd hlt (by decide)
        · rw [hlong]
          decide
      · rw [← hcounter] at hcount
        rw [readPS2_of_pressed hcount]
        exact readSingle_eq_iff .ps2

/-- As long as it is the only pressed button, a button is returned when the
debounced input fires. -/
theorem count_results {held : List Levels}
    (hheld : ∀ level ∈ held, Only pin level) :
    (results c held).count pin.result =
      Debounce.fires DEBOUNCE_COUNT (c.count pin) held.length := by
  induction held generalizing c with
  | nil => rfl
  | cons level rest ih =>
      have honly := hheld level (List.mem_cons_self ..)
      have hrest := ih (c := step c level)
        fun l hl => hheld l (List.mem_cons_of_mem _ hl)
      have hcount : (step c level).count pin =
          (Debounce.hold DEBOUNCE_COUNT (c.count pin)).2 :=
        honly.count_readButton
      have hresult := honly.result_eq_iff (c := c)
      rw [results, List.count_cons, hrest, hcount, List.length_cons,
        Debounce.fires, Nat.add_comm]
      congr 1
      by_cases hfires : (Debounce.hold DEBOUNCE_COUNT (c.count pin)).1 = true
      · rw [hfires, hresult.mpr hfires, beq_self_eq_true]
        rfl
      · rw [Bool.eq_false_of_not_eq_true hfires,
          beq_false_of_ne fun heq => hfires (hresult.mp heq)]
        rfl

theorem neg_one_le_count (history : List Levels) (pin : Pin) :
    -1 ≤ (after history).count pin := by
  induction history using List.reverseRecOn with
  | nil => cases pin <;> decide
  | append_singleton history level ih =>
      rw [after_concat]
      show -1 ≤ (readButton level (after history)).2.count pin
      rw [ButtonControllers.count_readButton]
      split_ifs
      · exact Debounce.neg_one_le_hold _ ih
      · decide
      · exact ih

/-- After a call that sees the button released, exactly one of enough calls that
see it as the only pressed button returns it, if and only if that call comes to
the part of the button or the counter is not at `-1`. -/
theorem returned_once_iff (pin : Pin) (history : List Levels) (level : Levels)
    (held : List Levels) (hreleased : ¬ Low pin level)
    (hheld : ∀ level ∈ held, Only pin level)
    (hlong : DEBOUNCE_COUNT + 2 ≤ held.length) :
    (results (after (history ++ [level])) held).count pin.result = 1 ↔
      Reaches pin level ∨ (after history).count pin ≠ -1 := by
  have hcount : (after (history ++ [level])).count pin =
      if Reaches pin level then 0 else (after history).count pin := by
    rw [after_concat]
    show (readButton level (after history)).2.count pin = _
    rw [ButtonControllers.count_readButton, if_neg hreleased]
  have hpos : 0 < held.length := by
    have hlimit : DEBOUNCE_COUNT = 3 := rfl
    omega
  rw [count_results hheld, Debounce.fires_eq_one_iff
    (neg_one_le_count _ pin) hpos hlong, hcount]
  by_cases hreach : Reaches pin level
  · rw [if_pos hreach]
    simp [hreach]
  · rw [if_neg hreach]
    simp [hreach]

/-- PS2 is released while B1 is pressed, and pressed five times. -/
theorem returned_once_ps2 :
    (results (after ([pressing [.b1, .ps2]] ++ [pressing [.b1]]))
      (List.replicate 5 (pressing [.ps2]))).count .ps2 = 1 :=
  (returned_once_iff .ps2 [pressing [.b1, .ps2]] (pressing [.b1])
    (List.replicate 5 (pressing [.ps2])) (by decide) (by decide)
    (by decide)).mpr (.inr (by decide))

/-- B2 is returned, released while B1 is pressed, and pressed again. -/
theorem not_returned_once_b2 :
    ¬ ∀ (pin : Pin) (history : List Levels) (level : Levels)
      (held : List Levels), ¬ Low pin level →
      (∀ level ∈ held, Only pin level) → DEBOUNCE_COUNT + 2 ≤ held.length →
      (results (after (history ++ [level])) held).count pin.result = 1 := by
  intro h
  have honce := h .b2 (List.replicate 5 (pressing [.b2])) (pressing [.b1])
    (List.replicate 5 (pressing [.b2])) (by decide) (by decide) (by decide)
  exact absurd honce (by decide)

end ChuckLight.Firmware.ButtonControllers
