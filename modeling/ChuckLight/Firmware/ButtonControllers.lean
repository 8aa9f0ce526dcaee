import ChuckLight.Firmware.Konami
import ChuckLight.Support.Debounce
import ChuckLight.Support.Runs
import Mathlib.Data.Fintype.Basic

/-!
# The buttons

`read_button` samples the three button pins and keeps five static counters.
Each branch for a pressed button returns, so the counters of the later buttons
are neither advanced nor reset while an earlier button is pressed.
-/

namespace ChuckLight.Firmware.ButtonControllers

/-! ## Definitions -/

def DEBOUNCE_COUNT : ℤ := 3
def LONG_HOLD_COUNT : ℤ := 300

/-- `B1_PIN`, `B2_PIN` and `PS2_PIN`. -/
inductive Pin where
  | b1
  | b2
  | ps2
  deriving DecidableEq, Repr

instance : Fintype Pin :=
  ⟨{.b1, .b2, .ps2}, fun pin => by cases pin <;> decide⟩

/-- The values of `gpio_get_level` during one call.  The pins are pulled up, so
a pressed button makes its pin low. -/
abbrev Levels := Pin → Bool

/-- The static variables of `read_button`. -/
structure Counters where
  ps2Count : ℤ
  b1Count : ℤ
  b2Count : ℤ
  b12Count : ℤ
  ps2LongCount : ℤ
  deriving DecidableEq, Repr

namespace Counters

def start : Counters := ⟨0, 0, 0, 0, 0⟩

end Counters

/-- The part for B1 and B2 together. -/
def readB12 (c : Counters) : Button × Counters :=
  if c.b12Count = -1 then (.none, c)
  else if c.b12Count + 1 > DEBOUNCE_COUNT then
    (.b12, { c with b12Count := -1 })
  else (.none, { c with b12Count := c.b12Count + 1 })

/-- A counter of a single button, and what the call returns for it. -/
def readSingle (result : Button) (count : ℤ) : Button × ℤ :=
  let (fires, count') := Debounce.hold DEBOUNCE_COUNT count
  (if fires then result else .none, count')

/-- The part for PS2, which has a second counter for the long hold. -/
def readPS2 (c : Counters) : Button × Counters :=
  if c.ps2Count = -1 then
    if c.ps2LongCount = -2 then (.none, c)
    else if c.ps2LongCount > LONG_HOLD_COUNT then
      (.ps2Long, { c with ps2LongCount := -2 })
    else (.none, { c with ps2LongCount := c.ps2LongCount + 1 })
  else
    let (result, count) := readSingle .ps2 c.ps2Count
    (result, { c with ps2Count := count })

def readButton (gpioGetLevel : Levels) (c : Counters) : Button × Counters :=
  if !gpioGetLevel .b1 && !gpioGetLevel .b2 then readB12 c
  else
    let c := { c with b12Count := 0 }
    if !gpioGetLevel .b1 then
      let (result, count) := readSingle .b1 c.b1Count
      (result, { c with b1Count := count })
    else
      let c := { c with b1Count := 0 }
      if !gpioGetLevel .b2 then
        let (result, count) := readSingle .b2 c.b2Count
        (result, { c with b2Count := count })
      else
        let c := { c with b2Count := 0 }
        if !gpioGetLevel .ps2 then readPS2 c
        else (.none, { c with ps2Count := 0, ps2LongCount := 0 })

/-! ## One call -/

/-- What is returned for a single button. -/
def Pin.result : Pin → Button
  | .b1 => .b1
  | .b2 => .b2
  | .ps2 => .ps2

def Counters.count (c : Counters) : Pin → ℤ
  | .b1 => c.b1Count
  | .b2 => c.b2Count
  | .ps2 => c.ps2Count

/-- The button is pressed. -/
def Low (pin : Pin) (level : Levels) : Prop := level pin = false

/-- B1 and B2 are pressed. -/
def BothLow (level : Levels) : Prop := Low .b1 level ∧ Low .b2 level

/-- The call comes to the part for the button. -/
def Reaches : Pin → Levels → Prop
  | .b1, level => ¬ BothLow level
  | .b2, level => ¬ Low .b1 level
  | .ps2, level => ¬ Low .b1 level ∧ ¬ Low .b2 level

instance (pin : Pin) (level : Levels) : Decidable (Low pin level) :=
  inferInstanceAs (Decidable (_ = _))

instance (level : Levels) : Decidable (BothLow level) :=
  inferInstanceAs (Decidable (_ ∧ _))

instance : ∀ (pin : Pin) (level : Levels), Decidable (Reaches pin level)
  | .b1, _ => inferInstanceAs (Decidable (¬ _))
  | .b2, _ => inferInstanceAs (Decidable (¬ _))
  | .ps2, _ => inferInstanceAs (Decidable (_ ∧ _))

variable {pin : Pin} {level : Levels} {c : Counters}

theorem readButton_of_bothLow (h : BothLow level) :
    readButton level c = readB12 c := by
  have hfirst : level .b1 = false := h.1
  have hsecond : level .b2 = false := h.2
  simp [readButton, hfirst, hsecond]

/-- The counters after the part for both buttons. -/
def Counters.apart (c : Counters) : Counters := { c with b12Count := 0 }

theorem readButton_of_b1 (h : ¬ BothLow level) (hlow : Low .b1 level) :
    readButton level c = ((readSingle .b1 c.b1Count).1,
      { c.apart with b1Count := (readSingle .b1 c.b1Count).2 }) := by
  have hfirst : level .b1 = false := hlow
  have hsecond : level .b2 = true := by
    cases hlevel : level .b2 with
    | false => exact absurd ⟨hlow, hlevel⟩ h
    | true => rfl
  simp [readButton, Counters.apart, hfirst, hsecond]

theorem readButton_of_b2 (h : ¬ Low .b1 level) (hlow : Low .b2 level) :
    readButton level c = ((readSingle .b2 c.b2Count).1,
      { c.apart with
        b1Count := 0
        b2Count := (readSingle .b2 c.b2Count).2 }) := by
  have hfirst : level .b1 = true := Bool.eq_true_of_not_eq_false h
  have hsecond : level .b2 = false := hlow
  simp [readButton, Counters.apart, hfirst, hsecond]

theorem readButton_of_ps2 (h : ¬ Low .b1 level ∧ ¬ Low .b2 level)
    (hlow : Low .ps2 level) :
    readButton level c =
      readPS2 { c.apart with b1Count := 0, b2Count := 0 } := by
  have hfirst : level .b1 = true := Bool.eq_true_of_not_eq_false h.1
  have hsecond : level .b2 = true := Bool.eq_true_of_not_eq_false h.2
  have hthird : level .ps2 = false := hlow
  simp [readButton, Counters.apart, hfirst, hsecond, hthird]

theorem readButton_of_released (h : ∀ pin, ¬ Low pin level) :
    readButton level c = (.none, .start) := by
  have hlevel : ∀ pin, level pin = true := fun pin =>
    Bool.eq_true_of_not_eq_false (h pin)
  simp [readButton, Counters.start, hlevel]

/-- The five ways through a call. -/
theorem level_cases (level : Levels) :
    BothLow level ∨ (¬ BothLow level ∧ Low .b1 level) ∨
      (¬ Low .b1 level ∧ Low .b2 level) ∨
      ((¬ Low .b1 level ∧ ¬ Low .b2 level) ∧ Low .ps2 level) ∨
      ∀ pin, ¬ Low pin level := by
  by_cases hfirst : Low .b1 level
  · by_cases hboth : BothLow level
    · exact .inl hboth
    · exact .inr (.inl ⟨hboth, hfirst⟩)
  · by_cases hsecond : Low .b2 level
    · exact .inr (.inr (.inl ⟨hfirst, hsecond⟩))
    · by_cases hthird : Low .ps2 level
      · exact .inr (.inr (.inr (.inl ⟨⟨hfirst, hsecond⟩, hthird⟩)))
      · refine .inr (.inr (.inr (.inr fun pin => ?_)))
        cases pin <;> assumption

theorem count_readB12 (c : Counters) (pin : Pin) :
    (readB12 c).2.count pin = c.count pin := by
  unfold readB12
  split_ifs <;> cases pin <;> rfl

theorem ps2LongCount_readB12 (c : Counters) :
    (readB12 c).2.ps2LongCount = c.ps2LongCount := by
  unfold readB12
  split_ifs <;> rfl

theorem b12Count_readB12_le (c : Counters) :
    (readB12 c).2.b12Count ≤ max 0 (c.b12Count + 1) := by
  unfold readB12
  split_ifs with hcount
  · show c.b12Count ≤ _
    omega
  · exact Int.le_trans (Int.negSucc_le_zero 0) (Int.le_max_left 0 _)
  · exact Int.le_max_right 0 _

theorem readB12_result (c : Counters) :
    (readB12 c).1 = .none ∨
      ((readB12 c).1 = .b12 ∧ DEBOUNCE_COUNT ≤ c.b12Count) := by
  unfold readB12
  split_ifs with hcount hlt
  · exact .inl rfl
  · exact .inr ⟨rfl, by omega⟩
  · exact .inl rfl

theorem readSingle_result (result : Button) (count : ℤ) :
    (readSingle result count).1 =
      if (Debounce.hold DEBOUNCE_COUNT count).1 then result else .none := rfl

theorem readPS2_of_pressed (h : c.ps2Count ≠ -1) :
    readPS2 c = ((readSingle .ps2 c.ps2Count).1,
      { c with ps2Count := (readSingle .ps2 c.ps2Count).2 }) := if_neg h

theorem readSingle_of_ne {result : Button} {count : ℤ}
    (h : (readSingle result count).1 ≠ .none) :
    (readSingle result count).1 = result ∧ DEBOUNCE_COUNT < count := by
  rw [readSingle_result] at h ⊢
  split_ifs at h ⊢ with hfires
  · exact ⟨rfl, (Debounce.hold_fires_iff.mp hfires).2⟩
  · exact absurd rfl h

theorem count_readPS2 (c : Counters) :
    (readPS2 c).2.ps2Count = (Debounce.hold DEBOUNCE_COUNT c.ps2Count).2 := by
  by_cases hcount : c.ps2Count = -1
  · have hkept : (readPS2 c).2.ps2Count = c.ps2Count := by
      unfold readPS2
      rw [if_pos hcount]
      split_ifs <;> rfl
    rw [hkept, hcount, Debounce.hold_neg_one]
  · rw [readPS2_of_pressed hcount]
    rfl

theorem count_readPS2_of_ne (c : Counters) (h : pin ≠ .ps2) :
    (readPS2 c).2.count pin = c.count pin := by
  unfold readPS2
  cases pin with
  | b1 => split_ifs <;> rfl
  | b2 => split_ifs <;> rfl
  | ps2 => exact absurd rfl h

theorem b12Count_readPS2 (c : Counters) :
    (readPS2 c).2.b12Count = c.b12Count := by
  unfold readPS2
  split_ifs <;> rfl

theorem ps2LongCount_readPS2_le (c : Counters) :
    (readPS2 c).2.ps2LongCount ≤ max 0 (c.ps2LongCount + 1) := by
  unfold readPS2
  split_ifs
  · show c.ps2LongCount ≤ _
    omega
  · exact Int.le_trans (Int.negSucc_le_zero 1) (Int.le_max_left 0 _)
  · exact Int.le_max_right 0 _
  · show c.ps2LongCount ≤ _
    omega

/-- What the part for PS2 returns. -/
theorem readPS2_result (c : Counters) :
    (readPS2 c).1 = .none ∨
      ((readPS2 c).1 = .ps2 ∧ DEBOUNCE_COUNT < c.ps2Count) ∨
      ((readPS2 c).1 = .ps2Long ∧ LONG_HOLD_COUNT < c.ps2LongCount) := by
  by_cases hcount : c.ps2Count = -1
  · unfold readPS2
    rw [if_pos hcount]
    split_ifs with hlong hlt
    · exact .inl rfl
    · exact .inr (.inr ⟨rfl, hlt⟩)
    · exact .inl rfl
  · rw [readPS2_of_pressed hcount]
    by_cases hnone : (readSingle .ps2 c.ps2Count).1 = .none
    · exact .inl hnone
    · exact .inr (.inl (readSingle_of_ne hnone))

/-- The counter of a button changes only in a call that comes to its part. -/
theorem count_readButton (pin : Pin) (level : Levels) (c : Counters) :
    (readButton level c).2.count pin =
      if Reaches pin level then
        if Low pin level then (Debounce.hold DEBOUNCE_COUNT (c.count pin)).2
        else 0
      else c.count pin := by
  rcases level_cases level with hboth | ⟨hnot, hlow⟩ | ⟨hnot, hlow⟩ |
      ⟨hnot, hlow⟩ | hreleased
  · have hpin : ¬ Reaches pin level := by
      cases pin with
      | b1 => exact fun hreach => hreach hboth
      | b2 => exact fun hreach => hreach hboth.1
      | ps2 => exact fun hreach => hreach.1 hboth.1
    rw [readButton_of_bothLow hboth, count_readB12, if_neg hpin]
  · rw [readButton_of_b1 hnot hlow]
    cases pin with
    | b1 =>
        rw [if_pos (show Reaches .b1 level from hnot), if_pos hlow]
        rfl
    | b2 => exact (if_neg fun hreach => hreach hlow).symm
    | ps2 => exact (if_neg fun hreach => hreach.1 hlow).symm
  · have hboth : Reaches .b1 level := fun hboth => hnot hboth.1
    rw [readButton_of_b2 hnot hlow]
    cases pin with
    | b1 =>
        rw [if_pos hboth, if_neg hnot]
        rfl
    | b2 =>
        rw [if_pos (show Reaches .b2 level from hnot), if_pos hlow]
        rfl
    | ps2 => exact (if_neg fun hreach => hreach.2 hlow).symm
  · have hboth : Reaches .b1 level := fun hboth => hnot.1 hboth.1
    rw [readButton_of_ps2 hnot hlow]
    cases pin with
    | b1 =>
        rw [count_readPS2_of_ne _ (by decide), if_pos hboth, if_neg hnot.1]
        rfl
    | b2 =>
        rw [count_readPS2_of_ne _ (by decide),
          if_pos (show Reaches .b2 level from hnot.1), if_neg hnot.2]
        rfl
    | ps2 =>
        rw [if_pos (show Reaches .ps2 level from hnot), if_pos hlow]
        exact count_readPS2 _
  · have hpin : Reaches pin level := by
      cases pin with
      | b1 => exact fun hboth => hreleased .b1 hboth.1
      | b2 => exact hreleased .b1
      | ps2 => exact ⟨hreleased .b1, hreleased .b2⟩
    rw [readButton_of_released hreleased, if_pos hpin, if_neg (hreleased pin)]
    cases pin <;> rfl

theorem b12Count_readButton (level : Levels) (c : Counters) :
    (readButton level c).2.b12Count ≤ 0 ∨
      (BothLow level ∧
        (readButton level c).2.b12Count ≤ max 0 (c.b12Count + 1)) := by
  rcases level_cases level with hboth | ⟨hnot, hlow⟩ | ⟨hnot, hlow⟩ |
      ⟨hnot, hlow⟩ | hreleased
  · rw [readButton_of_bothLow hboth]
    exact .inr ⟨hboth, b12Count_readB12_le c⟩
  · rw [readButton_of_b1 hnot hlow]
    exact .inl (Int.le_refl 0)
  · rw [readButton_of_b2 hnot hlow]
    exact .inl (Int.le_refl 0)
  · rw [readButton_of_ps2 hnot hlow, b12Count_readPS2]
    exact .inl (Int.le_refl 0)
  · rw [readButton_of_released hreleased]
    exact .inl (Int.le_refl 0)

/-- The counter of the long hold goes up by one at most with PS2 pressed, and is
reset with PS2 released if the call comes to its part. -/
theorem ps2LongCount_readButton (level : Levels) (c : Counters) :
    (Low .ps2 level ∧
        (readButton level c).2.ps2LongCount ≤ max 0 (c.ps2LongCount + 1)) ∨
      (¬ Low .ps2 level ∧ (readButton level c).2.ps2LongCount =
        if Reaches .ps2 level then 0 else c.ps2LongCount) := by
  have hkept : (readButton level c).2.ps2LongCount = c.ps2LongCount →
      ¬ Reaches .ps2 level →
      (Low .ps2 level ∧
        (readButton level c).2.ps2LongCount ≤ max 0 (c.ps2LongCount + 1)) ∨
      (¬ Low .ps2 level ∧ (readButton level c).2.ps2LongCount =
        if Reaches .ps2 level then 0 else c.ps2LongCount) := by
    intro hcount hreach
    rw [hcount, if_neg hreach]
    by_cases hlow : Low .ps2 level
    · exact .inl ⟨hlow, by omega⟩
    · exact .inr ⟨hlow, rfl⟩
  rcases level_cases level with hboth | ⟨hnot, hlow⟩ | ⟨hnot, hlow⟩ |
      ⟨hnot, hlow⟩ | hreleased
  · apply hkept
    · rw [readButton_of_bothLow hboth, ps2LongCount_readB12]
    · exact fun hreach => hreach.1 hboth.1
  · apply hkept
    · rw [readButton_of_b1 hnot hlow]
      rfl
    · exact fun hreach => hreach.1 hlow
  · apply hkept
    · rw [readButton_of_b2 hnot hlow]
      rfl
    · exact fun hreach => hreach.2 hlow
  · rw [readButton_of_ps2 hnot hlow]
    exact .inl ⟨hlow, ps2LongCount_readPS2_le _⟩
  · have hreach : Reaches .ps2 level := ⟨hreleased .b1, hreleased .b2⟩
    rw [readButton_of_released hreleased, if_pos hreach]
    exact .inr ⟨hreleased .ps2, rfl⟩

/-- When a button is returned it is pressed, and its counter has passed the
limit. -/
inductive Returns (level : Levels) (c : Counters) : Button → Prop
  | none : Returns level c .none
  | b12 (hlow : BothLow level) (hcount : DEBOUNCE_COUNT ≤ c.b12Count) :
      Returns level c .b12
  | single (pin : Pin) (hlow : Low pin level)
      (hcount : DEBOUNCE_COUNT < c.count pin) : Returns level c pin.result
  | ps2Long (hlow : Low .ps2 level)
      (hcount : LONG_HOLD_COUNT < c.ps2LongCount) : Returns level c .ps2Long

theorem Returns.of_readSingle (pin : Pin) (hlow : Low pin level) :
    Returns level c (readSingle pin.result (c.count pin)).1 := by
  by_cases hnone : (readSingle pin.result (c.count pin)).1 = .none
  · rw [hnone]
    exact .none
  · obtain ⟨hresult, hlt⟩ := readSingle_of_ne hnone
    rw [hresult]
    exact .single pin hlow hlt

theorem returns (level : Levels) (c : Counters) :
    Returns level c (readButton level c).1 := by
  rcases level_cases level with hboth | ⟨hnot, hlow⟩ | ⟨hnot, hlow⟩ |
      ⟨hnot, hlow⟩ | hreleased
  · rw [readButton_of_bothLow hboth]
    rcases readB12_result c with hnone | ⟨hb12, hle⟩
    · rw [hnone]
      exact .none
    · rw [hb12]
      exact .b12 hboth hle
  · rw [readButton_of_b1 hnot hlow]
    exact .of_readSingle .b1 hlow
  · rw [readButton_of_b2 hnot hlow]
    exact .of_readSingle .b2 hlow
  · rw [readButton_of_ps2 hnot hlow]
    rcases readPS2_result { c.apart with b1Count := 0, b2Count := 0 } with
        hnone | ⟨hps2, hlt⟩ | ⟨hlong, hlt⟩
    · rw [hnone]
      exact .none
    · rw [hps2]
      exact .single .ps2 hlow hlt
    · rw [hlong]
      exact .ps2Long hlow hlt
  · rw [readButton_of_released hreleased]
    exact .none

end ChuckLight.Firmware.ButtonControllers
