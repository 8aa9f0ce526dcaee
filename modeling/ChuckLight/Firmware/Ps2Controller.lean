import ChuckLight.Firmware.Konami
import ChuckLight.Support.AutoRepeat
import Mathlib.Data.List.Induction

/-!
# The joystick

`read_direction` debounces the four directions of the stick.  Up and down repeat
while they are held, if continuous reading is enabled.  The stick is mounted the
other way round, so each direction is returned for the opposite zone.
-/

namespace ChuckLight.Firmware.Ps2Controller

/-! ## Definitions -/

def DEBOUNCE_COUNT : ℤ := 3
def LONG_HOLD_COUNT : ℤ := 300
def FAST_RATE_TICK : ℤ := 30

/-- The counters of `read_direction`.  The variable `accel` is never read. -/
structure Counters where
  leftCount : ℤ
  rightCount : ℤ
  upCount : ℤ
  upLongCount : ℤ
  downCount : ℤ
  downLongCount : ℤ
  deriving DecidableEq, Repr

def Counters.start : Counters := ⟨0, 0, 0, 0, 0, 0⟩

/-- `(1 - ERROR_TOLERANCE) * X_CENTER` lies just below 192 and
`ERROR_TOLERANCE * X_RIGHT` between 3685 and 3686. -/
def xDir (raw : ℤ) : Direction :=
  if raw < 192 then .left else if raw > 3685 then .right else .center

/-- `(1 - ERROR_TOLERANCE) * Y_CENTER` lies just below 175. -/
def yDir (raw : ℤ) : Direction :=
  if raw < 175 then .down else if raw > 3685 then .up else .center

/-- The part for left and right: what is returned, and the counter. -/
def readHorizontal (flipped : Direction) (count : ℤ) : Direction × ℤ :=
  let (fires, count') := Debounce.hold DEBOUNCE_COUNT count
  (if fires then flipped else .center, count')

def limits : AutoRepeat.Limits :=
  ⟨DEBOUNCE_COUNT, LONG_HOLD_COUNT, FAST_RATE_TICK⟩

/-- The part for up and down. -/
def readVertical (flipped : Direction) (continuousReadEnable : UInt8)
    (c : AutoRepeat.Cell) : Direction × AutoRepeat.Cell :=
  let (fires, c') := AutoRepeat.sample limits (continuousReadEnable != 0) c
  (if fires then flipped else .center, c')

/-- `x` and `y` are the results of `adc1_get_raw`. -/
def readDirection (continuousReadEnable : UInt8) (x y : ℤ) (c : Counters) :
    Direction × Counters :=
  if xDir x = .center ∧ yDir y = .center then (.center, .start)
  else if xDir x = .left ∧ yDir y = .center then
    let (result, count) := readHorizontal .right c.leftCount
    (result, { c with leftCount := count })
  else if xDir x = .right ∧ yDir y = .center then
    let (result, count) := readHorizontal .left c.rightCount
    (result, { c with rightCount := count })
  else if xDir x = .center ∧ yDir y = .up then
    let (result, cell) := readVertical .down continuousReadEnable
      ⟨c.upCount, c.upLongCount⟩
    (result, { c with upCount := cell.count, upLongCount := cell.long })
  else if xDir x = .center ∧ yDir y = .down then
    let (result, cell) := readVertical .up continuousReadEnable
      ⟨c.downCount, c.downLongCount⟩
    (result, { c with downCount := cell.count, downLongCount := cell.long })
  else (.center, .start)

/-! ## One sample -/

/-- The inputs of one call. -/
structure Sample where
  continuousReadEnable : UInt8
  x : ℤ
  y : ℤ
  deriving DecidableEq

/-- The direction that the zone of the stick stands for.  The centre and the
diagonals stand for none. -/
def Sample.asks (s : Sample) : Option Direction :=
  match xDir s.x, yDir s.y with
  | .left, .center => some .right
  | .right, .center => some .left
  | .center, .up => some .down
  | .center, .down => some .up
  | _, _ => none

/-- The stick is centred or in a diagonal zone. -/
def Sample.Neutral (s : Sample) : Prop := s.asks = none

/-- The counters of a direction. -/
def Counters.cell (c : Counters) : Direction → AutoRepeat.Cell
  | .center => ⟨0, 0⟩
  | .up => ⟨c.downCount, c.downLongCount⟩
  | .down => ⟨c.upCount, c.upLongCount⟩
  | .left => ⟨c.rightCount, 0⟩
  | .right => ⟨c.leftCount, 0⟩

def Vertical (d : Direction) : Prop := d = .up ∨ d = .down

instance (d : Direction) : Decidable (Vertical d) :=
  inferInstanceAs (Decidable (_ ∨ _))

/-- The direction repeats at this call. -/
def Sample.repeats (s : Sample) (d : Direction) : Bool :=
  decide (Vertical d) && s.continuousReadEnable != 0

/-- The counters of a direction belong to one of its phases. -/
def Counters.ValidFor (c : Counters) (d : Direction) : Prop :=
  AutoRepeat.Valid (c.cell d) ∧ (¬ Vertical d → (c.cell d).count ≠ -2)

def read (s : Sample) (c : Counters) : Direction × Counters :=
  readDirection s.continuousReadEnable s.x s.y c

variable {s : Sample} {c : Counters} {d : Direction}

theorem read_of_neutral (h : s.Neutral) : read s c = (.center, .start) := by
  unfold Sample.Neutral Sample.asks at h
  unfold read readDirection
  split at h
  · cases h
  · cases h
  · cases h
  · cases h
  · rename_i hright hleft hdown hup
    split_ifs with hcenter hx hx hy hy
    · rfl
    · exact (hright hx.1 hx.2).elim
    · exact (hleft hx.1 hx.2).elim
    · exact (hdown hy.1 hy.2).elim
    · exact (hup hy.1 hy.2).elim
    · rfl

/-- Left and right behave as if continuous reading were not enabled. -/
theorem sample_false {count : ℤ} (h : count ≠ -2) :
    AutoRepeat.sample limits false ⟨count, 0⟩ =
      ((Debounce.hold DEBOUNCE_COUNT count).1,
        ⟨(Debounce.hold DEBOUNCE_COUNT count).2, 0⟩) := by
  have hdebounce : limits.debounce = DEBOUNCE_COUNT := rfl
  by_cases hcount : count = -1
  · subst hcount
    rfl
  · by_cases hlt : DEBOUNCE_COUNT < count
    · rw [Debounce.hold_of_lt hcount hlt]
      simp [AutoRepeat.sample, h, hcount, hlt, hdebounce]
    · rw [Debounce.hold_of_le hcount (Int.not_lt.mp hlt)]
      simp [AutoRepeat.sample, h, hcount, hlt, hdebounce]

/-- A call with the stick in the zone of a direction changes the counters of
that direction only. -/
structure Asked (s : Sample) (c : Counters) (d : Direction)
    (result : Direction × Counters) : Prop where
  returned : result.1 =
    if (AutoRepeat.sample limits (s.repeats d) (c.cell d)).1 then d
    else .center
  cell : result.2.cell d =
    (AutoRepeat.sample limits (s.repeats d) (c.cell d)).2
  other : ∀ other, other ≠ d → result.2.cell other = c.cell other

theorem Asked.of_horizontal {result : Direction × Counters} {count : ℤ}
    (hd : ¬ Vertical d) (hcell : c.cell d = ⟨count, 0⟩)
    (hvalid : c.ValidFor d)
    (hresult : result.1 = (readHorizontal d count).1)
    (hnew : result.2.cell d = ⟨(readHorizontal d count).2, 0⟩)
    (hother : ∀ other, other ≠ d → result.2.cell other = c.cell other) :
    Asked s c d result := by
  have hrepeats : s.repeats d = false := by
    unfold Sample.repeats
    rw [decide_eq_false hd, Bool.false_and]
  have hne : count ≠ -2 := by
    have hcount := hvalid.2 hd
    rwa [hcell] at hcount
  refine ⟨?_, ?_, hother⟩
  · rw [hrepeats, hcell, sample_false hne, hresult]
    rfl
  · rw [hrepeats, hcell, sample_false hne, hnew]
    rfl

theorem Asked.of_vertical {result : Direction × Counters}
    (hd : Vertical d)
    (hresult : result.1 =
      (readVertical d s.continuousReadEnable (c.cell d)).1)
    (hnew : result.2.cell d =
      (readVertical d s.continuousReadEnable (c.cell d)).2)
    (hother : ∀ other, other ≠ d → result.2.cell other = c.cell other) :
    Asked s c d result := by
  have hrepeats : s.repeats d = (s.continuousReadEnable != 0) := by
    unfold Sample.repeats
    rw [decide_eq_true hd, Bool.true_and]
  refine ⟨?_, ?_, hother⟩
  · rw [hrepeats, hresult]
    rfl
  · rw [hrepeats, hnew]
    rfl

theorem asked (h : s.asks = some d) (hvalid : c.ValidFor d) :
    Asked s c d (read s c) := by
  unfold Sample.asks at h
  split at h
  · rename_i hx hy
    cases h
    have hread : read s c = ((readHorizontal .right c.leftCount).1,
        { c with leftCount := (readHorizontal .right c.leftCount).2 }) := by
      simp [read, readDirection, hx, hy]
    rw [hread]
    refine .of_horizontal (by decide) rfl hvalid rfl rfl fun other hne => ?_
    cases other <;> first | rfl | exact absurd rfl hne
  · rename_i hx hy
    cases h
    have hread : read s c = ((readHorizontal .left c.rightCount).1,
        { c with rightCount := (readHorizontal .left c.rightCount).2 }) := by
      simp [read, readDirection, hx, hy]
    rw [hread]
    refine .of_horizontal (by decide) rfl hvalid rfl rfl fun other hne => ?_
    cases other <;> first | rfl | exact absurd rfl hne
  · rename_i hx hy
    cases h
    have hread : read s c =
        ((readVertical .down s.continuousReadEnable (c.cell .down)).1,
          { c with
            upCount := (readVertical .down s.continuousReadEnable
              (c.cell .down)).2.count
            upLongCount := (readVertical .down s.continuousReadEnable
              (c.cell .down)).2.long }) := by
      simp [read, readDirection, hx, hy, Counters.cell]
    rw [hread]
    refine .of_vertical (.inr rfl) rfl rfl fun other hne => ?_
    cases other <;> first | rfl | exact absurd rfl hne
  · rename_i hx hy
    cases h
    have hread : read s c =
        ((readVertical .up s.continuousReadEnable (c.cell .up)).1,
          { c with
            downCount := (readVertical .up s.continuousReadEnable
              (c.cell .up)).2.count
            downLongCount := (readVertical .up s.continuousReadEnable
              (c.cell .up)).2.long }) := by
      simp [read, readDirection, hx, hy, Counters.cell]
    rw [hread]
    refine .of_vertical (.inl rfl) rfl rfl fun other hne => ?_
    cases other <;> first | rfl | exact absurd rfl hne
  · cases h

theorem validFor_start (d : Direction) : Counters.start.ValidFor d := by
  cases d <;> exact ⟨.inl ⟨Int.le_refl 0, rfl⟩, fun _ => by decide⟩

/-- Left and right never come to the fast rate. -/
theorem Counters.ValidFor.read (h : ∀ d, c.ValidFor d) (d : Direction) :
    (read s c).2.ValidFor d := by
  cases hasks : s.asks with
  | none =>
      rw [read_of_neutral hasks]
      exact validFor_start d
  | some asked =>
      have hasked := Ps2Controller.asked hasks (h asked)
      by_cases hd : d = asked
      · subst hd
        refine ⟨hasked.cell ▸ (h d).1.sample, fun hvertical => ?_⟩
        have hrepeats : s.repeats d = false := by
          unfold Sample.repeats
          rw [decide_eq_false hvertical, Bool.false_and]
        rw [hasked.cell, hrepeats]
        exact AutoRepeat.sample_false_count_ne (h d).1 ((h d).2 hvertical)
      · have hother := hasked.other d hd
        unfold Counters.ValidFor
        rw [hother]
        exact h d

end ChuckLight.Firmware.Ps2Controller
