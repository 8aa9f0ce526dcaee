import ChuckLight.Support.CheckedInt
import ChuckLight.Support.SlidingWindow
import Mathlib.Data.List.Induction

/-!
# The motion sensor

`getMovementMagnitude` compares a sample of the accelerometer with the averages
of the samples before it.  These are kept in three rings that share an index.
-/

namespace ChuckLight.Firmware.MotionControllers

open CheckedInt SlidingWindow

/-! ## Definitions -/

def AVE_SAMPLE : ℕ := 13

/-- The static variables of `get_movement_magnitude`. -/
structure Averages where
  xAve : Vector ℤ AVE_SAMPLE
  yAve : Vector ℤ AVE_SAMPLE
  zAve : Vector ℤ AVE_SAMPLE
  count : ℤ

def Averages.start : Averages where
  xAve := .replicate AVE_SAMPLE 0
  yAve := .replicate AVE_SAMPLE 0
  zAve := .replicate AVE_SAMPLE 0
  count := -1

/-- `get_average`. -/
def getAverage (buf : Vector ℤ AVE_SAMPLE) : Option ℤ := do
  let ave ← buf.toList.foldlM (fun ave value => int (ave + value)) 0
  return ave.tdiv AVE_SAMPLE

/-- `(mag < 0) ? -1 * mag : mag`. -/
def magnitude (mag : ℤ) : Option ℤ :=
  if mag < 0 then int (-1 * mag) else some mag

/-- `buf[count] = value`, which is undefined outside the array. -/
def store (buf : Vector ℤ AVE_SAMPLE) (count value : ℤ) :
    Option (Vector ℤ AVE_SAMPLE) :=
  if h : 0 ≤ count ∧ count.toNat < AVE_SAMPLE then
    some (buf.set count.toNat value h.2)
  else none

/-- `get_movement_magnitude`: the result, and the variables after it. -/
def getMovementMagnitude (s : Averages) (x y z : ℤ) :
    Option (ℤ × Averages) := do
  let xMag ← int ((← getAverage s.xAve) - x)
  let yMag ← int ((← getAverage s.yAve) - y)
  let zMag ← int ((← getAverage s.zAve) - z)
  let movementMagnitude ← int (0 + (← magnitude xMag))
  let movementMagnitude ← int (movementMagnitude + (← magnitude yMag))
  let movementMagnitude ← int (movementMagnitude + (← magnitude zMag))
  let count ← int (s.count + 1)
  let count := if count ≥ AVE_SAMPLE then 0 else count
  let xAve ← store s.xAve count x
  let yAve ← store s.yAve count y
  let zAve ← store s.zAve count z
  return (movementMagnitude, ⟨xAve, yAve, zAve, count⟩)

/-- A sample of the three axes. -/
structure Sample where
  x : Int16
  y : Int16
  z : Int16
  deriving DecidableEq

def call (s : Averages) (sample : Sample) : Option (ℤ × Averages) :=
  getMovementMagnitude s sample.x.toInt sample.y.toInt sample.z.toInt

/-- The variables after calls with the samples. -/
def calls (s : Averages) (samples : List Sample) : Option Averages :=
  samples.foldlM (fun s sample => (call s sample).map Prod.snd) s

/-- The two registers of an axis, as a number. -/
def axis (low high : UInt8) : Int16 :=
  Int16.ofNat (low.toNat ||| high.toNat <<< 8)

/-- The sample in the registers of the sensor. -/
def Sample.ofRegisters (readMotionReg : UInt8 → UInt8) : Sample where
  x := axis (readMotionReg 0x28) (readMotionReg 0x29)
  y := axis (readMotionReg 0x2A) (readMotionReg 0x2B)
  z := axis (readMotionReg 0x2C) (readMotionReg 0x2D)

/-- `read_motion`. -/
def readMotion (s : Averages) (readMotionReg : UInt8 → UInt8) :
    Option (ℤ × Averages) :=
  call s (.ofRegisters readMotionReg)

/-! ## What the calls are to return -/

/-- The average of the last values, truncated toward zero. -/
def average (values : List ℤ) : ℤ :=
  (window AVE_SAMPLE values).sum.tdiv AVE_SAMPLE

/-- How far a sample is from the averages of the samples before it. -/
def deviation (samples : List Sample) (sample : Sample) : ℤ :=
  (average (samples.map (·.x.toInt)) - sample.x.toInt).natAbs +
    (average (samples.map (·.y.toInt)) - sample.y.toInt).natAbs +
    (average (samples.map (·.z.toInt)) - sample.z.toInt).natAbs

/-! ## One axis -/

/-- The index after the next call. -/
def advance (count : ℤ) : ℤ :=
  if count + 1 ≥ AVE_SAMPLE then 0 else count + 1

/-- The ring holds the last of the values. -/
structure Tracks (values : List Int16) (buf : Vector ℤ AVE_SAMPLE)
    (count : ℤ) : Prop where
  ring : Ring AVE_SAMPLE (values.map Int16.toInt) buf.toList
    (advance count).toNat
  count_ge : -1 ≤ count
  count_lt : count < AVE_SAMPLE

variable {values : List Int16} {buf : Vector ℤ AVE_SAMPLE} {count : ℤ}

theorem advance_mem (h : -1 ≤ count) :
    0 ≤ advance count ∧ advance count < AVE_SAMPLE := by
  unfold advance AVE_SAMPLE
  split_ifs <;> omega

/-- A value of the window is one of an axis, or missing. -/
theorem mem_window_axis {value : ℤ}
    (h : value ∈ window AVE_SAMPLE (values.map Int16.toInt)) :
    -32768 ≤ value ∧ value ≤ 32767 := by
  rcases mem_window h with rfl | hmem
  · decide
  · obtain ⟨v, -, rfl⟩ := List.mem_map.mp hmem
    have hlow := v.le_toInt
    have hhigh := v.toInt_lt
    omega

theorem average_mem (values : List Int16) :
    -32768 ≤ average (values.map Int16.toInt) ∧
      average (values.map Int16.toInt) ≤ 32767 :=
  tdiv_sum_mem (fun _ => mem_window_axis) length_window (by decide)

theorem Tracks.getAverage_eq (h : Tracks values buf count) :
    getAverage buf = some (average (values.map Int16.toInt)) := by
  have hmem : ∀ value ∈ buf.toList, -32768 ≤ value ∧ value ≤ 32768 := by
    intro value hvalue
    have hwindow := h.ring.rotate ▸ List.mem_rotate.mpr hvalue
    have hrange := mem_window_axis hwindow
    omega
  have hlength : buf.toList.length = 13 := buf.length_toList
  have hsum := foldlM_add (by decide) hmem 0 (by rw [hlength]; decide)
    (by rw [hlength]; decide)
  unfold getAverage average
  rw [hsum, Int.zero_add, h.ring.sum_eq]
  rfl

theorem tracks_start : Tracks [] (.replicate AVE_SAMPLE 0) (-1) where
  ring := ring_replicate (by decide)
  count_ge := by decide
  count_lt := by decide

/-- The sample takes the place of the oldest one. -/
theorem Tracks.store_eq (h : Tracks values buf count) (value : Int16) :
    ∃ buf', store buf (advance count) value.toInt = some buf' ∧
      Tracks (values ++ [value]) buf' (advance count) := by
  obtain ⟨hpos, hlt⟩ := advance_mem h.count_ge
  have hnext : (advance count).toNat < AVE_SAMPLE := by omega
  refine ⟨buf.set (advance count).toNat value.toInt hnext,
    dif_pos ⟨hpos, hnext⟩, ?_, by omega, hlt⟩
  have hring := h.ring.set value.toInt
  have hindex : (advance (advance count)).toNat =
      if (advance count).toNat + 1 < AVE_SAMPLE then
        (advance count).toNat + 1 else 0 := by
    unfold AVE_SAMPLE
    rw [advance, AVE_SAMPLE]
    split_ifs <;> omega
  rw [List.map_append, hindex, Vector.toList_set]
  exact hring

/-! ## One call -/

/-- The three rings hold the samples. -/
structure Averages.Tracks (samples : List Sample) (s : Averages) : Prop where
  x : MotionControllers.Tracks (samples.map Sample.x) s.xAve s.count
  y : MotionControllers.Tracks (samples.map Sample.y) s.yAve s.count
  z : MotionControllers.Tracks (samples.map Sample.z) s.zAve s.count

/-- The distance of a value from the average of other values. -/
def distance (values : List Int16) (value : Int16) : ℤ :=
  (average (values.map Int16.toInt) - value.toInt).natAbs

theorem distance_mem (values : List Int16) (value : Int16) :
    0 ≤ distance values value ∧ distance values value ≤ 65535 := by
  have haverage := average_mem values
  have hlow := value.le_toInt
  have hhigh := value.toInt_lt
  unfold distance
  omega

/-- The distance is computed without an overflow. -/
theorem magnitude_eq (values : List Int16) (value : Int16) :
    int (average (values.map Int16.toInt) - value.toInt) =
        some (average (values.map Int16.toInt) - value.toInt) ∧
      magnitude (average (values.map Int16.toInt) - value.toInt) =
        some (distance values value) := by
  have haverage := average_mem values
  have hlow := value.le_toInt
  have hhigh := value.toInt_lt
  refine ⟨int_eq (by omega) (by omega), ?_⟩
  unfold magnitude distance
  split_ifs with h
  · rw [int_eq (by omega) (by omega), Int.neg_one_mul,
      Int.ofNat_natAbs_of_nonpos (by omega)]
  · rw [Int.natAbs_of_nonneg (by omega)]

variable {samples : List Sample} {s : Averages}

theorem deviation_eq (samples : List Sample) (sample : Sample) :
    deviation samples sample = distance (samples.map Sample.x) sample.x +
      distance (samples.map Sample.y) sample.y +
      distance (samples.map Sample.z) sample.z := by
  unfold deviation distance
  rw [List.map_map, List.map_map, List.map_map]
  rfl

theorem deviation_mem (samples : List Sample) (sample : Sample) :
    0 ≤ deviation samples sample ∧ deviation samples sample ≤ 196605 := by
  have hx := distance_mem (samples.map Sample.x) sample.x
  have hy := distance_mem (samples.map Sample.y) sample.y
  have hz := distance_mem (samples.map Sample.z) sample.z
  rw [deviation_eq]
  omega

/-- What a call returns, and that it stores the sample. -/
theorem Averages.Tracks.call_eq (h : s.Tracks samples) (sample : Sample) :
    ∃ s', call s sample = some (deviation samples sample, s') ∧
      s'.Tracks (samples ++ [sample]) ∧ s'.count = advance s.count := by
  obtain ⟨xAve, hxStore, hx⟩ := h.x.store_eq sample.x
  obtain ⟨yAve, hyStore, hy⟩ := h.y.store_eq sample.y
  obtain ⟨zAve, hzStore, hz⟩ := h.z.store_eq sample.z
  obtain ⟨hxMag, hxDistance⟩ := magnitude_eq (samples.map Sample.x) sample.x
  obtain ⟨hyMag, hyDistance⟩ := magnitude_eq (samples.map Sample.y) sample.y
  obtain ⟨hzMag, hzDistance⟩ := magnitude_eq (samples.map Sample.z) sample.z
  have hxMem := distance_mem (samples.map Sample.x) sample.x
  have hyMem := distance_mem (samples.map Sample.y) sample.y
  have hzMem := distance_mem (samples.map Sample.z) sample.z
  have hge := h.x.count_ge
  have hlt := h.x.count_lt
  unfold AVE_SAMPLE at hlt
  have hcount : int (s.count + 1) = some (s.count + 1) :=
    int_eq (by omega) (by omega)
  have hadvance : (if s.count + 1 ≥ AVE_SAMPLE then 0 else s.count + 1) =
      advance s.count := rfl
  refine ⟨⟨xAve, yAve, zAve, advance s.count⟩, ?_, ⟨?_, ?_, ?_⟩, rfl⟩
  · unfold call getMovementMagnitude
    rw [bind_of_some h.x.getAverage_eq, bind_of_some hxMag,
      bind_of_some h.y.getAverage_eq, bind_of_some hyMag,
      bind_of_some h.z.getAverage_eq, bind_of_some hzMag,
      bind_of_some hxDistance, bind_of_some (int_eq (by omega) (by omega)),
      bind_of_some hyDistance, bind_of_some (int_eq (by omega) (by omega)),
      bind_of_some hzDistance, bind_of_some (int_eq (by omega) (by omega)),
      bind_of_some hcount]
    simp only [hadvance]
    rw [bind_of_some hxStore, bind_of_some hyStore, bind_of_some hzStore,
      deviation_eq, Int.zero_add, Option.pure_def]
  · rw [List.map_append]
    exact hx
  · rw [List.map_append]
    exact hy
  · rw [List.map_append]
    exact hz

/-! ## All calls -/

theorem calls_tracks (samples : List Sample) :
    ∃ s, calls .start samples = some s ∧ s.Tracks samples := by
  induction samples using List.reverseRecOn with
  | nil => exact ⟨_, rfl, tracks_start, tracks_start, tracks_start⟩
  | append_singleton samples sample ih =>
      obtain ⟨s, hcalls, htracks⟩ := ih
      obtain ⟨s', hcall, htracks', -⟩ := htracks.call_eq sample
      refine ⟨s', ?_, htracks'⟩
      unfold calls at hcalls ⊢
      rw [List.foldlM_append, bind_of_some hcalls, List.foldlM_cons, hcall]
      rfl

/-- The registers hold the number in two's complement. -/
theorem toInt_axis (low high : UInt8) :
    (axis low high).toInt =
      (256 * high.toNat + low.toNat : ℤ).bmod (2 ^ 16) := by
  have hor : low.toNat ||| high.toNat <<< 8 =
      256 * high.toNat + low.toNat := by
    rw [Nat.or_comm, ← Nat.shiftLeft_add_eq_or_of_lt low.toNat_lt,
      Nat.shiftLeft_eq]
    omega
  unfold axis
  rw [hor, Int16.toInt_ofNat']
  rfl

/-- The results of `read_motion`, by the registers of the sensor. -/
theorem readMotion_eq (readings : List (UInt8 → UInt8))
    (reading : UInt8 → UInt8) :
    ∃ s s', readings.foldlM
        (fun s readMotionReg => (readMotion s readMotionReg).map Prod.snd)
        .start = some s ∧
      readMotion s reading = some (deviation (readings.map .ofRegisters)
        (.ofRegisters reading), s') := by
  obtain ⟨s, hcalls, htracks⟩ := calls_tracks (readings.map .ofRegisters)
  obtain ⟨s', hcall, -⟩ := htracks.call_eq (.ofRegisters reading)
  refine ⟨s, s', ?_, hcall⟩
  rw [calls, List.foldlM_map] at hcalls
  exact hcalls

/-- After any samples, a call returns how far the next sample is from the
averages of the last ones. -/
theorem getMovementMagnitude_eq (samples : List Sample) (sample : Sample) :
    ∃ s s', calls .start samples = some s ∧
      getMovementMagnitude s sample.x.toInt sample.y.toInt sample.z.toInt =
        some (deviation samples sample, s') ∧
      (0 ≤ s'.count ∧ s'.count ≤ 12) ∧
      0 ≤ deviation samples sample ∧ deviation samples sample ≤ 196605 := by
  obtain ⟨s, hcalls, htracks⟩ := calls_tracks samples
  obtain ⟨s', hcall, -, hcount⟩ := htracks.call_eq sample
  refine ⟨s, s', hcalls, hcall, ?_, deviation_mem samples sample⟩
  have hadvance := advance_mem htracks.x.count_ge
  unfold AVE_SAMPLE at hadvance
  omega

end ChuckLight.Firmware.MotionControllers
