import ChuckLight.DmxModule.Dmx512
import Mathlib.Data.List.FinRange

/-!
# The DMX512 serialiser

From reset, and whatever is written on the write port in whatever cycle, the
output of `dmx512` is an endless repetition of packets.  The proof follows the
timer: every state is left only when the timer shows the limit of that state,
so a run is a sequence of timed phases, and one lemma for each kind of phase
says which phase comes next.  Induction over the bits of a slot, the slots of
a packet and the packets then locates every phase of the run.
-/

namespace ChuckLight.Dmx512

/-! ## The shape of a packet -/

/-- The value of the timer at which a state is left. -/
def limit : StateT → BitVec 13
  | .idle => idleTime
  | .break => breakTime
  | .mab => mabTime
  | .transmit => bitTime

/-- Number of cycles spent in a state. -/
def cycles (q : StateT) : ℕ := (limit q).toNat + 1

@[simp] theorem cycles_idle : cycles .idle = 2501 := rfl
@[simp] theorem cycles_break : cycles .break = 5001 := rfl
@[simp] theorem cycles_mab : cycles .mab = 601 := rfl
@[simp] theorem cycles_transmit : cycles .transmit = 201 := rfl

/-- Number of cycles of one slot: eleven bits. -/
def slotCycles : ℕ := 11 * cycles .transmit

/-- Number of cycles before the first slot of a packet. -/
def headCycles : ℕ := cycles .idle + cycles .break + cycles .mab

/-- Number of cycles of one packet: the head and 513 slots. -/
def packetCycles : ℕ := headCycles + 513 * slotCycles

/-- The cycle in which slot `i` of packet `k` starts on the wire. -/
def slotStart (k i : ℕ) : ℕ := k * packetCycles + headCycles + i * slotCycles

/-- The cycle whose clock edge loads slot `i` of packet `k`. -/
def loadCycle (k i : ℕ) : ℕ := slotStart k i - 1

/-- Bit `b` of a slot: a 0 start bit, the data bits with the least significant
first, and 1 stop bits. -/
def slotBit (data : BitVec 8) (b : ℕ) : Bool :=
  if b = 0 then false else if b ≤ 8 then data.getLsbD (b - 1) else true

/-- One slot on the wire. -/
def slot (data : BitVec 8) : List Bool :=
  (List.range 11).flatMap fun b =>
    List.replicate (cycles .transmit) (slotBit data b)

/-- One packet on the wire, for the bytes of its 513 slots. -/
def packet (bytes : Fin 513 → BitVec 8) : List Bool :=
  List.replicate (cycles .idle) true ++
    List.replicate (cycles .break) false ++
    List.replicate (cycles .mab) true ++
    (List.finRange 513).flatMap fun i => slot (bytes i)

theorem frame_getLsbD (data : BitVec 8) {b : ℕ} (hb : b < 11) :
    (frame data).getLsbD b = slotBit data b := by
  unfold frame slotBit
  rw [BitVec.getLsbD_append, BitVec.getLsbD_append]
  by_cases h0 : b = 0
  · simp [h0]
  · by_cases h8 : b ≤ 8
    · have : b - 1 < 8 := by omega
      simp [h0, h8, show ¬ b < 1 by omega, this]
    · have hcases : b = 9 ∨ b = 10 := by omega
      rcases hcases with rfl | rfl <;> simp

/-! ## Timed phases -/

/-- The registers that a state keeps while its timer is running. -/
structure Control where
  currState : StateT
  frameAddr : BitVec 10
  shiftReg : BitVec 11
  bitCount : BitVec 4

def control (s : Regs) : Control :=
  ⟨s.currState, s.frameAddr, s.shiftReg, s.bitCount⟩

/-- Below the limit only the timer and the memory move. -/
theorem step_of_timer_ne {s : Regs} (i : Inputs)
    (h : s.timer ≠ limit s.currState) :
    step s i =
      { s with dmxData := writeData s.dmxData i, timer := s.timer + 1 } := by
  rcases s with ⟨q, data, fa, sr, bc, timer⟩
  cases q <;> simp_all [step, comb, limit]

theorem timer_succ_toNat {x y : BitVec 13} (h : x.toNat < y.toNat) :
    (x + 1).toNat = x.toNat + 1 := by
  have hy := y.isLt
  rw [BitVec.toNat_add, Nat.mod_eq_of_lt]
  · rfl
  · change x.toNat + 1 < _
    omega

theorem control_stay (s : Regs) (i : Inputs)
    (h : s.timer.toNat < (limit s.currState).toNat) :
    control (step s i) = control s ∧
      (step s i).timer.toNat = s.timer.toNat + 1 := by
  have hne : s.timer ≠ limit s.currState := by
    intro heq
    rw [heq] at h
    exact lt_irrefl _ h
  rw [step_of_timer_ne i hne]
  exact ⟨rfl, timer_succ_toNat h⟩

/-- The state in cycle `t` of the run from reset. -/
def runAt (input : ℕ → Inputs) (t : ℕ) : Regs :=
  Clocked.run step reset input t

/-- A phase begins in cycle `t`: the timer is zero. -/
structure Starts (input : ℕ → Inputs) (t : ℕ) (q : Control) : Prop where
  control : control (runAt input t) = q
  timer : (runAt input t).timer = 0

variable {input : ℕ → Inputs} {t : ℕ} {q : Control}

/-- A phase lasts until the timer shows the limit of its state. -/
theorem Starts.lasts (h : Starts input t q) {c : ℕ}
    (hc : c < cycles q.currState) :
    Dmx512.control (runAt input (t + c)) = q ∧
      (runAt input (t + c)).timer.toNat = c := by
  refine Clocked.dwell (fun s => s.timer.toNat) (limit q.currState).toNat
    ?_ h.control ?_ c (Nat.le_of_lt_succ hc)
  · intro s i hs hlt
    have hq : s.currState = q.currState := congrArg Control.currState hs
    rw [← hq] at hlt
    obtain ⟨hctl, htimer⟩ := control_stay s i hlt
    exact ⟨hctl.trans hs, htimer⟩
  · change (runAt input t).timer.toNat = 0
    rw [h.timer]
    rfl

/-- The phase after `q`, when `loaded` is the byte that `frameAddr` selects. -/
def Control.next (q : Control) (loaded : BitVec 8) : Control :=
  match q.currState with
  | .idle => { q with currState := .break }
  | .break => { q with currState := .mab, frameAddr := 0 }
  | .mab => ⟨.transmit, q.frameAddr + 1, frame loaded, 0⟩
  | .transmit =>
      if q.bitCount ≠ 10 then
        { q with shiftReg := q.shiftReg >>> 1, bitCount := q.bitCount + 1 }
      else if q.frameAddr ≠ 513 then
        ⟨.transmit, q.frameAddr + 1, frame loaded, 0⟩
      else { q with currState := .idle }

theorem control_step_of_timer_eq {s : Regs} (i : Inputs)
    (h : s.timer = limit s.currState) :
    control (step s i) =
        (control s).next (readData s.dmxData s.frameAddr) ∧
      (step s i).timer = 0 := by
  rcases s with ⟨q, data, fa, sr, bc, timer⟩
  cases q with
  | idle => simp_all [step, comb, limit, control, Control.next]
  | «break» => simp_all [step, comb, limit, control, Control.next]
  | mab => simp_all [step, comb, limit, control, Control.next]
  | transmit =>
      by_cases hbit : bc = 10
      · by_cases hframe : fa = 513
        · simp_all [step, comb, limit, control, Control.next]
        · simp_all [step, comb, limit, control, Control.next]
      · simp_all [step, comb, limit, control, Control.next]

/-- In the last cycle of a phase the timer shows the limit. -/
theorem Starts.last (h : Starts input t q) :
    Dmx512.control (runAt input (t + cycles q.currState - 1)) = q ∧
      (runAt input (t + cycles q.currState - 1)).timer =
        limit (runAt input (t + cycles q.currState - 1)).currState := by
  obtain ⟨hctl, htimer⟩ :=
    h.lasts (c := (limit q.currState).toNat) (Nat.lt_succ_self _)
  have hlast : t + cycles q.currState - 1 = t + (limit q.currState).toNat := by
    unfold cycles
    omega
  rw [hlast]
  refine ⟨hctl, ?_⟩
  have hq : (runAt input (t + (limit q.currState).toNat)).currState =
      q.currState := congrArg Control.currState hctl
  rw [hq]
  exact BitVec.eq_of_toNat_eq htimer

/-- A phase is followed by the next one, which uses the memory as it was in
the last cycle of the phase. -/
theorem Starts.next (h : Starts input t q) :
    Starts input (t + cycles q.currState)
      (q.next (readData
        (runAt input (t + cycles q.currState - 1)).dmxData q.frameAddr)) := by
  obtain ⟨hctl, hlimit⟩ := h.last
  have hsucc : t + cycles q.currState = t + cycles q.currState - 1 + 1 := by
    unfold cycles
    omega
  have haddr : (runAt input (t + cycles q.currState - 1)).frameAddr =
      q.frameAddr := congrArg Control.frameAddr hctl
  obtain ⟨hnext, hzero⟩ := control_step_of_timer_eq
    (input (t + cycles q.currState - 1)) hlimit
  rw [hctl, haddr] at hnext
  constructor
  · rw [hsucc]
    exact hnext
  · rw [hsucc]
    exact hzero

/-! ## Bits, slots and packets -/

/-- The byte that is loaded for slot `i` of packet `k`. -/
def loadedByte (input : ℕ → Inputs) (k i : ℕ) : BitVec 8 :=
  readData (runAt input (loadCycle k i)).dmxData (BitVec.ofNat 10 i)

theorem ofNat_succ_eq (w n : ℕ) :
    BitVec.ofNat w n + 1 = BitVec.ofNat w (n + 1) :=
  (BitVec.ofNat_add n 1).symm

/-- The eleven bits of a slot follow one another. -/
theorem starts_bit {fa : BitVec 10} {sr : BitVec 11}
    (h : Starts input t ⟨.transmit, fa, sr, 0⟩) :
    ∀ b, b ≤ 10 → Starts input (t + b * cycles .transmit)
      ⟨.transmit, fa, sr >>> b, BitVec.ofNat 4 b⟩ := by
  intro b
  induction b with
  | zero =>
      intro _
      simpa using h
  | succ b ih =>
      intro hb
      have hne : BitVec.ofNat 4 b ≠ 10 := by
        intro heq
        have hval := congrArg BitVec.toNat heq
        rw [BitVec.toNat_ofNat, Nat.mod_eq_of_lt (by omega)] at hval
        have : b = 10 := hval
        omega
      have hnext := (ih (by omega)).next
      simp only [Control.next, if_pos hne] at hnext
      rw [Nat.succ_mul, ← Nat.add_assoc]
      rwa [← BitVec.shiftRight_add, ofNat_succ_eq] at hnext

/-- The phase of the last bit of a slot. -/
theorem starts_lastBit {fa : BitVec 10} {sr : BitVec 11}
    (h : Starts input t ⟨.transmit, fa, sr, 0⟩) :
    Starts input (t + 10 * cycles .transmit)
      ⟨.transmit, fa, sr >>> 10, 10⟩ :=
  starts_bit h 10 le_rfl

/-- The 513 slots of a packet follow one another, each with the byte that its
own address selects. -/
theorem starts_slot {k : ℕ} {q : Control}
    (h : Starts input (k * packetCycles) q) (hq : q.currState = .idle) :
    ∀ i, i ≤ 512 → Starts input (slotStart k i)
      ⟨.transmit, BitVec.ofNat 10 (i + 1), frame (loadedByte input k i),
        0⟩ := by
  intro i
  induction i with
  | zero =>
      intro _
      have hbreak := h.next
      simp only [Control.next, hq] at hbreak
      have hmab := hbreak.next
      simp only [Control.next] at hmab
      have hslot := hmab.next
      simp only [Control.next] at hslot
      have hstart : slotStart k 0 =
          k * packetCycles + cycles .idle + cycles .break + cycles .mab := by
        unfold slotStart headCycles
        omega
      rw [loadedByte, loadCycle, hstart]
      exact hslot
  | succ i ih =>
      intro hi
      have hne : BitVec.ofNat 10 (i + 1) ≠ 513 := by
        intro heq
        have hval := congrArg BitVec.toNat heq
        rw [BitVec.toNat_ofNat, Nat.mod_eq_of_lt (by omega)] at hval
        have : i + 1 = 513 := hval
        omega
      have hnext := (starts_lastBit (ih (by omega))).next
      simp only [Control.next, ne_eq, not_true_eq_false, if_false,
        if_pos hne] at hnext
      have hstart : slotStart k (i + 1) =
          slotStart k i + 10 * cycles .transmit + cycles .transmit := by
        unfold slotStart slotCycles
        rw [Nat.succ_mul]
        omega
      rw [loadedByte, loadCycle, hstart]
      rwa [ofNat_succ_eq] at hnext

/-- Every packet starts with an idle phase. -/
theorem starts_packet (input : ℕ → Inputs) (k : ℕ) :
    ∃ q : Control, q.currState = .idle ∧
      Starts input (k * packetCycles) q := by
  induction k with
  | zero => exact ⟨control reset, rfl, by rw [Nat.zero_mul]; exact ⟨rfl, rfl⟩⟩
  | succ k ih =>
      obtain ⟨q, hq, hstart⟩ := ih
      have hlast := (starts_lastBit (starts_slot hstart hq 512 le_rfl)).next
      have hend : (k + 1) * packetCycles =
          slotStart k 512 + 10 * cycles .transmit + cycles .transmit := by
        unfold slotStart
        rw [Nat.succ_mul]
        unfold packetCycles slotCycles
        omega
      rw [hend]
      exact ⟨_, rfl, hlast⟩

/-! ## The output -/

/-- The output of a phase, which is constant. -/
def Control.signal (q : Control) : Bool :=
  match q.currState with
  | .idle => true
  | .break => false
  | .mab => true
  | .transmit => q.shiftReg.getLsbD 0

theorem dmxSignal_eq_signal (s : Regs) : dmxSignal s = (control s).signal := by
  rcases s with ⟨q, data, fa, sr, bc, timer⟩
  cases q <;> simp only [dmxSignal, comb, control, Control.signal] <;>
    split_ifs <;> rfl

/-- The output during the `n` cycles from cycle `t` on. -/
def wave (input : ℕ → Inputs) (t n : ℕ) : List Bool :=
  (List.range n).map fun c => dmxSignal (runAt input (t + c))

theorem wave_add (input : ℕ → Inputs) (t n m : ℕ) :
    wave input t (n + m) = wave input t n ++ wave input (t + n) m := by
  simp [wave, List.range_add, Nat.add_assoc]

theorem wave_mul (input : ℕ → Inputs) (t n m : ℕ) :
    wave input t (n * m) =
      (List.range n).flatMap fun i => wave input (t + i * m) m := by
  induction n with
  | zero => simp [wave]
  | succ n ih =>
      rw [Nat.succ_mul, wave_add, ih, List.range_succ, List.flatMap_append]
      simp

theorem Starts.wave (h : Starts input t q) :
    Dmx512.wave input t (cycles q.currState) =
      List.replicate (cycles q.currState) q.signal := by
  rw [List.eq_replicate_iff]
  refine ⟨by simp [Dmx512.wave], ?_⟩
  intro b hb
  obtain ⟨c, hc, rfl⟩ := List.mem_map.mp hb
  rw [dmxSignal_eq_signal, (h.lasts (List.mem_range.mp hc)).1]

theorem wave_slot {fa : BitVec 10} {data : BitVec 8}
    (h : Starts input t ⟨.transmit, fa, frame data, 0⟩) :
    wave input t slotCycles = slot data := by
  rw [slotCycles, wave_mul, slot]
  apply List.flatMap_congr
  intro b hb
  have hb' : b < 11 := List.mem_range.mp hb
  have hbit := (starts_bit h b (by omega)).wave
  simp only [Control.signal, BitVec.getLsbD_ushiftRight, Nat.add_zero] at hbit
  rw [hbit, frame_getLsbD data hb']

theorem readData_ofNat (m : Data) (i : Fin 513) :
    readData m (BitVec.ofNat 10 i) = m i := by
  have hi : (BitVec.ofNat 10 (i : ℕ)).toNat = i := by
    rw [BitVec.toNat_ofNat, Nat.mod_eq_of_lt (by omega)]
  unfold readData
  rw [dif_pos (by rw [hi]; exact i.isLt)]
  congr 1
  exact Fin.ext hi

/-- The slots of a packet, as blocks of the run. -/
theorem wave_slots (input : ℕ → Inputs) (t n : ℕ) (blocks : Fin n → List Bool)
    (h : ∀ i : Fin n, wave input (t + i * slotCycles) slotCycles = blocks i) :
    wave input t (n * slotCycles) = (List.finRange n).flatMap blocks := by
  rw [wave_mul, ← List.map_coe_finRange_eq_range, List.flatMap_map]
  apply List.flatMap_congr
  intro i _
  exact h i

theorem wave_head {k : ℕ} (h : Starts input (k * packetCycles) q)
    (hq : q.currState = .idle) :
    wave input (k * packetCycles) headCycles =
      List.replicate (cycles .idle) true ++
        List.replicate (cycles .break) false ++
        List.replicate (cycles .mab) true := by
  have hbreak := h.next
  simp only [Control.next, hq] at hbreak
  have hmab := hbreak.next
  simp only [Control.next] at hmab
  have hidleWave := h.wave
  have hbreakWave := hbreak.wave
  have hmabWave := hmab.wave
  simp only [Control.signal, hq] at hidleWave hbreakWave hmabWave
  rw [headCycles, wave_add, wave_add, hidleWave, hbreakWave, ← Nat.add_assoc,
    hmabWave]

theorem wave_packet (input : ℕ → Inputs) (k : ℕ) :
    wave input (k * packetCycles) packetCycles =
      packet fun i => (runAt input (loadCycle k i)).dmxData i := by
  obtain ⟨q, hq, hidle⟩ := starts_packet input k
  have hslots := wave_slots input (k * packetCycles + headCycles) 513
    (fun i => slot ((runAt input (loadCycle k i)).dmxData i)) fun i => by
      rw [← readData_ofNat (runAt input (loadCycle k i)).dmxData i]
      exact wave_slot (starts_slot hidle hq i (Nat.le_of_lt_succ i.isLt))
  have hsplit := wave_add input (k * packetCycles) headCycles (513 * slotCycles)
  rw [wave_head hidle hq, hslots] at hsplit
  rw [packet, ← hsplit, packetCycles]

/-! ## Loading a slot -/

/-- The phases at whose end a slot is loaded. -/
def Control.Loads (q : Control) : Prop :=
  q.currState = .mab ∨
    q.currState = .transmit ∧ q.bitCount = 10 ∧ q.frameAddr ≠ 513

theorem shiftLoad_iff (s : Regs) :
    (comb s).shiftLoad = true ↔
      s.timer = limit s.currState ∧ (control s).Loads := by
  rcases s with ⟨q, data, fa, sr, bc, timer⟩
  cases q <;> simp only [comb, control, Control.Loads, limit] <;>
    split_ifs <;> simp_all

/-- In the cycle before a slot starts, the byte that its address selects is
loaded. -/
theorem shiftLoad_loadCycle (input : ℕ → Inputs) (k : ℕ) {i : ℕ}
    (hi : i ≤ 512) :
    (comb (runAt input (loadCycle k i))).shiftLoad = true ∧
      (runAt input (loadCycle k i)).frameAddr.toNat = i := by
  obtain ⟨q, hq, hidle⟩ := starts_packet input k
  obtain ⟨t, p, hstart, hloads, haddr, hload⟩ : ∃ t p, Starts input t p ∧
      p.Loads ∧ p.frameAddr.toNat = i ∧
      loadCycle k i = t + cycles p.currState - 1 := by
    cases i with
    | zero =>
        have hbreak := hidle.next
        simp only [Control.next, hq] at hbreak
        have hmab := hbreak.next
        simp only [Control.next] at hmab
        refine ⟨_, _, hmab, Or.inl rfl, rfl, ?_⟩
        unfold loadCycle slotStart headCycles
        dsimp only
        omega
    | succ i =>
        have hval : (BitVec.ofNat 10 (i + 1)).toNat = i + 1 := by
          rw [BitVec.toNat_ofNat, Nat.mod_eq_of_lt (by omega)]
        have hne : BitVec.ofNat 10 (i + 1) ≠ 513 := by
          intro heq
          rw [heq] at hval
          have : 513 = i + 1 := hval
          omega
        refine ⟨_, _, starts_lastBit (starts_slot hidle hq i (by omega)),
          Or.inr ⟨rfl, rfl, hne⟩, hval, ?_⟩
        unfold loadCycle slotStart slotCycles
        rw [Nat.succ_mul]
        dsimp only
        omega
  obtain ⟨hctl, hlimit⟩ := hstart.last
  rw [hload]
  constructor
  · rw [shiftLoad_iff, hctl]
    exact ⟨hlimit, hloads⟩
  · have hfa := congrArg Control.frameAddr hctl
    rw [← haddr, ← hfa]
    rfl

/-- Every cycle of the run lies in one of the located phases; a phase that
loads a slot ends where that slot starts. -/
theorem exists_phase (input : ℕ → Inputs) (t : ℕ) :
    ∃ t₀ q, Starts input t₀ q ∧ t₀ ≤ t ∧ t < t₀ + cycles q.currState ∧
      (q.Loads → ∃ k i, i ≤ 512 ∧ t₀ + cycles q.currState = slotStart k i) := by
  have hdiv := Nat.div_add_mod' t packetCycles
  have hmod : t % packetCycles < packetCycles := Nat.mod_lt _ (by decide)
  obtain ⟨q, hq, hidle⟩ := starts_packet input (t / packetCycles)
  have hbreak := hidle.next
  simp only [Control.next, hq] at hbreak
  have hmab := hbreak.next
  simp only [Control.next] at hmab
  generalize t / packetCycles = k at *
  generalize t % packetCycles = c at *
  have hhead : headCycles = 8103 := rfl
  have hslot : slotCycles = 2211 := rfl
  have hpacket : packetCycles = headCycles + 513 * slotCycles := rfl
  by_cases h₁ : c < cycles .idle
  · refine ⟨_, _, hidle, by omega, by rw [hq]; omega, ?_⟩
    rintro (h | ⟨h, -⟩) <;> rw [hq] at h <;> cases h
  by_cases h₂ : c < cycles .idle + cycles .break
  · refine ⟨_, _, hbreak, by omega, by dsimp only; omega, ?_⟩
    rintro (h | ⟨h, -⟩) <;> cases h
  by_cases h₃ : c < headCycles
  · refine ⟨_, _, hmab, ?_, ?_, fun _ => ⟨k, 0, Nat.zero_le _, ?_⟩⟩
    · omega
    · simp only [cycles_idle, cycles_break, cycles_mab]
      omega
    · unfold slotStart headCycles
      dsimp only
      omega
  -- The cycle lies in bit `b` of slot `i`.
  obtain ⟨i, b, r, hi, hb, hr, hc⟩ : ∃ i b r, i ≤ 512 ∧ b ≤ 10 ∧
      r < cycles .transmit ∧
      c = headCycles + i * slotCycles + b * cycles .transmit + r := by
    obtain ⟨j, rfl⟩ := Nat.exists_eq_add_of_le (Nat.le_of_not_lt h₃)
    refine ⟨j / 2211, j % 2211 / 201, j % 2211 % 201, ?_⟩
    rw [cycles_transmit, hslot]
    omega
  have hbit := starts_bit (starts_slot hidle hq i hi) b hb
  refine ⟨_, _, hbit, ?_, ?_, ?_⟩
  · unfold slotStart
    omega
  · unfold slotStart
    dsimp only
    omega
  · rintro (h | ⟨-, h, hne⟩)
    · cases h
    · have hb10 : b = 10 := by
        have hval := congrArg BitVec.toNat h
        rw [BitVec.toNat_ofNat, Nat.mod_eq_of_lt (by omega)] at hval
        exact hval
      have hi512 : i ≠ 512 := by
        rintro rfl
        exact hne rfl
      refine ⟨k, i + 1, by omega, ?_⟩
      unfold slotStart
      rw [hb10, Nat.succ_mul, hslot]
      simp only [cycles_transmit]
      omega

theorem eq_loadCycle_of_shiftLoad (input : ℕ → Inputs) (t : ℕ)
    (hload : (comb (runAt input t)).shiftLoad = true) :
    ∃ k i, i ≤ 512 ∧ t = loadCycle k i := by
  obtain ⟨t₀, q, hstart, hle, hlt, hloads⟩ := exists_phase input t
  obtain ⟨c, rfl⟩ := Nat.exists_eq_add_of_le hle
  obtain ⟨hctl, hc⟩ := hstart.lasts (c := c) (by omega)
  obtain ⟨htimer, hctlLoads⟩ := (shiftLoad_iff _).mp hload
  have hq : (runAt input (t₀ + c)).currState = q.currState :=
    congrArg Control.currState hctl
  rw [hctl] at hctlLoads
  obtain ⟨k, i, hi, hend⟩ := hloads hctlLoads
  refine ⟨k, i, hi, ?_⟩
  have hcval : c + 1 = cycles q.currState := by
    rw [← hc, htimer, hq]
    rfl
  unfold loadCycle
  omega

/-! ## Ranges of the timer and of the memory index -/

/-- The address of the next slot, where the state needs it. -/
def Control.AddrInRange (q : Control) : Prop :=
  match q.currState with
  | .idle => True
  | .break => True
  | .mab => q.frameAddr = 0
  | .transmit => q.frameAddr.toNat ≤ 513

theorem Control.addrInRange_next {q : Control} (h : q.AddrInRange)
    (loaded : BitVec 8) : (q.next loaded).AddrInRange := by
  rcases q with ⟨state, fa, sr, bc⟩
  cases state with
  | idle => trivial
  | «break» => rfl
  | mab =>
      have hfa : fa = 0 := h
      subst hfa
      exact Nat.le_of_ble_eq_true rfl
  | transmit =>
      have hfa : fa.toNat ≤ 513 := h
      by_cases hbit : bc = 10
      · by_cases hframe : fa = 513
        · simp [Control.next, Control.AddrInRange, hbit, hframe]
        · have hne : fa.toNat ≠ 513 := fun heq =>
            hframe (BitVec.eq_of_toNat_eq heq)
          have hsucc : (fa + 1).toNat = fa.toNat + 1 := by
            rw [BitVec.toNat_add, Nat.mod_eq_of_lt]
            · rfl
            · change fa.toNat + 1 < 1024
              omega
          simp only [Control.next, hbit, hframe, ne_eq, not_true_eq_false,
            not_false_eq_true, if_false, if_true, Control.AddrInRange, hsucc]
          omega
      · simp only [Control.next, hbit, ne_eq, not_false_eq_true, if_true,
          Control.AddrInRange]
        exact hfa

/-- The timer has not passed the limit of the state, and the address of the
next slot is in range. -/
structure InRange (s : Regs) : Prop where
  timer : s.timer.toNat ≤ (limit s.currState).toNat
  addr : (control s).AddrInRange

theorem inRange_step (s : Regs) (i : Inputs) (h : InRange s) :
    InRange (step s i) := by
  by_cases hlimit : s.timer = limit s.currState
  · obtain ⟨hnext, hzero⟩ := control_step_of_timer_eq i hlimit
    refine ⟨by rw [hzero]; exact Nat.zero_le _, ?_⟩
    rw [hnext]
    exact Control.addrInRange_next h.addr _
  · have hlt : s.timer.toNat < (limit s.currState).toNat :=
      lt_of_le_of_ne h.timer fun heq => hlimit (BitVec.eq_of_toNat_eq heq)
    obtain ⟨hctl, htimer⟩ := control_stay s i hlt
    have hstate : (step s i).currState = s.currState :=
      congrArg Control.currState hctl
    refine ⟨?_, by rw [hctl]; exact h.addr⟩
    rw [htimer, hstate]
    exact hlt

theorem inRange_runAt (input : ℕ → Inputs) (t : ℕ) :
    InRange (runAt input t) :=
  Clocked.run_invariant ⟨Nat.zero_le _, trivial⟩ inRange_step input t

/-- Slot 0 carries the start code zero. -/
theorem dmxData_zero (input : ℕ → Inputs) (t : ℕ) :
    (runAt input t).dmxData 0 = 0 :=
  Clocked.run_invariant (P := fun s : Regs => s.dmxData 0 = 0) rfl
    (fun s i h => (writeData_zero s.dmxData i).trans h) input t

/-- The memory is never read past its end. -/
theorem frameAddr_le_of_shiftLoad {s : Regs} (h : InRange s)
    (hload : (comb s).shiftLoad = true) : s.frameAddr.toNat ≤ 512 := by
  have haddr := h.addr
  rcases ((shiftLoad_iff s).mp hload).2 with hmab | ⟨htransmit, -, hne⟩
  · rw [Control.AddrInRange, hmab] at haddr
    have hzero : s.frameAddr = 0 := haddr
    rw [hzero]
    exact Nat.zero_le _
  · rw [Control.AddrInRange, htransmit] at haddr
    have hle : s.frameAddr.toNat ≤ 513 := haddr
    have hne' : s.frameAddr.toNat ≠ 513 := fun heq =>
      hne (BitVec.eq_of_toNat_eq heq)
    omega

/-- The memory is never written past its end. -/
theorem offsetAddr_le {minSize : BitVec 3} {maxAddr offset : BitVec 10}
    (hmax : maxAddr.toNat + offset.toNat = 512) (i : Inputs) :
    (offsetAddr minSize maxAddr offset i).toNat ≤ 512 := by
  rw [offsetAddr_toNat hmax]
  split_ifs with h
  · exact h.2
  · exact Nat.zero_le _

/-! ## The serialiser -/

/-- The output of `dmx512` from reset.  Packet `k` is the waveform `packet`
of the bytes that `DMX_data` held at addresses 0 to 512 in the cycles that
loaded them; slot `i` of packet `k` is loaded in cycle `loadCycle k i`, from
address `i`, and nothing is loaded in any other cycle.  The start code is
always zero, no index into the memory exceeds 512, and the timer never passes
the limit of the current state. -/
theorem dmxSignal_packets (input : ℕ → Inputs) :
    (∀ k, wave input (k * packetCycles) packetCycles =
      packet fun i => (runAt input (loadCycle k i)).dmxData i) ∧
    (∀ t, (comb (runAt input t)).shiftLoad = true ↔
      ∃ k i, i ≤ 512 ∧ t = loadCycle k i) ∧
    (∀ k i, i ≤ 512 → (runAt input (loadCycle k i)).frameAddr.toNat = i) ∧
    (∀ t, (runAt input t).dmxData 0 = 0) ∧
    (∀ t, (comb (runAt input t)).shiftLoad = true →
      (runAt input t).frameAddr.toNat ≤ 512) ∧
    (∀ t, (addr0 (input t)).toNat ≤ 512 ∧ (addr1 (input t)).toNat ≤ 512 ∧
      (addr2 (input t)).toNat ≤ 512 ∧ (addr3 (input t)).toNat ≤ 512) ∧
    (∀ t, (runAt input t).timer ≤ limit (runAt input t).currState) := by
  refine ⟨wave_packet input, ?_, ?_, ?_, ?_, ?_, ?_⟩
  · intro t
    constructor
    · exact eq_loadCycle_of_shiftLoad input t
    · rintro ⟨k, i, hi, rfl⟩
      exact (shiftLoad_loadCycle input k hi).1
  · intro k i hi
    exact (shiftLoad_loadCycle input k hi).2
  · exact dmxData_zero input
  · exact fun t => frameAddr_le_of_shiftLoad (inRange_runAt input t)
  · exact fun t => ⟨offsetAddr_le rfl _, offsetAddr_le rfl _,
      offsetAddr_le rfl _, offsetAddr_le rfl _⟩
  · exact fun t => (inRange_runAt input t).timer

end ChuckLight.Dmx512
