import ChuckLight.DmxModule.Serialiser
import ChuckLight.Support.SerialReceiver

/-!
# What a fixture reads from the DMX line

`dmx512` starts to send at reset, and a fixture can be switched on at any time.
From the second break on it holds the bytes of the memory, provided its bit
clock is within five percent of the one of the module.
-/

namespace ChuckLight.Dmx512

open Serial (Timing Receiver)
open Serial.Receiver (Carries CarriesPacket Between)

variable {input : ℕ → Inputs} {t : ℕ} {q : Control} {c : Timing}

/-! ## Levels of the line -/

/-- The output pin in every cycle. -/
def line (input : ℕ → Inputs) (t : ℕ) : Bool := dmxSignal (runAt input t)

theorem Starts.line (h : Starts input t q) {i : ℕ}
    (hi : i < cycles q.currState) : Dmx512.line input (t + i) = q.signal := by
  unfold Dmx512.line
  rw [dmxSignal_eq_signal, (h.lasts hi).1]

theorem line_bit {fa : BitVec 10} {data : BitVec 8}
    (h : Starts input t ⟨.transmit, fa, frame data, 0⟩) :
    ∀ b < 11, ∀ i < cycles .transmit,
      Dmx512.line input (t + (b * cycles .transmit + i)) = slotBit data b := by
  intro b hb i hi
  have hlevel := (starts_bit h b (Nat.le_of_lt_succ hb)).line hi
  rw [← Nat.add_assoc, hlevel, ← frame_getLsbD data hb]
  unfold Control.signal
  rw [BitVec.getLsbD_ushiftRight, Nat.add_zero]

/-- The head of a packet. -/
theorem line_head {k : ℕ} (h : Starts input (k * packetCycles) q)
    (hq : q.currState = .idle) :
    (∀ i < cycles .idle, line input (k * packetCycles + i) = true) ∧
      (∀ i < cycles .break,
        line input (k * packetCycles + cycles .idle + i) = false) ∧
      ∀ i < cycles .mab, line input
        (k * packetCycles + cycles .idle + cycles .break + i) = true := by
  have hbreak := h.next
  simp only [Control.next, hq] at hbreak
  have hmab := hbreak.next
  simp only [Control.next] at hmab
  refine ⟨fun i hi => ?_, fun i hi => hbreak.line hi,
    fun i hi => hmab.line hi⟩
  rw [h.line (by rw [hq]; exact hi)]
  unfold Control.signal
  rw [hq]

/-! ## Receivers -/

/-- A receiver of words with eight data bits that finds the break, and whose
samples fall into the bits of the module. -/
structure Compatible (c : Timing) : Prop where
  bits : c.bits = 10
  sync : ∀ j < 10, j * cycles .transmit ≤ c.half + c.bit * j ∧
    c.half + c.bit * j < (j + 1) * cycles .transmit
  word_lt : 9 * cycles .transmit < c.breakTime
  break_le : c.breakTime ≤ cycles .break

/-- A receiver that samples each bit in the middle. -/
def centred (bit breakTime : ℕ) (hbit : 1 < bit) (hbreak : 1 < breakTime) :
    Timing where
  bit := bit
  half := bit / 2
  bits := 10
  breakTime := breakTime
  bit_pos := Nat.lt_of_succ_lt hbit
  half_pos := Nat.div_pos hbit (by decide)
  bits_pos := by decide
  break_pos := hbreak

/-- Its clock may be off by ten cycles of 201. -/
theorem compatible_centred {bit breakTime : ℕ} (hge : 191 ≤ bit)
    (hle : bit ≤ 211) (hword : 1809 < breakTime) (hbreak : breakTime ≤ 5001) :
    Compatible (centred bit breakTime (by omega) (by omega)) := by
  refine ⟨rfl, fun j hj => ?_, hword, hbreak⟩
  have hlow := Nat.mul_le_mul_right j hge
  have hhigh := Nat.mul_le_mul_right j hle
  rw [cycles_transmit]
  show j * 201 ≤ bit / 2 + bit * j ∧ bit / 2 + bit * j < (j + 1) * 201
  constructor <;> omega

/-- The word that carries a byte: start bit, data and a stop bit. -/
def word (data : BitVec 8) : List Bool := (List.range 10).map (slotBit data)

/-- The byte of a word. -/
def byteOf (w : List Bool) : BitVec 8 :=
  (BitVec.ofBoolListLE w.tail).setWidth 8

theorem byteOf_word (data : BitVec 8) : byteOf (word data) = data := by
  apply BitVec.eq_of_getLsbD_eq
  intro i hi
  have htail : (word data).tail = (List.range 9).map fun b =>
      slotBit data (b + 1) := rfl
  unfold byteOf
  rw [BitVec.getLsbD_setWidth, BitVec.getLsbD_ofBoolListLE, htail,
    decide_eq_true hi, Bool.true_and, List.getD_eq_getElem?_getD,
    List.getElem?_map, List.getElem?_range (by omega)]
  show slotBit data (i + 1) = _
  unfold slotBit
  rw [if_neg (Nat.succ_ne_zero i), if_pos (by omega), Nat.add_sub_cancel]

/-- A slot carries its byte. -/
theorem carries_slot (hc : Compatible c) {fa : BitVec 10} {data : BitVec 8}
    (h : Starts input t ⟨.transmit, fa, frame data, 0⟩) :
    Carries c (line input) t slotCycles (word data) := by
  have hcarries := @Serial.Receiver.carries_of_bits c (line input) t
    (cycles .transmit) 11 (slotBit data) (Nat.succ_pos _) (line_bit h)
  rw [hc.bits] at hcarries
  refine hcarries hc.sync (by decide) rfl (fun b hb _ => ?_) hc.word_lt
  unfold slotBit
  rw [if_neg (by omega), if_neg (by omega)]

theorem carriesPacket (hc : Compatible c) (input : ℕ → Inputs) (k : ℕ) :
    CarriesPacket c (line input) (k * packetCycles) (cycles .idle)
      (cycles .break) (cycles .mab) slotCycles 513
      fun i => word (loadedByte input k i) := by
  obtain ⟨q, hq, hidle⟩ := starts_packet input k
  obtain ⟨hhigh, hbroken, hmarked⟩ := line_head hidle hq
  refine ⟨Nat.succ_pos _, hc.break_le, Nat.succ_pos _, hhigh, hbroken,
    hmarked, fun i hi => ?_⟩
  have hslot := carries_slot hc
    (starts_slot hidle hq i (Nat.le_of_lt_succ hi))
  unfold slotStart headCycles at hslot
  rw [← Nat.add_assoc, ← Nat.add_assoc] at hslot
  exact hslot

/-- The bytes that a receiver holds. -/
def received (r : Receiver) : List (BitVec 8) := r.packet.map byteOf

/-- Whatever is written on the write port, and whatever state the receiver was
in at reset: from the break that follows packet `k` up to the next break it
holds the start code and the 512 bytes that were loaded for that packet. -/
theorem received_of_packet (hc : Compatible c) (input : ℕ → Inputs)
    (start : Receiver) (k : ℕ) {i : ℕ}
    (hge : cycles .idle + c.breakTime ≤ i)
    (hlt : i < packetCycles + (cycles .idle + c.breakTime)) :
    received (Receiver.runAt c (line input) start
        ((k + 1) * packetCycles + i)) =
      (List.finRange 513).map fun a : Fin 513 =>
        (runAt input (loadCycle k a)).dmxData a := by
  have hpacket := Serial.Receiver.packet_of_packets
    (carriesPacket hc input) rfl start k hge hlt
  unfold received
  rw [hpacket, List.map_map, ← List.map_coe_finRange_eq_range, List.map_map]
  apply List.map_congr_left
  intro a _
  exact (byteOf_word _).trans (readData_ofNat _ a)

/-- A clock that is slow by four cycles for a bit, and the break of 88us. -/
def fixture : Timing := centred 205 4400 (by decide) (by decide)

theorem compatible_fixture : Compatible fixture :=
  compatible_centred (by decide) (by decide) (by decide) (by decide)

/-- A receiver that has just been switched on. -/
def switchedOn : Receiver := ⟨0, .hunt, [], []⟩

/-- Nothing is written. -/
def noWrite (_ : ℕ) : Inputs := ⟨0, 0, 0, 0, 0, 0, false⟩

theorem received_of_packet_noWrite :
    received (Receiver.runAt fixture (line noWrite) switchedOn
        ((0 + 1) * packetCycles + packetCycles)) =
      (List.finRange 513).map fun a : Fin 513 =>
        (runAt noWrite (loadCycle 0 a)).dmxData a :=
  received_of_packet compatible_fixture _ switchedOn 0 (by decide) (by decide)

end ChuckLight.Dmx512
