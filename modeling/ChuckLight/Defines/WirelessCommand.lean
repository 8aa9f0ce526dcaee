import ChuckLight.Defines.Connection
import Mathlib.Data.Fintype.Basic
import Mathlib.Tactic.SplitIfs

/-!
# Commands from the wireless controller

`WirelessCommand` holds the whole receive buffer and reads its fields at fixed
offsets.  The sender address and the fields of the poll reply are read by no
method and are left out.
-/

namespace ChuckLight

/-- A receive buffer. -/
abbrev Buffer : Type := Fin 1024 → Int8

structure WirelessCommand where
  receiveData : Buffer
  packetType : Int8 := 0
  mode : Int8 := 0
  parsed : Bool := false
  dataType : Int8 := 0
  userActionData : Int8 := 0
  joystickData : Option (Int32 × Int32) := none
  gyroData : Int32 := 0

namespace WirelessCommand

open Connection

/-- The constructor. -/
def new (rawData : Buffer) : WirelessCommand where
  receiveData := rawData

/-- `(b₃ & 0xFF) << 24 | (b₂ & 0xFF) << 16 | (b₁ & 0xFF) << 8 | (b₀ & 0xFF)` -/
def word (b₃ b₂ b₁ b₀ : Int8) : Int32 :=
  (b₃.toInt32 &&& 0xFF) <<< 24 ||| (b₂.toInt32 &&& 0xFF) <<< 16 |||
    (b₁.toInt32 &&& 0xFF) <<< 8 ||| (b₀.toInt32 &&& 0xFF)

/-- The packet starts with the identification bytes. -/
def VerifyPacket (c : WirelessCommand) : Prop :=
  ∀ i : Fin 8, c.receiveData (i.castLE (by decide)) = ID i

instance (c : WirelessCommand) : Decidable c.VerifyPacket :=
  inferInstanceAs (Decidable (∀ _, _))

/-- `return parsed = result` -/
def finish (c : WirelessCommand) (result : Bool) : Bool × WirelessCommand :=
  (result, { c with parsed := result })

/-- The fields of a data packet. -/
def parseData (c : WirelessCommand) : Bool × WirelessCommand :=
  let d := c.receiveData
  let c := { c with dataType := d 10 }
  if d 10 = USER_ACTION_DATA then
    { c with userActionData := d 11 }.finish true
  else if d 10 = JOYSTIC_DATA then
    { c with
      joystickData :=
        some (word (d 15) (d 14) (d 13) (d 12),
          word (d 19) (d 18) (d 17) (d 16)) }.finish true
  else if d 10 = GYRO_DATA then
    { c with gyroData := word (d 23) (d 22) (d 21) (d 20) }.finish true
  else c.finish false

/-- The result of `parse` and the object after it. -/
def parse (c : WirelessCommand) : Bool × WirelessCommand :=
  if c.parsed then (true, c)
  else if ¬ c.VerifyPacket then (false, c)
  else
    let d := c.receiveData
    let c := { c with packetType := d 8, mode := d 9 }
    if d 8 = DATA_PACKET_ID then c.parseData
    else if d 8 = POLL_REPLY_PACKET_ID then c.finish true
    else if d 8 = POLL_PACKET_ID then c.finish true
    else c.finish false

/-- Everything that `parse` finds out. -/
structure Reading where
  accepted : Bool
  packetType : Int8
  mode : Int8
  dataType : Int8
  userActionData : Int8
  joystickData : Option (Int32 × Int32)
  gyroData : Int32
  deriving DecidableEq

def reading (c : WirelessCommand) : Reading where
  accepted := c.parse.1
  packetType := c.parse.2.packetType
  mode := c.parse.2.mode
  dataType := c.parse.2.dataType
  userActionData := c.parse.2.userActionData
  joystickData := c.parse.2.joystickData
  gyroData := c.parse.2.gyroData

/-! ## The bytes that matter -/

variable {b b' : Buffer}

theorem receiveData_new (b : Buffer) : (new b).receiveData = b := rfl

theorem parse_new_of_not_verify (h : ¬ (new b).VerifyPacket) :
    (new b).parse = (false, new b) := if_pos h

theorem parse_new_of_verify (h : (new b).VerifyPacket) :
    (new b).parse =
      let c := { new b with packetType := b 8, mode := b 9 }
      if b 8 = DATA_PACKET_ID then c.parseData
      else if b 8 = POLL_REPLY_PACKET_ID then c.finish true
      else if b 8 = POLL_PACKET_ID then c.finish true
      else c.finish false :=
  if_neg (not_not.mpr h)

theorem reading_of_not_verify (h : ¬ (new b).VerifyPacket) :
    (new b).reading = ⟨false, 0, 0, 0, 0, none, 0⟩ := by
  unfold reading
  rw [parse_new_of_not_verify h]
  rfl

/-- The reading of a packet that is no data packet. -/
theorem reading_of_ne_data (h : (new b).VerifyPacket)
    (hdata : b 8 ≠ DATA_PACKET_ID) :
    (new b).reading =
      ⟨decide (b 8 = POLL_REPLY_PACKET_ID ∨ b 8 = POLL_PACKET_ID), b 8, b 9,
        0, 0, none, 0⟩ := by
  unfold reading
  rw [parse_new_of_verify h]
  simp only [if_neg hdata]
  by_cases hreply : b 8 = POLL_REPLY_PACKET_ID
  · simp [hreply, finish, new]
  · by_cases hpoll : b 8 = POLL_PACKET_ID
    · simp [hpoll, finish, new]
    · simp [hreply, hpoll, finish, new]

/-- The reading of a data packet. -/
theorem reading_of_data (h : (new b).VerifyPacket)
    (hdata : b 8 = DATA_PACKET_ID) :
    (new b).reading =
      if b 10 = USER_ACTION_DATA then
        ⟨true, b 8, b 9, b 10, b 11, none, 0⟩
      else if b 10 = JOYSTIC_DATA then
        ⟨true, b 8, b 9, b 10, 0,
          some (word (b 15) (b 14) (b 13) (b 12),
            word (b 19) (b 18) (b 17) (b 16)), 0⟩
      else if b 10 = GYRO_DATA then
        ⟨true, b 8, b 9, b 10, 0, none, word (b 23) (b 22) (b 21) (b 20)⟩
      else ⟨false, b 8, b 9, b 10, 0, none, 0⟩ := by
  unfold reading
  rw [parse_new_of_verify h]
  simp only [if_pos hdata, parseData, receiveData_new]
  by_cases haction : b 10 = USER_ACTION_DATA
  · simp only [haction, ↓reduceIte]
    rfl
  · by_cases hjoystick : b 10 = JOYSTIC_DATA
    · simp only [hjoystick, ↓reduceIte]
      rfl
    · by_cases hgyro : b 10 = GYRO_DATA
      · simp only [hgyro, ↓reduceIte]
        rfl
      · simp only [eq_false haction, eq_false hjoystick, eq_false hgyro,
          ↓reduceIte]
        rfl

theorem reading_mode (h : (new b).VerifyPacket) :
    (new b).reading.mode = b 9 := by
  by_cases hdata : b 8 = DATA_PACKET_ID
  · rw [reading_of_data h hdata]
    split_ifs <;> rfl
  · rw [reading_of_ne_data h hdata]

theorem reading_dataType (h : (new b).VerifyPacket)
    (hdata : b 8 = DATA_PACKET_ID) : (new b).reading.dataType = b 10 := by
  rw [reading_of_data h hdata]
  split_ifs <;> rfl

/-- An accepted packet with joystick data has coordinates. -/
theorem exists_joystickData (haccepted : (new b).parse.1 = true)
    (hdata : (new b).parse.2.packetType = DATA_PACKET_ID)
    (htype : (new b).parse.2.dataType = JOYSTIC_DATA) :
    ∃ p, (new b).parse.2.joystickData = some p := by
  have haccepted' : (new b).reading.accepted = true := haccepted
  have hdata' : (new b).reading.packetType = DATA_PACKET_ID := hdata
  have htype' : (new b).reading.dataType = JOYSTIC_DATA := htype
  show ∃ p, (new b).reading.joystickData = some p
  by_cases hverify : (new b).VerifyPacket
  · by_cases hpacket : b 8 = DATA_PACKET_ID
    · rw [reading_dataType hverify hpacket] at htype'
      rw [reading_of_data hverify hpacket, if_neg (by rw [htype']; decide),
        if_pos htype']
      exact ⟨_, rfl⟩
    · rw [reading_of_ne_data hverify hpacket] at hdata'
      exact absurd hdata' hpacket
  · rw [reading_of_not_verify hverify] at haccepted'
    cases haccepted'

/-- The top byte of a word can be read back. -/
theorem word_top (b₃ b₂ b₁ b₀ : Int8) :
    (word b₃ b₂ b₁ b₀).toBitVec.extractLsb' 24 8 = b₃.toBitVec := by
  apply BitVec.eq_of_getLsbD_eq
  intro i hi
  have hcases :
      i = 0 ∨ i = 1 ∨ i = 2 ∨ i = 3 ∨ i = 4 ∨ i = 5 ∨ i = 6 ∨ i = 7 := by
    omega
  rcases hcases with rfl | rfl | rfl | rfl | rfl | rfl | rfl | rfl <;>
    simp [word, BitVec.getElem_signExtend]

theorem word_top_injective {b₃ b₃' b₂ b₁ b₀ : Int8}
    (h : word b₃ b₂ b₁ b₀ = word b₃' b₂ b₁ b₀) : b₃ = b₃' := by
  apply Int8.toBitVec_inj.mp
  rw [← word_top b₃ b₂ b₁ b₀, h, word_top]

end WirelessCommand

end ChuckLight
