import ChuckLight.Firmware.UdpController
import ChuckLight.Threads.UDPServerThread
import Mathlib.Tactic.FinCases

/-!
# The format on the wire

The server reads from a data packet what the controller put into it, whatever
the earlier sends have left in the other fields of the static packet.
-/

namespace ChuckLight

open Connection WirelessCommand

/-! ## Bytes of an integer -/

/-- Masking with `0xFF` undoes the extension of the sign. -/
theorem WirelessCommand.getLsbD_masked (b : Int8) (i : ℕ) :
    (b.toInt32 &&& 0xFF).toBitVec.getLsbD i =
      (decide (i < 8) && b.toBitVec.getLsbD i) := by
  have hmask : (0xFF : Int32).toBitVec =
      (BitVec.allOnes 8).setWidth 32 := rfl
  rw [Int32.toBitVec_and, BitVec.getLsbD_and, Int8.toBitVec_toInt32, hmask,
    BitVec.getLsbD_setWidth, BitVec.getLsbD_allOnes,
    BitVec.getLsbD_signExtend]
  by_cases hi : i < 8
  · have hlt : i < 32 := by omega
    simp [hi, hlt]
  · simp [hi]

/-- The word of the four bytes of an `int` is the `int`. -/
theorem WirelessCommand.word_of_bytes (v : Int32) :
    word (UInt8.toInt8 ⟨v.toBitVec.extractLsb' 24 8⟩)
      (UInt8.toInt8 ⟨v.toBitVec.extractLsb' 16 8⟩)
      (UInt8.toInt8 ⟨v.toBitVec.extractLsb' 8 8⟩)
      (UInt8.toInt8 ⟨v.toBitVec.extractLsb' 0 8⟩) = v := by
  apply Int32.toBitVec_inj.mp
  apply BitVec.eq_of_getLsbD_eq
  intro i hi
  have h24 : ((24 : Int32).toBitVec.smod 32).toNat = 24 := by decide
  have h16 : ((16 : Int32).toBitVec.smod 32).toNat = 16 := by decide
  have h8 : ((8 : Int32).toBitVec.smod 32).toNat = 8 := by decide
  have hbyte : ∀ k j : ℕ, (UInt8.toInt8 ⟨v.toBitVec.extractLsb' k 8⟩
      ).toBitVec.getLsbD j = (decide (j < 8) && v.toBitVec.getLsbD (k + j)) :=
    fun k j => BitVec.getLsbD_extractLsb' ..
  simp only [word, Int32.toBitVec_or, BitVec.getLsbD_or,
    Int32.toBitVec_shiftLeft, BitVec.shiftLeft_eq', h24, h16, h8,
    BitVec.getLsbD_shiftLeft, getLsbD_masked, hbyte]
  grind

/-! ## Reading a data packet -/

namespace Firmware

open UdpController UDPServerThread

/-- The payload as the server receives it, over what was in its buffer. -/
def received (stale : Buffer) (payload : List UInt8) : Buffer :=
  receive stale (payload.map UInt8.toInt8)

variable {p : DataPacket} (stale : Buffer)

/-- The bytes of the header. -/
theorem received_header (hid : p.header.id = ID) :
    (new (received stale p.bytes)).VerifyPacket ∧
      received stale p.bytes 8 = p.header.packetType.toInt8 ∧
      received stale p.bytes 9 = p.header.mode.toInt8 ∧
      received stale p.bytes 10 = p.dataType.toInt8 ∧
      received stale p.bytes 11 = p.userAction.toInt8 := by
  obtain ⟨⟨id, packetType, mode⟩, dataType, userAction, ⟨x, y⟩, gyro⟩ := p
  cases hid
  refine ⟨?_, rfl, rfl, rfl, rfl⟩
  intro i
  fin_cases i <;> rfl

/-- The words of the data. -/
theorem received_words (hid : p.header.id = ID) :
    (let b := received stale p.bytes
    (word (b 15) (b 14) (b 13) (b 12), word (b 19) (b 18) (b 17) (b 16)) =
        p.joystick ∧
      word (b 23) (b 22) (b 21) (b 20) = p.gyro) := by
  obtain ⟨⟨id, packetType, mode⟩, dataType, userAction, ⟨x, y⟩, gyro⟩ := p
  cases hid
  exact ⟨Prod.ext (word_of_bytes x) (word_of_bytes y), word_of_bytes gyro⟩

/-- What the server reads from a data packet. -/
theorem reading_received (hid : p.header.id = ID)
    (htype : p.header.packetType = Firmware.DATA_PACKET_ID) :
    (new (received stale p.bytes)).reading =
      if p.dataType.toInt8 = Connection.USER_ACTION_DATA then
        ⟨true, Connection.DATA_PACKET_ID, p.header.mode.toInt8,
          p.dataType.toInt8, p.userAction.toInt8, none, 0⟩
      else if p.dataType.toInt8 = JOYSTIC_DATA then
        ⟨true, Connection.DATA_PACKET_ID, p.header.mode.toInt8,
          p.dataType.toInt8, 0, some p.joystick, 0⟩
      else if p.dataType.toInt8 = Connection.GYRO_DATA then
        ⟨true, Connection.DATA_PACKET_ID, p.header.mode.toInt8,
          p.dataType.toInt8, 0, none, p.gyro⟩
      else
        ⟨false, Connection.DATA_PACKET_ID, p.header.mode.toInt8,
          p.dataType.toInt8, 0, none, 0⟩ := by
  obtain ⟨hverify, h8, h9, h10, h11⟩ := received_header stale hid
  obtain ⟨hjoystick, hgyro⟩ := received_words stale hid
  have hdata : received stale p.bytes 8 = Connection.DATA_PACKET_ID := by
    rw [h8, htype]
    rfl
  rw [reading_of_data hverify hdata, hdata, h9, h10, h11, hjoystick, hgyro]

/-! ## Agreement -/

/-- What a caller gives to `send_data_packet`. -/
inductive UserData where
  | userAction (action : UInt8)
  | joystick (x y : Int32)
  | gyro (value : Int32)

/-- The call of `send_data_packet`. -/
def UserData.send : UserData → UdpController → UdpController
  | .userAction action =>
      sendDataPacket Firmware.USER_ACTION_DATA action fun _ => 0
  | .joystick x y =>
      sendDataPacket JOYSTICK_DATA 0 fun i => if i = 0 then x else y
  | .gyro value => sendDataPacket Firmware.GYRO_DATA 0 fun _ => value

/-- The server has read the data. -/
def UserData.ReadAs : UserData → Reading → Prop
  | .userAction action, r =>
      r.dataType = Connection.USER_ACTION_DATA ∧
        r.userActionData = action.toInt8
  | .joystick x y, r =>
      r.dataType = JOYSTIC_DATA ∧ r.joystickData = some (x, y)
  | .gyro value, r =>
      r.dataType = Connection.GYRO_DATA ∧ r.gyroData = value

/-- Whatever the controller has done before, the server accepts the payload of
a data packet and reads the mode and the data that were sent. -/
theorem reading_send (history : List Op) (data : UserData) (stale : Buffer)
    (hdest : (after history).DEST_IP ≠ none) :
    ∃ payload,
      (data.send (after history)).sent = (after history).sent ++ [payload] ∧
        let r := (new (received stale payload)).reading
        r.accepted = true ∧ r.packetType = Connection.DATA_PACKET_ID ∧
          r.mode = (after history).MODE.toInt8 ∧ data.ReadAs r := by
  have hnext := (headed_after history).nextData
  cases data with
  | userAction action =>
      obtain ⟨hid, htype⟩ := hnext Firmware.USER_ACTION_DATA action fun _ => 0
      refine ⟨_, sent_sendDataPacket hdest .., ?_⟩
      rw [reading_received stale hid htype]
      exact ⟨rfl, rfl, rfl, rfl, rfl⟩
  | joystick x y =>
      obtain ⟨hid, htype⟩ := hnext JOYSTICK_DATA 0
        fun i => if i = 0 then x else y
      refine ⟨_, sent_sendDataPacket hdest .., ?_⟩
      rw [reading_received stale hid htype]
      exact ⟨rfl, rfl, rfl, rfl, rfl⟩
  | gyro value =>
      obtain ⟨hid, htype⟩ := hnext Firmware.GYRO_DATA 0 fun _ => value
      refine ⟨_, sent_sendDataPacket hdest .., ?_⟩
      rw [reading_received stale hid htype]
      exact ⟨rfl, rfl, rfl, rfl, rfl⟩

/-- A poll packet of the base station. -/
def pollPayload : List UInt8 := ID ++ [POLL_PACKET_ID, IDLE_MODE]

/-- A poll is received, and a button and the motion have been sent. -/
def used : List Op :=
  [.udpRecieve 0 pollPayload,
    .sendDataPacket Firmware.USER_ACTION_DATA 19 fun _ => 0,
    .sendDataPacket Firmware.GYRO_DATA 0 fun _ => -70000]

theorem reading_send_joystick :
    ∃ payload,
      ((UserData.joystick (-1) 4095).send (after used)).sent =
          (after used).sent ++ [payload] ∧
        let r := (new (received (fun _ => -1) payload)).reading
        r.accepted = true ∧ r.packetType = Connection.DATA_PACKET_ID ∧
          r.mode = (after used).MODE.toInt8 ∧
            (UserData.joystick (-1) 4095).ReadAs r :=
  reading_send used (.joystick (-1) 4095) (fun _ => -1) (by decide)

end Firmware

end ChuckLight
