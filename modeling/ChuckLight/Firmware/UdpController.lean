import ChuckLight.Firmware.Packets

/-!
# The network side of the controller

The functions of `udp_controller.c`.  The two outgoing packets are static: each
send changes the fields that it needs and leaves the others as they are.
-/

namespace ChuckLight.Firmware

/-- An address of the base station. -/
abbrev IpAddr : Type := BitVec 32

/-- The static variables, the mode of the controller, and the payloads given
to `udp_send`. -/
structure UdpController where
  DEST_IP : Option IpAddr
  DATA_PACKET : DataPacket
  POLL_REPLY_PACKET : PollReplyPacket
  MODE : UInt8
  sent : List (List UInt8)

namespace UdpController

def IDLE_MODE : UInt8 := 1

/-- A header with the identification of the protocol. -/
def headerOf (packetType : UInt8) : PacketHeader := ⟨ID, packetType, 0⟩

/-- The variables after `init_udp_controller`. -/
def init : UdpController where
  DEST_IP := none
  DATA_PACKET := ⟨headerOf DATA_PACKET_ID, 0, 0, (0, 0), 0⟩
  POLL_REPLY_PACKET := ⟨headerOf POLL_REPLY_PACKET_ID, 0, 0, 0, 0⟩
  MODE := IDLE_MODE
  sent := []

/-! ## Sending -/

/-- The header with the current mode. -/
def stamp (c : UdpController) (h : PacketHeader) : PacketHeader :=
  { h with mode := c.MODE }

/-- The data packet with new data in the field of its type. -/
def fill (p : DataPacket) (dataType userData : UInt8)
    (otherData : ℕ → Int32) : DataPacket :=
  if dataType = USER_ACTION_DATA then { p with userAction := userData }
  else if dataType = JOYSTICK_DATA then
    { p with joystick := (otherData 0, otherData 1) }
  else if dataType = GYRO_DATA then { p with gyro := otherData 0 }
  else p

/-- The data packet that is sent. -/
def nextData (c : UdpController) (dataType userData : UInt8)
    (otherData : ℕ → Int32) : DataPacket :=
  fill { c.DATA_PACKET with
    header := c.stamp c.DATA_PACKET.header
    dataType := dataType } dataType userData otherData

def sendDataPacket (dataType userData : UInt8) (otherData : ℕ → Int32)
    (c : UdpController) : UdpController :=
  match c.DEST_IP with
  | none => c
  | some _ =>
      { c with
        DATA_PACKET := c.nextData dataType userData otherData
        sent := c.sent ++ [(c.nextData dataType userData otherData).bytes] }

/-- The first `len` bytes of a message, if there is one.  With a length and no
message the code also sends `len` bytes, which it has not written; they are left
out. -/
def messageBytes (len : UInt8) (msg : Option (List UInt8)) : List UInt8 :=
  (msg.getD []).take len.toNat

/-- The argument for the mode is not used. -/
def sendPollReplyPacket (_mode : UInt8) (batteryLevel : Int32)
    (msgLen : UInt8) (msg : Option (List UInt8)) (c : UdpController) :
    UdpController :=
  match c.DEST_IP with
  | none => c
  | some _ =>
      let p := { c.POLL_REPLY_PACKET with
        header := c.stamp c.POLL_REPLY_PACKET.header
        batteryLevel := batteryLevel
        errorCode := 0x69
        messageLength := msgLen }
      { c with
        POLL_REPLY_PACKET := p
        sent := c.sent ++ [p.bytes ++ messageBytes msgLen msg] }

/-! ## Receiving -/

/-- The `float` 0.69. -/
def batteryLevel : Int32 := 0x3F30A3D7

def setMode (mode : UInt8) (c : UdpController) : UdpController :=
  { c with MODE := mode }

/-- `esp_restart`, up to `init_udp_controller`. -/
def restart (c : UdpController) : UdpController :=
  { init with sent := c.sent }

/-- A byte of the payload.  What lies past its end is not defined. -/
def byteAt (payload : List UInt8) (i : ℕ) : UInt8 := payload.getD i 0

/-- The payload starts with the identification of the protocol. -/
def IsValid (payload : List UInt8) : Prop :=
  ∀ i < 8, byteAt payload i = ID.getD i 0

instance (payload : List UInt8) : Decidable (IsValid payload) :=
  inferInstanceAs (Decidable (∀ i < 8, _))

/-- The switch over the command of a command packet. -/
def obey (command : UInt8) (c : UdpController) : UdpController :=
  if command = HARD_RESET_COMMAND then restart c
  else if command = SOFT_RESET_COMMAND then restart c
  else c

/-- What a poll packet does. -/
def answer (addr : IpAddr) (mode : UInt8) (c : UdpController) :
    UdpController :=
  sendPollReplyPacket mode batteryLevel 0 none
    ({ c with DEST_IP := some addr }.setMode mode)

def udpRecieve (addr : IpAddr) (payload : List UInt8) (c : UdpController) :
    UdpController :=
  if ¬ IsValid payload then c
  else if byteAt payload 8 = COMMAND_PACKET_ID then
    obey (byteAt payload 10) (c.setMode (byteAt payload 9))
  else if byteAt payload 8 = POLL_PACKET_ID then
    answer addr (byteAt payload 9) c
  else c

/-! ## Histories -/

/-- What can happen to the controller. -/
inductive Op where
  | sendDataPacket (dataType userData : UInt8) (otherData : ℕ → Int32)
  | udpRecieve (addr : IpAddr) (payload : List UInt8)

def Op.run : Op → UdpController → UdpController
  | .sendDataPacket dataType userData otherData =>
      UdpController.sendDataPacket dataType userData otherData
  | .udpRecieve addr payload => UdpController.udpRecieve addr payload

/-- The controller after a history. -/
def after (history : List Op) : UdpController :=
  history.foldl (fun c op => op.run c) init

/-- The two packets carry the headers that `init_udp_controller` gave them. -/
structure Headed (c : UdpController) : Prop where
  dataId : c.DATA_PACKET.header.id = ID
  dataType : c.DATA_PACKET.header.packetType = DATA_PACKET_ID
  replyId : c.POLL_REPLY_PACKET.header.id = ID
  replyType : c.POLL_REPLY_PACKET.header.packetType = POLL_REPLY_PACKET_ID

variable {c : UdpController}

theorem header_fill (p : DataPacket) (dataType userData : UInt8)
    (otherData : ℕ → Int32) :
    (fill p dataType userData otherData).header = p.header := by
  unfold fill
  split_ifs <;> rfl

theorem Headed.nextData (h : Headed c) (dataType userData : UInt8)
    (otherData : ℕ → Int32) :
    (c.nextData dataType userData otherData).header.id = ID ∧
      (c.nextData dataType userData otherData).header.packetType =
        DATA_PACKET_ID := by
  unfold UdpController.nextData
  rw [header_fill]
  exact ⟨h.dataId, h.dataType⟩

theorem Headed.sendDataPacket (h : Headed c) (dataType userData : UInt8)
    (otherData : ℕ → Int32) :
    Headed (sendDataPacket dataType userData otherData c) := by
  unfold UdpController.sendDataPacket
  cases c.DEST_IP with
  | none => exact h
  | some addr =>
      obtain ⟨hid, htype⟩ := h.nextData dataType userData otherData
      exact ⟨hid, htype, h.replyId, h.replyType⟩

/-- What a controller with a destination sends. -/
theorem sent_sendDataPacket (hdest : c.DEST_IP ≠ none)
    (dataType userData : UInt8) (otherData : ℕ → Int32) :
    (sendDataPacket dataType userData otherData c).sent =
      c.sent ++ [(c.nextData dataType userData otherData).bytes] := by
  unfold sendDataPacket
  cases hip : c.DEST_IP with
  | none => exact absurd hip hdest
  | some addr => rfl

theorem Headed.sendPollReplyPacket (h : Headed c) (mode : UInt8)
    (level : Int32) (msgLen : UInt8) (msg : Option (List UInt8)) :
    Headed (sendPollReplyPacket mode level msgLen msg c) := by
  unfold UdpController.sendPollReplyPacket
  cases c.DEST_IP with
  | none => exact h
  | some addr => exact ⟨h.dataId, h.dataType, h.replyId, h.replyType⟩

theorem headed_restart (c : UdpController) : Headed (restart c) :=
  ⟨rfl, rfl, rfl, rfl⟩

theorem Headed.obey (h : Headed c) (command : UInt8) :
    Headed (obey command c) := by
  unfold UdpController.obey
  split_ifs
  · exact headed_restart c
  · exact headed_restart c
  · exact h

theorem Headed.udpRecieve (h : Headed c) (addr : IpAddr)
    (payload : List UInt8) : Headed (udpRecieve addr payload c) := by
  have hmode : ∀ mode ip, Headed ({ c with DEST_IP := ip }.setMode mode) :=
    fun _ _ => ⟨h.dataId, h.dataType, h.replyId, h.replyType⟩
  unfold UdpController.udpRecieve
  split_ifs
  · exact (hmode _ _).obey _
  · exact (hmode _ _).sendPollReplyPacket _ _ _ _
  · exact h
  · exact h

theorem headed_after (history : List Op) : Headed (after history) := by
  have hrun : ∀ c, Headed c →
      Headed (history.foldl (fun c op => op.run c) c) := by
    induction history with
    | nil => exact fun c h => h
    | cons op rest ih =>
        intro c h
        apply ih
        cases op with
        | sendDataPacket dataType userData otherData =>
            exact h.sendDataPacket dataType userData otherData
        | udpRecieve addr payload => exact h.udpRecieve addr payload
  exact hrun init (headed_restart init)

end UdpController

end ChuckLight.Firmware
