import Mathlib.Data.Fin.VecNotation
import Mathlib.Data.List.OfFn
import Mathlib.Tactic.Common

/-!
# Packets of the controller

The packed structures of `udp_controller.h` and their bytes in memory.  An
`int` takes four bytes, the lowest first, and so do a `float` and a pointer.
-/

namespace ChuckLight.Firmware

def DATA_PACKET_ID : UInt8 := 0x33
def COMMAND_PACKET_ID : UInt8 := 0x36
def POLL_PACKET_ID : UInt8 := 0x87
def POLL_REPLY_PACKET_ID : UInt8 := 0x1E

def HARD_RESET_COMMAND : UInt8 := 0x99
def SOFT_RESET_COMMAND : UInt8 := 0x39

def USER_ACTION_DATA : UInt8 := 0x13
def JOYSTICK_DATA : UInt8 := 0x23
def GYRO_DATA : UInt8 := 0x33

/-- `{'J', 'E', 0x10, 'M', 'K', 0x03, 'C', 'K'}`. -/
def ID : List UInt8 := [0x4A, 0x45, 0x10, 0x4D, 0x4B, 0x03, 0x43, 0x4B]

/-! ## Structures -/

structure PacketHeader where
  id : List UInt8
  packetType : UInt8
  mode : UInt8
  deriving DecidableEq

structure DataPacket where
  header : PacketHeader
  dataType : UInt8
  userAction : UInt8
  joystick : Int32 × Int32
  gyro : Int32
  deriving DecidableEq

/-- The level of the battery is a `float`, given by its bits. -/
structure PollReplyPacket where
  header : PacketHeader
  batteryLevel : Int32
  errorCode : UInt8
  messageLength : UInt8
  message : Int32
  deriving DecidableEq

/-! ## Bytes in memory -/

/-- The bytes of an `int`. -/
def intBytes (v : Int32) : List UInt8 :=
  [⟨v.toBitVec.extractLsb' 0 8⟩, ⟨v.toBitVec.extractLsb' 8 8⟩,
    ⟨v.toBitVec.extractLsb' 16 8⟩, ⟨v.toBitVec.extractLsb' 24 8⟩]

def PacketHeader.bytes (h : PacketHeader) : List UInt8 :=
  h.id ++ [h.packetType, h.mode]

def DataPacket.bytes (p : DataPacket) : List UInt8 :=
  p.header.bytes ++ [p.dataType, p.userAction] ++ intBytes p.joystick.1 ++
    intBytes p.joystick.2 ++ intBytes p.gyro

def PollReplyPacket.bytes (p : PollReplyPacket) : List UInt8 :=
  p.header.bytes ++ intBytes p.batteryLevel ++
    [p.errorCode, p.messageLength] ++ intBytes p.message

end ChuckLight.Firmware
