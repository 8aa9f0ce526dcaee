import Mathlib.Data.Fin.VecNotation

/-!
# Packet bytes

The constants of `Connection` and `Modes` that the packet parser and the server
loop read.  A Java `byte` is an `Int8`.
-/

namespace ChuckLight

namespace Connection

/-- The bytes that every packet starts with. -/
def ID : Fin 8 → Int8 := ![0x4A, 0x45, 0x10, 0x4D, 0x4B, 0x03, 0x43, 0x4B]

def DATA_PACKET_ID : Int8 := 0x33
def POLL_PACKET_ID : Int8 := 0x87
def POLL_REPLY_PACKET_ID : Int8 := 0x1E

def USER_ACTION_DATA : Int8 := 0x13
def JOYSTIC_DATA : Int8 := 0x23
def GYRO_DATA : Int8 := 0x33

def UP : Int8 := 0x11
def DOWN : Int8 := 0x12
def LEFT : Int8 := 0x13
def RIGHT : Int8 := 0x14

def PS2 : Int8 := 0x01
def PS2_LONG : Int8 := 0x41
def B1 : Int8 := 0x02
def B2 : Int8 := 0x03

def KONAMI : Int8 := 0x31
def REV_KONAMI : Int8 := 0x32

end Connection

end ChuckLight
