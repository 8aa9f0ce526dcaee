import ChuckLight.Support.Java
import Mathlib.Data.List.AList
import Mathlib.Data.List.Sort

/-!
# Fixture profiles

A fixture has a name, a DMX address, and a map from channel names to offsets.
It comes into existence through the constructor or through `readObject`.  There
is one driver object, so a reference to a driver is null or that object.
-/

namespace ChuckLight

open Java

/-- A reference to the driver. -/
abbrev DriverRef : Type := Option Unit

/-- A reference to a string.  Only an interned string is identical to a
literal of the program. -/
structure StringRef where
  value : String
  interned : Bool
  deriving DecidableEq

/-- `s == literal`, the comparison of references. -/
def StringRef.SameAs (s : StringRef) (literal : String) : Prop :=
  s.interned = true ∧ s.value = literal

instance (s : StringRef) (literal : String) : Decidable (s.SameAs literal) :=
  inferInstanceAs (Decidable (_ ∧ _))

/-- Map from channel names to offsets. -/
abbrev ChannelMap : Type := AList fun _ : String => Int32

def ChannelMap.size (m : ChannelMap) : ℕ := m.keys.length

structure FixtureProfile where
  dmxDriver : DriverRef
  name : Option String
  address : Int32
  defaultColorOffs : Int32
  isSelected : Bool
  channelMap : ChannelMap
  dmxVals : List Int32
  deriving DecidableEq

namespace FixtureProfile

def COLOR_NAMES : List String := ["red", "green", "blue", "amber", "white"]

/-- `getNumChannels`. -/
def numChannels (f : FixtureProfile) : Int32 := Int32.ofNat f.channelMap.size

/-! ## The constructor -/

/-- The channel loop of the constructor from its `i`th round on. -/
def addChannels (m : ChannelMap) (i : ℕ) :
    List (Option String) → Except Throwable ChannelMap
  | [] => .ok m
  | none :: _ =>
      .error (.illegalArgumentException "channel names cannot be null or empty")
  | some s :: channels =>
      if s = "" then
        .error
          (.illegalArgumentException "channel names cannot be null or empty")
      else if (m.lookup s).isSome then
        .error (.illegalArgumentException "channels contains duplicate string")
      else addChannels (m.insert s (Int32.ofNat i)) (i + 1) channels

/-- The offset of the first color channel, or -1. -/
def defaultColor (m : ChannelMap) : Int32 :=
  (COLOR_NAMES.findSome? fun color => m.lookup color).getD (-1)

/-- The constructor.  Its check of the upper bound reads the field `address`,
which is still zero. -/
def create (dmx : DriverRef) (fixtureName : Option StringRef)
    (dmxAddress : Int32) (channels : Option (List (Option String))) :
    Except Throwable FixtureProfile :=
  let address : Int32 := 0
  if dmx = none then
    .error (.illegalArgumentException "no null dmxdrivers")
  else
    match fixtureName with
    | none => .error (.illegalArgumentException "empty name not allowed")
    | some name =>
        if name.SameAs "" then
          .error (.illegalArgumentException "empty name not allowed")
        else if dmxAddress < 1 then
          .error (.illegalArgumentException "address must be at least 1")
        else
          match channels with
          | none => .error .nullPointerException
          | some channels =>
              if channels.length < 1 ∨ channels.length > 512 then
                .error (.illegalArgumentException
                  "number of channels must be within [1:512]")
              else if Int32.ofNat channels.length + address > 513 then
                .error (.indexOutOfBoundsException
                  "fixture tries to put channel outside of 512 bytes")
              else
                (addChannels ∅ 0 channels).map fun channelMap =>
                  { dmxDriver := dmx
                    name := some name.value
                    address := dmxAddress
                    defaultColorOffs := defaultColor channelMap
                    isSelected := false
                    channelMap := channelMap
                    dmxVals := List.replicate channels.length 0 }

/-! ## Object streams -/

/-- An item of an object stream: an `int`, a string or null, or some other
object. -/
inductive StreamItem where
  | int (value : Int32)
  | string (value : Option String)
  | other
  deriving DecidableEq

/-- `stream.readInt()`. -/
def readInt : Run (List StreamItem) Int32 := do
  match ← get with
  | .int value :: rest => set rest; return value
  | _ => throwNew (.ioException "no int in the stream")

/-- `(String) stream.readObject()`, with the message of the `IOException` that
replaces a `ClassCastException`. -/
def readString (message : String) : Run (List StreamItem) (Option String) := do
  match ← get with
  | .string value :: rest => set rest; return value
  | .other :: rest => set rest; throwNew (.ioException message)
  | _ => throwNew (.ioException "no object in the stream")

/-- The channel loop of `readObject`, with `n` rounds to go from round `i`
on. -/
def readChannels (m : ChannelMap) (i : ℕ) :
    ℕ → Run (List StreamItem) ChannelMap
  | 0 => pure m
  | n + 1 => do
      let s ← readString
        ("bad serialized fixture; readobject returned non-string for channel #"
          ++ toString i)
      match s with
      | none =>
          throwNew (.ioException
            ("read empty channel string for channel #" ++ toString i))
      | some s =>
          if s = "" then
            throwNew (.ioException
              ("read empty channel string for channel #" ++ toString i))
          else if (m.lookup s).isSome then
            throwNew (.ioException
              ("channels contains duplicate string: " ++ s))
          else readChannels (m.insert s (Int32.ofNat i)) (i + 1) n

def readObject : Run (List StreamItem) FixtureProfile := do
  let name ← readString "bad serialized fixture; first object not string"
  match name with
  | none => throwNew .nullPointerException
  | some name =>
      if name.length = 0 then
        throwNew (.ioException
          "bad serialized fixture; name string is length zero")
      else do
        let address ← readInt
        let defaultColorOffs ← readInt
        let numChannels ← readInt
        let channelMap ← readChannels ∅ 0 numChannels.toInt.toNat
        if defaultColorOffs < 0 ∨ defaultColorOffs ≥ numChannels then
          throwNew (.ioException
            ("read defaultColorOffs as " ++ toString defaultColorOffs ++
              " with numChannels " ++ toString numChannels))
        else if numChannels + address > 513 then
          throwNew (.ioException
            "fixture deserialization tries to put channel outside of 512 bytes")
        else
          return {
            dmxDriver := none
            name := some name
            address := address
            defaultColorOffs := defaultColorOffs
            isSelected := false
            channelMap := channelMap
            dmxVals := List.replicate channelMap.size 0 }

/-- The channel names sorted by offset. -/
def channelNames (m : ChannelMap) : List String :=
  (m.entries.insertionSort fun e e' => e.2 ≤ e'.2).map Sigma.fst

def writeObject (f : FixtureProfile) : List StreamItem :=
  .string f.name :: .int f.address :: .int f.defaultColorOffs ::
    .int (Int32.ofNat f.channelMap.size) ::
      (channelNames f.channelMap).map fun s => .string (some s)

/-! ## Setters -/

/-- `setDMXDriver`. -/
def setDMXDriver (f : FixtureProfile) (driver : DriverRef) : FixtureProfile :=
  { f with dmxDriver := driver }

def setFixtureName (f : FixtureProfile) (name : Option String) :
    FixtureProfile :=
  { f with name := name }

def setAddress (f : FixtureProfile) (address : Int32) :
    Except Throwable FixtureProfile :=
  if address + Int32.ofNat f.channelMap.size > 513 then
    .error (.illegalArgumentException
      "address puts channels beyond dmx 512 address space")
  else .ok { f with address := address }

def setSelected (f : FixtureProfile) (selected : Bool) : FixtureProfile :=
  { f with isSelected := selected }

/-- `compareTo`. -/
def compareTo (f g : FixtureProfile) : Int32 := f.address - g.address

end FixtureProfile

end ChuckLight
