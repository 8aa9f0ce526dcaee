import ChuckLight.Dmx.DefaultDMX
import ChuckLight.Lighting.FixtureProfile

/-!
# Fixture methods that use the driver

These methods change the mirror `dmxVals` of a fixture and the driver together.
They run on the pair of the two objects.
-/

namespace ChuckLight

open Java

/-- A color of the runtime library: three components within 0 to 255. -/
structure Color where
  red : UInt8
  green : UInt8
  blue : UInt8
  deriving DecidableEq

namespace Color

def getRed (c : Color) : Int32 := Int32.ofNat c.red.toNat
def getGreen (c : Color) : Int32 := Int32.ofNat c.green.toNat
def getBlue (c : Color) : Int32 := Int32.ofNat c.blue.toNat

def WHITE : Color := ⟨255, 255, 255⟩

end Color

/-- A fixture and the driver. -/
structure Light where
  dmx : DefaultDMX
  fixture : FixtureProfile

namespace Light

/-- `dmxDriver.m()` for a method `m` of the driver. -/
def callDriver {α : Type} (m : Run DefaultDMX α) : Run Light α := do
  if (← get).fixture.dmxDriver = none then throwNew .nullPointerException
  else zoom Light.dmx (fun dmx l => { l with dmx := dmx }) m

/-- `dmxVals[index] = value`. -/
def storeMirror (index value : Int32) : Run Light Unit := do
  let vals := (← get).fixture.dmxVals
  if 0 ≤ index.toInt ∧ index.toInt < vals.length then
    modify fun l =>
      { l with
        fixture :=
          { l.fixture with
            dmxVals := l.fixture.dmxVals.set index.toInt.toNat value } }
  else throwNew .arrayIndexOutOfBoundsException

/-- `channelMap.get(key)`, unboxed. -/
def channelOffset (key : String) : Run Light Int32 := do
  match (← get).fixture.channelMap.lookup key with
  | some offset => return offset
  | none => throwNew .nullPointerException

/-- `getDMXVals`. -/
def getDMXVals : Run Light (List Int32) := do
  return (← get).fixture.dmxVals

/-- Store a value in the mirror and write it to the driver. -/
def writeChannel (channel value : Int32) : Run Light Unit := do
  storeMirror channel value
  let address := (← get).fixture.address
  callDriver (DefaultDMX.setDMX (address + channel) [value])

def setDMXVals (dmxValueArray : List Int32) : Run Light Unit := do
  if dmxValueArray.length ≠ (← get).fixture.dmxVals.length then
    throwNew (.illegalArgumentException
      "array must be same size as numchannels")
  else if dmxValueArray.any fun v => v < 0 || v > 255 then
    throwNew (.illegalArgumentException
      "all dmx values must be within [0:255]")
  else
    (List.range dmxValueArray.length).forM fun i => do
      let value ← arrayGet dmxValueArray i
      writeChannel (Int32.ofNat i) value

def setChannelManual (channel value : Int32) : Run Light Unit := do
  let vals := (← get).fixture.dmxVals
  if channel < 0 ∨ channel ≥ Int32.ofNat vals.length then
    throwNew (.illegalArgumentException
      "channel must be between [0:numChannels]")
  else if value < 0 ∨ value > 255 then
    throwNew (.illegalArgumentException "value must be within [0:255]")
  else writeChannel channel value

def setColor (color : Color) : Run Light Unit := do
  let m := (← get).fixture.channelMap
  if ¬ ((m.lookup "red").isSome ∧ (m.lookup "green").isSome ∧
      (m.lookup "blue").isSome) then
    throwNew (.unsupportedOperationException
      "cannot set color on fixture without rgb channels")
  else do
    let redOffs ← channelOffset "red"
    let greenOffs ← channelOffset "green"
    let blueOffs ← channelOffset "blue"
    storeMirror redOffs color.getRed
    storeMirror greenOffs color.getGreen
    storeMirror blueOffs color.getBlue
    let address := (← get).fixture.address
    if redOffs = 1 ∧ greenOffs = 2 ∧ blueOffs = 3 then
      callDriver (DefaultDMX.setDMX (address + redOffs)
        [color.getRed, color.getGreen, color.getBlue])
    else do
      callDriver (DefaultDMX.setDMX (address + redOffs) [color.getRed])
      callDriver (DefaultDMX.setDMX (address + greenOffs) [color.getGreen])
      callDriver (DefaultDMX.setDMX (address + blueOffs) [color.getBlue])

def setWhite (intensity : Int32) : Run Light Unit := do
  match (← get).fixture.channelMap.lookup "white" with
  | some offset => setChannelManual offset intensity
  | none => setColor Color.WHITE

def setDimmerValue (dimmerVal : Int32) : Run Light Unit := do
  if dimmerVal < 0 ∨ dimmerVal > 255 then
    throwNew (.illegalArgumentException
      "dimmer value must be within [0:255]")
  else do
    let offset ← channelOffset "dimmer"
    writeChannel offset dimmerVal

/-- A color channel that the fixture has and that is not zero. -/
def hasColor : Run Light Bool := do
  let f := (← get).fixture
  FixtureProfile.COLOR_NAMES.anyM fun color =>
    match f.channelMap.lookup color with
    | none => pure false
    | some offset => do
        if 0 ≤ offset.toInt then
          let value ← arrayGet f.dmxVals offset.toInt.toNat
          return value ≠ 0
        else throwNew .arrayIndexOutOfBoundsException

/-- The fixture with the driver values of its channels in the mirror. -/
def mirrorOf (f : FixtureProfile) (dmx : List Int32) : FixtureProfile :=
  { f with
    dmxVals := (dmx.drop f.address.toInt.toNat).take f.channelMap.size ++
      f.dmxVals.drop f.channelMap.size }

/-- `System.arraycopy(dmxDriver.getDmx(), address, dmxVals, 0, size)`. -/
def syncLight : Run Light Unit := do
  let dmx ← callDriver DefaultDMX.getDmx
  let f := (← get).fixture
  if 0 ≤ f.address.toInt ∧ f.address.toInt + f.channelMap.size ≤ dmx.length ∧
      f.channelMap.size ≤ f.dmxVals.length then
    modify fun l => { l with fixture := mirrorOf l.fixture dmx }
  else throwNew .arrayIndexOutOfBoundsException

def clearLight : Run Light Unit := do
  (List.range (← get).fixture.channelMap.size).forM fun i =>
    setChannelManual (Int32.ofNat i) 0

end Light

end ChuckLight
