import ChuckLight.Lighting.FixtureMethods

/-!
# Modes and lighting constants

The constants of `Modes` and `LightingDefines`.
-/

namespace ChuckLight

/-- The states of the main application. -/
inductive Mode where
  | CHASE
  | IDLE
  | LIGHT_SELECTION
  | CONTROL_SELECTION
  | COLOR_WHEEL
  | DMX
  | PRESET
  | PARTY
  | SCARY
  deriving DecidableEq, Repr

/-- The byte of a mode. -/
def Mode.toByte : Mode → Int8
  | .CHASE => 0
  | .IDLE => 1
  | .LIGHT_SELECTION => 2
  | .CONTROL_SELECTION => 3
  | .COLOR_WHEEL => 4
  | .DMX => 5
  | .PRESET => 6
  | .PARTY => 7
  | .SCARY => 8

namespace LightingDefines

def MAX_CHASE_DELAY : ℤ := 10000
def MIN_CHASE_DELAY : ℤ := 30
def CHASE_STEP : ℤ := 10

def HIGHLIGHT_DIMMER_STEP : Int32 := 5
def HIGHLIGHT_DIMMER_HIGH_VAL : Int32 := 255
def HIGHLIGHT_DIMMER_LOW_VAL : Int32 := 25

def DMX_STEP : Int32 := 5

/-- White, red, yellow, green, cyan, blue, magenta and black. -/
def PRESETS : List Color :=
  [⟨255, 255, 255⟩, ⟨255, 0, 0⟩, ⟨255, 255, 0⟩, ⟨0, 255, 0⟩, ⟨0, 255, 255⟩,
    ⟨0, 0, 255⟩, ⟨255, 0, 255⟩, ⟨0, 0, 0⟩]

end LightingDefines

end ChuckLight
