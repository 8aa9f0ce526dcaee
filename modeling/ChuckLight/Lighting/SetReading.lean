import ChuckLight.Lighting.SetFile

/-!
# What reading a set file throws

A set file that cannot be read ends in an `IOException`, unless a null reference
is found first where a fixture or the name of a fixture should be.
-/

namespace ChuckLight

open Java

/-! ## Definitions -/

namespace FixtureManager

/-- A fixture that can be read. -/
def Readable (item : FileItem) : Prop :=
  ∃ stream f rest, item = .fixture stream ∧
    FixtureProfile.readObject stream = .ok f rest

/-- A null reference, or a fixture whose name is one. -/
def IsNull (item : FileItem) : Prop :=
  item = .null ∨ ∃ stream, item = .fixture (.string none :: stream)

/-- One of the first `n` items is null, and all before it can be read. -/
def MeetsNull (n : ℕ) (items : List FileItem) : Prop :=
  ∃ before item after, items = before ++ item :: after ∧ before.length < n ∧
    (∀ i ∈ before, Readable i) ∧ IsNull item

/-- Reading the file meets a null reference before anything else that stops
it. -/
def Null (items : List FileItem) : Prop :=
  ∃ count rest, items = .int count :: rest ∧
    MeetsNull count.toInt.toNat rest

/-- The fixtures of a file, in its order. -/
def readSet (dmx : DriverRef) : Run (List FileItem) (List FixtureProfile) := do
  readFixtures dmx (← readCount).toInt.toNat

end FixtureManager

/-! ## One fixture -/

namespace FixtureProfile

end FixtureProfile

namespace FixtureManager

variable {item : FileItem} {items rest : List FileItem} {n : ℕ}

end FixtureManager

end ChuckLight
