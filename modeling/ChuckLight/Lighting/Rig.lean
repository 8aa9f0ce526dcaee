import ChuckLight.Lighting.FixtureMethods

/-!
# The driver and the fixtures of a show

All fixtures of the manager share the driver.  A reference to a fixture is its
position in the set of the manager, which does not change while the server
runs.
-/

namespace ChuckLight

open Java

/-- The driver and the fixtures of the manager. -/
structure Rig where
  dmx : DefaultDMX
  profiles : List FixtureProfile

namespace Rig

/-- `dmx.m()`. -/
def callDmx {α : Type} (m : Run DefaultDMX α) : Run Rig α :=
  zoom Rig.dmx (fun dmx r => { r with dmx := dmx }) m

/-- `light.m()` for the fixture at position `i`. -/
def callLight {α : Type} (i : ℕ) (m : Run Light α) : Run Rig α := fun r =>
  match r.profiles[i]? with
  | none => .error (.thrown .nullPointerException) r
  | some f =>
      match m ⟨r.dmx, f⟩ with
      | .ok a l => .ok a ⟨l.dmx, r.profiles.set i l.fixture⟩
      | .error e l => .error e ⟨l.dmx, r.profiles.set i l.fixture⟩

/-- `profiles.getLight(index)`. -/
def getLight (index : ℤ) : Run Rig ℕ := do
  if 0 ≤ index ∧ index < (← get).profiles.length then return index.toNat
  else throwNew (.indexOutOfBoundsException "getLight")

/-- The fixture at position `i`. -/
def fixture (i : ℕ) : Run Rig FixtureProfile :=
  callLight i do return (← get).fixture

def isSelected (i : ℕ) : Run Rig Bool := do
  return (← fixture i).isSelected

def setSelected (i : ℕ) (selected : Bool) : Run Rig Unit :=
  callLight i (modify fun l =>
    { l with fixture := l.fixture.setSelected selected })

/-- `clearSelected`. -/
def clearSelected : Run Rig Unit := do
  (List.range (← get).profiles.length).forM fun i => setSelected i false

end Rig

end ChuckLight
