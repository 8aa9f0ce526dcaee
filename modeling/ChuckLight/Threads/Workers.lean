import ChuckLight.Defines.LightingDefines
import ChuckLight.Lighting.Rig
import ChuckLight.Lighting.SceneManager

/-!
# Worker threads

The server starts worker threads that animate fixtures.  A worker sets its
field `running` when it begins, and then makes one pass after another until it
finds the field cleared.  An exception that leaves a pass ends the worker.
-/

namespace ChuckLight

open Java LightingDefines

/-- A thread: whether it is alive, whether its `run` has begun, its field
`running`, and the rest of its object. -/
structure Worker (β : Type) where
  alive : Bool
  begun : Bool
  running : Bool
  object : β

/-- The field of the server for a class of workers, with all workers of that
class so far.  The field holds a position in the list, or null. -/
structure Slot (β : Type) where
  ref : Option ℕ
  workers : List (Worker β)

/-- The driver and the fixtures, together with the object of a thread. -/
abbrev Stage (β : Type) : Type := Rig × β

namespace Stage

variable {α β : Type}

/-- A method of the driver or of a fixture. -/
def rig (m : Run Rig α) : Run (Stage β) α :=
  zoom Prod.fst (fun r s => (r, s.2)) m

/-- Change the object of the thread. -/
def update (f : β → β) : Run (Stage β) Unit :=
  modify fun s => (s.1, f s.2)

/-- `for (FixtureProfile light : lights)`. -/
def forLights (lights : Option (List ℕ)) (body : ℕ → Run (Stage β) Unit) :
    Run (Stage β) Unit := do
  let lights ← orThrow lights .nullPointerException
  lights.forM body

end Stage

open Stage

/-! ## Highlight -/

structure HighlightThread where
  semaphore : Bool
  lights : List ℕ
  savedValues : List (List Int32)
  updateDefaultColor : Bool
  direction : Int32
  dimmerValue : Int32

namespace HighlightThread

/-- The constructor, with the local variables of `run`. -/
def new : HighlightThread where
  semaphore := true
  lights := []
  savedValues := []
  updateDefaultColor := false
  direction := -1 * HIGHLIGHT_DIMMER_STEP
  dimmerValue := 255

/-- `semaphore.acquireUninterruptibly()`. -/
def acquire : Run (Stage HighlightThread) Unit := do
  if (← get).2.semaphore then update fun t => { t with semaphore := false }
  else throw .blocked

/-- `semaphore.release()`. -/
def release : Run (Stage HighlightThread) Unit :=
  update fun t => { t with semaphore := true }

def addLight (light : ℕ) : Run (Stage HighlightThread) Unit := do
  if light ∉ (← get).2.lights then
    acquire
    update fun t => { t with lights := t.lights ++ [light] }
    let saved ← rig (Rig.callLight light Light.getDMXVals)
    update fun t =>
      { t with
        savedValues := t.savedValues ++ [saved]
        updateDefaultColor := true }
    release

/-- `updateDefaultColor()`. -/
def setUpdateDefaultColor : Run (Stage HighlightThread) Unit := do
  acquire
  update fun t => { t with updateDefaultColor := true }
  release

def removeLight (light : ℕ) : Run (Stage HighlightThread) Unit := do
  if light ∈ (← get).2.lights then
    acquire
    catchIOException
      (do
        let t := (← get).2
        let index := t.lights.idxOf light
        let saved ← orThrow t.savedValues[index]?
          (.indexOutOfBoundsException "remove")
        update fun t => { t with savedValues := t.savedValues.eraseIdx index }
        rig (Rig.callLight light (Light.setDMXVals saved)))
      (throw .exited)
    update fun t => { t with lights := t.lights.erase light }
    release

/-- The loop of `redrum`, with at most `n` rounds to go. -/
def removeAll : ℕ → Run (Stage HighlightThread) Unit
  | 0 => pure ()
  | n + 1 => do
      match (← get).2.lights with
      | [] => pure ()
      | light :: _ =>
          removeLight light
          removeAll n

/-- `redrum`, after it has cleared `running`. -/
def redrum : Run (Stage HighlightThread) (List ℕ) := do
  let temp := (← get).2.lights
  removeAll temp.length
  return temp

def clearHighlighted : Run (Stage HighlightThread) Unit := do
  acquire
  update fun t => { t with lights := [], savedValues := [] }
  release

/-- A fixture takes the values of the driver, and gets its default color if it
has no color. -/
def refreshColor (light : ℕ) : Run (Stage HighlightThread) Unit := do
  rig (Rig.callLight light Light.syncLight)
  if !(← rig (Rig.callLight light Light.hasColor)) then
    let f ← rig (Rig.fixture light)
    catchIOException
      (rig (Rig.callLight light
        (Light.setChannelManual f.defaultColorOffs 255)))
      (throw .exited)

/-- The dimmer goes down to the low value and up to the high value. -/
def turn (t : HighlightThread) : HighlightThread :=
  if t.direction = -1 * HIGHLIGHT_DIMMER_STEP ∧
      t.dimmerValue < HIGHLIGHT_DIMMER_LOW_VAL then
    { t with direction := HIGHLIGHT_DIMMER_STEP }
  else if t.direction = HIGHLIGHT_DIMMER_STEP ∧
      t.dimmerValue ≥ HIGHLIGHT_DIMMER_HIGH_VAL then
    { t with direction := -1 * HIGHLIGHT_DIMMER_STEP }
  else t

/-- The next dimmer value, handed to a method of a fixture. -/
def dimWith (setDimmerValue : Int32 → Run (Stage HighlightThread) Unit) :
    Run (Stage HighlightThread) Unit := do
  update turn
  catchIOException
    (do
      update fun t => { t with dimmerValue := t.dimmerValue + t.direction }
      setDimmerValue (← get).2.dimmerValue)
    (pure ())

def dim (light : ℕ) : Run (Stage HighlightThread) Unit :=
  dimWith fun dimmerValue =>
    rig (Rig.callLight light (Light.setDimmerValue dimmerValue))

/-- One fixture in a pass. -/
def passLight (light : ℕ) : Run (Stage HighlightThread) Unit := do
  if (← get).2.updateDefaultColor then
    refreshColor light
    dim light
  else dim light

def pass : Run (Stage HighlightThread) Unit := do
  acquire
  (← get).2.lights.forM passLight
  update fun t => { t with updateDefaultColor := false }
  release

end HighlightThread

/-! ## Rainbow -/

structure RainbowThread where
  fixtures : Option (List ℕ)
  colors : ℕ

namespace RainbowThread

def RAINBOW_RESOLUTION : ℕ := 50

/-- The `r`th step of a component. -/
def shade (r : ℕ) : UInt8 := UInt8.ofNat (r * 255 / RAINBOW_RESOLUTION)

def rainbow : List Color :=
  let up := List.range RAINBOW_RESOLUTION
  let down := up.map fun r => RAINBOW_RESOLUTION - r
  up.map (fun r => ⟨shade r, 255, 0⟩) ++
    down.map (fun g => ⟨255, shade g, 0⟩) ++
    up.map (fun b => ⟨255, 0, shade b⟩) ++
    down.map (fun r => ⟨shade r, 0, 255⟩) ++
    up.map (fun g => ⟨0, shade g, 255⟩) ++
    down.map (fun b => ⟨0, 255, shade b⟩) ++ [⟨0, 255, 0⟩]

/-- The iterator over the colors starts again after the last color. -/
def rewind (t : RainbowThread) : RainbowThread :=
  if t.colors ≥ rainbow.length then { t with colors := 0 } else t

def pass : Run (Stage RainbowThread) Unit := do
  update rewind
  let t := (← get).2
  let currColor ← arrayGet rainbow t.colors
  update fun t => { t with colors := t.colors + 1 }
  forLights t.fixtures fun light =>
    catchIOException
      (do
        rig (Rig.callLight light (Light.setColor currColor))
        rig (Rig.callLight light (Light.setDimmerValue 255)))
      (pure ())

end RainbowThread

/-! ## DMX visual -/

structure DMXVisualThread where
  lights : Option (List ℕ)
  direction : Int32
  dimmerValue : Int32

namespace DMXVisualThread

/-- The constructor, with the local variables of `run`. -/
def new (lights : Option (List ℕ)) : DMXVisualThread where
  lights := lights
  direction := -1 * HIGHLIGHT_DIMMER_STEP
  dimmerValue := 255

/-- The dimmer goes down to the low value and up to the high value. -/
def turn (t : DMXVisualThread) : DMXVisualThread :=
  if t.direction = -1 * HIGHLIGHT_DIMMER_STEP ∧
      t.dimmerValue < HIGHLIGHT_DIMMER_LOW_VAL then
    { t with direction := HIGHLIGHT_DIMMER_STEP }
  else if t.direction = HIGHLIGHT_DIMMER_STEP ∧
      t.dimmerValue ≥ HIGHLIGHT_DIMMER_HIGH_VAL then
    { t with direction := -1 * HIGHLIGHT_DIMMER_STEP }
  else t

def pass : Run (Stage DMXVisualThread) Unit := do
  forLights (← get).2.lights fun light =>
    catchIOException
      (do
        rig (Rig.callLight light (Light.setWhite 255))
        update fun t => { t with dimmerValue := t.dimmerValue + t.direction }
        let dimmerValue := (← get).2.dimmerValue
        rig (Rig.callLight light (Light.setDimmerValue dimmerValue)))
      (pure ())
  update turn

end DMXVisualThread

/-! ## Preset visual -/

structure PresetVisualThread where
  lights : Option (List ℕ)
  i : ℕ

namespace PresetVisualThread

def pass : Run (Stage PresetVisualThread) Unit := do
  let t := (← get).2
  forLights t.lights fun light =>
    catchIOException
      (do
        let preset ← arrayGet PRESETS t.i
        rig (Rig.callLight light (Light.setColor preset))
        rig (Rig.callLight light (Light.setDimmerValue 255)))
      (pure ())
  update fun t =>
    if t.i + 1 ≥ PRESETS.length then { t with i := 0 }
    else { t with i := t.i + 1 }

end PresetVisualThread

/-! ## Chase -/

/-- The thread reads the list of the scene manager through an iterator, which
has a position and the number of changes that it expects. -/
structure ChaseThread where
  sceneDelay : ℤ
  iterator : Option (ℕ × ℕ)

namespace ChaseThread

/-- The next scene, a new iterator, or the end of the old one. -/
def pass (m : SceneManager) : Run (Stage ChaseThread) Unit := do
  match (← get).2.iterator with
  | none => update fun t => { t with iterator := some (0, m.modCount) }
  | some (cursor, expectedModCount) =>
      if cursor = m.scenes.length then
        update fun t => { t with iterator := none }
      else if expectedModCount ≠ m.modCount then
        throwNew .concurrentModificationException
      else
        let scene ← arrayGet m.scenes cursor
        update fun t =>
          { t with iterator := some (cursor + 1, expectedModCount) }
        catchIOException (rig (Rig.callDmx (DefaultDMX.setAllDMX scene)))
          (pure ())

end ChaseThread

/-! ## All classes -/

/-- The fields of the server that refer to workers. -/
inductive WorkerField where
  | chase
  | highlight
  | presetVisual
  | rainbowVisual
  | dmxVisual
  deriving DecidableEq, Repr

namespace WorkerField

/-- The class of the workers of a field. -/
abbrev Object : WorkerField → Type
  | chase => ChaseThread
  | highlight => HighlightThread
  | presetVisual => PresetVisualThread
  | rainbowVisual => RainbowThread
  | dmxVisual => DMXVisualThread

/-- One pass of a worker. -/
def pass (m : SceneManager) : (k : WorkerField) → Run (Stage k.Object) Unit
  | chase => ChaseThread.pass m
  | highlight => HighlightThread.pass
  | presetVisual => PresetVisualThread.pass
  | rainbowVisual => RainbowThread.pass
  | dmxVisual => DMXVisualThread.pass

/-- The class has a static field `running`. -/
def isStatic (k : WorkerField) : Bool := k = rainbowVisual

/-- The method `run` returns at once. -/
def returns (m : SceneManager) (k : WorkerField) : Bool :=
  k = chase && decide (m.scenes.length ≤ 1)

end WorkerField

end ChuckLight
