import ChuckLight.Defines.WirelessCommand
import ChuckLight.Lighting.XYConverter
import ChuckLight.Threads.Workers

/-!
# The server loop

`ServerAppThread` interprets commands by the current mode.  A handler returns
the local variable `sendHeartbeat`.  The colors that the party mode draws at
random and the tables of the color wheel are parameters.
-/

namespace ChuckLight

open Java Connection LightingDefines

structure Server where
  rig : Rig
  sceneManager : SceneManager
  selectedLights : Option (List ℕ)
  currentState : Mode
  chaseSceneDelay : ℤ
  slots : (k : WorkerField) → Slot k.Object
  currentLightIndex : ℤ
  currentPresetIndex : ℤ
  currentControlIndex : ℤ
  currentChannelIndex : ℤ
  canChangeDMX : Bool
  heartbeats : List Int8

/-! ## Fields for workers -/

namespace Slot

variable {β : Type}

/-- `field = new Worker(..)`. -/
def construct (slot : Slot β) (object : β) : Slot β where
  ref := some slot.workers.length
  workers := slot.workers ++ [⟨false, false, false, object⟩]

/-- Change the worker at position `i`. -/
def modifyAt (slot : Slot β) (i : ℕ) (f : Worker β → Worker β) : Slot β :=
  { slot with workers := slot.workers.modify i f }

/-- `field.start()`. -/
def launch (slot : Slot β) : Slot β :=
  match slot.ref with
  | none => slot
  | some i => slot.modifyAt i fun w => { w with alive := true }

/-- Set the field `running` of the worker at position `i`, which all workers
share if it is static. -/
def setRunning (slot : Slot β) (isStatic : Bool) (i : ℕ) (running : Bool) :
    Slot β :=
  if isStatic then
    { slot with
      workers := slot.workers.map fun w => { w with running := running } }
  else slot.modifyAt i fun w => { w with running := running }

/-- The worker at position `i` ends. -/
def finish (slot : Slot β) (i : ℕ) : Slot β :=
  slot.modifyAt i fun w => { w with alive := false }

end Slot

namespace Server

variable {α : Type}

/-- Change the workers of a field. -/
def setSlot (k : WorkerField) (slot : Slot k.Object) (s : Server) : Server :=
  { s with slots := Function.update s.slots k slot }

@[simp]
theorem slots_setSlot_self (k : WorkerField) (slot : Slot k.Object)
    (s : Server) : (s.setSlot k slot).slots k = slot :=
  Function.update_self ..

theorem slots_setSlot_of_ne {k k' : WorkerField} (h : k' ≠ k)
    (slot : Slot k.Object) (s : Server) :
    (s.setSlot k slot).slots k' = s.slots k' :=
  Function.update_of_ne h ..

/-- The worker that the field refers to, and its position. -/
def deref (k : WorkerField) : Run Server (ℕ × Worker k.Object) := do
  let slot := (← get).slots k
  let i ← orThrow slot.ref .nullPointerException
  let w ← orThrow slot.workers[i]? .nullPointerException
  return (i, w)

/-- `field = new Worker(..); field.start();` -/
def startWorker (k : WorkerField) (object : k.Object) : Run Server Unit :=
  modify fun s => s.setSlot k ((s.slots k).construct object).launch

/-- `running = false` in `field.redrum()`. -/
def clearRunning (k : WorkerField) : Run Server Unit := do
  let p ← deref k
  modify fun s => s.setSlot k ((s.slots k).setRunning k.isStatic p.1 false)

/-- `field.join(); field = null;` for a worker that has been told to stop.  A
worker that has not begun yet sets `running` again when it begins, and never
ends. -/
def join (k : WorkerField) : Run Server Unit := do
  let p ← deref k
  if p.2.alive = true ∧ p.2.begun = false then throw .blocked
  else
    modify fun s => s.setSlot k { (s.slots k).finish p.1 with ref := none }

def redrum (k : WorkerField) : Run Server Unit := do
  clearRunning k
  join k

/-! ## Helpers -/

/-- A method of the driver or of the fixtures. -/
def onRig (m : Run Rig α) : Run Server α :=
  zoom Server.rig (fun r s => { s with rig := r }) m

/-- A method of the scene manager. -/
def onScenes (m : Run SceneManager α) : Run Server α :=
  zoom Server.sceneManager (fun m s => { s with sceneManager := m }) m

/-- The server with the fixtures and the object of worker `i` as they are on a
stage. -/
def store (k : WorkerField) (i : ℕ) (stage : Stage k.Object) (s : Server) :
    Server :=
  { s with rig := stage.1 }.setSlot k ((s.slots k).modifyAt i fun w =>
    { w with object := stage.2 })

/-- A method of the object that the field refers to. -/
def onWorker (k : WorkerField) (m : Run (Stage k.Object) α) :
    Run Server α := do
  let p ← deref k
  zoom (fun s => (s.rig, p.2.object)) (store k p.1) m

/-- A method of the highlight thread. -/
def onHighlight (m : Run (Stage HighlightThread) α) : Run Server α :=
  onWorker .highlight m

/-- `try { x } catch (IOException e) { e.printStackTrace(); }`. -/
def tryIO (x : Run Server Unit) : Run Server Unit :=
  catchIOException x (pure ())

/-- `for (FixtureProfile light : selectedLights)`. -/
def forSelected (body : ℕ → Run Server Unit) : Run Server Unit := do
  let lights ← orThrow (← get).selectedLights .nullPointerException
  lights.forM body

def setState (mode : Mode) : Run Server Unit :=
  modify fun s => { s with currentState := mode }

def setControlIndex (index : ℤ) : Run Server Unit :=
  modify fun s => { s with currentControlIndex := index }

def revertScene : Run Server Unit := do
  tryIO do
    let scene ← onScenes SceneManager.getCurrentScene
    onRig (Rig.callDmx (DefaultDMX.setAllDMX scene))
  match (← get).selectedLights with
  | none => pure ()
  | some lights =>
      lights.forM fun light => onRig (Rig.callLight light Light.syncLight)

def clearSelected : Run Server Unit := onRig Rig.clearSelected

/-- `sceneManager.setCurrentScene(dmx.getDmx())`. -/
def saveScene : Run Server Unit := do
  let dmxVals ← onRig (Rig.callDmx DefaultDMX.getDmx)
  onScenes (SceneManager.setCurrentScene dmxVals)

def startRainbow : Run Server Unit := do
  let thread : RainbowThread := ⟨(← get).selectedLights, 0⟩
  startWorker .rainbowVisual thread

def redrumRainbow : Run Server Unit := redrum .rainbowVisual

def startDMXVisual : Run Server Unit := do
  startWorker .dmxVisual (DMXVisualThread.new (← get).selectedLights)

def redrumDMXVisual : Run Server Unit := redrum .dmxVisual

def startChase : Run Server Unit := do
  let thread : ChaseThread := ⟨(← get).chaseSceneDelay, none⟩
  startWorker .chase thread

def redrumChase : Run Server Unit := redrum .chase

def startHighlight : Run Server Unit := do
  modify fun s =>
    s.setSlot .highlight
      ((s.slots .highlight).construct HighlightThread.new)
  let light ← onRig (Rig.getLight (← get).currentLightIndex)
  onHighlight (HighlightThread.addLight light)
  modify fun s => s.setSlot .highlight (s.slots .highlight).launch

def redrumHighlight : Run Server (List ℕ) := do
  clearRunning .highlight
  let temp ← onHighlight HighlightThread.redrum
  join .highlight
  return temp

def startPresetVisual : Run Server Unit := do
  let thread : PresetVisualThread := ⟨(← get).selectedLights, 0⟩
  startWorker .presetVisual thread

def redrumPresetVisual : Run Server Unit := redrum .presetVisual

/-! ## Modes -/

/-- The delay of the chase changes by `step`. -/
def changeDelay (step : ℤ) : Run Server Unit := do
  modify fun s => { s with chaseSceneDelay := s.chaseSceneDelay + step }
  let delay := (← get).chaseSceneDelay
  onWorker .chase (Stage.update fun t : ChaseThread =>
    { t with sceneDelay := delay })

/-- The body of `UP` in the chase. -/
def raiseDelay : Run Server Unit := do
  if (← get).chaseSceneDelay < MAX_CHASE_DELAY then changeDelay CHASE_STEP

/-- The body of `DOWN` in the chase. -/
def lowerDelay : Run Server Unit := do
  if (← get).chaseSceneDelay > MIN_CHASE_DELAY then changeDelay (-CHASE_STEP)

def chaseMode (c : WirelessCommand) : Run Server Bool := do
  if c.dataType ≠ USER_ACTION_DATA then return true
  else if c.userActionData = UP then
    raiseDelay
    return false
  else if c.userActionData = DOWN then
    lowerDelay
    return false
  else if c.userActionData = B2 then
    setState .IDLE
    redrumChase
    revertScene
    return true
  else return false

/-- `dmx.setDMX(scene.getDmxVals())` for the scene that `m` returns. -/
def recallScene (m : Run SceneManager Scene) : Run Server Unit :=
  tryIO do
    let scene ← onScenes m
    onRig (Rig.callDmx (DefaultDMX.setAllDMX scene))

/-- The body of `DOWN` in the idle mode. -/
def recallCurrent : Run Server Unit :=
  tryIO do
    let scene ← onScenes SceneManager.getCurrentScene
    onRig (Rig.callDmx (DefaultDMX.setAllDMX scene))
    onScenes (SceneManager.setCurrentScene scene)

/-- The body of `B2` in the idle mode. -/
def enterChase : Run Server Bool := do
  if (← get).sceneManager.scenes.length > 1 then
    setState .CHASE
    startChase
    return true
  else return false

/-- The body of `PS2` in the idle mode: the look is stored as a scene. -/
def storeScene : Run Server Unit := do
  if (← get).sceneManager.currentIndex = -1 then
    let dmxVals ← onRig (Rig.callDmx DefaultDMX.getDmx)
    onScenes (SceneManager.addScene dmxVals)
    onScenes SceneManager.updateSceneFile

/-- The body of `PS2_LONG` in the idle mode. -/
def dropScene : Run Server Unit := do
  if (← get).sceneManager.currentIndex ≠ -1 then
    onScenes SceneManager.deleteScene
    onScenes SceneManager.updateSceneFile
    revertScene
  else
    let count := (← get).sceneManager.scenes.length
    onScenes (SceneManager.deleteSceneAt (count - 1))
    tryIO (onRig (Rig.callDmx DefaultDMX.clearDMX))

def idleMode (c : WirelessCommand) : Run Server Bool := do
  if c.dataType ≠ USER_ACTION_DATA then return true
  else if c.userActionData = LEFT then
    recallScene SceneManager.getLastScene
    return false
  else if c.userActionData = RIGHT then
    recallScene SceneManager.getNextScene
    return false
  else if c.userActionData = DOWN then
    recallCurrent
    return false
  else if c.userActionData = B1 then
    setState .LIGHT_SELECTION
    saveScene
    startHighlight
    return true
  else if c.userActionData = B2 then enterChase
  else if c.userActionData = PS2 then
    storeScene
    return false
  else if c.userActionData = PS2_LONG then
    dropScene
    return false
  else if c.userActionData = KONAMI then
    setState .PARTY
    return true
  else if c.userActionData = REV_KONAMI then
    setState .SCARY
    return true
  else return false

/-- The light at the cursor. -/
def currentLight : Run Server ℕ := do
  onRig (Rig.getLight (← get).currentLightIndex)

/-- The light at the cursor is no longer highlighted, unless it is selected. -/
def leaveLight : Run Server Unit := do
  let light ← currentLight
  if !(← onRig (Rig.isSelected light)) then
    onHighlight (HighlightThread.removeLight light)
    revertScene
    onHighlight HighlightThread.setUpdateDefaultColor

/-- `if(--currentLightIndex < 0) currentLightIndex = getLightCount() - 1;` -/
def moveLightIndex : Run Server Unit := do
  modify fun s => { s with currentLightIndex := s.currentLightIndex - 1 }
  if (← get).currentLightIndex < 0 then
    modify fun s =>
      { s with currentLightIndex := s.rig.profiles.length - 1 }

/-- The light at the cursor is highlighted. -/
def enterLight : Run Server Unit := do
  let light ← currentLight
  if !(← onRig (Rig.isSelected light)) then
    onHighlight (HighlightThread.addLight light)

/-- The body of `LEFT`, and also of `RIGHT`. -/
def stepLight : Run Server Unit := do
  leaveLight
  moveLightIndex
  enterLight

/-- The body of `PS2`. -/
def toggleLight : Run Server Unit := do
  let light ← currentLight
  if ← onRig (Rig.isSelected light) then onRig (Rig.setSelected light false)
  else onRig (Rig.setSelected light true)

/-- `selectedLights.get(0).getNumChannels()`. -/
def firstNumChannels : Run Server Int32 := do
  let lights ← orThrow (← get).selectedLights .nullPointerException
  let first ← orThrow lights.head? (.indexOutOfBoundsException "get")
  return (← onRig (Rig.fixture first)).numChannels

/-- The loop that compares the numbers of channels. -/
def compareChannels (temp : Int32) : List ℕ → Run Server Unit
  | [] => pure ()
  | light :: rest => do
      let f ← onRig (Rig.fixture light)
      if temp ≠ f.numChannels then
        modify fun s => { s with canChangeDMX := false }
      else
        modify fun s => { s with canChangeDMX := true }
        compareChannels f.numChannels rest

/-- The highlighted lights become the selected lights. -/
def takeSelection : Run Server Unit := do
  let lights ← redrumHighlight
  modify fun s => { s with selectedLights := some lights }
  let temp ← firstNumChannels
  compareChannels temp lights

def lightSelectionMode (c : WirelessCommand) : Run Server Bool := do
  if c.dataType ≠ USER_ACTION_DATA then return true
  else if c.userActionData = LEFT then
    stepLight
    return false
  else if c.userActionData = RIGHT then
    stepLight
    return false
  else if c.userActionData = PS2 then
    toggleLight
    return false
  else if c.userActionData = PS2_LONG then
    clearSelected
    let light ← currentLight
    onHighlight (HighlightThread.addLight light)
    return false
  else if c.userActionData = B1 then
    setState .CONTROL_SELECTION
    takeSelection
    clearSelected
    revertScene
    setControlIndex 1
    startPresetVisual
    return true
  else if c.userActionData = B2 then
    let _ ← redrumHighlight
    clearSelected
    revertScene
    setState .IDLE
    return true
  else return false

/-- `LEFT` in the control selection. -/
def controlLeft (index : ℤ) : Run Server Unit := do
  if index = -1 then
    redrumDMXVisual
    setControlIndex 1
    revertScene
    startPresetVisual
  else if index = 0 then
    redrumRainbow
    if (← get).canChangeDMX then
      setControlIndex (-1)
      revertScene
      startDMXVisual
    else
      setControlIndex 1
      startPresetVisual
  else if index = 1 then
    redrumPresetVisual
    setControlIndex 0
    revertScene
    startRainbow

/-- `RIGHT` in the control selection. -/
def controlRight (index : ℤ) : Run Server Unit := do
  if index = -1 then
    redrumDMXVisual
    setControlIndex 0
    revertScene
    startRainbow
  else if index = 0 then
    redrumRainbow
    setControlIndex 1
    revertScene
    startPresetVisual
  else if index = 1 then
    redrumPresetVisual
    if (← get).canChangeDMX then
      setControlIndex (-1)
      revertScene
      startDMXVisual
    else
      setControlIndex 0
      startRainbow

/-- `B1` in the control selection. -/
def controlEnter (index : ℤ) : Run Server Unit := do
  if index = -1 then
    redrumDMXVisual
    revertScene
    modify fun s => { s with currentChannelIndex := 0 }
    setState .DMX
  else if index = 0 then
    redrumRainbow
    setState .COLOR_WHEEL
  else if index = 1 then
    redrumPresetVisual
    setState .PRESET

/-- The visual of the control selection ends. -/
def redrumControl (index : ℤ) : Run Server Unit := do
  if index = -1 then redrumDMXVisual
  else if index = 0 then redrumRainbow
  else if index = 1 then redrumPresetVisual

def controlSelectionMode (c : WirelessCommand) : Run Server Bool := do
  if c.dataType ≠ USER_ACTION_DATA then return true
  else if c.userActionData = LEFT then
    controlLeft (← get).currentControlIndex
    return false
  else if c.userActionData = RIGHT then
    controlRight (← get).currentControlIndex
    return false
  else if c.userActionData = B1 then
    controlEnter (← get).currentControlIndex
    return true
  else if c.userActionData = B2 then
    setState .LIGHT_SELECTION
    redrumControl (← get).currentControlIndex
    revertScene
    startHighlight
    return true
  else return false

/-- `B1` in the modes that change the selected lights: the scene is kept. -/
def confirm : Run Server Unit := do
  saveScene
  setState .LIGHT_SELECTION
  startHighlight

/-- The selected lights show the color at a joystick position. -/
def showColor (colorConverter : XYConverter) (xVal yVal : Int32) :
    Run Server Unit :=
  forSelected fun light => tryIO do
    let color ← fromExcept (colorConverter.getColor xVal yVal)
    onRig (Rig.callLight light (Light.setColor color))

def colorWheelMode (colorConverter : XYConverter) (c : WirelessCommand) :
    Run Server Bool := do
  if c.dataType = USER_ACTION_DATA then
    if c.userActionData = B1 then
      confirm
      return true
    else if c.userActionData = B2 then
      setState .CONTROL_SELECTION
      startRainbow
      return true
    else return false
  else if c.dataType = JOYSTIC_DATA then
    let p ← orThrow c.joystickData .nullPointerException
    showColor colorConverter p.1 p.2
    return false
  else return true

/-- Change the value at the channel cursor of every selected light, unless the
new value is out of range. -/
def changeChannel (step : Int32) (outOfRange : Int32 → Bool) :
    Run Server Unit :=
  forSelected fun light => do
    let channel := (← get).currentChannelIndex
    let f ← onRig (Rig.fixture light)
    if channel < 0 then throwNew .arrayIndexOutOfBoundsException
    else
      let value ← arrayGet f.dmxVals channel.toNat
      if outOfRange (value + step) then pure ()
      else
        tryIO (onRig (Rig.callLight light
          (Light.setChannelManual (Int32.ofInt channel) (value + step))))

/-- The body of `LEFT` in the DMX mode. -/
def channelLeft : Run Server Unit := do
  modify fun s => { s with currentChannelIndex := s.currentChannelIndex - 1 }
  if (← get).currentChannelIndex < 0 then
    let count ← firstNumChannels
    modify fun s => { s with currentChannelIndex := count.toInt - 1 }

/-- The body of `RIGHT` in the DMX mode. -/
def channelRight : Run Server Unit := do
  modify fun s => { s with currentChannelIndex := s.currentChannelIndex + 1 }
  let count ← firstNumChannels
  if (← get).currentChannelIndex ≥ count.toInt then
    modify fun s => { s with currentChannelIndex := 0 }

/-- The body of `PS2` in the DMX mode. -/
def clearLights : Run Server Unit :=
  forSelected fun light =>
    tryIO (onRig (Rig.callLight light Light.clearLight))

def dmxMode (c : WirelessCommand) : Run Server Bool := do
  if c.dataType ≠ USER_ACTION_DATA then return true
  else if c.userActionData = LEFT then
    channelLeft
    return false
  else if c.userActionData = RIGHT then
    channelRight
    return false
  else if c.userActionData = UP then
    changeChannel DMX_STEP fun value => value > 255
    return false
  else if c.userActionData = DOWN then
    changeChannel (-DMX_STEP) fun value => value < 0
    return false
  else if c.userActionData = B1 then
    confirm
    return true
  else if c.userActionData = B2 then
    setState .CONTROL_SELECTION
    revertScene
    startDMXVisual
    return true
  else if c.userActionData = PS2 then
    clearLights
    return false
  else return false

/-- Show the preset at the cursor. -/
def showPreset : Run Server Unit :=
  forSelected fun light =>
    catchIOException
      (do
        let index := (← get).currentPresetIndex
        if index < 0 then throwNew .arrayIndexOutOfBoundsException
        else
          let preset ← arrayGet PRESETS index.toNat
          onRig (Rig.callLight light (Light.setColor preset)))
      (throw .exited)

/-- The cursor moves before `LEFT` shows the preset. -/
def presetLeft : Run Server Unit := do
  modify fun s => { s with currentPresetIndex := s.currentPresetIndex - 1 }
  if (← get).currentPresetIndex < 0 then
    modify fun s => { s with currentPresetIndex := PRESETS.length - 1 }

/-- The cursor moves before `RIGHT` shows the preset. -/
def presetRight : Run Server Unit := do
  modify fun s => { s with currentPresetIndex := s.currentPresetIndex + 1 }
  if (← get).currentPresetIndex ≥ PRESETS.length then
    modify fun s => { s with currentPresetIndex := 0 }

def presetMode (c : WirelessCommand) : Run Server Bool := do
  if c.userActionData = LEFT then
    presetLeft
    showPreset
    return false
  else if c.userActionData = RIGHT then
    presetRight
    showPreset
    return false
  else if c.userActionData = B1 then
    confirm
    return true
  else if c.userActionData = B2 then
    setState .CONTROL_SELECTION
    startPresetVisual
    return true
  else return false

/-- The last dimmer value whose bound is below the gyro value. -/
def dimmerFor (start : Int32) (bounds : List (Int32 × Int32))
    (gyroData : Int32) : Int32 :=
  bounds.foldl (fun dv bound => if gyroData > bound.1 then bound.2 else dv)
    start

def partyDimmer : Int32 → Int32 :=
  dimmerFor 0
    [(300, 10), (350, 30), (400, 45), (600, 90), (670, 100), (900, 120),
      (950, 175), (1000, 200), (1100, 225), (1400, 240), (1700, 250),
      (2000, 255)]

def scaryDimmer : Int32 → Int32 :=
  dimmerFor 247
    [(300, 230), (320, 220), (340, 200), (360, 170), (370, 130), (390, 110),
      (410, 100), (420, 70), (450, 50), (460, 33), (465, 20), (477, 3)]

/-- Set the dimmer and the color of every fixture. -/
def showAll (dv : Int32) (color : ℕ → Color) : Run Server Unit := do
  (List.range (← get).rig.profiles.length).forM fun i =>
    tryIO do
      let light ← onRig (Rig.getLight i)
      onRig (Rig.callLight light (Light.setDimmerValue dv))
      onRig (Rig.callLight light (Light.setColor (color i)))

/-- The modes that follow the gyro. -/
def gyroMode (dimmer : Int32 → Int32) (color : ℕ → Color)
    (c : WirelessCommand) : Run Server Bool := do
  if c.dataType = USER_ACTION_DATA then
    if c.userActionData = PS2_LONG then
      setState .IDLE
      return true
    else return false
  else if c.dataType = GYRO_DATA then
    showAll (dimmer c.gyroData) color
    return false
  else return true

def partyMode (random : ℕ → Color) : WirelessCommand → Run Server Bool :=
  gyroMode partyDimmer random

def scaryMode : WirelessCommand → Run Server Bool :=
  gyroMode scaryDimmer fun _ => Color.WHITE

/-! ## The loop -/

/-- What the switch over actions before the main switch does. -/
def debugSwitch (c : WirelessCommand) : Run Server Bool := do
  if c.userActionData = KONAMI then
    setState .PARTY
    return true
  else return false

def mainSwitch (colorConverter : XYConverter) (random : ℕ → Color)
    (c : WirelessCommand) : Run Server Bool := do
  match (← get).currentState with
  | .CHASE => chaseMode c
  | .IDLE => idleMode c
  | .LIGHT_SELECTION => lightSelectionMode c
  | .CONTROL_SELECTION => controlSelectionMode c
  | .COLOR_WHEEL => colorWheelMode colorConverter c
  | .DMX => dmxMode c
  | .PRESET => presetMode c
  | .PARTY => partyMode random c
  | .SCARY => scaryMode c

def sendHeartbeat : Run Server Unit :=
  modify fun s =>
    { s with heartbeats := s.heartbeats ++ [s.currentState.toByte] }

/-- One round of the loop, for a command from the queue. -/
def processCommand (colorConverter : XYConverter) (random : ℕ → Color)
    (command : WirelessCommand) : Run Server Unit := do
  let c := command.parse.2
  if command.parse.1 = true ∧ c.packetType = DATA_PACKET_ID then
    let konami ← debugSwitch c
    let beat ← mainSwitch colorConverter random c
    if konami || beat then sendHeartbeat

/-- The scene manager at the start of `run`: the scene file is read and
written. -/
def startScenes : Run Server Unit := do
  let dmxVals ← onRig (Rig.callDmx DefaultDMX.getDmx)
  onScenes (SceneManager.create dmxVals)
  onScenes SceneManager.updateSceneFile

/-- The server before `startScenes`. -/
def init (dmx : DefaultDMX) (profiles : List FixtureProfile)
    (file : Option (List Char)) : Server where
  rig := ⟨dmx, profiles⟩
  sceneManager := ⟨[], [], 0, 0, file⟩
  selectedLights := none
  currentState := .IDLE
  chaseSceneDelay := 100
  slots := fun _ => ⟨none, []⟩
  currentLightIndex := 0
  currentPresetIndex := 0
  currentControlIndex := 0
  currentChannelIndex := 0
  canChangeDMX := false
  heartbeats := []

end Server

end ChuckLight
