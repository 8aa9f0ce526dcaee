import ChuckLight.Support.IntText
import Mathlib.Data.List.DropRight

/-!
# The scene manager and the scene file

The manager holds a list of stored scenes, the live scene and an index that is
-1 for the live scene.  The scene file holds one line of 513 numbers for each
stored scene.
-/

namespace ChuckLight

open Java

/-- The DMX values of a scene. -/
abbrev Scene : Type := List Int32

/-- The manager and the contents of the scene file, if there is one.  The list
of scenes counts its structural changes in `modCount`. -/
structure SceneManager where
  scenes : List Scene
  currentScene : Scene
  currentIndex : ℤ
  modCount : ℕ
  file : Option (List Char)

namespace SceneManager

/-! ## The text of the scene file -/

/-- The text that `updateSceneFile` appends for the `i`th value of a scene. -/
def valueText (dmxVals : Scene) (i : ℕ) : Except Throwable (List Char) :=
  match dmxVals[i]? with
  | some v => .ok (intText v ++ [if i ≠ 512 then ',' else '\n'])
  | none => .error .arrayIndexOutOfBoundsException

/-- The line of a scene. -/
def sceneLine (dmxVals : Scene) : Except Throwable (List Char) := do
  return (← (List.range 513).mapM (valueText dmxVals)).flatten

/-- `readLine()` until the end of the text, with the characters of the current
line in reverse. -/
def readLines (line : List Char) : List Char → List (List Char)
  | [] => if line = [] then [] else [line.reverse]
  | '\n' :: rest => line.reverse :: readLines [] rest
  | '\r' :: '\n' :: rest => line.reverse :: readLines [] rest
  | '\r' :: rest => line.reverse :: readLines [] rest
  | c :: rest => readLines (c :: line) rest

/-- `line.split(",")`. -/
def splitComma (line : List Char) : List (List Char) :=
  if ',' ∈ line then (line.splitOn ',').rdropWhile fun part => part = []
  else [line]

/-- `Integer.parseInt(dmxLine[i])`. -/
def parseValue (dmxLine : List (List Char)) (i : ℕ) :
    Except Throwable Int32 :=
  match dmxLine[i]? with
  | some text => parseInt text
  | none => .error .arrayIndexOutOfBoundsException

def parseLine (line : List Char) : Except Throwable Scene :=
  (List.range 513).mapM (parseValue (splitComma line))

/-! ## Methods -/

def addScene (dmxVals : Scene) : Run SceneManager Unit :=
  modify fun m =>
    { m with scenes := m.scenes ++ [dmxVals], modCount := m.modCount + 1 }

/-- `writer.write(line)` for the line of a scene. -/
def writeScene (scene : Scene) : Run SceneManager Unit := do
  let line ← fromExcept (sceneLine scene)
  modify fun m => { m with file := some (m.file.getD [] ++ line) }

def updateSceneFile : Run SceneManager Unit := do
  modify fun m => { m with file := some [] }
  (← get).scenes.forM writeScene

/-- The body of the loop of `parseSceneFile`. -/
def readScene (line : List Char) : Run SceneManager Unit := do
  addScene (← fromExcept (parseLine line))

def parseSceneFile : Run SceneManager Unit := do
  (readLines [] ((← get).file.getD [])).forM readScene

/-- The constructor, on a new object. -/
def create (dmxVals : Scene) : Run SceneManager Unit := do
  modify fun m =>
    { m with
      scenes := []
      currentIndex := -1
      currentScene := dmxVals }
  match (← get).file with
  | none => modify fun m => { m with file := some [] }
  | some _ => parseSceneFile

/-- `scenes.remove(index)`. -/
def removeAt (index : ℤ) : Run SceneManager Unit := do
  if 0 ≤ index ∧ index < (← get).scenes.length then
    modify fun m =>
      { m with
        scenes := m.scenes.eraseIdx index.toNat
        modCount := m.modCount + 1 }
  else throwNew (.indexOutOfBoundsException "remove")

/-- `deleteScene()`. -/
def deleteScene : Run SceneManager Unit := do
  if (← get).currentIndex ≠ -1 then
    removeAt (← get).currentIndex
    modify fun m => { m with currentIndex := -1 }

/-- `deleteScene(index)`. -/
def deleteSceneAt (index : ℤ) : Run SceneManager Unit := do
  if index ≥ (← get).scenes.length ∨ index < 0 then return
  else removeAt index

/-- `scenes.get(index)`. -/
def getScene (index : ℤ) : Run SceneManager Scene := do
  let scenes := (← get).scenes
  orThrow (if 0 ≤ index then scenes[index.toNat]? else none)
    (.indexOutOfBoundsException "get")

def setIndex (index : ℤ) : Run SceneManager Unit :=
  modify fun m => { m with currentIndex := index }

def getCurrentScene : Run SceneManager Scene := do
  return (← get).currentScene

def getNextScene : Run SceneManager Scene := do
  setIndex ((← get).currentIndex + 1)
  let m ← get
  if m.currentIndex ≥ m.scenes.length ∨ m.scenes.length = 0 then
    setIndex (-1)
    getCurrentScene
  else getScene m.currentIndex

def getLastScene : Run SceneManager Scene := do
  let m ← get
  if m.currentIndex = -1 ∧ m.scenes.length ≠ 0 then
    setIndex (m.scenes.length - 1)
    getScene (m.scenes.length - 1)
  else do
    setIndex ((← get).currentIndex - 1)
    let m ← get
    if m.currentIndex < 0 ∨ m.scenes.length = 0 then
      setIndex (-1)
      getCurrentScene
    else getScene m.currentIndex

def setCurrentScene (dmxVals : Scene) : Run SceneManager Unit :=
  modify fun m => { m with currentIndex := -1, currentScene := dmxVals }

end SceneManager

end ChuckLight
