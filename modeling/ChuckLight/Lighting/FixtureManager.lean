import ChuckLight.Lighting.FixtureProfile
import Mathlib.Data.List.DropRight

/-!
# The fixture manager and its set files

A manager holds the fixtures of a show, sorted by address.  Set files lie
directly in one directory; a file holds the number of fixtures and then the
fixtures, as an object stream.
-/

namespace ChuckLight

open Java FixtureProfile

/-! ## Paths -/

/-- A Unix path: its names, from the root or from the working directory. -/
structure Path where
  absolute : Bool
  names : List (List Char)
  deriving DecidableEq

namespace Path

/-- `Paths.get(text)`. -/
def ofText (text : List Char) : Except Throwable Path :=
  if '\x00' ∈ text then
    .error (.illegalArgumentException "Nul character not allowed")
  else
    .ok {
      absolute := text.head? = some '/'
      names := (text.splitOn '/').filter fun name => name ≠ [] }

/-- `p.resolve(q)`. -/
def resolve (p q : Path) : Path :=
  if q.absolute then q else { p with names := p.names ++ q.names }

/-- One name of a path, after the names on the stack. -/
def pushName (absolute : Bool) (stack : List (List Char)) (name : List Char) :
    List (List Char) :=
  if name = ['.'] then stack
  else if name = ['.', '.'] then
    match stack with
    | [] => if absolute then [] else [name]
    | top :: rest => if top = ['.', '.'] then name :: stack else rest
  else name :: stack

/-- `p.normalize()`. -/
def normalize (p : Path) : Path :=
  { p with names := (p.names.foldl (pushName p.absolute) []).reverse }

/-- `p.getParent()`. -/
def getParent (p : Path) : Option Path :=
  match p.names with
  | [] => none
  | [_] => if p.absolute then some { p with names := [] } else none
  | _ => some { p with names := p.names.dropLast }

end Path

/-- A directory as `toRealPath` gives it. -/
structure RealPath where
  names : List (List Char)
  plain : ∀ name ∈ names, name ≠ ['.'] ∧ name ≠ ['.', '.']

def RealPath.path (dir : RealPath) : Path := ⟨true, dir.names⟩

/-! ## Files -/

/-- An item of a set file: an `int`, a fixture with its own items, null, or
some other object. -/
inductive FileItem where
  | int (value : Int32)
  | fixture (items : List StreamItem)
  | null
  | other
  deriving DecidableEq

/-- The contents of the files. -/
abbrev FileSystem : Type := Path → Option (List FileItem)

/-! ## The manager -/

structure FixtureManager where
  set_dir : RealPath
  set : List FixtureProfile

namespace FixtureManager

/-- `Collections.sort(set)`. -/
def sort (set : List FixtureProfile) : List FixtureProfile :=
  set.insertionSort fun f g => (f.compareTo g).toInt ≤ 0

/-- The constructor of an empty manager. -/
def empty (set_dir : RealPath) : FixtureManager := ⟨set_dir, []⟩

/-- `addFixture`.  An array holds less than `2 ^ 31` elements. -/
def addFixture (m : FixtureManager) (newFixture : Option FixtureProfile) :
    Except Throwable FixtureManager :=
  match newFixture with
  | none => .ok m
  | some f =>
      if m.set.length + 1 < 2 ^ 31 then
        .ok { m with set := sort (m.set ++ [f]) }
      else .error .outOfMemoryError

/-- `removeFixture`. -/
def removeFixture (m : FixtureManager) (fixtureIndex : Int32) :
    Except Throwable FixtureManager :=
  if 0 ≤ fixtureIndex.toInt ∧ fixtureIndex.toInt < m.set.length then
    .ok { m with set := m.set.eraseIdx fixtureIndex.toInt.toNat }
  else .error .arrayIndexOutOfBoundsException

def getLightCount (m : FixtureManager) : ℕ := m.set.length

/-- The path of a set file, unless it leaves the directory. -/
def setFile (set_dir : RealPath) (filename : List Char) :
    Except Throwable Path := do
  let path ← Path.ofText filename
  let setFile := (set_dir.path.resolve path).normalize
  match setFile.getParent with
  | none => .error .nullPointerException
  | some parent =>
      if parent ≠ set_dir.path then
        .error (.illegalArgumentException "path traversal detected")
      else .ok setFile

/-- The name under which `saveSetFile` saves. -/
def savedName (filename : List Char) : List Char :=
  if ['.', 's', 'e', 't'] <:+ filename then filename
  else filename ++ ['.', 's', 'e', 't']

/-- The items of the saved file. -/
def fileItems (set : List FixtureProfile) : List FileItem :=
  .int (Int32.ofNat set.length) ::
    set.map fun f => .fixture (FixtureProfile.writeObject f)

/-- What reaches the file of a stream that is neither flushed nor closed: every
object is written out, but an `int` waits for the next object. -/
def flushed (items : List FileItem) : List FileItem :=
  items.rdropWhile fun item =>
    match item with
    | .int _ => true
    | _ => false

/-- `saveSetFile`: the old file is deleted and a new one is written. -/
def saveSetFile (m : FixtureManager) (filename : List Char) :
    Run FileSystem Unit := do
  let path ← fromExcept (setFile m.set_dir (savedName filename))
  modify fun files => Function.update files path none
  modify fun files =>
    Function.update files path (some (flushed (fileItems m.set)))

/-- `ins.readInt()`. -/
def readCount : Run (List FileItem) Int32 := do
  match ← get with
  | .int value :: rest =>
      modify fun _ => rest
      return value
  | _ => throwNew (.ioException "no int in the stream")

/-- One round of the loop over the fixtures. -/
def readFixture (dmx : DriverRef) : Run (List FileItem) FixtureProfile := do
  match ← get with
  | .fixture items :: rest =>
      match FixtureProfile.readObject items with
      | .ok f _ =>
          modify fun _ => rest
          return f.setDMXDriver dmx
      | .error e _ => throw e
  | .null :: _ => throwNew .nullPointerException
  | .other :: _ =>
      throwNew (.ioException "read non-fixture object from file")
  | _ => throwNew (.ioException "no object in the stream")

/-- The loop over the fixtures, with `n` rounds to go. -/
def readFixtures (dmx : DriverRef) :
    ℕ → Run (List FileItem) (List FixtureProfile)
  | 0 => pure []
  | n + 1 => do
      let f ← readFixture dmx
      let rest ← readFixtures dmx n
      return f :: rest

/-- `Files.newInputStream(setFile)`. -/
def newInputStream (path : Path) : Run FileSystem (List FileItem) := do
  match (← get) path with
  | some items => return items
  | none => throwNew (.ioException "no such file")

/-- The constructor of a manager from a set file. -/
def load (set_dir : RealPath) (dmx : DriverRef) (filename : List Char) :
    Run FileSystem FixtureManager := do
  let path ← fromExcept (setFile set_dir filename)
  let items ← newInputStream path
  match (do readFixtures dmx (← readCount).toInt.toNat : Run _ _) items with
  | .ok fixtures _ => return ⟨set_dir, sort fixtures⟩
  | .error e _ => throw e

end FixtureManager

end ChuckLight
