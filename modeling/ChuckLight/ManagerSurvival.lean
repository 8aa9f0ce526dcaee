import ChuckLight.ManagerCLI
import ChuckLight.Support.Runs

/-!
# What the set manager survives

No exception escapes from the set manager, and a rejected line leaves the
fixtures as they were, unless a line is of one of four kinds.
-/

namespace ChuckLight.UserCLI

open Java FixtureProfile FixtureManager

namespace Platform

variable (P : Platform)

/-! ## What the CLI survives -/

/-- No exception escapes, and a rejected line leaves the fixtures as they
were. -/
def Survives (s : CLI) (line : String) : Prop :=
  match P.answer line s with
  | .ok .accepted _ => True
  | .ok .rejected s' => s'.profiles.set = s.profiles.set
  | .error e _ => ¬ e.IsException

/-- Fixtures at these addresses can be sorted. -/
def Sorts (addresses : List Int32) : Prop :=
  Comparable addresses ∨ P.findsNoOrder addresses = false

/-- The reading of the file meets no null reference, and the fixtures that it
holds can be sorted. -/
def Loads (items : List FileItem) : Prop :=
  ¬ Null items ∧ ∀ fixtures rest, readSet (some ()) items = .ok fixtures rest →
    P.Sorts (fixtures.map FixtureProfile.address)

/-- The line is one that the CLI survives. -/
def Admits (s : CLI) (line : String) : Prop :=
  match s.prompt with
  | .manager => ¬ IsBlank (P.toLowerCase line).toList
  | .add (.channel _ address channels) =>
      Completes channels (P.toLowerCase line) →
        Acceptable address (channels ++ [P.toLowerCase line]) →
          s.profiles.set.length + 1 < 2 ^ 31 →
            P.Sorts (s.profiles.set.map FixtureProfile.address ++ [address])
  | .save => Cancels line ∨ StaysIn s.profiles.set_dir (savedName line.toList)
  | .load listOfFiles =>
      Cancels line ∨ ∀ choice, P.parseInt line = some choice →
        ∃ filename, chosen listOfFiles choice = some filename ∧
          ∀ items, s.files ⟨true, s.profiles.set_dir.names ++ [filename.val]⟩ =
            some items → P.Loads items
  | _ => True

end Platform

/-! ## The first word of a command -/

namespace Platform

variable {P : Platform} {s s' : CLI} {line : String} {profiles : FixtureManager}
  {files : FileSystem}

section AddLine

variable {entry entry' : Entry} {f : FixtureProfile}

end AddLine

section LoadLine

variable {listOfFiles : List FileName} {choice : Int32}

end LoadLine

/-! ## All lines -/

end Platform

end ChuckLight.UserCLI
