import ChuckLight.Lighting.FixtureOrder
import ChuckLight.Lighting.SetReading
import ChuckLight.UserCLI

/-!
# The set manager

`managerCLI` reads a line and may open a dialog, which reads the next lines.
Each dialog catches some exceptions; any other one ends the CLI.
-/

namespace ChuckLight.UserCLI

open Java FixtureProfile FixtureManager

/-! ## The platform -/

/-- The name of a file in the set directory. -/
abbrev FileName : Type := { name : List Char // Path.Ordinary name }

/-- What the dialogs use of the library and of the file system. -/
structure Platform where
  toLowerCase : String → String
  /-- `Integer.parseInt`, which throws on other texts. -/
  parseInt : String → Option Int32
  /-- `Collections.sort` finds that `compareTo` is no order on fixtures at these
  addresses. -/
  findsNoOrder : List Int32 → Bool
  /-- How it leaves fixtures on which `compareTo` is no order, if it does not
  find that. -/
  disorder : List FixtureProfile → List FixtureProfile
  /-- The set files in the directory, unless it cannot be read. -/
  setFiles : FileSystem → Option (List FileName)
  /-- A directory that is not empty cannot be replaced by a file. -/
  blocked : Path → Bool

/-- `compareTo` is the order of these addresses. -/
def Comparable (addresses : List Int32) : Prop :=
  ∀ a ∈ addresses, ∀ b ∈ addresses, (a.toInt - b.toInt).natAbs < 2 ^ 31

instance (addresses : List Int32) : Decidable (Comparable addresses) :=
  inferInstanceAs (Decidable (∀ a ∈ addresses, ∀ b ∈ addresses, _ < _))

/-- `s.split(" ")`. -/
def split (s : List Char) : List (List Char) :=
  if ' ' ∈ s then (s.splitOn ' ').rdropWhile fun part => part = [] else [s]

/-! ## The CLI -/

/-- What the next line of a new fixture is. -/
inductive Entry where
  | name
  | address (name : String)
  | channel (name : String) (address : Int32) (channels : List String)

/-- Who reads the next line. -/
inductive Prompt where
  | manager
  | add (entry : Entry)
  | delete
  | save
  | load (listOfFiles : List FileName)
  | closed

structure CLI where
  profiles : FixtureManager
  files : FileSystem
  prompt : Prompt

/-- What becomes of a line.  A line that cancels a dialog is rejected. -/
inductive Reply where
  | accepted
  | rejected

/-- The next line goes to this prompt. -/
def ask (prompt : Prompt) (reply : Reply) : Run CLI Reply := do
  modify fun s => { s with prompt := prompt }
  return reply

/-- `listOfFiles.get(choice)`. -/
def chosen (listOfFiles : List FileName) (choice : Int32) : Option FileName :=
  if 0 ≤ choice.toInt then listOfFiles[choice.toInt.toNat]? else none

/-- A nonempty row of blanks. -/
def IsBlank (input : List Char) : Prop := input ≠ [] ∧ ∀ c ∈ input, c = ' '

/-- The line cancels a dialog. -/
def Cancels (input : String) : Prop := input = "q" ∨ input = ""

instance (input : String) : Decidable (Cancels input) :=
  inferInstanceAs (Decidable (_ ∨ _))

/-- The line is the last one of a fixture with these channels so far. -/
def Completes (channels : List String) (input : String) : Prop :=
  input ≠ "q" ∧ (input = "done" ∨ 512 ≤ channels.length + 1)

/-- The constructor accepts the address and the channels. -/
def Acceptable (address : Int32) (channels : List String) : Prop :=
  1 ≤ address.toInt ∧ channels.length ≤ 512 ∧ (∀ s ∈ channels, s ≠ "") ∧
    channels.Nodup

namespace Platform

variable (P : Platform)

/-- `Collections.sort(set)`. -/
def sort (set : List FixtureProfile) :
    Except Throwable (List FixtureProfile) :=
  if Comparable (set.map FixtureProfile.address) then
    .ok (FixtureManager.sort set)
  else if P.findsNoOrder (set.map FixtureProfile.address) then
    .error (.illegalArgumentException
      "Comparison method violates its general contract!")
  else .ok (P.disorder set)

/-- `profiles.addFixture(f)`. -/
def addFixture (f : FixtureProfile) : Run FixtureManager Unit := do
  let m ← get
  if m.set.length + 1 < 2 ^ 31 then do
    modify fun m => { m with set := m.set ++ [f] }
    let set ← fromExcept (P.sort (m.set ++ [f]))
    modify fun m => { m with set := set }
  else throwNew .outOfMemoryError

/-- `new FixtureManager(dmx, filename)`. -/
def newFixtureManager (set_dir : RealPath) (filename : List Char) :
    Run FileSystem FixtureManager := do
  let path ← fromExcept (setFile set_dir filename)
  let items ← newInputStream path
  match readSet (some ()) items with
  | .ok fixtures _ => return ⟨set_dir, ← fromExcept (P.sort fixtures)⟩
  | .error e _ => throw e

/-- `profiles.saveSetFile(filename)`. -/
def saveSetFile (m : FixtureManager) (filename : List Char) :
    Run FileSystem Unit := do
  let path ← fromExcept (setFile m.set_dir (savedName filename))
  if P.blocked path then throwNew (.ioException "directory not empty")
  else FixtureManager.saveSetFile m filename

/-- The files in the set directory. -/
def listFiles : Run CLI (List FileName) := do
  orThrow (P.setFiles (← get).files)
    (.ioException "unable to read the directory")

/-- One line of `addProfileToSetCLI`, up to the next line or the result. -/
def addProfileToSetCLI (line : String) :
    Entry → Except Throwable (Entry ⊕ Option FixtureProfile)
  | .name =>
      let input := P.toLowerCase line
      if Cancels input then .ok (.inr none)
      else .ok (.inl (.address input))
  | .address name =>
      let input := P.toLowerCase line
      if Cancels input then .ok (.inr none)
      else
        match P.parseInt input with
        | none => .ok (.inr none)
        | some address => .ok (.inl (.channel name address []))
  | .channel name address channels =>
      let input := P.toLowerCase line
      if input = "q" then .ok (.inr none)
      else if input ≠ "done" ∧ channels.length + 1 < 512 then
        .ok (.inl (.channel name address (channels ++ [input])))
      else
        (create (some ()) (some ⟨name, false⟩) address
          (some ((channels ++ [input]).map some))).map fun f => .inr (some f)

/-- The fixture of the dialog is added; a null one is ignored. -/
def addLine (entry : Entry) (line : String) : Run CLI Reply := do
  match ← fromExcept (P.addProfileToSetCLI line entry) with
  | .inl entry => ask (.add entry) .accepted
  | .inr none => ask .manager .rejected
  | .inr (some f) => do
      zoom CLI.profiles (fun profiles s => { s with profiles := profiles })
        (P.addFixture f)
      ask .manager .accepted

/-- The chosen fixture is removed, and the dialog goes on while there are
others. -/
def removeChosen (choice : Int32) : Run CLI Reply := do
  match removeFixture (← get).profiles choice with
  | .error .arrayIndexOutOfBoundsException => return .rejected
  | .error e => throwNew e
  | .ok profiles => do
      modify fun s => { s with profiles := profiles }
      if profiles.getLightCount = 0 then ask .manager .accepted
      else return .accepted

/-- One line of `deleteProfileInSetCLI`. -/
def deleteProfileInSetCLI (line : String) : Run CLI Reply := do
  let input := P.toLowerCase line
  if Cancels input then ask .manager .rejected
  else
    match P.parseInt input with
    | none => return .rejected
    | some choice => removeChosen choice

/-- The line of `saveSetCLI`. -/
def saveSetCLI (input : String) : Run CLI Reply := do
  if Cancels input then ask .manager .rejected
  else do
    let profiles := (← get).profiles
    zoom CLI.files (fun files s => { s with files := files })
      (P.saveSetFile profiles input.toList)
    ask .manager .accepted

/-- The line of `loadSetCLI`. -/
def loadSetCLI (listOfFiles : List FileName) (input : String) :
    Run CLI Reply := do
  if Cancels input then ask .manager .rejected
  else
    match P.parseInt input with
    | none => ask .manager .rejected
    | some choice => do
        let filename ← orThrow (chosen listOfFiles choice)
          (.indexOutOfBoundsException "index out of range")
        let set_dir := (← get).profiles.set_dir
        let profiles ← zoom CLI.files
          (fun files s => { s with files := files })
          (P.newFixtureManager set_dir filename.val)
        modify fun s => { s with profiles := profiles }
        ask .manager .accepted

/-- One round of `managerCLI`, up to the first line of a dialog. -/
def managerCLI (line : String) : Run CLI Reply := do
  let input := P.toLowerCase line
  let command ← arrayGet (split input.toList) 0
  if ['q'] <+: command then ask .closed .accepted
  else if ['a'] <+: command then ask (.add .name) .accepted
  else if ['d'] <+: command then do
    if (← get).profiles.getLightCount = 0 then return .rejected
    else ask .delete .accepted
  else if ['s'] <+: command then
    catchIOException (do let _ ← P.listFiles; ask .save .accepted)
      (return .rejected)
  else if ['l'] <+: command then
    catchIOException
      (do let listOfFiles ← P.listFiles; ask (.load listOfFiles) .accepted)
      (return .rejected)
  else if ['p'] <+: input.toList ∨ ['h'] <+: input.toList then
    return .accepted
  else return .rejected

/-- The prompt reads a line.  The handlers are those of `managerCLI`. -/
def answer (line : String) : Run CLI Reply := do
  match (← get).prompt with
  | .manager => P.managerCLI line
  | .add entry =>
      catchIllegalArgument
        (catchIOException (P.addLine entry line) (ask .manager .rejected))
        (ask .manager .rejected)
  | .delete =>
      catchIOException (P.deleteProfileInSetCLI line) (ask .manager .rejected)
  | .save => catchIOException (P.saveSetCLI line) (ask .manager .rejected)
  | .load listOfFiles =>
      catchIOException (P.loadSetCLI listOfFiles line) (ask .manager .rejected)
  | .closed => return .accepted

/-- An exception that escapes ends the CLI. -/
def step (s : CLI) (line : String) : CLI :=
  match P.answer line s with
  | .ok _ s' => s'
  | .error _ s' => { s' with prompt := .closed }

end Platform

namespace Platform

variable {P : Platform} {line : String} {profiles : FixtureManager}
  {files : FileSystem}

/-! ## The methods behind the dialogs -/

/-- The lines that `addProfileToSetCLI` reads from this entry on. -/
def feed (P : Platform) (entry : Entry) :
    List String → EStateM.Result Abrupt (List String) (Option FixtureProfile)
  | [] => .error (.thrown .nullPointerException) []
  | line :: rest =>
      match P.addProfileToSetCLI line entry with
      | .error e => .error (.thrown e) rest
      | .ok (.inl entry) => P.feed entry rest
      | .ok (.inr f) => .ok f rest

section Feed

variable {name : String} {address : Int32} {channels : List String}
  {rest : List String}

/-- The line that ends the list of channels. -/
theorem feed_of_completes
    (hcompletes : Completes channels (P.toLowerCase line)) :
    P.feed (.channel name address channels) (line :: rest) =
      (do
        let f ← fromExcept (create (some ()) (some ⟨name, false⟩) address
          (some ((channels ++ [P.toLowerCase line]).map some)))
        return some f : Run (List String) (Option FixtureProfile)) rest := by
  have hmore : ¬ (P.toLowerCase line ≠ "done" ∧ channels.length + 1 < 512) := by
    rintro ⟨hdone, hlt⟩
    rcases hcompletes.2 with hdone' | hlast
    · exact hdone hdone'
    · omega
  have hline : P.addProfileToSetCLI line (.channel name address channels) =
      (create (some ()) (some ⟨name, false⟩) address
        (some ((channels ++ [P.toLowerCase line]).map some))).map
          fun f => .inr (some f) :=
    (if_neg hcompletes.1).trans (if_neg hmore)
  rw [feed, hline]
  cases create (some ()) (some ⟨name, false⟩) address
      (some ((channels ++ [P.toLowerCase line]).map some)) with
  | ok f => rfl
  | error e => rfl

/-- The channels are read as by the loop of `addProfileToSetCLI`. -/
theorem feed_channel {rounds : ℕ} (hrounds : channels.length + rounds = 511)
    (lines : List String) :
    P.feed (.channel name address channels) lines =
      (do
        match ← readChannelNames P.toLowerCase channels rounds with
        | none => return none
        | some channels => do
            let f ← fromExcept (create (some ()) (some ⟨name, false⟩) address
              (some (channels.map some)))
            return some f : Run (List String) (Option FixtureProfile))
        lines := by
  induction lines generalizing channels rounds with
  | nil =>
      cases rounds with
      | zero => rfl
      | succ rounds => rfl
  | cons line rest ih =>
      by_cases hquit : P.toLowerCase line = "q"
      · have hline : P.addProfileToSetCLI line
            (.channel name address channels) = .ok (.inr none) :=
          if_pos hquit
        rw [bind_of_ok (readChannelNames_quit hquit), feed, hline]
        rfl
      by_cases hlast : P.toLowerCase line = "done" ∨ rounds = 0
      · rw [bind_of_ok (readChannelNames_last hquit hlast)]
        refine feed_of_completes ⟨hquit, hlast.imp_right fun hzero => ?_⟩
        omega
      · obtain ⟨hdone, hpos⟩ := not_or.mp hlast
        obtain ⟨rounds, rfl⟩ := Nat.exists_eq_succ_of_ne_zero hpos
        have hline : P.addProfileToSetCLI line
            (.channel name address channels) =
              .ok (.inl (.channel name address
                (channels ++ [P.toLowerCase line]))) :=
          (if_neg hquit).trans (if_pos ⟨hdone, by omega⟩)
        have hrest : (channels ++ [P.toLowerCase line]).length + rounds =
            511 := by
          rw [List.length_append, List.length_singleton]
          omega
        rw [feed, hline]
        refine (ih hrest).trans ?_
        show EStateM.bind _ _ _ = EStateM.bind _ _ _
        unfold EStateM.bind
        rw [readChannelNames_more hquit hdone]

end Feed

/-- Line by line, the dialog is `addProfileToSetCLI`. -/
theorem feed_name (P : Platform)
    (hparse : ∀ s, P.parseInt s = (Java.parseInt s.toList).toOption)
    (lines : List String) :
    P.feed .name lines =
      UserCLI.addProfileToSetCLI P.toLowerCase lines := by
  unfold UserCLI.addProfileToSetCLI
  rcases lines with _ | ⟨nameLine, lines⟩
  · rfl
  rw [bind_of_ok (readLowerCase_cons ..)]
  by_cases hname : P.toLowerCase nameLine = "q" ∨ P.toLowerCase nameLine = ""
  · have hline : P.addProfileToSetCLI nameLine .name = .ok (.inr none) :=
      if_pos hname
    rw [if_pos hname, feed, hline]
    rfl
  have hline : P.addProfileToSetCLI nameLine .name =
      .ok (.inl (.address (P.toLowerCase nameLine))) := if_neg hname
  rw [if_neg hname, feed, hline]
  rcases lines with _ | ⟨addressLine, lines⟩
  · rfl
  rw [bind_of_ok (readLowerCase_cons ..)]
  by_cases haddress : P.toLowerCase addressLine = "q" ∨
      P.toLowerCase addressLine = ""
  · have hline : P.addProfileToSetCLI addressLine
        (.address (P.toLowerCase nameLine)) = .ok (.inr none) := if_pos haddress
    rw [if_pos haddress]
    dsimp only
    rw [feed, hline]
    rfl
  rw [if_neg haddress]
  dsimp only
  have hparsed := hparse (P.toLowerCase addressLine)
  cases hresult : Java.parseInt (P.toLowerCase addressLine).toList with
  | error e =>
      rw [hresult] at hparsed
      have hline : P.addProfileToSetCLI addressLine
          (.address (P.toLowerCase nameLine)) = .ok (.inr none) := by
        refine (if_neg haddress).trans ?_
        rw [hparsed]
        rfl
      rw [feed, hline]
      rfl
  | ok address =>
      rw [hresult] at hparsed
      have hline : P.addProfileToSetCLI addressLine
          (.address (P.toLowerCase nameLine)) =
            .ok (.inl (.channel (P.toLowerCase nameLine) address [])) := by
        refine (if_neg haddress).trans ?_
        rw [hparsed]
        rfl
      rw [feed, hline]
      have hrounds : ([] : List String).length + 511 = 511 := rfl
      exact feed_channel hrounds lines

/-- On comparable addresses, and only there, `compareTo` is the order of the
addresses. -/
theorem comparable_iff {set : List FixtureProfile} :
    Comparable (set.map FixtureProfile.address) ↔
      ∀ f ∈ set, ∀ g ∈ set, (f.compareTo g).toInt.sign =
        (f.address.toInt - g.address.toInt).sign := by
  rw [forall_sign_iff]
  constructor
  · exact fun h f hf g hg => h _ (List.mem_map_of_mem hf) _
      (List.mem_map_of_mem hg)
  · intro h a ha b hb
    obtain ⟨f, hf, rfl⟩ := List.mem_map.mp ha
    obtain ⟨g, hg, rfl⟩ := List.mem_map.mp hb
    exact h f hf g hg

/-- Where `compareTo` is an order, the methods are those of the manager. -/
theorem sort_of_comparable {set : List FixtureProfile}
    (h : Comparable (set.map FixtureProfile.address)) :
    P.sort set = .ok (FixtureManager.sort set) := if_pos h

theorem addFixture_eq {f : FixtureProfile}
    (h : Comparable ((profiles.set ++ [f]).map FixtureProfile.address)) :
    P.addFixture f profiles =
      match FixtureManager.addFixture profiles (some f) with
      | .ok m => .ok ⟨⟩ m
      | .error e => .error (.thrown e) profiles := by
  unfold addFixture FixtureManager.addFixture
  rw [bind_of_ok (x := get) rfl]
  dsimp only
  by_cases hroom : profiles.set.length + 1 < 2 ^ 31
  · rw [if_pos hroom, if_pos hroom, sort_of_comparable h]
    exact rfl
  · rw [if_neg hroom, if_neg hroom]
    exact rfl

theorem newFixtureManager_eq_load {set_dir : RealPath} {filename : List Char}
    (h : ∀ path items fixtures rest, setFile set_dir filename = .ok path →
      files path = some items → readSet (some ()) items = .ok fixtures rest →
        Comparable (fixtures.map FixtureProfile.address)) :
    P.newFixtureManager set_dir filename files =
      load set_dir (some ()) filename files := by
  unfold newFixtureManager load
  cases hfile : setFile set_dir filename with
  | error e =>
      have hthrown : (fromExcept (.error e) : Run FileSystem Path) files =
          .error (.thrown e) files := rfl
      rw [bind_of_error hthrown, bind_of_error hthrown]
  | ok path =>
      show (newInputStream path >>= _) files = (newInputStream path >>= _) files
      cases hitems : files path with
      | none =>
          have hstream := newInputStream_of_none hitems
          rw [bind_of_error hstream, bind_of_error hstream]
      | some items =>
          have hstream := newInputStream_of_some hitems
          rw [bind_of_ok hstream, bind_of_ok hstream]
          show _ = (match readSet (some ()) items with
            | .ok fixtures _ => return ⟨set_dir, FixtureManager.sort fixtures⟩
            | .error e _ => throw e : Run FileSystem FixtureManager) files
          cases hread : readSet (some ()) items with
          | ok fixtures rest =>
              dsimp only
              rw [sort_of_comparable (h path items fixtures rest hfile hitems
                hread)]
              rfl
          | error e rest => rfl

/-! ## A listed file -/

end Platform

end ChuckLight.UserCLI
