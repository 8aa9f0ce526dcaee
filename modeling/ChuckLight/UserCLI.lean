import ChuckLight.Lighting.FixtureValid
import ChuckLight.Support.IntText

/-!
# Entering a fixture

`addProfileToSetCLI` asks for a name, an address and the names of the channels.
The loop over the channels adds each line before it looks whether the line ends
the list, so the word that ends the list becomes a channel of the fixture.
-/

namespace ChuckLight.UserCLI

open Java FixtureProfile

/-! ## Definitions -/

variable (toLowerCase : String → String)

/-- `reader.readLine().toLowerCase()`, where the state holds the lines that are
still to come. -/
def readLowerCase : Run (List String) String := do
  match ← get with
  | [] => throwNew .nullPointerException
  | line :: rest => set rest; return toLowerCase line

/-- The loop over the channels, with `rounds` further rounds allowed after this
one. -/
def readChannelNames (channels : List String) :
    ℕ → Run (List String) (Option (List String))
  | 0 => do
      let input ← readLowerCase toLowerCase
      if input = "q" then return none
      else return some (channels ++ [input])
  | rounds + 1 => do
      let input ← readLowerCase toLowerCase
      if input = "q" then return none
      else if input = "done" then return some (channels ++ [input])
      else readChannelNames (channels ++ [input]) rounds

/-- The driver is set by the constructor of the class. -/
def addProfileToSetCLI : Run (List String) (Option FixtureProfile) := do
  let name ← readLowerCase toLowerCase
  if name = "q" ∨ name = "" then return none
  else do
    let input ← readLowerCase toLowerCase
    if input = "q" ∨ input = "" then return none
    else
      match parseInt input.toList with
      | .error _ => return none
      | .ok address => do
          match ← readChannelNames toLowerCase [] 511 with
          | none => return none
          | some channels => do
              let f ← fromExcept (create (some ()) (some ⟨name, false⟩) address
                (some (channels.map some)))
              return some f

/-! ## What is entered -/

variable {toLowerCase : String → String} {rounds : ℕ} {channels : List String}

theorem readLowerCase_cons (line : String) (rest : List String) :
    readLowerCase toLowerCase (line :: rest) = .ok (toLowerCase line) rest :=
  rfl

/-- A lower-case name that is no command. -/
def IsChannelName (toLowerCase : String → String) (s : String) : Prop :=
  toLowerCase s = s ∧ s ≠ "" ∧ s ≠ "done" ∧ s ≠ "q"

section Lines

variable {line : String} {rest : List String}

/-- The list of channels is given up. -/
theorem readChannelNames_quit (hquit : toLowerCase line = "q") :
    readChannelNames toLowerCase channels rounds (line :: rest) =
      .ok none rest := by
  cases rounds with
  | zero =>
      rw [readChannelNames, bind_of_ok (readLowerCase_cons ..), if_pos hquit]
      rfl
  | succ rounds =>
      rw [readChannelNames, bind_of_ok (readLowerCase_cons ..), if_pos hquit]
      rfl

/-- The line that ends the list is added to it. -/
theorem readChannelNames_last (hquit : toLowerCase line ≠ "q")
    (hlast : toLowerCase line = "done" ∨ rounds = 0) :
    readChannelNames toLowerCase channels rounds (line :: rest) =
      .ok (some (channels ++ [toLowerCase line])) rest := by
  cases rounds with
  | zero =>
      rw [readChannelNames, bind_of_ok (readLowerCase_cons ..), if_neg hquit]
      rfl
  | succ rounds =>
      have hdone : toLowerCase line = "done" :=
        hlast.resolve_right (Nat.succ_ne_zero rounds)
      rw [readChannelNames, bind_of_ok (readLowerCase_cons ..), if_neg hquit,
        if_pos hdone]
      rfl

theorem readChannelNames_more (hquit : toLowerCase line ≠ "q")
    (hdone : toLowerCase line ≠ "done") :
    readChannelNames toLowerCase channels (rounds + 1) (line :: rest) =
      readChannelNames toLowerCase (channels ++ [toLowerCase line]) rounds
        rest := by
  rw [readChannelNames, bind_of_ok (readLowerCase_cons ..), if_neg hquit,
    if_neg hdone]

end Lines

theorem readChannelNames_eq (channels : List String)
    (hdone : toLowerCase "done" = "done")
    {names : List String} (hnames : ∀ s ∈ names, IsChannelName toLowerCase s)
    (hle : names.length ≤ rounds) (rest : List String) :
    readChannelNames toLowerCase channels rounds (names ++ "done" :: rest) =
      .ok (some (channels ++ names ++ ["done"])) rest := by
  induction names generalizing channels rounds with
  | nil =>
      have hquit : toLowerCase "done" ≠ "q" := by
        rw [hdone]
        decide
      have hlast : readChannelNames toLowerCase channels rounds
          ("done" :: rest) =
            .ok (some (channels ++ [toLowerCase "done"])) rest :=
        readChannelNames_last hquit (Or.inl hdone)
      rw [hdone] at hlast
      rw [List.append_nil]
      exact hlast
  | cons s names ih =>
      obtain ⟨hlower, -, hne, hquit⟩ := hnames s (List.mem_cons_self ..)
      rw [← hlower] at hne hquit
      cases rounds with
      | zero => exact absurd hle (by simp)
      | succ rounds =>
          have hrest := ih (channels ++ [s])
            (fun s' hs' => hnames s' (List.mem_cons_of_mem _ hs'))
            (Nat.le_of_succ_le_succ hle)
          rw [List.append_assoc channels] at hrest
          rw [List.cons_append, readChannelNames_more hquit hne, hlower]
          exact hrest

/-- The fixture has one channel more than the names that are entered. -/
theorem addProfileToSetCLI_eq (hdone : toLowerCase "done" = "done")
    (name addressLine : String) {address : Int32}
    (hname : toLowerCase name ≠ "q" ∧ toLowerCase name ≠ "")
    (haddress : parseInt (toLowerCase addressLine).toList = .ok address)
    (hpos : 1 ≤ address.toInt) (hle : channels.length ≤ 511)
    (hchannels : ∀ s ∈ channels, IsChannelName toLowerCase s)
    (hnodup : channels.Nodup) :
    ∃ f, addProfileToSetCLI toLowerCase
        (name :: addressLine :: (channels ++ ["done"])) = .ok (some f) [] ∧
      Offsets f.channelMap (channels ++ ["done"]) := by
  have hdoneNew : "done" ∉ channels := fun h => (hchannels _ h).2.2.1 rfl
  obtain ⟨f, hcreate, hoffsets⟩ := create_ok
    ⟨toLowerCase name, false⟩ address (channels ++ ["done"])
    (fun h => Bool.false_ne_true h.1) hpos (by simp) (by simp; omega)
    (fun s hs => by
      rcases List.mem_append.mp hs with hs | hs
      · exact (hchannels s hs).2.1
      · rw [List.mem_singleton.mp hs]
        decide)
    (List.nodup_append.mpr ⟨hnodup, List.nodup_singleton _,
      fun s hs s' hs' heq =>
        hdoneNew (List.mem_singleton.mp hs' ▸ heq ▸ hs)⟩)
  have hloop := readChannelNames_eq [] hdone hchannels hle []
  rw [List.nil_append] at hloop
  have hquit : ¬ (toLowerCase addressLine = "q" ∨
      toLowerCase addressLine = "") := by
    rintro (heq | heq)
    · rw [heq, show parseInt "q".toList = .error .numberFormatException from
        rfl] at haddress
      cases haddress
    · rw [heq, show parseInt "".toList = .error .numberFormatException from
        rfl] at haddress
      cases haddress
  refine ⟨f, ?_, hoffsets⟩
  unfold addProfileToSetCLI
  rw [bind_of_ok (readLowerCase_cons ..),
    if_neg (not_or.mpr hname), bind_of_ok (readLowerCase_cons ..),
    if_neg hquit]
  simp only [haddress]
  rw [bind_of_ok hloop]
  have hmade : (fromExcept (create (some ()) (some ⟨toLowerCase name, false⟩)
      address (some ((channels ++ ["done"]).map some))) :
        Run (List String) FixtureProfile) [] = .ok f [] := by
    rw [hcreate]
    rfl
  exact bind_of_ok hmade

/-- The list of names is entered, and the result is a fixture with exactly these
channels at their positions. -/
def EntersExactly (toLowerCase : String → String)
    (name addressLine : String) (channels : List String) : Prop :=
  ∃ f rest, addProfileToSetCLI toLowerCase
      (name :: addressLine :: (channels ++ ["done"])) = .ok (some f) rest ∧
    Offsets f.channelMap channels

/-- Whatever the name and the address are, a fixture that is returned has the
channel `done`. -/
theorem offsets_of_entered (hdone : toLowerCase "done" = "done")
    {name addressLine : String} {f : FixtureProfile} {rest : List String}
    (hle : channels.length ≤ 511)
    (hchannels : ∀ s ∈ channels, IsChannelName toLowerCase s)
    (hentered : addProfileToSetCLI toLowerCase
      (name :: addressLine :: (channels ++ ["done"])) = .ok (some f) rest) :
    Offsets f.channelMap (channels ++ ["done"]) := by
  have hloop := readChannelNames_eq [] hdone hchannels hle []
  rw [List.nil_append] at hloop
  unfold addProfileToSetCLI at hentered
  rw [bind_of_ok (readLowerCase_cons ..)] at hentered
  by_cases hname : toLowerCase name = "q" ∨ toLowerCase name = ""
  · rw [if_pos hname] at hentered
    cases hentered
  rw [if_neg hname, bind_of_ok (readLowerCase_cons ..)] at hentered
  by_cases hquit : toLowerCase addressLine = "q" ∨
      toLowerCase addressLine = ""
  · rw [if_pos hquit] at hentered
    cases hentered
  rw [if_neg hquit] at hentered
  cases haddress : parseInt (toLowerCase addressLine).toList with
  | error e =>
      simp only [haddress] at hentered
      cases hentered
  | ok address =>
      simp only [haddress] at hentered
      rw [bind_of_ok hloop] at hentered
      obtain ⟨f', lines, hmade, hreturned⟩ := exists_of_bind_eq_ok hentered
      cases hreturned
      cases hcreate : create (some ()) (some ⟨toLowerCase name, false⟩) address
          (some ((channels ++ ["done"]).map some)) with
      | error e =>
          rw [hcreate] at hmade
          cases hmade
      | ok f'' =>
          rw [hcreate] at hmade
          cases hmade
          obtain ⟨_, names, channelMap, -, -, -, -, hnames, -, -, -, hoffsets,
            rfl⟩ := create_eq_ok hcreate
          have heq := List.map_injective_iff.mpr (Option.some_injective String)
            (Option.some.inj hnames)
          rw [heq]
          exact hoffsets

/-- A fixture never gets exactly the channels that are entered. -/
theorem not_entersExactly (toLowerCase : String → String)
    (hdone : toLowerCase "done" = "done") (name addressLine : String)
    (channels : List String)
    (hlength : 1 ≤ channels.length ∧ channels.length ≤ 511)
    (hchannels : ∀ s ∈ channels, IsChannelName toLowerCase s)
    (_hnodup : channels.Nodup) :
    ¬ EntersExactly toLowerCase name addressLine channels := by
  rintro ⟨f, rest, hentered, hoffsets⟩
  have hdoneOffsets := offsets_of_entered hdone hlength.2 hchannels hentered
  have hsize := hdoneOffsets.size_eq.symm.trans hoffsets.size_eq
  rw [List.length_append, List.length_singleton] at hsize
  omega

theorem isChannelName_red_green :
    ∀ s ∈ ["red", "green"], IsChannelName id s := by
  intro s hs
  rcases List.mem_cons.mp hs with rfl | hs
  · exact ⟨rfl, by decide, by decide, by decide⟩
  · rw [List.mem_singleton.mp hs]
    exact ⟨rfl, by decide, by decide, by decide⟩

/-- A light with two channels at address 1. -/
theorem not_entersExactly_red_green :
    ¬ EntersExactly id "light" "1" ["red", "green"] :=
  not_entersExactly id rfl "light" "1" ["red", "green"] (by decide)
    isChannelName_red_green (by decide)

/-- The fixture of this light has a third channel, `done`. -/
theorem not_forall_entersExactly :
    ¬ ∀ (toLowerCase : String → String) (name addressLine : String)
      (address : Int32) (channels : List String),
      toLowerCase "done" = "done" →
      toLowerCase name ≠ "q" ∧ toLowerCase name ≠ "" →
      parseInt (toLowerCase addressLine).toList = .ok address →
      1 ≤ address.toInt ∧ address.toInt ≤ 512 →
      1 ≤ channels.length ∧ channels.length ≤ 511 →
      (∀ s ∈ channels, IsChannelName toLowerCase s) → channels.Nodup →
      EntersExactly toLowerCase name addressLine channels := by
  intro h
  have hdone : id "done" = "done" := rfl
  obtain ⟨f, rest, hentered, hoffsets⟩ := h id "light" "1" 1 ["red", "green"]
    hdone (by decide) rfl (by decide) (by decide) isChannelName_red_green
    (by decide)
  have hdoneOffsets := offsets_of_entered hdone (by decide)
    isChannelName_red_green hentered
  have hsize := hdoneOffsets.size_eq.symm.trans hoffsets.size_eq
  exact absurd hsize (by decide)

end ChuckLight.UserCLI
