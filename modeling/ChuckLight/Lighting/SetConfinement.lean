import ChuckLight.Lighting.SetFile
import ChuckLight.Support.Footprint

/-!
# Set files stay in their directory

Loading and saving are refused, or operate on one file that lies directly in
the set directory.
-/

namespace ChuckLight

open Java

namespace FixtureManager

/-! ## Definitions -/

variable {α : Type}

/-- The operation refuses its arguments before it touches any file. -/
def Refuses (x : Run FileSystem α) : Prop :=
  ∃ message, ∀ files,
    x files = .error (.thrown (.illegalArgumentException message)) files

/-- The operation refuses its arguments, or operates on one file that lies
directly in the directory. -/
def Confined (set_dir : RealPath) (suffix : List Char)
    (x : Run FileSystem α) : Prop :=
  Refuses x ∨ ∃ name, Path.Ordinary name ∧ suffix <:+ name ∧
    OperatesOn (⟨true, set_dir.names ++ [name]⟩ : Path) x

/-! ## The operations on set files -/

section Operations

variable {set_dir : RealPath} {filename : List Char} {m : FixtureManager}
  {dmx : DriverRef} {path : Path}

/-- Loading reads one file and leaves all of them as they are. -/
theorem operatesOn_load (hpath : setFile set_dir filename = .ok path) :
    OperatesOn path (load set_dir dmx filename) := by
  constructor
  · unfold load
    rw [hpath]
    show Touches path (newInputStream path >>= _)
    refine Touches.bind ?_ fun items => ?_
    · refine Touches.get_bind (fun files files' h => ?_) fun files => ?_
      · rw [h]
      · cases files path with
        | none => exact Touches.throw _
        | some items => exact Touches.pure items
    · cases (do readFixtures dmx (← readCount).toInt.toNat : Run _ _) items with
      | ok fixtures _ => exact Touches.pure _
      | error e _ => exact Touches.throw e
  · -- An empty set is read, a missing file is not.
    refine Or.inr ⟨fun _ => some [.int 0], fun _ => none, ?_⟩
    have hempty : outcome (load set_dir dmx filename)
        (fun _ => some [.int 0]) = .ok ⟨set_dir, []⟩ := by
      unfold outcome
      have hread : (do readFixtures dmx (← readCount).toInt.toNat : Run _ _)
          [.int 0] = .ok [] [] := rfl
      rw [load_of_items hpath rfl hread]
      rfl
    rw [hempty]
    unfold outcome load
    rw [hpath]
    exact nofun

/-- Saving writes one file. -/
theorem operatesOn_saveSetFile
    (hpath : setFile m.set_dir (savedName filename) = .ok path) :
    OperatesOn path (saveSetFile m filename) := by
  unfold saveSetFile
  rw [hpath]
  constructor
  · show Touches path (do
      modify fun files => Function.update files path none
      modify fun files =>
        Function.update files path (some (flushed (fileItems m.set))))
    exact Touches.bind (Touches.modify_update none) fun _ =>
      Touches.modify_update _
  · refine Or.inl ⟨fun _ => none, ?_⟩
    have hsaved : (Function.update (Function.update (fun _ => none) path none)
        path (some (flushed (fileItems m.set))) : FileSystem) path ≠ none := by
      rw [Function.update_self]
      exact nofun
    exact hsaved

/-- A file name that does not lead to the root is refused, or stands for a file
in the directory. -/
theorem confined_load (h : ¬ LeadsToRoot set_dir filename) :
    Confined set_dir [] (load set_dir dmx filename) := by
  rcases setFile_cases set_dir filename with
    ⟨message, hfile⟩ | ⟨hroot, -⟩ | ⟨-, name, -, hname, hfile⟩
  · refine Or.inl ⟨message, fun files => ?_⟩
    unfold load
    rw [hfile]
    rfl
  · exact absurd hroot h
  · exact Or.inr ⟨name, hname, List.nil_suffix, operatesOn_load hfile⟩

theorem confined_saveSetFile (m : FixtureManager) (filename : List Char) :
    Confined m.set_dir ['.', 's', 'e', 't'] (saveSetFile m filename) := by
  obtain ⟨last, rest, hlanding, hsuffix⟩ := landing_savedName m.set_dir filename
  rcases setFile_cases m.set_dir (savedName filename) with
    ⟨message, hfile⟩ | ⟨hroot, -⟩ | ⟨-, name, hlanding', hname, hfile⟩
  · refine Or.inl ⟨message, fun files => ?_⟩
    unfold saveSetFile
    rw [hfile]
    rfl
  · have hnil := (leadsToRoot_iff.mp hroot).2
    rw [hlanding] at hnil
    cases hnil
  · rw [hlanding] at hlanding'
    injection hlanding' with hlast
    rw [hlast] at hsuffix
    exact Or.inr ⟨name, hname, hsuffix, operatesOn_saveSetFile hfile⟩

theorem load_of_leadsToRoot (dmx : DriverRef) (h : LeadsToRoot set_dir filename)
    (files : FileSystem) :
    load set_dir dmx filename files =
      .error (.thrown .nullPointerException) files := by
  obtain ⟨hnul, hlanding⟩ := leadsToRoot_iff.mp h
  have hfile := setFile_of_landing set_dir hnul
  rw [hlanding] at hfile
  unfold load
  rw [hfile]
  rfl

/-- A file name that leads to the root ends in a `NullPointerException`, before
any file is touched. -/
theorem not_confined_load (h : LeadsToRoot set_dir filename)
    (suffix : List Char) :
    ¬ Confined set_dir suffix (load set_dir dmx filename) := by
  have hload := load_of_leadsToRoot dmx h
  rintro (⟨message, hrefuses⟩ | ⟨name, -, -, htouches, hreaches⟩)
  · have heq := (hload fun _ => none).symm.trans (hrefuses fun _ => none)
    cases heq
  · rcases hreaches with ⟨files, hne⟩ | ⟨files, files', hne⟩
    · apply hne
      unfold stateAfter
      rw [hload]
    · apply hne
      unfold outcome
      rw [hload, hload]

end Operations

/-- Loading and saving are refused or operate on one file directly in the set
directory, if and only if the file name does not lead to the root. -/
theorem confined_iff (m : FixtureManager) (dmx : DriverRef)
    (filename : List Char) :
    (Confined m.set_dir [] (load m.set_dir dmx filename) ∧
        Confined m.set_dir ['.', 's', 'e', 't'] (saveSetFile m filename)) ↔
      ¬ LeadsToRoot m.set_dir filename :=
  ⟨fun h hroot => not_confined_load hroot [] h.1,
    fun h => ⟨confined_load h, confined_saveSetFile m filename⟩⟩

/-- The root has no parent, and the set directory is not compared with it. -/
theorem not_confined_slash :
    (∀ files, load setsDir none ['/'] files =
        .error (.thrown .nullPointerException) files) ∧
      ¬ Confined setsDir [] (load setsDir none ['/']) :=
  ⟨load_of_leadsToRoot none (by decide), not_confined_load (by decide) []⟩

end FixtureManager

end ChuckLight
