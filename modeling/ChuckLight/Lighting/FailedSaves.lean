import ChuckLight.Lighting.SceneFile
import ChuckLight.Lighting.SetFile
import ChuckLight.Support.FaultyDisk

/-!
# Saves that fail

`updateSceneFile` and `saveSetFile` on a disk one of whose operations fails.
Both delete the old file first.  After a failure `updateSceneFile` also deletes
what it has written; `saveSetFile` leaves it.
-/

namespace ChuckLight

open Java FaultyDisk

/-- The file holds the complete old or the complete new content. -/
def Survives {β : Type} (old new : Option (List β)) (d : Disk β) : Prop :=
  d.content = old ∨ (new ≠ none ∧ d.content = new)

/-! ## The scene file -/

namespace SceneManager

variable (fault : Fault)

/-- `writer.write(line)` for the line of a scene. -/
def writeLine (scene : Scene) : Run (Disk Char) Unit := do
  let line ← fromExcept (sceneLine scene)
  write fault line

/-- `updateSceneFile`. -/
def saveScenes (scenes : List Scene) : Run (Disk Char) Unit := do
  deleteIfExists fault
  catchIOException
    (do
      createFile fault
      withClose fault (scenes.forM (writeLine fault)))
    (do
      delete fault
      throwNew failure)

/-- The lines that can be made, up to the first scene that lacks a value. -/
def lines : List Scene → List (List Char)
  | [] => []
  | scene :: rest =>
      ((sceneLine scene).toOption.map fun line => line :: lines rest).getD []

/-- Every scene has its line. -/
def AllLines (scenes : List Scene) : Prop :=
  (lines scenes).length = scenes.length

instance (scenes : List Scene) : Decidable (AllLines scenes) :=
  inferInstanceAs (Decidable (_ = _))

/-- What `updateSceneFile` is to write. -/
def sceneText (scenes : List Scene) : Option (List Char) :=
  if AllLines scenes then some (lines scenes).flatten else none

/-! ### The loop -/

variable {fault : Fault} {scenes : List Scene}

theorem mapM_error {α γ : Type} {f : α → Except Throwable γ} {e : Throwable}
    {xs : List α} (hf : ∀ x e', f x = .error e' → e' = e) {e' : Throwable}
    (h : xs.mapM f = .error e') : e' = e := by
  induction xs with
  | nil => cases h
  | cons x xs ih =>
      rw [List.mapM_cons] at h
      cases hx : f x with
      | error e'' =>
          rw [hx] at h
          cases h
          exact hf x _ hx
      | ok c =>
          rw [hx] at h
          cases hxs : xs.mapM f with
          | error e'' =>
              rw [hxs] at h
              cases h
              exact ih hxs
          | ok cs =>
              rw [hxs] at h
              cases h

/-- The only exception of the loop over the values. -/
theorem sceneLine_error {scene : Scene} {e : Throwable}
    (h : sceneLine scene = .error e) : e = .arrayIndexOutOfBoundsException := by
  have hvalue : ∀ i e', valueText scene i = .error e' →
      e' = .arrayIndexOutOfBoundsException := by
    intro i e' he
    unfold valueText at he
    split at he
    · cases he
    · cases he
      rfl
  have hflatten : ∀ texts : Except Throwable (List (List Char)),
      (texts >>= fun t => pure t.flatten) = .error e → texts = .error e := by
    intro texts he
    cases texts with
    | error e' =>
        cases he
        rfl
    | ok t => cases he
  unfold sceneLine at h
  exact mapM_error hvalue (hflatten _ h)

theorem lines_cons_of_ok {scene : Scene} {line : List Char}
    (h : sceneLine scene = .ok line) (rest : List Scene) :
    lines (scene :: rest) = line :: lines rest := by
  rw [lines, h]
  rfl

/-- Full scenes have their lines. -/
theorem length_lines_of_full {scenes : List Scene} (h : ∀ s ∈ scenes, Full s) :
    (lines scenes).length = scenes.length := by
  induction scenes with
  | nil => rfl
  | cons scene rest ih =>
      rw [lines_cons_of_ok (sceneLine_eq (h scene (List.mem_cons_self ..))),
        List.length_cons, List.length_cons,
        ih fun s hs => h s (List.mem_cons_of_mem _ hs)]

theorem lines_cons_of_error {scene : Scene} {e : Throwable}
    (h : sceneLine scene = .error e) (rest : List Scene) :
    lines (scene :: rest) = [] := by
  rw [lines, h]
  rfl

/-- The loop writes the lines, and then fails if a scene has none. -/
theorem forM_writeLine (fault : Fault) (scenes : List Scene) (d : Disk Char) :
    scenes.forM (writeLine fault) d =
      ((lines scenes).forM (write fault) >>= fun _ =>
        if AllLines scenes then pure ⟨⟩
        else throwNew .arrayIndexOutOfBoundsException) d := by
  induction scenes generalizing d with
  | nil => rfl
  | cons scene rest ih =>
      rw [List.forM_eq_forM, List.forM_cons]
      cases hline : sceneLine scene with
      | error e =>
          have hall : ¬ AllLines (scene :: rest) := by
            unfold AllLines
            rw [lines_cons_of_error hline]
            exact (Nat.succ_ne_zero _).symm
          have hwrite : writeLine fault scene d =
              .error (.thrown .arrayIndexOutOfBoundsException) d := by
            unfold writeLine
            rw [hline, sceneLine_error hline]
            rfl
          rw [bind_of_error hwrite, lines_cons_of_error hline, if_neg hall]
          rfl
      | ok line =>
          have hwrite : writeLine fault scene = write fault line := by
            unfold writeLine
            rw [hline]
            rfl
          have hall : AllLines (scene :: rest) ↔ AllLines rest := by
            unfold AllLines
            rw [lines_cons_of_ok hline]
            exact Nat.succ_inj
          rw [hwrite, lines_cons_of_ok hline, List.forM_eq_forM, List.forM_cons]
          cases hd : write fault line d with
          | error e d' =>
              rw [bind_of_error hd, bind_of_error (bind_of_error hd)]
          | ok u d' =>
              rw [bind_of_ok hd, bind_assoc, bind_of_ok hd]
              refine (ih d').trans ?_
              simp only [hall]
              rfl

/-! ### What is left -/

/-- What has been given to the writer by the failing operation. -/
def handed (fault : Fault) (scenes : List Scene) : List Char :=
  ((lines scenes).take (fault.step - 1)).flatten

/-- The new file is deleted after the failure. -/
def CleanedUp (fault : Fault) (scenes : List Scene) : Prop :=
  (fault.step < (lines scenes).length + 2 ∨ AllLines scenes) ∧
    fault.deleteFails = false

instance (fault : Fault) (scenes : List Scene) :
    Decidable (CleanedUp fault scenes) :=
  inferInstanceAs (Decidable (_ ∧ _))

/-- All lines have been given to the writer and have reached the disk, and the
deletion of the new file fails. -/
def SceneComplete (fault : Fault) (scenes : List Scene) : Prop :=
  AllLines scenes ∧ 1 < fault.step ∧ fault.deleteFails = true ∧
    (lines scenes).flatten.length ≤ (handed fault scenes).length ∧
    (lines scenes).flatten.length ≤ fault.reached

/-- What a failure after the deletion of the old file leaves. -/
def sceneLeft (fault : Fault) (scenes : List Scene) : Option (List Char) :=
  if fault.step = 1 ∨ CleanedUp fault scenes then none
  else if fault.step ≤ (lines scenes).length + 2 then
    some ((handed fault scenes).take fault.reached)
  else some (lines scenes).flatten

/-- The disk before the save. -/
def before (old : Option (List Char)) : Disk Char := ⟨old, [], 0⟩

/-- How the writing of the lines into a new file ends. -/
inductive Written (fault : Fault) (scenes : List Scene) :
    EStateM.Result Abrupt (Disk Char) Unit → Prop
  | fails (d : Disk Char) (hle : fault.step ≤ (lines scenes).length + 2)
      (hio : fault.step < (lines scenes).length + 2 ∨ AllLines scenes)
      (hcontent : d.content =
        some ((handed fault scenes).take fault.reached)) :
      Written fault scenes (.error (.thrown failure) d)
  | lacks (d : Disk Char) (hall : ¬ AllLines scenes)
      (hge : (lines scenes).length + 2 ≤ fault.step)
      (hcontent : d.content =
        some (if fault.step ≤ (lines scenes).length + 2 then
          (handed fault scenes).take fault.reached
        else (lines scenes).flatten)) :
      Written fault scenes
        (.error (.thrown .arrayIndexOutOfBoundsException) d)
  | succeeds (d : Disk Char) (hlate : (lines scenes).length + 2 < fault.step)
      (hcontent : d.content = some (lines scenes).flatten) :
      Written fault scenes (.ok ⟨⟩ d)

theorem handed_of_ge (h : (lines scenes).length + 1 ≤ fault.step) :
    handed fault scenes = (lines scenes).flatten := by
  unfold handed
  rw [List.take_of_length_le (by omega)]

theorem written (scenes : List Scene) (hstep : 2 ≤ fault.step) :
    Written fault scenes (withClose fault (scenes.forM (writeLine fault))
      ⟨some [], [], 2⟩) := by
  have hloop := forM_writeLine fault scenes ⟨some [], [], 2⟩
  by_cases hlt : fault.step < (lines scenes).length + 2
  · obtain ⟨d, hfails, hoperations, hwaiting, hcontent⟩ :=
      forM_write_of_fails fault [] [] 2 hstep
        (Nat.lt_of_lt_of_eq hlt (Nat.add_comm _ _))
    rw [bind_of_error hfails] at hloop
    rw [withClose_of_error hloop]
    refine .fails _ (Nat.le_of_lt hlt) (.inl hlt) ?_
    obtain ⟨content, waiting, operations⟩ := d
    cases hwaiting
    cases hoperations
    cases hcontent
    rw [content_stateAfter_close, if_neg (Nat.succ_ne_self _)]
    rfl
  · have hge : (lines scenes).length + 2 ≤ fault.step := Nat.not_lt.mp hlt
    have hhanded := handed_of_ge (Nat.le_of_succ_le hge)
    have hlate : fault.step < 2 ∨ 2 + (lines scenes).length ≤ fault.step :=
      .inr (by omega)
    have hwrites := forM_write_of_ok fault [] 2 hlate
    rw [List.nil_append] at hwrites
    rw [bind_of_ok hwrites] at hloop
    by_cases hall : AllLines scenes
    · rw [if_pos hall] at hloop
      rw [withClose_of_ok hloop]
      by_cases heq : 2 + (lines scenes).length = fault.step
      · rw [write_of_eq heq]
        refine .fails _ (by omega) (.inr hall) ?_
        rw [hhanded, List.append_nil, List.append_nil]
      · rw [write_of_ne heq]
        refine .succeeds _ (by omega) ?_
        rw [List.append_nil, List.append_nil]
    · rw [if_neg hall] at hloop
      rw [withClose_of_error hloop]
      refine .lacks _ hall hge ?_
      rw [content_stateAfter_close, hhanded]
      by_cases heq : 2 + (lines scenes).length = fault.step
      · rw [if_pos heq, if_pos (by omega)]
      · rw [if_neg heq, if_neg (by omega)]

/-- After the clean-up the new file is gone, unless its deletion fails. -/
theorem content_cleanUp (fault : Fault) (d : Disk Char) :
    ∃ d', (do delete fault; throwNew failure : Run (Disk Char) Unit) d =
        .error (.thrown failure) d' ∧
      d'.content =
        if fault.deleteFails = false then none else d.content := by
  by_cases hfails : fault.deleteFails = true ∨ d.content = none
  · have hdelete : delete fault d = .error (.thrown failure) d := if_pos hfails
    rw [bind_of_error hdelete]
    refine ⟨d, rfl, ?_⟩
    rcases hfails with htrue | hnone
    · rw [if_neg (by rw [htrue]; decide)]
    · rw [hnone, ite_self]
  · have hdelete : delete fault d = .ok ⟨⟩ { d with content := none } :=
      if_neg hfails
    rw [bind_of_ok hdelete]
    refine ⟨_, rfl, ?_⟩
    rw [if_pos (Bool.eq_false_of_not_eq_true fun h => hfails (.inl h))]

/-- How the save ends. -/
inductive Saved (fault : Fault) (scenes : List Scene)
    (old : Option (List Char)) :
    EStateM.Result Abrupt (Disk Char) Unit → Prop
  | fails (e : Abrupt) (d : Disk Char)
      (hle : AllLines scenes → fault.step ≤ (lines scenes).length + 2)
      (hcontent : d.content =
        if fault.step = 0 then old else sceneLeft fault scenes) :
      Saved fault scenes old (.error e d)
  | succeeds (d : Disk Char) (hlate : (lines scenes).length + 2 < fault.step)
      (hcontent : d.content = some (lines scenes).flatten) :
      Saved fault scenes old (.ok ⟨⟩ d)

theorem saved (fault : Fault) (scenes : List Scene)
    (old : Option (List Char)) :
    Saved fault scenes old (saveScenes fault scenes (before old)) := by
  unfold saveScenes
  by_cases hzero : 0 = fault.step
  · have hdelete : deleteIfExists fault (before old) =
        .error (.thrown failure) ⟨old, [], 1⟩ := if_pos hzero
    rw [bind_of_error hdelete]
    exact .fails _ _ (fun _ => by omega) (if_pos hzero.symm).symm
  have hdelete : deleteIfExists fault (before old) = .ok ⟨⟩ ⟨none, [], 1⟩ :=
    if_neg hzero
  rw [bind_of_ok hdelete]
  by_cases hone : 1 = fault.step
  · have hcreate : createFile fault (⟨none, [], 1⟩ : Disk Char) =
        .error (.thrown failure) ⟨none, [], 2⟩ := if_pos hone
    obtain ⟨d', hclean, hcontent⟩ :=
      content_cleanUp fault ⟨none, [], 2⟩
    rw [catchIOException_of_ioException (bind_of_error hcreate), hclean]
    refine .fails _ _ (fun _ => by omega) ?_
    rw [hcontent, ite_self, if_neg (Ne.symm hzero)]
    exact (if_pos (.inl hone.symm)).symm
  have hcreate : createFile fault (⟨none, [], 1⟩ : Disk Char) =
      .ok ⟨⟩ ⟨some [], [], 2⟩ := if_neg hone
  have hwritten := written scenes (show 2 ≤ fault.step by omega)
  generalize hresult : withClose fault (scenes.forM (writeLine fault))
    ⟨some [], [], 2⟩ = result at hwritten
  have hbody := (bind_of_ok hcreate (f := fun _ =>
    withClose fault (scenes.forM (writeLine fault)))).trans hresult
  cases hwritten with
  | succeeds d' hlate hcontent =>
      rw [catchIOException_of_ok hbody]
      exact .succeeds _ hlate hcontent
  | lacks d' hall hge hcontent =>
      rw [catchIOException_of_thrown hbody fun message heq => by cases heq]
      refine .fails _ _ (fun h => absurd h hall) ?_
      have hclean : ¬ (fault.step = 1 ∨ CleanedUp fault scenes) := by
        rintro (h | ⟨hlt | h, -⟩)
        · omega
        · omega
        · exact hall h
      unfold sceneLeft
      rw [if_neg (Ne.symm hzero), if_neg hclean, hcontent]
      split_ifs <;> rfl
  | fails d' hle hio hcontent =>
      obtain ⟨d'', hclean, hcontent'⟩ := content_cleanUp fault d'
      rw [catchIOException_of_ioException hbody, hclean]
      refine .fails _ _ (fun _ => hle) ?_
      rw [hcontent', hcontent, if_neg (Ne.symm hzero)]
      unfold sceneLeft CleanedUp
      by_cases hfails : fault.deleteFails = false
      · rw [if_pos hfails, if_pos (.inr ⟨hio, hfails⟩)]
      · rw [if_neg hfails, if_neg fun h => h.elim (fun h => by omega)
          fun h => hfails h.2, if_pos hle]

/-- One of the operations fails, and so does the save. -/
theorem saveScenes_fails (old : Option (List Char))
    (h : fault.step ≤ (lines scenes).length + 2) :
    ∃ e d, saveScenes fault scenes (before old) = .error e d := by
  have hsaved := saved fault scenes old
  generalize saveScenes fault scenes (before old) = result at hsaved
  cases hsaved with
  | fails e d => exact ⟨e, d, rfl⟩
  | succeeds d hlate => exact absurd h (Nat.not_le.mpr hlate)

/-- What is on the disk after a save that fails. -/
theorem content_saveScenes {old : Option (List Char)} {e : Abrupt}
    {d : Disk Char} (h : saveScenes fault scenes (before old) = .error e d) :
    d.content = (if fault.step = 0 then old else sceneLeft fault scenes) ∧
      (AllLines scenes → fault.step ≤ (lines scenes).length + 2) := by
  have hsaved := saved fault scenes old
  rw [h] at hsaved
  cases hsaved with
  | fails _ _ hle hcontent => exact ⟨hcontent, hle⟩

theorem handed_initial (fault : Fault) (scenes : List Scene) :
    handed fault scenes <+: (lines scenes).flatten :=
  flatten_take_initial _ _

theorem sceneLeft_eq_text_iff (hstep : fault.step ≠ 0)
    (hle : AllLines scenes → fault.step ≤ (lines scenes).length + 2) :
    (sceneText scenes ≠ none ∧ sceneLeft fault scenes = sceneText scenes) ↔
      SceneComplete fault scenes := by
  unfold sceneText SceneComplete
  by_cases hall : AllLines scenes
  · rw [if_pos hall]
    unfold sceneLeft
    by_cases hclean : fault.step = 1 ∨ CleanedUp fault scenes
    · rw [if_pos hclean]
      refine iff_of_false (fun h => by cases h.2) ?_
      rintro ⟨-, hlt, hfails, -⟩
      rcases hclean with hone | ⟨-, hdeletes⟩
      · omega
      · rw [hfails] at hdeletes
        cases hdeletes
    · have hone : fault.step ≠ 1 := fun h => hclean (.inl h)
      have hfails : fault.deleteFails = true := by
        apply Bool.eq_true_of_not_eq_false
        exact fun h => hclean (.inr ⟨.inr hall, h⟩)
      rw [if_neg hclean, if_pos (hle hall), Option.some_inj,
        take_eq_iff (handed_initial fault scenes)]
      constructor
      · exact fun h => ⟨hall, by omega, hfails, h.2⟩
      · exact fun h => ⟨Option.some_ne_none _, h.2.2.2⟩
  · rw [if_neg hall]
    exact iff_of_false (fun h => h.1 rfl) fun h => hall h.1

/-- The save that has failed leaves the complete old or the complete new scenes
if and only if nothing has been deleted, the old content was just what is left,
or everything has been written and stays. -/
theorem scenes_survive_iff {old : Option (List Char)} {e : Abrupt}
    {d : Disk Char} (h : saveScenes fault scenes (before old) = .error e d) :
    Survives old (sceneText scenes) d ↔
      fault.step = 0 ∨ sceneLeft fault scenes = old ∨
        SceneComplete fault scenes := by
  obtain ⟨hcontent, hle⟩ := content_saveScenes h
  unfold Survives
  rw [hcontent]
  by_cases hzero : fault.step = 0
  · rw [if_pos hzero]
    exact iff_of_true (.inl rfl) (.inl hzero)
  · rw [if_neg hzero, sceneLeft_eq_text_iff hzero hle]
    simp [hzero]

/-! ### Without a failure -/

theorem file_updateSceneFile (m : SceneManager) :
    (stateAfter updateSceneFile m).file = some (lines m.scenes).flatten := by
  have hloop : ∀ (scenes : List Scene) (m : SceneManager) text,
      m.file = some text →
      (stateAfter (scenes.forM writeScene) m).file =
        some (text ++ (lines scenes).flatten) := by
    intro scenes
    induction scenes with
    | nil =>
        intro m text hfile
        rw [lines, List.flatten_nil, List.append_nil]
        exact hfile
    | cons scene rest ih =>
        intro m text hfile
        unfold stateAfter
        rw [List.forM_eq_forM, List.forM_cons]
        cases hline : sceneLine scene with
        | error e =>
            have hwrite : writeScene scene m = .error (.thrown e) m := by
              unfold writeScene
              rw [hline]
              rfl
            rw [bind_of_error hwrite, lines_cons_of_error hline,
              List.flatten_nil, List.append_nil]
            exact hfile
        | ok line =>
            have hwrite : writeScene scene m =
                .ok ⟨⟩ { m with file := some (text ++ line) } := by
              have hget : m.file.getD [] = text := by
                rw [hfile]
                rfl
              unfold writeScene
              rw [hline, ← hget]
              rfl
            have hrest := ih { m with file := some (text ++ line) } _ rfl
            rw [bind_of_ok hwrite, lines_cons_of_ok hline, List.flatten_cons,
              ← List.append_assoc]
            exact hrest
  exact hloop m.scenes { m with file := some [] } [] rfl

/-- Without a failure of the disk the file is the one of `updateSceneFile`. -/
theorem content_saveScenes_of_late (m : SceneManager)
    (h : (lines m.scenes).length + 2 < fault.step) :
    (stateAfter (saveScenes fault m.scenes) (before m.file)).content =
      (stateAfter updateSceneFile m).file := by
  have hsaved := saved fault m.scenes m.file
  rw [file_updateSceneFile]
  unfold stateAfter
  generalize saveScenes fault m.scenes (before m.file) = result at hsaved
  cases hsaved with
  | succeeds d _ hcontent => exact hcontent
  | fails e d hle hcontent =>
      have hleft : sceneLeft fault m.scenes =
          some (lines m.scenes).flatten := by
        unfold sceneLeft CleanedUp
        rw [if_neg, if_neg (by omega)]
        rintro (hone | ⟨hlt | hall, -⟩)
        · omega
        · omega
        · exact absurd (hle hall) (by omega)
      rw [if_neg (by omega), hleft] at hcontent
      exact hcontent

end SceneManager

/-! ## The set file -/

namespace FixtureManager

variable {β : Type} (encode : FileItem → List β) (header : List β)
  (fault : Fault)

/-- `stream.writeObject(f)`. -/
def writeFixture (f : FixtureProfile) : Run (Disk β) Unit :=
  write fault (encode (.fixture (FixtureProfile.writeObject f)))

/-- `saveSetFile`, where the disk holds the file of that name.  The stream takes
an `int` without an operation of the disk. -/
def saveSet (m : FixtureManager) (filename : List Char) :
    Run (Disk β) Unit := do
  let _ ← fromExcept (setFile m.set_dir (savedName filename))
  deleteIfExists fault
  createFile fault
  createFile fault
  write fault header
  buffer (encode (.int (Int32.ofNat m.set.length)))
  m.set.forM (writeFixture encode fault)

/-- What `saveSetFile` is to write. -/
def setBytes (set : List FixtureProfile) : List β :=
  header ++ ((fileItems set).map encode).flatten

/-- The bytes of a fixture. -/
def fixtureBytes (f : FixtureProfile) : List β :=
  encode (.fixture (FixtureProfile.writeObject f))

/-- What has been given to the stream by the failing operation. -/
def handedSet (set : List FixtureProfile) : List β :=
  if fault.step ≤ 2 then []
  else if fault.step = 3 then header
  else header ++ encode (.int (Int32.ofNat set.length)) ++
    ((set.map (fixtureBytes encode)).take (fault.step - 3)).flatten

/-- What a failure after the deletion of the old file leaves. -/
def setLeft (set : List FixtureProfile) : Option (List β) :=
  if fault.step = 1 then none
  else some ((handedSet encode header fault set).take fault.reached)

/-- Everything has been given to the stream and has reached the disk. -/
def SetComplete (set : List FixtureProfile) : Prop :=
  1 < fault.step ∧
    (setBytes encode header set).length ≤
      (handedSet encode header fault set).length ∧
    (setBytes encode header set).length ≤ fault.reached

/-- The name is not accepted. -/
def Refused (m : FixtureManager) (filename : List Char) : Prop :=
  ∃ e, setFile m.set_dir (savedName filename) = .error e

variable {encode header fault} {m : FixtureManager} {filename : List Char}

theorem forM_writeFixture (fault : Fault) (set : List FixtureProfile) :
    set.forM (writeFixture encode fault) =
      (set.map (fixtureBytes encode)).forM (write fault) := by
  induction set with
  | nil => rfl
  | cons f rest ih =>
      rw [List.map_cons, List.forM_eq_forM, List.forM_eq_forM, List.forM_cons,
        List.forM_cons]
      rw [List.forM_eq_forM, List.forM_eq_forM] at ih
      rw [ih]
      rfl

theorem setBytes_eq (set : List FixtureProfile) :
    setBytes encode header set =
      header ++ encode (.int (Int32.ofNat set.length)) ++
        (set.map (fixtureBytes encode)).flatten := by
  unfold setBytes fileItems
  rw [List.map_cons, List.flatten_cons, List.map_map, List.append_assoc]
  rfl

theorem handedSet_initial (fault : Fault) (set : List FixtureProfile) :
    handedSet encode header fault set <+: setBytes encode header set := by
  rw [setBytes_eq]
  unfold handedSet
  split_ifs
  · exact List.nil_prefix
  · rw [List.append_assoc]
    exact List.prefix_append _ _
  · exact (List.prefix_append_right_inj _).mpr (flatten_take_initial _ _)

/-- The part of `saveSetFile` after the deletion of the old file. -/
theorem content_writeSet {e : Abrupt} {d : Disk β} (hzero : ¬ 0 = fault.step)
    (h : (do
      createFile fault
      createFile fault
      write fault header
      buffer (encode (.int (Int32.ofNat m.set.length)))
      m.set.forM (writeFixture encode fault) : Run (Disk β) Unit)
        ⟨none, [], 1⟩ = .error e d) :
    d.content = setLeft encode header fault m.set := by
  unfold setLeft handedSet
  by_cases hone : 1 = fault.step
  · have hcreate : createFile fault (⟨none, [], 1⟩ : Disk β) =
        .error (.thrown failure) ⟨none, [], 2⟩ := if_pos hone
    rw [bind_of_error hcreate] at h
    cases h
    exact (if_pos hone.symm).symm
  have hcreate : createFile fault (⟨none, [], 1⟩ : Disk β) =
      .ok ⟨⟩ ⟨some [], [], 2⟩ := if_neg hone
  rw [bind_of_ok hcreate] at h
  rw [if_neg (Ne.symm hone)]
  by_cases htwo : 2 = fault.step
  · have hopen : createFile fault (⟨some [], [], 2⟩ : Disk β) =
        .error (.thrown failure) ⟨some [], [], 3⟩ := if_pos htwo
    rw [bind_of_error hopen] at h
    cases h
    rw [if_pos (by omega), List.take_nil]
  have hopen : createFile fault (⟨some [], [], 2⟩ : Disk β) =
      .ok ⟨⟩ ⟨some [], [], 3⟩ := if_neg htwo
  rw [bind_of_ok hopen] at h
  rw [if_neg (by omega)]
  by_cases hthree : 3 = fault.step
  · rw [bind_of_error (write_of_eq hthree header)] at h
    cases h
    rw [if_pos hthree.symm]
    rfl
  rw [bind_of_ok (write_of_ne hthree header)] at h
  rw [if_neg (Ne.symm hthree)]
  have hloop : (m.set.map (fixtureBytes encode)).forM (write fault)
      ⟨some header, encode (.int (Int32.ofNat m.set.length)), 4⟩ =
        .error e d := by
    rw [← forM_writeFixture]
    exact h
  by_cases hlt : fault.step < 4 + (m.set.map (fixtureBytes encode)).length
  · obtain ⟨d', hfails, -, -, hcontent⟩ := forM_write_of_fails fault header
      (encode (.int (Int32.ofNat m.set.length))) 4 (by omega) hlt
    rw [hfails] at hloop
    cases hloop
    rw [hcontent]
    rfl
  · obtain ⟨d', hsucceeds⟩ := forM_write_succeeds fault header
      (encode (.int (Int32.ofNat m.set.length))) 4
      (m.set.map (fixtureBytes encode)) (.inr (Nat.not_lt.mp hlt))
    rw [hsucceeds] at hloop
    cases hloop

/-- What is on the disk after a save that fails. -/
theorem content_saveSet {old : Option (List β)} {e : Abrupt} {d : Disk β}
    (h : saveSet encode header fault m filename ⟨old, [], 0⟩ = .error e d) :
    (Refused m filename ∧ d.content = old) ∨
      (¬ Refused m filename ∧ d.content =
        if fault.step = 0 then old else setLeft encode header fault m.set) := by
  unfold saveSet at h
  cases hname : setFile m.set_dir (savedName filename) with
  | error e' =>
      have hrefused : (fromExcept (.error e') : Run (Disk β) Path)
          ⟨old, [], 0⟩ = .error (.thrown e') ⟨old, [], 0⟩ := rfl
      rw [hname, bind_of_error hrefused] at h
      cases h
      exact .inl ⟨⟨e', hname⟩, rfl⟩
  | ok path =>
      have hnot : ¬ Refused m filename := by
        rintro ⟨e', he⟩
        rw [hname] at he
        cases he
      have hpath : (fromExcept (.ok path) : Run (Disk β) Path)
          ⟨old, [], 0⟩ = .ok path ⟨old, [], 0⟩ := rfl
      rw [hname, bind_of_ok hpath] at h
      refine .inr ⟨hnot, ?_⟩
      by_cases hzero : 0 = fault.step
      · have hdelete : deleteIfExists fault ⟨old, [], 0⟩ =
            .error (.thrown failure) ⟨old, [], 1⟩ := if_pos hzero
        rw [bind_of_error hdelete] at h
        cases h
        exact (if_pos hzero.symm).symm
      have hdelete : deleteIfExists fault ⟨old, [], 0⟩ =
          .ok ⟨⟩ ⟨none, [], 1⟩ := if_neg hzero
      rw [bind_of_ok hdelete] at h
      rw [if_neg (Ne.symm hzero)]
      exact content_writeSet hzero h

theorem setLeft_eq_bytes_iff (hstep : fault.step ≠ 0)
    (set : List FixtureProfile) :
    setLeft encode header fault set = some (setBytes encode header set) ↔
      SetComplete encode header fault set := by
  unfold setLeft SetComplete
  by_cases hone : fault.step = 1
  · rw [if_pos hone]
    exact iff_of_false (fun h => by cases h) fun h => by omega
  · rw [if_neg hone, Option.some_inj, take_eq_iff (handedSet_initial fault set)]
    exact ⟨fun h => ⟨by omega, h⟩, fun h => h.2⟩

/-- The same for the set file.  A name that is not accepted changes nothing. -/
theorem set_survives_iff {old : Option (List β)} {e : Abrupt} {d : Disk β}
    (h : saveSet encode header fault m filename ⟨old, [], 0⟩ = .error e d) :
    Survives old (some (setBytes encode header m.set)) d ↔
      Refused m filename ∨ fault.step = 0 ∨
        setLeft encode header fault m.set = old ∨
          SetComplete encode header fault m.set := by
  unfold Survives
  rcases content_saveSet h with ⟨hrefused, hcontent⟩ | ⟨hnot, hcontent⟩
  · exact iff_of_true (.inl hcontent) (.inl hrefused)
  · rw [hcontent]
    by_cases hzero : fault.step = 0
    · rw [if_pos hzero]
      exact iff_of_true (.inl rfl) (.inr (.inl hzero))
    · rw [if_neg hzero, setLeft_eq_bytes_iff hzero]
      simp [hnot, hzero]

/-! ### Without a failure -/

/-- Without a failure of the disk the file is the one of `saveSetFile`, after
the header of the stream. -/
theorem content_saveSet_of_late (old : Option (List β)) {path : Path}
    (hname : setFile m.set_dir (savedName filename) = .ok path)
    (h : m.set.length + 4 ≤ fault.step) (files : FileSystem) :
    (stateAfter (saveSet encode header fault m filename) ⟨old, [], 0⟩).content =
      (stateAfter (saveSetFile m filename) files path).map fun items =>
        header ++ (items.map encode).flatten := by
  have hsaved : stateAfter (saveSetFile m filename) files path =
      some (flushed (fileItems m.set)) := by
    unfold stateAfter saveSetFile
    rw [hname]
    exact Function.update_self ..
  rw [hsaved]
  have hne : ∀ k < 4, k ≠ fault.step := by
    intro k hk
    omega
  have hhead : saveSet encode header fault m filename ⟨old, [], 0⟩ =
      m.set.forM (writeFixture encode fault)
        ⟨some header, encode (.int (Int32.ofNat m.set.length)), 4⟩ := by
    have hpath : (fromExcept (.ok path) : Run (Disk β) Path)
        ⟨old, [], 0⟩ = .ok path ⟨old, [], 0⟩ := rfl
    unfold saveSet deleteIfExists createFile
    rw [hname, bind_of_ok hpath,
      bind_of_ok (setContent_of_ne (hne 0 (by omega))),
      bind_of_ok (setContent_of_ne (hne 1 (by omega))),
      bind_of_ok (setContent_of_ne (hne 2 (by omega))),
      bind_of_ok (write_of_ne (hne 3 (by omega)) header)]
    rfl
  unfold stateAfter
  rw [hhead, forM_writeFixture]
  cases hset : m.set with
  | nil =>
      show some header = some (header ++ [])
      rw [List.append_nil]
  | cons f rest =>
      have hlate : fault.step < 5 ∨
          5 + (rest.map (fixtureBytes encode)).length ≤ fault.step := by
        rw [hset, List.length_cons] at h
        rw [List.length_map]
        omega
      rw [flushed_fileItems (List.cons_ne_nil f rest), List.map_cons,
        List.forM_eq_forM, List.forM_cons,
        bind_of_ok (write_of_ne (by rw [hset, List.length_cons] at h; omega) _),
        ← List.forM_eq_forM, forM_write_of_ok fault _ 5 hlate]
      have hbytes : setBytes encode header (f :: rest) = _ :=
        setBytes_eq (f :: rest)
      rw [List.map_cons, List.flatten_cons, ← List.append_assoc] at hbytes
      exact congrArg some hbytes.symm

end FixtureManager

/-! ## Both files -/

/-- After a save that has failed, the file holds the complete old or the
complete new content if and only if the failure came before the deletion of the
old file, or the old content was just what is left, or everything had reached
the disk. -/
theorem failed_saves_iff (fault : Fault) (scenes : List Scene)
    (old : Option (List Char)) {β : Type} (encode : FileItem → List β)
    (header : List β) (m : FixtureManager) (filename : List Char)
    (oldSet : Option (List β)) :
    (∀ e d, SceneManager.saveScenes fault scenes (SceneManager.before old) =
        .error e d →
      (Survives old (SceneManager.sceneText scenes) d ↔
        fault.step = 0 ∨ SceneManager.sceneLeft fault scenes = old ∨
          SceneManager.SceneComplete fault scenes)) ∧
    ∀ e d,
      FixtureManager.saveSet encode header fault m filename ⟨oldSet, [], 0⟩ =
        .error e d →
      (Survives oldSet (some (FixtureManager.setBytes encode header m.set)) d ↔
        FixtureManager.Refused m filename ∨ fault.step = 0 ∨
          FixtureManager.setLeft encode header fault m.set = oldSet ∨
            FixtureManager.SetComplete encode header fault m.set) :=
  ⟨fun _ _ h => SceneManager.scenes_survive_iff h,
    fun _ _ h => FixtureManager.set_survives_iff h⟩

/-- Two scenes, and a set of one fixture. -/
def twoLevels : List Scene := [List.replicate 513 0, List.replicate 513 255]

def oneFixture : FixtureManager :=
  ⟨FixtureManager.setsDir,
    [FixtureManager.fixtureOf "par" 1 0 FixtureManager.redDimmer [0, 0]]⟩

/-- The second line cannot be written, and the file is not cleaned up; the
fixture cannot be written. -/
theorem failed_saves_write :
    (∃ e d,
      SceneManager.saveScenes ⟨3, 5, true⟩ twoLevels
        (SceneManager.before (some ['x'])) = .error e d ∧
      (Survives (some ['x']) (SceneManager.sceneText twoLevels) d ↔
        3 = 0 ∨ SceneManager.sceneLeft ⟨3, 5, true⟩ twoLevels = some ['x'] ∨
          SceneManager.SceneComplete ⟨3, 5, true⟩ twoLevels)) ∧
    ∃ e d,
      FixtureManager.saveSet (fun _ => [true, false]) [true] ⟨4, 2, false⟩
        oneFixture ['a'] ⟨some [false], [], 0⟩ = .error e d ∧
      (Survives (some [false]) (some (FixtureManager.setBytes
          (fun _ => [true, false]) [true] oneFixture.set)) d ↔
        FixtureManager.Refused oneFixture ['a'] ∨ 4 = 0 ∨
          FixtureManager.setLeft (fun _ => [true, false]) [true] ⟨4, 2, false⟩
            oneFixture.set = some [false] ∨
          FixtureManager.SetComplete (fun _ => [true, false]) [true]
            ⟨4, 2, false⟩ oneFixture.set) := by
  have hfull : ∀ scene ∈ twoLevels, SceneManager.Full scene := by
    intro scene hscene
    rcases List.mem_pair.mp hscene with rfl | rfl <;>
      exact List.length_replicate
  have hstep : 3 ≤ (SceneManager.lines twoLevels).length + 2 := by
    rw [SceneManager.length_lines_of_full hfull]
    decide
  obtain ⟨e, d, hscenes⟩ := SceneManager.saveScenes_fails (some ['x'])
    (show (Fault.mk 3 5 true).step ≤ _ from hstep)
  obtain ⟨e', d', hset⟩ : ∃ e d,
      FixtureManager.saveSet (fun _ => [true, false]) [true] ⟨4, 2, false⟩
        oneFixture ['a'] ⟨some [false], [], 0⟩ = .error (.thrown e) d := by
    decide +kernel
  refine ⟨⟨e, d, hscenes, ?_⟩, _, d', hset, ?_⟩
  · exact (failed_saves_iff ⟨3, 5, true⟩ twoLevels (some ['x'])
      (fun _ => [true, false]) [true] oneFixture ['a'] none).1 e d hscenes
  · exact (failed_saves_iff ⟨4, 2, false⟩ twoLevels none
      (fun _ => [true, false]) [true] oneFixture ['a'] (some [false])).2 _ d'
        hset

/-- The new file cannot be created after the old one has been deleted. -/
theorem not_failed_saves_survive :
    ¬ (∀ fault scenes old e d,
      SceneManager.saveScenes fault scenes (SceneManager.before old) =
        .error e d → Survives old (SceneManager.sceneText scenes) d) ∧
    ¬ ∀ (encode : FileItem → List Bool) header fault m filename old e d,
      FixtureManager.saveSet encode header fault m filename ⟨old, [], 0⟩ =
        .error e d →
      Survives old (some (FixtureManager.setBytes encode header m.set)) d := by
  constructor
  · intro h
    have hsurvives := h ⟨1, 0, false⟩ [] (some ['x']) (.thrown failure)
      ⟨none, [], 2⟩ rfl
    rcases hsurvives with hold | ⟨-, hnew⟩
    · cases hold
    · cases hnew
  · intro h
    have hsurvives := h (fun _ => [true]) [] ⟨1, 0, false⟩
      ⟨FixtureManager.setsDir, []⟩ ['a'] (some [true]) (.thrown failure)
      ⟨none, [], 2⟩ rfl
    rcases hsurvives with hold | ⟨-, hnew⟩
    · cases hold
    · cases hnew

end ChuckLight
