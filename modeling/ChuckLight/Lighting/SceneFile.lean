import ChuckLight.Lighting.SceneManager

/-!
# The scene file can be read back

The lines that `updateSceneFile` writes are parsed to the scenes that they were
written from.
-/

namespace ChuckLight.SceneManager

open Java

/-- A loop whose rounds all succeed. -/
theorem mapM_eq_ok {α β ε : Type} {f : α → Except ε β} {g : α → β}
    {xs : List α} (h : ∀ x ∈ xs, f x = .ok (g x)) :
    xs.mapM f = .ok (xs.map g) := by
  induction xs with
  | nil => rfl
  | cons x xs ih =>
      rw [List.mapM_cons, h x (List.mem_cons_self ..),
        ih fun y hy => h y (List.mem_cons_of_mem _ hy)]
      rfl

/-- A scene with a value for each of the 513 addresses. -/
def Full (scene : Scene) : Prop := scene.length = 513

/-- The text of a scene without the end of the line. -/
def commaSeparated (scene : Scene) : List Char :=
  [','].intercalate (scene.map intText)

variable {scene : Scene} {scenes : List Scene}

/-! ## Writing -/

/-- The texts of the values, each with its separator, make up the line. -/
theorem flatten_valueTexts (v : Int32) (vs : List Int32) :
    ((List.range (vs.length + 1)).map fun i =>
      intText ((v :: vs).getD i 0) ++
        [if i ≠ vs.length then ',' else '\n']).flatten =
      commaSeparated (v :: vs) ++ ['\n'] := by
  induction vs generalizing v with
  | nil => simp [commaSeparated]
  | cons w ws ih =>
      have hrest := ih w
      have hzero : 0 ≠ (w :: ws).length := Nat.zero_ne_add_one _
      rw [List.range_succ_eq_map, List.map_cons, List.flatten_cons,
        List.map_map, if_pos hzero]
      have htail : (List.range (w :: ws).length).map
          ((fun i => intText ((v :: w :: ws).getD i 0) ++
            [if i ≠ (w :: ws).length then ',' else '\n']) ∘ Nat.succ) =
          (List.range (ws.length + 1)).map fun i =>
            intText ((w :: ws).getD i 0) ++
              [if i ≠ ws.length then ',' else '\n'] := by
        apply List.map_congr_left
        intro i _
        simp only [Function.comp, Nat.succ_eq_add_one, List.length_cons,
          List.getD_cons_succ, ne_eq, Nat.add_right_cancel_iff]
      rw [htail, hrest]
      simp [commaSeparated, List.intercalate_cons_cons]

/-- The line of a full scene. -/
theorem sceneLine_eq (h : Full scene) :
    sceneLine scene = .ok (commaSeparated scene ++ ['\n']) := by
  obtain ⟨v, vs, rfl⟩ : ∃ v vs, scene = v :: vs :=
    List.exists_cons_of_length_pos (by rw [h]; decide)
  have hlength : vs.length = 512 := Nat.succ.inj h
  have hmap : (List.range 513).mapM (valueText (v :: vs)) =
      .ok ((List.range 513).map fun i =>
        intText ((v :: vs).getD i 0) ++ [if i ≠ 512 then ',' else '\n']) := by
    apply mapM_eq_ok
    intro i hi
    have hlt : i < (v :: vs).length := h ▸ List.mem_range.mp hi
    rw [valueText, List.getElem?_eq_getElem hlt,
      List.getD_eq_getElem?_getD, List.getElem?_eq_getElem hlt]
    rfl
  have hflatten := flatten_valueTexts v vs
  rw [hlength] at hflatten
  rw [sceneLine, hmap]
  show Except.ok _ = _
  rw [hflatten]

/-- The text of the scene file. -/
def fileText (scenes : List Scene) : List Char :=
  (scenes.map fun scene => commaSeparated scene ++ ['\n']).flatten

theorem writeScene_eq {m : SceneManager} {text : List Char} (h : Full scene)
    (hfile : m.file = some text) :
    writeScene scene m = .ok ⟨⟩
      { m with file := some (text ++ (commaSeparated scene ++ ['\n'])) } := by
  rw [writeScene, sceneLine_eq h]
  show EStateM.Result.ok PUnit.unit { m with
    file := some (m.file.getD [] ++ (commaSeparated scene ++ ['\n'])) } = _
  rw [hfile, Option.getD_some]

theorem forM_writeScene_eq {m : SceneManager} {text : List Char}
    (h : ∀ s ∈ scenes, Full s) (hfile : m.file = some text) :
    scenes.forM writeScene m =
      .ok ⟨⟩ { m with file := some (text ++ fileText scenes) } := by
  induction scenes generalizing m text with
  | nil =>
      rw [fileText, List.map_nil, List.flatten_nil, List.append_nil, ← hfile]
      rfl
  | cons scene scenes ih =>
      have hround := writeScene_eq (h scene (List.mem_cons_self ..)) hfile
      rw [List.forM_eq_forM, List.forM_cons, bind_of_ok hround]
      refine (ih (fun s hs => h s (List.mem_cons_of_mem _ hs)) rfl).trans ?_
      rw [List.append_assoc]
      rfl

/-- What `updateSceneFile` does to a manager of full scenes. -/
theorem updateSceneFile_eq {m : SceneManager} (h : ∀ s ∈ m.scenes, Full s) :
    updateSceneFile m = .ok ⟨⟩ { m with file := some (fileText m.scenes) } :=
  forM_writeScene_eq (m := { m with file := some [] }) h rfl

/-! ## Reading -/

/-- A line without a line break is read up to its end. -/
theorem readLines_append {line : List Char} (hlf : '\n' ∉ line)
    (hcr : '\r' ∉ line) (start rest : List Char) :
    readLines start (line ++ '\n' :: rest) =
      (start.reverse ++ line) :: readLines [] rest := by
  induction line generalizing start with
  | nil =>
      rw [List.nil_append, List.append_nil]
      rfl
  | cons c line ih =>
      have hc : c ≠ '\n' ∧ c ≠ '\r' := by
        constructor
        · rintro rfl
          exact hlf (List.mem_cons_self ..)
        · rintro rfl
          exact hcr (List.mem_cons_self ..)
      have hread : readLines start (c :: (line ++ '\n' :: rest)) =
          readLines (c :: start) (line ++ '\n' :: rest) := by
        rw [readLines]
        · intro h
          exact hc.1 h
        · intro rest' h
          exact absurd h hc.2
        · intro h
          exact hc.2 h
      rw [List.cons_append, hread,
        ih (fun h => hlf (List.mem_cons_of_mem _ h))
          (fun h => hcr (List.mem_cons_of_mem _ h)),
        List.reverse_cons, List.append_assoc, List.singleton_append]

theorem mem_commaSeparated {c : Char} (h : c ∈ commaSeparated scene) :
    c = ',' ∨ c = '-' ∨ c.isDigit := by
  unfold commaSeparated at h
  induction scene with
  | nil => cases h
  | cons v vs ih =>
      cases vs with
      | nil =>
          rw [List.map_singleton, List.intercalate_singleton] at h
          exact Or.inr (mem_intText h)
      | cons w ws =>
          rw [List.map_cons, List.map_cons, List.intercalate_cons_cons,
            ← List.map_cons] at h
          rcases List.mem_append.mp h with h | h
          · rcases List.mem_append.mp h with h | h
            · exact Or.inr (mem_intText h)
            · exact Or.inl (List.mem_singleton.mp h)
          · exact ih h

theorem lf_not_mem_commaSeparated : '\n' ∉ commaSeparated scene := by
  intro h
  exact absurd (mem_commaSeparated h) (by decide)

theorem cr_not_mem_commaSeparated : '\r' ∉ commaSeparated scene := by
  intro h
  exact absurd (mem_commaSeparated h) (by decide)

theorem readLines_fileText (scenes : List Scene) :
    readLines [] (fileText scenes) = scenes.map commaSeparated := by
  induction scenes with
  | nil => rfl
  | cons scene scenes ih =>
      rw [fileText, List.map_cons, List.flatten_cons, List.append_assoc,
        List.singleton_append,
        readLines_append lf_not_mem_commaSeparated cr_not_mem_commaSeparated]
      show commaSeparated scene :: readLines [] (fileText scenes) = _
      rw [ih, List.map_cons]

/-- The parts of a line are the texts of its values. -/
theorem splitComma_commaSeparated (h : Full scene) :
    splitComma (commaSeparated scene) = scene.map intText := by
  obtain ⟨v, w, vs, rfl⟩ : ∃ v w vs, scene = v :: w :: vs := by
    rcases scene with _ | ⟨v, _ | ⟨w, vs⟩⟩
    · simp [Full] at h
    · simp [Full] at h
    · exact ⟨v, w, vs, rfl⟩
  have hcomma : ',' ∈ commaSeparated (v :: w :: vs) := by
    rw [commaSeparated, List.map_cons, List.map_cons,
      List.intercalate_cons_cons]
    simp
  have hsplit : (commaSeparated (v :: w :: vs)).splitOn ',' =
      (v :: w :: vs).map intText := by
    apply List.splitOn_intercalate
    · intro text htext hmem
      obtain ⟨u, -, rfl⟩ := List.mem_map.mp htext
      exact absurd (mem_intText hmem) (by decide)
    · exact List.cons_ne_nil _ _
  rw [splitComma, if_pos hcomma, hsplit, List.rdropWhile_eq_self_iff]
  intro hnil hlast
  rw [List.getLast_map, decide_eq_true_eq] at hlast
  exact intText_ne_nil _ hlast

theorem parseLine_commaSeparated (h : Full scene) :
    parseLine (commaSeparated scene) = .ok scene := by
  have hmap : (List.range 513).mapM
      (parseValue (splitComma (commaSeparated scene))) =
        .ok ((List.range 513).map fun i => scene.getD i 0) := by
    apply mapM_eq_ok
    intro i hi
    have hlt : i < scene.length := h ▸ List.mem_range.mp hi
    rw [parseValue, splitComma_commaSeparated h, List.getElem?_map,
      List.getElem?_eq_getElem hlt, Option.map_some,
      List.getD_eq_getElem?_getD, List.getElem?_eq_getElem hlt]
    exact parseInt_intText _
  rw [parseLine, hmap]
  refine congrArg Except.ok (List.ext_getElem ?_ ?_)
  · rw [List.length_map, List.length_range, h]
  · intro i hi hlt
    rw [List.getElem_map, List.getElem_range, List.getD_eq_getElem?_getD,
      List.getElem?_eq_getElem hlt, Option.getD_some]

theorem forM_readScene_eq {m : SceneManager} (h : ∀ s ∈ scenes, Full s) :
    (scenes.map commaSeparated).forM readScene m =
      .ok ⟨⟩ { m with
        scenes := m.scenes ++ scenes
        modCount := m.modCount + scenes.length } := by
  induction scenes generalizing m with
  | nil =>
      rw [List.append_nil]
      rfl
  | cons scene scenes ih =>
      have hround : readScene (commaSeparated scene) m = .ok ⟨⟩ { m with
          scenes := m.scenes ++ [scene]
          modCount := m.modCount + 1 } := by
        rw [readScene,
          parseLine_commaSeparated (h scene (List.mem_cons_self ..))]
        rfl
      rw [List.map_cons, List.forM_eq_forM, List.forM_cons, bind_of_ok hround]
      refine (ih fun s hs => h s (List.mem_cons_of_mem _ hs)).trans ?_
      simp only [List.append_assoc, List.singleton_append, List.length_cons,
        Nat.add_assoc, Nat.add_comm 1]

/-- A new manager over the file of a manager gets the scenes of the file. -/
theorem create_fileText {m : SceneManager} (h : ∀ s ∈ scenes, Full s)
    (hfile : m.file = some (fileText scenes)) (dmxVals : Scene) :
    create dmxVals m = .ok ⟨⟩
      { scenes := scenes
        currentScene := dmxVals
        currentIndex := -1
        modCount := m.modCount + scenes.length
        file := some (fileText scenes) } := by
  have hparse : parseSceneFile { m with
      scenes := []
      currentIndex := -1
      currentScene := dmxVals } = .ok ⟨⟩
      { scenes := scenes
        currentScene := dmxVals
        currentIndex := -1
        modCount := m.modCount + scenes.length
        file := m.file } := by
    have hlines :
        readLines [] (m.file.getD []) = scenes.map commaSeparated := by
      rw [hfile, Option.getD_some, readLines_fileText]
    show (readLines [] (m.file.getD [])).forM readScene _ = _
    rw [hlines, forM_readScene_eq h, List.nil_append]
  unfold create
  rw [bind_of_ok (x := modify _) rfl, bind_of_ok (x := get) rfl]
  dsimp only
  rw [hfile]
  rw [hfile] at hparse
  exact hparse

/-! ## Saved and read again -/

/-- All stored scenes have all channels. -/
def AllFull (m : SceneManager) : Prop := ∀ s ∈ m.scenes, Full s

/-- A new manager over the file that a manager has written holds the same
scenes, and either of the two writes the same file again. -/
theorem updateSceneFile_create {m : SceneManager} (h : AllFull m)
    (object : SceneManager) (dmxVals : Scene) :
    ∃ text saved opened,
      updateSceneFile m = .ok ⟨⟩ saved ∧
      saved.file = some text ∧
      create dmxVals { object with file := saved.file } = .ok ⟨⟩ opened ∧
      opened.scenes = m.scenes ∧
      (∃ again, updateSceneFile opened = .ok ⟨⟩ again ∧
        again.file = some text) ∧
      ∃ again, updateSceneFile saved = .ok ⟨⟩ again ∧
        again.file = some text := by
  refine ⟨fileText m.scenes, _, _, updateSceneFile_eq h, rfl,
    create_fileText h rfl dmxVals, rfl, ?_, ?_⟩
  · exact ⟨_, updateSceneFile_eq h, rfl⟩
  · exact ⟨_, updateSceneFile_eq h, rfl⟩

/-- A manager of two scenes, one of them with values that no channel takes. -/
def twoScenes : SceneManager where
  scenes := [List.replicate 513 255, List.replicate 513 (-2147483648)]
  currentScene := []
  currentIndex := -1
  modCount := 2
  file := none

theorem updateSceneFile_create_twoScenes :
    ∃ text saved opened,
      updateSceneFile twoScenes = .ok ⟨⟩ saved ∧
      saved.file = some text ∧
      create [] { twoScenes with file := saved.file } = .ok ⟨⟩ opened ∧
      opened.scenes = twoScenes.scenes ∧
      (∃ again, updateSceneFile opened = .ok ⟨⟩ again ∧
        again.file = some text) ∧
      ∃ again, updateSceneFile saved = .ok ⟨⟩ again ∧
        again.file = some text := by
  have hfull : AllFull twoScenes := by
    intro s hs
    rcases List.mem_pair.mp hs with rfl | rfl
    · exact List.length_replicate
    · exact List.length_replicate
  exact updateSceneFile_create hfull twoScenes []

/-! ## The file follows the scenes -/

/-- The scene file holds the stored scenes. -/
def Filed (m : SceneManager) : Prop :=
  AllFull m ∧ m.file = some (fileText m.scenes)

theorem triple_updateSceneFile (exc : Abrupt → SceneManager → Prop) :
    Triple AllFull updateSceneFile (fun _ => Filed) exc := by
  intro m h
  rw [updateSceneFile_eq h]
  exact ⟨h, rfl⟩

theorem triple_addScene (h : Full scene) (exc : Abrupt → SceneManager → Prop) :
    Triple AllFull (addScene scene) (fun _ => AllFull) exc :=
  Triple.modify fun m hfull s hs => by
    rcases List.mem_append.mp hs with hold | hnew
    · exact hfull s hold
    · rw [List.mem_singleton.mp hnew]
      exact h

/-- A deletion keeps the other scenes. -/
theorem triple_removeAt (index : ℤ) :
    Triple Filed (removeAt index) (fun _ => AllFull) (fun _ => Filed) :=
  Triple.get_bind fun _ _ => Triple.ite
    (fun _ => Triple.modify fun _ h s hs => h.1 s (List.mem_of_mem_eraseIdx hs))
    (fun _ => Triple.throw fun _ h => h)

theorem triple_deleteScene :
    Triple Filed deleteScene (fun _ => AllFull) (fun _ => Filed) := by
  have hreset : Triple AllFull (setIndex (-1)) (fun _ => AllFull)
      (fun _ => Filed) := Triple.modify fun _ h => h
  exact Triple.get_bind fun _ _ => Triple.ite
    (fun _ => Triple.get_bind fun _ _ =>
      (triple_removeAt _).bind fun _ => hreset)
    (fun _ => Triple.pure fun _ h => h.1)

theorem removeAt_of_range {m : SceneManager} {index : ℤ} (hpos : 0 ≤ index)
    (hlt : index < m.scenes.length) :
    removeAt index m = .ok ⟨⟩ { m with
      scenes := m.scenes.eraseIdx index.toNat
      modCount := m.modCount + 1 } := by
  unfold removeAt
  rw [bind_of_ok (x := get) rfl, if_pos ⟨hpos, hlt⟩]
  rfl

/-- Without scenes there is none to delete. -/
theorem deleteSceneAt_of_nil {m : SceneManager} (h : m.scenes = [])
    (index : ℤ) : deleteSceneAt index m = .ok ⟨⟩ m := by
  have hrange : index ≥ (m.scenes.length : ℤ) ∨ index < 0 := by
    rw [h]
    exact (Int.lt_or_le index 0).symm
  unfold deleteSceneAt
  refine (bind_of_ok rfl).trans ?_
  rw [if_pos hrange]
  rfl

/-- The deletion of the last scene does not touch the file. -/
theorem deleteSceneAt_last {m : SceneManager} (h : m.scenes ≠ []) :
    deleteSceneAt (m.scenes.length - 1) m =
      .ok ⟨⟩ { m with
        scenes := m.scenes.eraseIdx (m.scenes.length - 1)
        modCount := m.modCount + 1 } := by
  have hpos := List.length_pos_of_ne_nil h
  have hindex : (m.scenes.length : ℤ) - 1 = (m.scenes.length - 1 : ℕ) := by
    omega
  rw [hindex]
  unfold deleteSceneAt
  refine (bind_of_ok rfl).trans ?_
  rw [if_neg (by omega)]
  exact removeAt_of_range (by omega) (by omega)

/-! ## What any file gives -/

theorem length_of_mapM_eq_ok {α β ε : Type} {f : α → Except ε β}
    {xs : List α} {ys : List β} (h : xs.mapM f = .ok ys) :
    ys.length = xs.length := by
  induction xs generalizing ys with
  | nil =>
      cases h
      rfl
  | cons x xs ih =>
      rw [List.mapM_cons] at h
      cases hx : f x with
      | error e =>
          rw [hx] at h
          cases h
      | ok y =>
          cases hxs : xs.mapM f with
          | error e =>
              rw [hx, hxs] at h
              cases h
          | ok zs =>
              rw [hx, hxs] at h
              cases h
              exact congrArg (· + 1) (ih hxs)

theorem full_of_parseLine_eq_ok {line : List Char}
    (h : parseLine line = .ok scene) : Full scene :=
  (length_of_mapM_eq_ok h).trans List.length_range

attribute [local irreducible] parseLine

theorem triple_readScene (line : List Char) :
    Triple AllFull (readScene line) (fun _ => AllFull)
      (fun _ _ => True) := by
  unfold readScene
  cases hline : parseLine line with
  | error e => exact Triple.throw fun _ _ => trivial
  | ok scene => exact triple_addScene (full_of_parseLine_eq_ok hline) _

theorem triple_parseSceneFile :
    Triple AllFull parseSceneFile (fun _ => AllFull) (fun _ _ => True) := by
  unfold parseSceneFile
  refine Triple.get_bind fun m _ => ?_
  exact Triple.forM fun line _ => triple_readScene line

/-- All scenes that a new manager reads have all channels. -/
theorem triple_create (dmxVals : Scene) :
    Triple (fun _ => True) (create dmxVals) (fun _ => AllFull)
      (fun _ _ => True) := by
  have hreset : Triple (fun _ => True)
      (modify fun m : SceneManager =>
        { m with
          scenes := []
          currentIndex := -1
          currentScene := dmxVals })
      (fun _ => AllFull) (fun _ _ => True) :=
    Triple.modify fun _ _ s hs => (List.not_mem_nil hs).elim
  refine hreset.bind fun _ => Triple.get_bind fun m _ => ?_
  cases m.file with
  | none => exact Triple.modify fun _ h => h
  | some text => exact triple_parseSceneFile

end ChuckLight.SceneManager
