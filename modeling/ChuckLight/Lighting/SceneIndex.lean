import ChuckLight.Lighting.SceneCycle
import ChuckLight.Support.Runs

/-!
# Runs of the scene manager

The public methods share the index and the list of scenes.  `deleteScene(index)`
removes a scene and leaves the index as it is: the index then designates the
scene after the one that it designated, or no scene, unless the deleted scene
comes later in the list.
-/

namespace ChuckLight.SceneManager

open Java

/-- The calls of the public methods that change the manager.  `addScene` stands
for both of its overloads. -/
inductive Op where
  | addScene (dmxVals : Scene)
  | deleteScene
  | deleteSceneAt (index : ℤ)
  | getNextScene
  | getLastScene
  | setCurrentScene (dmxVals : Scene)

namespace Op

def run : Op → Run SceneManager Unit
  | addScene dmxVals => SceneManager.addScene dmxVals
  | deleteScene => SceneManager.deleteScene
  | deleteSceneAt index => SceneManager.deleteSceneAt index
  | getNextScene => do let _ ← SceneManager.getNextScene
  | getLastScene => do let _ ← SceneManager.getLastScene
  | setCurrentScene dmxVals => SceneManager.setCurrentScene dmxVals

/-- The scenes that the call brings have all channels. -/
def BringsFull : Op → Prop
  | addScene dmxVals => Full dmxVals
  | setCurrentScene dmxVals => Full dmxVals
  | _ => True

end Op

/-- The manager after a call. -/
def step (m : SceneManager) (op : Op) : SceneManager := stateAfter op.run m

/-- Where the scene at `index` is after another one has been removed. -/
def shifted (removed index : ℤ) : ℤ :=
  if removed < index then index - 1 else index

/-- The index designates the same scene as before if a call of
`deleteScene(index)` removes another one. -/
def KeepsDesignated (m : SceneManager) : Op → Prop
  | .deleteSceneAt removed =>
      0 ≤ removed → removed < m.scenes.length → removed ≠ m.currentIndex →
        m.currentIndex ≠ -1 →
          (step m (.deleteSceneAt removed)).currentIndex =
            shifted removed m.currentIndex
  | _ => True

/-- The call throws nothing, leaves the index in range and keeps the scene that
it designates. -/
structure Orderly (m : SceneManager) (op : Op) : Prop where
  returns : ∃ r, op.run m = .ok r (step m op)
  inRange : InRange (step m op)
  keeps : KeepsDesignated m op

/-- A scene is removed only after the current one, or at the index of the
current one if another scene follows. -/
def RemovesLater (m : SceneManager) : Op → Prop
  | .deleteSceneAt removed =>
      0 ≤ removed → removed < m.scenes.length →
        m.currentIndex < removed ∨
          m.currentIndex = removed ∧ removed + 1 < m.scenes.length
  | _ => True

instance (m : SceneManager) (op : Op) : Decidable (RemovesLater m op) := by
  cases op with
  | deleteSceneAt removed => exact inferInstanceAs (Decidable (_ → _))
  | _ => exact inferInstanceAs (Decidable True)

variable {m : SceneManager} {op : Op} {scene : Scene}

/-- The scene at `shifted removed index` is the one that was at `index`. -/
theorem getElem?_eraseIdx_shifted (scenes : List Scene) {removed index : ℤ}
    (hremoved : 0 ≤ removed) (hindex : 0 ≤ index) (hne : removed ≠ index) :
    (scenes.eraseIdx removed.toNat)[(shifted removed index).toNat]? =
      scenes[index.toNat]? := by
  unfold shifted
  rw [List.getElem?_eraseIdx]
  split_ifs with hlt hbelow hbelow
  · omega
  · exact congrArg (scenes[·]?) (by omega)
  · rfl
  · omega

/-! ## One call -/

theorem step_of_ok {m' : SceneManager} {r : Unit} (h : op.run m = .ok r m') :
    step m op = m' := by
  unfold step stateAfter
  rw [h]

/-- A call other than `deleteScene(index)`. -/
theorem orderly_of_ok {m' : SceneManager} {r : Unit}
    (h : op.run m = .ok r m') (hrange : InRange m')
    (hkeeps : KeepsDesignated m op) : Orderly m op := by
  have hstep := step_of_ok h
  exact ⟨⟨r, by rw [hstep, h]⟩, by rwa [hstep], hkeeps⟩

theorem InRange.moveTo {p : ℕ} (hp : p < m.stopCount) :
    InRange (m.moveTo p) := by
  unfold stopCount at hp
  constructor
  · show -1 ≤ (p : ℤ) - 1
    omega
  · show (p : ℤ) - 1 < m.scenes.length
    omega

theorem orderly_addScene (h : InRange m) : Orderly m (.addScene scene) := by
  refine orderly_of_ok (r := ⟨⟩) rfl ⟨h.neg_one_le, ?_⟩ trivial
  show m.currentIndex < (m.scenes ++ [scene]).length
  have hlt := h.lt
  rw [List.length_append]
  push_cast
  omega

theorem orderly_setCurrentScene : Orderly m (.setCurrentScene scene) := by
  refine orderly_of_ok (r := ⟨⟩) rfl ⟨Int.le_refl _, ?_⟩ trivial
  show (-1 : ℤ) < m.scenes.length
  omega

theorem orderly_getNextScene (h : InRange m) : Orderly m .getNextScene := by
  have hnext := getNextScene_moveTo h.position_lt
  rw [h.moveTo_position] at hnext
  exact orderly_of_ok (r := ⟨⟩) (bind_of_ok hnext)
    (.moveTo (Carousel.next_lt h.position_lt)) trivial

theorem orderly_getLastScene (h : InRange m) : Orderly m .getLastScene := by
  have hlast := getLastScene_moveTo h.position_lt
  rw [h.moveTo_position] at hlast
  exact orderly_of_ok (r := ⟨⟩) (bind_of_ok hlast)
    (.moveTo (Carousel.last_lt h.position_lt)) trivial

theorem orderly_deleteScene (h : InRange m) : Orderly m .deleteScene := by
  by_cases hindex : m.currentIndex = -1
  · have hrun : Op.deleteScene.run m = .ok ⟨⟩ m := by
      show deleteScene m = _
      unfold deleteScene
      rw [bind_of_ok (x := get) rfl, if_neg (not_not.mpr hindex)]
      rfl
    exact orderly_of_ok hrun h trivial
  · have hle := h.neg_one_le
    have hremove := removeAt_of_range (by omega) h.lt
    have hrun : Op.deleteScene.run m = .ok ⟨⟩ { m with
        scenes := m.scenes.eraseIdx m.currentIndex.toNat
        modCount := m.modCount + 1
        currentIndex := -1 } := by
      show deleteScene m = _
      unfold deleteScene
      rw [bind_of_ok (x := get) rfl, if_pos hindex, bind_of_ok (x := get) rfl,
        bind_of_ok hremove]
      rfl
    refine orderly_of_ok hrun ⟨Int.le_refl _, ?_⟩ trivial
    show (-1 : ℤ) < (m.scenes.eraseIdx m.currentIndex.toNat).length
    omega

theorem orderly_deleteSceneAt_iff (h : InRange m) (removed : ℤ) :
    Orderly m (.deleteSceneAt removed) ↔
      RemovesLater m (.deleteSceneAt removed) := by
  have hle := h.neg_one_le
  have hlt := h.lt
  by_cases hrange : 0 ≤ removed ∧ removed < m.scenes.length
  · obtain ⟨hpos, hstored⟩ := hrange
    have hrun : (Op.deleteSceneAt removed).run m = .ok ⟨⟩ { m with
        scenes := m.scenes.eraseIdx removed.toNat
        modCount := m.modCount + 1 } := by
      show deleteSceneAt removed m = _
      unfold deleteSceneAt
      rw [bind_of_ok (x := get) rfl, if_neg (by omega)]
      exact removeAt_of_range hpos hstored
    have hstep := step_of_ok hrun
    have hlength : ((step m (.deleteSceneAt removed)).scenes.length : ℤ) =
        m.scenes.length - 1 := by
      rw [hstep]
      show ((m.scenes.eraseIdx removed.toNat).length : ℤ) = _
      rw [List.length_eraseIdx_of_lt (by omega)]
      omega
    have hindex : (step m (.deleteSceneAt removed)).currentIndex =
        m.currentIndex := by rw [hstep]
    constructor
    · intro horderly _ _
      have hafter := horderly.inRange.lt
      have hkeeps := horderly.keeps hpos hstored
      rw [hlength, hindex] at hafter
      rw [hindex] at hkeeps
      unfold shifted at hkeeps
      by_cases hbefore : removed < m.currentIndex
      · have hsame := hkeeps (by omega) (by omega)
        rw [if_pos hbefore] at hsame
        omega
      · omega
    · intro hlater
      have hcases := hlater hpos hstored
      refine orderly_of_ok hrun ?_ ?_
      · rw [← hstep]
        exact ⟨by omega, by omega⟩
      · intro _ _ hne hlive
        rw [hindex, shifted, if_neg (by omega)]
  · have hrun : (Op.deleteSceneAt removed).run m = .ok ⟨⟩ m := by
      show deleteSceneAt removed m = _
      unfold deleteSceneAt
      rw [bind_of_ok (x := get) rfl, if_pos (by omega)]
      rfl
    constructor
    · intro _ hpos hstored
      exact absurd ⟨hpos, hstored⟩ hrange
    · intro _
      exact orderly_of_ok hrun h fun hpos hstored =>
        absurd ⟨hpos, hstored⟩ hrange

theorem orderly_iff (h : InRange m) (op : Op) :
    Orderly m op ↔ RemovesLater m op := by
  cases op with
  | addScene scene => exact iff_of_true (orderly_addScene h) trivial
  | deleteScene => exact iff_of_true (orderly_deleteScene h) trivial
  | deleteSceneAt removed => exact orderly_deleteSceneAt_iff h removed
  | getNextScene => exact iff_of_true (orderly_getNextScene h) trivial
  | getLastScene => exact iff_of_true (orderly_getLastScene h) trivial
  | setCurrentScene scene => exact iff_of_true orderly_setCurrentScene trivial

/-! ## Runs of a new manager -/

theorem inRange_create (dmxVals : Scene) :
    Triple (fun _ => True) (create dmxVals) (fun _ => InRange)
      (fun _ _ => True) := by
  have hlive : Triple (fun _ => True) (create dmxVals)
      (fun _ m => m.currentIndex = -1) (fun _ _ => True) := by
    have hreset : Triple (fun _ => True)
        (modify fun m : SceneManager =>
          { m with
            scenes := []
            currentIndex := -1
            currentScene := dmxVals })
        (fun _ m => m.currentIndex = -1) (fun _ _ => True) :=
      Triple.modify fun _ _ => rfl
    refine hreset.bind fun _ => Triple.get_bind fun m _ => ?_
    cases m.file with
    | none => exact Triple.modify fun _ h => h
    | some text =>
        refine Triple.get_bind fun m _ => Triple.forM fun line _ => ?_
        unfold readScene
        cases parseLine line with
        | error e => exact Triple.throw fun _ _ => trivial
        | ok scene => exact Triple.modify fun _ h => h
  refine hlive.mono fun _ m hindex => ⟨by omega, ?_⟩
  rw [hindex]
  omega

/-- In a run of a new manager every call is orderly if and only if scenes are
removed only after the current one, or at its index when another follows. -/
theorem orderly_run_iff {object : SceneManager} {dmxVals : Scene}
    (h : create dmxVals object = .ok ⟨⟩ m) (ops : List Op) :
    Runs.AllSteps step Orderly m ops ↔
      Runs.AllSteps step RemovesLater m ops :=
  Runs.allSteps_congr (fun _ _ _ horderly => horderly.inRange)
    (fun _ op hrange => orderly_iff hrange op)
    ((inRange_create dmxVals).of_ok trivial h)

/-- A dark scene. -/
def zeros : Scene := List.replicate 513 0

/-- A new manager without a scene file. -/
def fresh : SceneManager where
  scenes := []
  currentScene := zeros
  currentIndex := -1
  modCount := 0
  file := some []

/-- The last of two scenes is recalled and deleted. -/
def deletesCurrent : List Op :=
  [.addScene zeros, .addScene zeros, .getLastScene, .deleteScene]

theorem orderly_run_deletesCurrent :
    Runs.AllSteps step Orderly fresh deletesCurrent ↔
      Runs.AllSteps step RemovesLater fresh deletesCurrent :=
  have hcreate : create zeros { fresh with file := none } = .ok ⟨⟩ fresh := rfl
  orderly_run_iff hcreate deletesCurrent

/-- The last of three scenes is recalled, and then the first one is deleted
twice. -/
def deletesFirst : List Op :=
  [.addScene zeros, .addScene zeros, .addScene zeros, .getLastScene,
    .deleteSceneAt 0, .deleteSceneAt 0]

/-- The deletions are not orderly, and the next call throws. -/
theorem not_orderly_deletesFirst :
    create zeros { fresh with file := none } = .ok ⟨⟩ fresh ∧
      Full zeros ∧ (∀ op ∈ deletesFirst, op.BringsFull) ∧
      ¬ Runs.AllSteps step Orderly fresh deletesFirst ∧
      ∃ after, Op.getLastScene.run (deletesFirst.foldl step fresh) =
        .error (.thrown (.indexOutOfBoundsException "get")) after := by
  have hfull : Full zeros := List.length_replicate
  have hrange : InRange fresh := ⟨by decide, by decide⟩
  have hiff : Runs.AllSteps step Orderly fresh deletesFirst ↔
      Runs.AllSteps step RemovesLater fresh deletesFirst :=
    Runs.allSteps_congr (fun _ _ _ horderly => Orderly.inRange horderly)
      (fun _ op hrange => orderly_iff hrange op) hrange
  refine ⟨rfl, hfull, ?_, ?_, ⟨_, rfl⟩⟩
  · intro op hop
    simp only [deletesFirst, List.mem_cons, List.not_mem_nil, or_false] at hop
    rcases hop with rfl | rfl | rfl | rfl | rfl | rfl <;>
      first | exact hfull | trivial
  · rw [hiff]
    decide

end ChuckLight.SceneManager
