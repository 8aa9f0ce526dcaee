import ChuckLight.Lighting.SceneCycle

/-!
# The index of the scene manager

The index is -1 for the live scene or that of a stored scene, and all scenes
have all channels.  No method of the manager throws anything as long as this
holds, and every method keeps it.
-/

namespace ChuckLight.SceneManager

open Java

/-- A scene that can be shown. -/
structure Playable (scene : Scene) : Prop where
  full : Full scene
  bytes : ∀ v ∈ scene, IsByte v

/-- The scenes have all channels, the live scene can be shown, and the index
is in range. -/
structure InOrder (m : SceneManager) : Prop where
  full : AllFull m
  live : Playable m.currentScene
  neg_one_le : -1 ≤ m.currentIndex
  lt : m.currentIndex < m.scenes.length

variable {m : SceneManager} {scene : Scene}

theorem neg_one_lt_length (scenes : List Scene) :
    (-1 : ℤ) < scenes.length := by omega

/-! ## Changing the scenes -/

theorem inOrder_setCurrentScene (hscene : Playable scene)
    (exc : Abrupt → SceneManager → Prop) :
    Triple InOrder (setCurrentScene scene) (fun _ => InOrder) exc := by
  exact Triple.modify fun m h =>
    ⟨h.full, hscene, Int.le_refl _, neg_one_lt_length _⟩

theorem inOrder_addScene (hscene : Full scene)
    (exc : Abrupt → SceneManager → Prop) :
    Triple InOrder (addScene scene) (fun _ => InOrder) exc := by
  refine Triple.modify fun m h => ⟨fun s hs => ?_, h.live, h.neg_one_le, ?_⟩
  · rcases List.mem_append.mp hs with hold | hnew
    · exact h.full s hold
    · rw [List.mem_singleton.mp hnew]
      exact hscene
  · have hlt := h.lt
    rw [List.length_append, List.length_singleton]
    push_cast
    omega

theorem inOrder_updateSceneFile (exc : Abrupt → SceneManager → Prop) :
    Triple InOrder updateSceneFile (fun _ => InOrder) exc := by
  intro m h
  rw [updateSceneFile_eq h.full]
  exact ⟨h.full, h.live, h.neg_one_le, h.lt⟩

/-- The scene at the index is deleted, and the live scene is current. -/
theorem inOrder_deleteScene (exc : Abrupt → SceneManager → Prop) :
    Triple InOrder deleteScene (fun _ => InOrder) exc := by
  intro m h
  unfold deleteScene
  rw [bind_of_ok (x := get) rfl]
  by_cases hindex : m.currentIndex = -1
  · rw [if_neg (not_not.mpr hindex)]
    exact h
  · have hrange : 0 ≤ m.currentIndex ∧ m.currentIndex < m.scenes.length := by
      have hle := h.neg_one_le
      exact ⟨by omega, h.lt⟩
    have hremove := removeAt_of_range hrange.1 hrange.2
    rw [if_pos hindex, bind_of_ok (x := get) rfl, bind_of_ok hremove]
    exact ⟨fun s hs => h.full s (List.mem_of_mem_eraseIdx hs), h.live,
      Int.le_refl _, neg_one_lt_length _⟩

/-- The last scene is deleted while the live scene is current. -/
theorem inOrder_deleteLast (hindex : m.currentIndex = -1)
    (exc : Abrupt → SceneManager → Prop) :
    Triple (fun m' => m' = m ∧ InOrder m)
      (deleteSceneAt (m.scenes.length - 1)) (fun _ => InOrder) exc := by
  rintro _ ⟨rfl, h⟩
  rename SceneManager => m
  by_cases hscenes : m.scenes = []
  · rw [deleteSceneAt_of_nil hscenes]
    exact h
  · rw [deleteSceneAt_last hscenes]
    refine ⟨fun s hs => h.full s (List.mem_of_mem_eraseIdx hs), h.live,
      h.neg_one_le, ?_⟩
    show m.currentIndex < _
    rw [hindex]
    exact neg_one_lt_length _

/-! ## Recalling a scene -/

/-- The stored scene that comes next, if the live scene does not. -/
def nextScene? (m : SceneManager) : Option Scene :=
  m.scenes[(m.currentIndex + 1).toNat]?

/-- The stored scene that came last, if the live scene did not. -/
def lastScene? (m : SceneManager) : Option Scene :=
  if m.currentIndex = -1 then m.scenes.getLast?
  else if m.currentIndex = 0 then none
  else m.scenes[(m.currentIndex - 1).toNat]?

/-- A stored scene is recalled, or else the live scene. -/
structure Recalls (x : Run SceneManager Scene)
    (stored : SceneManager → Option Scene) : Prop where
  full : ∀ m scene, InOrder m → stored m = some scene → Full scene
  result : ∀ m, InOrder m → ∃ m', InOrder m' ∧
    x m = .ok ((stored m).getD m.currentScene) m'

/-- The scene that is recalled has all channels, and bytes from address 1 on if
the stored one has. -/
theorem Recalls.full_and_bytes {x : Run SceneManager Scene}
    {stored : SceneManager → Option Scene} (h : Recalls x stored)
    (hm : InOrder m)
    (hbytes : ∀ scene, stored m = some scene → ∀ v ∈ scene.tail, IsByte v) :
    Full ((stored m).getD m.currentScene) ∧
      ∀ v ∈ ((stored m).getD m.currentScene).tail, IsByte v := by
  cases hstored : stored m with
  | none =>
      exact ⟨hm.live.full, fun v hv =>
        hm.live.bytes v (List.mem_of_mem_tail hv)⟩
  | some scene =>
      exact ⟨h.full m scene hm hstored, hbytes scene hstored⟩

theorem InOrder.setIndex (h : InOrder m) {index : ℤ} (hle : -1 ≤ index)
    (hlt : index < m.scenes.length) :
    InOrder { m with currentIndex := index } :=
  ⟨h.full, h.live, hle, hlt⟩

theorem InOrder.inRange (h : InOrder m) : InRange m :=
  ⟨h.neg_one_le, h.lt⟩

/-- The index at a position of the cycle. -/
theorem InOrder.moveTo (h : InOrder m) {p : ℕ} (hp : p < m.stopCount) :
    InOrder (m.moveTo p) := by
  unfold stopCount at hp
  exact h.setIndex (by omega) (by omega)

theorem nextScene?_getD (m : SceneManager) :
    (nextScene? m).getD m.currentScene =
      m.sceneAt (Carousel.next m.stopCount m.position) := by
  unfold nextScene? Carousel.next stopCount
  by_cases hlt : m.position < m.scenes.length
  · rw [if_pos (Nat.succ_lt_succ hlt)]
    exact congrArg (Option.getD · _) (sceneAt_succ hlt)
  · rw [if_neg (by omega)]
    exact congrArg (Option.getD · _)
      (List.getElem?_eq_none (Nat.le_of_not_lt hlt))

theorem lastScene?_getD (h : InRange m) :
    (lastScene? m).getD m.currentScene =
      m.sceneAt (Carousel.last m.stopCount m.position) := by
  have hlt := h.lt
  have hle := h.neg_one_le
  unfold lastScene? Carousel.last stopCount position
  by_cases hlive : m.currentIndex = -1
  · rw [if_pos hlive, if_pos (by omega), List.getLast?_eq_getElem?]
    cases hcount : m.scenes.length with
    | zero =>
        have hnil : m.scenes = [] := List.eq_nil_of_length_eq_zero hcount
        rw [hnil]
        rfl
    | succ k =>
        have hscene : m.scenes[k]? = some (m.sceneAt (k + 1)) :=
          sceneAt_succ (by omega)
        rw [Nat.add_sub_cancel, hscene]
        rfl
  · have hposition : (m.currentIndex + 1).toNat ≠ 0 := by omega
    rw [if_neg hlive, if_neg hposition]
    by_cases hzero : m.currentIndex = 0
    · rw [if_pos hzero, hzero]
      rfl
    · obtain ⟨k, hk⟩ : ∃ k : ℕ, m.currentIndex = k + 1 :=
        ⟨(m.currentIndex - 1).toNat, by omega⟩
      have hscene : m.scenes[(m.currentIndex - 1).toNat]? =
          some (m.sceneAt (k + 1)) := by
        have hnat : (m.currentIndex - 1).toNat = k := by omega
        rw [hnat]
        exact sceneAt_succ (by omega)
      have hprev : (m.currentIndex + 1).toNat - 1 = k + 1 := by omega
      rw [if_neg hzero, hscene, hprev]
      rfl

theorem recalls_getNextScene : Recalls getNextScene nextScene? := by
  refine ⟨fun m scene h hscene => h.full scene (List.mem_of_getElem? hscene),
    fun m h => ?_⟩
  have hlt := h.inRange.position_lt
  have hnext := getNextScene_moveTo hlt
  rw [h.inRange.moveTo_position, ← nextScene?_getD] at hnext
  exact ⟨_, h.moveTo (Carousel.next_lt hlt), hnext⟩

theorem recalls_getLastScene : Recalls getLastScene lastScene? := by
  refine ⟨fun m scene h hscene => h.full scene ?_, fun m h => ?_⟩
  · unfold lastScene? at hscene
    split_ifs at hscene
    · exact List.mem_of_getLast? hscene
    · exact List.mem_of_getElem? hscene
  have hlt := h.inRange.position_lt
  have hlast := getLastScene_moveTo hlt
  rw [h.inRange.moveTo_position, ← lastScene?_getD h.inRange] at hlast
  exact ⟨_, h.moveTo (Carousel.last_lt hlt), hlast⟩

/-! ## A new manager -/

theorem inOrder_create {dmxVals : Scene} (hlive : Playable dmxVals) :
    Triple (fun _ => True) (create dmxVals) (fun _ => InOrder)
      (fun _ _ => True) := by
  have hreset : Triple (fun _ => True)
      (modify fun m : SceneManager =>
        { m with
          scenes := []
          currentIndex := -1
          currentScene := dmxVals })
      (fun _ => InOrder) (fun _ _ => True) :=
    Triple.modify fun _ _ => ⟨fun s hs => (List.not_mem_nil hs).elim, hlive,
      Int.le_refl _, neg_one_lt_length _⟩
  refine hreset.bind fun _ => Triple.get_bind fun m _ => ?_
  cases m.file with
  | none =>
      exact Triple.modify fun _ h => ⟨h.full, h.live, h.neg_one_le, h.lt⟩
  | some text =>
      refine Triple.get_bind fun m _ => Triple.forM fun line _ => ?_
      unfold readScene
      cases hline : parseLine line with
      | error e => exact Triple.throw fun _ _ => trivial
      | ok scene =>
          exact inOrder_addScene (full_of_parseLine_eq_ok hline) _

end ChuckLight.SceneManager
