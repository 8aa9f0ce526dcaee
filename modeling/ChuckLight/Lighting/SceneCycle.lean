import ChuckLight.Lighting.SceneFile
import ChuckLight.Support.Carousel

/-!
# Scene navigation

The live scene and the stored scenes lie on a cycle, and the index of the
manager is a position on it.  `getNextScene` and `getLastScene` go one step on
or back.
-/

namespace ChuckLight.SceneManager

open Java

/-- The index is that of the live scene or of a stored one. -/
structure InRange (m : SceneManager) : Prop where
  neg_one_le : -1 ≤ m.currentIndex
  lt : m.currentIndex < m.scenes.length

/-- The scene that the index designates. -/
def designated (m : SceneManager) : Option Scene :=
  if m.currentIndex = -1 then some m.currentScene
  else m.scenes[m.currentIndex.toNat]?

/-! ## Positions -/

/-- The number of positions on the cycle. -/
def stopCount (m : SceneManager) : ℕ := m.scenes.length + 1

/-- The scene at a position, the live one first. -/
def sceneAt (m : SceneManager) (p : ℕ) : Scene :=
  (m.currentScene :: m.scenes).getD p []

/-- The manager with the index at a position. -/
def moveTo (m : SceneManager) (p : ℕ) : SceneManager :=
  { m with currentIndex := p - 1 }

/-- The position of the index. -/
def position (m : SceneManager) : ℕ := (m.currentIndex + 1).toNat

variable {m : SceneManager} {p : ℕ}

theorem InRange.position_lt (h : InRange m) : m.position < m.stopCount := by
  have hlt := h.lt
  unfold position stopCount
  omega

theorem InRange.moveTo_position (h : InRange m) :
    m.moveTo m.position = m := by
  have hle := h.neg_one_le
  have hindex : ((m.position : ℕ) : ℤ) - 1 = m.currentIndex := by
    unfold position
    omega
  unfold moveTo
  rw [hindex]

theorem sceneAt_succ (h : p < m.scenes.length) :
    m.scenes[p]? = some (m.sceneAt (p + 1)) := by
  unfold sceneAt
  rw [List.getD_cons_succ, List.getD_eq_getElem?_getD,
    List.getElem?_eq_getElem h, Option.getD_some]

theorem InRange.designated_eq (h : InRange m) :
    m.designated = some (m.sceneAt m.position) := by
  have hle := h.neg_one_le
  have hlt := h.lt
  unfold designated
  by_cases hindex : m.currentIndex = -1
  · have hposition : m.position = 0 := by
      unfold position
      omega
    rw [if_pos hindex, hposition]
    rfl
  · have hposition : m.position = m.currentIndex.toNat + 1 := by
      unfold position
      omega
    rw [if_neg hindex, hposition]
    exact sceneAt_succ (by omega)

/-! ## One step -/

theorem getScene_succ (h : p < m.scenes.length) {index : ℤ}
    (hindex : m.currentIndex = index) (hp : index = p) :
    getScene index m = .ok (m.sceneAt (p + 1)) (m.moveTo (p + 1)) := by
  have hmove : m.moveTo (p + 1) = m := by
    have hback : ((p + 1 : ℕ) : ℤ) - 1 = m.currentIndex := by omega
    unfold moveTo
    rw [hback]
  have hnat : index.toNat = p := by omega
  have hpos : 0 ≤ index := by omega
  unfold getScene
  rw [bind_of_ok (x := get) rfl, if_pos hpos, hnat, sceneAt_succ h, hmove]
  rfl

theorem moveTo_index_add_one : (m.moveTo p).currentIndex + 1 = p := by
  show (p : ℤ) - 1 + 1 = p
  omega

/-- The live scene, shown with the index at its position. -/
theorem showLive_eq (index : ℤ) :
    (do
      setIndex (-1)
      getCurrentScene : Run SceneManager Scene)
        { m with currentIndex := index } = .ok (m.sceneAt 0) (m.moveTo 0) :=
  rfl

theorem getNextScene_moveTo (h : p < m.stopCount) :
    getNextScene (m.moveTo p) =
      .ok (m.sceneAt (Carousel.next m.stopCount p))
        (m.moveTo (Carousel.next m.stopCount p)) := by
  unfold stopCount at h ⊢
  unfold getNextScene Carousel.next
  rw [bind_of_ok (x := get) rfl, bind_of_ok (x := setIndex _) rfl,
    bind_of_ok (x := get) rfl, moveTo_index_add_one]
  show (if (p : ℤ) ≥ m.scenes.length ∨ m.scenes.length = 0 then do
      setIndex (-1)
      getCurrentScene
    else getScene p : Run SceneManager Scene) { m with currentIndex := p } = _
  by_cases hlt : p < m.scenes.length
  · rw [if_neg (by omega), if_pos (Nat.succ_lt_succ hlt)]
    exact getScene_succ (m := { m with currentIndex := p }) hlt rfl rfl
  · rw [if_pos (by omega), if_neg (by omega)]
    exact showLive_eq _

theorem getLastScene_moveTo (h : p < m.stopCount) :
    getLastScene (m.moveTo p) =
      .ok (m.sceneAt (Carousel.last m.stopCount p))
        (m.moveTo (Carousel.last m.stopCount p)) := by
  unfold stopCount at h ⊢
  unfold getLastScene Carousel.last
  rw [bind_of_ok (x := get) rfl]
  show (if (p : ℤ) - 1 = -1 ∧ m.scenes.length ≠ 0 then do
      setIndex (m.scenes.length - 1)
      getScene (m.scenes.length - 1)
    else do
      setIndex ((← get).currentIndex - 1)
      let m ← get
      if m.currentIndex < 0 ∨ m.scenes.length = 0 then
        setIndex (-1)
        getCurrentScene
      else getScene m.currentIndex : Run SceneManager Scene)
      (m.moveTo p) = _
  by_cases hwrap : p = 0 ∧ m.scenes.length ≠ 0
  · obtain ⟨rfl, hpos⟩ := hwrap
    obtain ⟨k, hk⟩ := Nat.exists_eq_succ_of_ne_zero hpos
    have hlast : m.scenes.length + 1 - 1 = k + 1 := by omega
    have hlt : k < m.scenes.length := by omega
    rw [if_pos ⟨by omega, hpos⟩, if_pos rfl, hlast,
      bind_of_ok (x := setIndex _) rfl]
    exact getScene_succ (m := { m with
      currentIndex := (m.scenes.length : ℤ) - 1 }) hlt rfl (by omega)
  · rw [if_neg (by omega), bind_of_ok (x := get) rfl,
      bind_of_ok (x := setIndex _) rfl, bind_of_ok (x := get) rfl]
    show (if (p : ℤ) - 1 - 1 < 0 ∨ m.scenes.length = 0 then do
        setIndex (-1)
        getCurrentScene
      else getScene ((p : ℤ) - 1 - 1) : Run SceneManager Scene)
        { m with currentIndex := (p : ℤ) - 1 - 1 } = _
    by_cases hlive : p ≤ 1
    · have hzero : (if p = 0 then m.scenes.length + 1 - 1 else p - 1) = 0 := by
        split_ifs <;> omega
      rw [if_pos (by omega), hzero]
      exact showLive_eq _
    · obtain ⟨k, rfl⟩ : ∃ k, p = k + 2 := ⟨p - 2, by omega⟩
      have hlt : k < m.scenes.length := by omega
      rw [if_neg (by omega), if_neg (by omega)]
      exact getScene_succ (m := { m with
        currentIndex := ((k + 2 : ℕ) : ℤ) - 1 - 1 }) hlt rfl (by omega)

/-! ## There and back -/

/-- After `x` has moved the index, `y` moves it back and returns the scene that
was designated before. -/
def UndoneBy (x y : Run SceneManager Scene) (m : SceneManager) : Prop :=
  ∃ scene moved shown, x m = .ok scene moved ∧ m.designated = some shown ∧
    y moved = .ok shown m

theorem undoneBy_getLastScene (h : InRange m) :
    UndoneBy getNextScene getLastScene m := by
  have hlt := h.position_lt
  have hnext := getNextScene_moveTo hlt
  have hlast := getLastScene_moveTo (Carousel.next_lt hlt)
  rw [Carousel.last_next hlt, h.moveTo_position] at hlast
  rw [h.moveTo_position] at hnext
  exact ⟨_, _, _, hnext, h.designated_eq, hlast⟩

theorem undoneBy_getNextScene (h : InRange m) :
    UndoneBy getLastScene getNextScene m := by
  have hlt := h.position_lt
  have hlast := getLastScene_moveTo hlt
  have hnext := getNextScene_moveTo (Carousel.last_lt hlt)
  rw [Carousel.next_last hlt, h.moveTo_position] at hnext
  rw [h.moveTo_position] at hlast
  exact ⟨_, _, _, hlast, h.designated_eq, hnext⟩

/-! ## Once around -/

/-- `k` calls in succession, each with the index and the scene that it leads
to. -/
def tour (x : Run SceneManager Scene) :
    ℕ → Run SceneManager (List (ℤ × Scene))
  | 0 => return []
  | k + 1 => do
      let scene ← x
      let index := (← get).currentIndex
      return (index, scene) :: (← tour x k)

/-- What the index and the scene are at a position. -/
def stop (m : SceneManager) (p : ℕ) : ℤ × Scene := (p - 1, m.sceneAt p)

/-- The live scene and the stored scenes, each with its index. -/
def stops (m : SceneManager) : List (ℤ × Scene) :=
  (-1, m.currentScene) :: m.scenes.mapIdx fun i scene => ((i : ℤ), scene)

theorem stops_eq (m : SceneManager) :
    m.stops = (List.range m.stopCount).map m.stop := by
  unfold stops stopCount
  rw [List.range_succ_eq_map, List.map_cons, List.map_map]
  refine congrArg₂ List.cons rfl (List.ext_getElem ?_ ?_)
  · rw [List.length_mapIdx, List.length_map, List.length_range]
  · intro i hi hi'
    have hlt : i < m.scenes.length := by
      rwa [List.length_mapIdx] at hi
    have hscene : m.scenes[i] = m.sceneAt (i + 1) :=
      (List.getElem_eq_iff hlt).mpr (sceneAt_succ hlt)
    have hindex : (i : ℤ) = ((i + 1 : ℕ) : ℤ) - 1 := by omega
    rw [List.getElem_mapIdx, List.getElem_map, List.getElem_range, hscene,
      hindex]
    rfl

/-- A tour by a call that goes from each position to another one. -/
theorem tour_eq {x : Run SceneManager Scene} {f : ℕ → ℕ}
    (hf : ∀ p < m.stopCount, f p < m.stopCount)
    (hx : ∀ p < m.stopCount,
      x (m.moveTo p) = .ok (m.sceneAt (f p)) (m.moveTo (f p)))
    (hp : p < m.stopCount) (k : ℕ) :
    tour x k (m.moveTo p) =
      .ok ((List.iterate f (f p) k).map m.stop) (m.moveTo (f^[k] p)) := by
  induction k generalizing p with
  | zero => rfl
  | succ k ih =>
      unfold tour
      rw [bind_of_ok (hx p hp), bind_of_ok (x := get) rfl,
        bind_of_ok (ih (hf p hp))]
      rfl

/-- The two directions undo each other, and a tour in either direction visits
the live scene and every stored scene once and ends where it began. -/
theorem navigation_cycle (h : InRange m) :
    UndoneBy getNextScene getLastScene m ∧
      UndoneBy getLastScene getNextScene m ∧
      (∃ visits, tour getNextScene (m.scenes.length + 1) m = .ok visits m ∧
        visits.Perm m.stops) ∧
      ∃ visits, tour getLastScene (m.scenes.length + 1) m = .ok visits m ∧
        visits.Perm m.stops := by
  have hlt := h.position_lt
  have hnext := tour_eq (fun _ hp => Carousel.next_lt hp)
    (fun _ hp => getNextScene_moveTo hp) hlt m.stopCount
  have hlast := tour_eq (fun _ hp => Carousel.last_lt hp)
    (fun _ hp => getLastScene_moveTo hp) hlt m.stopCount
  rw [Carousel.iterate_next_self hlt, h.moveTo_position] at hnext
  rw [Carousel.iterate_last_self hlt, h.moveTo_position] at hlast
  refine ⟨undoneBy_getLastScene h, undoneBy_getNextScene h,
    ⟨_, hnext, ?_⟩, ⟨_, hlast, ?_⟩⟩
  · rw [stops_eq]
    exact (Carousel.iterate_next_perm (Carousel.next_lt hlt)).map _
  · rw [stops_eq]
    exact (Carousel.iterate_last_perm hlt).map _

theorem navigation_cycle_twoScenes :
    UndoneBy getNextScene getLastScene twoScenes ∧
      UndoneBy getLastScene getNextScene twoScenes ∧
      (∃ visits, tour getNextScene (twoScenes.scenes.length + 1) twoScenes =
        .ok visits twoScenes ∧ visits.Perm twoScenes.stops) ∧
      ∃ visits, tour getLastScene (twoScenes.scenes.length + 1) twoScenes =
        .ok visits twoScenes ∧ visits.Perm twoScenes.stops :=
  navigation_cycle ⟨by decide, by decide⟩

end ChuckLight.SceneManager
