import ChuckLight.Threads.SafeSelection

/-!
# Scenes and the chase

The idle mode recalls, stores and drops scenes and the chase plays them.  The
only exception that can leave these modes comes from a stored scene with a
value that is no byte.
-/

namespace ChuckLight.Server

open Java Connection LightingDefines SceneManager

variable {mode : Mode} {index : ℤ} {c : Prop} {s : Server}

/-! ## Exceptions -/

/-- If the method ends by an exception, then `c` does not hold and a method has
refused its argument. -/
def Excused (c : Prop) (e : Abrupt) : Prop :=
  e.IsThrown → ¬ c ∧ e.IsIllegalArgument

theorem excused_of_safe {α : Type} {pre : Server → Prop} {x : Run Server α}
    {post : α → Server → Prop}
    (h : Triple pre x post (fun e _ => True → ¬ e.IsThrown)) :
    Triple pre x post (fun e _ => Excused c e) :=
  h.conseq (fun _ hs => hs) (fun _ _ hs => hs) fun _ _ he hthrown =>
    absurd hthrown (he trivial)

/-! ## The scene manager -/

theorem Steered.setScenes (h : Steered mode s) {m : SceneManager}
    (hm : InOrder m) : Steered mode { s with sceneManager := m } := by
  have hground := h.ground
  exact ⟨⟨hground.usable, hground.bytes, hground.light, hground.preset,
    hground.delay, hground.steps, hm, hground.selected⟩, h.state, h.control,
    h.compared, h.level⟩

theorem triple_scenes {α : Type} {x : Run SceneManager α}
    {exc : Abrupt → Server → Prop}
    (hx : Triple InOrder x (fun _ => InOrder) (fun _ _ => False)) :
    Triple (Steered mode) (onScenes x) (fun _ => Steered mode) exc :=
  Triple.zoom hx (fun _ h => h.ground.scenes)
    (fun _ _ _ h hm => h.setScenes hm) fun _ _ _ _ hm => hm.elim

/-- The look of the lights can be shown again. -/
theorem Ground.playable (h : Ground s) :
    Playable (List.ofFn s.rig.dmx.dmxShadow) := by
  refine ⟨List.length_ofFn, fun v hv => ?_⟩
  obtain ⟨a, rfl⟩ := List.mem_ofFn.mp hv
  exact h.bytes.shadow a

theorem triple_saveScene :
    Triple (Steered mode) saveScene (fun _ => Steered mode)
      (fun e _ => c → ¬ e.IsThrown) := by
  intro s hs
  unfold saveScene
  have hset : Triple (Steered mode)
      (onScenes (setCurrentScene (List.ofFn s.rig.dmx.dmxShadow)))
      (fun _ => Steered mode) (fun e _ => c → ¬ e.IsThrown) :=
    triple_scenes (inOrder_setCurrentScene hs.ground.playable _)
  rw [bind_of_ok (onRig_getDmx s)]
  exact hset s hs

/-- The scene is kept, and the light selection starts again. -/
theorem triple_confirm :
    Triple (Steered mode) confirm (fun _ => Valid)
      (fun e _ => c → ¬ e.IsThrown) :=
  triple_saveScene.bind fun _ => (triple_setState .LIGHT_SELECTION).bind
    fun _ => triple_startHighlight

/-! ## The chase -/

theorem Steered.setDelay (h : Steered mode s) {delay : ℤ}
    (hdelay : MIN_CHASE_DELAY ≤ delay ∧ delay ≤ MAX_CHASE_DELAY)
    (hsteps : CHASE_STEP ∣ delay) :
    Steered mode { s with chaseSceneDelay := delay } := by
  have hground := h.ground
  exact ⟨⟨hground.usable, hground.bytes, hground.light, hground.preset,
    hdelay, hsteps, hground.scenes, hground.selected⟩, h.state, h.control,
    h.compared, h.level⟩

theorem triple_changeDelay (step : ℤ) (hstep : CHASE_STEP ∣ step) :
    Triple (fun s => (Steered .CHASE s ∧ Needs .CHASE s) ∧
        MIN_CHASE_DELAY ≤ s.chaseSceneDelay + step ∧
        s.chaseSceneDelay + step ≤ MAX_CHASE_DELAY)
      (changeDelay step) (fun _ => Valid) (fun e _ => c → ¬ e.IsThrown) := by
  rintro s ⟨⟨hsteered, hchase⟩, hdelay⟩
  have hsteered' := hsteered.setDelay hdelay
    (Int.dvd_add hsteered.ground.steps hstep)
  obtain ⟨i, w, -, hw, -, hderef⟩ := Refers.deref (s := { s with
    chaseSceneDelay := s.chaseSceneDelay + step }) hchase
  unfold changeDelay onWorker
  rw [bind_of_ok (x := modify _) rfl, bind_of_ok (x := get) rfl,
    bind_of_ok hderef]
  exact ticks_valid.object _ .chase i _ w hw ⟨Rig.Follows.refl _, trivial⟩
    ⟨.CHASE, hsteered', hchase⟩

theorem triple_raiseDelay :
    Triple (fun s => Steered .CHASE s ∧ Needs .CHASE s) raiseDelay
      (fun _ => Valid) (fun e _ => c → ¬ e.IsThrown) := by
  refine Triple.get_bind_eq fun s h => Triple.ite (fun hlt => ?_) fun _ =>
    Triple.pure fun t ht => ht ▸ ⟨.CHASE, h⟩
  refine (triple_changeDelay CHASE_STEP (Int.dvd_refl _)).of_eq ⟨h, ?_⟩
  obtain ⟨hmin, hmax⟩ := h.1.ground.delay
  have hsteps := h.1.ground.steps
  unfold MIN_CHASE_DELAY at hmin ⊢
  unfold MAX_CHASE_DELAY at hlt ⊢
  unfold CHASE_STEP at hsteps ⊢
  omega

theorem triple_lowerDelay :
    Triple (fun s => Steered .CHASE s ∧ Needs .CHASE s) lowerDelay
      (fun _ => Valid) (fun e _ => c → ¬ e.IsThrown) := by
  refine Triple.get_bind_eq fun s h => Triple.ite (fun hlt => ?_) fun _ =>
    Triple.pure fun t ht => ht ▸ ⟨.CHASE, h⟩
  refine (triple_changeDelay (-CHASE_STEP)
    (Int.dvd_neg.mpr (Int.dvd_refl _))).of_eq ⟨h, ?_⟩
  obtain ⟨hmin, hmax⟩ := h.1.ground.delay
  have hsteps := h.1.ground.steps
  unfold MIN_CHASE_DELAY at hlt ⊢
  unfold MAX_CHASE_DELAY at hmax ⊢
  unfold CHASE_STEP at hsteps ⊢
  omega

theorem safe_chaseMode (command : WirelessCommand) :
    Triple (fun s => Steered .CHASE s ∧ Needs .CHASE s) (chaseMode command)
      (fun _ => Valid) (fun e _ => c → ¬ e.IsThrown) := by
  have hpure : ∀ beat : Bool,
      Triple (fun s => Steered .CHASE s ∧ Needs .CHASE s) (pure beat)
        (fun _ => Valid) (fun e _ => c → ¬ e.IsThrown) :=
    fun _ => Triple.pure fun _ h => ⟨.CHASE, h⟩
  unfold chaseMode
  refine Triple.ite (fun _ => hpure true) fun _ => ?_
  refine Triple.ite (fun _ => triple_raiseDelay.returning) fun _ => ?_
  refine Triple.ite (fun _ => triple_lowerDelay.returning) fun _ => ?_
  refine Triple.ite (fun _ => ?_) fun _ => hpure false
  have hstate : Triple (fun s => Steered .CHASE s ∧ Needs .CHASE s)
      (setState .IDLE)
      (fun _ s => Steered .IDLE s ∧ Refers .chase (fun _ => True) s)
      (fun e _ => c → ¬ e.IsThrown) :=
    Triple.modify fun _ h => ⟨h.1.setState .IDLE, h.2⟩
  refine hstate.bind fun _ => ?_
  refine grounded_steered.workable.triple_redrum.bind fun _ => ?_
  exact (grounded_steered.triple_revertScene.mono
    fun _ _ h => ⟨.IDLE, h, trivial⟩).returning

/-! ## The idle mode -/

/-- A scene is recalled.  Only a stored scene with a value that is no byte is
refused; the value for address 0 is not sent. -/
theorem triple_recallScene {x : Run SceneManager Scene}
    {stored : SceneManager → Option Scene} (hx : Recalls x stored) :
    Triple (fun s => Steered mode s ∧ (c → ∀ scene,
        stored s.sceneManager = some scene → ∀ v ∈ scene.tail, IsByte v))
      (recallScene x) (fun _ => Steered mode) (fun e _ => Excused c e) := by
  have hcaught : Triple (Steered mode) (pure ⟨⟩ : Run Server Unit)
      (fun _ => Steered mode) (fun e _ => Excused c e) :=
    Triple.pure fun _ hs => hs
  refine Triple.catchIOException_of ?_ hcaught
  rintro s ⟨hs, hbytes⟩
  have hscenes := hs.ground.scenes
  obtain ⟨m, hm, hrecall⟩ := hx.result s.sceneManager hscenes
  generalize hscene : (stored s.sceneManager).getD s.sceneManager.currentScene =
    scene at hrecall
  have hget : onScenes x s = .ok scene { s with sceneManager := m } := by
    unfold onScenes Java.zoom
    rw [hrecall]
  have hs' := hs.setScenes hm
  rw [bind_of_ok hget]
  unfold onRig Java.zoom
  have hshows := Rig.shows_setAllDMX scene s.rig
  have hfails := Rig.setAllDMX_failure scene
  cases hrun : Rig.callDmx (DefaultDMX.setAllDMX scene) s.rig with
  | ok a r => exact grounded_steered.rig _ r (hshows.of_ok rfl hrun).similar hs'
  | error e r =>
      obtain ⟨hr, he⟩ := hshows.of_error rfl hrun
      refine ⟨grounded_steered.rig _ r hr.similar hs', fun hnot _ => ⟨?_, ?_⟩⟩
      · intro hc
        have haccepted := hx.full_and_bytes hscenes (hbytes hc)
        rw [hscene] at haccepted
        exact hnot (he haccepted)
      · exact (hfails.of_error trivial hrun).resolve_left hnot

theorem triple_recallCurrent :
    Triple (Steered mode) recallCurrent (fun _ => Steered mode)
      (fun e _ => c → ¬ e.IsThrown) := by
  refine Grounded.triple_try fun s hs => ?_
  have hlive := hs.ground.scenes.live
  have hget : onScenes getCurrentScene s =
      .ok s.sceneManager.currentScene s := rfl
  rw [bind_of_ok hget]
  exact ((grounded_steered.triple_showScene hlive).bind fun _ =>
    triple_scenes (inOrder_setCurrentScene hlive _)) s hs

theorem triple_enterChase :
    Triple (Steered .IDLE) enterChase (fun _ => Valid)
      (fun e _ => c → ¬ e.IsThrown) := by
  refine Triple.get_bind fun _ _ => Triple.ite (fun _ => ?_) fun _ =>
    Triple.pure fun _ h => ⟨.IDLE, h, trivial⟩
  have hstart : Triple (Steered .CHASE) startChase (fun _ => Valid)
      (fun e _ => c → ¬ e.IsThrown) :=
    Triple.get_bind fun _ _ =>
      (grounded_steered.workable.triple_startWorker .chase _).mono
        fun _ _ h => ⟨.CHASE, h.1, h.2.imp fun _ _ => trivial⟩
  exact (triple_setState .CHASE).bind fun _ => hstart.returning

theorem safe_storeScene :
    Triple (Steered mode) storeScene (fun _ => Steered mode)
      (fun e _ => c → ¬ e.IsThrown) := by
  refine Triple.get_bind_eq fun s hs => Triple.ite (fun _ => ?_) fun _ =>
    Triple.pure fun t ht => ht ▸ hs
  intro t ht
  subst ht
  rw [bind_of_ok (onRig_getDmx t)]
  exact ((triple_scenes (inOrder_addScene hs.ground.playable.full _)).bind
    fun _ => triple_scenes (inOrder_updateSceneFile _)) t hs

theorem safe_dropScene :
    Triple (Steered mode) dropScene (fun _ => Steered mode)
      (fun e _ => c → ¬ e.IsThrown) := by
  refine Triple.get_bind_eq fun s hs => Triple.ite (fun _ => ?_)
    fun hindex => ?_
  · exact ((triple_scenes (inOrder_deleteScene _)).bind fun _ =>
      (triple_scenes (inOrder_updateSceneFile _)).bind fun _ =>
        grounded_steered.triple_revertScene).of_eq hs
  · intro t ht
    subst ht
    have hdelete := inOrder_deleteLast (not_not.mp hindex) fun _ _ => False
    have hdrop : Triple (fun s => s = t)
        (onScenes (deleteSceneAt (t.sceneManager.scenes.length - 1)))
        (fun _ => Steered mode) (fun e _ => c → ¬ e.IsThrown) :=
      Triple.zoom hdelete (fun s h => by
          subst h
          exact ⟨rfl, hs.ground.scenes⟩)
        (fun s _ m h hm => (h ▸ hs : Steered mode s).setScenes hm)
        fun _ _ _ _ hm => hm.elim
    have hclear : Triple (Steered mode)
        ( tryIO (onRig (Rig.callDmx DefaultDMX.clearDMX)))
        (fun _ => Steered mode) (fun e _ => c → ¬ e.IsThrown) :=
      Grounded.triple_try (grounded_steered.triple_onRig Rig.shows_clearDMX
        fun _ _ => trivial)
    rw [bind_of_ok (x := get) rfl]
    exact (hdrop.bind fun _ => hclear) t rfl

/-- The command recalls a stored scene with a value at 1 to 512 that is no
byte. -/
def RecallsNoByte (s : Server) (command : WirelessCommand) : Prop :=
  s.currentState = .IDLE ∧ command.dataType = USER_ACTION_DATA ∧
    ∃ scene, (command.userActionData = LEFT ∧
        lastScene? s.sceneManager = some scene ∨
      command.userActionData = RIGHT ∧
        nextScene? s.sceneManager = some scene) ∧
      ∃ v ∈ scene.tail, ¬ IsByte v

instance (s : Server) (command : WirelessCommand) :
    Decidable (RecallsNoByte s command) :=
  decidable_of_iff (s.currentState = .IDLE ∧
    command.dataType = USER_ACTION_DATA ∧
      ((command.userActionData = LEFT ∧
          ∃ scene ∈ lastScene? s.sceneManager, ∃ v ∈ scene.tail, ¬ IsByte v) ∨
        command.userActionData = RIGHT ∧
          ∃ scene ∈ nextScene? s.sceneManager, ∃ v ∈ scene.tail, ¬ IsByte v))
    (and_congr_right fun _ => and_congr_right fun _ => by
      constructor
      · rintro (⟨hleft, scene, hscene, hv⟩ | ⟨hright, scene, hscene, hv⟩)
        · exact ⟨scene, .inl ⟨hleft, hscene⟩, hv⟩
        · exact ⟨scene, .inr ⟨hright, hscene⟩, hv⟩
      · rintro ⟨scene, ⟨hleft, hscene⟩ | ⟨hright, hscene⟩, hv⟩
        · exact .inl ⟨hleft, scene, hscene, hv⟩
        · exact .inr ⟨hright, scene, hscene, hv⟩)

theorem safe_idleMode (command : WirelessCommand) :
    Triple (fun s => Steered .IDLE s ∧ (c → ¬ RecallsNoByte s command))
      (idleMode command) (fun _ => Valid) (fun e _ => Excused c e) := by
  have hidle : ∀ {x : Run Server Unit} {beat : Bool},
      Triple (Steered .IDLE) x (fun _ => Steered .IDLE)
        (fun e _ => True → ¬ e.IsThrown) →
      Triple (Steered .IDLE) (do x; return beat) (fun _ => Valid)
        (fun e _ => Excused c e) := fun hx =>
    (excused_of_safe (hx.mono fun _ _ h => ⟨.IDLE, h, trivial⟩)).returning
  have henter : ∀ {mode' : Mode} {beat : Bool}, Needs mode' = (fun _ => True) →
      Triple (Steered .IDLE) (do setState mode'; return beat)
        (fun _ => Valid) (fun e _ => Excused c e) := fun hneeds =>
    (excused_of_safe ((triple_setState _).mono fun _ _ h =>
      ⟨_, h, hneeds ▸ trivial⟩)).returning
  by_cases hdata : command.dataType = USER_ACTION_DATA
  · have hrecall : ∀ {x : Run SceneManager Scene}
        {stored : SceneManager → Option Scene}, Recalls x stored →
        Triple (fun s => Steered .IDLE s ∧ (c → ∀ scene,
            stored s.sceneManager = some scene → ∀ v ∈ scene.tail, IsByte v))
          (do recallScene x; return false) (fun _ => Valid)
          (fun e _ => Excused c e) := fun hx =>
      ((triple_recallScene hx).mono
        fun _ _ h => ⟨.IDLE, h, trivial⟩).returning
    have hsteered : ∀ {x : Run Server Bool},
        Triple (Steered .IDLE) x (fun _ => Valid) (fun e _ => Excused c e) →
        Triple (fun s => Steered .IDLE s ∧ (c → ¬ RecallsNoByte s command)) x
          (fun _ => Valid) (fun e _ => Excused c e) := fun hx =>
      hx.conseq (fun _ h => h.1) (fun _ _ h => h) fun _ _ he => he
    unfold idleMode
    rw [if_neg (not_not.mpr hdata)]
    refine Triple.ite (fun hleft => ?_) fun _ => ?_
    · refine (hrecall recalls_getLastScene).conseq
        (fun s h => ⟨h.1, fun hc scene hscene v hv => ?_⟩) (fun _ _ h => h)
        fun _ _ he => he
      by_contra hbyte
      exact h.2 hc ⟨h.1.state, hdata, scene, .inl ⟨hleft, hscene⟩, v, hv,
        hbyte⟩
    refine Triple.ite (fun hright => ?_) fun _ => hsteered ?_
    · refine (hrecall recalls_getNextScene).conseq
        (fun s h => ⟨h.1, fun hc scene hscene v hv => ?_⟩) (fun _ _ h => h)
        fun _ _ he => he
      by_contra hbyte
      exact h.2 hc ⟨h.1.state, hdata, scene, .inr ⟨hright, hscene⟩, v, hv,
        hbyte⟩
    refine Triple.ite (fun _ => hidle triple_recallCurrent) fun _ => ?_
    refine Triple.ite (fun _ => ?_) fun _ => ?_
    · exact excused_of_safe ((triple_setState .LIGHT_SELECTION).bind fun _ =>
        triple_saveScene.bind fun _ => triple_startHighlight.returning)
    refine Triple.ite (fun _ => excused_of_safe triple_enterChase) fun _ => ?_
    refine Triple.ite (fun _ => hidle safe_storeScene) fun _ => ?_
    refine Triple.ite (fun _ => hidle safe_dropScene) fun _ => ?_
    refine Triple.ite (fun _ => henter rfl) fun _ => ?_
    exact Triple.ite (fun _ => henter rfl) fun _ =>
      Triple.pure fun _ h => ⟨.IDLE, h, trivial⟩
  · unfold idleMode
    rw [if_pos hdata]
    exact Triple.pure fun _ h => ⟨.IDLE, h.1, trivial⟩

end ChuckLight.Server
