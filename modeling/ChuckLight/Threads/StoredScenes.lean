import ChuckLight.Lighting.SceneFile
import ChuckLight.Threads.Modes

/-!
# The scene file follows the scenes

The idle mode stores and drops scenes, and is the only mode that does; the
scene file is written again after each change, except where the last scene is
dropped while the live scene is shown.
-/

namespace ChuckLight

open Java Connection SceneManager

namespace Server

/-- The invariant ignores everything but the stored scenes. -/
structure StoredOnly (inv : Server → Prop) : Prop extends Frame inv where
  control : ∀ s mode index slots heartbeats, inv s →
    inv { s with
      currentState := mode
      currentControlIndex := index
      slots := slots
      heartbeats := heartbeats }

namespace StoredOnly

variable {inv : Server → Prop} (h : StoredOnly inv)

include h

/-- What workers leave alone. -/
theorem working : Working inv :=
  { h.edits with
    slots := fun s slots hs => h.control s s.currentState
      s.currentControlIndex slots s.heartbeats hs
    control := fun s index hs => h.control s s.currentState index s.slots
      s.heartbeats hs }

theorem modeless : Modeless inv :=
  { h.working with
    mode := fun s mode heartbeats hs => h.control s mode
      s.currentControlIndex s.slots heartbeats hs
    marks := fun s r _ hs => h.rig s r hs
    moveLightIndex := h.moveLightIndex
    saveScene := h.saveScene }

end StoredOnly

/-! ## The scene file -/

/-- The scene file holds the stored scenes. -/
def ScenesFiled (s : Server) : Prop := Filed s.sceneManager

/-- A new manager reads the stored scenes from the scene file. -/
def Restores (s : Server) : Prop :=
  ∀ (m : SceneManager) (dmxVals : Scene), m.file = s.sceneManager.file →
    ∃ m', create dmxVals m = .ok ⟨⟩ m' ∧ m'.scenes = s.sceneManager.scenes

theorem ScenesFiled.restores {s : Server} (h : ScenesFiled s) : Restores s :=
  fun _ dmxVals hfile =>
    ⟨_, create_fileText h.1 (hfile.trans h.2) dmxVals, rfl⟩

theorem storedOnly_scenesFiled : StoredOnly ScenesFiled where
  rig := fun _ _ h => h
  scenes := fun s m hscenes hfile h => by
    unfold ScenesFiled Filed AllFull at h ⊢
    rw [hscenes, hfile]
    exact h
  object := fun _ _ _ _ h => h
  fields := fun _ _ _ _ _ _ _ h => h
  control := fun _ _ _ _ _ h => h

theorem triple_onScenes {α : Type} {x : Run SceneManager α}
    {pre : SceneManager → Prop} {post : α → SceneManager → Prop}
    {exc : Abrupt → SceneManager → Prop} (h : Triple pre x post exc) :
    Triple (fun s => pre s.sceneManager) (onScenes x)
      (fun a s => post a s.sceneManager) (fun e s => exc e s.sceneManager) :=
  Triple.zoom h (fun _ hs => hs) (fun _ _ _ _ hm => hm)
    (fun _ _ _ _ hm => hm)

/-! ## Storing and dropping -/

/-- The look becomes the last scene, in memory and in the file. -/
theorem storeScene_eq {s : Server} (h : AllFull s.sceneManager)
    (hindex : s.sceneManager.currentIndex = -1) :
    storeScene s = .ok ⟨⟩ { s with sceneManager := { s.sceneManager with
      scenes := s.sceneManager.scenes ++ [List.ofFn s.rig.dmx.dmxShadow]
      modCount := s.sceneManager.modCount + 1
      file := some (fileText
        (s.sceneManager.scenes ++ [List.ofFn s.rig.dmx.dmxShadow])) } } := by
  have hfull : Full (List.ofFn s.rig.dmx.dmxShadow) := List.length_ofFn
  have hall := triple_addScene hfull (fun _ _ => True) s.sceneManager h
  unfold storeScene
  rw [bind_of_ok (x := get) rfl, if_pos hindex, bind_of_ok (onRig_getDmx s)]
  refine (bind_of_ok (x := onScenes (addScene _)) rfl).trans ?_
  unfold onScenes Java.zoom
  rw [updateSceneFile_eq hall]

theorem processCommand_storeScene (colorConverter : XYConverter)
    (random : ℕ → Color) (command : WirelessCommand) {s t : Server}
    (hinterprets : Interprets command)
    (hdata : command.parse.2.dataType = USER_ACTION_DATA)
    (haction : command.parse.2.userActionData = PS2)
    (hstate : s.currentState = .IDLE) (hstore : storeScene s = .ok ⟨⟩ t) :
    processCommand colorConverter random command s = .ok ⟨⟩ t := by
  have hdebug : debugSwitch command.parse.2 s = .ok false s := by
    unfold debugSwitch
    rw [haction]
    rfl
  have hidle : idleMode command.parse.2 = do storeScene; return false := by
    unfold idleMode
    rw [if_neg (not_not.mpr hdata), haction]
    rfl
  have hswitch : mainSwitch colorConverter random command.parse.2 s =
      .ok false t := by
    unfold mainSwitch
    rw [bind_of_ok (x := get) rfl, hstate]
    show idleMode command.parse.2 s = _
    rw [hidle, bind_of_ok hstore]
    rfl
  rw [processCommand_of_interprets hinterprets, bind_of_ok hdebug,
    bind_of_ok hswitch]
  rfl

theorem preserves_storeScene_filed : Preserves ScenesFiled storeScene := by
  intro s h
  by_cases hindex : s.sceneManager.currentIndex = -1
  · rw [storeScene_eq h.1 hindex]
    have hfull : Full (List.ofFn s.rig.dmx.dmxShadow) := List.length_ofFn
    exact ⟨triple_addScene hfull (fun _ _ => True) s.sceneManager h.1, rfl⟩
  · unfold storeScene
    rw [bind_of_ok (x := get) rfl, if_neg hindex]
    exact h

/-- The scene at the index is dropped, or there is none to drop. -/
theorem triple_dropScene :
    Triple (fun s => ScenesFiled s ∧
        (s.sceneManager.currentIndex = -1 → s.sceneManager.scenes = []))
      dropScene (fun _ => ScenesFiled) (fun _ => ScenesFiled) := by
  refine Triple.get_bind_eq fun s ⟨h, hnil⟩ => Triple.ite ?_ ?_
  · intro _
    have hdelete := triple_onScenes triple_deleteScene
    have hwrite := triple_onScenes (triple_updateSceneFile fun _ => Filed)
    refine (hdelete.bind fun _ => hwrite.bind fun _ =>
      storedOnly_scenesFiled.edits.revertScene).conseq ?_ (fun _ _ ht => ht)
      (fun _ _ ht => ht)
    rintro t rfl
    exact h
  · intro hindex
    have hscenes := hnil (not_not.mp hindex)
    have hclear : Preserves ScenesFiled
        ( tryIO (onRig (Rig.callDmx DefaultDMX.clearDMX))) :=
      preserves_try (storedOnly_scenesFiled.onRig _)
    rintro t rfl
    have hdelete : onScenes (deleteSceneAt
        ((t.sceneManager.scenes.length : ℤ) - 1)) t = .ok ⟨⟩ t := by
      unfold onScenes Java.zoom
      rw [deleteSceneAt_of_nil hscenes]
    rw [bind_of_ok (x := get) rfl, bind_of_ok hdelete]
    exact hclear t h

/-- The last scene is dropped while the live scene is shown. -/
def DropsLast (s : Server) (c : WirelessCommand) : Prop :=
  s.currentState = .IDLE ∧ c.dataType = USER_ACTION_DATA ∧
    c.userActionData = PS2_LONG ∧ s.sceneManager.currentIndex = -1 ∧
    s.sceneManager.scenes ≠ []

theorem idleMode_of_drops {c : WirelessCommand}
    (hdata : c.dataType = USER_ACTION_DATA)
    (haction : c.userActionData = PS2_LONG) :
    idleMode c = do dropScene; return false := by
  unfold idleMode
  rw [if_neg (not_not.mpr hdata), haction]
  rfl

theorem triple_idleMode (c : WirelessCommand) :
    Triple (fun s => ScenesFiled s ∧ s.currentState = .IDLE ∧
        ¬ DropsLast s c)
      (idleMode c) (fun _ => ScenesFiled) (fun _ => ScenesFiled) := by
  have h := storedOnly_scenesFiled
  by_cases hdrops : c.dataType = USER_ACTION_DATA ∧
      c.userActionData = PS2_LONG
  · rw [idleMode_of_drops hdrops.1 hdrops.2]
    have hpre : ∀ s, (ScenesFiled s ∧ s.currentState = .IDLE ∧
        ¬ DropsLast s c) → ScenesFiled s ∧
        (s.sceneManager.currentIndex = -1 → s.sceneManager.scenes = []) := by
      rintro s ⟨hs, hidle, hnot⟩
      refine ⟨hs, fun hindex => ?_⟩
      by_contra hscenes
      exact hnot ⟨hidle, hdrops.1, hdrops.2, hindex, hscenes⟩
    exact (triple_dropScene.bind fun _ => Preserves.pure false).conseq hpre
      (fun _ _ ht => ht) (fun _ _ ht => ht)
  · have hkeeps : Preserves ScenesFiled (idleMode c) := by
      unfold idleMode
      by_cases hdata : c.dataType = USER_ACTION_DATA
      · have haction : c.userActionData ≠ PS2_LONG :=
          fun haction => hdrops ⟨hdata, haction⟩
        rw [if_neg (not_not.mpr hdata), if_neg haction]
        refine Preserves.ite ((h.recallScene keepsStored_getLastScene).bind
          fun _ => Preserves.pure _) ?_
        refine Preserves.ite ((h.recallScene keepsStored_getNextScene).bind
          fun _ => Preserves.pure _) ?_
        refine Preserves.ite (h.recallCurrent.bind fun _ =>
          Preserves.pure _) ?_
        refine Preserves.ite ?_ (Preserves.ite h.modeless.enterChase ?_)
        · exact (h.modeless.setState _).bind fun _ => h.saveScene.bind fun _ =>
            h.working.startHighlight.bind fun _ => Preserves.pure _
        refine Preserves.ite (preserves_storeScene_filed.bind fun _ =>
          Preserves.pure _) ?_
        have hswitch : ∀ (mode : Mode) (b : Bool),
            Preserves _ (setState mode >>= fun _ => pure b) := fun mode _ =>
          (h.modeless.setState mode).bind fun _ => Preserves.pure _
        exact Preserves.ite (hswitch _ _)
          (Preserves.ite (hswitch _ _) (Preserves.pure _))
      · rw [if_pos hdata]
        exact Preserves.pure true
    exact hkeeps.conseq (fun _ hs => hs.1) (fun _ _ hs => hs)
      (fun _ _ hs => hs)

theorem triple_mainSwitch (colorConverter : XYConverter)
    (random : ℕ → Color) (c : WirelessCommand) :
    Triple (fun s => ScenesFiled s ∧ ¬ DropsLast s c)
      (mainSwitch colorConverter random c) (fun _ => ScenesFiled)
      (fun _ => ScenesFiled) := by
  have h := storedOnly_scenesFiled
  have hkeeps : ∀ {s : Server} {x : Run Server Bool}, ScenesFiled s →
      Preserves ScenesFiled x → Triple (fun t => t = s) x
        (fun _ => ScenesFiled) (fun _ => ScenesFiled) :=
    fun hs hx => hx.conseq (fun _ ht => ht ▸ hs) (fun _ _ ht => ht)
      (fun _ _ ht => ht)
  refine Triple.get_bind_eq fun s ⟨hs, hnot⟩ => ?_
  cases hstate : s.currentState with
  | IDLE =>
      exact (triple_idleMode c).conseq (fun t ht => ht ▸ ⟨hs, hstate, hnot⟩)
        (fun _ _ ht => ht) (fun _ _ ht => ht)
  | CHASE => exact hkeeps hs (h.modeless.chaseMode c)
  | LIGHT_SELECTION => exact hkeeps hs (h.modeless.lightSelectionMode c)
  | CONTROL_SELECTION => exact hkeeps hs (h.modeless.controlSelectionMode c)
  | COLOR_WHEEL => exact hkeeps hs (h.modeless.colorWheelMode colorConverter c)
  | DMX => exact hkeeps hs (h.modeless.dmxMode c)
  | PRESET => exact hkeeps hs (h.modeless.presetMode c)
  | PARTY => exact hkeeps hs (h.modeless.gyroMode _ _ c)
  | SCARY => exact hkeeps hs (h.modeless.gyroMode _ _ c)

/-- The command that drops a scene is not the party command. -/
theorem triple_debugSwitch (c : WirelessCommand) :
    Triple (fun s => ScenesFiled s ∧ ¬ DropsLast s c) (debugSwitch c)
      (fun _ s => ScenesFiled s ∧ ¬ DropsLast s c) (fun _ => ScenesFiled) := by
  refine Triple.ite (fun hkonami => ?_) fun _ => Triple.pure fun _ hs => hs
  rintro s ⟨hs, hnot⟩
  refine ⟨hs, fun hdrops => ?_⟩
  have hparty : Mode.PARTY = Mode.IDLE := hdrops.1
  cases hparty

theorem triple_processCommand (colorConverter : XYConverter)
    (random : ℕ → Color) (command : WirelessCommand) :
    Triple (fun s => ScenesFiled s ∧ (Interprets command →
        ¬ DropsLast s command.parse.2))
      (processCommand colorConverter random command)
      (fun _ => ScenesFiled) (fun _ => ScenesFiled) := by
  refine Triple.ite (fun hinterprets => ?_) fun _ =>
    Triple.pure fun _ hs => hs.1
  have hdebug := (triple_debugSwitch command.parse.2).conseq
    (fun s (hs : ScenesFiled s ∧ (Interprets command →
      ¬ DropsLast s command.parse.2)) => ⟨hs.1, hs.2 hinterprets⟩)
    (fun _ _ hs => hs) (fun _ _ hs => hs)
  refine hdebug.bind fun konami => ?_
  refine (triple_mainSwitch colorConverter random _).bind fun beat => ?_
  exact Triple.ite (fun _ => storedOnly_scenesFiled.modeless.sendHeartbeat)
    fun _ => Triple.pure fun _ hs => hs

/-! ## The forgotten scene -/

/-- The file holds more scenes than the manager. -/
def Outdated (s : Server) : Prop :=
  ∃ scenes : List Scene, (∀ scene ∈ scenes, Full scene) ∧
    s.sceneManager.file = some (fileText scenes) ∧
    s.sceneManager.scenes.length < scenes.length

theorem storedOnly_outdated : StoredOnly Outdated where
  rig := fun _ _ h => h
  scenes := fun s m hscenes hfile h => by
    unfold Outdated at h ⊢
    rw [hscenes, hfile]
    exact h
  object := fun _ _ _ _ h => h
  fields := fun _ _ _ _ _ _ _ h => h
  control := fun _ _ _ _ _ h => h

theorem Outdated.not_restores {s : Server} (h : Outdated s) :
    ¬ Restores s := by
  obtain ⟨scenes, hfull, hfile, hlt⟩ := h
  intro hrestores
  obtain ⟨m', hcreate, hscenes⟩ := hrestores s.sceneManager [] rfl
  rw [create_fileText hfull hfile []] at hcreate
  cases hcreate
  have hsame : scenes = s.sceneManager.scenes := hscenes
  rw [hsame] at hlt
  exact lt_irrefl _ hlt

theorem triple_dropScene_last :
    Triple (fun s => ScenesFiled s ∧ s.sceneManager.currentIndex = -1 ∧
        s.sceneManager.scenes ≠ [])
      dropScene (fun _ => Outdated) (fun _ => Outdated) := by
  refine Triple.get_bind_eq fun s ⟨h, hindex, hscenes⟩ => ?_
  refine Triple.ite (fun hne => absurd hindex hne) fun _ => ?_
  have hclear : Preserves Outdated
      ( tryIO (onRig (Rig.callDmx DefaultDMX.clearDMX))) :=
    preserves_try (storedOnly_outdated.onRig _)
  rintro t rfl
  have hdelete : onScenes (deleteSceneAt
      ((t.sceneManager.scenes.length : ℤ) - 1)) t = .ok ⟨⟩
        { t with sceneManager := { t.sceneManager with
          scenes := t.sceneManager.scenes.eraseIdx
            (t.sceneManager.scenes.length - 1)
          modCount := t.sceneManager.modCount + 1 } } := by
    unfold onScenes Java.zoom
    rw [deleteSceneAt_last hscenes]
  rw [bind_of_ok (x := get) rfl, bind_of_ok hdelete]
  have hpos := List.length_pos_of_ne_nil hscenes
  refine hclear _ ⟨t.sceneManager.scenes, h.1, h.2, ?_⟩
  show (t.sceneManager.scenes.eraseIdx _).length < _
  rw [List.length_eraseIdx_of_lt (by omega)]
  omega

theorem triple_processCommand_drops (colorConverter : XYConverter)
    (random : ℕ → Color) {command : WirelessCommand}
    (hinterprets : Interprets command) :
    Triple (fun s => ScenesFiled s ∧ DropsLast s command.parse.2)
      (processCommand colorConverter random command)
      (fun _ => Outdated) (fun _ => Outdated) := by
  rw [processCommand_of_interprets hinterprets]
  rintro s ⟨h, hstate, hdata, haction, hindex, hscenes⟩
  have hdebug : debugSwitch command.parse.2 s = .ok false s := by
    unfold debugSwitch
    rw [haction]
    rfl
  rw [bind_of_ok hdebug]
  have hswitch : Triple (fun t => t = s)
      (mainSwitch colorConverter random command.parse.2)
      (fun _ => Outdated) (fun _ => Outdated) := by
    refine Triple.get_bind_eq fun t ht => ?_
    rw [ht, hstate]
    show Triple _ (idleMode _) _ _
    rw [idleMode_of_drops hdata haction]
    have hreturn : Preserves Outdated (pure false : Run Server Bool) :=
      Preserves.pure false
    have hdrop := triple_dropScene_last.bind fun _ => hreturn
    exact hdrop.conseq (fun u hu => hu ▸ ⟨h, hindex, hscenes⟩)
      (fun _ _ hu => hu) (fun _ _ hu => hu)
  exact (hswitch.bind fun beat => Preserves.ite
    storedOnly_outdated.modeless.sendHeartbeat (Preserves.pure _)) s rfl

end Server

/-! ## Runs -/

namespace Process

open Server

/-- A datagram that drops the last scene while the live scene is shown. -/
def Forgets (p : Process) : Event → Prop
  | .packet _ receiveData =>
      p.ended = none ∧ Interprets (.new receiveData) ∧
        DropsLast p.server (WirelessCommand.new receiveData).parse.2
  | .tick _ _ => False

variable {colorConverter : XYConverter} {p : Process} {e : Event}

theorem scenesFiled_step (h : ScenesFiled p.server) (hkeeps : ¬ Forgets p e) :
    ScenesFiled (step colorConverter p e).server := by
  cases e with
  | tick k i =>
      exact step_server h (storedOnly_scenesFiled.working.ticks.tick k i)
        fun _ => h
  | packet random receiveData =>
      by_cases hended : p.ended = none
      · have hrun := triple_processCommand colorConverter random
          (.new receiveData)
        exact step_server (p := p) (e := .packet random receiveData)
          ⟨h, fun hinterprets hdrops => hkeeps ⟨hended, hinterprets, hdrops⟩⟩
          hrun fun _ => h
      · rw [step_packet_of_ended hended]
        exact h

theorem outdated_step (h : ScenesFiled p.server) (hforgets : Forgets p e) :
    Outdated (step colorConverter p e).server := by
  cases e with
  | tick k i => exact hforgets.elim
  | packet random receiveData =>
      obtain ⟨hended, hinterprets, hdrops⟩ := hforgets
      have hrun := triple_processCommand_drops colorConverter random
        hinterprets
      refine step_server (p := p) (e := .packet random receiveData)
        ⟨h, hdrops⟩ hrun fun hignored => ?_
      have hended' : p.ended.isSome = true := hignored
      rw [hended] at hended'
      cases hended'

theorem scenesFiled_of_starts {dmx : DefaultDMX}
    {profiles : List FixtureProfile} {file : Option (List Char)}
    (h : Starts dmx profiles file p) : ScenesFiled p.server := by
  have hcreate := fun dmxVals => triple_onScenes (triple_create dmxVals)
  have hwrite := triple_onScenes (triple_updateSceneFile fun _ _ => True)
  have hstart : Triple (fun _ => True) startScenes (fun _ => ScenesFiled)
      (fun _ _ => True) := by
    intro s _
    unfold startScenes
    rw [bind_of_ok (onRig_getDmx s)]
    exact ((hcreate _).bind fun _ => hwrite) s trivial
  exact hstart.of_ok trivial h.1

/-- In a run of the server, a new manager can always read the stored scenes
from the scene file if and only if the last scene is never dropped while the
live scene is shown. -/
theorem restores_iff {dmx : DefaultDMX} {profiles : List FixtureProfile}
    {file : Option (List Char)} {events : List Event}
    (hstart : Starts dmx profiles file p) :
    (∀ t ∈ Runs.states (step colorConverter) p events,
        Restores t.server) ↔
      Runs.AllSteps (step colorConverter) (fun p e => ¬ Forgets p e) p
        events :=
  Runs.forall_states_iff (fun _ h => ScenesFiled.restores h)
    (fun _ _ h hkeeps => scenesFiled_step h hkeeps)
    (fun _ _ h hforgets => (outdated_step h (not_not.mp hforgets)).not_restores)
    (scenesFiled_of_starts hstart)

theorem restores_iff_buttons :
    (∀ t ∈ Runs.states (step fun _ _ => Color.WHITE) (oneLight none)
        [button PS2, button PS2_LONG], Restores t.server) ↔
      Runs.AllSteps (step fun _ _ => Color.WHITE)
        (fun p e => ¬ Forgets p e) (oneLight none)
        [button PS2, button PS2_LONG] :=
  restores_iff starts_oneLight

/-- After the look has been stored, it can be dropped. -/
theorem forgets_button :
    Forgets (step (fun _ _ => Color.WHITE) (oneLight none) (button PS2))
      (button PS2_LONG) := by
  obtain ⟨s, hs, hstate, hindex, hscenes⟩ : ∃ s,
      storeScene (oneLight none).server = .ok ⟨⟩ s ∧
        s.currentState = .IDLE ∧ s.sceneManager.currentIndex = -1 ∧
        s.sceneManager.scenes ≠ [] :=
    ⟨_, storeScene_eq (fun _ hs => (List.not_mem_nil hs).elim) rfl, rfl, rfl,
      List.append_ne_nil_of_right_ne_nil _ (List.cons_ne_nil _ _)⟩
  have hrun := processCommand_storeScene (fun _ _ => Color.WHITE)
    (fun _ => Color.WHITE) (.new (dataBuffer [USER_ACTION_DATA, PS2]))
    (by decide) (by decide) (by decide) rfl hs
  rw [← run_button] at hrun
  rw [step_of_ok rfl hrun]
  exact ⟨rfl, by decide, hstate, by decide, by decide, hindex, hscenes⟩

/-- A scene that is stored and dropped again is still in the file. -/
theorem not_restores_buttons :
    ¬ ∀ t ∈ Runs.states (step fun _ _ => Color.WHITE) (oneLight none)
        [button PS2, button PS2_LONG], Restores t.server := by
  intro h
  have hfiled : ScenesFiled (step (fun _ _ => Color.WHITE) (oneLight none)
      (button PS2)).server :=
    scenesFiled_step (scenesFiled_of_starts starts_oneLight)
      fun hforgets => absurd hforgets.2.2.2.2.1 (by decide)
  exact (outdated_step hfiled forgets_button).not_restores (h _
    (List.mem_cons_of_mem _ (List.mem_cons_of_mem _
      (List.mem_singleton_self _))))

end Process

end ChuckLight
