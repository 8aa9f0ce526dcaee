import ChuckLight.Threads.Passes
import ChuckLight.Threads.ServerApp

/-!
# What showing and editing leave alone

Most methods of the loop show something on the lights, and some move a cursor
or change another plain field.  They change neither the mode nor the scenes
nor which workers there are.
-/

namespace ChuckLight.Server

open Java SceneManager

/-! ## Workers that a field refers to -/

theorem deref_of_ref {k : WorkerField} {s : Server} {i : ℕ}
    {w : Worker k.Object} (hi : (s.slots k).ref = some i)
    (hw : (s.slots k).workers[i]? = some w) : deref k s = .ok (i, w) s := by
  have href : (orThrow (s.slots k).ref .nullPointerException : Run Server ℕ) s =
      .ok i s := by
    rw [hi]
    rfl
  have hworker : (orThrow (s.slots k).workers[i]? .nullPointerException :
      Run Server (Worker k.Object)) s = .ok w s := by
    rw [hw]
    rfl
  exact (bind_of_ok href).trans (bind_of_ok hworker)

/-- A field refers to a worker, or a use of the field throws. -/
theorem deref_cases (k : WorkerField) (s : Server) :
    (∃ i w, (s.slots k).ref = some i ∧ (s.slots k).workers[i]? = some w ∧
      deref k s = .ok (i, w) s) ∨
    deref k s = .error (.thrown .nullPointerException) s := by
  cases hi : (s.slots k).ref with
  | none =>
      right
      unfold deref
      rw [bind_of_ok (x := get) rfl, hi]
      rfl
  | some i =>
      cases hw : (s.slots k).workers[i]? with
      | none =>
          right
          unfold deref
          rw [bind_of_ok (x := get) rfl, hi]
          refine (bind_of_ok (x := orThrow _ _) rfl).trans ?_
          rw [hw]
          rfl
      | some w => exact .inl ⟨i, w, rfl, hw, deref_of_ref hi hw⟩

variable {inv : Server → Prop} {α : Type}

theorem preserves_deref (k : WorkerField) : Preserves inv (deref k) :=
  Preserves.get_bind fun _ => (Preserves.orThrow _ _).bind fun _ =>
    (Preserves.orThrow _ _).bind fun _ => Preserves.pure _

theorem preserves_try {x : Run Server Unit} (hx : Preserves inv x) :
    Preserves inv ( tryIO x) :=
  Preserves.catchIOException hx (Preserves.pure _)

theorem preserves_forSelected {body : ℕ → Run Server Unit}
    (hbody : ∀ light, Preserves inv (body light)) :
    Preserves inv (forSelected body) :=
  Preserves.get_bind fun _ => (Preserves.orThrow _ _).bind fun _ =>
    Preserves.forM fun light _ => hbody light

theorem preserves_getCurrentScene :
    Preserves inv (onScenes getCurrentScene) :=
  fun _ hs => hs

theorem onRig_getDmx (s : Server) :
    onRig (Rig.callDmx DefaultDMX.getDmx) s =
      .ok (List.ofFn s.rig.dmx.dmxShadow) s := rfl

theorem preserves_getDmx :
    Preserves inv (onRig (Rig.callDmx DefaultDMX.getDmx)) :=
  fun _ hs => hs

/-! ## Showing -/

/-- The invariant ignores what the lights show and how far animations are. -/
structure Shown (inv : Server → Prop) : Prop where
  rig : ∀ s r, s.rig.Follows r → inv s → inv { s with rig := r }
  object : ∀ s k i stage w, (s.slots k).workers[i]? = some w →
    Stage.Follows k (s.rig, w.object) stage → inv s → inv (store k i stage s)

namespace Shown

variable (h : Shown inv)

include h

theorem onRig {c : Rig → Prop} {x : Run Rig α} (hx : Rig.Shows c x) :
    Preserves inv (onRig x) := by
  intro s hs
  unfold Server.onRig Java.zoom
  cases hrun : x s.rig with
  | ok a r => exact h.rig s r ((hx s.rig).of_ok rfl hrun) hs
  | error e r => exact h.rig s r ((hx s.rig).of_error rfl hrun).1 hs

theorem callLight {c : FixtureProfile → Prop} {x : Run Light α}
    (hx : Light.Calm c x) (light : ℕ) :
    Preserves inv (Server.onRig (Rig.callLight light x)) :=
  h.onRig (Rig.shows_callLight hx light)

theorem onWorker {k : WorkerField} {x : Run (Stage k.Object) α}
    (hx : ∀ st, Preserves (Stage.Follows k st) x) :
    Preserves inv (onWorker k x) := by
  intro s hs
  unfold Server.onWorker
  rcases deref_cases k s with ⟨i, w, -, hw, hderef⟩ | hderef
  · rw [bind_of_ok hderef]
    unfold Java.zoom
    have hstart := Stage.Follows.refl k (s.rig, w.object)
    cases hrun : x (s.rig, w.object) with
    | ok a stage =>
        exact h.object s k i stage w hw ((hx _).of_ok hstart hrun) hs
    | error e stage =>
        exact h.object s k i stage w hw ((hx _).of_error hstart hrun) hs
  · rw [bind_of_error hderef]
    exact hs

theorem currentLight : Preserves inv currentLight :=
  Preserves.get_bind fun _ => h.onRig (Rig.reads_getLight _).shows

theorem revertScene : Preserves inv revertScene := by
  refine Preserves.bind ?_ fun _ => Preserves.get_bind fun s => ?_
  · exact preserves_try (preserves_getCurrentScene.bind fun scene =>
      h.onRig (Rig.shows_setAllDMX scene))
  cases s.selectedLights with
  | none => exact Preserves.pure _
  | some lights =>
      exact Preserves.forM fun light _ => h.callLight Light.calm_syncLight light

theorem setUpdateDefaultColor :
    Preserves inv (onHighlight HighlightThread.setUpdateDefaultColor) :=
  h.onWorker (k := .highlight) fun _ =>
    HighlightThread.follows_setUpdateDefaultColor

theorem firstNumChannels : Preserves inv firstNumChannels :=
  Preserves.get_bind fun _ => (Preserves.orThrow _ _).bind fun _ =>
    (Preserves.orThrow _ _).bind fun first =>
      (h.onRig (Rig.reads_fixture first).shows).bind fun _ =>
        Preserves.pure _

theorem compareChannels
    (hset : ∀ s canChangeDMX, inv s →
      inv { s with canChangeDMX := canChangeDMX })
    (temp : Int32) (lights : List ℕ) :
    Preserves inv (compareChannels temp lights) := by
  induction lights generalizing temp with
  | nil => exact Preserves.pure _
  | cons light rest ih =>
      refine (h.onRig (Rig.reads_fixture light).shows).bind fun _ => ?_
      refine Preserves.ite (Preserves.modify fun s hs => hset s false hs) ?_
      exact (Preserves.modify fun s hs => hset s true hs).bind fun _ => ih _

theorem changeChannel (step : Int32) (outOfRange : Int32 → Bool) :
    Preserves inv (changeChannel step outOfRange) := by
  refine preserves_forSelected fun light => Preserves.get_bind fun _ => ?_
  refine (h.onRig (Rig.reads_fixture light).shows).bind fun _ => ?_
  refine Preserves.ite (Preserves.throw _) ?_
  refine (Preserves.arrayGet _ _).bind fun _ => ?_
  exact Preserves.ite (Preserves.pure _) (preserves_try
    (h.callLight (Light.calm_setChannelManual _ _) light))

theorem clearLights : Preserves inv clearLights :=
  preserves_forSelected fun light =>
    preserves_try (h.callLight Light.calm_clearLight light)

theorem showPreset : Preserves inv showPreset :=
  preserves_forSelected fun light => Preserves.catchIOException
    (Preserves.get_bind fun _ => Preserves.ite (Preserves.throw _)
      ((Preserves.arrayGet _ _).bind fun preset =>
        h.callLight (Light.calm_setColor preset) light))
    (Preserves.throw _)

theorem showColor (colorConverter : XYConverter) (x y : Int32) :
    Preserves inv (showColor colorConverter x y) :=
  preserves_forSelected fun light => preserves_try
    ((Preserves.fromExcept _).bind fun color =>
      h.callLight (Light.calm_setColor color) light)

theorem showAll (dv : Int32) (color : ℕ → Color) :
    Preserves inv (showAll dv color) :=
  Preserves.get_bind fun _ => Preserves.forM fun i _ => preserves_try
    ((h.onRig (Rig.reads_getLight i).shows).bind fun light =>
      (h.callLight (Light.calm_setDimmerValue dv) light).bind fun _ =>
        h.callLight (Light.calm_setColor (color i)) light)

/-! ## Scenes -/

theorem recallScene {x : Run SceneManager Scene}
    (hx : Preserves inv (onScenes x)) : Preserves inv (recallScene x) :=
  preserves_try (hx.bind fun scene => h.onRig (Rig.shows_setAllDMX scene))

omit h in
theorem saveScene
    (hscenes : ∀ scene, Preserves inv (onScenes (setCurrentScene scene))) :
    Preserves inv saveScene :=
  preserves_getDmx.bind fun _ => hscenes _

theorem recallCurrent
    (hscenes : ∀ scene, Preserves inv (onScenes (setCurrentScene scene))) :
    Preserves inv recallCurrent :=
  preserves_try (preserves_getCurrentScene.bind fun scene =>
    (h.onRig (Rig.shows_setAllDMX scene)).bind fun _ => hscenes _)

omit h in
theorem storeScene
    (hscenes : ∀ x : Run SceneManager Unit, Preserves inv (onScenes x)) :
    Preserves inv storeScene :=
  Preserves.get_bind fun _ => Preserves.ite
    (preserves_getDmx.bind fun _ => (hscenes _).bind fun _ => hscenes _)
    (Preserves.pure _)

theorem dropScene
    (hscenes : ∀ x : Run SceneManager Unit, Preserves inv (onScenes x)) :
    Preserves inv dropScene :=
  Preserves.get_bind fun _ => Preserves.ite
    ((hscenes _).bind fun _ => (hscenes _).bind fun _ => h.revertScene)
    (Preserves.get_bind fun _ => (hscenes _).bind fun _ =>
      preserves_try (h.onRig Rig.shows_clearDMX))

end Shown

/-! ## Comparing -/

theorem onRig_fixture {s : Server} {i : ℕ} {f : FixtureProfile}
    (hf : s.rig.profiles[i]? = some f) :
    onRig (Rig.fixture i) s = .ok f s := by
  unfold onRig Java.zoom
  rw [Rig.fixture_of_getElem? hf]

theorem onRig_fixture_none {s : Server} {i : ℕ}
    (hf : s.rig.profiles[i]? = none) :
    onRig (Rig.fixture i) s = .error (.thrown .nullPointerException) s := by
  unfold onRig Java.zoom Rig.fixture
  rw [Rig.callLight_of_getElem?_none hf]

theorem firstNumChannels_eq {s : Server} {first : ℕ} {rest : List ℕ}
    {f : FixtureProfile}
    (hselected : s.selectedLights = some (first :: rest))
    (hf : s.rig.profiles[first]? = some f) :
    firstNumChannels s = .ok f.numChannels s := by
  unfold firstNumChannels
  rw [bind_of_ok (x := get) rfl, hselected, orThrow_some_bind,
    List.head?_cons, orThrow_some_bind, bind_of_ok (onRig_fixture hf)]
  rfl

/-- The number of channels of the first selected light, unless there is
none. -/
theorem firstNumChannels_cases {s : Server} {lights : List ℕ}
    (h : s.selectedLights = some lights) :
    (∃ first rest f, lights = first :: rest ∧
      s.rig.profiles[first]? = some f ∧
        firstNumChannels s = .ok f.numChannels s) ∨
    ∃ e, firstNumChannels s = .error e s := by
  cases lights with
  | nil =>
      refine Or.inr ⟨.thrown (.indexOutOfBoundsException "get"), ?_⟩
      unfold firstNumChannels
      rw [bind_of_ok (x := get) rfl, h, orThrow_some_bind]
      rfl
  | cons first rest =>
      cases hf : s.rig.profiles[first]? with
      | some f =>
          exact Or.inl ⟨first, rest, f, rfl, hf, firstNumChannels_eq h hf⟩
      | none =>
          refine Or.inr ⟨.thrown .nullPointerException, ?_⟩
          unfold firstNumChannels
          rw [bind_of_ok (x := get) rfl, h, orThrow_some_bind,
            List.head?_cons, orThrow_some_bind,
            bind_of_error (onRig_fixture_none hf)]

/-- Lights that pass the comparison have the number of channels that they are
compared with. -/
theorem triple_compareChannels {c : Prop} {sizes : List ℕ} {n : ℕ}
    {temp : Int32}
    (hset : ∀ s canChangeDMX, inv s →
      inv { s with canChangeDMX := canChangeDMX })
    (hcount : ∀ s (i : ℕ) (f : FixtureProfile), inv s →
      s.rig.profiles[i]? = some f →
        f.numChannels.toInt = f.channelMap.size)
    (htemp : temp.toInt = n) (lights : List ℕ)
    (hlights : c → ∀ light ∈ lights, light < sizes.length) :
    Triple (fun s => inv s ∧ s.rig.sizes = sizes)
      (compareChannels temp lights)
      (fun _ s => (inv s ∧ s.rig.sizes = sizes) ∧
        (s.canChangeDMX = true → ∀ i ∈ lights, sizes[i]? = some n))
      (fun e _ => c → ¬ e.IsThrown) := by
  induction lights generalizing temp with
  | nil =>
      exact Triple.pure fun _ h => ⟨h, fun _ _ hi => absurd hi
        List.not_mem_nil⟩
  | cons light rest ih =>
      rintro s ⟨hs, hsizes⟩
      unfold compareChannels
      cases hf : s.rig.profiles[light]? with
      | none =>
          rw [bind_of_error (onRig_fixture_none hf)]
          intro hc
          have hlt := hlights hc light (List.mem_cons_self ..)
          rw [← hsizes, Rig.length_sizes] at hlt
          exact absurd (List.getElem?_eq_none_iff.mp hf) (by omega)
      | some f =>
          have hsize : sizes[light]? = some f.channelMap.size := by
            rw [← hsizes, Rig.sizes, List.getElem?_map, hf]
            rfl
          have hnum := hcount s light f hs hf
          rw [bind_of_ok (onRig_fixture hf)]
          by_cases heq : temp = f.numChannels
          · rw [if_neg (not_not.mpr heq), ← heq,
              bind_of_ok (x := modify _) rfl]
            have hn : f.channelMap.size = n := by
              rw [← heq, htemp] at hnum
              exact (Int.ofNat_inj.mp hnum).symm
            rw [hn] at hsize
            have hrest := ih htemp fun hc i hi =>
              hlights hc i (List.mem_cons_of_mem _ hi)
            refine (hrest.mono fun _ t ht => ⟨ht.1, fun hcan i hi => ?_⟩) _
              ⟨hset s true hs, hsizes⟩
            rcases List.mem_cons.mp hi with rfl | hi
            · exact hsize
            · exact ht.2 hcan i hi
          · rw [if_pos heq]
            exact ⟨⟨hset s false hs, hsizes⟩, nofun⟩

/-! ## Editing -/

/-- The invariant also ignores the plain fields but the cursor over the
lights. -/
structure Edits (inv : Server → Prop) : Prop extends Shown inv where
  fields : ∀ s selectedLights delay preset channel canChangeDMX, inv s →
    inv { s with
      selectedLights := selectedLights
      chaseSceneDelay := delay
      currentPresetIndex := preset
      currentChannelIndex := channel
      canChangeDMX := canChangeDMX }

namespace Edits

variable (h : Edits inv)

include h

theorem setSelectedLights (selectedLights : Option (List ℕ)) :
    Preserves inv
      (modify fun s => { s with selectedLights := selectedLights }) :=
  Preserves.modify fun s hs => h.fields s selectedLights s.chaseSceneDelay
    s.currentPresetIndex s.currentChannelIndex s.canChangeDMX hs

theorem modifyDelay (f : Server → ℤ) :
    Preserves inv (modify fun s => { s with chaseSceneDelay := f s }) :=
  Preserves.modify fun s hs => h.fields s s.selectedLights (f s)
    s.currentPresetIndex s.currentChannelIndex s.canChangeDMX hs

theorem modifyPresetIndex (f : Server → ℤ) :
    Preserves inv (modify fun s => { s with currentPresetIndex := f s }) :=
  Preserves.modify fun s hs => h.fields s s.selectedLights s.chaseSceneDelay
    (f s) s.currentChannelIndex s.canChangeDMX hs

theorem modifyChannelIndex (f : Server → ℤ) :
    Preserves inv (modify fun s => { s with currentChannelIndex := f s }) :=
  Preserves.modify fun s hs => h.fields s s.selectedLights s.chaseSceneDelay
    s.currentPresetIndex (f s) s.canChangeDMX hs

theorem changeDelay (step : ℤ) : Preserves inv (changeDelay step) :=
  (h.modifyDelay _).bind fun _ => Preserves.get_bind fun _ =>
    h.onWorker (k := .chase) fun _ =>
      Stage.follows_update_of_ne (by decide) _

theorem raiseDelay : Preserves inv raiseDelay :=
  Preserves.get_bind fun _ => Preserves.ite (h.changeDelay _)
    (Preserves.pure _)

theorem lowerDelay : Preserves inv lowerDelay :=
  Preserves.get_bind fun _ => Preserves.ite (h.changeDelay _)
    (Preserves.pure _)

theorem compareChannels (temp : Int32) (lights : List ℕ) :
    Preserves inv (compareChannels temp lights) :=
  h.toShown.compareChannels (fun s canChangeDMX hs => h.fields s
    s.selectedLights s.chaseSceneDelay s.currentPresetIndex
    s.currentChannelIndex canChangeDMX hs) temp lights

theorem channelLeft : Preserves inv channelLeft :=
  (h.modifyChannelIndex _).bind fun _ => Preserves.get_bind fun _ =>
    Preserves.ite (h.firstNumChannels.bind fun _ => h.modifyChannelIndex _)
      (Preserves.pure _)

theorem channelRight : Preserves inv channelRight :=
  (h.modifyChannelIndex _).bind fun _ => h.firstNumChannels.bind fun _ =>
    Preserves.get_bind fun _ => Preserves.ite (h.modifyChannelIndex _)
      (Preserves.pure _)

theorem presetLeft : Preserves inv presetLeft :=
  (h.modifyPresetIndex _).bind fun _ => Preserves.get_bind fun _ =>
    Preserves.ite (h.modifyPresetIndex _) (Preserves.pure _)

theorem presetRight : Preserves inv presetRight :=
  (h.modifyPresetIndex _).bind fun _ => Preserves.get_bind fun _ =>
    Preserves.ite (h.modifyPresetIndex _) (Preserves.pure _)

end Edits

end ChuckLight.Server
