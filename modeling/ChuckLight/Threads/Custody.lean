import ChuckLight.Threads.Below

/-!
# Modes and their workers

A mode owns at most one worker.  A handler that changes the mode tells the
worker of the old mode to stop and starts the worker of the new one.  Whatever
is known of a mode and of its worker, and survives the single steps of the
handlers, is known again after every round of the loop.
-/

namespace ChuckLight.Server

open Java Connection LightingDefines

/-! ## Ownership -/

/-- The field whose worker a mode owns. -/
def owner : Mode → ℤ → Option WorkerField
  | .CHASE, _ => some .chase
  | .LIGHT_SELECTION, _ => some .highlight
  | .CONTROL_SELECTION, index =>
      if index = -1 then some .dmxVisual
      else if index = 0 then some .rainbowVisual
      else if index = 1 then some .presetVisual
      else none
  | _, _ => none

/-- The control index in the modes that a control leads to. -/
def Fits : Mode → ℤ → Prop
  | .CONTROL_SELECTION, index => index = -1 ∨ index = 0 ∨ index = 1
  | .COLOR_WHEEL, index => index = 0
  | .DMX, index => index = -1
  | .PRESET, index => index = 1
  | _, _ => True

/-- The modes that own a worker. -/
def HasWorker (mode : Mode) : Prop :=
  mode = .CHASE ∨ mode = .LIGHT_SELECTION ∨ mode = .CONTROL_SELECTION

/-- A command leads to the party mode although the mode has a worker. -/
def Abandons (mode : Mode) (c : WirelessCommand) : Prop :=
  c.userActionData = KONAMI ∧ HasWorker mode

instance (mode : Mode) (c : WirelessCommand) : Decidable (Abandons mode c) :=
  inferInstanceAs (Decidable (_ ∧ (_ ∨ _ ∨ _)))

variable {mode mode' : Mode} {index index' : ℤ} {o : Option WorkerField}
  {k : WorkerField} {α : Type} {s : Server}

theorem owner_eq_none (h : ¬ HasWorker mode) (index : ℤ) :
    owner mode index = none := by
  cases mode with
  | CHASE => exact absurd (Or.inl rfl) h
  | LIGHT_SELECTION => exact absurd (Or.inr (Or.inl rfl)) h
  | CONTROL_SELECTION => exact absurd (Or.inr (Or.inr rfl)) h
  | _ => rfl

/-! ## Custody -/

/-- What is known of a mode, a control and the field that may have a worker
survives the steps of the handlers.  In the DMX mode something may be known of
what the lights show. -/
structure Custody (held : Mode → ℤ → Option WorkerField → Server → Prop) :
    Prop where
  state : ∀ {mode index o s}, held mode index o s → s.currentState = mode
  control : ∀ {mode index o s}, held mode index o s →
    s.currentControlIndex = index
  shown : ∀ {mode index o}, mode ≠ .DMX → Shown (held mode index o)
  fields : ∀ {mode index o} s delay light preset heartbeats,
    held mode index o s → held mode index o { s with
      chaseSceneDelay := delay
      currentLightIndex := light
      currentPresetIndex := preset
      heartbeats := heartbeats }
  marks : ∀ {mode index o} s r, mode ≠ .DMX → s.rig.Marks r →
    held mode index o s → held mode index o { s with rig := r }
  scenes : ∀ {mode index o} s m, mode ≠ .CHASE → held mode index o s →
    held mode index o { s with sceneManager := m }
  setState : ∀ {mode index o} mode' s, mode' ≠ .CHASE → mode' ≠ .DMX →
    (Below mode' → Below mode) → held mode index o s →
      held mode' index o { s with currentState := mode' }
  chase : ∀ {index o} s, 1 < s.sceneManager.scenes.length →
    held .IDLE index o s →
      held .CHASE index o { s with currentState := .CHASE }
  setControl : ∀ {mode index o} index' s,
    (index' = -1 → s.canChangeDMX = true) → held mode index o s →
      held mode index' o { s with currentControlIndex := index' }
  startWorker : ∀ {mode index} k (object : k.Object), mode ≠ .DMX →
    k ≠ .highlight → Leads (held mode index none) (startWorker k object)
      (held mode index (some k))
  redrum : ∀ {mode index} k, mode ≠ .DMX →
    Leads (held mode index (some k)) (redrum k) (held mode index none)
  startHighlight : ∀ {index}, Leads (held .LIGHT_SELECTION index none)
    startHighlight (held .LIGHT_SELECTION index (some .highlight))
  redrumHighlight : ∀ {index},
    Leads (held .LIGHT_SELECTION index (some .highlight)) redrumHighlight
      (held .LIGHT_SELECTION index none)
  addLight : ∀ {index} light,
    Leads (held .LIGHT_SELECTION index (some .highlight))
      (onHighlight (HighlightThread.addLight light))
      (held .LIGHT_SELECTION index (some .highlight))
  removeLight : ∀ {index} light,
    Leads (held .LIGHT_SELECTION index (some .highlight))
      (onHighlight (HighlightThread.removeLight light))
      (held .LIGHT_SELECTION index (some .highlight))
  select : ∀ {index} {x : Run Server Bool} {post : Server → Prop},
    Leads (held .CONTROL_SELECTION 1 none) x post →
      Leads (held .LIGHT_SELECTION index (some .highlight))
        (do
          Server.setState .CONTROL_SELECTION
          takeSelection
          clearSelected
          revertScene
          setControlIndex 1
          x) post
  enterDMX : Leads (held .CONTROL_SELECTION (-1) none)
    (do
      revertScene
      modify fun s => { s with currentChannelIndex := 0 }
      Server.setState .DMX) (held .DMX (-1) none)
  channelLeft :
    Leads (held .DMX (-1) none) channelLeft (held .DMX (-1) none)
  channelRight :
    Leads (held .DMX (-1) none) channelRight (held .DMX (-1) none)
  changeChannel : ∀ step outOfRange, Leads (held .DMX (-1) none)
    (changeChannel step outOfRange) (held .DMX (-1) none)
  clearLights :
    Leads (held .DMX (-1) none) clearLights (held .DMX (-1) none)

namespace Custody

variable {held : Mode → ℤ → Option WorkerField → Server → Prop}
  (h : Custody held)

/-- What is known of a mode that has its worker. -/
def Settled (held : Mode → ℤ → Option WorkerField → Server → Prop)
    (s : Server) : Prop :=
  Fits s.currentState s.currentControlIndex ∧
    held s.currentState s.currentControlIndex
      (owner s.currentState s.currentControlIndex) s

include h

theorem settled (mode : Mode) (hfits : Fits mode index)
    (hs : held mode index (owner mode index) s) : Settled held s := by
  have hstate := h.state hs
  have hcontrol := h.control hs
  subst hstate hcontrol
  exact ⟨hfits, hs⟩

/-! ## Single steps -/

theorem leads_setState (mode' : Mode) (hchase : mode' ≠ .CHASE)
    (hdmx : mode' ≠ .DMX) (hbelow : Below mode' → Below mode) :
    Leads (held mode index o) (Server.setState mode')
      (held mode' index o) :=
  Leads.modify fun s hs => h.setState mode' s hchase hdmx hbelow hs

/-- A control that any lights have. -/
theorem leads_setControl (hindex : index' ≠ -1) :
    Leads (held mode index o) (setControlIndex index')
      (held mode index' o) :=
  Leads.modify fun s hs =>
    h.setControl index' s (fun heq => absurd heq hindex) hs

theorem preserves_onScenes (hmode : mode ≠ .CHASE) (x : Run SceneManager α) :
    Preserves (held mode index o) (onScenes x) :=
  Preserves.zoom x fun s m hs => h.scenes s m hmode hs

theorem saveScene (hmode : mode ≠ .CHASE) :
    Preserves (held mode index o) saveScene :=
  Shown.saveScene fun _ => h.preserves_onScenes hmode _

theorem changeDelay (step : ℤ) (hmode : mode ≠ .DMX) :
    Preserves (held mode index o) (changeDelay step) :=
  (Preserves.modify fun s hs => h.fields s _ s.currentLightIndex
    s.currentPresetIndex s.heartbeats hs).bind fun _ =>
      Preserves.get_bind fun _ => (h.shown hmode).onWorker (k := .chase)
        fun _ => Stage.follows_update_of_ne (by decide) _

theorem startRainbow :
    Leads (held .CONTROL_SELECTION index none) startRainbow
      (held .CONTROL_SELECTION index (some .rainbowVisual)) :=
  Leads.get_bind fun _ _ =>
    h.startWorker .rainbowVisual _ (by decide) (by decide)

theorem startDMXVisual :
    Leads (held .CONTROL_SELECTION index none) startDMXVisual
      (held .CONTROL_SELECTION index (some .dmxVisual)) :=
  Leads.get_bind fun _ _ =>
    h.startWorker .dmxVisual _ (by decide) (by decide)

theorem startPresetVisual :
    Leads (held .CONTROL_SELECTION index none) startPresetVisual
      (held .CONTROL_SELECTION index (some .presetVisual)) :=
  Leads.get_bind fun _ _ =>
    h.startWorker .presetVisual _ (by decide) (by decide)

theorem startChase : Leads (held .CHASE index none) startChase
    (held .CHASE index (some .chase)) :=
  Leads.get_bind fun _ _ => h.startWorker .chase _ (by decide) (by decide)

/-! ## What handlers are made of -/

/-- A method that stays in the mode, and the result of the handler. -/
theorem stay {x : Run Server Unit} {beat : Bool} (mode : Mode)
    (hfits : Fits mode index)
    (hx : Preserves (held mode index (owner mode index)) x) :
    Leads (held mode index (owner mode index)) (do x; return beat)
      (Settled held) :=
  (hx.leads.mono fun _ => h.settled _ hfits).returning

theorem pure {beat : Bool} (mode : Mode) (hfits : Fits mode index) :
    Leads (held mode index (owner mode index)) (pure beat) (Settled held) :=
  Leads.pure beat fun _ => h.settled _ hfits

/-- A method that leads to a mode, and the result of the handler. -/
theorem enter {pre : Server → Prop} {x : Run Server Unit} {beat : Bool}
    (mode : Mode) (hfits : Fits mode index)
    (hx : Leads pre x (held mode index (owner mode index))) :
    Leads pre (do x; return beat) (Settled held) :=
  (hx.mono fun _ => h.settled _ hfits).returning

/-- The light selection starts. -/
theorem highlight : Leads (held .LIGHT_SELECTION index none)
    Server.startHighlight (Settled held) :=
  h.startHighlight.mono fun _ hs => h.settled .LIGHT_SELECTION
    trivial hs

/-! ## The chase -/

theorem chaseMode (c : WirelessCommand) :
    Leads (held .CHASE index (owner .CHASE index)) (chaseMode c)
      (Settled held) := by
  have hdelay : ∀ step, Preserves (held .CHASE index (owner .CHASE index))
      (Server.changeDelay step) := fun step => h.changeDelay step (by decide)
  unfold Server.chaseMode
  refine Leads.ite (fun _ => h.pure _ trivial) fun _ => ?_
  refine Leads.ite (fun _ => h.stay _ trivial (Preserves.get_bind fun _ =>
    Preserves.ite (hdelay _) (Preserves.pure _))) fun _ => ?_
  refine Leads.ite (fun _ => h.stay _ trivial (Preserves.get_bind fun _ =>
    Preserves.ite (hdelay _) (Preserves.pure _))) fun _ => ?_
  refine Leads.ite (fun _ => ?_) fun _ => h.pure _ trivial
  refine (h.leads_setState .IDLE (by decide) (by decide) (by decide)).bind
    fun _ => ?_
  refine (h.redrum .chase (by decide)).bind fun _ => ?_
  exact h.stay .IDLE trivial (h.shown (by decide)).revertScene

/-- The chase starts only if there are two scenes. -/
theorem enterChase :
    Leads (held .IDLE index (owner .IDLE index)) enterChase
      (Settled held) := by
  refine Leads.get_bind_eq fun s hs => Leads.ite (fun hlen => ?_) fun _ => ?_
  · have hchase : Leads (fun t => t = s) (Server.setState .CHASE)
        (held .CHASE index none) :=
      Leads.modify fun t ht => ht ▸ h.chase s hlen hs
    exact hchase.bind fun _ => h.enter .CHASE trivial h.startChase
  · have hstay : Leads (held .IDLE index (owner .IDLE index))
        (Pure.pure false : Run Server Bool) (Settled held) := h.pure _ trivial
    exact hstay.of_eq hs

/-! ## The idle mode -/

theorem idleMode (c : WirelessCommand) :
    Leads (held .IDLE index (owner .IDLE index)) (idleMode c)
      (Settled held) := by
  have hshown : Shown (held .IDLE index (owner .IDLE index)) :=
    h.shown (by decide)
  have hscenes : ∀ {α : Type} (x : Run SceneManager α),
      Preserves (held .IDLE index (owner .IDLE index)) (onScenes x) :=
    h.preserves_onScenes (by decide)
  unfold Server.idleMode
  refine Leads.ite (fun _ => h.pure _ trivial) fun _ => ?_
  refine Leads.ite (fun _ => h.stay _ trivial
    (hshown.recallScene (hscenes _))) fun _ => ?_
  refine Leads.ite (fun _ => h.stay _ trivial
    (hshown.recallScene (hscenes _))) fun _ => ?_
  refine Leads.ite (fun _ => h.stay _ trivial
    (hshown.recallCurrent fun _ => hscenes _)) fun _ => ?_
  refine Leads.ite (fun _ => ?_) fun _ => ?_
  · refine (h.leads_setState .LIGHT_SELECTION (by decide) (by decide)
      (by decide)).bind fun _ => ?_
    exact (h.saveScene (by decide)).leads.bind fun _ => h.highlight.returning
  refine Leads.ite (fun _ => h.enterChase) fun _ => ?_
  refine Leads.ite (fun _ => h.stay _ trivial
    (Shown.storeScene fun _ => hscenes _)) fun _ => ?_
  refine Leads.ite (fun _ => h.stay _ trivial
    (hshown.dropScene fun _ => hscenes _)) fun _ => ?_
  refine Leads.ite (fun _ => ?_) fun _ => ?_
  · exact h.enter .PARTY trivial
      (h.leads_setState .PARTY (by decide) (by decide) (by decide))
  refine Leads.ite (fun _ => ?_) fun _ => h.pure _ trivial
  exact h.enter .SCARY trivial
    (h.leads_setState .SCARY (by decide) (by decide) (by decide))

/-! ## The light selection -/

theorem onRig_of_marks {x : Run Rig α} (hmode : mode ≠ .DMX)
    (hx : ∀ r : Rig, Preserves r.Marks x) :
    Preserves (held mode index o) (Server.onRig x) := by
  intro s hs
  unfold Server.onRig Java.zoom
  cases hrun : x s.rig with
  | ok a r =>
      exact h.marks s r hmode ((hx s.rig).of_ok (Rig.Marks.refl _) hrun) hs
  | error e r =>
      exact h.marks s r hmode ((hx s.rig).of_error (Rig.Marks.refl _) hrun) hs

theorem moveLightIndex : Preserves (held mode index o) moveLightIndex := by
  have hmove : ∀ f : Server → ℤ, Preserves (held mode index o)
      (modify fun s => { s with currentLightIndex := f s }) := fun f =>
    Preserves.modify fun s hs => h.fields s s.chaseSceneDelay (f s)
      s.currentPresetIndex s.heartbeats hs
  exact (hmove _).bind fun _ => Preserves.get_bind fun _ =>
    Preserves.ite (hmove _) (Preserves.pure _)

theorem stepLight :
    Leads (held .LIGHT_SELECTION index (some .highlight)) stepLight
      (held .LIGHT_SELECTION index (some .highlight)) := by
  have hshown : Shown (held .LIGHT_SELECTION index (some .highlight)) :=
    h.shown (by decide)
  have hselected : ∀ light,
      Leads (held .LIGHT_SELECTION index (some .highlight))
        (onRig (Rig.isSelected light))
        (held .LIGHT_SELECTION index (some .highlight)) := fun light =>
    (hshown.onRig (Rig.reads_isSelected light).shows).leads
  have hleave : Leads (held .LIGHT_SELECTION index (some .highlight))
      leaveLight (held .LIGHT_SELECTION index (some .highlight)) := by
    refine hshown.currentLight.leads.bind fun light =>
      (hselected light).bind fun _ => ?_
    refine Leads.ite (fun _ => ?_) fun _ => Leads.pure _ fun _ hs => hs
    exact (h.removeLight light).bind fun _ => hshown.revertScene.leads.bind
      fun _ => hshown.setUpdateDefaultColor.leads
  refine hleave.bind fun _ => h.moveLightIndex.leads.bind fun _ => ?_
  refine hshown.currentLight.leads.bind fun light =>
    (hselected light).bind fun _ => ?_
  exact Leads.ite (fun _ => h.addLight light)
    fun _ => Leads.pure _ fun _ hs => hs

theorem toggleLight (hmode : mode ≠ .DMX) :
    Preserves (held mode index o) toggleLight :=
  (h.shown hmode).currentLight.bind fun light =>
    ((h.shown hmode).onRig (Rig.reads_isSelected light).shows).bind fun _ =>
      Preserves.ite
        (h.onRig_of_marks hmode fun _ => Rig.marks_setSelected light false)
        (h.onRig_of_marks hmode fun _ => Rig.marks_setSelected light true)

theorem clearSelected (hmode : mode ≠ .DMX) :
    Preserves (held mode index o) clearSelected :=
  h.onRig_of_marks hmode fun _ => Rig.marks_clearSelected

theorem lightSelectionMode (c : WirelessCommand) :
    Leads (held .LIGHT_SELECTION index (owner .LIGHT_SELECTION index))
      (lightSelectionMode c) (Settled held) := by
  have hsettled : ∀ s, held .LIGHT_SELECTION index (some .highlight) s →
      Settled held s := fun _ => h.settled .LIGHT_SELECTION trivial
  unfold Server.lightSelectionMode
  refine Leads.ite (fun _ => h.pure _ trivial) fun _ => ?_
  refine Leads.ite (fun _ => (h.stepLight.mono hsettled).returning)
    fun _ => ?_
  refine Leads.ite (fun _ => (h.stepLight.mono hsettled).returning)
    fun _ => ?_
  refine Leads.ite (fun _ => h.stay _ trivial (h.toggleLight (by decide)))
    fun _ => ?_
  refine Leads.ite (fun _ => ?_) fun _ => ?_
  · refine (h.clearSelected (by decide)).leads.bind fun _ => ?_
    refine (h.shown (by decide)).currentLight.leads.bind fun light => ?_
    exact ((h.addLight light).mono hsettled).returning
  refine Leads.ite (fun _ => ?_) fun _ => ?_
  · exact h.select (h.enter .CONTROL_SELECTION (Or.inr (Or.inr rfl))
      h.startPresetVisual)
  refine Leads.ite (fun _ => ?_) fun _ => h.pure _ trivial
  refine h.redrumHighlight.bind fun _ => ?_
  refine (h.clearSelected (by decide)).leads.bind fun _ => ?_
  refine (h.shown (by decide)).revertScene.leads.bind fun _ => ?_
  exact h.enter .IDLE trivial
    (h.leads_setState .IDLE (by decide) (by decide) (by decide))

/-! ## The control selection -/

/-- A visual starts for another control, with or without the scene. -/
theorem switch (hindex : index' ≠ -1) {start : Run Server Unit}
    (hstart : Leads (held .CONTROL_SELECTION index' none) start
      (held .CONTROL_SELECTION index' (owner .CONTROL_SELECTION index')))
    (hfits : Fits .CONTROL_SELECTION index') :
    Leads (held .CONTROL_SELECTION index none)
      (do setControlIndex index'; start) (Settled held) :=
  (h.leads_setControl hindex).bind fun _ =>
    hstart.mono fun _ => h.settled _ hfits

theorem switchReverted (hindex : index' ≠ -1) {start : Run Server Unit}
    (hstart : Leads (held .CONTROL_SELECTION index' none) start
      (held .CONTROL_SELECTION index' (owner .CONTROL_SELECTION index')))
    (hfits : Fits .CONTROL_SELECTION index') :
    Leads (held .CONTROL_SELECTION index none)
      (do setControlIndex index'; revertScene; start) (Settled held) :=
  (h.leads_setControl hindex).bind fun _ =>
    (h.shown (by decide)).revertScene.leads.bind fun _ =>
      hstart.mono fun _ => h.settled _ hfits

/-- The control over the channels, if the lights have it. -/
theorem switchDMX {x : Run Server Unit}
    (hx : Leads (held .CONTROL_SELECTION index none) x (Settled held)) :
    Leads (held .CONTROL_SELECTION index none)
      (do
        if (← get).canChangeDMX then
          setControlIndex (-1)
          revertScene
          Server.startDMXVisual
        else x) (Settled held) := by
  refine Leads.get_bind_eq fun s hs => Leads.ite (fun hcan => ?_) fun _ =>
    hx.of_eq hs
  have hset : Leads (fun t => t = s) (setControlIndex (-1))
      (held .CONTROL_SELECTION (-1) none) :=
    Leads.modify fun t ht => ht ▸ h.setControl (-1) s (fun _ => hcan) hs
  refine hset.bind fun _ =>
    (h.shown (by decide)).revertScene.leads.bind fun _ => ?_
  exact h.startDMXVisual.mono fun _ =>
    h.settled .CONTROL_SELECTION (Or.inl rfl)

theorem controlLeft (hfits : Fits .CONTROL_SELECTION index) :
    Leads (held .CONTROL_SELECTION index (owner .CONTROL_SELECTION index))
      (controlLeft index) (Settled held) := by
  rcases hfits with rfl | rfl | rfl
  · exact (h.redrum .dmxVisual (by decide)).bind fun _ =>
      h.switchReverted (by decide) h.startPresetVisual (Or.inr (Or.inr rfl))
  · exact (h.redrum .rainbowVisual (by decide)).bind fun _ => h.switchDMX
      (h.switch (by decide) h.startPresetVisual (Or.inr (Or.inr rfl)))
  · exact (h.redrum .presetVisual (by decide)).bind fun _ =>
      h.switchReverted (by decide) h.startRainbow (Or.inr (Or.inl rfl))

theorem controlRight (hfits : Fits .CONTROL_SELECTION index) :
    Leads (held .CONTROL_SELECTION index (owner .CONTROL_SELECTION index))
      (controlRight index) (Settled held) := by
  rcases hfits with rfl | rfl | rfl
  · exact (h.redrum .dmxVisual (by decide)).bind fun _ =>
      h.switchReverted (by decide) h.startRainbow (Or.inr (Or.inl rfl))
  · exact (h.redrum .rainbowVisual (by decide)).bind fun _ =>
      h.switchReverted (by decide) h.startPresetVisual (Or.inr (Or.inr rfl))
  · exact (h.redrum .presetVisual (by decide)).bind fun _ => h.switchDMX
      (h.switch (by decide) h.startRainbow (Or.inr (Or.inl rfl)))

theorem controlEnter (hfits : Fits .CONTROL_SELECTION index) :
    Leads (held .CONTROL_SELECTION index (owner .CONTROL_SELECTION index))
      (controlEnter index) (Settled held) := by
  rcases hfits with rfl | rfl | rfl
  · exact (h.redrum .dmxVisual (by decide)).bind fun _ =>
      h.enterDMX.mono fun _ => h.settled .DMX rfl
  · exact (h.redrum .rainbowVisual (by decide)).bind fun _ =>
      (h.leads_setState .COLOR_WHEEL (by decide) (by decide)
        fun _ => by decide).mono fun _ => h.settled .COLOR_WHEEL rfl
  · exact (h.redrum .presetVisual (by decide)).bind fun _ =>
      (h.leads_setState .PRESET (by decide) (by decide)
        fun _ => by decide).mono fun _ => h.settled .PRESET rfl

/-- The worker of the control ends, in whatever mode. -/
theorem redrumControl (hmode : mode ≠ .DMX)
    (hfits : Fits .CONTROL_SELECTION index) :
    Leads (held mode index (owner .CONTROL_SELECTION index))
      (redrumControl index) (held mode index none) := by
  rcases hfits with rfl | rfl | rfl
  · exact h.redrum .dmxVisual hmode
  · exact h.redrum .rainbowVisual hmode
  · exact h.redrum .presetVisual hmode

theorem controlSelectionMode (hfits : Fits .CONTROL_SELECTION index)
    (c : WirelessCommand) :
    Leads (held .CONTROL_SELECTION index (owner .CONTROL_SELECTION index))
      (controlSelectionMode c) (Settled held) := by
  unfold Server.controlSelectionMode
  refine Leads.ite (fun _ => h.pure _ hfits) fun _ => ?_
  refine Leads.ite (fun _ => Leads.get_bind fun s hs => ?_) fun _ => ?_
  · rw [h.control hs]
    exact (h.controlLeft hfits).returning
  refine Leads.ite (fun _ => Leads.get_bind fun s hs => ?_) fun _ => ?_
  · rw [h.control hs]
    exact (h.controlRight hfits).returning
  refine Leads.ite (fun _ => Leads.get_bind fun s hs => ?_) fun _ => ?_
  · rw [h.control hs]
    exact (h.controlEnter hfits).returning
  refine Leads.ite (fun _ => ?_) fun _ => h.pure _ hfits
  refine (h.leads_setState .LIGHT_SELECTION (by decide) (by decide)
    (by decide)).bind fun _ => Leads.get_bind fun s hs => ?_
  rw [h.control hs]
  refine (h.redrumControl (by decide) hfits).bind fun _ => ?_
  refine (h.shown (by decide)).revertScene.leads.bind fun _ => ?_
  exact h.highlight.returning

/-! ## The modes that change the selected lights -/

theorem confirm (hmode : mode ≠ .CHASE) :
    Leads (held mode index none) confirm (Settled held) :=
  (h.saveScene hmode).leads.bind fun _ =>
    (h.leads_setState .LIGHT_SELECTION (by decide) (by decide)
      fun hbelow => absurd hbelow (by decide)).bind fun _ => h.highlight

/-- The visual of a control starts again. -/
theorem leave (hbelow : Below mode) {start : Run Server Unit}
    (hstart : Leads (held .CONTROL_SELECTION index none) start
      (held .CONTROL_SELECTION index (owner .CONTROL_SELECTION index)))
    (hfits : Fits .CONTROL_SELECTION index) {beat : Bool} :
    Leads (held mode index none)
      (do
        Server.setState .CONTROL_SELECTION
        start
        return beat) (Settled held) :=
  (h.leads_setState .CONTROL_SELECTION (by decide) (by decide)
    fun _ => hbelow).bind fun _ => h.enter .CONTROL_SELECTION hfits hstart

theorem colorWheelMode (colorConverter : XYConverter) (c : WirelessCommand) :
    Leads (held .COLOR_WHEEL 0 (owner .COLOR_WHEEL 0))
      (colorWheelMode colorConverter c) (Settled held) := by
  have hshown : Shown (held .COLOR_WHEEL 0 (owner .COLOR_WHEEL 0)) :=
    h.shown (by decide)
  unfold Server.colorWheelMode
  refine Leads.ite (fun _ => ?_) fun _ => ?_
  · refine Leads.ite (fun _ => (h.confirm (by decide)).returning) fun _ => ?_
    exact Leads.ite (fun _ => h.leave (by decide) h.startRainbow
      (Or.inr (Or.inl rfl))) fun _ => h.pure .COLOR_WHEEL rfl
  refine Leads.ite (fun _ => ?_) fun _ => h.pure .COLOR_WHEEL rfl
  exact (Preserves.orThrow _ _).leads.bind fun p =>
    h.stay .COLOR_WHEEL rfl
      (hshown.showColor colorConverter p.1 p.2)

theorem dmxMode (c : WirelessCommand) :
    Leads (held .DMX (-1) (owner .DMX (-1))) (dmxMode c)
      (Settled held) := by
  have hstay : ∀ {x : Run Server Unit} {beat : Bool},
      Leads (held .DMX (-1) none) x (held .DMX (-1) none) →
        Leads (held .DMX (-1) none) (do x; return beat) (Settled held) :=
    fun hx => h.enter .DMX rfl hx
  unfold Server.dmxMode
  refine Leads.ite (fun _ => h.pure .DMX rfl) fun _ => ?_
  refine Leads.ite (fun _ => hstay h.channelLeft) fun _ => ?_
  refine Leads.ite (fun _ => hstay h.channelRight) fun _ => ?_
  refine Leads.ite (fun _ => hstay (h.changeChannel _ _)) fun _ => ?_
  refine Leads.ite (fun _ => hstay (h.changeChannel _ _)) fun _ => ?_
  refine Leads.ite (fun _ => (h.confirm (by decide)).returning) fun _ => ?_
  refine Leads.ite (fun _ => ?_) fun _ => ?_
  · refine (h.leads_setState .CONTROL_SELECTION (by decide) (by decide)
      fun _ => by decide).bind fun _ => ?_
    refine (h.shown (by decide)).revertScene.leads.bind fun _ => ?_
    exact h.enter .CONTROL_SELECTION (Or.inl rfl) h.startDMXVisual
  exact Leads.ite (fun _ => hstay h.clearLights)
    fun _ => h.pure .DMX rfl

theorem presetMode (c : WirelessCommand) :
    Leads (held .PRESET 1 (owner .PRESET 1)) (presetMode c)
      (Settled held) := by
  have hshown : Shown (held .PRESET 1 (owner .PRESET 1)) :=
    h.shown (by decide)
  have hmove : ∀ f : Server → ℤ, Preserves
      (held .PRESET 1 (owner .PRESET 1))
      (modify fun s => { s with currentPresetIndex := f s }) := fun f =>
    Preserves.modify fun s hs => h.fields s s.chaseSceneDelay
      s.currentLightIndex (f s) s.heartbeats hs
  have hstep : ∀ (f f' : Server → ℤ) (turns : Server → Prop)
      [DecidablePred turns], Preserves (held .PRESET 1 (owner .PRESET 1))
        (do
          modify fun s => { s with currentPresetIndex := f s }
          if turns (← get) then
            modify fun s => { s with currentPresetIndex := f' s }) :=
    fun f f' _ _ => (hmove f).bind fun _ => Preserves.get_bind fun _ =>
      Preserves.ite (hmove f') (Preserves.pure _)
  unfold Server.presetMode
  refine Leads.ite (fun _ => ?_) fun _ => ?_
  · refine Leads.bind (hstep _ _ fun s => s.currentPresetIndex < 0).leads
      fun _ => h.stay .PRESET rfl hshown.showPreset
  refine Leads.ite (fun _ => ?_) fun _ => ?_
  · refine Leads.bind (hstep _ _ fun s =>
      s.currentPresetIndex ≥ PRESETS.length).leads
      fun _ => h.stay .PRESET rfl hshown.showPreset
  refine Leads.ite (fun _ => (h.confirm (by decide)).returning) fun _ => ?_
  exact Leads.ite (fun _ => h.leave (by decide) h.startPresetVisual
    (Or.inr (Or.inr rfl))) fun _ => h.pure .PRESET rfl

/-! ## The modes that follow the gyro -/

theorem gyroMode (mode : Mode) (hmode : mode ≠ .DMX)
    (hfits : Fits mode index) (howner : owner mode index = none)
    (dimmer : Int32 → Int32) (color : ℕ → Color) (c : WirelessCommand) :
    Leads (held mode index (owner mode index)) (gyroMode dimmer color c)
      (Settled held) := by
  unfold Server.gyroMode
  refine Leads.ite (fun _ => ?_) fun _ => ?_
  · refine Leads.ite (fun _ => ?_) fun _ => h.pure _ hfits
    rw [howner]
    exact h.enter .IDLE trivial (h.leads_setState .IDLE (by decide)
      (by decide) fun hbelow => absurd hbelow (by decide))
  exact Leads.ite (fun _ => h.stay _ hfits ((h.shown hmode).showAll _ _))
    fun _ => h.pure _ hfits

/-! ## The loop -/

theorem debugSwitch (c : WirelessCommand) :
    Leads (fun s => Settled held s ∧ ¬ Abandons s.currentState c)
      (debugSwitch c) (Settled held) := by
  refine Leads.ite (fun hkonami => ?_) fun _ => Leads.pure _ fun _ hs => hs.1
  refine Leads.returning (Leads.modify fun s hs => ?_)
  have hnone := owner_eq_none (fun hworker => hs.2 ⟨hkonami, hworker⟩)
    s.currentControlIndex
  have hheld := hs.1.2
  rw [hnone] at hheld
  have hparty := h.setState .PARTY s (by decide) (by decide)
    (fun hbelow => absurd hbelow (by decide)) hheld
  exact h.settled .PARTY trivial hparty

theorem mainSwitch (colorConverter : XYConverter) (random : ℕ → Color)
    (c : WirelessCommand) :
    Leads (Settled held) (mainSwitch colorConverter random c)
      (Settled held) := by
  refine Leads.get_bind_eq fun s ⟨hfits, hs⟩ => ?_
  generalize s.currentControlIndex = index at hfits hs
  cases hstate : s.currentState with
  | CHASE =>
      rw [hstate] at hs
      exact (h.chaseMode c).of_eq hs
  | IDLE =>
      rw [hstate] at hs
      exact (h.idleMode c).of_eq hs
  | LIGHT_SELECTION =>
      rw [hstate] at hs
      exact (h.lightSelectionMode c).of_eq hs
  | CONTROL_SELECTION =>
      rw [hstate] at hs hfits
      exact (h.controlSelectionMode hfits c).of_eq hs
  | COLOR_WHEEL =>
      rw [hstate] at hs hfits
      cases hfits
      exact (h.colorWheelMode colorConverter c).of_eq hs
  | DMX =>
      rw [hstate] at hs hfits
      cases hfits
      exact (h.dmxMode c).of_eq hs
  | PRESET =>
      rw [hstate] at hs hfits
      cases hfits
      exact (h.presetMode c).of_eq hs
  | PARTY =>
      rw [hstate] at hs
      exact (h.gyroMode .PARTY (by decide) trivial rfl _ _ c).of_eq hs
  | SCARY =>
      rw [hstate] at hs
      exact (h.gyroMode .SCARY (by decide) trivial rfl _ _ c).of_eq hs

/-- A round of the loop that abandons no worker. -/
theorem processCommand (colorConverter : XYConverter) (random : ℕ → Color)
    (command : WirelessCommand) :
    Leads (fun s => Settled held s ∧ (Interprets command →
        ¬ Abandons s.currentState command.parse.2))
      (processCommand colorConverter random command) (Settled held) := by
  unfold Server.processCommand
  refine Leads.ite (fun hinterprets => ?_) fun _ =>
    Leads.pure _ fun _ hs => hs.1
  have hdebug := (h.debugSwitch command.parse.2).conseq
    (fun s (hs : Settled held s ∧ (Interprets command →
      ¬ Abandons s.currentState command.parse.2)) =>
        ⟨hs.1, hs.2 hinterprets⟩)
    (fun _ _ hs => hs) (fun _ _ he => he)
  refine Leads.bind hdebug fun konami => ?_
  refine (h.mainSwitch colorConverter random _).bind fun beat => ?_
  refine Leads.ite (fun _ => Leads.modify fun s hs => ?_) fun _ =>
    Leads.pure _ fun _ hs => hs
  exact ⟨hs.1, h.fields s s.chaseSceneDelay s.currentLightIndex
    s.currentPresetIndex _ hs.2⟩

end Custody

end ChuckLight.Server
