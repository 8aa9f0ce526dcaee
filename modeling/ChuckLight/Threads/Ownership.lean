import ChuckLight.Threads.Custody
import ChuckLight.Threads.Frame
import ChuckLight.Threads.Slots

/-!
# Which workers are alive

The live workers are those that the mode owns, unless a command leaves a mode
without telling its worker, or a worker ends by itself.
-/

namespace ChuckLight

open Java Connection LightingDefines

/-! ## Ownership -/

namespace Server

/-- Worker `i` of a field is alive. -/
def Live (s : Server) (k : WorkerField) (i : ℕ) : Prop :=
  ∃ w, (s.slots k).workers[i]? = some w ∧ w.alive = true

/-- The live workers are those that the mode owns. -/
structure Owns (s : Server) : Prop where
  control : s.currentState = .CONTROL_SELECTION →
    s.currentControlIndex ∈ [-1, 0, 1]
  owned : ∀ k, owner s.currentState s.currentControlIndex = some k →
    ∃ i, (s.slots k).ref = some i
  live : ∀ k i, s.Live k i ↔
    owner s.currentState s.currentControlIndex = some k ∧
      (s.slots k).ref = some i

/-! ## Expected workers -/

/-- No field has a worker. -/
def idle : WorkerField → Option Phase := fun _ => none

/-- One field has a worker in a phase. -/
def only (k : WorkerField) (phase : Phase) : WorkerField → Option Phase :=
  Function.update idle k (some phase)

/-- The server is in a mode and its workers are as expected. -/
structure At (mode : Mode) (index : ℤ) (workers : WorkerField → Option Phase)
    (s : Server) : Prop where
  state : s.currentState = mode
  control : s.currentControlIndex = index
  chase : mode = .CHASE → 1 < s.sceneManager.scenes.length
  slots : ∀ k, (s.slots k).Is (workers k)

variable {mode mode' : Mode} {index index' : ℤ} {α : Type}
  {workers : WorkerField → Option Phase} {s : Server} {k : WorkerField}

theorem At.setSlot (h : At mode index workers s) {slot : Slot k.Object}
    (expected : Option Phase) (hslot : slot.Is expected) :
    At mode index (Function.update workers k expected) (s.setSlot k slot) := by
  refine ⟨h.state, h.control, h.chase, fun k' => ?_⟩
  by_cases hk : k' = k
  · subst hk
    rw [slots_setSlot_self, Function.update_self]
    exact hslot
  · rw [slots_setSlot_of_ne hk, Function.update_of_ne hk]
    exact h.slots k'

/-- A worker gets to its next phase. -/
theorem At.setOnly {phase phase' : Phase}
    (h : At mode index (only k phase) s) {slot : Slot k.Object}
    (hslot : slot.Only phase') :
    At mode index (only k phase') (s.setSlot k slot) := by
  have hat := h.setSlot (some phase') hslot
  rw [only, Function.update_idem] at hat
  exact hat

theorem At.slot_only {phase : Phase} (h : At mode index (only k phase) s) :
    (s.slots k).Only phase := by
  have hslot := h.slots k
  rw [only, Function.update_self] at hslot
  exact hslot

theorem frame_at : Frame (At mode index workers) where
  rig := fun _ _ h => ⟨h.state, h.control, h.chase, h.slots⟩
  scenes := fun _ _ hscenes _ h =>
    ⟨h.state, h.control, fun hm => hscenes ▸ h.chase hm, h.slots⟩
  object := fun s k i stage h => by
    have hat := h.setSlot _ ((h.slots k).object i stage.2)
    rw [Function.update_eq_self] at hat
    exact ⟨hat.state, hat.control, hat.chase, hat.slots⟩
  fields := fun _ _ _ _ _ _ _ h => ⟨h.state, h.control, h.chase, h.slots⟩

/-! ## What changes the mode or the workers -/

theorem leads_setState (mode' : Mode) (hmode : mode' ≠ .CHASE) :
    Leads (At mode index workers) (setState mode')
      (At mode' index workers) :=
  Leads.modify fun _ h =>
    ⟨rfl, h.control, fun hm => absurd hm hmode, h.slots⟩

theorem leads_setControlIndex (index' : ℤ) :
    Leads (At mode index workers) (setControlIndex index')
      (At mode index' workers) :=
  Leads.modify fun _ h => ⟨h.state, rfl, h.chase, h.slots⟩

theorem leads_startWorker (k : WorkerField) (object : k.Object) :
    Leads (At mode index idle) (startWorker k object)
      (At mode index (only k .started)) :=
  Leads.modify fun s h =>
    h.setSlot (some .started)
      ((h.slots k : (s.slots k).Idle).construct object).launch

theorem leads_clearRunning (k : WorkerField) :
    Leads (At mode index (only k .started)) (clearRunning k)
      (At mode index (only k .told)) :=
  (preserves_deref k).leads.bind fun p => Leads.modify fun _ h =>
    h.setOnly (h.slot_only.tell _ p.1)

theorem leads_join (k : WorkerField) :
    Leads (At mode index (only k .told)) (join k) (At mode index idle) := by
  intro s h
  obtain ⟨i, w, hi, hw, hin, hothers⟩ := h.slot_only
  unfold join
  rw [bind_of_ok (deref_of_ref hi hw)]
  by_cases hwaits : w.alive = true ∧ w.begun = false
  · rw [if_pos hwaits]
    trivial
  · rw [if_neg hwaits]
    have hidle : Slot.Idle { (s.slots k).finish i with ref := none } :=
      Slot.Only.finish ⟨i, w, hi, hw, hin, hothers⟩ hi
    have hat := h.setSlot none hidle
    rw [only, Function.update_idem] at hat
    have hnone : Function.update idle k none = idle :=
      Function.update_eq_self k idle
    rw [hnone] at hat
    exact hat

theorem leads_redrum (k : WorkerField) :
    Leads (At mode index (only k .started)) (redrum k)
      (At mode index idle) :=
  (leads_clearRunning k).bind fun _ => leads_join k

theorem leads_startHighlight :
    Leads (At mode index idle) startHighlight
      (At mode index (only .highlight .started)) := by
  have hconstruct : Leads (At mode index idle)
      (modify fun s => s.setSlot .highlight
        ((s.slots .highlight).construct HighlightThread.new))
      (At mode index (only .highlight .constructed)) :=
    Leads.modify fun s h => h.setSlot (some .constructed)
      ((h.slots .highlight : (s.slots .highlight).Idle).construct _)
  refine hconstruct.bind fun _ => Leads.get_bind fun s _ => ?_
  refine (frame_at.onRig _).leads.bind fun light => ?_
  refine (frame_at.onHighlight _).leads.bind fun _ => ?_
  exact Leads.modify fun s h => h.setOnly h.slot_only.launch

theorem leads_redrumHighlight :
    Leads (At mode index (only .highlight .started)) redrumHighlight
      (At mode index idle) :=
  (leads_clearRunning .highlight).bind fun _ =>
    (frame_at.onHighlight _).leads.bind fun temp =>
      (leads_join .highlight).bind fun _ => Leads.pure temp fun _ h => h

/-! ## Modes and their workers -/

/-- The worker that a mode owns has been started. -/
def owned (mode : Mode) (index : ℤ) : WorkerField → Option Phase :=
  match owner mode index with
  | none => idle
  | some k => only k .started

theorem owned_of_eq (h : owner mode index = some k) :
    owned mode index k = some .started := by
  unfold owned
  rw [h]
  exact Function.update_self ..

theorem owned_of_ne (h : owner mode index ≠ some k) :
    owned mode index k = none := by
  unfold owned
  cases howner : owner mode index with
  | none => rfl
  | some k' =>
      have hne : k ≠ k' := fun hk => h (howner.trans (congrArg some hk.symm))
      exact Function.update_of_ne hne ..

/-- The workers are those that the mode owns. -/
def Settled (s : Server) : Prop :=
  Fits s.currentState s.currentControlIndex ∧
    At s.currentState s.currentControlIndex
      (owned s.currentState s.currentControlIndex) s

theorem At.settled (h : At mode index (owned mode index) s)
    (hfits : Fits mode index) : Settled s := by
  have hstate := h.state
  have hcontrol := h.control
  subst hstate hcontrol
  exact ⟨hfits, h⟩

/-- The worker of a field has been started, or no field has a worker. -/
def started : Option WorkerField → WorkerField → Option Phase
  | none => idle
  | some k => only k .started

theorem preserves_onScenes (hmode : mode ≠ .CHASE)
    (x : Run SceneManager α) :
    Preserves (At mode index workers) (onScenes x) :=
  Preserves.zoom x fun _ _ h =>
    ⟨h.state, h.control, fun hm => absurd hm hmode, h.slots⟩

/-- The highlight ends and its lights become the selected ones. -/
theorem leads_takeSelection :
    Leads (At mode index (only .highlight .started)) takeSelection
      (At mode index idle) :=
  leads_redrumHighlight.bind fun _ =>
    (frame_at.edits.setSelectedLights _).leads.bind fun _ =>
      frame_at.edits.firstNumChannels.leads.bind fun _ =>
        (frame_at.edits.compareChannels _ _).leads

theorem custody_at :
    Custody fun mode index o => At mode index (started o) where
  state := fun h => h.state
  control := fun h => h.control
  shown := fun _ => frame_at.edits.toShown
  fields := fun _ _ _ _ _ h => ⟨h.state, h.control, h.chase, h.slots⟩
  marks := fun _ _ _ _ h => ⟨h.state, h.control, h.chase, h.slots⟩
  scenes := fun _ _ hmode h =>
    ⟨h.state, h.control, fun hm => absurd hm hmode, h.slots⟩
  setState := fun _ _ hmode _ _ h =>
    ⟨rfl, h.control, fun hm => absurd hm hmode, h.slots⟩
  chase := fun _ hlen h => ⟨rfl, h.control, fun _ => hlen, h.slots⟩
  setControl := fun _ _ _ h => ⟨h.state, rfl, h.chase, h.slots⟩
  startWorker := fun k object _ _ => leads_startWorker k object
  redrum := fun k _ => leads_redrum k
  startHighlight := leads_startHighlight
  redrumHighlight := leads_redrumHighlight
  addLight := fun _ => (frame_at.onHighlight _).leads
  removeLight := fun _ => (frame_at.onHighlight _).leads
  select := fun hx =>
    (leads_setState .CONTROL_SELECTION (by decide)).bind fun _ =>
      leads_takeSelection.bind fun _ => (frame_at.onRig _).leads.bind
        fun _ => frame_at.edits.revertScene.leads.bind fun _ =>
          (leads_setControlIndex 1).bind fun _ => hx
  enterDMX := frame_at.edits.revertScene.leads.bind fun _ =>
    (frame_at.edits.modifyChannelIndex _).leads.bind fun _ =>
      leads_setState .DMX (by decide)
  channelLeft := frame_at.edits.channelLeft.leads
  channelRight := frame_at.edits.channelRight.leads
  changeChannel := fun _ _ => (frame_at.edits.changeChannel _ _).leads
  clearLights := frame_at.edits.clearLights.leads

theorem frame_settled : Frame Settled where
  rig := fun s r h => ⟨h.1, frame_at.rig s r h.2⟩
  scenes := fun s m hscenes hfile h =>
    ⟨h.1, frame_at.scenes s m hscenes hfile h.2⟩
  object := fun s k i stage h => ⟨h.1, frame_at.object s k i stage h.2⟩
  fields := fun s selectedLights delay light preset channel canChangeDMX h =>
    ⟨h.1, frame_at.fields s selectedLights delay light preset channel
      canChangeDMX h.2⟩

theorem leads_processCommand (colorConverter : XYConverter)
    (random : ℕ → Color) (command : WirelessCommand) :
    Leads (fun s => Settled s ∧ (Interprets command →
        ¬ Abandons s.currentState command.parse.2))
      (processCommand colorConverter random command) Settled :=
  custody_at.processCommand colorConverter random command

/-! ## Workers -/

variable {i : ℕ}

theorem Settled.only (h : Settled s)
    (howner : owner s.currentState s.currentControlIndex = some k) :
    (s.slots k).Only .started := by
  have hslot := h.2.slots k
  rw [owned_of_eq howner] at hslot
  exact hslot

/-- A live worker is one of the field that the mode owns. -/
theorem Settled.owner_of_alive (h : Settled s) {w : Worker k.Object}
    (hw : (s.slots k).workers[i]? = some w) (halive : w.alive = true) :
    owner s.currentState s.currentControlIndex = some k := by
  by_contra hne
  have hslot := h.2.slots k
  rw [owned_of_ne hne] at hslot
  have hdead : w.alive = false := hslot i w hw
  rw [halive] at hdead
  cases hdead

theorem Settled.owns (h : Settled s) : Owns s where
  control := fun hstate => by
    have hfits := h.1
    rw [hstate] at hfits
    rcases hfits with hindex | hindex | hindex <;> simp [hindex]
  owned := fun k howner => by
    obtain ⟨i, w, hi, _⟩ := h.only howner
    exact ⟨i, hi⟩
  live := fun k i => by
    constructor
    · rintro ⟨w, hw, halive⟩
      have howner := h.owner_of_alive hw halive
      exact ⟨howner, ((h.only howner).eq_ref hw halive).1⟩
    · rintro ⟨howner, href⟩
      exact ((h.only howner).alive_iff i).mpr href

theorem owner_chase (h : owner mode index = some .chase) : mode = .CHASE := by
  unfold owner at h
  split at h
  · rfl
  · cases h
  · split_ifs at h <;> cases h
  · cases h

/-- A worker that may begin does not return at once. -/
theorem Settled.returns_eq_false (h : Settled s)
    (howner : owner s.currentState s.currentControlIndex = some k) :
    k.returns s.sceneManager = false := by
  unfold WorkerField.returns
  by_cases hk : k = .chase
  · subst hk
    have hlen := h.2.chase (owner_chase howner)
    simp [hlen]
  · simp [hk]

theorem Settled.beginWorker (h : Settled s)
    (howner : owner s.currentState s.currentControlIndex = some k)
    (href : (s.slots k).ref = some i) : Settled (beginWorker k i s) := by
  have hat := h.2.setSlot (some .started)
    ((h.only howner).begin k.isStatic href)
  have hupdate : Function.update
      (owned s.currentState s.currentControlIndex) k (some .started) =
      owned s.currentState s.currentControlIndex := by
    rw [← owned_of_eq howner]
    exact Function.update_eq_self ..
  rw [hupdate] at hat
  exact ⟨h.1, hat⟩

/-- A step of a worker keeps the workers, unless it leaves a pass by an
exception. -/
theorem leads_tick :
    Leads (fun s => Settled s ∧ ¬ Throws k i s) (tick k i) Settled := by
  rintro s ⟨h, hthrows⟩
  unfold Server.tick
  cases hw : (s.slots k).workers[i]? with
  | none => exact h
  | some w =>
      by_cases halive : w.alive = false
      · simp only [halive, if_true]
        exact h
      · have hlive : w.alive = true := Bool.eq_true_of_not_eq_false halive
        have howner := h.owner_of_alive hw hlive
        obtain ⟨href, hin⟩ := (h.only howner).eq_ref hw hlive
        simp only [if_neg halive]
        by_cases hbegun : w.begun = false
        · simp only [if_pos hbegun, h.returns_eq_false howner]
          exact h.beginWorker howner href
        · simp only [if_neg hbegun]
          have hbegan := Bool.eq_true_of_not_eq_false hbegun
          have hrunning := hin.2 hbegan
          simp only [hrunning, Bool.true_eq_false, if_false]
          cases hpass : passResult k w.object s with
          | ok a stage => exact frame_settled.object s k i stage h
          | error e stage =>
              cases e with
              | exited => trivial
              | blocked => exact h
              | thrown t =>
                  exact absurd ⟨w, hw, hlive, hbegan, hrunning, t, stage, hpass⟩
                    hthrows

end Server

/-! ## Runs -/

namespace Process

open Server

/-- A command does not abandon a worker, and a worker does not leave a pass by
an exception. -/
def Minds (p : Process) : Event → Prop
  | .packet _ receiveData =>
      Interprets (.new receiveData) →
        ¬ Abandons p.server.currentState
          (WirelessCommand.new receiveData).parse.2
  | .tick k i => ¬ Throws k i p.server

instance (p : Process) (e : Event) : Decidable (Minds p e) :=
  match e with
  | .packet _ receiveData =>
      inferInstanceAs (Decidable (Interprets (.new receiveData) →
        ¬ Abandons p.server.currentState
          (WirelessCommand.new receiveData).parse.2))
  | .tick k i => inferInstanceAs (Decidable (¬ Throws k i p.server))

variable {colorConverter : XYConverter} {p : Process} {e : Event}

theorem while_settled_step (h : While Settled p) (hminds : Minds p e) :
    While Settled (step colorConverter p e) := by
  have hpre : While (fun s => Settled s ∧ Minds ⟨s, p.ended⟩ e) p :=
    fun hended => ⟨h hended, hminds⟩
  refine while_step hpre ?_ fun _ => h
  cases e with
  | packet random receiveData =>
      exact leads_processCommand colorConverter random (.new receiveData)
  | tick k i => exact leads_tick

theorem settled_of_starts {dmx : DefaultDMX} {profiles : List FixtureProfile}
    {file : Option (List Char)} (h : Starts dmx profiles file p) :
    Settled p.server := by
  have hinit : At .IDLE 0 (owned .IDLE 0) (init dmx profiles file) := by
    refine ⟨rfl, rfl, fun hm => (by cases hm), fun k i w hw => ?_⟩
    cases hw
  have hscenes : Preserves (At .IDLE 0 (owned .IDLE 0)) startScenes :=
    (frame_at.onRig _).bind fun _ =>
      (preserves_onScenes (by decide) _).bind fun _ =>
        preserves_onScenes (by decide) _
  exact (hscenes.of_ok hinit h.1).settled trivial

/-- In every run in which no command abandons a worker and no worker leaves a
pass by an exception, the live workers are always those that the mode owns. -/
theorem owns_of_minds {dmx : DefaultDMX} {profiles : List FixtureProfile}
    {file : Option (List Char)} {events : List Event}
    (hstart : Starts dmx profiles file p)
    (hminds : Runs.AllSteps (step colorConverter) Minds p events) :
    ∀ t ∈ Runs.states (step colorConverter) p events, While Owns t := by
  intro t ht hended
  have hsettled := Runs.invariant (fun _ _ h hok => while_settled_step h hok)
    (fun _ => settled_of_starts hstart) hminds t ht
  exact (hsettled hended).owns

/-- A light is highlighted and selected, and its device is lost; the color wheel
is entered twice, and the party begins there. -/
def toParty : List Event :=
  [button B1, .tick .highlight 0, .tick .highlight 0, button PS2,
    .tick .highlight 0, button B1, .tick .presetVisual 0,
    .tick .presetVisual 0, button LEFT, .tick .rainbowVisual 0,
    .tick .rainbowVisual 0, button B1, button B2, .tick .rainbowVisual 1,
    .tick .rainbowVisual 1, button B1, button KONAMI]

theorem owns_of_minds_toParty :
    Owns (toParty.foldl (step fun _ _ => Color.WHITE)
      (losingDevice 28 [parLight])).server := by
  have hstart : Starts (lostAfter 28) [parLight] none
      (losingDevice 28 [parLight]) := ⟨rfl, rfl⟩
  have hminds : Runs.AllSteps (step fun _ _ => Color.WHITE) Minds
      (losingDevice 28 [parLight]) toParty := by decide +kernel
  have hended : (toParty.foldl (step fun _ _ => Color.WHITE)
      (losingDevice 28 [parLight])).ended = none := by decide +kernel
  exact owns_of_minds hstart hminds _ Runs.foldl_mem_states hended

/-- The party command leaves the light selection without ending the
highlight. -/
theorem not_owns_konami :
    ¬ ∀ t ∈ Runs.states (step fun _ _ => Color.WHITE) (oneLight none)
      [button B1, button KONAMI], While Owns t := by
  intro h
  have howns := h _ (List.mem_cons_of_mem _ (List.mem_cons_of_mem _
    (List.mem_singleton_self _))) rfl
  have hlive := (howns.live .highlight 0).mp ⟨_, rfl, rfl⟩
  exact absurd hlive.1 (by decide)

end Process

end ChuckLight
