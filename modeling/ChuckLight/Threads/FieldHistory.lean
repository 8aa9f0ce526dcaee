import ChuckLight.Threads.Custody
import ChuckLight.Threads.Staffing

/-!
# The workers of a field since a moment

A field of the server has had some workers at some moment.  Later it may have
more, and the earlier ones can end; once the field has been stopped, it refers
to none of the earlier workers, and none of them is alive.
-/

namespace ChuckLight

open Java

/-! ## Single fields -/

namespace Slot

variable {β : Type} {slot slot' : Slot β} {count : ℕ}
  {stopped stopped' allowed allowed' : Prop}

/-- No worker is alive but the one that the field refers to, and the field is
null unless a worker is allowed.  The field had `count` workers at some moment;
if it has been stopped since, it refers to none of them. -/
structure Since (count : ℕ) (stopped allowed : Prop) (slot : Slot β) :
    Prop where
  staffed : slot.Staffed (fun _ => True) allowed
  ref_eq_none : ¬ allowed → slot.ref = none
  count_le : count ≤ slot.workers.length
  le_ref : stopped → ∀ i, slot.ref = some i → count ≤ i

/-- Once the field has been stopped, its first workers are dead. -/
theorem Since.le_of_alive (h : slot.Since count stopped allowed)
    (hstopped : stopped) {i : ℕ} {w : Worker β}
    (hw : slot.workers[i]? = some w) (halive : w.alive = true) : count ≤ i :=
  h.le_ref hstopped i (h.staffed.ref i w hw halive)

theorem Since.imp (h : slot.Since count stopped allowed)
    (hstopped : stopped' → stopped) (hallowed : allowed → allowed') :
    slot.Since count stopped' allowed' where
  staffed := ⟨h.staffed.ref, fun hnot => h.staffed.idle
    fun hyes => hnot (hallowed hyes), h.staffed.fine⟩
  ref_eq_none := fun hnot => h.ref_eq_none fun hyes => hnot (hallowed hyes)
  count_le := h.count_le
  le_ref := fun hs => h.le_ref (hstopped hs)

theorem length_workers_setRunning (slot : Slot β) (isStatic running : Bool)
    (i : ℕ) : (slot.setRunning isStatic i running).workers.length =
      slot.workers.length := by
  unfold setRunning modifyAt
  split_ifs
  · exact List.length_map _
  · exact List.length_modify ..

theorem Since.setRunning (h : slot.Since count stopped allowed)
    (isStatic : Bool) (i : ℕ) (running : Bool) :
    (slot.setRunning isStatic i running).Since count stopped allowed where
  staffed := h.staffed.setRunning isStatic i running
  ref_eq_none := fun hnot => (ref_setRunning ..).trans (h.ref_eq_none hnot)
  count_le := by
    rw [length_workers_setRunning]
    exact h.count_le
  le_ref := fun hstopped j hj =>
    h.le_ref hstopped j ((ref_setRunning ..).symm.trans hj)

/-- A worker changes, and is not brought to life. -/
theorem Since.modifyAt (h : slot.Since count stopped allowed) (i : ℕ)
    {f : Worker β → Worker β}
    (halive : ∀ w, w.alive = false → (f w).alive = false) :
    (slot.modifyAt i f).Since count stopped allowed where
  staffed := h.staffed.modifyAt i halive fun _ _ => trivial
  ref_eq_none := h.ref_eq_none
  count_le := h.count_le.trans_eq (List.length_modify ..).symm
  le_ref := h.le_ref

/-- A new worker, which is not alive yet. -/
theorem Since.construct (h : slot.Since count stopped allowed)
    (hidle : slot.Idle) (hallowed : allowed') (object : β) :
    (slot.construct object).Since count stopped allowed' ∧
      (slot.construct object).Idle := by
  have hstaffed : (slot.construct object).Staffed (fun _ => True) False :=
    h.staffed.construct hidle trivial
  refine ⟨⟨h.staffed.construct hidle trivial, fun hnot =>
    absurd hallowed hnot, ?_, fun _ i hi => ?_⟩, hstaffed.idle id⟩
  · show count ≤ (slot.workers ++ [_]).length
    have hle := h.count_le
    rw [List.length_append]
    omega
  · have heq : slot.workers.length = i := Option.some.inj hi
    exact h.count_le.trans_eq heq

theorem Since.launch (h : slot.Since count stopped allowed)
    (hidle : slot.Idle) (hallowed : allowed) :
    slot.launch.Since count stopped allowed := by
  refine ⟨h.staffed.launch hidle hallowed, fun hnot => absurd hallowed hnot,
    ?_, fun hstopped i hi => ?_⟩
  · have hsame : slot.SameObjects slot.launch := sameObjects_launch
    have hlength := congrArg List.length hsame.workers
    rw [List.length_map, List.length_map] at hlength
    exact h.count_le.trans_eq hlength.symm
  · exact h.le_ref hstopped i (sameObjects_launch.ref.symm.trans hi)

/-- The worker ends, and the field is stopped. -/
theorem Since.finish (h : slot.Since count stopped allowed) {i : ℕ}
    (hi : slot.ref = some i) :
    Since count stopped' allowed' { slot.finish i with ref := none } where
  staffed := h.staffed.finish hi
  ref_eq_none := fun _ => rfl
  count_le := h.count_le.trans_eq (List.length_modify ..).symm
  le_ref := fun _ _ hnone => nomatch hnone

end Slot

/-! ## All fields -/

namespace Server

variable {count : WorkerField → ℕ} {stopped stopped' : WorkerField → Prop}
  {mode : Mode} {index : ℤ} {o o' : Option WorkerField} {k : WorkerField}
  {s : Server} {α : Type}

/-- The server is in a mode, and no worker is alive but one of the field `o`.
The fields that have been stopped since a moment have none from before it. -/
structure Since (count : WorkerField → ℕ) (stopped : WorkerField → Prop)
    (mode : Mode) (index : ℤ) (o : Option WorkerField) (s : Server) :
    Prop where
  state : s.currentState = mode
  control : s.currentControlIndex = index
  slots : ∀ k, (s.slots k).Since (count k) (stopped k) (o = some k)

/-- A change of the workers of one field. -/
theorem Since.setSlot (h : Since count stopped mode index o s)
    {slot : Slot k.Object}
    (hslot : slot.Since (count k) (stopped' k) (o' = some k))
    (hstopped : ∀ k' ≠ k, stopped' k' → stopped k')
    (hothers : ∀ k' ≠ k, o = some k' → o' = some k') :
    Since count stopped' mode index o' (s.setSlot k slot) := by
  refine ⟨h.state, h.control, fun k' => ?_⟩
  by_cases hk : k' = k
  · subst hk
    rw [slots_setSlot_self]
    exact hslot
  · rw [slots_setSlot_of_ne hk]
    exact (h.slots k').imp (hstopped k' hk) (hothers k' hk)

/-- A change that brings no worker to life. -/
theorem Since.setSlot_same (h : Since count stopped mode index o s)
    {slot : Slot k.Object}
    (hslot : slot.Since (count k) (stopped k) (o = some k)) :
    Since count stopped mode index o (s.setSlot k slot) :=
  h.setSlot hslot (fun _ _ hs => hs) fun _ _ ho => ho

theorem frame_since : Frame (Since count stopped mode index o) where
  rig := fun _ _ h => ⟨h.state, h.control, h.slots⟩
  scenes := fun _ _ _ _ h => ⟨h.state, h.control, h.slots⟩
  object := fun s k i stage h => by
    have hobject := (h.slots k).modifyAt i
      (f := fun w => { w with object := stage.2 }) fun _ hw => hw
    have hset := h.setSlot_same hobject
    exact ⟨hset.state, hset.control, hset.slots⟩
  fields := fun _ _ _ _ _ _ _ h => ⟨h.state, h.control, h.slots⟩

theorem since_clearRunning (k : WorkerField) :
    Preserves (Since count stopped mode index o) (clearRunning k) :=
  (preserves_deref k).bind fun _ => Preserves.modify fun _ h =>
    h.setSlot_same ((h.slots k).setRunning _ _ _)

section

variable (hstopped : ∀ k' ≠ k, stopped' k' → stopped k')
  (hothers : ∀ k' ≠ k, o = some k' → o' = some k')

include hstopped hothers

/-- The field has no worker any more, and can count as stopped. -/
theorem triple_join_since :
    Triple (Since count stopped mode index o) (join k)
      (fun _ => Since count stopped' mode index o')
      (fun _ => Since count stopped mode index o) := by
  intro s h
  unfold join
  rcases deref_cases k s with ⟨i, w, hi, hw, hderef⟩ | hderef
  · rw [bind_of_ok hderef]
    by_cases hwaits : w.alive = true ∧ w.begun = false
    · rw [if_pos hwaits]
      exact h
    · rw [if_neg hwaits]
      exact h.setSlot ((h.slots k).finish hi) hstopped hothers
  · rw [bind_of_error hderef]
    exact h

theorem triple_redrum_since :
    Triple (Since count stopped mode index o) (redrum k)
      (fun _ => Since count stopped' mode index o')
      (fun _ => Since count stopped mode index o) :=
  Triple.bind (since_clearRunning k) fun _ =>
    triple_join_since hstopped hothers

theorem triple_redrumHighlight_since (hk : k = .highlight) :
    Triple (Since count stopped mode index o) redrumHighlight
      (fun _ => Since count stopped' mode index o')
      (fun _ => Since count stopped mode index o) := by
  subst hk
  refine Triple.bind (since_clearRunning .highlight) fun _ => ?_
  refine Triple.bind (frame_since.onHighlight _) fun temp => ?_
  exact (triple_join_since hstopped hothers).bind fun _ =>
    Triple.pure fun _ h => h

end

theorem leads_startWorker_since (k : WorkerField) (object : k.Object) :
    Leads (Since count stopped mode index none) (startWorker k object)
      (Since count stopped mode index (some k)) := by
  refine Leads.modify fun s h => ?_
  obtain ⟨hnew, hidle⟩ := (h.slots k).construct
    ((h.slots k).staffed.idle nofun) (rfl : some k = some k) object
  exact h.setSlot (hnew.launch hidle rfl) (fun _ _ hs => hs)
    fun _ _ ho => nomatch ho

/-- The object of a worker changes, and no worker of a field is alive. -/
theorem idle_store {k' : WorkerField} {s : Server} (h : (s.slots k').Idle)
    (k : WorkerField) (i : ℕ) (stage : Stage k.Object) :
    ((store k i stage s).slots k').Idle := by
  unfold store
  by_cases hk : k' = k
  · subst hk
    rw [slots_setSlot_self]
    have his : (s.slots k').Is none := h
    exact his.object i stage.2
  · rw [slots_setSlot_of_ne hk]
    exact h

/-- The highlight has been constructed and not started yet. -/
theorem frame_constructed : Frame fun s =>
    Since count stopped mode index (some .highlight) s ∧
      (s.slots .highlight).Idle where
  rig := fun s r h => ⟨frame_since.rig s r h.1, h.2⟩
  scenes := fun s m hscenes hfile h =>
    ⟨frame_since.scenes s m hscenes hfile h.1, h.2⟩
  object := fun s k i stage h =>
    ⟨frame_since.object s k i stage h.1, idle_store h.2 k i stage⟩
  fields := fun s selectedLights delay light preset channel canChangeDMX h =>
    ⟨frame_since.fields s selectedLights delay light preset channel
      canChangeDMX h.1, h.2⟩

theorem leads_startHighlight_since :
    Leads (Since count stopped mode index none) startHighlight
      (Since count stopped mode index (some .highlight)) := by
  have hconstruct : Leads (Since count stopped mode index none)
      (modify fun s => s.setSlot .highlight
        ((s.slots .highlight).construct HighlightThread.new))
      fun s => Since count stopped mode index (some .highlight) s ∧
        (s.slots .highlight).Idle := by
    refine Leads.modify fun s h => ?_
    obtain ⟨hnew, hidle⟩ := (h.slots .highlight).construct
      ((h.slots .highlight).staffed.idle nofun)
      (rfl : some WorkerField.highlight = some .highlight)
      HighlightThread.new
    refine ⟨h.setSlot hnew (fun _ _ hs => hs) (fun _ _ ho => nomatch ho), ?_⟩
    rw [slots_setSlot_self]
    exact hidle
  refine hconstruct.bind fun _ => Leads.get_bind fun s _ => ?_
  refine (frame_constructed.onRig _).leads.bind fun light => ?_
  refine (frame_constructed.onHighlight _).leads.bind fun _ => ?_
  exact Leads.modify fun s h =>
    h.1.setSlot_same ((h.1.slots .highlight).launch h.2 rfl)

theorem custody_since : Custody (Since count stopped) where
  state := Since.state
  control := Since.control
  shown := fun _ => frame_since.edits.toShown
  fields := fun _ _ _ _ _ h => ⟨h.state, h.control, h.slots⟩
  marks := fun _ _ _ _ h => ⟨h.state, h.control, h.slots⟩
  scenes := fun _ _ _ h => ⟨h.state, h.control, h.slots⟩
  setState := fun _ _ _ _ _ h => ⟨rfl, h.control, h.slots⟩
  chase := fun _ _ h => ⟨rfl, h.control, h.slots⟩
  setControl := fun _ _ _ h => ⟨h.state, rfl, h.slots⟩
  startWorker := fun k object _ _ => leads_startWorker_since k object
  redrum := fun k _ => (triple_redrum_since (fun _ _ hs => hs)
    fun _ hk ho => absurd (Option.some.inj ho).symm hk).leads
  startHighlight := leads_startHighlight_since
  redrumHighlight := (triple_redrumHighlight_since (fun _ _ hs => hs)
    (fun _ hk ho => absurd (Option.some.inj ho).symm hk) rfl).leads
  addLight := fun _ => (frame_since.onHighlight _).leads
  removeLight := fun _ => (frame_since.onHighlight _).leads
  select := fun {index x post} hx => by
    have hstate : Leads (Since count stopped .LIGHT_SELECTION index
        (some .highlight)) (setState .CONTROL_SELECTION)
        (Since count stopped .CONTROL_SELECTION index (some .highlight)) :=
      Leads.modify fun _ h => ⟨rfl, h.control, h.slots⟩
    have hcontrol : Leads (Since count stopped .CONTROL_SELECTION index none)
        (setControlIndex 1) (Since count stopped .CONTROL_SELECTION 1 none) :=
      Leads.modify fun _ h => ⟨h.state, rfl, h.slots⟩
    have hend : Leads (Since count stopped .CONTROL_SELECTION index
        (some .highlight)) redrumHighlight
        (Since count stopped .CONTROL_SELECTION index none) :=
      (triple_redrumHighlight_since (fun _ _ hs => hs) (fun _ hk ho =>
        absurd (Option.some.inj ho).symm hk) rfl).leads
    have htake : Leads (Since count stopped .CONTROL_SELECTION index
        (some .highlight)) takeSelection
        (Since count stopped .CONTROL_SELECTION index none) :=
      hend.bind fun _ =>
        (frame_since.edits.setSelectedLights _).leads.bind fun _ =>
          frame_since.edits.firstNumChannels.leads.bind fun _ =>
            (frame_since.edits.compareChannels _ _).leads
    exact hstate.bind fun _ => htake.bind fun _ =>
      (frame_since.onRig _).leads.bind fun _ =>
        frame_since.edits.revertScene.leads.bind fun _ =>
          hcontrol.bind fun _ => hx
  enterDMX := frame_since.edits.revertScene.leads.bind fun _ =>
    (frame_since.edits.modifyChannelIndex _).leads.bind fun _ =>
      Leads.modify fun _ h => ⟨rfl, h.control, h.slots⟩
  channelLeft := frame_since.edits.channelLeft.leads
  channelRight := frame_since.edits.channelRight.leads
  changeChannel := fun _ _ => (frame_since.edits.changeChannel _ _).leads
  clearLights := frame_since.edits.clearLights.leads

/-- A step of a worker brings none to life. -/
theorem since_tick (k : WorkerField) (i : ℕ) :
    Preserves (Since count stopped mode index o) (tick k i) := by
  refine preserves_tick (fun s h => ?_) (fun s h => ?_)
    fun s w stage hw hstage h => frame_since.object s k i stage h
  · exact h.setSlot_same ((h.slots k).modifyAt i fun _ _ => rfl)
  · exact h.setSlot_same (((h.slots k).setRunning k.isStatic i true).modifyAt i
      fun _ hw => hw)

end Server

/-! ## Runs -/

namespace Process

open Server

variable {count : WorkerField → ℕ} {stopped : WorkerField → Prop} {e : Event}
  {colorConverter : XYConverter} {p : Process} {dmx : DefaultDMX}
  {profiles : List FixtureProfile} {file : Option (List Char)}

/-- A command does not abandon a worker. -/
def Tells (p : Process) : Event → Prop
  | .packet _ receiveData =>
      Interprets (.new receiveData) →
        ¬ Abandons p.server.currentState
          (WirelessCommand.new receiveData).parse.2
  | .tick _ _ => True

theorem while_since_step
    (h : While (Custody.Settled (Since count stopped)) p)
    (htells : Tells p e) : While (Custody.Settled (Since count stopped))
      (step colorConverter p e) := by
  have hpre : While (fun s => Custody.Settled (Since count stopped) s ∧
      Tells ⟨s, p.ended⟩ e) p := fun hended => ⟨h hended, htells⟩
  refine while_step hpre ?_ fun _ => h
  cases e with
  | packet random receiveData =>
      exact custody_since.processCommand colorConverter random
        (.new receiveData)
  | tick k i =>
      rintro s ⟨⟨hfits, hs⟩, -⟩
      exact (since_tick k i).leads.mono
        (fun _ => custody_since.settled _ hfits) s hs

theorem since_of_starts (hstart : Starts dmx profiles file p) :
    Custody.Settled (Since (fun _ => 0) fun _ => False) p.server := by
  have hinit : Since (fun _ => 0) (fun _ => False) .IDLE 0 none
      (init dmx profiles file) := by
    refine ⟨rfl, rfl, fun k => ⟨⟨nofun, fun _ => nofun, nofun⟩,
      fun _ => rfl, Nat.zero_le _, False.elim⟩⟩
  have hscenes : Preserves (Since (fun _ => 0) (fun _ => False) .IDLE 0 none)
      startScenes :=
    preserves_getDmx.bind fun _ =>
      (custody_since.preserves_onScenes (by decide) _).bind fun _ =>
        custody_since.preserves_onScenes (by decide) _
  exact custody_since.settled .IDLE trivial (hscenes.of_ok hinit hstart.1)

end Process

end ChuckLight
