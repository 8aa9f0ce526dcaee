import ChuckLight.Threads.Steering

/-!
# Selecting lights and controls throws nothing

The light selection and the control selection find what they need and leave
behind what the next mode needs.
-/

namespace ChuckLight.Server

open Java Connection LightingDefines

variable {mode : Mode} {index index' : ℤ} {c : Prop} {s : Server}
  {inv : Server → Prop} {cursor : ℕ} {flags : List Bool} {list : List ℕ}

theorem triple_setState (mode' : Mode) :
    Triple (Steered mode) (setState mode') (fun _ => Steered mode')
      (fun e _ => c → ¬ e.IsThrown) :=
  Triple.modify fun _ h => h.setState mode'

/-- What never throws does not throw under a condition. -/
theorem safe_of_true {α : Type} {pre : Server → Prop} {x : Run Server α}
    {post : α → Server → Prop}
    (h : Triple pre x post (fun e _ => True → ¬ e.IsThrown)) :
    Triple pre x post (fun e _ => c → ¬ e.IsThrown) :=
  h.conseq (fun _ hs => hs) (fun _ _ hs => hs) fun _ _ he _ => he trivial

/-! ## The cursor over the lights -/

/-- An invariant with a cursor over lights of which some are selected. -/
structure Placed (inv : Server → Prop) (cursor : ℕ) (flags : List Bool)
    (s : Server) : Prop where
  holds : inv s
  lt : cursor < flags.length
  cursor : s.currentLightIndex = (cursor : ℤ)
  flags : s.rig.flags = flags

theorem Grounded.placed (h : Grounded inv) (hs : inv s) :
    ∃ cursor, Placed inv cursor s.rig.flags s := by
  obtain ⟨hpos, hlt⟩ := (h.ground s hs).light
  refine ⟨s.currentLightIndex.toNat, hs, ?_, ?_, rfl⟩
  · rw [Rig.length_flags]
    omega
  · omega

theorem workable_placed (h : Grounded inv) (cursor : ℕ) (flags : List Bool) :
    Workable (Placed inv cursor flags) where
  rig := fun s r hr hs => ⟨h.workable.rig s r hr hs.holds, hs.lt, hs.cursor,
    hr.flags.trans hs.flags⟩
  object := fun s k i stage w hw hstage hs =>
    ⟨h.workable.object s k i stage w hw hstage hs.holds, hs.lt, hs.cursor,
      hstage.rig.flags.trans hs.flags⟩
  slots := fun s slots hs =>
    ⟨h.slots s slots hs.holds, hs.lt, hs.cursor, hs.flags⟩

theorem Placed.length (h : Placed inv cursor flags s) :
    s.rig.profiles.length = flags.length := by
  rw [← Rig.length_flags, h.flags]

/-- On the ground, no method of the light selection throws. -/
theorem selecting_placed (h : Grounded inv) : Selecting c (Placed inv) where
  workable := workable_placed h
  cursor := Placed.cursor
  flags := Placed.flags
  lt := Placed.lt
  usable := fun hs _ i hi => by
    have hground := h.ground _ hs.holds
    exact ⟨hground.bytes, hground.getElem? (hs.length ▸ hi)⟩
  reverts := fun cursor flags =>
    (h.triple_revertScene.and_leads
      (workable_placed h cursor flags).revertScene.leads).conseq
        (fun _ hs => ⟨hs.holds, hs⟩) (fun _ _ hs => hs.2) fun _ _ he => he
  move := fun cursor' hs hlt => by
    have hrange : 0 ≤ (cursor' : ℤ) ∧ (cursor' : ℤ) < _ :=
      ⟨Int.natCast_nonneg _, Int.ofNat_lt.mpr (hs.length ▸ hlt)⟩
    exact ⟨h.move _ _ hrange hs.holds, hlt, rfl, hs.flags⟩
  mark := fun r hs hr => by
    refine ⟨h.rig _ r hr.similar hs.holds, ?_, hs.cursor, rfl⟩
    rw [hr.length_flags, hs.flags]
    exact hs.lt

theorem Placed.valid (h : Placed (Steered .LIGHT_SELECTION) cursor flags s)
    (hlights : Lights True list s) (hlist : ∀ i ∈ list, i < flags.length) :
    Valid s :=
  ⟨.LIGHT_SELECTION, h.holds, list, h.length ▸ hlist, hlights⟩

/-- The light selection starts. -/
theorem triple_startHighlight :
    Triple (Steered .LIGHT_SELECTION) startHighlight (fun _ => Valid)
      (fun e _ => c → ¬ e.IsThrown) := by
  intro s hs
  obtain ⟨cursor, hplaced⟩ := grounded_steered.placed hs
  have hselecting : Selecting True (Placed (Steered .LIGHT_SELECTION)) :=
    selecting_placed grounded_steered
  refine safe_of_true (hselecting.triple_startHighlight.mono
    fun _ t ht => ?_) s hplaced
  exact ht.1.valid ht.2 fun i hi => List.mem_singleton.mp hi ▸ ht.1.lt

/-! ## The control selection -/

/-- A control whose visual is shown. -/
def Visual (mode : Mode) (index : ℤ) (s : Server) : Prop :=
  Held mode index s ∧ ∀ k, owner .CONTROL_SELECTION index = some k →
    Refers k (fun _ => True) s

/-- The visual of a control ends. -/
theorem triple_redrumVisual {k : WorkerField}
    (howner : owner .CONTROL_SELECTION index = some k) :
    Triple (Visual mode index) (redrum k) (fun _ => Held mode index)
      (fun e _ => c → ¬ e.IsThrown) :=
  grounded_held.workable.triple_redrum.conseq
    (fun _ h => ⟨h.1, h.2 k howner⟩) (fun _ _ h => h) fun _ _ he => he

/-- The visual of a control starts. -/
theorem triple_startVisual {k : WorkerField}
    (howner : owner .CONTROL_SELECTION index = some k) (t : k.Object) :
    Triple (Held .CONTROL_SELECTION index) (startWorker k t)
      (fun _ => Valid) (fun e _ => c → ¬ e.IsThrown) :=
  (grounded_held.workable.triple_startWorker k t).mono fun _ _ h =>
    h.1.valid_control howner (h.2.imp fun _ _ => trivial)

theorem triple_startPresetVisual :
    Triple (Held .CONTROL_SELECTION 1) startPresetVisual (fun _ => Valid)
      (fun e _ => c → ¬ e.IsThrown) :=
  Triple.get_bind fun _ _ => triple_startVisual (k := .presetVisual) rfl _

theorem triple_startRainbow :
    Triple (Held .CONTROL_SELECTION 0) startRainbow (fun _ => Valid)
      (fun e _ => c → ¬ e.IsThrown) :=
  Triple.get_bind fun _ _ => triple_startVisual (k := .rainbowVisual) rfl _

theorem triple_startDMXVisual :
    Triple (Held .CONTROL_SELECTION (-1)) startDMXVisual (fun _ => Valid)
      (fun e _ => c → ¬ e.IsThrown) :=
  Triple.get_bind fun _ _ => triple_startVisual (k := .dmxVisual) rfl _

theorem triple_setControlIndex (hfits : Fits .CONTROL_SELECTION index')
    (hne : index' ≠ -1) :
    Triple (Held mode index) (setControlIndex index')
      (fun _ => Held mode index') (fun e _ => c → ¬ e.IsThrown) :=
  Triple.modify fun _ h => h.setIndex hfits fun heq => absurd heq hne

/-- Another control, with its visual. -/
theorem triple_switch {start : Run Server Unit}
    (hfits : Fits .CONTROL_SELECTION index') (hne : index' ≠ -1)
    (hstart : Triple (Held .CONTROL_SELECTION index') start (fun _ => Valid)
      (fun e _ => c → ¬ e.IsThrown)) :
    Triple (Held .CONTROL_SELECTION index)
      (do setControlIndex index'; revertScene; start) (fun _ => Valid)
      (fun e _ => c → ¬ e.IsThrown) :=
  (triple_setControlIndex hfits hne).bind fun _ =>
    grounded_held.triple_revertScene.bind fun _ => hstart

/-- The channels, if the selected lights have the same number of them, or else
another control. -/
theorem triple_switchDMX {start : Run Server Unit}
    (hfits : Fits .CONTROL_SELECTION index') (hne : index' ≠ -1)
    (hstart : Triple (Held .CONTROL_SELECTION index') start (fun _ => Valid)
      (fun e _ => c → ¬ e.IsThrown)) :
    Triple (Held .CONTROL_SELECTION index)
      (do
        if (← get).canChangeDMX then
          setControlIndex (-1)
          revertScene
          startDMXVisual
        else
          setControlIndex index'
          start)
      (fun _ => Valid) (fun e _ => c → ¬ e.IsThrown) := by
  refine Triple.get_bind_eq fun s hs => Triple.ite (fun hcan => ?_) fun _ => ?_
  · have hset : Triple (fun t => t = s) (setControlIndex (-1))
        (fun _ => Held .CONTROL_SELECTION (-1))
        (fun e _ => c → ¬ e.IsThrown) :=
      Triple.modify fun t ht => by
        subst ht
        exact hs.setIndex (.inl rfl) fun _ => hs.steered.compared hcan
    exact hset.bind fun _ => grounded_held.triple_revertScene.bind
      fun _ => triple_startDMXVisual
  · exact ((triple_setControlIndex hfits hne).bind fun _ => hstart).of_eq hs

theorem triple_controlLeft (hfits : Fits .CONTROL_SELECTION index) :
    Triple (Visual .CONTROL_SELECTION index) (controlLeft index)
      (fun _ => Valid) (fun e _ => c → ¬ e.IsThrown) := by
  rcases hfits with rfl | rfl | rfl
  · exact (triple_redrumVisual (k := .dmxVisual) rfl).bind fun _ =>
      triple_switch (.inr (.inr rfl)) (by decide) triple_startPresetVisual
  · exact (triple_redrumVisual (k := .rainbowVisual) rfl).bind fun _ =>
      triple_switchDMX (.inr (.inr rfl)) (by decide) triple_startPresetVisual
  · exact (triple_redrumVisual (k := .presetVisual) rfl).bind fun _ =>
      triple_switch (.inr (.inl rfl)) (by decide) triple_startRainbow

theorem triple_controlRight (hfits : Fits .CONTROL_SELECTION index) :
    Triple (Visual .CONTROL_SELECTION index) (controlRight index)
      (fun _ => Valid) (fun e _ => c → ¬ e.IsThrown) := by
  rcases hfits with rfl | rfl | rfl
  · exact (triple_redrumVisual (k := .dmxVisual) rfl).bind fun _ =>
      triple_switch (.inr (.inl rfl)) (by decide) triple_startRainbow
  · exact (triple_redrumVisual (k := .rainbowVisual) rfl).bind fun _ =>
      triple_switch (.inr (.inr rfl)) (by decide) triple_startPresetVisual
  · exact (triple_redrumVisual (k := .presetVisual) rfl).bind fun _ =>
      triple_switchDMX (.inr (.inl rfl)) (by decide) triple_startRainbow

/-- The first light of the selection. -/
theorem Held.first (h : Held mode index s) :
    ∃ first rest f, s.selectedLights = some (first :: rest) ∧
      s.rig.profiles[first]? = some f := by
  obtain ⟨lights, hlights, hne⟩ := h.picked
  obtain ⟨first, rest, rfl⟩ := List.exists_cons_of_ne_nil hne
  have hground := h.steered.ground
  obtain ⟨f, hf, -⟩ := hground.getElem?
    (hground.selected _ hlights first (List.mem_cons_self ..))
  exact ⟨first, rest, f, hlights, hf⟩

/-- The first channel is one of every selected light. -/
theorem Held.tune_zero (h : Held mode (-1) s) :
    Tuned mode 0 { s with currentChannelIndex := 0 } := by
  obtain ⟨first, rest, f, hlights, hf⟩ := h.first
  obtain ⟨hsize, -, hone⟩ := h.steered.ground.numChannels hf
  exact h.tune hlights (List.mem_cons_self ..) hsize (Int.le_refl 0)
    (Int.ofNat_lt.mpr hone)

theorem triple_controlEnter (hfits : Fits .CONTROL_SELECTION index) :
    Triple (Visual .CONTROL_SELECTION index) (controlEnter index)
      (fun _ => Valid) (fun e _ => c → ¬ e.IsThrown) := by
  rcases hfits with rfl | rfl | rfl
  · refine (triple_redrumVisual (k := .dmxVisual) rfl).bind fun _ => ?_
    refine grounded_held.triple_revertScene.bind fun _ => ?_
    have htune : Triple (Held .CONTROL_SELECTION (-1))
        (modify fun s => { s with currentChannelIndex := 0 })
        (fun _ => Tuned .CONTROL_SELECTION 0)
        (fun e _ => c → ¬ e.IsThrown) :=
      Triple.modify fun _ h => h.tune_zero
    exact htune.bind fun _ => Triple.modify fun _ h =>
      (h.setState .DMX).valid
  · exact (triple_redrumVisual (k := .rainbowVisual) rfl).bind fun _ =>
      Triple.modify fun _ h => (h.setState .COLOR_WHEEL).valid_colorWheel
  · exact (triple_redrumVisual (k := .presetVisual) rfl).bind fun _ =>
      Triple.modify fun _ h => (h.setState .PRESET).valid_preset

theorem triple_redrumControl (hfits : Fits .CONTROL_SELECTION index) :
    Triple (Visual mode index) (redrumControl index)
      (fun _ => Held mode index) (fun e _ => c → ¬ e.IsThrown) := by
  rcases hfits with rfl | rfl | rfl
  · exact triple_redrumVisual (k := .dmxVisual) rfl
  · exact triple_redrumVisual (k := .rainbowVisual) rfl
  · exact triple_redrumVisual (k := .presetVisual) rfl

theorem safe_controlSelectionMode (command : WirelessCommand) :
    Triple (fun s => Steered .CONTROL_SELECTION s ∧
        Needs .CONTROL_SELECTION s)
      (controlSelectionMode command) (fun _ => Valid)
      (fun e _ => c → ¬ e.IsThrown) := by
  intro s ⟨hsteered, hpicked, hvisual⟩
  have hfits := hsteered.control
  generalize hindex : s.currentControlIndex = index at hfits hvisual
  have hmode : Triple (Visual .CONTROL_SELECTION index)
      (controlSelectionMode command) (fun _ => Valid)
      (fun e _ => c → ¬ e.IsThrown) := by
    have hpure : ∀ beat : Bool, Triple (Visual .CONTROL_SELECTION index)
        (pure beat) (fun _ => Valid) (fun e _ => c → ¬ e.IsThrown) :=
      fun _ => Triple.pure fun s h => ⟨.CONTROL_SELECTION, h.1.steered,
        h.1.picked, h.1.index.symm ▸ h.2⟩
    unfold controlSelectionMode
    refine Triple.ite (fun _ => hpure true) fun _ => ?_
    refine Triple.ite (fun _ => Triple.get_bind fun s h => ?_) fun _ => ?_
    · rw [h.1.index]
      exact (triple_controlLeft hfits).returning
    refine Triple.ite (fun _ => Triple.get_bind fun s h => ?_) fun _ => ?_
    · rw [h.1.index]
      exact (triple_controlRight hfits).returning
    refine Triple.ite (fun _ => Triple.get_bind fun s h => ?_) fun _ => ?_
    · rw [h.1.index]
      exact (triple_controlEnter hfits).returning
    refine Triple.ite (fun _ => ?_) fun _ => hpure false
    have hstate : Triple (Visual .CONTROL_SELECTION index)
        (setState .LIGHT_SELECTION)
        (fun _ => Visual .LIGHT_SELECTION index)
        (fun e _ => c → ¬ e.IsThrown) :=
      Triple.modify fun _ h => ⟨h.1.setState .LIGHT_SELECTION, h.2⟩
    refine hstate.bind fun _ => Triple.get_bind fun s h => ?_
    rw [h.1.index]
    refine (triple_redrumControl hfits).bind fun _ => ?_
    refine grounded_held.triple_revertScene.bind fun _ => ?_
    exact (triple_startHighlight.conseq (fun _ h => h.steered)
      (fun _ _ h => h) fun _ _ he => he).returning
  exact hmode s ⟨⟨hsteered, hpicked, hindex⟩, hvisual⟩

/-! ## Taking the selection -/

/-- The lights of the list are selected, but have not been compared. -/
structure Taken (list : List ℕ) (s : Server) : Prop where
  ground : Ground s
  state : s.currentState = .CONTROL_SELECTION
  selected : s.selectedLights = some list

/-- The lights of the list are selected and have been compared. -/
structure Compared (list : List ℕ) (s : Server) : Prop where
  taken : Taken list s
  compared : s.canChangeDMX = true → Level s

theorem grounded_taken : Grounded (Taken list) where
  ground := fun _ h => h.ground
  rig := fun _ _ hr h => ⟨h.ground.setRig hr, h.state, h.selected⟩
  slots := fun _ slots h => ⟨h.ground.setSlots slots, h.state, h.selected⟩
  move := fun _ _ hcursor h => ⟨h.ground.move hcursor, h.state, h.selected⟩

theorem grounded_compared : Grounded (Compared list) where
  ground := fun _ h => h.taken.ground
  rig := fun s r hr h => ⟨grounded_taken.rig s r hr h.taken,
    fun hcan => (h.compared hcan).setRig hr⟩
  slots := fun s slots h =>
    ⟨grounded_taken.slots s slots h.taken, h.compared⟩
  move := fun s cursor hcursor h =>
    ⟨grounded_taken.move s cursor hcursor h.taken, h.compared⟩

theorem Taken.setCanChange (h : Taken list s) (canChangeDMX : Bool) :
    Taken list { s with canChangeDMX := canChangeDMX } :=
  ⟨h.ground.setPlain s.currentState s.currentControlIndex
    s.currentChannelIndex canChangeDMX s.heartbeats, h.state, h.selected⟩

theorem triple_takeSelection (hne : list ≠ [])
    (hlist : ∀ i ∈ list, i < flags.length) :
    Triple (fun s => Placed (Steered .CONTROL_SELECTION) cursor flags s ∧
        Lights True list s)
      takeSelection (fun _ => Compared list)
      (fun e _ => c → ¬ e.IsThrown) := by
  have hselecting : Selecting True (Placed (Steered .CONTROL_SELECTION)) :=
    selecting_placed grounded_steered
  refine (safe_of_true (hselecting.triple_redrumHighlight
    fun _ => hlist)).bind fun lights => ?_
  have hselect : Triple
      (fun s => lights = list ∧
        Placed (Steered .CONTROL_SELECTION) cursor flags s)
      (modify fun s => { s with selectedLights := some lights })
      (fun _ s => lights = list ∧ Taken list s)
      (fun e _ => c → ¬ e.IsThrown) := by
    refine Triple.modify fun s h => ?_
    obtain ⟨rfl, hplaced⟩ := h
    have hground := hplaced.holds.ground
    refine ⟨rfl, ⟨hground.usable, hground.bytes, hground.light,
      hground.preset, hground.delay, hground.steps, hground.scenes, ?_⟩,
      hplaced.holds.state, rfl⟩
    intro lights' heq
    rw [hplaced.length, ← Option.some.inj heq]
    exact hlist
  refine hselect.bind fun _ => ?_
  rintro s ⟨rfl, htaken⟩
  have hvalid := htaken.ground.selected lights htaken.selected
  obtain ⟨first, rest, rfl⟩ := List.exists_cons_of_ne_nil hne
  obtain ⟨f, hf, -⟩ :=
    htaken.ground.getElem? (hvalid first (List.mem_cons_self ..))
  obtain ⟨-, hnum, -⟩ := htaken.ground.numChannels hf
  rw [bind_of_ok (firstNumChannels_eq htaken.selected hf)]
  have hsizes : ∀ i ∈ first :: rest, i < s.rig.sizes.length := by
    rw [Rig.length_sizes]
    exact hvalid
  have hset : ∀ t b, Taken (first :: rest) t →
      Taken (first :: rest) { t with canChangeDMX := b } :=
    fun _ b ht => ht.setCanChange b
  have hcompare := triple_compareChannels (c := c) hset
    (fun _ _ _ ht hf => (ht.ground.numChannels hf).2.1) hnum (first :: rest)
    fun _ => hsizes
  refine (hcompare.mono fun _ t ht => ⟨ht.1.1, fun hcan => ?_⟩) s
    ⟨htaken, rfl⟩
  intro lights' heq i hi j hj
  rw [ht.1.1.selected] at heq
  cases heq
  rw [ht.1.2, ht.2 hcan i hi, ht.2 hcan j hj]

theorem Grounded.triple_clearSelected (h : Grounded inv) :
    Triple inv clearSelected (fun _ => inv) (fun e _ => c → ¬ e.IsThrown) := by
  intro s hs
  obtain ⟨cursor, hplaced⟩ := h.placed hs
  have hselecting : Selecting c (Placed inv) := selecting_placed h
  exact (hselecting.triple_clearSelected_all.mono
    fun _ _ ht => ht.holds) s hplaced

/-- The control selection is entered with the lights of the list. -/
theorem triple_handOver (hne : list ≠ [])
    (hlist : ∀ i ∈ list, i < flags.length) :
    Triple (fun s => Placed (Steered .LIGHT_SELECTION) cursor flags s ∧
        Lights True list s)
      (do
        setState .CONTROL_SELECTION
        takeSelection
        clearSelected
        revertScene
        setControlIndex 1
        startPresetVisual
        return true)
      (fun _ => Valid) (fun e _ => c → ¬ e.IsThrown) := by
  have hstate : Triple
      (fun s => Placed (Steered .LIGHT_SELECTION) cursor flags s ∧
        Lights True list s)
      (setState .CONTROL_SELECTION)
      (fun _ s => Placed (Steered .CONTROL_SELECTION) cursor flags s ∧
        Lights True list s) (fun e _ => c → ¬ e.IsThrown) :=
    Triple.modify fun _ h => ⟨⟨h.1.holds.setState .CONTROL_SELECTION, h.1.lt,
      h.1.cursor, h.1.flags⟩, h.2⟩
  have hindex : Triple (Compared list) (setControlIndex 1)
      (fun _ => Held .CONTROL_SELECTION 1) (fun e _ => c → ¬ e.IsThrown) := by
    have hone : (1 : ℤ) ≠ -1 := by decide
    refine Triple.modify fun s h => ⟨⟨?_, h.taken.state, .inr (.inr rfl),
      h.compared, fun heq => absurd heq hone⟩,
      ⟨list, h.taken.selected, hne⟩, rfl⟩
    exact h.taken.ground.setPlain s.currentState 1 s.currentChannelIndex
      s.canChangeDMX s.heartbeats
  refine hstate.bind fun _ => (triple_takeSelection hne hlist).bind
    fun _ => ?_
  refine grounded_compared.triple_clearSelected.bind fun _ => ?_
  refine grounded_compared.triple_revertScene.bind fun _ => ?_
  exact hindex.bind fun _ => triple_startPresetVisual.returning

/-! ## The light selection -/

theorem mem_withLight {light i : ℕ}
    (h : i ∈ HighlightThread.withLight light list) :
    i = light ∨ i ∈ list := by
  unfold HighlightThread.withLight at h
  split_ifs at h with hmem
  · exact .inr h
  · rcases List.mem_append.mp h with h | h
    · exact .inr h
    · exact .inl (List.mem_singleton.mp h)

theorem mem_stepped {next i : ℕ} (h : i ∈ stepped flags cursor next list) :
    i = next ∨ i ∈ list := by
  have hrest : i ∈ (if flags.getD cursor false then list
      else list.erase cursor) → i ∈ list := by
    split_ifs
    · exact id
    · exact List.mem_of_mem_erase
  unfold stepped at h
  dsimp only at h
  by_cases hnext : flags.getD next false = true
  · rw [if_pos hnext] at h
    exact .inr (hrest h)
  · rw [if_neg hnext] at h
    exact (mem_withLight h).imp_right hrest

/-- A method that keeps cursor, flags and list in range. -/
theorem triple_select {next : ℕ} {flags' : List Bool} {list' : List ℕ}
    {x : Run Server Unit} {beat : Bool}
    (hx : Triple (fun s => Placed (Steered .LIGHT_SELECTION) cursor flags s ∧
        Lights True list s) x
      (fun _ s => Placed (Steered .LIGHT_SELECTION) next flags' s ∧
        Lights True list' s) (fun e _ => c → ¬ e.IsThrown))
    (hlist : next < flags'.length → ∀ i ∈ list', i < flags'.length) :
    Triple (fun s => Placed (Steered .LIGHT_SELECTION) cursor flags s ∧
        Lights True list s) (do x; return beat) (fun _ => Valid)
      (fun e _ => c → ¬ e.IsThrown) :=
  (hx.mono fun _ _ h => h.1.valid h.2 (hlist h.1.lt)).returning

/-- The highlight thread lists no light. -/
def ListsNone (s : Server) : Prop :=
  Refers .highlight (fun t => t.lights = []) s

instance (s : Server) : Decidable (ListsNone s) :=
  have : DecidablePred fun t : WorkerField.highlight.Object => t.lights = [] :=
    fun t => inferInstanceAs (Decidable (t.lights = []))
  inferInstanceAs (Decidable (Refers ..))

theorem safe_lightSelectionMode (command : WirelessCommand) :
    Triple (fun s => (Steered .LIGHT_SELECTION s ∧ Needs .LIGHT_SELECTION s) ∧
        (command.userActionData = B1 → ¬ ListsNone s))
      (lightSelectionMode command) (fun _ => Valid)
      (fun e _ => c → ¬ e.IsThrown) := by
  rintro s ⟨⟨hsteered, list, hlist, hlights⟩, hlists⟩
  have hne : command.userActionData = B1 → list ≠ [] := by
    rintro hB1 rfl
    exact hlists hB1 (hlights.imp fun _ ht => ht.1)
  obtain ⟨cursor, hplaced⟩ := grounded_steered.placed hsteered
  rw [hplaced.length] at hlist
  generalize s.rig.flags = flags at hplaced hlist
  have hselecting : Selecting True (Placed (Steered .LIGHT_SELECTION)) :=
    selecting_placed grounded_steered
  have hmode : Triple
      (fun s => Placed (Steered .LIGHT_SELECTION) cursor flags s ∧
        Lights True list s) (lightSelectionMode command) (fun _ => Valid)
      (fun e _ => True → ¬ e.IsThrown) := by
    have hstep : Triple
        (fun s => Placed (Steered .LIGHT_SELECTION) cursor flags s ∧
          Lights True list s) (do stepLight; return false) (fun _ => Valid)
        (fun e _ => True → ¬ e.IsThrown) :=
      triple_select hselecting.triple_stepLight fun hlt i hi =>
        (mem_stepped hi).elim (fun h => h ▸ hlt) (hlist i)
    unfold lightSelectionMode
    refine Triple.ite (fun _ => Triple.pure fun _ h =>
      h.1.valid h.2 hlist) fun _ => ?_
    refine Triple.ite (fun _ => hstep) fun _ => ?_
    refine Triple.ite (fun _ => hstep) fun _ => ?_
    refine Triple.ite (fun _ => triple_select hselecting.triple_toggleLight
      fun _ => ?_) fun _ => ?_
    · rw [List.length_set]
      exact hlist
    refine Triple.ite (fun _ => ?_) fun _ => ?_
    · refine (hselecting.triple_clearSelected
        fun _ _ hr h => h.setRig hr.sizes).bind fun _ => ?_
      refine Triple.reads_bind
        (fun s hs => hselecting.currentLight_eq hs.1) ?_
      refine triple_select hselecting.triple_addLight fun hlt i hi => ?_
      rw [List.length_replicate] at hlt ⊢
      exact (mem_withLight hi).elim (fun h => h ▸ hlt) (hlist i)
    refine Triple.ite (fun hB1 => triple_handOver (hne hB1) hlist) fun _ => ?_
    refine Triple.ite (fun _ => ?_) fun _ => Triple.pure fun _ h =>
      h.1.valid h.2 hlist
    have hredrum : Triple
        (fun s => Placed (Steered .LIGHT_SELECTION) cursor flags s ∧
          Lights True list s) redrumHighlight
        (fun _ => Steered .LIGHT_SELECTION)
        (fun e _ => True → ¬ e.IsThrown) :=
      (hselecting.triple_redrumHighlight fun _ => hlist).mono
        fun _ _ h => h.2.holds
    refine hredrum.bind fun _ => ?_
    refine grounded_steered.triple_clearSelected.bind fun _ => ?_
    refine grounded_steered.triple_revertScene.bind fun _ => ?_
    exact (Triple.modify fun _ h =>
      ⟨.IDLE, h.setState .IDLE, trivial⟩).returning
  exact safe_of_true hmode s ⟨hplaced, hlights⟩

end ChuckLight.Server
