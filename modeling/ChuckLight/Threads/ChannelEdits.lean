import ChuckLight.Lighting.Patch
import ChuckLight.Threads.Custody
import ChuckLight.Threads.SafeEdits
import ChuckLight.Threads.Selection
import ChuckLight.Threads.Staffing

/-!
# Edits of one channel

The DMX mode changes the value of one channel of every selected light.  It reads
the value off the mirror of the light, and on a patch the mirrors of the
selected lights hold the values of the driver for as long as the mode lasts.
-/

namespace ChuckLight

open Java Connection LightingDefines

namespace Server

/-! ## What is known of a mode -/

/-- The server is in a mode with a control, and its fixtures are patched. -/
structure Rigged (mode : Mode) (index : ℤ) (s : Server) : Prop where
  state : s.currentState = mode
  control : s.currentControlIndex = index
  patched : s.rig.Patched

/-- The lights that have been selected are distinct and have been compared. -/
structure Gathered (mode : Mode) (index : ℤ) (s : Server) : Prop where
  rigged : Rigged mode index s
  distinct : ∀ lights, s.selectedLights = some lights → lights.Nodup
  compared : s.canChangeDMX = true → Level s
  chosen : Below mode → ∃ lights, s.selectedLights = some lights

/-- The control is one that the selected lights have. -/
structure Dialed (mode : Mode) (index : ℤ) (s : Server) : Prop where
  gathered : Gathered mode index s
  level : index = -1 → Level s

/-- The mirrors of the selected lights hold the values of the driver. -/
def AllSynced (s : Server) : Prop :=
  ∀ lights, s.selectedLights = some lights → ∀ i ∈ lights, s.rig.Synced i

/-- The mirrors of the selected lights hold the values of the driver, and the
channel at the cursor is one of each. -/
structure Tracked (s : Server) : Prop where
  synced : AllSynced s
  inChannels : InChannels s

/-- What is known of a mode, of a control and of the field that may have a
worker. -/
structure Mastered (mode : Mode) (index : ℤ) (o : Option WorkerField)
    (s : Server) : Prop where
  manned : Manned (Dialed mode index) o s
  tracked : mode = .DMX → Tracked s

variable {mode mode' : Mode} {index : ℤ} {o : Option WorkerField}
  {lights : List ℕ} {s : Server} {α : Type}

theorem workable_rigged : Workable (Rigged mode index) where
  rig := fun _ _ hr h => ⟨h.state, h.control, h.patched.of_follows hr⟩
  object := fun _ _ _ _ _ _ hstage h =>
    ⟨h.state, h.control, h.patched.of_follows hstage.rig⟩
  slots := fun _ _ h => ⟨h.state, h.control, h.patched⟩

theorem workable_gathered : Workable (Gathered mode index) where
  rig := fun s r hr h => ⟨workable_rigged.rig s r hr h.rigged, h.distinct,
    fun hcan => (h.compared hcan).setRig hr.similar, h.chosen⟩
  object := fun s k i stage w hw hstage h =>
    ⟨workable_rigged.object s k i stage w hw hstage h.rigged, h.distinct,
      fun hcan => Level.setRig (s := s) (h.compared hcan) hstage.rig.similar,
      h.chosen⟩
  slots := fun s slots h => ⟨workable_rigged.slots s slots h.rigged,
    h.distinct, h.compared, h.chosen⟩

theorem workable_dialed : Workable (Dialed mode index) where
  rig := fun s r hr h => ⟨workable_gathered.rig s r hr h.gathered,
    fun hindex => (h.level hindex).setRig hr.similar⟩
  object := fun s k i stage w hw hstage h =>
    ⟨workable_gathered.object s k i stage w hw hstage h.gathered,
      fun hindex => Level.setRig (s := s) (h.level hindex)
        hstage.rig.similar⟩
  slots := fun s slots h => ⟨workable_gathered.slots s slots h.gathered,
    h.level⟩

theorem Gathered.setMarks {r : Rig} (h : Gathered mode index s)
    (hr : s.rig.Marks r) : Gathered mode index { s with rig := r } :=
  ⟨⟨h.rigged.state, h.rigged.control, h.rigged.patched.of_marks hr⟩,
    h.distinct, fun hcan => (h.compared hcan).setRig hr.similar, h.chosen⟩

/-- The second server has the same lights, selected and compared in the same
way. -/
structure SameLights (s s' : Server) : Prop where
  rig : s'.rig = s.rig
  selected : s'.selectedLights = s.selectedLights
  canChange : s'.canChangeDMX = s.canChangeDMX

variable {index' : ℤ} {s' : Server}

theorem Level.congr (h : Level s) (hsame : SameLights s s') : Level s' := by
  unfold Level
  rw [hsame.rig, hsame.selected]
  exact h

theorem Gathered.congr (h : Gathered mode index s) (hsame : SameLights s s')
    (hstate : s'.currentState = mode')
    (hcontrol : s'.currentControlIndex = index')
    (hbelow : Below mode' → Below mode) : Gathered mode' index' s' where
  rigged := ⟨hstate, hcontrol, hsame.rig ▸ h.rigged.patched⟩
  distinct := hsame.selected ▸ h.distinct
  compared := fun hcan =>
    (h.compared (hsame.canChange ▸ hcan)).congr hsame
  chosen := fun hmode => hsame.selected ▸ h.chosen (hbelow hmode)

/-- A mode other than the DMX mode. -/
theorem Mastered.congr (h : Mastered mode index o s)
    (hsame : SameLights s s') (hslots : s'.slots = s.slots)
    (hstate : s'.currentState = mode')
    (hcontrol : s'.currentControlIndex = index')
    (hbelow : Below mode' → Below mode) (hlevel : index' = -1 → Level s)
    (htracked : mode' = .DMX → Tracked s') : Mastered mode' index' o s' where
  manned := ⟨⟨h.manned.holds.gathered.congr hsame hstate hcontrol hbelow,
    fun hindex => (hlevel hindex).congr hsame⟩,
    hslots ▸ h.manned.staffed⟩
  tracked := htracked

/-! ## The lights take the values of the driver -/

/-- A method of a light, with what it does to the rig. -/
theorem leads_onRig {inv : Server → Prop} (h : Shown inv) {c : Rig → Prop}
    {pre post : Rig → Prop} {x : Run Rig α} (hx : Rig.Shows c x)
    (hleads : Leads pre x post) :
    Leads (fun s => inv s ∧ pre s.rig) (onRig x)
      (fun s => inv s ∧ post s.rig) := by
  rintro s ⟨hs, hpre⟩
  unfold onRig Java.zoom
  cases hrun : x s.rig with
  | ok a r =>
      exact ⟨h.rig s r ((hx s.rig).of_ok rfl hrun) hs,
        hleads.of_ok hpre hrun⟩
  | error e r => trivial

/-- A revert brings the mirrors of all selected lights into agreement. -/
theorem leads_revertScene_synced {inv : Server → Prop} (h : Shown inv)
    (hpatched : ∀ s, inv s → s.rig.Patched) :
    Leads inv revertScene (fun s => inv s ∧ AllSynced s) := by
  refine Leads.bind (preserves_try (preserves_getCurrentScene.bind
    fun scene => h.onRig (Rig.shows_setAllDMX scene))).leads fun _ => ?_
  refine Leads.get_bind_eq fun s hs => ?_
  cases hselected : s.selectedLights with
  | none =>
      refine Leads.pure _ fun t ht => ?_
      subst ht
      exact ⟨hs, fun lights hlights => nomatch hselected.symm.trans hlights⟩
  | some lights =>
      have hgiven : Shown fun t => inv t ∧ t.selectedLights = some lights :=
        ⟨fun t r hr ht => ⟨h.rig t r hr ht.1, ht.2⟩,
          fun t k i stage w hw hstage ht =>
            ⟨h.object t k i stage w hw hstage ht.1, ht.2⟩⟩
      have hcalm : ∀ light, Rig.Shows _
          (Rig.callLight light (Light.Operation.run .syncLight)) :=
        fun light => Rig.shows_callLight Light.calm_syncLight light
      have hsync : ∀ light ∈ lights,
          Leads (fun t => inv t ∧ t.selectedLights = some lights)
            (onRig (Rig.callLight light Light.syncLight))
            (fun t => (inv t ∧ t.selectedLights = some lights) ∧
              t.rig.Synced light) := fun light _ =>
        (leads_onRig hgiven (hcalm light) (Rig.leads_syncLight light)).conseq
          (fun t ht => ⟨ht, hpatched t ht.1⟩)
          (fun _ _ ht => ⟨ht.1, ht.2.2⟩) fun _ _ he => he
      have hkeep : ∀ light ∈ lights, ∀ other,
          Leads
            (fun t => (inv t ∧ t.selectedLights = some lights) ∧
              t.rig.Synced other)
            (onRig (Rig.callLight light Light.syncLight))
            (fun t => (inv t ∧ t.selectedLights = some lights) ∧
              t.rig.Synced other) :=
        fun light _ other =>
          ((leads_onRig hgiven (hcalm light) (Rig.preserves_synced
            Light.calm_syncLight light other).leads).conseq
              (fun t ht => ⟨ht.1, hpatched t ht.1.1, ht.2⟩)
              (fun _ _ ht => ⟨ht.1, ht.2.2⟩) fun _ _ he => he)
      refine (Leads.forM_forall lights hsync hkeep).conseq
        (fun t ht => ht ▸ ⟨hs, hselected⟩)
        (fun _ t ht => ⟨ht.1.1, fun lights' hlights' => ?_⟩) fun _ _ he => he
      cases ht.1.2.symm.trans hlights'
      exact ht.2

/-! ## The selection is taken -/

/-- The lights of a list without repetitions are selected, but have not been
compared. -/
structure Fetched (lights : List ℕ) (index : ℤ) (s : Server) : Prop where
  rigged : Rigged .CONTROL_SELECTION index s
  selected : s.selectedLights = some lights
  distinct : lights.Nodup

/-- The selected lights are compared. -/
theorem leads_compared :
    Leads (Manned (Fetched lights index) none)
      (do
        let temp ← firstNumChannels
        compareChannels temp lights)
      (Manned (Gathered .CONTROL_SELECTION index) none) := by
  intro s hs
  have hset : ∀ t b, Manned (Fetched lights index) none t →
      Manned (Fetched lights index) none { t with canChangeDMX := b } :=
    fun t b ht => ⟨⟨⟨ht.holds.rigged.state, ht.holds.rigged.control,
      ht.holds.rigged.patched⟩, ht.holds.selected, ht.holds.distinct⟩,
      ht.staffed⟩
  have hcount : ∀ t (i : ℕ) (f : FixtureProfile),
      Manned (Fetched lights index) none t → t.rig.profiles[i]? = some f →
        f.numChannels.toInt = f.channelMap.size := fun t i f ht hf =>
    (ht.holds.rigged.patched.mounted f
      (List.mem_of_getElem? hf)).toInt_numChannels
  rcases firstNumChannels_cases hs.holds.selected with
    ⟨first, rest, f, -, hf, hfirst⟩ | ⟨e, herror⟩
  · rw [bind_of_ok hfirst]
    have hlights : False → ∀ light ∈ lights, light < s.rig.sizes.length :=
      False.elim
    have hcompare := triple_compareChannels hset hcount
      (hcount s first f hs hf) lights hlights
    refine (hcompare.conseq (fun _ ht => ht) (fun _ t ht => ?_)
      fun _ _ _ => trivial) s ⟨hs, rfl⟩
    obtain ⟨⟨hchosen, hsizes⟩, hall⟩ := ht
    refine hchosen.imp fun h => ⟨h.rigged, fun lights' heq => ?_,
      fun hcan lights' heq i hi j hj => ?_, fun _ => ⟨lights, h.selected⟩⟩
    · cases h.selected.symm.trans heq
      exact h.distinct
    · cases h.selected.symm.trans heq
      rw [hsizes, hall hcan i hi, hall hcan j hj]
  · rw [bind_of_error herror]
    trivial

/-- The highlight ends and its lights become the selected ones. -/
theorem leads_takeSelection_gathered :
    Leads (Manned (Rigged .CONTROL_SELECTION index) (some .highlight))
      takeSelection (Manned (Gathered .CONTROL_SELECTION index) none) := by
  refine Triple.bind (triple_redrumHighlight_manned workable_rigged)
    fun lights => ?_
  have hselect : Leads
      (fun s => lights.Nodup ∧
        Manned (Rigged .CONTROL_SELECTION index) none s)
      (modify fun s => { s with selectedLights := some lights })
      (Manned (Fetched lights index) none) :=
    Leads.modify fun s hs => ⟨⟨⟨hs.2.holds.state, hs.2.holds.control,
      hs.2.holds.patched⟩, rfl, hs.1⟩, hs.2.staffed⟩
  exact hselect.bind fun _ => leads_compared

/-- The control selection is entered. -/
theorem leads_select_mastered {x : Run Server Bool} {post : Server → Prop}
    (hx : Leads (Mastered .CONTROL_SELECTION 1 none) x post) :
    Leads (Mastered .LIGHT_SELECTION index (some .highlight))
      (do
        setState .CONTROL_SELECTION
        takeSelection
        clearSelected
        revertScene
        setControlIndex 1
        x) post := by
  have hstate : Leads (Mastered .LIGHT_SELECTION index (some .highlight))
      (setState .CONTROL_SELECTION)
      (Manned (Rigged .CONTROL_SELECTION index) (some .highlight)) :=
    Leads.modify fun s hs =>
      have hrigged := hs.manned.holds.gathered.rigged
      ⟨⟨rfl, hrigged.control, hrigged.patched⟩, hs.manned.staffed⟩
  have hclear : Leads (Manned (Gathered .CONTROL_SELECTION index) none)
      clearSelected (Manned (Gathered .CONTROL_SELECTION index) none) := by
    intro s hs
    unfold clearSelected onRig Java.zoom
    rw [Rig.clearSelected_eq]
    have hmarks := Rig.marks_clearSelected.of_ok (Rig.Marks.refl s.rig)
      (Rig.clearSelected_eq s.rig)
    exact ⟨hs.holds.setMarks hmarks, hs.staffed⟩
  have hcontrol : Leads (Manned (Gathered .CONTROL_SELECTION index) none)
      (setControlIndex 1) (Mastered .CONTROL_SELECTION 1 none) := by
    refine Leads.modify fun s hs => ⟨⟨⟨⟨⟨hs.holds.rigged.state, rfl,
      hs.holds.rigged.patched⟩, hs.holds.distinct, hs.holds.compared,
      hs.holds.chosen⟩, nofun⟩, hs.staffed⟩, nofun⟩
  refine hstate.bind fun _ => leads_takeSelection_gathered.bind fun _ => ?_
  refine hclear.bind fun _ => ?_
  refine (shown_manned workable_gathered.toShown).revertScene.leads.bind
    fun _ => ?_
  exact hcontrol.bind fun _ => hx

/-! ## The DMX mode -/

variable {channel : ℤ}

/-- The mode is entered with the first channel. -/
theorem leads_enterDMX_mastered :
    Leads (Mastered .CONTROL_SELECTION (-1) none)
      (do
        revertScene
        modify fun s => { s with currentChannelIndex := 0 }
        setState .DMX) (Mastered .DMX (-1) none) := by
  have hworkable : Workable (Dialed .CONTROL_SELECTION (-1)) :=
    workable_dialed
  have hrevert : Leads (Mastered .CONTROL_SELECTION (-1) none) revertScene
      (fun s => Manned (Dialed .CONTROL_SELECTION (-1)) none s ∧
        AllSynced s) :=
    (leads_revertScene_synced (shown_manned hworkable.toShown)
      fun s hs => hs.holds.gathered.rigged.patched).conseq
        (fun _ hs => hs.manned) (fun _ _ hs => hs) fun _ _ he => he
  have henter : Leads
      (fun s => Manned (Dialed .CONTROL_SELECTION (-1)) none s ∧ AllSynced s)
      (do
        modify fun s => { s with currentChannelIndex := 0 }
        setState .DMX) (Mastered .DMX (-1) none) := by
    rintro s ⟨hs, hsynced⟩
    have hpatched := hs.holds.gathered.rigged.patched
    have hmastered : Mastered .CONTROL_SELECTION (-1) none s := ⟨hs, nofun⟩
    refine hmastered.congr ⟨rfl, rfl, rfl⟩ rfl rfl
      hs.holds.gathered.rigged.control (fun _ => by decide)
      (fun _ => hs.holds.level rfl) fun _ => ⟨hsynced, ?_⟩
    intro lights hlights i hi
    obtain ⟨f, hf, -⟩ := hsynced lights hlights i hi
    have hone := hpatched.channels f (List.mem_of_getElem? hf)
    have hchannel : s.rig.HasChannel 0 i := by
      refine ⟨f.channelMap.size, ?_, Int.le_refl 0, by omega⟩
      rw [Rig.sizes, List.getElem?_map, hf]
      rfl
    exact hchannel
  exact hrevert.bind fun _ => henter

/-- Another channel of all selected lights. -/
theorem Mastered.tune (h : Mastered .DMX (-1) none s)
    (hlights : s.selectedLights = some lights)
    (hall : ∀ i ∈ lights, s.rig.HasChannel channel i) :
    Mastered .DMX (-1) none { s with currentChannelIndex := channel } := by
  have hrigged := h.manned.holds.gathered.rigged
  refine h.congr ⟨rfl, rfl, rfl⟩ rfl hrigged.state hrigged.control id
    h.manned.holds.level fun _ =>
      ⟨(h.tracked rfl).synced, fun lights' heq i hi => ?_⟩
  cases hlights.symm.trans heq
  exact hall i hi

/-- The selected lights have as many channels as the first one. -/
theorem Mastered.hasChannel (h : Mastered .DMX (-1) none s)
    {first : ℕ} {rest : List ℕ} {f : FixtureProfile}
    (hlights : s.selectedLights = some (first :: rest))
    (hf : s.rig.profiles[first]? = some f) (hpos : 0 ≤ channel)
    (hlt : channel < f.channelMap.size) :
    ∀ i ∈ first :: rest, s.rig.HasChannel channel i := by
  intro i hi
  have hsize : s.rig.sizes[first]? = some f.channelMap.size := by
    rw [Rig.sizes, List.getElem?_map, hf]
    rfl
  have hlevel := h.manned.holds.level rfl _ hlights i hi first
    (List.mem_cons_self ..)
  exact ⟨f.channelMap.size, hlevel.trans hsize, hpos, hlt⟩

theorem leads_channelLeft_mastered :
    Leads (Mastered .DMX (-1) none) channelLeft
      (Mastered .DMX (-1) none) := by
  intro s hs
  have hgathered := hs.manned.holds.gathered
  obtain ⟨lights, hlights⟩ := hgathered.chosen (by decide)
  unfold channelLeft
  rw [bind_of_ok (x := modify _) rfl, bind_of_ok (x := get) rfl]
  dsimp only
  by_cases hneg : s.currentChannelIndex - 1 < 0
  · rw [if_pos hneg]
    rcases firstNumChannels_cases (s := { s with
      currentChannelIndex := s.currentChannelIndex - 1 }) hlights with
      ⟨first, rest, f, rfl, hf, hcount⟩ | ⟨e, herror⟩
    · have hmounted := hgathered.rigged.patched.mounted f
        (List.mem_of_getElem? hf)
      have hone := hgathered.rigged.patched.channels f
        (List.mem_of_getElem? hf)
      rw [bind_of_ok hcount, hmounted.toInt_numChannels]
      exact hs.tune hlights (hs.hasChannel hlights hf (by omega) (by omega))
    · rw [bind_of_error herror]
      trivial
  · rw [if_neg hneg]
    refine hs.tune hlights fun i hi => ?_
    obtain ⟨n, hn, hpos, hlt⟩ := (hs.tracked rfl).inChannels lights hlights i hi
    exact ⟨n, hn, by omega, by omega⟩

theorem leads_channelRight_mastered :
    Leads (Mastered .DMX (-1) none) channelRight
      (Mastered .DMX (-1) none) := by
  intro s hs
  have hgathered := hs.manned.holds.gathered
  obtain ⟨lights, hlights⟩ := hgathered.chosen (by decide)
  unfold channelRight
  rw [bind_of_ok (x := modify _) rfl]
  rcases firstNumChannels_cases (s := { s with
    currentChannelIndex := s.currentChannelIndex + 1 }) hlights with
    ⟨first, rest, f, rfl, hf, hcount⟩ | ⟨e, herror⟩
  · have hmounted := hgathered.rigged.patched.mounted f
      (List.mem_of_getElem? hf)
    have hone := hgathered.rigged.patched.channels f
      (List.mem_of_getElem? hf)
    obtain ⟨n, -, hpos, -⟩ :=
      (hs.tracked rfl).inChannels _ hlights first (List.mem_cons_self ..)
    rw [bind_of_ok hcount, bind_of_ok (x := get) rfl]
    dsimp only
    rw [hmounted.toInt_numChannels]
    by_cases hend : s.currentChannelIndex + 1 ≥ f.channelMap.size
    · rw [if_pos hend]
      exact hs.tune hlights (hs.hasChannel hlights hf (by omega) (by omega))
    · rw [if_neg hend]
      exact hs.tune hlights (hs.hasChannel hlights hf (by omega) (by omega))
  · rw [bind_of_error herror]
    trivial

/-- A call on one light leaves the mirrors of all selected lights in
agreement. -/
theorem mastered_callLight {c : FixtureProfile → Prop}
    (op : Light.Operation) (hcalm : Light.Calm c op.run) (light : ℕ) :
    Preserves (Mastered .DMX (-1) none)
      (onRig (Rig.callLight light op.run)) := by
  intro s hs
  have hpatched := hs.manned.holds.gathered.rigged.patched
  have hworkable : Workable (Dialed .DMX (-1)) := workable_dialed
  have hshown := shown_manned hworkable.toShown (o := none)
  have hsynced := fun j => Rig.preserves_synced hcalm light j
  have htracked := hs.tracked rfl
  have hkept : ∀ r : Rig, s.rig.Follows r →
      (∀ j, s.rig.Synced j → r.Synced j) →
        Mastered .DMX (-1) none { s with rig := r } := fun r hr hall =>
    ⟨hshown.rig s r hr hs.manned, fun _ =>
      ⟨fun lights hlights i hi => hall i (htracked.synced lights hlights i hi),
        htracked.inChannels.setRig hr.similar⟩⟩
  have hshows := Rig.shows_callLight hcalm light s.rig
  unfold onRig Java.zoom
  cases hrun : Rig.callLight light op.run s.rig with
  | ok a r =>
      exact hkept r (hshows.of_ok rfl hrun) fun j hj =>
        ((hsynced j).of_ok ⟨hpatched, hj⟩ hrun).2
  | error e r =>
      exact hkept r (hshows.of_error rfl hrun).1 fun j hj =>
        ((hsynced j).of_error ⟨hpatched, hj⟩ hrun).2

theorem mastered_clearLights :
    Preserves (Mastered .DMX (-1) none) clearLights :=
  preserves_forSelected fun light => preserves_try
    (mastered_callLight .clearLight Light.calm_clearLight light)

theorem mastered_changeChannel (step : Int32) (outOfRange : Int32 → Bool) :
    Preserves (Mastered .DMX (-1) none) (changeChannel step outOfRange) := by
  refine preserves_forSelected fun light => Preserves.get_bind fun s => ?_
  have hread : Preserves (Mastered .DMX (-1) none)
      (onRig (Rig.fixture light)) := by
    intro t ht
    cases hf : t.rig.profiles[light]? with
    | none =>
        rw [onRig_fixture_none hf]
        exact ht
    | some f =>
        rw [onRig_fixture hf]
        exact ht
  refine hread.bind fun _ => Preserves.ite (Preserves.throw _) ?_
  refine (Preserves.arrayGet _ _).bind fun value => ?_
  exact Preserves.ite (Preserves.pure _) (preserves_try
    (mastered_callLight (.setChannelManual _ _)
      (Light.calm_setChannelManual _ _) light))

/-! ## All modes -/

theorem shown_mastered (hmode : mode ≠ .DMX) :
    Shown (Mastered mode index o) := by
  have hshown : Shown (Manned (Dialed mode index) o) :=
    shown_manned workable_dialed.toShown
  exact ⟨fun s r hr h => ⟨hshown.rig s r hr h.manned,
    fun hm => absurd hm hmode⟩, fun s k i stage w hw hstage h =>
      ⟨hshown.object s k i stage w hw hstage h.manned,
        fun hm => absurd hm hmode⟩⟩

/-- What the workers do in a mode other than the DMX mode. -/
theorem leads_mastered (hmode : mode ≠ .DMX) {o' : Option WorkerField}
    {x : Run Server α}
    (hx : Leads (Manned (Dialed mode index) o) x
      (Manned (Dialed mode index) o')) :
    Leads (Mastered mode index o) x (Mastered mode index o') :=
  hx.conseq (fun _ h => h.manned)
    (fun _ _ h => ⟨h, fun hm => absurd hm hmode⟩) fun _ _ he => he

theorem custody_mastered : Custody Mastered where
  state := fun h => h.manned.holds.gathered.rigged.state
  control := fun h => h.manned.holds.gathered.rigged.control
  shown := shown_mastered
  fields := fun s _ _ _ _ h => h.congr ⟨rfl, rfl, rfl⟩ rfl
    h.manned.holds.gathered.rigged.state
    h.manned.holds.gathered.rigged.control id h.manned.holds.level
    fun hm => ⟨(h.tracked hm).synced, (h.tracked hm).inChannels⟩
  marks := fun s r hmode hr h =>
    ⟨⟨⟨h.manned.holds.gathered.setMarks hr, fun hindex =>
      (h.manned.holds.level hindex).setRig hr.similar⟩, h.manned.staffed⟩,
      fun hm => absurd hm hmode⟩
  scenes := fun s _ _ h => h.congr ⟨rfl, rfl, rfl⟩ rfl
    h.manned.holds.gathered.rigged.state
    h.manned.holds.gathered.rigged.control id h.manned.holds.level
    fun hm => ⟨(h.tracked hm).synced, (h.tracked hm).inChannels⟩
  setState := fun _ _ _ hdmx hbelow h => h.congr ⟨rfl, rfl, rfl⟩ rfl rfl
    h.manned.holds.gathered.rigged.control hbelow h.manned.holds.level
    fun hm => absurd hm hdmx
  chase := fun _ _ h => h.congr ⟨rfl, rfl, rfl⟩ rfl rfl
    h.manned.holds.gathered.rigged.control
    (fun hbelow => absurd hbelow (by decide)) h.manned.holds.level nofun
  setControl := fun _ _ hcan h => h.congr ⟨rfl, rfl, rfl⟩ rfl
    h.manned.holds.gathered.rigged.state rfl id
    (fun hindex => h.manned.holds.gathered.compared (hcan hindex))
    fun hm => ⟨(h.tracked hm).synced, (h.tracked hm).inChannels⟩
  startWorker := fun k object hmode hk => leads_mastered hmode
    (leads_startWorker_manned workable_dialed k (k.neat_of_ne hk object))
  redrum := fun k hmode => leads_mastered hmode
    (leads_redrum_manned workable_dialed k)
  startHighlight := leads_mastered (by decide)
    (leads_startHighlight_manned workable_dialed)
  redrumHighlight := leads_mastered (by decide)
    ((triple_redrumHighlight_manned workable_dialed).conseq
      (fun _ h => h) (fun _ _ h => h.2) fun _ _ he => he)
  addLight := fun light => leads_mastered (by decide)
    (leads_onHighlight_manned workable_dialed fun _ =>
      HighlightThread.leads_tidy_addLight light)
  removeLight := fun light => leads_mastered (by decide)
    (leads_onHighlight_manned workable_dialed fun _ =>
      HighlightThread.leads_tidy_removeLight light)
  select := leads_select_mastered
  enterDMX := leads_enterDMX_mastered
  channelLeft := leads_channelLeft_mastered
  channelRight := leads_channelRight_mastered
  changeChannel := fun step outOfRange =>
    (mastered_changeChannel step outOfRange).leads
  clearLights := mastered_clearLights.leads

/-! ## Edits -/

/-- The body of the loop of `changeChannel`. -/
def changeLight (step : Int32) (outOfRange : Int32 → Bool) (light : ℕ) :
    Run Server Unit := do
  let channel := (← get).currentChannelIndex
  let f ← onRig (Rig.fixture light)
  if channel < 0 then throwNew .arrayIndexOutOfBoundsException
  else
    let value ← arrayGet f.dmxVals channel.toNat
    if outOfRange (value + step) then pure ()
    else
      tryIO (onRig (Rig.callLight light
        (Light.setChannelManual (Int32.ofInt channel) (value + step))))

theorem changeChannel_eq (step : Int32) (outOfRange : Int32 → Bool) :
    changeChannel step outOfRange =
      forSelected (changeLight step outOfRange) := rfl

/-- What an edit makes of a value. -/
def changed (step : Int32) (outOfRange : Int32 → Bool) (value : Int32) :
    Int32 :=
  if outOfRange (value + step) then value else value + step

variable {step : Int32} {outOfRange : Int32 → Bool}

/-- The edit of one light goes by the value of the driver. -/
theorem changeLight_eq (hstep : StepsBytes step outOfRange)
    (hpatched : s.rig.Patched) {i : ℕ} (hsynced : s.rig.Synced i)
    (hchannel : s.rig.HasChannel s.currentChannelIndex i) :
    ∃ r, changeLight step outOfRange i s = .ok ⟨⟩ { s with rig := r } ∧
      Rig.Edited (changed step outOfRange)
        (s.rig.cell s.currentChannelIndex i) s.rig r := by
  obtain ⟨f, hf, hpos, hlt⟩ := hchannel.exists_fixture
  have hmem := List.mem_of_getElem? hf
  have hlength := (hpatched.mounted f hmem).length_dmxVals
  have hindex : s.currentChannelIndex.toNat < f.dmxVals.length := by omega
  have hbyte := hpatched.bytes.mirror f hmem _ (List.getElem_mem hindex)
  have hvalue : ∀ a ∈ s.rig.cell s.currentChannelIndex i,
      f.dmxVals[s.currentChannelIndex.toNat] = s.rig.dmx.dmxShadow a := by
    intro a ha
    have hget := hsynced.getElem?_eq hpatched hf hpos hlt ha
    rw [List.getElem?_eq_getElem hindex] at hget
    exact Option.some.inj hget
  unfold changeLight
  rw [bind_of_ok (x := get) rfl, bind_of_ok (onRig_fixture hf),
    if_neg (by omega), arrayGet_bind_of_lt hindex]
  cases hrange :
      outOfRange (f.dmxVals[s.currentChannelIndex.toNat] + step) with
  | true =>
      refine ⟨s.rig, rfl, Rig.Edited.of_fixed fun a ha => ?_⟩
      unfold changed
      rw [← hvalue a ha, hrange]
      rfl
  | false =>
      have hchanged : ∀ a ∈ s.rig.cell s.currentChannelIndex i,
          f.dmxVals[s.currentChannelIndex.toNat] + step =
            changed step outOfRange (s.rig.dmx.dmxShadow a) := by
        intro a ha
        unfold changed
        rw [← hvalue a ha, hrange]
        rfl
      obtain ⟨r, hrun, hedited⟩ := hpatched.edited_setChannelManual hchannel
        (hstep _ hbyte hrange) hchanged
      refine ⟨r, catchIOException_of_ok ?_, hedited⟩
      unfold onRig Java.zoom
      rw [hrun]

/-- The edits of several lights. -/
theorem forM_changeLight_eq (hstep : StepsBytes step outOfRange)
    (hdistinct : lights.Nodup) (hpatched : s.rig.Patched)
    (hsynced : ∀ i ∈ lights, s.rig.Synced i)
    (hchannel : ∀ i ∈ lights, s.rig.HasChannel s.currentChannelIndex i) :
    ∃ r, lights.forM (changeLight step outOfRange) s =
        .ok ⟨⟩ { s with rig := r } ∧
      Rig.Edited (changed step outOfRange)
        (s.rig.cells s.currentChannelIndex lights) s.rig r := by
  induction lights generalizing s with
  | nil =>
      refine ⟨s.rig, rfl, Rig.Edited.of_fixed fun a ha => ?_⟩
      rw [Rig.cells_nil] at ha
      cases ha
  | cons i rest ih =>
      obtain ⟨hi, hrest⟩ := List.nodup_cons.mp hdistinct
      obtain ⟨r, hrun, hedited⟩ := changeLight_eq hstep hpatched
        (hsynced i (List.mem_cons_self ..))
        (hchannel i (List.mem_cons_self ..))
      have hsizes := hedited.follows.sizes
      obtain ⟨r', hruns, hedits⟩ := ih (s := { s with rig := r }) hrest
        (hpatched.of_follows hedited.follows)
        (fun j hj => hedited.synced j (hsynced j (List.mem_cons_of_mem _ hj)))
        fun j hj => by
          obtain ⟨n, hn, hrange⟩ := hchannel j (List.mem_cons_of_mem _ hj)
          exact ⟨n, hsizes ▸ hn, hrange⟩
      have hnot := hpatched.not_mem_cells hchannel hi
      rw [← hedited.follows.cells] at hnot
      rw [List.forM_eq_forM, List.forM_cons, bind_of_ok hrun]
      refine ⟨r', hruns, ?_⟩
      rw [Rig.cells_cons, ← hedited.follows.cells _ rest]
      exact hedited.trans hedits hnot

theorem Mastered.changeChannel_eq (h : Mastered .DMX (-1) none s)
    (hstep : StepsBytes step outOfRange) :
    ∃ lights r, s.selectedLights = some lights ∧
      changeChannel step outOfRange s = .ok ⟨⟩ { s with rig := r } ∧
      Rig.Edited (changed step outOfRange)
        (s.rig.cells s.currentChannelIndex lights) s.rig r := by
  have hgathered := h.manned.holds.gathered
  obtain ⟨lights, hlights⟩ := hgathered.chosen (by decide)
  obtain ⟨r, hrun, hedited⟩ := forM_changeLight_eq hstep
    (hgathered.distinct lights hlights) hgathered.rigged.patched
    ((h.tracked rfl).synced lights hlights)
    ((h.tracked rfl).inChannels lights hlights)
  refine ⟨lights, r, hlights, ?_, hedited⟩
  have hloop : forSelected (changeLight step outOfRange) s =
      lights.forM (changeLight step outOfRange) s := by
    unfold forSelected
    rw [bind_of_ok (x := get) rfl, hlights, orThrow_some_bind]
  rw [Server.changeChannel_eq]
  exact hloop.trans hrun

/-- The values of the driver for the channel of the selected lights at the
cursor are changed, and no others. -/
structure MovesValues (change : Int32 → Int32) (s s' : Server) : Prop where
  selected : ∃ lights, s.selectedLights = some lights ∧ ∀ i ∈ lights,
    ∃ (f : FixtureProfile) (a : Fin 513), s.rig.profiles[i]? = some f ∧
      (a : ℤ) = f.address.toInt + s.currentChannelIndex ∧
      s'.rig.dmx.dmxShadow a = change (s.rig.dmx.dmxShadow a)
  others : ∀ a : Fin 513,
    (∀ lights, s.selectedLights = some lights → ∀ i ∈ lights,
      ∀ f : FixtureProfile, s.rig.profiles[i]? = some f →
        (a : ℤ) ≠ f.address.toInt + s.currentChannelIndex) →
      s'.rig.dmx.dmxShadow a = s.rig.dmx.dmxShadow a

/-- What `UP` makes of a value. -/
def raised (value : Int32) : Int32 :=
  if value + DMX_STEP ≤ 255 then value + DMX_STEP else value

/-- What `DOWN` makes of a value. -/
def lowered (value : Int32) : Int32 :=
  if 0 ≤ value - DMX_STEP then value - DMX_STEP else value

theorem changed_up : changed DMX_STEP (fun value => value > 255) = raised := by
  funext value
  unfold changed raised
  by_cases h : value + DMX_STEP ≤ 255
  · rw [if_pos h, if_neg (by simpa using h)]
  · rw [if_neg h, if_pos (by simpa using h)]

theorem changed_down :
    changed (-DMX_STEP) (fun value => value < 0) = lowered := by
  funext value
  unfold changed lowered
  rw [← Int32.sub_eq_add_neg]
  by_cases h : 0 ≤ value - DMX_STEP
  · rw [if_pos h, if_neg (by simpa using h)]
  · rw [if_neg h, if_pos (by simpa using h)]

theorem Mastered.movesValues (h : Mastered .DMX (-1) none s) {r : Rig}
    {change : Int32 → Int32} (hlights : s.selectedLights = some lights)
    (hr : Rig.Edited change (s.rig.cells s.currentChannelIndex lights)
      s.rig r) : MovesValues change s { s with rig := r } := by
  refine ⟨⟨lights, hlights, fun i hi => ?_⟩, fun a ha =>
    hr.changed.outside a ?_⟩
  · have hchannel : s.rig.HasChannel s.currentChannelIndex i :=
      (h.tracked rfl).inChannels lights hlights i hi
    obtain ⟨f, hf, hpos, hlt⟩ := hchannel.exists_fixture
    have hmounted := h.manned.holds.gathered.rigged.patched.mounted f
      (List.mem_of_getElem? hf)
    have hone := hmounted.one_le_address
    have hadd := hmounted.address_add_le
    have haddress : (f.address.toInt + s.currentChannelIndex).toNat < 513 := by
      omega
    have hcell : ((⟨_, haddress⟩ : Fin 513) : ℤ) =
        f.address.toInt + s.currentChannelIndex := by
      show (((f.address.toInt + s.currentChannelIndex).toNat : ℕ) : ℤ) = _
      omega
    exact ⟨f, ⟨_, haddress⟩, hf, hcell,
      hr.changed.inside _ ⟨i, hi, f, hf, hcell⟩⟩
  · rintro ⟨i, hi, f, hf, hcell⟩
    exact ha lights hlights i hi f hf hcell

/-- A command that edits the channel. -/
theorem processCommand_of_dmxMode {command : WirelessCommand}
    (hinterprets : Interprets command) {x : Run Server Unit}
    (hdebug : debugSwitch command.parse.2 = pure false)
    (hmode : dmxMode command.parse.2 = (do x; return false))
    (hstate : s.currentState = .DMX) {s' : Server} (hx : x s = .ok ⟨⟩ s')
    (colorConverter : XYConverter) (random : ℕ → Color) :
    processCommand colorConverter random command s = .ok ⟨⟩ s' := by
  have hmain : mainSwitch colorConverter random command.parse.2 s =
      .ok false s' := by
    unfold mainSwitch
    rw [bind_of_ok (x := get) rfl, hstate]
    show dmxMode command.parse.2 s = _
    rw [hmode, bind_of_ok hx]
    rfl
  rw [processCommand_of_interprets hinterprets, hdebug]
  show (mainSwitch colorConverter random command.parse.2 >>= _) s = _
  rw [bind_of_ok hmain]
  rfl

end Server

namespace Process

open Server

/-- The party command is given in the idle mode only. -/
def PartiesWhenIdle (p : Process) : Event → Prop
  | .packet _ receiveData => Interprets (.new receiveData) →
      (WirelessCommand.new receiveData).parse.2.userActionData = KONAMI →
        p.server.currentState = .IDLE
  | .tick _ _ => True

variable {colorConverter : XYConverter} {p : Process} {e : Event}

theorem leads_tick_mastered (k : WorkerField) (i : ℕ) :
    Leads (Custody.Settled Mastered) (tick k i)
      (Custody.Settled Mastered) := by
  rintro s ⟨hfits, hs⟩
  by_cases hdmx : s.currentState = .DMX
  · have hnone : owner s.currentState s.currentControlIndex = none := by
      rw [hdmx]
      rfl
    rw [tick_of_idle ((hs.manned.staffed k).idle fun ho =>
      nomatch hnone.symm.trans ho)]
    exact ⟨hfits, hs⟩
  · have htick : Leads
        (Mastered s.currentState s.currentControlIndex
          (owner s.currentState s.currentControlIndex)) (tick k i)
        (Mastered s.currentState s.currentControlIndex
          (owner s.currentState s.currentControlIndex)) :=
      leads_mastered hdmx (manned_tick workable_dialed k i).leads
    exact (htick.mono fun _ => custody_mastered.settled _ hfits) s hs

theorem while_mastered_step (h : While (Custody.Settled Mastered) p)
    (hparties : PartiesWhenIdle p e) :
    While (Custody.Settled Mastered) (step colorConverter p e) := by
  have hpre : While (fun s => Custody.Settled Mastered s ∧
      PartiesWhenIdle ⟨s, p.ended⟩ e) p := fun hended => ⟨h hended, hparties⟩
  refine while_step hpre ?_ fun _ => h
  cases e with
  | packet random receiveData =>
      refine (custody_mastered.processCommand colorConverter random
        (.new receiveData)).conseq
        (fun s hs => ⟨hs.1, fun hinterprets hab => ?_⟩)
        (fun _ _ hs => hs) fun _ _ he => he
      have hidle := hs.2 hinterprets hab.1
      have hworker := hab.2
      rw [show s.currentState = .IDLE from hidle] at hworker
      rcases hworker with hmode | hmode | hmode <;> cases hmode
  | tick k i =>
      exact (leads_tick_mastered k i).conseq (fun _ hs => hs.1)
        (fun _ _ hs => hs) fun _ _ he => he

theorem mastered_of_starts {dmx : DefaultDMX}
    {profiles : List FixtureProfile} {file : Option (List Char)}
    (hstart : Starts dmx profiles file p)
    (hpatched : (Rig.mk dmx profiles).Patched) :
    Custody.Settled Mastered p.server := by
  have hinit : Mastered .IDLE 0 none (init dmx profiles file) := by
    refine ⟨⟨⟨⟨⟨rfl, rfl, hpatched⟩, nofun, nofun, fun hbelow =>
      absurd hbelow (by decide)⟩, nofun⟩, fun k => ?_⟩, nofun⟩
    exact ⟨nofun, fun _ => nofun, nofun⟩
  have hscenes : Preserves (Mastered .IDLE 0 none) startScenes :=
    preserves_getDmx.bind fun _ =>
      (custody_mastered.preserves_onScenes (by decide) _).bind fun _ =>
        custody_mastered.preserves_onScenes (by decide) _
  exact custody_mastered.settled .IDLE trivial
    (hscenes.of_ok hinit hstart.1)

variable {value : Int32} {outOfRange : Int32 → Bool}

/-- A button that edits the channel. -/
theorem movesValues_of_presses {action : Int8} {change : Int32 → Int32}
    (hsettled : Custody.Settled Mastered p.server) (hended : p.ended = none)
    (hmode : p.server.currentState = .DMX) (he : Presses action e)
    (hvalue : StepsBytes value outOfRange)
    (hchange : changed value outOfRange = change)
    (hbutton : ∀ c : WirelessCommand, c.dataType = USER_ACTION_DATA →
      c.userActionData = action → debugSwitch c = pure false ∧
        dmxMode c = (do changeChannel value outOfRange; return false)) :
    (step colorConverter p e).ended = none ∧
      MovesValues change p.server (step colorConverter p e).server := by
  obtain ⟨hfits, hmastered⟩ := hsettled
  rw [hmode] at hfits hmastered
  rw [show p.server.currentControlIndex = -1 from hfits] at hmastered
  have hdmx : Mastered .DMX (-1) none p.server := hmastered
  obtain ⟨lights, r, hlights, hrun, hedited⟩ := hdmx.changeChannel_eq hvalue
  rw [hchange] at hedited
  cases e with
  | tick k i => cases he
  | packet random receiveData =>
      obtain ⟨hinterprets, hdata, haction⟩ := he
      obtain ⟨hdebug, hswitch⟩ := hbutton _ hdata haction
      have hcommand := processCommand_of_dmxMode hinterprets hdebug hswitch
        hmode hrun colorConverter random
      have hignores : p.ignores (.packet random receiveData) = false := by
        unfold ignores
        rw [hended]
        rfl
      rw [step_of_ok hignores hcommand]
      exact ⟨hended, hdmx.movesValues hlights hedited⟩

/-- On a patch, the DMX mode edits the values of the driver. -/
theorem dmx_edits {dmx : DefaultDMX} {profiles : List FixtureProfile}
    {file : Option (List Char)} {events : List Event}
    (hstart : Starts dmx profiles file p)
    (hpatched : (Rig.mk dmx profiles).Patched)
    (hparties : Runs.AllSteps (step colorConverter) PartiesWhenIdle p events)
    {t : Process} (ht : t ∈ Runs.states (step colorConverter) p events)
    (hended : t.ended = none) (hmode : t.server.currentState = .DMX) :
    (∀ e, Presses UP e → (step colorConverter t e).ended = none ∧
      MovesValues raised t.server (step colorConverter t e).server) ∧
    ∀ e, Presses DOWN e → (step colorConverter t e).ended = none ∧
      MovesValues lowered t.server (step colorConverter t e).server := by
  have hwhile : While (Custody.Settled Mastered) t :=
    Runs.invariant (fun _ _ => while_mastered_step)
      (fun _ => mastered_of_starts hstart hpatched) hparties t ht
  refine ⟨fun e he => ?_, fun e he => ?_⟩
  · refine movesValues_of_presses (hwhile hended) hended hmode he
      stepsBytes_up changed_up fun c hdata haction => ⟨?_, ?_⟩
    · unfold debugSwitch
      rw [haction]
      rfl
    · unfold dmxMode
      rw [if_neg (not_not.mpr hdata), haction]
      rfl
  · refine movesValues_of_presses (hwhile hended) hended hmode he
      stepsBytes_down changed_down fun c hdata haction => ⟨?_, ?_⟩
    · unfold debugSwitch
      rw [haction]
      rfl
    · unfold dmxMode
      rw [if_neg (not_not.mpr hdata), haction]
      rfl

theorem partiesWhenIdle_button {action : Int8} (h : action ≠ KONAMI) :
    PartiesWhenIdle p (button action) := fun _ hkonami => absurd hkonami h

theorem patched_twoLights : (Rig.mk blackout
    [parLight, { parLight with address := 5 }]).Patched where
  mounted := by
    intro f hf
    rcases List.mem_pair.mp hf with rfl | rfl
    · exact usable_parLight.mounted
    · exact mounted_parLight (by decide) (by decide)
  channels := by decide
  apart := List.pairwise_pair.mpr (.inl (by decide))
  bytes := ⟨by decide, fun _ => isByte_zero⟩
  noFault := rfl

/-- Both lights are selected, and the controls lead to the DMX mode. -/
def entersDMX : List Event :=
  [button B1, button PS2, button RIGHT, button PS2, .tick .highlight 0,
    button B1, .tick .presetVisual 0, button RIGHT, .tick .dmxVisual 0,
    button B1]

/-- The server in the DMX mode. -/
def editing : Process :=
  entersDMX.foldl (step fun _ _ => Color.WHITE) twoLights

theorem dmx_edits_twoLights :
    ((step (fun _ _ => Color.WHITE) editing (button UP)).ended = none ∧
      MovesValues raised editing.server
        (step (fun _ _ => Color.WHITE) editing (button UP)).server) ∧
    (step (fun _ _ => Color.WHITE) editing (button DOWN)).ended = none ∧
      MovesValues lowered editing.server
        (step (fun _ _ => Color.WHITE) editing (button DOWN)).server := by
  have hup : Presses UP (button UP) := ⟨by decide, by decide, by decide⟩
  have hdown : Presses DOWN (button DOWN) :=
    ⟨by decide, by decide, by decide⟩
  have hB1 : ∀ q, PartiesWhenIdle q (button B1) := fun q =>
    partiesWhenIdle_button (by decide)
  have hPS2 : ∀ q, PartiesWhenIdle q (button PS2) := fun q =>
    partiesWhenIdle_button (by decide)
  have hRIGHT : ∀ q, PartiesWhenIdle q (button RIGHT) := fun q =>
    partiesWhenIdle_button (by decide)
  have hparties : Runs.AllSteps (step fun _ _ => Color.WHITE)
      PartiesWhenIdle twoLights entersDMX :=
    ⟨hB1 _, hPS2 _, hRIGHT _, hPS2 _, trivial, hB1 _, trivial, hRIGHT _,
      trivial, hB1 _, trivial⟩
  have hrun : editing.ended = none ∧ editing.server.currentState = .DMX := by
    -- every index into a scene would be a walk through its list
    delta editing step run processCommand mainSwitch lightSelectionMode
      controlSelectionMode controlRight controlEnter revertScene
    rw [DefaultDMX.setAllDMX_eq_inFours]
    decide +kernel
  have hedits := dmx_edits starts_twoLights patched_twoLights hparties
    (t := editing) Runs.foldl_mem_states hrun.1 hrun.2
  exact ⟨hedits.1 _ hup, hedits.2 _ hdown⟩

end Process

end ChuckLight
