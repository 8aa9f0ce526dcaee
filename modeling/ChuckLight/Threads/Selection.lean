import ChuckLight.Support.Listing
import ChuckLight.Threads.Below
import ChuckLight.Threads.LightSelection

/-!
# The selection law

In the light selection the highlight thread lists the current light and the
selected lights, each once.  The flags are in the fixtures and the list is in
the thread; every command changes both in step, except for the long press of
the second button, which leaves the list alone, and for the party command,
which leaves the flags behind.
-/

namespace ChuckLight

open Java Connection LightingDefines

namespace Server

/-! ## Cursor, flags and list -/

/-- The list holds the light at the cursor and the selected lights. -/
def Chosen (exact : Prop) (cursor : ℕ) (flags : List Bool) : List ℕ → Prop :=
  Listing exact fun i => i = cursor ∨ flags.getD i false = true

/-- No light but the one at the cursor is selected. -/
def Alone (cursor : ℕ) (flags : List Bool) : Prop :=
  ∀ i, flags.getD i false = true → i = cursor

variable {exact : Prop} {cursor next : ℕ} {flags : List Bool} {list : List ℕ}

theorem Alone.chosen (h : Alone cursor flags) :
    Chosen exact cursor flags [cursor] :=
  (Listing.singleton cursor).congr fun i =>
    ⟨fun hi => hi.elim id (h i), .inl⟩

theorem alone_replicate (n cursor : ℕ) :
    Alone cursor (List.replicate n false) := by
  intro i hi
  rw [List.getD_eq_getElem?_getD, List.getElem?_replicate] at hi
  split_ifs at hi <;> cases hi

/-- A light joins the list. -/
theorem listing_withLight {wanted : ℕ → Prop} (h : Listing exact wanted list)
    (i : ℕ) :
    Listing exact (fun j => wanted j ∨ j = i)
      (HighlightThread.withLight i list) := by
  unfold HighlightThread.withLight
  by_cases hi : i ∈ list
  · rw [if_pos hi]
    exact h.of_mem hi
  · rw [if_neg hi]
    exact h.concat hi

/-- The light that the cursor leaves stays in the list if it is selected. -/
theorem Chosen.leave (h : Chosen exact cursor flags list) :
    Listing exact (fun i => flags.getD i false = true)
      (if flags.getD cursor false then list else list.erase cursor) := by
  by_cases hcursor : flags.getD cursor false = true
  · rw [if_pos hcursor]
    exact h.congr fun i => ⟨.inr, fun hi => hi.elim (fun hi => hi ▸ hcursor) id⟩
  · rw [if_neg hcursor]
    refine (h.erase cursor).congr fun i => ⟨fun hi => ⟨.inr hi, ?_⟩,
      fun hi => hi.1.resolve_left hi.2⟩
    rintro rfl
    exact hcursor hi

theorem Chosen.stepped (h : Chosen exact cursor flags list) :
    Chosen exact next flags (stepped flags cursor next list) := by
  have hleft := h.leave
  unfold Server.stepped
  dsimp only
  by_cases hnext : flags.getD next false = true
  · rw [if_pos hnext]
    exact hleft.congr fun i => ⟨fun hi => hi.elim (fun hi => hi ▸ hnext) id,
      .inr⟩
  · rw [if_neg hnext]
    exact (listing_withLight hleft next).congr fun i => or_comm

/-- The light at the cursor is listed whether it is selected or not. -/
theorem Chosen.toggle (h : Chosen exact cursor flags list) (selected : Bool) :
    Chosen exact cursor (flags.set cursor selected) list := by
  refine h.congr fun i => or_congr_right' fun hi => ?_
  rw [List.getD_eq_getElem?_getD, List.getD_eq_getElem?_getD,
    List.getElem?_set_ne (Ne.symm hi)]

/-- Nothing is selected any more. -/
theorem Chosen.clear (h : Chosen exact cursor flags list)
    (halone : exact → Alone cursor flags) (n : ℕ) :
    Chosen exact cursor (List.replicate n false)
      (HighlightThread.withLight cursor list) := by
  have hmem := h.mem cursor (.inl rfl)
  have hwith : HighlightThread.withLight cursor list = list := if_pos hmem
  rw [hwith]
  refine ⟨h.nodup, fun i hi => ?_, fun hexact i hi => .inl ?_⟩
  · rw [hi.elim id (alone_replicate n cursor i)]
    exact hmem
  · exact (h.only hexact i hi).elim id (halone hexact i)

/-! ## The law -/

/-- The server is in a mode, with a cursor over `n` lights of which some are
selected. -/
structure Stands (n : ℕ) (mode : Mode) (cursor : ℕ) (flags : List Bool)
    (s : Server) : Prop where
  size : flags.length = n
  lt : cursor < flags.length
  state : s.currentState = mode
  cursor : s.currentLightIndex = (cursor : ℤ)
  flags : s.rig.flags = flags

/-- In the light selection the list is as it should be, and in the other modes
no light but the current one is selected. -/
inductive Lawful (exact : Prop) (n : ℕ) (s : Server) : Prop
  | selecting {cursor : ℕ} {flags : List Bool} {list : List ℕ}
      (stands : Stands n .LIGHT_SELECTION cursor flags s)
      (lights : Lights False list s) (chosen : Chosen exact cursor flags list)
  | elsewhere {mode : Mode} {cursor : ℕ} {flags : List Bool}
      (hmode : mode ≠ .LIGHT_SELECTION) (stands : Stands n mode cursor flags s)
      (alone : Alone cursor flags)

variable {n : ℕ} {mode : Mode} {s : Server}

theorem Lawful.length_profiles (h : Lawful exact n s) :
    s.rig.profiles.length = n := by
  rw [← Rig.length_flags]
  cases h with
  | selecting stands lights chosen =>
      rw [stands.flags]
      exact stands.size
  | elsewhere hmode stands alone =>
      rw [stands.flags]
      exact stands.size

theorem working_stands : Working (Stands n mode cursor flags) where
  rig := fun _ _ hr h =>
    ⟨h.size, h.lt, h.state, h.cursor, hr.flags.trans h.flags⟩
  object := fun _ _ _ _ _ _ hstage h =>
    ⟨h.size, h.lt, h.state, h.cursor, hstage.rig.flags.trans h.flags⟩
  fields := fun _ _ _ _ _ _ h => ⟨h.size, h.lt, h.state, h.cursor, h.flags⟩
  slots := fun _ _ h => ⟨h.size, h.lt, h.state, h.cursor, h.flags⟩
  control := fun _ _ h => ⟨h.size, h.lt, h.state, h.cursor, h.flags⟩

theorem selecting_stands : Selecting False (Stands n mode) where
  workable := fun _ _ => working_stands.toWorkable
  cursor := Stands.cursor
  flags := Stands.flags
  lt := Stands.lt
  usable := fun _ => False.elim
  reverts := fun _ _ => working_stands.revertScene.conseq (fun _ h => h)
    (fun _ _ h => h) fun _ _ _ => False.elim
  move := fun _ h hlt => ⟨h.size, hlt, h.state, rfl, h.flags⟩
  mark := fun r h hr => by
    refine ⟨?_, ?_, h.state, h.cursor, rfl⟩
    · rw [hr.length_flags, h.flags]
      exact h.size
    · rw [hr.length_flags, h.flags]
      exact h.lt

theorem leads_setState_stands (mode' : Mode) :
    Leads (Stands n mode cursor flags) (setState mode')
      (Stands n mode' cursor flags) :=
  Leads.modify fun _ h => ⟨h.size, h.lt, rfl, h.cursor, h.flags⟩

theorem stands_onScenes {α : Type} (x : Run SceneManager α) :
    Preserves (Stands n mode cursor flags) (onScenes x) :=
  Preserves.zoom x fun _ _ h => ⟨h.size, h.lt, h.state, h.cursor, h.flags⟩

/-! ## The other modes -/

section Elsewhere

variable (halone : Alone cursor flags)

include halone

/-- The light selection starts with the current light. -/
theorem lawful_startHighlight :
    Leads (Stands n .LIGHT_SELECTION cursor flags) startHighlight
      (Lawful exact n) :=
  selecting_stands.triple_startHighlight.leads.mono fun _ h =>
    .selecting h.1 h.2 halone.chosen

/-- A method that stays in the mode, and the result of the handler. -/
theorem lawful_stay (hmode : mode ≠ .LIGHT_SELECTION) {x : Run Server Unit}
    {beat : Bool} (hx : Preserves (Stands n mode cursor flags) x) :
    Leads (Stands n mode cursor flags) (do x; return beat) (Lawful exact n) :=
  (hx.leads.mono fun _ h => .elsewhere hmode h halone).returning

theorem lawful_pure (hmode : mode ≠ .LIGHT_SELECTION) {beat : Bool} :
    Leads (Stands n mode cursor flags) (pure beat) (Lawful exact n) :=
  Leads.pure beat fun _ h => .elsewhere hmode h halone

/-- A mode without lights to select is entered at last. -/
theorem lawful_enter (mode' : Mode) (hmode' : mode' ≠ .LIGHT_SELECTION)
    {beat : Bool} :
    Leads (Stands n mode cursor flags) (do setState mode'; return beat)
      (Lawful exact n) :=
  ((leads_setState_stands mode').mono fun _ h =>
    .elsewhere hmode' h halone).returning

theorem passage_stands :
    Passage (fun mode => Stands n mode cursor flags) (Lawful exact n) where
  working := fun _ => working_stands
  setState := fun _ mode' => leads_setState_stands mode'
  below := fun mode _ hmode h => by
    have hother : mode ≠ .LIGHT_SELECTION := by
      rintro rfl
      exact absurd hmode (by decide)
    exact .elsewhere hother h halone
  highlight := lawful_startHighlight halone

theorem lawful_confirm :
    Leads (Stands n mode cursor flags) confirm (Lawful exact n) := by
  refine (Shown.saveScene fun _ => stands_onScenes _).leads.bind fun _ => ?_
  refine (leads_setState_stands .LIGHT_SELECTION).bind fun _ => ?_
  exact lawful_startHighlight halone

theorem lawful_chaseMode (c : WirelessCommand) :
    Leads (Stands n .CHASE cursor flags) (chaseMode c) (Lawful exact n) := by
  have hmode : Mode.CHASE ≠ .LIGHT_SELECTION := by decide
  unfold chaseMode
  refine Leads.ite (fun _ => lawful_pure halone hmode) fun _ => ?_
  refine Leads.ite (fun _ =>
    lawful_stay halone hmode working_stands.raiseDelay) fun _ => ?_
  refine Leads.ite (fun _ =>
    lawful_stay halone hmode working_stands.lowerDelay) fun _ => ?_
  refine Leads.ite (fun _ => ?_) fun _ => lawful_pure halone hmode
  refine (leads_setState_stands .IDLE).bind fun _ => ?_
  refine (working_stands.redrum .chase).leads.bind fun _ => ?_
  exact lawful_stay halone (by decide) working_stands.revertScene

theorem lawful_enterChase :
    Leads (Stands n .IDLE cursor flags) enterChase (Lawful exact n) := by
  refine Leads.get_bind fun _ _ => Leads.ite (fun _ => ?_) fun _ =>
    lawful_pure halone (by decide)
  refine (leads_setState_stands .CHASE).bind fun _ => ?_
  exact lawful_stay halone (by decide) working_stands.startChase

theorem lawful_idleMode (c : WirelessCommand) :
    Leads (Stands n .IDLE cursor flags) (idleMode c) (Lawful exact n) := by
  have hmode : Mode.IDLE ≠ .LIGHT_SELECTION := by decide
  unfold idleMode
  refine Leads.ite (fun _ => lawful_pure halone hmode) fun _ => ?_
  refine Leads.ite (fun _ => lawful_stay halone hmode
    (working_stands.recallScene (stands_onScenes _))) fun _ => ?_
  refine Leads.ite (fun _ => lawful_stay halone hmode
    (working_stands.recallScene (stands_onScenes _))) fun _ => ?_
  refine Leads.ite (fun _ => lawful_stay halone hmode
    (working_stands.recallCurrent fun _ => stands_onScenes _)) fun _ => ?_
  refine Leads.ite (fun _ => ?_) fun _ => ?_
  · refine (leads_setState_stands .LIGHT_SELECTION).bind fun _ => ?_
    refine (Shown.saveScene fun _ => stands_onScenes _).leads.bind fun _ => ?_
    exact (lawful_startHighlight halone).returning
  refine Leads.ite (fun _ => lawful_enterChase halone) fun _ => ?_
  refine Leads.ite (fun _ => lawful_stay halone hmode
    (Shown.storeScene stands_onScenes)) fun _ => ?_
  refine Leads.ite (fun _ => lawful_stay halone hmode
    (working_stands.dropScene stands_onScenes)) fun _ => ?_
  refine Leads.ite (fun _ => lawful_enter halone .PARTY (by decide))
    fun _ => ?_
  exact Leads.ite (fun _ => lawful_enter halone .SCARY (by decide))
    fun _ => lawful_pure halone hmode

theorem lawful_gyroMode (hmode : mode ≠ .LIGHT_SELECTION)
    (dimmer : Int32 → Int32) (color : ℕ → Color) (c : WirelessCommand) :
    Leads (Stands n mode cursor flags) (gyroMode dimmer color c)
      (Lawful exact n) := by
  unfold gyroMode
  refine Leads.ite (fun _ => Leads.ite (fun _ => ?_) fun _ => ?_) fun _ => ?_
  · exact lawful_enter halone .IDLE (by decide)
  · exact lawful_pure halone hmode
  exact Leads.ite (fun _ =>
    lawful_stay halone hmode (working_stands.showAll _ color))
    fun _ => lawful_pure halone hmode

end Elsewhere

/-! ## The light selection -/

/-- The lights of the list have been handed over. -/
def Handed (n : ℕ) (mode : Mode) (cursor : ℕ) (flags : List Bool)
    (list : List ℕ) (s : Server) : Prop :=
  Stands n mode cursor flags s ∧ s.selectedLights = some list

theorem workable_handed : Workable (Handed n mode cursor flags list) where
  rig := fun s r hr h => ⟨working_stands.rig s r hr h.1, h.2⟩
  object := fun s k i stage w hw hstage h =>
    ⟨working_stands.object s k i stage w hw hstage h.1, h.2⟩
  slots := fun s slots h => ⟨working_stands.slots s slots h.1, h.2⟩

/-- The control selection is entered with the lights of the list. -/
theorem leads_handOver :
    Leads (fun s =>
        Stands n .LIGHT_SELECTION cursor flags s ∧ Lights False list s)
      (do
        setState .CONTROL_SELECTION
        takeSelection
        clearSelected
        revertScene
        setControlIndex 1
        startPresetVisual
        return true)
      (Handed n .CONTROL_SELECTION cursor (List.replicate flags.length false)
        list) := by
  have hstate : Leads
      (fun s => Stands n .LIGHT_SELECTION cursor flags s ∧ Lights False list s)
      (setState .CONTROL_SELECTION)
      (fun s =>
        Stands n .CONTROL_SELECTION cursor flags s ∧ Lights False list s) :=
    Leads.modify fun _ h =>
      ⟨⟨h.1.size, h.1.lt, rfl, h.1.cursor, h.1.flags⟩, h.2⟩
  have htake : Leads
      (fun s =>
        Stands n .CONTROL_SELECTION cursor flags s ∧ Lights False list s)
      takeSelection (Handed n .CONTROL_SELECTION cursor flags list) := by
    refine Triple.bind ((selecting_stands.triple_redrumHighlight
      False.elim).conseq (fun _ h => h) (fun _ _ h => h) fun _ _ _ => trivial)
      fun lights => ?_
    have hset : Leads (fun s => lights = list ∧
          Stands n .CONTROL_SELECTION cursor flags s)
        (modify fun s => { s with selectedLights := some lights })
        (Handed n .CONTROL_SELECTION cursor flags list) :=
      Leads.modify fun s h =>
        ⟨⟨h.2.size, h.2.lt, h.2.state, h.2.cursor, h.2.flags⟩,
          congrArg some h.1⟩
    refine hset.bind fun _ => workable_handed.firstNumChannels.leads.bind
      fun temp => ?_
    refine (workable_handed.compareChannels (fun s canChangeDMX h => ?_) temp
      lights).leads
    exact ⟨⟨h.1.size, h.1.lt, h.1.state, h.1.cursor, h.1.flags⟩, h.2⟩
  have hclear : Leads (Handed n .CONTROL_SELECTION cursor flags list)
      clearSelected
      (Handed n .CONTROL_SELECTION cursor (List.replicate flags.length false)
        list) :=
    (selecting_stands.triple_clearSelected fun _ _ _ h => h).leads
  refine hstate.bind fun _ => htake.bind fun _ => hclear.bind fun _ => ?_
  refine workable_handed.revertScene.leads.bind fun _ => ?_
  have hindex : Preserves
      (Handed n .CONTROL_SELECTION cursor (List.replicate flags.length false)
        list) (setControlIndex 1) :=
    Preserves.modify fun s h => ⟨working_stands.control s 1 h.1, h.2⟩
  refine hindex.leads.bind fun _ => ?_
  exact workable_handed.startPresetVisual.leads.returning

/-- A method that keeps flags and list in step, and the result of the
handler. -/
theorem lawful_select {next : ℕ} {flags' : List Bool} {list' : List ℕ}
    {x : Run Server Unit} {beat : Bool}
    (hx : Triple (fun s => Stands n .LIGHT_SELECTION cursor flags s ∧
      Lights False list s) x
      (fun _ s => Stands n .LIGHT_SELECTION next flags' s ∧
        Lights False list' s) (fun e _ => False → ¬ e.IsThrown))
    (hchosen : Chosen exact next flags' list') :
    Leads (fun s =>
        Stands n .LIGHT_SELECTION cursor flags s ∧ Lights False list s)
      (do x; return beat) (Lawful exact n) :=
  (hx.leads.mono fun _ h => .selecting h.1 h.2 hchosen).returning

theorem lawful_lightSelectionMode (c : WirelessCommand)
    (hchosen : Chosen exact cursor flags list)
    (hlong : exact → c.userActionData = PS2_LONG → Alone cursor flags) :
    Leads (fun s =>
        Stands n .LIGHT_SELECTION cursor flags s ∧ Lights False list s)
      (lightSelectionMode c) (Lawful exact n) := by
  have hselecting : Selecting False (Stands n .LIGHT_SELECTION) :=
    selecting_stands
  have hnew := alone_replicate flags.length cursor
  have hpure : Leads
      (fun s => Stands n .LIGHT_SELECTION cursor flags s ∧ Lights False list s)
      (pure true) (Lawful exact n) :=
    Leads.pure _ fun _ h => .selecting h.1 h.2 hchosen
  unfold lightSelectionMode
  refine Leads.ite (fun _ => hpure) fun _ => ?_
  refine Leads.ite (fun _ =>
    lawful_select hselecting.triple_stepLight hchosen.stepped) fun _ => ?_
  refine Leads.ite (fun _ =>
    lawful_select hselecting.triple_stepLight hchosen.stepped) fun _ => ?_
  refine Leads.ite (fun _ =>
    lawful_select hselecting.triple_toggleLight (hchosen.toggle _))
    fun _ => ?_
  refine Leads.ite (fun h => ?_) fun _ => ?_
  · have hclear := hchosen.clear (fun hexact => hlong hexact h) flags.length
    refine Leads.bind (hselecting.triple_clearSelected
      fun _ _ hr h => h.setRig hr.sizes).leads fun _ => ?_
    refine Triple.reads_bind
      (fun s hs => hselecting.currentLight_eq hs.1) ?_
    exact lawful_select hselecting.triple_addLight hclear
  refine Leads.ite (fun _ => leads_handOver.mono fun _ h =>
    .elsewhere (by decide) h.1 hnew) fun _ => ?_
  refine Leads.ite (fun _ => ?_) fun _ => ?_
  · have hredrum : Leads
        (fun s =>
          Stands n .LIGHT_SELECTION cursor flags s ∧ Lights False list s)
        redrumHighlight (Stands n .LIGHT_SELECTION cursor flags) :=
      (hselecting.triple_redrumHighlight False.elim).conseq (fun _ h => h)
        (fun _ _ h => h.2) fun _ _ _ => trivial
    refine hredrum.bind fun _ => ?_
    refine hselecting.triple_clearSelected_all.leads.bind fun _ => ?_
    refine working_stands.revertScene.leads.bind fun _ => ?_
    exact lawful_enter hnew .IDLE (by decide)
  · exact Leads.pure _ fun _ h => .selecting h.1 h.2 hchosen

/-! ## The loop -/

/-- The light is selected. -/
def IsSelected (s : Server) (i : ℕ) : Prop :=
  ∃ f, s.rig.profiles[i]? = some f ∧ f.isSelected = true

instance (s : Server) (i : ℕ) : Decidable (IsSelected s i) :=
  inferInstanceAs (Decidable (∃ f ∈ s.rig.profiles[i]?, f.isSelected = true))

theorem IsSelected.lt {i : ℕ} (h : IsSelected s i) :
    i < s.rig.profiles.length := by
  obtain ⟨f, hf, -⟩ := h
  exact (List.getElem?_eq_some_iff.mp hf).1

/-- The command leaves flags and list out of step: the party command or, under
`exact`, the long press, with a light other than the current one selected. -/
def Parts (exact : Prop) (s : Server) (c : WirelessCommand) : Prop :=
  s.currentState = .LIGHT_SELECTION ∧
    (c.userActionData = KONAMI ∨ exact ∧ c.userActionData = PS2_LONG) ∧
    ∃ i : ℕ, (i : ℤ) ≠ s.currentLightIndex ∧ IsSelected s i

instance (exact : Prop) [Decidable exact] (s : Server) (c : WirelessCommand) :
    Decidable (Parts exact s c) :=
  decidable_of_iff (s.currentState = .LIGHT_SELECTION ∧
      (c.userActionData = KONAMI ∨ exact ∧ c.userActionData = PS2_LONG) ∧
      ∃ i ∈ List.range s.rig.profiles.length,
        (i : ℤ) ≠ s.currentLightIndex ∧ IsSelected s i)
    (and_congr_right fun _ => and_congr_right fun _ =>
      ⟨fun ⟨i, _, h⟩ => ⟨i, h⟩,
        fun ⟨i, h⟩ => ⟨i, List.mem_range.mpr h.2.lt, h⟩⟩)

theorem isSelected_iff (i : ℕ) :
    IsSelected s i ↔ s.rig.flags.getD i false = true := by
  unfold IsSelected Rig.flags
  rw [List.getD_eq_getElem?_getD, List.getElem?_map]
  cases s.rig.profiles[i]? with
  | none => simp
  | some f => simp

theorem Stands.alone (h : Stands n mode cursor flags s)
    (hnone : ¬ ∃ i : ℕ, (i : ℤ) ≠ s.currentLightIndex ∧ IsSelected s i) :
    Alone cursor flags := by
  intro i hi
  by_contra hne
  refine hnone ⟨i, ?_, (isSelected_iff i).mpr (h.flags ▸ hi)⟩
  rw [h.cursor]
  exact fun heq => hne (Int.ofNat_inj.mp heq)

variable {c : WirelessCommand}

theorem lawful_debugSwitch :
    Leads (fun s => Lawful exact n s ∧ ¬ Parts exact s c) (debugSwitch c)
      (fun s => Lawful exact n s ∧ ¬ Parts exact s c) := by
  refine Leads.ite (fun hkonami => ?_) fun _ => Leads.pure _ fun _ h => h
  refine Leads.returning (Leads.modify fun s h => ⟨?_, nofun⟩)
  obtain ⟨hlawful, hparts⟩ := h
  have hparty : Mode.PARTY ≠ .LIGHT_SELECTION := by decide
  cases hlawful with
  | selecting stands lights chosen =>
      have halone := stands.alone fun hother =>
        hparts ⟨stands.state, .inl hkonami, hother⟩
      exact .elsewhere hparty
        ⟨stands.size, stands.lt, rfl, stands.cursor, stands.flags⟩ halone
  | elsewhere hmode stands alone =>
      exact .elsewhere hparty
        ⟨stands.size, stands.lt, rfl, stands.cursor, stands.flags⟩ alone

theorem lawful_mainSwitch (colorConverter : XYConverter)
    (random : ℕ → Color) :
    Leads (fun s => Lawful exact n s ∧ ¬ Parts exact s c)
      (mainSwitch colorConverter random c) (Lawful exact n) := by
  refine Leads.get_bind_eq fun s h => ?_
  obtain ⟨hlawful, hparts⟩ := h
  cases hlawful with
  | selecting stands lights chosen =>
      rw [stands.state]
      refine (lawful_lightSelectionMode c chosen fun hexact hlong => ?_).of_eq
        ⟨stands, lights⟩
      exact stands.alone fun hother =>
        hparts ⟨stands.state, .inr ⟨hexact, hlong⟩, hother⟩
  | @elsewhere mode cursor flags hmode stands alone =>
      have hconfirm : ∀ mode, c.userActionData = B1 →
          Leads (Stands n mode cursor flags) confirm (Lawful exact n) :=
        fun _ _ => lawful_confirm alone
      have hpassage : Passage (fun mode => Stands n mode cursor flags)
          (Lawful exact n) := passage_stands alone
      rw [stands.state]
      cases mode with
      | CHASE => exact (lawful_chaseMode alone c).of_eq stands
      | IDLE => exact (lawful_idleMode alone c).of_eq stands
      | LIGHT_SELECTION => exact absurd rfl hmode
      | CONTROL_SELECTION =>
          exact (hpassage.controlSelectionMode c).of_eq stands
      | COLOR_WHEEL =>
          exact (hpassage.colorWheelMode colorConverter
            (hconfirm .COLOR_WHEEL)).of_eq stands
      | DMX => exact (hpassage.dmxMode (hconfirm .DMX)).of_eq stands
      | PRESET => exact (hpassage.presetMode (hconfirm .PRESET)).of_eq stands
      | PARTY =>
          exact (lawful_gyroMode alone hmode _ random c).of_eq stands
      | SCARY => exact (lawful_gyroMode alone hmode _ _ c).of_eq stands

theorem lawful_sendHeartbeat : Preserves (Lawful exact n) sendHeartbeat := by
  refine Preserves.modify fun s h => ?_
  cases h with
  | selecting stands lights chosen =>
      exact .selecting ⟨stands.size, stands.lt, stands.state, stands.cursor,
        stands.flags⟩ lights chosen
  | elsewhere hmode stands alone =>
      exact .elsewhere hmode ⟨stands.size, stands.lt, stands.state,
        stands.cursor, stands.flags⟩ alone

/-- A command that keeps flags and list in step. -/
theorem lawful_processCommand (colorConverter : XYConverter)
    (random : ℕ → Color) (command : WirelessCommand) :
    Leads (fun s => Lawful exact n s ∧
        (Interprets command → ¬ Parts exact s command.parse.2))
      (processCommand colorConverter random command) (Lawful exact n) := by
  by_cases hinterprets : Interprets command
  · have hdebug : Leads (fun s => Lawful exact n s ∧
          (Interprets command → ¬ Parts exact s command.parse.2))
        (debugSwitch command.parse.2)
        (fun s => Lawful exact n s ∧ ¬ Parts exact s command.parse.2) :=
      lawful_debugSwitch.conseq (fun _ h => ⟨h.1, h.2 hinterprets⟩)
        (fun _ _ h => h) fun _ _ h => h
    rw [processCommand_of_interprets hinterprets]
    refine hdebug.bind fun konami => ?_
    refine (lawful_mainSwitch colorConverter random).bind fun beat => ?_
    exact Leads.ite (fun _ => lawful_sendHeartbeat.leads) fun _ =>
      Leads.pure _ fun _ h => h
  · rw [processCommand_of_not_interprets hinterprets]
    exact Leads.pure _ fun _ h => h.1

/-- The law does not depend on what is shown nor on which workers run. -/
theorem ticks_lawful : Ticks (Lawful exact n) where
  rig := fun s r hr h => by
    cases h with
    | selecting stands lights chosen =>
        exact .selecting (working_stands.rig s r hr stands)
          (ticks_lights.rig s r hr lights) chosen
    | elsewhere hmode stands alone =>
        exact .elsewhere hmode (working_stands.rig s r hr stands) alone
  object := fun s k i stage w hw hstage h => by
    cases h with
    | selecting stands lights chosen =>
        exact .selecting (working_stands.object s k i stage w hw hstage stands)
          (ticks_lights.object s k i stage w hw hstage lights) chosen
    | elsewhere hmode stands alone =>
        exact .elsewhere hmode
          (working_stands.object s k i stage w hw hstage stands) alone
  workers := fun s k slot hslot h => by
    cases h with
    | selecting stands lights chosen =>
        exact .selecting (working_stands.ticks.workers s k slot hslot stands)
          (ticks_lights.workers s k slot hslot lights) chosen
    | elsewhere hmode stands alone =>
        exact .elsewhere hmode
          (working_stands.ticks.workers s k slot hslot stands) alone

/-- The list holds the current light and the selected lights, each once. -/
structure ListsSelection (s : Server) (list : List ℕ) : Prop where
  nodup : list.Nodup
  mem_iff : ∀ i : ℕ,
    i ∈ list ↔ (i : ℤ) = s.currentLightIndex ∨ IsSelected s i

theorem Stands.listsSelection (h : Stands n mode cursor flags s)
    (hchosen : Chosen True cursor flags list) : ListsSelection s list := by
  refine ⟨hchosen.nodup, fun i => ?_⟩
  rw [Listing.mem_iff hchosen, h.cursor, isSelected_iff, h.flags]
  exact or_congr_left Int.ofNat_inj.symm

/-- In the light selection, the confirming button hands the list over. -/
theorem leads_processCommand_B1 (colorConverter : XYConverter)
    (random : ℕ → Color) {command : WirelessCommand}
    (hinterprets : Interprets command)
    (hdata : command.parse.2.dataType = USER_ACTION_DATA)
    (hB1 : command.parse.2.userActionData = B1) :
    Leads (fun s =>
        Stands n .LIGHT_SELECTION cursor flags s ∧ Lights False list s)
      (processCommand colorConverter random command)
      (fun s => s.currentState = .CONTROL_SELECTION ∧
        s.selectedLights = some list) := by
  have hdebug : debugSwitch command.parse.2 = pure false := by
    unfold debugSwitch
    rw [hB1]
    rfl
  have hmode : lightSelectionMode command.parse.2 = (do
      setState .CONTROL_SELECTION
      takeSelection
      clearSelected
      revertScene
      setControlIndex 1
      startPresetVisual
      return true) := by
    unfold lightSelectionMode
    rw [if_neg (not_not.mpr hdata), hB1]
    rfl
  have hmain : Leads
      (fun s => Stands n .LIGHT_SELECTION cursor flags s ∧ Lights False list s)
      (mainSwitch colorConverter random command.parse.2)
      (fun s => s.currentState = .CONTROL_SELECTION ∧
        s.selectedLights = some list) := by
    refine Leads.get_bind_eq fun s h => ?_
    rw [h.1.state]
    show Leads _ (lightSelectionMode _) _
    rw [hmode]
    exact (leads_handOver.mono fun _ h => ⟨h.1.state, h.2⟩).of_eq h
  rw [processCommand_of_interprets hinterprets, hdebug]
  refine hmain.bind fun beat => Leads.ite (fun _ => ?_) fun _ =>
    Leads.pure _ fun _ h => h
  exact Leads.modify fun _ h => h

end Server

namespace Process

open Server

/-- The event keeps flags and list in step. -/
def Heeds (exact : Prop) (p : Process) : Event → Prop
  | .packet _ receiveData =>
      Interprets (.new receiveData) →
        ¬ Parts exact p.server (WirelessCommand.new receiveData).parse.2
  | .tick _ _ => True

instance (exact : Prop) [Decidable exact] (p : Process) (e : Event) :
    Decidable (Heeds exact p e) :=
  match e with
  | .packet _ receiveData =>
      inferInstanceAs (Decidable (Interprets (.new receiveData) →
        ¬ Parts exact p.server (WirelessCommand.new receiveData).parse.2))
  | .tick _ _ => inferInstanceAs (Decidable True)

variable {colorConverter : XYConverter} {p : Process} {exact : Prop} {n : ℕ}

theorem while_lawful_step {e : Event} (h : While (Lawful exact n) p)
    (hheeds : Heeds exact p e) :
    While (Lawful exact n) (step colorConverter p e) := by
  have hpre :
      While (fun s => Lawful exact n s ∧ Heeds exact ⟨s, p.ended⟩ e) p :=
    fun hended => ⟨h hended, hheeds⟩
  refine while_step hpre ?_ fun _ => h
  cases e with
  | packet random receiveData =>
      exact lawful_processCommand colorConverter random (.new receiveData)
  | tick k i =>
      exact fun s h => (ticks_lawful.tick k i).leads s h.1

variable {dmx : DefaultDMX} {profiles : List FixtureProfile}
  {file : Option (List Char)}

theorem lawful_of_starts (hstart : Starts dmx profiles file p)
    (hlights : profiles ≠ [])
    (hnone : ∀ f ∈ profiles, f.isSelected = false) :
    Lawful exact profiles.length p.server := by
  have halone : Alone 0 (init dmx profiles file).rig.flags := by
    intro i hi
    obtain ⟨f, hf, hselected⟩ := (isSelected_iff i).mpr hi
    rw [hnone f (List.mem_of_getElem? hf)] at hselected
    cases hselected
  have hinit : Stands profiles.length .IDLE 0
      (init dmx profiles file).rig.flags (init dmx profiles file) := by
    refine ⟨Rig.length_flags _, ?_, rfl, rfl, rfl⟩
    rw [Rig.length_flags]
    exact List.length_pos_of_ne_nil hlights
  have hscenes : Preserves (Stands profiles.length .IDLE 0
      (init dmx profiles file).rig.flags) startScenes :=
    preserves_getDmx.bind fun _ => (stands_onScenes _).bind fun _ =>
      stands_onScenes _
  exact .elsewhere (by decide) (hscenes.of_ok hinit hstart.1) halone

theorem lawful_of_heeds {events : List Event}
    (hstart : Starts dmx profiles file p) (hlights : profiles ≠ [])
    (hnone : ∀ f ∈ profiles, f.isSelected = false)
    (hheeds : Runs.AllSteps (step colorConverter) (Heeds exact) p events) :
    ∀ t ∈ Runs.states (step colorConverter) p events,
      While (Lawful exact profiles.length) t :=
  Runs.invariant (fun _ _ h hok => while_lawful_step h hok)
    (fun _ => lawful_of_starts hstart hlights hnone) hheeds

/-- In every run in which no command leaves flags and list out of step, the
list of the highlight thread holds the current light and the selected lights,
each once, whenever the server is in the light selection; and these lights are
handed over by the confirming button. -/
theorem listsSelection_of_heeds {events : List Event}
    (hstart : Starts dmx profiles file p) (hlights : profiles ≠ [])
    (hnone : ∀ f ∈ profiles, f.isSelected = false)
    (hheeds : Runs.AllSteps (step colorConverter) (Heeds True) p events) :
    ∀ t ∈ Runs.states (step colorConverter) p events, t.ended = none →
      t.server.currentState = .LIGHT_SELECTION →
        (∃ thread, (t.server.slots .highlight).object? = some thread ∧
          ListsSelection t.server thread.lights) ∧
        ∀ random receiveData, Interprets (.new receiveData) →
          (WirelessCommand.new receiveData).parse.2.dataType =
            USER_ACTION_DATA →
          (WirelessCommand.new receiveData).parse.2.userActionData = B1 →
          (step colorConverter t (.packet random receiveData)).ended = none →
            ∃ lights,
              (step colorConverter t
                (.packet random receiveData)).server.selectedLights =
                  some lights ∧ ListsSelection t.server lights := by
  intro t ht hended hmode
  have hlawful := lawful_of_heeds hstart hlights hnone hheeds t ht hended
  cases hlawful with
  | elsewhere hother stands alone => exact absurd (stands.state ▸ hmode) hother
  | @selecting cursor flags list stands lights chosen =>
      have hlists := stands.listsSelection chosen
      refine ⟨?_, fun random receiveData hinterprets hdata hB1 hended' => ?_⟩
      · obtain ⟨thread, hthread, rfl, -⟩ := lights
        exact ⟨thread, hthread, hlists⟩
      · have hstands : While (fun s =>
            Stands profiles.length .LIGHT_SELECTION cursor flags s ∧
              Lights False list s) t :=
          fun _ => ⟨stands, lights⟩
        have hhanded := while_step (e := .packet random receiveData) hstands
          (leads_processCommand_B1 colorConverter random hinterprets hdata hB1)
          (fun hignores => ?_) hended'
        · exact ⟨list, hhanded.2, hlists⟩
        · have hsome : t.ended.isSome = true := hignores
          rw [hended] at hsome
          cases hsome

/-- The server in its loop, with two lights. -/
def twoLights : Process where
  server := stateAfter startScenes
    (init blackout [parLight, { parLight with address := 5 }] none)
  ended := none

theorem starts_twoLights :
    Starts blackout [parLight, { parLight with address := 5 }] none
      twoLights := ⟨rfl, rfl⟩

/-- Light 0 is selected, a long press deselects it, and then both lights are
selected. -/
def selectInTurn : List Event :=
  [button B1, button PS2, .tick .highlight 0, button PS2_LONG,
    .tick .highlight 0, button PS2, button RIGHT, button PS2,
    .tick .highlight 0]

/-- The server with both lights selected, on a device that is lost when they
have been handed over. -/
def selectedBoth : Process :=
  selectInTurn.foldl (step fun _ _ => Color.WHITE)
    (losingDevice 52 [parLight, { parLight with address := 5 }])

theorem listsSelection_of_heeds_selectInTurn :
    (∃ thread, (selectedBoth.server.slots .highlight).object? = some thread ∧
      ListsSelection selectedBoth.server thread.lights) ∧
    ∃ lights,
      (step (fun _ _ => Color.WHITE) selectedBoth
        (button B1)).server.selectedLights = some lights ∧
          ListsSelection selectedBoth.server lights := by
  have hstart : Starts (lostAfter 52)
      [parLight, { parLight with address := 5 }] none
      (losingDevice 52 [parLight, { parLight with address := 5 }]) :=
    ⟨rfl, rfl⟩
  have hheeds : Runs.AllSteps (step fun _ _ => Color.WHITE) (Heeds True)
      (losingDevice 52 [parLight, { parLight with address := 5 }])
      selectInTurn := by decide +kernel
  have hrun : selectedBoth.ended = none ∧
      selectedBoth.server.currentState = .LIGHT_SELECTION ∧
      (step (fun _ _ => Color.WHITE) selectedBoth (button B1)).ended =
        none := by decide +kernel
  obtain ⟨hthread, hhanded⟩ := listsSelection_of_heeds hstart
    (List.cons_ne_nil _ _) (by decide) hheeds selectedBoth
    Runs.foldl_mem_states hrun.1 hrun.2.1
  have hpress : button B1 = .packet (fun _ => Color.WHITE)
      (dataBuffer [USER_ACTION_DATA, B1]) := rfl
  rw [hpress] at hrun ⊢
  exact ⟨hthread, hhanded _ _ (by decide) (by decide) (by decide) hrun.2.2⟩

/-- Light 0 is selected, the cursor moves on to light 1, and a long press
deselects light 0 but leaves it in the list. -/
theorem not_listsSelection_long :
    ¬ ∀ t ∈ Runs.states (step fun _ _ => Color.WHITE) twoLights
        [button B1, button PS2, button RIGHT, button PS2_LONG],
      t.ended = none → t.server.currentState = .LIGHT_SELECTION →
        ∃ thread, (t.server.slots .highlight).object? = some thread ∧
          ListsSelection t.server thread.lights := by
  intro h
  have hlaw := h _ (List.mem_of_getElem? (i := 4) rfl) rfl rfl
  obtain ⟨thread, hthread, -, hmem⟩ := hlaw
  obtain rfl := Option.some.inj hthread
  rcases (hmem 0).mp (by decide) with hcursor | ⟨f, hf, hselected⟩
  · exact absurd hcursor (by decide)
  · obtain rfl := Option.some.inj hf
    exact absurd hselected (by decide)

end Process

end ChuckLight
