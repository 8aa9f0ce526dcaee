import ChuckLight.Support.Runs
import ChuckLight.Threads.HighlightCalls

/-!
# What the highlight thread gives back

A light shows the values again that it showed when it was added to the
highlighted lights, whatever the animation has made of them in the meantime, and
the values of the other lights stay with their lights.
-/

namespace ChuckLight.HighlightThread

open Java Stage

/-- The loop of `redrum` with passes of the animation before each round. -/
def removeAllAmid (passes : ℕ → List ℕ) : ℕ → Run (Stage HighlightThread) Unit
  | 0 => (passes 0).forM passUpTo
  | n + 1 => do
      (passes (n + 1)).forM passUpTo
      match (← get).2.lights with
      | [] => pure ()
      | light :: _ =>
          HighlightThread.removeLight light
          removeAllAmid passes n

def redrumAmid (passes : ℕ → List ℕ) :
    Run (Stage HighlightThread) (List ℕ) := do
  let temp := (← get).2.lights
  removeAllAmid passes temp.length
  return temp

/-- A critical section, or all those of `redrum`. -/
inductive Act where
  | call (c : Call)
  | redrum (passes : ℕ → List ℕ)

namespace Act

def run : Act → Run (Stage HighlightThread) Unit
  | call c => c.run
  | redrum passes => do
      let _ ← redrumAmid passes

/-- The ledger after the act on a rig. -/
def record (r : Rig) (ledger : List (ℕ × List Int32)) :
    Act → List (ℕ × List Int32)
  | call (.addLight light) => enter r light ledger
  | call (.removeLight light) => Ledger.without light ledger
  | call .updateDefaultColor => ledger
  | call .clearHighlighted => []
  | call (.pass _) => ledger
  | redrum _ => []

/-- The act refers to one of the fixtures. -/
def Within (count : ℕ) : Act → Prop
  | call c => c.Within count
  | redrum _ => True

end Act

/-- The thread and the ledger of what its lights showed when they were added. -/
def step (s : Stage HighlightThread × List (ℕ × List Int32)) (a : Act) :
    Stage HighlightThread × List (ℕ × List Int32) :=
  (stateAfter a.run s.1, a.record s.1.1 s.2)

/-- Without passes in between, this is `redrum`. -/
theorem redrumAmid_nil : redrumAmid (fun _ => []) = redrum := by
  have hloop : ∀ n, removeAllAmid (fun _ => []) n = removeAll n := by
    intro n
    induction n with
    | zero => rfl
    | succ n ih =>
        unfold removeAllAmid removeAll
        rw [ih]
        rfl
  unfold redrumAmid redrum
  simp only [hloop]

/-! ## Redrum -/

/-- All fixtures have the channels that a pass needs. -/
def Channelled (r : Rig) : Prop :=
  ∀ f ∈ r.profiles,
    (f.channelMap.lookup "dimmer").isSome ∧ Light.DefaultColored f

variable {r : Rig} {ledger : List (ℕ × List Int32)}
  {st : Stage HighlightThread}

theorem bears_of_lt (hr : r.Stocked) (hchannels : Channelled r) {light : ℕ}
    (hlt : light < r.profiles.length) (updating : Bool) :
    Bears r updating light := by
  have hmem := List.getElem_mem hlt
  obtain ⟨hdimmer, hdefault⟩ := hchannels _ hmem
  exact ⟨_, List.getElem?_eq_getElem hlt, hr.mounted _ hmem, hdimmer,
    fun _ => hdefault⟩

theorem settles_pass (hr : r.Stocked) (hchannels : Channelled r) (n : ℕ) :
    Settles r (fun st => Tended r ledger st ∧ Free st) (passUpTo n)
      (fun st => Tended r ledger st ∧ Free st) := by
  rintro st ⟨h, hfree⟩
  have hpassing : Passing r ledger st.2.updateDefaultColor st := ⟨h, rfl⟩
  refine settles_passUpTo (fun light hlight => ?_) st ⟨hpassing, hfree⟩
  obtain ⟨e, he, rfl⟩ := List.mem_map.mp (List.mem_of_mem_take hlight)
  exact bears_of_lt hr hchannels (h.fits e he).lt _

theorem settles_removeAllAmid (hr : r.Stocked) {passes : ℕ → List ℕ}
    (hpasses : ∀ k ledger, Settles r (fun st => Tended r ledger st ∧ Free st)
      ((passes k).forM passUpTo) (fun st => Tended r ledger st ∧ Free st))
    (n : ℕ) :
    Settles r (fun st => Tended r ledger st ∧ Free st)
      (removeAllAmid passes n)
      (fun st => Tended r (ledger.drop n) st ∧ Free st) := by
  induction n generalizing ledger with
  | zero => exact hpasses 0 ledger
  | succ n ih =>
      refine (hpasses (n + 1) ledger).bind fun _ =>
        Triple.get_bind fun st h => ?_
      rw [h.1.lights]
      cases ledger with
      | nil => exact Triple.pure fun _ h => h
      | cons e rest =>
          have hnot := (List.nodup_cons.mp h.1.nodup).1
          have hremove : Settles r
              (fun st => Tended r (e :: rest) st ∧ Free st) (removeLight e.1)
              (fun st => Tended r (Ledger.without e.1 (e :: rest)) st ∧
                Free st) := settles_removeLight hr e.1
          rw [Ledger.without_cons_self e.2 hnot] at hremove
          exact hremove.bind fun _ => ih

/-- `redrum` returns its list and empties both lists. -/
theorem redrumAmid_cases (hr : r.Stocked) {passes : ℕ → List ℕ}
    (hpasses : ∀ k ledger, Settles r (fun st => Tended r ledger st ∧ Free st)
      ((passes k).forM passUpTo) (fun st => Tended r ledger st ∧ Free st))
    (h : Tended r ledger st) (hfree : Free st) :
    (∃ st', redrumAmid passes st = .ok st.2.lights st' ∧ Tended r [] st' ∧
        Free st') ∨
      ∃ st', redrumAmid passes st = .error .exited st' ∧ ¬ r.dmx.NoFault := by
  have hloop : Settles r (fun st => Tended r ledger st ∧ Free st)
      (removeAllAmid passes st.2.lights.length)
      (fun st' => Tended r (ledger.drop st.2.lights.length) st' ∧ Free st') :=
    settles_removeAllAmid hr hpasses st.2.lights.length
  have hlength : st.2.lights.length = ledger.length := by
    rw [h.lights, List.length_map]
  unfold redrumAmid
  rw [bind_of_ok (x := get) rfl]
  cases hrun : removeAllAmid passes st.2.lights.length st with
  | ok _ st' =>
      have hst' := hloop.of_ok ⟨h, hfree⟩ hrun
      rw [hlength, List.drop_length] at hst'
      rw [bind_of_ok hrun]
      exact .inl ⟨st', rfl, hst'⟩
  | error e st' =>
      obtain ⟨rfl, hfault⟩ := hloop.of_error ⟨h, hfree⟩ hrun
      rw [bind_of_error hrun]
      exact .inr ⟨st', rfl, hfault⟩

theorem tended_redrumAmid (hr : r.Stocked) (hchannels : Channelled r)
    (hfault : r.dmx.NoFault) (h : Tended r ledger st) (hfree : Free st)
    (passes : ℕ → List ℕ) :
    ∃ st', redrumAmid passes st = .ok st.2.lights st' ∧ Tended r [] st' ∧
      Free st' := by
  refine (redrumAmid_cases hr (fun k ledger => ?_) h hfree).resolve_right ?_
  · exact Triple.forM fun n _ => settles_pass hr hchannels n
  · rintro ⟨_, -, hnot⟩
    exact hnot hfault

/-! ## The ledger in a run -/

/-- What `removeLight` does to the rig and to the lists. -/
structure Restored (ledger : List (ℕ × List Int32)) (light : ℕ)
    (f : FixtureProfile) (saved : List Int32)
    (st st' : Stage HighlightThread) : Prop where
  mirror : st'.1.profiles =
    st.1.profiles.set light { f with dmxVals := saved }
  channels : Window.view (Light.base f) f.channelMap.size
    st'.1.dmx.dmxShadow = saved
  outside : ∀ a : Fin 513,
    (a : ℕ) < Light.base f ∨ Light.base f + f.channelMap.size ≤ a →
      st'.1.dmx.dmxShadow a = st.1.dmx.dmxShadow a
  lights : st'.2.lights = (Ledger.without light ledger).map Prod.fst
  savedValues :
    st'.2.savedValues = (Ledger.without light ledger).map Prod.snd

/-- The lists of the thread are the ledger, without duplicates; removing a light
gives it the values of its entry back, and `redrum` ends with empty lists. -/
structure Restores (st : Stage HighlightThread)
    (ledger : List (ℕ × List Int32)) : Prop where
  nodup : st.2.lights.Nodup
  lights : st.2.lights = ledger.map Prod.fst
  savedValues : st.2.savedValues = ledger.map Prod.snd
  removeLight : ∀ light saved, (light, saved) ∈ ledger →
    ∃ f st', st.1.profiles[light]? = some f ∧
      HighlightThread.removeLight light st = .ok ⟨⟩ st' ∧
      Restored ledger light f saved st st'
  redrum : ∀ passes, ∃ st', redrumAmid passes st = .ok st.2.lights st' ∧
    st'.2.lights = [] ∧ st'.2.savedValues = []

variable {light : ℕ} {saved : List Int32}

theorem Tended.exists_restored (hr : r.Stocked) (hfault : r.dmx.NoFault)
    (h : Tended r ledger st) (hfree : Free st)
    (hmem : (light, saved) ∈ ledger) :
    ∃ f st', st.1.profiles[light]? = some f ∧
      HighlightThread.removeLight light st = .ok ⟨⟩ st' ∧
      Restored ledger light f saved st st' := by
  have hfits : st.1.Fits light saved :=
    (h.fits _ hmem).of_sizes h.rig.sizes
  obtain ⟨f, hf⟩ := (h.mounted hr (h.fits _ hmem).lt).exists_ready
    (h.rig.noFault hfault)
  obtain ⟨r', hrun, hwritten⟩ := hf.setDMXVals_eq hfits
  have hlength : saved.length = f.dmxVals.length :=
    hfits.length_eq hf.profile hf.mounted
  have hsize : saved.length = f.channelMap.size :=
    hlength.trans hf.mounted.length_dmxVals
  have hremoved := h.remove light
    ((Rig.shows_callLight (Light.calm_setDMXVals saved) light st.1).of_ok rfl
      hrun)
  refine ⟨f, _, hf.profile, removeLight_of_ok hfree (h.mem hmem)
    (h.getElem?_idxOf hmem) hrun, ?_, ?_, fun a ha => ?_, hremoved.lights,
    hremoved.savedValues⟩
  · rw [hwritten.profiles, Window.mirror_writesFrom_zero hlength]
  · have hfit := hf.mounted.base_add_le
    rw [hwritten.shadow, ← hsize]
    exact Window.view_memory_writesFrom (by rw [hsize]; exact hfit)
  · rw [hwritten.shadow]
    refine Window.memory_of_outside (fun w hw => ?_) ha
    have hlt := (Window.mem_writesFrom hw).2.1
    omega

theorem restores_of_tended (hr : r.Stocked) (hchannels : Channelled r)
    (hfault : r.dmx.NoFault) (h : Tended r ledger st) (hfree : Free st) :
    Restores st ledger := by
  refine ⟨h.lights ▸ h.nodup, h.lights, h.savedValues,
    fun light saved hmem => h.exists_restored hr hfault hfree hmem,
    fun passes => ?_⟩
  obtain ⟨st', hrun, hst', -⟩ :=
    tended_redrumAmid hr hchannels hfault h hfree passes
  exact ⟨st', hrun, hst'.lights, hst'.savedValues⟩

theorem tended_new (r : Rig) : Tended r [] (r, new) :=
  ⟨.refl r, rfl, rfl, .nil, fun _ he => absurd he List.not_mem_nil,
    swings_new⟩

/-- Every act leads from one state with its ledger to another one. -/
theorem tended_run (hr : r.Stocked) (hchannels : Channelled r)
    (hfault : r.dmx.NoFault) (h : Tended r ledger st) (hfree : Free st)
    {a : Act} (ha : a.Within r.profiles.length) :
    ∃ st', a.run st = .ok ⟨⟩ st' ∧ Tended r (a.record st.1 ledger) st' ∧
      Free st' := by
  cases a with
  | call c =>
      cases c with
      | addLight light => exact tended_addLight hr h hfree ha
      | removeLight light =>
          exact (settles_removeLight hr light).exists_ok ⟨h, hfree⟩ hfault
      | updateDefaultColor => exact tended_setUpdateDefaultColor h hfree
      | clearHighlighted => exact tended_clearHighlighted h hfree
      | pass n =>
          exact (settles_pass hr hchannels n).exists_ok ⟨h, hfree⟩ hfault
  | redrum passes =>
      obtain ⟨st', hrun, hst', hfree'⟩ :=
        tended_redrumAmid hr hchannels hfault h hfree passes
      exact ⟨st', bind_of_ok hrun, hst', hfree'⟩

theorem tended_step (hr : r.Stocked) (hchannels : Channelled r)
    (hfault : r.dmx.NoFault)
    {s : Stage HighlightThread × List (ℕ × List Int32)}
    (hs : Tended r s.2 s.1 ∧ Free s.1) {a : Act}
    (ha : a.Within r.profiles.length) :
    Tended r (step s a).2 (step s a).1 ∧ Free (step s a).1 := by
  obtain ⟨st', hrun, hst'⟩ := tended_run hr hchannels hfault hs.1 hs.2 ha
  unfold step stateAfter
  rw [hrun]
  exact hst'

/-- In every state of every run the highlight thread restores what it has
saved. -/
theorem restores_of_run (hr : r.Stocked) (hchannels : Channelled r)
    (hfault : r.dmx.NoFault) {acts : List Act}
    (hacts : ∀ a ∈ acts, a.Within r.profiles.length) :
    ∀ s ∈ Runs.states step ((r, new), []) acts, Restores s.1 s.2 := by
  intro s hs
  have hsteps : Runs.AllSteps step (fun _ a => a.Within r.profiles.length)
      ((r, new), []) acts :=
    Runs.allSteps_of_forall (fun a ha _ => hacts a ha) ((r, new), [])
  have hstart : Tended r [] (r, new) ∧ Free (r, new) := ⟨tended_new r, rfl⟩
  have hkept : ∀ (s : Stage HighlightThread × List (ℕ × List Int32)) (a : Act),
      Tended r s.2 s.1 ∧ Free s.1 → a.Within r.profiles.length →
        Tended r (step s a).2 (step s a).1 ∧ Free (step s a).1 :=
    fun s a h ha => tended_step hr hchannels hfault h ha
  have hinv := Runs.invariant hkept hstart hsteps s hs
  exact restores_of_tended hr hchannels hfault hinv.1 hinv.2

/-- A show with two lights, the first of which is red. -/
def twoLightRig : Rig where
  dmx := { Process.blackout with
    dmxShadow := fun a => if a = 1 ∨ a = 4 then 255 else 0 }
  profiles := [{ Process.parLight with dmxVals := [255, 0, 0, 255] },
    { Process.parLight with address := 5 }]

theorem stocked_twoLightRig : twoLightRig.Stocked := by
  refine ⟨fun f hf => ?_, by decide, fun a => ?_⟩
  · rcases List.mem_pair.mp hf with rfl | rfl
    · exact ⟨nofun, by decide, by decide, Process.usable_parLight.offset, rfl⟩
    · exact Process.mounted_parLight (by decide) (by decide)
  · show IsByte (if a = 1 ∨ a = 4 then 255 else 0)
    split_ifs <;> decide

theorem channelled_twoLightRig : Channelled twoLightRig := by
  intro f hf
  rcases List.mem_pair.mp hf with rfl | rfl
  · exact ⟨rfl, by decide, by decide⟩
  · exact ⟨rfl, by decide, by decide⟩

/-- The first light is highlighted and given back, while the second one stays
highlighted. -/
def inTurn : List Act :=
  [.call (.addLight 0), .call (.pass 1), .call (.addLight 1),
    .call .updateDefaultColor, .call (.pass 2), .call (.removeLight 0),
    .call (.pass 1)]

theorem restores_of_run_inTurn :
    Restores (inTurn.foldl step ((twoLightRig, new), [])).1
      (inTurn.foldl step ((twoLightRig, new), [])).2 := by
  have hwithin : ∀ a ∈ inTurn, a.Within 2 := by
    simp [inTurn, Act.Within, Call.Within]
  exact restores_of_run stocked_twoLightRig channelled_twoLightRig rfl hwithin
    _ Runs.foldl_mem_states

end ChuckLight.HighlightThread
