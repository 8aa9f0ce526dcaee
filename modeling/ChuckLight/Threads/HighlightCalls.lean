import ChuckLight.Lighting.RigEffects
import ChuckLight.Support.Ledger
import ChuckLight.Threads.Dimming
import ChuckLight.Threads.HighlightList

/-!
# The critical sections of the highlight thread

The server calls methods of the highlight thread between its passes.  Each call
and each pass is one critical section.  The two lists of the thread are a ledger
of the lights and the values they had when they were added.
-/

namespace ChuckLight

open Java

namespace Light

/-- The default color of the fixture is one of its channels. -/
def DefaultColored (f : FixtureProfile) : Prop :=
  0 ≤ f.defaultColorOffs.toInt ∧
    f.defaultColorOffs.toInt < f.channelMap.size

variable {l : Light}

/-- A search among the channels of a mounted fixture. -/
theorem Mounted.hasColor_eq (h : Mounted l.fixture) :
    ∃ found, hasColor l = .ok found l := by
  let lit : Int32 → Bool := fun offset =>
    l.fixture.dmxVals.getD offset.toInt.toNat 0 ≠ 0
  refine ⟨_, (bind_of_ok (x := get) rfl).trans (anyM_eq_ok
    (p := fun color => (l.fixture.channelMap.lookup color).any lit)
    fun color _ => ?_)⟩
  cases hlookup : l.fixture.channelMap.lookup color with
  | none => rfl
  | some offset =>
      obtain ⟨hlo, hhi⟩ := h.offset color offset hlookup
      have hlt : offset.toInt.toNat < l.fixture.dmxVals.length := by
        rw [h.length_dmxVals]
        omega
      dsimp only
      rw [if_pos hlo, arrayGet_bind_of_lt hlt]
      have hget : l.fixture.dmxVals.getD offset.toInt.toNat 0 =
          l.fixture.dmxVals[offset.toInt.toNat] :=
        List.getD_eq_getElem _ _ hlt
      rw [← hget]
      rfl

end Light

namespace Rig

/-- The fixtures of a show. -/
structure Stocked (r : Rig) : Prop where
  mounted : ∀ f ∈ r.profiles, Light.Mounted f
  bytes : r.Bytes

variable {r r' : Rig} {i : ℕ} {f : FixtureProfile} {values : List Int32}

theorem Stocked.mounted_of_lt (h : Stocked r) (hi : i < r.profiles.length) :
    r.Mounted i :=
  ⟨r.profiles[i], List.getElem?_eq_getElem hi,
    h.mounted _ (List.getElem_mem hi)⟩

theorem Fits.lt (h : r.Fits i values) : i < r.profiles.length := by
  have hlt := (List.getElem?_eq_some_iff.mp h.size).1
  rwa [length_sizes] at hlt

theorem Mounted.syncLight_eq (h : r.Mounted i) :
    ∃ r', callLight i Light.syncLight r = .ok ⟨⟩ r' ∧ r.Follows r' := by
  obtain ⟨f, hf, hmounted⟩ := h
  have hrun : ∃ r', callLight i Light.syncLight r = .ok ⟨⟩ r' := by
    unfold callLight
    rw [hf]
    dsimp only
    rw [hmounted.syncLight_eq r.dmx]
    exact ⟨_, rfl⟩
  obtain ⟨r', hrun⟩ := hrun
  exact ⟨r', hrun, (shows_callLight Light.calm_syncLight i r).of_ok rfl hrun⟩

theorem Mounted.hasColor_eq (h : r.Mounted i) :
    ∃ found, callLight i Light.hasColor r = .ok found r := by
  obtain ⟨f, hf, hmounted⟩ := h
  obtain ⟨found, hfound⟩ := Light.Mounted.hasColor_eq (l := ⟨r.dmx, f⟩)
    hmounted
  obtain ⟨hi, rfl⟩ := List.getElem?_eq_some_iff.mp hf
  refine ⟨found, ?_⟩
  unfold callLight
  rw [hf]
  dsimp only
  rw [hfound]
  dsimp only
  rw [List.set_getElem_self]

/-- Values that a fixture can show are written to its channels. -/
theorem Ready.setDMXVals_eq (h : r.Ready i f) (hfits : r.Fits i values) :
    ∃ r', callLight i (Light.setDMXVals values) r = .ok ⟨⟩ r' ∧
      Written i f (Window.writesFrom 0 values) r r' := by
  have hsize : values.length = f.channelMap.size := by
    have hsome := hfits.size
    rw [sizes, List.getElem?_map, h.profile] at hsome
    exact (Option.some.inj hsome).symm
  have hgives := Light.gives_setDMXVals (l := ⟨r.dmx, f⟩) h.mounted h.noFault
    values
  unfold Light.valuesEffect at hgives
  rw [if_neg (not_not.mpr hsize), if_neg (not_not.mpr hfits.bytes)] at hgives
  exact h.callLight_of_writes hgives

end Rig

namespace HighlightThread

open Stage

/-! ## The calls -/

/-- A critical section: a call of the server or a pass, cut off after `n`
lights. -/
inductive Call where
  | addLight (light : ℕ)
  | removeLight (light : ℕ)
  | updateDefaultColor
  | clearHighlighted
  | pass (n : ℕ)

def Call.run : Call → Run (Stage HighlightThread) Unit
  | addLight light => HighlightThread.addLight light
  | removeLight light => HighlightThread.removeLight light
  | updateDefaultColor => setUpdateDefaultColor
  | clearHighlighted => HighlightThread.clearHighlighted
  | pass n => passUpTo n

/-- The call refers to one of the fixtures. -/
def Call.Within (count : ℕ) : Call → Prop
  | addLight light => light < count
  | _ => True

/-- No critical section is being run. -/
def Free (st : Stage HighlightThread) : Prop := st.2.semaphore = true

variable {st : Stage HighlightThread} {light : ℕ}

theorem acquire_eq (hfree : Free st) :
    acquire st = .ok ⟨⟩ (st.1, { st.2 with semaphore := false }) := by
  have hsemaphore : st.2.semaphore = true := hfree
  unfold acquire
  rw [bind_of_ok (x := get) rfl, if_pos hsemaphore]
  rfl

theorem addLight_of_mem (h : light ∈ st.2.lights) :
    addLight light st = .ok ⟨⟩ st := by
  unfold addLight
  rw [bind_of_ok (x := get) rfl, if_neg (not_not.mpr h)]
  rfl

theorem addLight_of_not_mem (hfree : Free st) (h : light ∉ st.2.lights)
    {f : FixtureProfile} (hf : st.1.profiles[light]? = some f) :
    addLight light st = .ok ⟨⟩ (st.1, { st.2 with
      semaphore := true
      lights := st.2.lights ++ [light]
      savedValues := st.2.savedValues ++ [f.dmxVals]
      updateDefaultColor := true }) := by
  have hread : ∀ t : HighlightThread,
      rig (Rig.callLight light Light.getDMXVals) (st.1, t) =
        .ok f.dmxVals (st.1, t) := fun t =>
    rig_of_ok (s := (st.1, t)) (Rig.getDMXVals_of_getElem? hf)
  unfold addLight
  rw [bind_of_ok (x := get) rfl, if_pos h, bind_of_ok (acquire_eq hfree),
    bind_of_ok (x := update _) rfl, bind_of_ok (hread _)]
  rfl

theorem setUpdateDefaultColor_eq (hfree : Free st) :
    setUpdateDefaultColor st = .ok ⟨⟩ (st.1, { st.2 with
      semaphore := true
      updateDefaultColor := true }) := by
  unfold setUpdateDefaultColor
  rw [bind_of_ok (acquire_eq hfree)]
  rfl

theorem clearHighlighted_eq (hfree : Free st) :
    clearHighlighted st = .ok ⟨⟩ (st.1, { st.2 with
      semaphore := true
      lights := []
      savedValues := [] }) := by
  unfold clearHighlighted
  rw [bind_of_ok (acquire_eq hfree)]
  rfl

theorem removeLight_of_not_mem (h : light ∉ st.2.lights) :
    removeLight light st = .ok ⟨⟩ st := by
  unfold removeLight
  rw [bind_of_ok (x := get) rfl, if_neg h]
  rfl

/-- The block of `removeLight` that may throw. -/
theorem restore_eq {t : HighlightThread} {r : Rig} {saved : List Int32}
    (hsaved : t.savedValues[t.lights.idxOf light]? = some saved) :
    (do
      let t := (← get).2
      let index := t.lights.idxOf light
      let saved ← orThrow t.savedValues[index]?
        (.indexOutOfBoundsException "remove")
      update fun t => { t with savedValues := t.savedValues.eraseIdx index }
      rig (Rig.callLight light (Light.setDMXVals saved)) :
        Run (Stage HighlightThread) Unit) (r, t) =
      rig (Rig.callLight light (Light.setDMXVals saved))
        (r, { t with
          savedValues := t.savedValues.eraseIdx (t.lights.idxOf light) }) := by
  rw [bind_of_ok (x := get) rfl]
  dsimp only
  rw [hsaved, orThrow_some_bind]
  rfl

theorem removeLight_of_ok (hfree : Free st) (h : light ∈ st.2.lights)
    {saved : List Int32}
    (hsaved : st.2.savedValues[st.2.lights.idxOf light]? = some saved)
    {r' : Rig}
    (hrun : Rig.callLight light (Light.setDMXVals saved) st.1 = .ok ⟨⟩ r') :
    removeLight light st = .ok ⟨⟩ (r', { st.2 with
      semaphore := true
      lights := st.2.lights.erase light
      savedValues :=
        st.2.savedValues.eraseIdx (st.2.lights.idxOf light) }) := by
  have hrestored := catchIOException_of_ok (y := throw .exited)
    ((restore_eq (t := { st.2 with semaphore := false }) hsaved).trans
      (rig_of_ok hrun))
  unfold removeLight
  rw [bind_of_ok (x := get) rfl, if_pos h, bind_of_ok (acquire_eq hfree),
    bind_of_ok hrestored]
  rfl

theorem removeLight_of_ioException (hfree : Free st)
    (h : light ∈ st.2.lights) {saved : List Int32}
    (hsaved : st.2.savedValues[st.2.lights.idxOf light]? = some saved)
    {message : String} {r' : Rig}
    (hrun : Rig.callLight light (Light.setDMXVals saved) st.1 =
      .error (.thrown (.ioException message)) r') :
    ∃ st', removeLight light st = .error .exited st' := by
  have hcaught := catchIOException_of_ioException (y := throw .exited)
    ((restore_eq (t := { st.2 with semaphore := false }) hsaved).trans
      (rig_of_error hrun))
  unfold removeLight
  rw [bind_of_ok (x := get) rfl, if_pos h, bind_of_ok (acquire_eq hfree)]
  exact ⟨_, bind_of_error hcaught⟩

/-! ## The ledger of the lights -/

/-- The thread keeps the ledger, and its dimmer swings. -/
structure Tended (r : Rig) (ledger : List (ℕ × List Int32))
    (st : Stage HighlightThread) : Prop where
  rig : r.Follows st.1
  lights : st.2.lights = ledger.map Prod.fst
  savedValues : st.2.savedValues = ledger.map Prod.snd
  nodup : (ledger.map Prod.fst).Nodup
  fits : ∀ e ∈ ledger, r.Fits e.1 e.2
  swings : Swings st.2

/-- What a light shows. -/
def valuesOf (r : Rig) (light : ℕ) : List Int32 :=
  (r.profiles[light]?.map FixtureProfile.dmxVals).getD []

/-- The ledger with a light and the values that it shows. -/
def enter (r : Rig) (light : ℕ) (ledger : List (ℕ × List Int32)) :
    List (ℕ × List Int32) :=
  if light ∈ ledger.map Prod.fst then ledger
  else ledger ++ [(light, valuesOf r light)]

variable {r : Rig} {ledger : List (ℕ × List Int32)} {saved : List Int32}

theorem Tended.mem (h : Tended r ledger st) (hmem : (light, saved) ∈ ledger) :
    light ∈ st.2.lights := by
  rw [h.lights]
  exact List.mem_map_of_mem (f := Prod.fst) hmem

theorem Tended.getElem?_idxOf (h : Tended r ledger st)
    (hmem : (light, saved) ∈ ledger) :
    st.2.savedValues[st.2.lights.idxOf light]? = some saved := by
  rw [h.savedValues, h.lights]
  exact Ledger.getElem?_idxOf h.nodup hmem

theorem Tended.mounted (h : Tended r ledger st) (hr : r.Stocked)
    (hlt : light < r.profiles.length) : st.1.Mounted light :=
  (hr.mounted_of_lt hlt).of_follows h.rig

theorem tended_addLight (hr : r.Stocked) (h : Tended r ledger st)
    (hfree : Free st) (hlt : light < r.profiles.length) :
    ∃ st', addLight light st = .ok ⟨⟩ st' ∧
      Tended r (enter st.1 light ledger) st' ∧ Free st' := by
  unfold enter
  by_cases hmem : light ∈ ledger.map Prod.fst
  · rw [if_pos hmem]
    exact ⟨st, addLight_of_mem (h.lights ▸ hmem), h, hfree⟩
  · obtain ⟨f, hf, hmounted⟩ := h.mounted hr hlt
    have hvalues : valuesOf st.1 light = f.dmxVals := by
      unfold valuesOf
      rw [hf]
      rfl
    have hfits : r.Fits light f.dmxVals :=
      ((h.rig.bytes hr.bytes).fits hf hmounted).of_sizes h.rig.sizes.symm
    rw [if_neg hmem, hvalues]
    refine ⟨_, addLight_of_not_mem hfree (h.lights ▸ hmem) hf, ?_, rfl⟩
    refine ⟨h.rig, ?_, ?_, List.map_append ▸ ?_, fun e he => ?_, h.swings⟩
    · rw [List.map_append, ← h.lights]
      rfl
    · rw [List.map_append, ← h.savedValues]
      rfl
    · have hnodup := List.Nodup.concat hmem h.nodup
      rwa [List.concat_eq_append] at hnodup
    · rcases List.mem_append.mp he with he | he
      · exact h.fits e he
      · rw [List.mem_singleton.mp he]
        exact hfits

/-- Writing the values of an entry fails only where a write of the driver
fails. -/
theorem setDMXVals_cases (hr : r.Stocked) (h : Tended r ledger st)
    (hmem : (light, saved) ∈ ledger) :
    (∃ r', Rig.callLight light (Light.setDMXVals saved) st.1 = .ok ⟨⟩ r' ∧
        st.1.Follows r') ∨
      ∃ message r', Rig.callLight light (Light.setDMXVals saved) st.1 =
        .error (.thrown (.ioException message)) r' ∧ ¬ r.dmx.NoFault := by
  have hshows :=
    Rig.shows_callLight (Light.calm_setDMXVals saved) light st.1
  have hfits := (h.fits _ hmem).of_sizes h.rig.sizes
  have hmounted := h.mounted hr (h.fits _ hmem).lt
  cases hrun : Rig.callLight light (Light.setDMXVals saved) st.1 with
  | ok _ r' => exact .inl ⟨r', rfl, hshows.of_ok rfl hrun⟩
  | error e r' =>
      obtain ⟨f, hf, hf'⟩ := hmounted
      obtain ⟨message, rfl⟩ := (hshows.of_error rfl hrun).2
        ⟨f, hf, hf', hfits.length_eq hf hf', hfits.bytes⟩
      refine .inr ⟨message, r', rfl, fun hfault => ?_⟩
      have hready : st.1.Ready light f := ⟨hf, hf', h.rig.noFault hfault⟩
      obtain ⟨r'', hok, -⟩ := hready.setDMXVals_eq hfits
      cases hrun.symm.trans hok

theorem Tended.remove (h : Tended r ledger st) (light : ℕ) {r' : Rig}
    (hr' : st.1.Follows r') :
    Tended r (Ledger.without light ledger) (r', { st.2 with
      semaphore := true
      lights := st.2.lights.erase light
      savedValues :=
        st.2.savedValues.eraseIdx (st.2.lights.idxOf light) }) := by
  refine ⟨h.rig.trans hr', ?_, ?_, Ledger.nodup_without h.nodup light,
    fun e he => h.fits e (Ledger.mem_without_iff.mp he).1, h.swings⟩
  · rw [Ledger.map_fst_without h.nodup, ← h.lights]
  · rw [Ledger.map_snd_without h.nodup, ← h.lights, ← h.savedValues]

/-- From `pre` the method returns in `post`, unless a write of the driver fails
and the process exits. -/
def Settles (r : Rig) (pre : Stage HighlightThread → Prop)
    (x : Run (Stage HighlightThread) Unit)
    (post : Stage HighlightThread → Prop) : Prop :=
  Triple pre x (fun _ => post) (fun e _ => e = .exited ∧ ¬ r.dmx.NoFault)

theorem Settles.exists_ok {pre post : Stage HighlightThread → Prop}
    {x : Run (Stage HighlightThread) Unit} (h : Settles r pre x post)
    (hst : pre st) (hfault : r.dmx.NoFault) :
    ∃ st', x st = .ok ⟨⟩ st' ∧ post st' := by
  cases hrun : x st with
  | ok _ st' => exact ⟨st', rfl, h.of_ok hst hrun⟩
  | error e st' => exact absurd hfault (h.of_error hst hrun).2

theorem settles_removeLight (hr : r.Stocked) (light : ℕ) :
    Settles r (fun st => Tended r ledger st ∧ Free st) (removeLight light)
      (fun st => Tended r (Ledger.without light ledger) st ∧ Free st) := by
  rintro st ⟨h, hfree⟩
  by_cases hmem : light ∈ ledger.map Prod.fst
  · obtain ⟨⟨_, saved⟩, hentry, rfl⟩ := List.mem_map.mp hmem
    have hlights := h.mem hentry
    rcases setDMXVals_cases hr h hentry with
      ⟨r', hrun, hr'⟩ | ⟨message, r', hrun, hfault⟩
    · rw [removeLight_of_ok hfree hlights (h.getElem?_idxOf hentry) hrun]
      exact ⟨h.remove _ hr', rfl⟩
    · obtain ⟨st', hexited⟩ := removeLight_of_ioException hfree hlights
        (h.getElem?_idxOf hentry) hrun
      rw [hexited]
      exact ⟨rfl, hfault⟩
  · rw [Ledger.without_of_not_mem hmem,
      removeLight_of_not_mem (h.lights ▸ hmem)]
    exact ⟨h, hfree⟩

theorem tended_setUpdateDefaultColor (h : Tended r ledger st)
    (hfree : Free st) :
    ∃ st', setUpdateDefaultColor st = .ok ⟨⟩ st' ∧ Tended r ledger st' ∧
      Free st' :=
  ⟨_, setUpdateDefaultColor_eq hfree,
    ⟨h.rig, h.lights, h.savedValues, h.nodup, h.fits, h.swings⟩, rfl⟩

theorem tended_clearHighlighted (h : Tended r ledger st) (hfree : Free st) :
    ∃ st', clearHighlighted st = .ok ⟨⟩ st' ∧ Tended r [] st' ∧ Free st' :=
  ⟨_, clearHighlighted_eq hfree,
    ⟨h.rig, rfl, rfl, .nil, fun _ he => absurd he List.not_mem_nil,
      h.swings⟩, rfl⟩

/-! ## A pass -/

/-- The light has a dimmer, and a default color if it may need one. -/
def Bears (r : Rig) (updating : Bool) (light : ℕ) : Prop :=
  ∃ f, r.profiles[light]? = some f ∧ Light.Mounted f ∧
    (f.channelMap.lookup "dimmer").isSome ∧
      (updating = true → Light.DefaultColored f)

theorem Bears.of_follows {updating : Bool} {r' : Rig}
    (h : Bears r updating light) (hr : r.Follows r') :
    Bears r' updating light := by
  obtain ⟨f, hf, hmounted, hdimmer, hdefault⟩ := h
  obtain ⟨g, hg, hsetup⟩ := hr.getElem? hf
  have hmap : g.channelMap = f.channelMap :=
    congrArg (·.1.channelMap) hsetup
  have hoffs : g.defaultColorOffs = f.defaultColorOffs :=
    congrArg (·.1.defaultColorOffs) hsetup
  refine ⟨g, hg, hmounted.of_setup_eq hsetup, ?_, fun hupdating => ?_⟩
  · rw [hmap]
    exact hdimmer
  · unfold Light.DefaultColored
    rw [hmap, hoffs]
    exact hdefault hupdating

/-- The thread is in a pass. -/
structure Passing (r : Rig) (ledger : List (ℕ × List Int32)) (updating : Bool)
    (st : Stage HighlightThread) : Prop where
  tended : Tended r ledger st
  update_eq : st.2.updateDefaultColor = updating

variable {updating : Bool}

theorem Passing.of_follows (h : Passing r ledger updating st) {r' : Rig}
    (hr : st.1.Follows r') : Passing r ledger updating (r', st.2) :=
  ⟨⟨h.tended.rig.trans hr, h.tended.lights, h.tended.savedValues,
    h.tended.nodup, h.tended.fits, h.tended.swings⟩, h.update_eq⟩

/-- The default color of a light comes on. -/
def showDefaultColor (light : ℕ) : Run (Stage HighlightThread) Unit := do
  let f ← rig (Rig.fixture light)
  catchIOException
    (rig (Rig.callLight light
      (Light.setChannelManual f.defaultColorOffs 255)))
    (throw .exited)

theorem refreshColor_eq (light : ℕ) : refreshColor light = (do
    rig (Rig.callLight light Light.syncLight)
    if !(← rig (Rig.callLight light Light.hasColor)) then
      showDefaultColor light) := rfl

theorem settles_showDefaultColor (hb : Bears r true light) :
    Settles r (Passing r ledger updating) (showDefaultColor light)
      (Passing r ledger updating) := by
  intro st h
  obtain ⟨f, hf, hmounted, -, hdefault⟩ := hb.of_follows h.tended.rig
  have hbyte : IsByte 255 := by decide
  have hoffset := hdefault rfl
  have hshows := Rig.shows_callLight
    (Light.calm_setChannelManual f.defaultColorOffs 255) light st.1
  unfold showDefaultColor
  rw [bind_of_ok (rig_of_ok (Rig.fixture_of_getElem? hf))]
  cases hrun : Rig.callLight light
      (Light.setChannelManual f.defaultColorOffs 255) st.1 with
  | ok _ r' =>
      rw [catchIOException_of_ok (rig_of_ok hrun)]
      exact h.of_follows (hshows.of_ok rfl hrun)
  | error e r' =>
      obtain ⟨message, rfl⟩ := (hshows.of_error rfl hrun).2
        ⟨f, hf, hmounted, hoffset.1, hoffset.2, hbyte⟩
      rw [catchIOException_of_ioException (rig_of_error hrun)]
      refine ⟨rfl, fun hfault => ?_⟩
      have hready : st.1.Ready light f :=
        ⟨hf, hmounted, h.tended.rig.noFault hfault⟩
      obtain ⟨r'', hok, -⟩ := hready.setChannelManual_eq hoffset hbyte
      cases hrun.symm.trans hok

theorem settles_refreshColor (hb : Bears r true light) :
    Settles r (Passing r ledger updating) (refreshColor light)
      (Passing r ledger updating) := by
  intro st h
  have hmounted : st.1.Mounted light := by
    obtain ⟨f, hf, hf', -⟩ := hb.of_follows h.tended.rig
    exact ⟨f, hf, hf'⟩
  obtain ⟨r₁, hsync, hr₁⟩ := hmounted.syncLight_eq
  obtain ⟨found, hfound⟩ := (hmounted.of_follows hr₁).hasColor_eq
  have h₁ := h.of_follows hr₁
  rw [refreshColor_eq, bind_of_ok (rig_of_ok hsync),
    bind_of_ok (rig_of_ok (s := (r₁, st.2)) hfound)]
  cases found with
  | true => exact h₁
  | false => exact settles_showDefaultColor hb (r₁, st.2) h₁

theorem lights_advance (t : HighlightThread) :
    (advance t).lights = t.lights := by
  unfold advance
  rw [turn_eq]

theorem savedValues_advance (t : HighlightThread) :
    (advance t).savedValues = t.savedValues := by
  unfold advance
  rw [turn_eq]

theorem updateDefaultColor_advance (t : HighlightThread) :
    (advance t).updateDefaultColor = t.updateDefaultColor := by
  unfold advance
  rw [turn_eq]

theorem settles_dim (hb : Bears r updating light) :
    Settles r (Passing r ledger updating) (dim light)
      (Passing r ledger updating) := by
  intro st h
  obtain ⟨f, hf, hmounted, hdimmer, -⟩ := hb.of_follows h.tended.rig
  obtain ⟨hbyte, hswings⟩ := h.tended.swings.advance
  have hadvanced : Passing r ledger updating (st.1, advance st.2) :=
    ⟨⟨h.tended.rig, (lights_advance st.2).trans h.tended.lights,
      (savedValues_advance st.2).trans h.tended.savedValues, h.tended.nodup,
      h.tended.fits, hswings⟩,
      (updateDefaultColor_advance st.2).trans h.update_eq⟩
  have hshows := Rig.shows_callLight
    (Light.calm_setDimmerValue (value st.2)) light st.1
  rw [dim_eq]
  cases hrun : Rig.callLight light (Light.setDimmerValue (value st.2))
      st.1 with
  | ok _ r' =>
      rw [catchIOException_of_ok (rig_of_ok (s := (st.1, advance st.2)) hrun)]
      exact hadvanced.of_follows (hshows.of_ok rfl hrun)
  | error e r' =>
      obtain ⟨hr', hio⟩ := hshows.of_error rfl hrun
      obtain ⟨message, rfl⟩ := hio ⟨f, hf, hmounted, hdimmer, hbyte⟩
      rw [catchIOException_of_ioException
        (rig_of_error (s := (st.1, advance st.2)) hrun)]
      exact hadvanced.of_follows hr'

theorem settles_refresh (hb : Bears r updating light) :
    Settles r (Passing r ledger updating) (refresh light)
      (Passing r ledger updating) := by
  refine Triple.get_bind fun st h => ?_
  rw [h.update_eq]
  cases updating with
  | false => exact Triple.pure fun _ h => h
  | true => exact settles_refreshColor hb

theorem settles_passLight (hb : Bears r updating light) :
    Settles r (Passing r ledger updating) (passLight light)
      (Passing r ledger updating) := by
  intro st h
  rw [passLight_eq]
  exact ((settles_refresh hb).bind fun _ => settles_dim hb) st h

/-- A pass keeps the ledger and gives the permit back, if all lights that it
visits have the channels that it needs. -/
theorem settles_passUpTo {n : ℕ}
    (hb : ∀ light ∈ (ledger.map Prod.fst).take n, Bears r updating light) :
    Settles r
      (fun st => Passing r ledger updating st ∧ Free st) (passUpTo n)
      (fun st => Tended r ledger st ∧ Free st) := by
  rintro st ⟨h, hfree⟩
  have hacquired : Passing r ledger updating
      (st.1, { st.2 with semaphore := false }) :=
    ⟨⟨h.tended.rig, h.tended.lights, h.tended.savedValues, h.tended.nodup,
      h.tended.fits, h.tended.swings⟩, h.update_eq⟩
  have hloop : Settles r (Passing r ledger updating)
      (((ledger.map Prod.fst).take n).forM passLight)
      (Passing r ledger updating) :=
    Triple.forM fun light hlight => settles_passLight (hb light hlight)
  have hend : Settles r (Passing r ledger updating)
      (do
        update fun t => { t with updateDefaultColor := false }
        release)
      (fun st => Tended r ledger st ∧ Free st) :=
    Triple.modify fun st h =>
      ⟨⟨h.tended.rig, h.tended.lights, h.tended.savedValues, h.tended.nodup,
        h.tended.fits, h.tended.swings⟩, rfl⟩
  unfold passUpTo
  rw [bind_of_ok (acquire_eq hfree), bind_of_ok (x := get) rfl]
  rw [← h.tended.lights] at hloop
  exact (hloop.bind fun _ => hend) _ hacquired

end HighlightThread

end ChuckLight
