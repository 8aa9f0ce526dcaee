import ChuckLight.Lighting.SceneOrder
import ChuckLight.Threads.LightSelection

/-!
# The ground that all modes stand on

All fixtures are usable, the scenes are in order, and the cursors that no mode
owns are in range.  Where this holds, nothing that the loop shows on lights
makes it throw anything.
-/

namespace ChuckLight

open Java LightingDefines SceneManager

/-! ## Similar rigs -/

/-- The fixtures of the second rig are as usable as those of the first and
have as many channels. -/
structure Rig.Similar (r r' : Rig) : Prop where
  usable : (∀ f ∈ r.profiles, Light.Usable f) →
    ∀ f ∈ r'.profiles, Light.Usable f
  bytes : r.Bytes → r'.Bytes
  sizes : r'.sizes = r.sizes

variable {r r' : Rig}

theorem Rig.Similar.length (h : r.Similar r') :
    r'.profiles.length = r.profiles.length :=
  Rig.length_of_sizes h.sizes

theorem Rig.Follows.similar (h : r.Follows r') : r.Similar r' where
  usable := fun husable g hg => by
    have hmem : g.setup ∈ r.profiles.map FixtureProfile.setup := by
      rw [← h.setup]
      exact List.mem_map_of_mem hg
    obtain ⟨f, hf, hsetup⟩ := List.mem_map.mp hmem
    exact (husable f hf).of_setup_eq hsetup.symm
  bytes := h.bytes
  sizes := h.sizes

theorem Rig.Marks.similar (h : r.Marks r') : r.Similar r' := by
  refine ⟨fun husable g hg => ?_, fun hbytes => ⟨fun g hg => ?_, ?_⟩,
    h.sizes⟩
  · obtain ⟨f, hf, heq⟩ := h.exists_mem hg
    have hf' : Light.Usable (f.setSelected false) := by
      obtain ⟨hdriver, hone, hadd, hoffset, hvals, hred, hgreen, hblue,
        hdimmer⟩ := husable f hf
      exact ⟨hdriver, hone, hadd, hoffset, hvals, hred, hgreen, hblue, hdimmer⟩
    rw [heq] at hf'
    obtain ⟨hdriver, hone, hadd, hoffset, hvals, hred, hgreen, hblue,
      hdimmer⟩ := hf'
    exact ⟨hdriver, hone, hadd, hoffset, hvals, hred, hgreen, hblue, hdimmer⟩
  · obtain ⟨f, hf, heq⟩ := h.exists_mem hg
    show ∀ v ∈ (g.setSelected false).dmxVals, IsByte v
    rw [← heq]
    exact hbytes.mirror f hf
  · rw [h.dmx]
    exact hbytes.shadow

/-! ## The ground -/

namespace Server

/-- What holds in every mode. -/
structure Ground (s : Server) : Prop where
  usable : ∀ f ∈ s.rig.profiles, Light.Usable f
  bytes : s.rig.Bytes
  light : 0 ≤ s.currentLightIndex ∧
    s.currentLightIndex < s.rig.profiles.length
  preset : 0 ≤ s.currentPresetIndex ∧ s.currentPresetIndex < PRESETS.length
  delay : MIN_CHASE_DELAY ≤ s.chaseSceneDelay ∧
    s.chaseSceneDelay ≤ MAX_CHASE_DELAY
  steps : CHASE_STEP ∣ s.chaseSceneDelay
  scenes : InOrder s.sceneManager
  selected : ∀ lights, s.selectedLights = some lights →
    ∀ i ∈ lights, i < s.rig.profiles.length

namespace Ground

variable {s : Server}

theorem setRig (h : Ground s) (hr : s.rig.Similar r) :
    Ground { s with rig := r } := by
  refine ⟨hr.usable h.usable, hr.bytes h.bytes, ?_, h.preset, h.delay, h.steps,
    h.scenes, ?_⟩
  · show 0 ≤ s.currentLightIndex ∧ s.currentLightIndex < r.profiles.length
    rw [hr.length]
    exact h.light
  · show ∀ lights, s.selectedLights = some lights →
      ∀ i ∈ lights, i < r.profiles.length
    rw [hr.length]
    exact h.selected

theorem setSlots (h : Ground s) (slots : (k : WorkerField) → Slot k.Object) :
    Ground { s with slots := slots } :=
  ⟨h.usable, h.bytes, h.light, h.preset, h.delay, h.steps, h.scenes,
    h.selected⟩

/-- All methods work on a light of the show. -/
theorem getElem? (h : Ground s) {i : ℕ} (hi : i < s.rig.profiles.length) :
    ∃ f, s.rig.profiles[i]? = some f ∧ Light.Usable f :=
  ⟨s.rig.profiles[i], List.getElem?_eq_getElem hi,
    h.usable _ (List.getElem_mem hi)⟩

theorem mirror (h : Ground s) {i : ℕ} {f : FixtureProfile}
    (hf : s.rig.profiles[i]? = some f) : ∀ v ∈ f.dmxVals, IsByte v :=
  h.bytes.mirror f (List.mem_of_getElem? hf)

/-- The number of channels of a fixture, as an `int`. -/
theorem numChannels (h : Ground s) {i : ℕ} {f : FixtureProfile}
    (hf : s.rig.profiles[i]? = some f) :
    s.rig.sizes[i]? = some f.channelMap.size ∧
      f.numChannels.toInt = f.channelMap.size ∧ 1 ≤ f.channelMap.size := by
  have husable := h.usable f (List.mem_of_getElem? hf)
  have hone := husable.one_le_address
  have hadd := husable.address_add_le
  obtain ⟨offset, hoffset⟩ := Option.isSome_iff_exists.mp husable.red
  obtain ⟨hlo, hhi⟩ := husable.offset _ _ hoffset
  refine ⟨?_, Int32.toInt_ofNat_of_lt (by omega), by omega⟩
  rw [Rig.sizes, List.getElem?_map, hf]
  rfl

end Ground

/-- The invariant includes the ground.  It ignores what the lights show, which
of them are selected, and the workers, and the cursor over the lights may be
any in range. -/
structure Grounded (inv : Server → Prop) : Prop where
  ground : ∀ s, inv s → Ground s
  rig : ∀ s r, s.rig.Similar r → inv s → inv { s with rig := r }
  slots : ∀ s slots, inv s → inv { s with slots := slots }
  move : ∀ s cursor, 0 ≤ cursor ∧ cursor < s.rig.profiles.length → inv s →
    inv { s with currentLightIndex := cursor }

namespace Grounded

variable {inv : Server → Prop} (h : Grounded inv) {α : Type} {c : Prop}

include h

theorem workable : Workable inv where
  rig := fun s r hr => h.rig s r hr.similar
  object := fun s _ _ stage _ _ hstage hs =>
    h.slots _ _ (h.rig s stage.1 hstage.rig.similar hs)
  slots := h.slots

/-- The selected lights stay what they are. -/
theorem given (lights : List ℕ) :
    Grounded fun s => inv s ∧ s.selectedLights = some lights where
  ground := fun s hs => h.ground s hs.1
  rig := fun s r hr hs => ⟨h.rig s r hr hs.1, hs.2⟩
  slots := fun s slots hs => ⟨h.slots s slots hs.1, hs.2⟩
  move := fun s cursor hcursor hs => ⟨h.move s cursor hcursor hs.1, hs.2⟩

/-! ## Showing -/

theorem triple_onRig {c : Rig → Prop} {x : Run Rig α} (hx : Rig.Shows c x)
    (hc : ∀ s, inv s → c s.rig) :
    Triple inv (Server.onRig x) (fun _ => inv)
      (fun e s => inv s ∧ e.IsIOException) := by
  intro s hs
  unfold Server.onRig Java.zoom
  cases hrun : x s.rig with
  | ok a r => exact h.rig s r ((hx s.rig).of_ok rfl hrun).similar hs
  | error e r =>
      obtain ⟨hr, he⟩ := (hx s.rig).of_error rfl hrun
      exact ⟨h.rig s r hr.similar hs, he (hc s hs)⟩

theorem triple_callLight {fits : FixtureProfile → Prop} {x : Run Light α}
    (hx : Light.Calm fits x) {light : ℕ}
    (hfits : ∀ s, inv s →
      ∃ f, s.rig.profiles[light]? = some f ∧ fits f) :
    Triple inv (Server.onRig (Rig.callLight light x)) (fun _ => inv)
      (fun e s => inv s ∧ e.IsIOException) :=
  h.triple_onRig (Rig.shows_callLight hx light) hfits

omit h in
/-- An `IOException` is caught. -/
theorem triple_try {x : Run Server Unit}
    (hx : Triple inv x (fun _ => inv) (fun e s => inv s ∧ e.IsIOException)) :
    Triple inv ( tryIO x) (fun _ => inv) (fun e _ => c → ¬ e.IsThrown) :=
  Triple.catchIOException_of
    (hx.conseq (fun _ hs => hs) (fun _ _ hs => hs) fun _ _ he =>
      ⟨he.1, fun hnot => absurd he.2 hnot⟩)
    (Triple.pure fun _ hs => hs)

theorem triple_syncLight {light : ℕ}
    (hlight : ∀ s, inv s → light < s.rig.profiles.length) :
    Triple inv (Server.onRig (Rig.callLight light Light.syncLight))
      (fun _ => inv) (fun e _ => c → ¬ e.IsThrown) := by
  intro s hs
  obtain ⟨f, hf, husable⟩ := (h.ground s hs).getElem? (hlight s hs)
  have hsync : ∃ r, Rig.callLight light Light.syncLight s.rig = .ok ⟨⟩ r := by
    unfold Rig.callLight
    rw [hf]
    dsimp only
    rw [husable.mounted.syncLight_eq s.rig.dmx]
    exact ⟨_, rfl⟩
  obtain ⟨r, hr⟩ := hsync
  have hshows := Rig.shows_callLight Light.calm_syncLight light s.rig
  have hsimilar := (hshows.of_ok rfl hr).similar
  unfold Server.onRig Java.zoom
  rw [hr]
  exact h.rig s r hsimilar hs

theorem triple_showScene {scene : Scene} (hscene : Playable scene) :
    Triple inv (Server.onRig (Rig.callDmx (DefaultDMX.setAllDMX scene)))
      (fun _ => inv) (fun e s => inv s ∧ e.IsIOException) :=
  h.triple_onRig (Rig.shows_setAllDMX scene) fun _ _ =>
    ⟨hscene.full, fun v hv => hscene.bytes v (List.mem_of_mem_tail hv)⟩

/-- The live scene is shown. -/
theorem triple_showLive :
    Triple inv
      ( tryIO do
        let scene ← onScenes getCurrentScene
        Server.onRig (Rig.callDmx (DefaultDMX.setAllDMX scene)))
      (fun _ => inv) (fun e _ => c → ¬ e.IsThrown) := by
  refine triple_try fun s hs => ?_
  have hget : onScenes getCurrentScene s =
      .ok s.sceneManager.currentScene s := rfl
  rw [bind_of_ok hget]
  exact h.triple_showScene (h.ground s hs).scenes.live s hs

theorem triple_revertScene :
    Triple inv Server.revertScene (fun _ => inv)
      (fun e _ => c → ¬ e.IsThrown) := by
  refine h.triple_showLive.bind fun _ => Triple.get_bind_eq fun s hs => ?_
  have hground := h.ground s hs
  cases hselected : s.selectedLights with
  | none => exact Triple.pure fun t ht => ht ▸ hs
  | some lights =>
      have hgiven := h.given lights
      have hsync : ∀ light ∈ lights,
          Triple (fun s => inv s ∧ s.selectedLights = some lights)
            (Server.onRig (Rig.callLight light Light.syncLight))
            (fun _ s => inv s ∧ s.selectedLights = some lights)
            (fun e _ => c → ¬ e.IsThrown) := fun light hlight =>
        hgiven.triple_syncLight fun t ht =>
          (h.ground t ht.1).selected lights ht.2 light hlight
      exact (Triple.forM hsync).conseq (fun t ht => ht ▸ ⟨hs, hselected⟩)
        (fun _ _ ht => ht.1) fun _ _ he => he

/-! ## The selected lights -/

omit h in
/-- A loop over the selected lights. -/
theorem triple_forSelected {body : ℕ → Run Server Unit}
    (hselected : ∀ s, inv s → ∃ lights, s.selectedLights = some lights)
    (hbody : ∀ lights, ∀ light ∈ lights,
      Triple (fun s => inv s ∧ s.selectedLights = some lights) (body light)
        (fun _ s => inv s ∧ s.selectedLights = some lights)
        (fun e _ => c → ¬ e.IsThrown)) :
    Triple inv (forSelected body) (fun _ => inv)
      (fun e _ => c → ¬ e.IsThrown) := by
  refine Triple.get_bind_eq fun s hs => ?_
  obtain ⟨lights, hlights⟩ := hselected s hs
  rw [hlights, orThrow_some_bind]
  exact (Triple.forM (hbody lights)).conseq (fun t ht => ht ▸ ⟨hs, hlights⟩)
    (fun _ _ ht => ht.1) fun _ _ he => he

/-- A method of a selected light under which nothing but an `IOException` is
thrown. -/
theorem triple_tryLight {fits : FixtureProfile → Prop} {x : Run Light Unit}
    (hx : Light.Calm fits x) {lights : List ℕ} {light : ℕ}
    (hlight : light ∈ lights)
    (hfits : ∀ s f, inv s → s.selectedLights = some lights →
      s.rig.profiles[light]? = some f → Light.Usable f → fits f) :
    Triple (fun s => inv s ∧ s.selectedLights = some lights)
      ( tryIO (Server.onRig (Rig.callLight light x)))
      (fun _ s => inv s ∧ s.selectedLights = some lights)
      (fun e _ => c → ¬ e.IsThrown) := by
  refine triple_try ((h.given lights).triple_callLight hx fun s hs => ?_)
  have hground := h.ground s hs.1
  obtain ⟨f, hf, husable⟩ :=
    hground.getElem? (hground.selected lights hs.2 light hlight)
  exact ⟨f, hf, hfits s f hs.1 hs.2 hf husable⟩

end Grounded

end Server

end ChuckLight
