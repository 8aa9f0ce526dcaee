import ChuckLight.Lighting.FixtureEffects
import ChuckLight.Lighting.RigFollows

/-!
# What methods of lights do to the rig

The fixtures of a show are windows on one shadow.  A method of a light changes
the mirror of its fixture and the shadow, as its effect says.
-/

namespace ChuckLight

open Java

/-- A fixture stays mounted when its values change. -/
theorem Light.Mounted.of_setup_eq {f g : FixtureProfile}
    (h : Light.Mounted f) (hsetup : g.setup = f.setup) : Light.Mounted g := by
  obtain ⟨hfields, hlength⟩ := Prod.mk.inj hsetup
  have hg : g = { f with dmxVals := g.dmxVals } :=
    congrArg (fun x : FixtureProfile => { x with dmxVals := g.dmxVals }) hfields
  rw [hg]
  exact h.mirror hlength

namespace Rig

/-- There is a fixture at position `i`, and it is mounted. -/
def Mounted (r : Rig) (i : ℕ) : Prop :=
  ∃ f, r.profiles[i]? = some f ∧ Light.Mounted f

/-- The fixture `f` is mounted at position `i`, and no write fails. -/
structure Ready (r : Rig) (i : ℕ) (f : FixtureProfile) : Prop where
  profile : r.profiles[i]? = some f
  mounted : Light.Mounted f
  noFault : r.dmx.NoFault

variable {r r' : Rig} {i : ℕ} {f : FixtureProfile} {x : Run Light Unit}

theorem Mounted.exists_ready (h : r.Mounted i) (hr : r.dmx.NoFault) :
    ∃ f, r.Ready i f := by
  obtain ⟨f, hf, hmounted⟩ := h
  exact ⟨f, hf, hmounted, hr⟩

theorem Ready.of_follows (h : r.Ready i f) (hr : r.Follows r') :
    ∃ g, r'.Ready i g ∧ g.channelMap = f.channelMap := by
  obtain ⟨g, hg, hsetup⟩ := hr.getElem? h.profile
  exact ⟨g, ⟨hg, h.mounted.of_setup_eq hsetup, hr.noFault h.noFault⟩,
    congrArg (·.1.channelMap) hsetup⟩

theorem Mounted.of_follows (h : r.Mounted i) (hr : r.Follows r') :
    r'.Mounted i := by
  obtain ⟨f, hf, hmounted⟩ := h
  obtain ⟨g, hg, hsetup⟩ := hr.getElem? hf
  exact ⟨g, hg, hmounted.of_setup_eq hsetup⟩

/-- The second rig is the first one after some writes to the channels of the
fixture `f` at position `i`. -/
structure Written (i : ℕ) (f : FixtureProfile) (ws : List (ℕ × Int32))
    (r r' : Rig) : Prop where
  profiles : r'.profiles = r.profiles.set i
    { f with dmxVals := Window.mirror f.dmxVals ws }
  shadow : r'.dmx.dmxShadow =
    Window.memory (Light.base f) r.dmx.dmxShadow ws
  noFault : r'.dmx.NoFault

theorem Ready.callLight_of_writes {ws : List (ℕ × Int32)} (h : r.Ready i f)
    (hx : (Light.Effect.writes ws).Gives ⟨r.dmx, f⟩ (x ⟨r.dmx, f⟩)) :
    ∃ r', callLight i x r = .ok ⟨⟩ r' ∧ Written i f ws r r' := by
  obtain ⟨l', hrun, hwritten⟩ := hx
  refine ⟨⟨l'.dmx, r.profiles.set i l'.fixture⟩, ?_, ?_⟩
  · unfold callLight
    rw [h.profile]
    dsimp only
    rw [hrun]
  · exact ⟨congrArg (r.profiles.set i) hwritten.fixture, hwritten.shadow,
      hwritten.noFault⟩

theorem Ready.callLight_of_rejects {e : Throwable} (h : r.Ready i f)
    (hx : (Light.Effect.rejects e).Gives ⟨r.dmx, f⟩ (x ⟨r.dmx, f⟩)) :
    callLight i x r = .error (.thrown e) r := by
  have hrun : x ⟨r.dmx, f⟩ = .error (.thrown e) ⟨r.dmx, f⟩ := hx
  obtain ⟨hi, rfl⟩ := List.getElem?_eq_some_iff.mp h.profile
  unfold callLight
  rw [h.profile]
  dsimp only
  rw [hrun]
  dsimp only
  rw [List.set_getElem_self]

theorem Ready.callLight_of_syncs (h : r.Ready i f)
    (hx : Light.Effect.syncs.Gives ⟨r.dmx, f⟩ (x ⟨r.dmx, f⟩)) :
    callLight i x r = .ok ⟨⟩ { r with
      profiles := r.profiles.set i { f with
        dmxVals := Window.view (Light.base f) f.channelMap.size
          r.dmx.dmxShadow } } := by
  have hrun : x ⟨r.dmx, f⟩ =
      .ok ⟨⟩ ⟨r.dmx, Light.mirrorOf f (List.ofFn r.dmx.dmxShadow)⟩ := hx
  rw [h.mounted.mirrorOf_eq] at hrun
  unfold callLight
  rw [h.profile]
  dsimp only
  rw [hrun]

/-- A byte is written to one channel. -/
theorem Ready.setChannelManual_eq (h : r.Ready i f) {channel value : Int32}
    (hchannel : 0 ≤ channel.toInt ∧ channel.toInt < f.channelMap.size)
    (hvalue : IsByte value) :
    ∃ r', callLight i (Light.setChannelManual channel value) r = .ok ⟨⟩ r' ∧
      Written i f [(channel.toInt.toNat, value)] r r' := by
  have hgives := Light.gives_setChannelManual (l := ⟨r.dmx, f⟩) h.mounted
    h.noFault channel value
  unfold Light.channelEffect at hgives
  rw [if_neg (not_not.mpr hchannel), if_neg (not_not.mpr hvalue)] at hgives
  exact h.callLight_of_writes hgives

end Rig

end ChuckLight
