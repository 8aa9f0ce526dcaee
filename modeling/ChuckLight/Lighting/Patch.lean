import ChuckLight.Lighting.FixtureFrame
import ChuckLight.Lighting.RigEffects

/-!
# Fixtures that share no address

In a patch no two fixtures share an address, and all of them are mounted.  A
call on one fixture then leaves the mirrors of the others in agreement with the
driver, and an edit of one channel of several fixtures changes each of the
addresses once.
-/

namespace ChuckLight

open Java

/-- The selection of a fixture does not matter to its mounting. -/
theorem Light.mounted_setSelected {f : FixtureProfile} (selected : Bool) :
    Light.Mounted (f.setSelected selected) ↔ Light.Mounted f :=
  ⟨fun h => ⟨h.dmxDriver, h.one_le_address, h.address_add_le, h.offset,
    h.length_dmxVals⟩,
    fun h => ⟨h.dmxDriver, h.one_le_address, h.address_add_le, h.offset,
      h.length_dmxVals⟩⟩

/-- The number of channels of a mounted fixture, as an `int`. -/
theorem Light.Mounted.toInt_numChannels {f : FixtureProfile}
    (h : Light.Mounted f) : f.numChannels.toInt = f.channelMap.size := by
  have hone := h.one_le_address
  have hadd := h.address_add_le
  exact Int32.toInt_ofNat_of_lt (by omega)

namespace Rig

/-- All fixtures are mounted and have channels, no two of them share an address,
they show bytes, and no write fails. -/
structure Patched (r : Rig) : Prop where
  mounted : ∀ f ∈ r.profiles, Light.Mounted f
  channels : ∀ f ∈ r.profiles, 1 ≤ f.channelMap.size
  apart : r.profiles.Pairwise Light.Apart
  bytes : r.Bytes
  noFault : r.dmx.NoFault

/-- There is a fixture at position `i`, and its mirror holds the values of the
driver. -/
def Synced (r : Rig) (i : ℕ) : Prop :=
  ∃ f, r.profiles[i]? = some f ∧
    Window.Agrees (Light.base f) f.dmxVals r.dmx.dmxShadow

variable {r r' : Rig} {i j : ℕ} {f g : FixtureProfile}

/-! ## What lights leave alone -/

theorem Patched.ready (h : r.Patched) (hf : r.profiles[i]? = some f) :
    r.Ready i f :=
  ⟨hf, h.mounted f (List.mem_of_getElem? hf), h.noFault⟩

theorem Patched.of_follows (h : r.Patched) (hr : r.Follows r') :
    r'.Patched := by
  have hsetup : ∀ g ∈ r'.profiles, ∃ f ∈ r.profiles, g.setup = f.setup := by
    intro g hg
    obtain ⟨i, hi⟩ := List.getElem?_of_mem hg
    obtain ⟨f, hf, heq⟩ := exists_getElem?_of_setup hr.setup.symm hi
    exact ⟨f, List.mem_of_getElem? hf, heq.symm⟩
  refine ⟨fun g hg => ?_, fun g hg => ?_, ?_, hr.bytes h.bytes,
    hr.noFault h.noFault⟩
  · obtain ⟨f, hf, heq⟩ := hsetup g hg
    exact (h.mounted f hf).of_setup_eq heq
  · obtain ⟨f, hf, heq⟩ := hsetup g hg
    have hmap : g.channelMap = f.channelMap := congrArg (·.1.channelMap) heq
    rw [hmap]
    exact h.channels f hf
  · have hpairs : (r.profiles.map FixtureProfile.setup).Pairwise
        fun x y => Light.Apart x.1 y.1 := List.pairwise_map.mpr h.apart
    rw [← hr.setup] at hpairs
    have hapart := List.pairwise_map.mp hpairs
    exact hapart

theorem Patched.of_marks (h : r.Patched) (hr : r.Marks r') : r'.Patched := by
  refine ⟨fun g hg => ?_, fun g hg => ?_, ?_, ⟨fun g hg => ?_, ?_⟩, ?_⟩
  · obtain ⟨f, hf, heq⟩ := hr.exists_mem hg
    rw [← Light.mounted_setSelected false, ← heq]
    exact (Light.mounted_setSelected false).mpr (h.mounted f hf)
  · obtain ⟨f, hf, heq⟩ := hr.exists_mem hg
    have hmap : f.channelMap = g.channelMap := congrArg (·.channelMap) heq
    rw [← hmap]
    exact h.channels f hf
  · have hpairs : (r.profiles.map (·.setSelected false)).Pairwise
        Light.Apart := List.pairwise_map.mpr h.apart
    rw [← hr.profiles] at hpairs
    have hapart := List.pairwise_map.mp hpairs
    exact hapart
  · obtain ⟨f, hf, heq⟩ := hr.exists_mem hg
    have hvals : f.dmxVals = g.dmxVals := congrArg (·.dmxVals) heq
    rw [← hvals]
    exact h.bytes.mirror f hf
  · rw [hr.dmx]
    exact h.bytes.shadow
  · rw [hr.dmx]
    exact h.noFault

/-- The windows of two fixtures have no cell in common. -/
theorem Patched.windows (h : r.Patched) (hf : r.profiles[i]? = some f)
    (hg : r.profiles[j]? = some g) (hne : i ≠ j) :
    Light.base f + f.channelMap.size ≤ Light.base g ∨
      Light.base g + g.channelMap.size ≤ Light.base f := by
  have hapart : Light.Apart f g := by
    obtain ⟨hi, rfl⟩ := List.getElem?_eq_some_iff.mp hf
    obtain ⟨hj, rfl⟩ := List.getElem?_eq_some_iff.mp hg
    rcases Nat.lt_or_gt_of_ne hne with hlt | hgt
    · exact List.pairwise_iff_getElem.mp h.apart i j hi hj hlt
    · exact (List.pairwise_iff_getElem.mp h.apart j i hj hi hgt).symm
  exact hapart.bases (h.mounted f (List.mem_of_getElem? hf))
    (h.mounted g (List.mem_of_getElem? hg))

/-! ## Mirrors in agreement -/

/-- Writes to one fixture leave the mirrors of all fixtures in agreement. -/
theorem Written.synced {ws : List (ℕ × Int32)} (h : Written i f ws r r')
    (hpatched : r.Patched) (hf : r.profiles[i]? = some f)
    (hws : ∀ w ∈ ws, w.1 < f.channelMap.size) (hj : r.Synced j) :
    r'.Synced j := by
  obtain ⟨g, hg, hagrees⟩ := hj
  have hi := (List.getElem?_eq_some_iff.mp hf).1
  unfold Synced
  rw [h.profiles, h.shadow]
  by_cases hij : i = j
  · subst hij
    cases hf.symm.trans hg
    exact ⟨_, List.getElem?_set_self hi, hagrees.writes ws⟩
  · refine ⟨g, by rw [List.getElem?_set_ne hij]; exact hg, fun a k ha hk => ?_⟩
    have hlength := (hpatched.mounted g
      (List.mem_of_getElem? hg)).length_dmxVals
    have hsame : Window.Same (Light.base g) g.channelMap.size
        (Window.memory (Light.base f) r.dmx.dmxShadow ws) r.dmx.dmxShadow :=
      Window.same_of_disjoint hws (hpatched.windows hf hg hij)
    rw [hsame a (by omega) (by omega)]
    exact hagrees a k ha hk

/-- Reading the driver into one mirror leaves the others alone. -/
theorem Patched.synced_of_syncs (h : r.Patched)
    (hf : r.profiles[i]? = some f) {x : Run Light Unit}
    (hx : Light.Effect.syncs.Gives ⟨r.dmx, f⟩ (x ⟨r.dmx, f⟩)) :
    ∃ r', callLight i x r = .ok ⟨⟩ r' ∧ r'.Synced i ∧
      ∀ j, r.Synced j → r'.Synced j := by
  have hready := h.ready hf
  have hi := (List.getElem?_eq_some_iff.mp hf).1
  have hself : Window.Agrees (Light.base f)
      (Window.view (Light.base f) f.channelMap.size r.dmx.dmxShadow)
      r.dmx.dmxShadow :=
    Window.agrees_view hready.mounted.base_add_le r.dmx.dmxShadow
  refine ⟨_, hready.callLight_of_syncs hx,
    ⟨_, List.getElem?_set_self hi, hself⟩, fun j hj => ?_⟩
  by_cases hij : i = j
  · subst hij
    exact ⟨_, List.getElem?_set_self hi, hself⟩
  · obtain ⟨g, hg, hagrees⟩ := hj
    exact ⟨g, by rw [List.getElem?_set_ne hij]; exact hg, hagrees⟩

/-- A call on one fixture leaves the mirrors of all fixtures in agreement. -/
theorem preserves_synced {c : FixtureProfile → Prop} {op : Light.Operation}
    (hcalm : Light.Calm c op.run) (i j : ℕ) :
    Preserves (fun r => r.Patched ∧ r.Synced j) (callLight i op.run) := by
  rintro r ⟨hpatched, hj⟩
  have hshows := shows_callLight hcalm i r
  cases hf : r.profiles[i]? with
  | none =>
      rw [callLight_of_getElem?_none hf]
      exact ⟨hpatched, hj⟩
  | some f =>
      have hready := hpatched.ready hf
      have hgives := Light.gives_run (l := ⟨r.dmx, f⟩) hready.mounted
        hready.noFault op
      have hwithin := Light.within_effect hready.mounted op
      cases heffect : op.effect f with
      | rejects e =>
          rw [heffect] at hgives
          rw [hready.callLight_of_rejects hgives]
          exact ⟨hpatched, hj⟩
      | writes ws =>
          rw [heffect] at hgives hwithin
          obtain ⟨r', hrun, hwritten⟩ := hready.callLight_of_writes hgives
          rw [hrun]
          exact ⟨hpatched.of_follows (hshows.of_ok rfl hrun),
            hwritten.synced hpatched hf hwithin hj⟩
      | syncs =>
          rw [heffect] at hgives
          obtain ⟨r', hrun, -, hothers⟩ := hpatched.synced_of_syncs hf hgives
          rw [hrun]
          exact ⟨hpatched.of_follows (hshows.of_ok rfl hrun), hothers j hj⟩

/-- The fixture takes the values of the driver. -/
theorem leads_syncLight (i : ℕ) :
    Leads Patched (callLight i Light.syncLight)
      (fun r => r.Patched ∧ r.Synced i) := by
  intro r hpatched
  have hshows := shows_callLight Light.calm_syncLight i r
  cases hf : r.profiles[i]? with
  | none =>
      rw [callLight_of_getElem?_none hf]
      trivial
  | some f =>
      obtain ⟨r', hrun, hsynced, -⟩ := hpatched.synced_of_syncs hf
        (Light.gives_syncLight (hpatched.ready hf).mounted)
      rw [hrun]
      exact ⟨hpatched.of_follows (hshows.of_ok rfl hrun), hsynced⟩

/-! ## Edits of one channel -/

/-- The address of a channel of the fixture at position `i`. -/
def cell (r : Rig) (channel : ℤ) (i : ℕ) : Set (Fin 513) :=
  {a | ∃ f, r.profiles[i]? = some f ∧ (a : ℤ) = f.address.toInt + channel}

/-- The addresses of a channel of some fixtures. -/
def cells (r : Rig) (channel : ℤ) (lights : List ℕ) : Set (Fin 513) :=
  {a | ∃ i ∈ lights, a ∈ r.cell channel i}

variable {channel : ℤ} {lights : List ℕ}

theorem cells_nil (r : Rig) (channel : ℤ) : r.cells channel [] = ∅ :=
  Set.eq_empty_of_forall_notMem fun _ ⟨_, hi, _⟩ => nomatch hi

theorem cells_cons (r : Rig) (channel : ℤ) (i : ℕ) (lights : List ℕ) :
    r.cells channel (i :: lights) =
      r.cell channel i ∪ r.cells channel lights := by
  ext a
  constructor
  · rintro ⟨j, hj, ha⟩
    rcases List.mem_cons.mp hj with rfl | hj
    · exact Or.inl ha
    · exact Or.inr ⟨j, hj, ha⟩
  · rintro (ha | ⟨j, hj, ha⟩)
    · exact ⟨i, List.mem_cons_self .., ha⟩
    · exact ⟨j, List.mem_cons_of_mem _ hj, ha⟩

/-- The addresses do not depend on the values. -/
theorem Follows.cell (h : r.Follows r') (channel : ℤ) (i : ℕ) :
    r'.cell channel i = r.cell channel i := by
  ext a
  constructor
  · rintro ⟨g, hg, ha⟩
    obtain ⟨f, hf, heq⟩ := exists_getElem?_of_setup h.setup.symm hg
    have haddress : f.address = g.address := congrArg (·.1.address) heq
    exact ⟨f, hf, haddress ▸ ha⟩
  · rintro ⟨f, hf, ha⟩
    obtain ⟨g, hg, heq⟩ := h.getElem? hf
    have haddress : g.address = f.address := congrArg (·.1.address) heq
    exact ⟨g, hg, haddress ▸ ha⟩

theorem Follows.cells (h : r.Follows r') (channel : ℤ) (lights : List ℕ) :
    r'.cells channel lights = r.cells channel lights := by
  unfold Rig.cells
  simp only [h.cell]

/-- The channel is one of the fixture at position `i`. -/
def HasChannel (r : Rig) (channel : ℤ) (i : ℕ) : Prop :=
  ∃ n : ℕ, r.sizes[i]? = some n ∧ 0 ≤ channel ∧ channel < n

/-- Different fixtures have no channel at the same address. -/
theorem Patched.not_mem_cells (h : r.Patched)
    (hchannel : ∀ j ∈ i :: lights, r.HasChannel channel j)
    (hi : i ∉ lights) :
    ∀ a ∈ r.cell channel i, a ∉ r.cells channel lights := by
  have hsize : ∀ j f, j ∈ i :: lights → r.profiles[j]? = some f →
      0 ≤ channel ∧ channel < f.channelMap.size := by
    intro j f hj hf
    obtain ⟨n, hn, hpos, hlt⟩ := hchannel j hj
    rw [sizes, List.getElem?_map, hf] at hn
    cases hn
    exact ⟨hpos, hlt⟩
  rintro a ⟨f, hf, ha⟩ ⟨j, hj, g, hg, ha'⟩
  have hne : i ≠ j := fun heq => hi (heq ▸ hj)
  obtain ⟨hpos, hlt⟩ := hsize i f (List.mem_cons_self ..) hf
  obtain ⟨-, hlt'⟩ := hsize j g (List.mem_cons_of_mem _ hj) hg
  have hone := (h.mounted f (List.mem_of_getElem? hf)).one_le_address
  have hone' := (h.mounted g (List.mem_of_getElem? hg)).one_le_address
  have hwindows := h.windows hf hg hne
  unfold Light.base at hwindows
  omega

/-- The fixture with the channel. -/
theorem HasChannel.exists_fixture (h : r.HasChannel channel i) :
    ∃ f, r.profiles[i]? = some f ∧ 0 ≤ channel ∧
      channel < f.channelMap.size := by
  obtain ⟨n, hn, hpos, hlt⟩ := h
  rw [sizes, List.getElem?_map] at hn
  obtain ⟨f, hf, rfl⟩ := Option.map_eq_some_iff.mp hn
  exact ⟨f, hf, hpos, hlt⟩

theorem Patched.cell_eq (h : r.Patched) (hf : r.profiles[i]? = some f)
    (hpos : 0 ≤ channel) :
    r.cell channel i =
      {a : Fin 513 | (a : ℕ) = Light.base f + channel.toNat} := by
  have hone := (h.mounted f (List.mem_of_getElem? hf)).one_le_address
  ext a
  show (∃ g, r.profiles[i]? = some g ∧ _) ↔ (a : ℕ) = _
  unfold Light.base
  constructor
  · rintro ⟨g, hg, ha⟩
    cases hf.symm.trans hg
    omega
  · intro ha
    exact ⟨f, hf, by omega⟩

/-- The mirror holds the value of the driver for the channel. -/
theorem Synced.getElem?_eq (h : r.Synced i) (hpatched : r.Patched)
    (hf : r.profiles[i]? = some f) (hpos : 0 ≤ channel)
    (hlt : channel < f.channelMap.size) {a : Fin 513}
    (ha : a ∈ r.cell channel i) :
    f.dmxVals[channel.toNat]? = some (r.dmx.dmxShadow a) := by
  obtain ⟨g, hg, hagrees⟩ := h
  cases hf.symm.trans hg
  have hlength := (hpatched.mounted f
    (List.mem_of_getElem? hf)).length_dmxVals
  rw [hpatched.cell_eq hf hpos] at ha
  exact hagrees a channel.toNat ha (by omega)

/-- The second rig is the first one with the values at some addresses changed,
and the mirrors are as much in agreement as before. -/
structure Edited (change : Int32 → Int32) (cells : Set (Fin 513))
    (r r' : Rig) : Prop where
  follows : r.Follows r'
  synced : ∀ j, r.Synced j → r'.Synced j
  changed : Window.Changed change cells r.dmx.dmxShadow r'.dmx.dmxShadow

variable {change : Int32 → Int32} {cells cells' : Set (Fin 513)} {r'' : Rig}

theorem Edited.of_fixed
    (h : ∀ a ∈ cells, change (r.dmx.dmxShadow a) = r.dmx.dmxShadow a) :
    Edited change cells r r :=
  ⟨Follows.refl r, fun _ => id, Window.Changed.of_fixed h⟩

theorem Edited.trans (h : Edited change cells r r')
    (h' : Edited change cells' r' r'') (hnot : ∀ a ∈ cells, a ∉ cells') :
    Edited change (cells ∪ cells') r r'' :=
  ⟨h.follows.trans h'.follows, fun j hj => h'.synced j (h.synced j hj),
    h.changed.trans h'.changed hnot⟩

/-- The changed value is written to the channel. -/
theorem Patched.edited_setChannelManual (h : r.Patched)
    (hc : r.HasChannel channel i) {value : Int32} (hvalue : IsByte value)
    (hchange : ∀ a ∈ r.cell channel i, value = change (r.dmx.dmxShadow a)) :
    ∃ r', callLight i (Light.setChannelManual (Int32.ofInt channel) value) r =
        .ok ⟨⟩ r' ∧ Edited change (r.cell channel i) r r' := by
  obtain ⟨f, hf, hpos, hlt⟩ := hc.exists_fixture
  have hready := h.ready hf
  have hone := hready.mounted.one_le_address
  have hadd := hready.mounted.address_add_le
  have hofInt : (Int32.ofInt channel).toInt = channel := by
    have hint : Int32.size = 2 ^ 32 := rfl
    rw [Int32.toInt_ofInt, hint]
    exact Int.bmod_eq_of_le (by omega) (by omega)
  have hrange : 0 ≤ (Int32.ofInt channel).toInt ∧
      (Int32.ofInt channel).toInt < f.channelMap.size := by
    rw [hofInt]
    exact ⟨hpos, hlt⟩
  obtain ⟨r', hrun, hwritten⟩ := hready.setChannelManual_eq hrange hvalue
  rw [hofInt] at hwritten
  refine ⟨r', hrun, (shows_callLight (Light.calm_setChannelManual _ _) i
    r).of_ok rfl hrun, fun j => hwritten.synced h hf ?_, ?_⟩
  · intro w hw
    rw [List.mem_singleton.mp hw]
    show channel.toNat < _
    omega
  · rw [h.cell_eq hf hpos] at hchange ⊢
    rw [hwritten.shadow]
    exact Window.changed_poke hchange

end Rig

end ChuckLight
