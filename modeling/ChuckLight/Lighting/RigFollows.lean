import ChuckLight.Dmx.Calls
import ChuckLight.Lighting.FixtureKeeps
import ChuckLight.Lighting.Rig

/-!
# What lights leave alone

Showing something on a light changes the mirror of its fixture and the driver.
It changes nothing else of the fixtures, brings only bytes into the mirrors and
the shadow, and causes no fault.
-/

namespace ChuckLight

open Java

/-! ## Faults -/

namespace DefaultDMX

/-- Without faults the method causes none, and throws no `IOException`. -/
def Quiet {α : Type} (x : Run DefaultDMX α) : Prop :=
  Triple NoFault x (fun _ => NoFault)
    (fun e d => NoFault d ∧ ¬ e.IsIOException)

theorem Quiet.preserves {α : Type} {x : Run DefaultDMX α} (h : Quiet x) :
    Preserves NoFault x :=
  h.conseq (fun _ hd => hd) (fun _ _ hd => hd) fun _ _ hd => hd.1

theorem quiet_throwNew {α : Type} {e : Throwable}
    (h : ∀ message, e ≠ .ioException message) :
    Quiet (throwNew e : Run DefaultDMX α) := by
  refine Triple.throw fun _ hd => ⟨hd, ?_⟩
  rintro ⟨message, heq⟩
  exact h message (Abrupt.thrown.inj heq)

theorem quiet_arrayGet {α : Type} (xs : List α) (i : ℕ) :
    Quiet (arrayGet xs i) := by
  unfold arrayGet
  cases xs[i]? with
  | some x => exact Triple.pure fun _ hd => hd
  | none => exact quiet_throwNew fun _ => nofun

theorem quiet_writeReg (reg : SysFile) (val : Int32) :
    Quiet (writeReg reg val) := by
  intro d hd
  rw [writeReg_of_noFault hd]
  exact hd.record _

theorem quiet_storeShadow (index value : Int32) :
    Quiet (storeShadow index value) := by
  unfold storeShadow
  split_ifs
  · exact Triple.modify fun _ hd => hd
  · exact quiet_throwNew fun _ => nofun

theorem quiet_packLoop (address : Int32) (values : List Int32) (i : ℕ)
    (dataVal : Int32) : Quiet (packLoop address i dataVal values) := by
  induction values generalizing i dataVal with
  | nil => exact Triple.pure fun _ hd => hd
  | cons v vs ih => exact (quiet_storeShadow _ _).bind fun _ => ih _ _

theorem quiet_setDMX (address : Int32) (values : List Int32) :
    Quiet (setDMX address values) := by
  intro d hd
  by_cases hchecked : Checked address values
  · rw [hchecked.setDMX_eq]
    exact ((quiet_packLoop address values 0 0).bind fun _ =>
      (quiet_writeReg _ _).bind fun _ => (quiet_writeReg _ _).bind
        fun _ => (quiet_writeReg _ _).bind fun _ =>
          quiet_writeReg _ _) d hd
  · obtain ⟨message, herror⟩ := setDMX_of_not_checked hchecked d
    rw [herror]
    refine ⟨hd, ?_⟩
    rintro ⟨message', heq⟩
    cases heq

theorem quiet_setAllDMX (values : List Int32) : Quiet (setAllDMX values) := by
  refine Triple.ite (fun _ => quiet_throwNew fun _ => nofun) fun _ => ?_
  refine Triple.forM fun i _ => ?_
  exact (quiet_arrayGet _ _).bind fun _ => (quiet_arrayGet _ _).bind
    fun _ => (quiet_arrayGet _ _).bind fun _ =>
      (quiet_arrayGet _ _).bind fun _ => quiet_setDMX _ _

theorem quiet_clearDMX : Quiet clearDMX :=
  Triple.forM fun _ _ => quiet_setDMX _ _

theorem quiet_getDmx : Quiet getDmx :=
  Triple.get_bind fun _ _ => Triple.pure fun _ hd => hd

end DefaultDMX

namespace Light

open DefaultDMX

/-- No future write of the driver of the light fails. -/
def NoFault (l : Light) : Prop := l.dmx.NoFault

theorem noFault_callDriver {α : Type} {m : Run DefaultDMX α}
    (hm : Preserves DefaultDMX.NoFault m) : Preserves NoFault (callDriver m) :=
  Preserves.get_bind fun _ => Preserves.ite (Preserves.throw _)
    (Triple.zoom hm (fun _ h => h) (fun _ _ _ _ h => h)
      (fun _ _ _ _ h => h))

theorem noFault_setDMX (address : Int32) (values : List Int32) :
    Preserves NoFault (callDriver (setDMX address values)) :=
  noFault_callDriver (quiet_setDMX address values).preserves

theorem noFault_storeMirror (index value : Int32) :
    Preserves NoFault (storeMirror index value) :=
  Preserves.get_bind fun _ => Preserves.ite
    (Preserves.modify fun _ h => h) (Preserves.throw _)

theorem noFault_channelOffset (key : String) :
    Preserves NoFault (channelOffset key) := by
  refine Preserves.get_bind fun l => ?_
  cases l.fixture.channelMap.lookup key with
  | none => exact Preserves.throw _
  | some offset => exact Preserves.pure _

theorem noFault_writeChannel (channel value : Int32) :
    Preserves NoFault (writeChannel channel value) :=
  (noFault_storeMirror _ _).bind fun _ => Preserves.get_bind fun _ =>
    noFault_setDMX _ _

theorem noFault_setDMXVals (values : List Int32) :
    Preserves NoFault (setDMXVals values) :=
  Preserves.get_bind fun _ => Preserves.ite (Preserves.throw _)
    (Preserves.ite (Preserves.throw _) (Preserves.forM fun _ _ =>
      (Preserves.arrayGet _ _).bind fun _ => noFault_writeChannel _ _))

theorem noFault_setChannelManual (channel value : Int32) :
    Preserves NoFault (setChannelManual channel value) :=
  Preserves.get_bind fun _ => Preserves.ite (Preserves.throw _)
    (Preserves.ite (Preserves.throw _) (noFault_writeChannel _ _))

theorem noFault_setColor (color : Color) :
    Preserves NoFault (setColor color) := by
  refine Preserves.get_bind fun _ => Preserves.ite (Preserves.throw _) ?_
  refine (noFault_channelOffset _).bind fun _ =>
    (noFault_channelOffset _).bind fun _ =>
      (noFault_channelOffset _).bind fun _ => ?_
  refine (noFault_storeMirror _ _).bind fun _ =>
    (noFault_storeMirror _ _).bind fun _ =>
      (noFault_storeMirror _ _).bind fun _ => Preserves.get_bind fun _ => ?_
  exact Preserves.ite (noFault_setDMX _ _) ((noFault_setDMX _ _).bind fun _ =>
    (noFault_setDMX _ _).bind fun _ => noFault_setDMX _ _)

theorem noFault_setWhite (intensity : Int32) :
    Preserves NoFault (setWhite intensity) := by
  refine Preserves.get_bind fun l => ?_
  cases l.fixture.channelMap.lookup "white" with
  | none => exact noFault_setColor _
  | some offset => exact noFault_setChannelManual _ _

theorem noFault_setDimmerValue (dimmerVal : Int32) :
    Preserves NoFault (setDimmerValue dimmerVal) :=
  Preserves.ite (Preserves.throw _) ((noFault_channelOffset _).bind fun _ =>
    noFault_writeChannel _ _)

theorem noFault_syncLight : Preserves NoFault syncLight :=
  (noFault_callDriver quiet_getDmx.preserves).bind fun _ => Preserves.get_bind
    fun _ => Preserves.ite (Preserves.modify fun _ h => h)
      (Preserves.throw _)

/-- `syncLight` only reads from the driver. -/
theorem dmx_syncLight (d : DefaultDMX) :
    Preserves (fun l => l.dmx = d) syncLight := by
  refine Preserves.bind ?_ fun _ => Preserves.get_bind fun _ =>
    Preserves.ite (Preserves.modify fun _ h => h) (Preserves.throw _)
  exact Preserves.get_bind fun _ => Preserves.ite (Preserves.throw _)
    fun _ h => h

theorem noFault_clearLight : Preserves NoFault clearLight :=
  Preserves.get_bind fun _ => Preserves.forM fun _ _ =>
    noFault_setChannelManual _ _

theorem noFault_hasColor : Preserves NoFault hasColor := by
  refine Preserves.get_bind fun l => Preserves.anyM fun color _ => ?_
  cases l.fixture.channelMap.lookup color with
  | none => exact Preserves.pure _
  | some offset =>
      exact Preserves.ite ((Preserves.arrayGet _ _).bind fun _ =>
        Preserves.pure _) (Preserves.throw _)

/-! ## Methods of fixtures -/

/-- The method changes only the mirror and the driver, and on a fixture in `c`
it fails only with an `IOException`. -/
structure Calm {α : Type} (c : FixtureProfile → Prop) (x : Run Light α) :
    Prop where
  keeps : ∀ f bytes, Keeps f bytes (c f) x
  noFault : Preserves NoFault x

theorem calm_setColor (color : Color) : Calm Usable (setColor color) :=
  ⟨fun _ _ => keeps_setColor id, noFault_setColor color⟩

theorem calm_setWhite (intensity : Int32) :
    Calm (fun f => Usable f ∧ IsByte intensity) (setWhite intensity) :=
  ⟨fun _ _ => keeps_setWhite id, noFault_setWhite intensity⟩

theorem calm_setDimmerValue (dimmerVal : Int32) :
    Calm (fun f => Mounted f ∧ (f.channelMap.lookup "dimmer").isSome ∧
      IsByte dimmerVal) (setDimmerValue dimmerVal) :=
  ⟨fun _ _ => keeps_setDimmerValue id, noFault_setDimmerValue dimmerVal⟩

theorem calm_setDMXVals (values : List Int32) :
    Calm (fun f => Mounted f ∧ values.length = f.dmxVals.length ∧
      ∀ v ∈ values, IsByte v) (setDMXVals values) :=
  ⟨fun _ _ => keeps_setDMXVals id, noFault_setDMXVals values⟩

theorem calm_setChannelManual (channel value : Int32) :
    Calm (fun f => Mounted f ∧ 0 ≤ channel.toInt ∧
      channel.toInt < f.channelMap.size ∧ IsByte value)
      (setChannelManual channel value) :=
  ⟨fun _ _ => keeps_setChannelManual id, noFault_setChannelManual _ _⟩

theorem calm_clearLight : Calm Mounted clearLight :=
  ⟨fun _ _ => keeps_clearLight id, noFault_clearLight⟩

theorem calm_syncLight : Calm Mounted syncLight :=
  ⟨fun _ _ => keeps_syncLight id, noFault_syncLight⟩

theorem calm_hasColor : Calm Mounted hasColor :=
  ⟨fun _ _ => keeps_hasColor id, noFault_hasColor⟩

end Light

/-! ## The rig -/

/-- All of a fixture but the values of its mirror. -/
def FixtureProfile.setup (f : FixtureProfile) : FixtureProfile × ℕ :=
  ({ f with dmxVals := [] }, f.dmxVals.length)

namespace Rig

/-- The mirrors and the shadow hold bytes. -/
structure Bytes (r : Rig) : Prop where
  mirror : ∀ f ∈ r.profiles, ∀ v ∈ f.dmxVals, IsByte v
  shadow : ∀ a, IsByte (r.dmx.dmxShadow a)

/-- The lights of the second rig may show something else. -/
structure Follows (r r' : Rig) : Prop where
  setup : r'.profiles.map FixtureProfile.setup =
    r.profiles.map FixtureProfile.setup
  bytes : r.Bytes → r'.Bytes
  noFault : r.dmx.NoFault → r'.dmx.NoFault

variable {r r' r'' : Rig} {α β : Type}

theorem Follows.refl (r : Rig) : r.Follows r := ⟨rfl, id, id⟩

theorem Follows.trans (h : r.Follows r') (h' : r'.Follows r'') :
    r.Follows r'' :=
  ⟨h'.setup.trans h.setup, fun hr => h'.bytes (h.bytes hr),
    fun hr => h'.noFault (h.noFault hr)⟩

/-- What can be read off the setup of the fixtures. -/
theorem Follows.map_eq (h : r.Follows r') (g : FixtureProfile × ℕ → β) :
    (r'.profiles.map fun f => g f.setup) =
      r.profiles.map fun f => g f.setup := by
  have hmap := congrArg (List.map g) h.setup
  rw [List.map_map, List.map_map] at hmap
  exact hmap

theorem exists_getElem?_of_setup (h : r'.profiles.map FixtureProfile.setup =
      r.profiles.map FixtureProfile.setup)
    {i : ℕ} {f : FixtureProfile} (hf : r.profiles[i]? = some f) :
    ∃ g, r'.profiles[i]? = some g ∧ g.setup = f.setup := by
  have hsetup : (r'.profiles.map FixtureProfile.setup)[i]? = some f.setup := by
    rw [h, List.getElem?_map, hf]
    rfl
  rw [List.getElem?_map] at hsetup
  exact Option.map_eq_some_iff.mp hsetup

theorem Follows.getElem? (h : r.Follows r') {i : ℕ} {f : FixtureProfile}
    (hf : r.profiles[i]? = some f) :
    ∃ g, r'.profiles[i]? = some g ∧ g.setup = f.setup :=
  exists_getElem?_of_setup h.setup hf

/-- The numbers of channels of the fixtures. -/
def sizes (r : Rig) : List ℕ := r.profiles.map fun f => f.channelMap.size

@[simp]
theorem length_sizes (r : Rig) : r.sizes.length = r.profiles.length :=
  List.length_map _

theorem length_of_sizes (h : r'.sizes = r.sizes) :
    r'.profiles.length = r.profiles.length := by
  rw [← r'.length_sizes, h, r.length_sizes]

theorem Follows.sizes (h : r.Follows r') : r'.sizes = r.sizes :=
  h.map_eq fun x => x.1.channelMap.size

/-- The method only shows something, and under `c` it fails only with an
`IOException`. -/
def Shows (c : Rig → Prop) (x : Run Rig α) : Prop :=
  ∀ r, Triple (fun r' => r' = r) x (fun _ => r.Follows)
    (fun e r' => r.Follows r' ∧ (c r → e.IsIOException))

/-- A change of one element that `g` does not see. -/
theorem map_set_of_eq {g : α → β} {x y : α} {i : ℕ} {xs : List α}
    (hx : xs[i]? = some x) (hg : g y = g x) :
    (xs.set i y).map g = xs.map g := by
  obtain ⟨hi, rfl⟩ := List.getElem?_eq_some_iff.mp hx
  rw [List.map_set, hg, ← List.getElem_map g]
  · exact List.set_getElem_self _
  · rw [List.length_map]
    exact hi

theorem follows_of_kept {f : FixtureProfile} {l : Light} {i : ℕ}
    (hf : r.profiles[i]? = some f) (h : Light.Kept f r.Bytes l)
    (hfault : r.dmx.NoFault → l.NoFault) :
    r.Follows ⟨l.dmx, r.profiles.set i l.fixture⟩ := by
  refine ⟨map_set_of_eq hf ?_, fun hr => ⟨fun g hg => ?_, h.shadow hr⟩, hfault⟩
  · have hsetup := h.setup
    unfold FixtureProfile.setup
    rw [h.length, hsetup]
  · rcases List.mem_or_eq_of_mem_set hg with hg | rfl
    · exact hr.mirror g hg
    · exact h.mirror hr

theorem shows_callLight {c : FixtureProfile → Prop} {x : Run Light α}
    (hx : Light.Calm c x) (i : ℕ) :
    Shows (fun r => ∃ f, r.profiles[i]? = some f ∧ c f) (callLight i x) := by
  rintro _ r rfl
  unfold callLight
  cases hf : r.profiles[i]? with
  | none =>
      dsimp only
      refine ⟨Follows.refl r, ?_⟩
      rintro ⟨f, hsome, -⟩
      cases hf.symm.trans hsome
  | some f =>
      have hkept : Light.Kept f r.Bytes ⟨r.dmx, f⟩ :=
        ⟨rfl, rfl, fun hr => hr.mirror f (List.mem_of_getElem? hf),
          fun hr => hr.shadow⟩
      have hfault : r.dmx.NoFault → Light.NoFault ⟨r.dmx, f⟩ := id
      dsimp only
      cases hrun : x ⟨r.dmx, f⟩ with
      | ok a l =>
          exact follows_of_kept hf ((hx.keeps f r.Bytes).of_ok hkept hrun)
            fun hr => hx.noFault.of_ok (hfault hr) hrun
      | error e l =>
          obtain ⟨hl, he⟩ := (hx.keeps f r.Bytes).of_error hkept hrun
          refine ⟨follows_of_kept hf hl fun hr =>
            hx.noFault.of_error (hfault hr) hrun, ?_⟩
          rintro ⟨g, hg, hc⟩
          exact he (Option.some.inj (hg.symm.trans hf) ▸ hc)

/-- What a method of a light keeps of the driver. -/
theorem preserves_callLight_dmx {J : DefaultDMX → Prop} {x : Run Light α}
    (hx : Preserves (fun l => J l.dmx) x) (i : ℕ) :
    Preserves (fun r => J r.dmx) (callLight i x) := by
  intro r h
  unfold callLight
  cases r.profiles[i]? with
  | none => exact h
  | some f =>
      have hstart : J (Light.mk r.dmx f).dmx := h
      dsimp only
      cases hrun : x ⟨r.dmx, f⟩ with
      | ok a l => exact hx.of_ok hstart hrun
      | error e l => exact hx.of_error hstart hrun

theorem shows_callDmx {c : Prop} {m : Run DefaultDMX α}
    (hm : ∀ bytes : Prop,
      Triple (fun d => bytes → ∀ a, IsByte (d.dmxShadow a)) m
        (fun _ d => bytes → ∀ a, IsByte (d.dmxShadow a))
        (fun e d => (bytes → ∀ a, IsByte (d.dmxShadow a)) ∧
          (c → e.IsIOException)))
    (hfault : Preserves DefaultDMX.NoFault m) :
    Shows (fun _ => c) (callDmx m) := by
  rintro _ r rfl
  have hshadow : r.Bytes → ∀ a, IsByte (r.dmx.dmxShadow a) :=
    fun hr => hr.shadow
  unfold callDmx Java.zoom
  cases hrun : m r.dmx with
  | ok a dmx =>
      have hbytes := (hm r.Bytes).of_ok hshadow hrun
      exact ⟨rfl, fun hr => ⟨hr.mirror, hbytes hr⟩,
        fun hr => hfault.of_ok hr hrun⟩
  | error e dmx =>
      obtain ⟨hbytes, he⟩ := (hm r.Bytes).of_error hshadow hrun
      exact ⟨⟨rfl, fun hr => ⟨hr.mirror, hbytes hr⟩,
        fun hr => hfault.of_error hr hrun⟩, he⟩

theorem shows_setAllDMX (values : List Int32) :
    Shows (fun _ => values.length = 513 ∧ ∀ v ∈ values.tail, IsByte v)
      (callDmx (DefaultDMX.setAllDMX values)) := by
  refine shows_callDmx (fun bytes => ?_)
    (DefaultDMX.quiet_setAllDMX values).preserves
  by_cases hlength : values.length = 513
  · rw [DefaultDMX.setAllDMX_eq hlength]
    exact DefaultDMX.runGroups_triple (Light.isByte_update bytes) fun h =>
      (DefaultDMX.accepted_setAllDMX h.1 h.2).groups
  · unfold DefaultDMX.setAllDMX
    rw [if_pos hlength]
    exact Triple.throw fun _ h => ⟨h, fun hc => absurd hc.1 hlength⟩

/-- A scene is refused, or else only an `IOException` is thrown. -/
theorem setAllDMX_failure (values : List Int32) :
    Triple (fun _ => True) (callDmx (DefaultDMX.setAllDMX values))
      (fun _ _ => True)
      (fun e _ => e.IsIOException ∨ e.IsIllegalArgument) :=
  Triple.zoom (DefaultDMX.setAllDMX_failure values) (fun _ _ => trivial)
    (fun _ _ _ _ _ => trivial) fun _ _ _ _ he => he

theorem shows_clearDMX :
    Shows (fun _ => True) (callDmx DefaultDMX.clearDMX) := by
  refine shows_callDmx (fun bytes => ?_) DefaultDMX.quiet_clearDMX.preserves
  rw [DefaultDMX.clearDMX_eq]
  exact DefaultDMX.runGroups_triple (Light.isByte_update bytes) fun _ =>
    DefaultDMX.accepted_clearDMX.groups

/-! ## Reading -/

/-- A method that reads something off the fixture. -/
theorem callLight_reading {i : ℕ} {f : FixtureProfile}
    (g : FixtureProfile → α) (hf : r.profiles[i]? = some f) :
    callLight i (do return g (← get).fixture) r = .ok (g f) r := by
  obtain ⟨hi, rfl⟩ := List.getElem?_eq_some_iff.mp hf
  unfold callLight
  rw [hf]
  show EStateM.Result.ok _ _ = _
  rw [List.set_getElem_self]

theorem callLight_of_getElem?_none {i : ℕ} (hf : r.profiles[i]? = none)
    (m : Run Light α) :
    callLight i m r = .error (.thrown .nullPointerException) r := by
  unfold callLight
  rw [hf]

theorem fixture_of_getElem? {i : ℕ} {f : FixtureProfile}
    (hf : r.profiles[i]? = some f) : fixture i r = .ok f r :=
  callLight_reading (fun f => f) hf

theorem getDMXVals_of_getElem? {i : ℕ} {f : FixtureProfile}
    (hf : r.profiles[i]? = some f) :
    callLight i Light.getDMXVals r = .ok f.dmxVals r :=
  callLight_reading (fun f => f.dmxVals) hf

theorem getLight_of_lt {index : ℤ} (hpos : 0 ≤ index)
    (hlt : index < r.profiles.length) :
    getLight index r = .ok index.toNat r := by
  unfold getLight
  rw [bind_of_ok (x := get) rfl, if_pos ⟨hpos, hlt⟩]
  rfl

/-- The method changes nothing. -/
def Reads (x : Run Rig α) : Prop := ∀ r, Preserves (fun r' => r' = r) x

theorem reads_getLight (index : ℤ) : Reads (getLight index) := fun _ =>
  Preserves.get_bind fun _ => Preserves.ite (Preserves.pure _)
    (Preserves.throw _)

theorem reads_callLight (i : ℕ) (g : FixtureProfile → α) :
    Reads (callLight i (do return g (← get).fixture)) := by
  rintro _ r rfl
  cases hf : r.profiles[i]? with
  | none =>
      rw [callLight_of_getElem?_none hf]
  | some f =>
      rw [callLight_reading g hf]

theorem reads_fixture (i : ℕ) : Reads (fixture i) :=
  reads_callLight i fun f => f

theorem reads_getDMXVals (i : ℕ) : Reads (callLight i Light.getDMXVals) :=
  reads_callLight i fun f => f.dmxVals

theorem reads_isSelected (i : ℕ) : Reads (isSelected i) := fun r =>
  (reads_fixture i r).bind fun _ => Preserves.pure _

theorem Reads.shows {x : Run Rig α} (h : Reads x) :
    Shows (fun _ => False) x := fun r =>
  (h r).conseq (fun _ hr => hr) (fun _ r' hr => hr ▸ Follows.refl r')
    fun _ r' hr => ⟨hr ▸ Follows.refl r', False.elim⟩

/-! ## Selecting -/

/-- The fixtures of the second rig may be selected differently. -/
structure Marks (r r' : Rig) : Prop where
  dmx : r'.dmx = r.dmx
  profiles : (r'.profiles.map fun f => f.setSelected false) =
    r.profiles.map fun f => f.setSelected false

theorem Marks.refl (r : Rig) : r.Marks r := ⟨rfl, rfl⟩

theorem Marks.trans (h : r.Marks r') (h' : r'.Marks r'') : r.Marks r'' :=
  ⟨h'.dmx.trans h.dmx, h'.profiles.trans h.profiles⟩

theorem Marks.sizes (h : r.Marks r') : r'.sizes = r.sizes := by
  have hmap := congrArg
    (List.map fun f : FixtureProfile => f.channelMap.size) h.profiles
  rw [List.map_map, List.map_map] at hmap
  exact hmap

theorem Marks.exists_mem (h : r.Marks r') {g : FixtureProfile}
    (hg : g ∈ r'.profiles) :
    ∃ f ∈ r.profiles, f.setSelected false = g.setSelected false := by
  have hmem : g.setSelected false ∈
      r.profiles.map fun f => f.setSelected false := by
    rw [← h.profiles]
    exact List.mem_map_of_mem hg
  exact List.mem_map.mp hmem

theorem setSelected_of_getElem? {i : ℕ} {f : FixtureProfile}
    (hf : r.profiles[i]? = some f) (selected : Bool) :
    setSelected i selected r =
      .ok ⟨⟩ { r with
        profiles := r.profiles.set i (f.setSelected selected) } := by
  unfold setSelected callLight
  rw [hf]
  rfl

theorem setSelected_of_getElem?_none {i : ℕ} (hf : r.profiles[i]? = none)
    (selected : Bool) :
    setSelected i selected r = .error (.thrown .nullPointerException) r :=
  callLight_of_getElem?_none hf _

theorem marks_setSelected (i : ℕ) (selected : Bool) :
    Preserves r.Marks (setSelected i selected) := by
  intro r' h
  cases hf : r'.profiles[i]? with
  | none =>
      rw [setSelected_of_getElem?_none hf]
      exact h
  | some f =>
      rw [setSelected_of_getElem? hf]
      exact h.trans ⟨rfl, map_set_of_eq hf rfl⟩

/-- The first `n` rounds of `clearSelected`. -/
theorem forM_setSelected_eq (r : Rig) {n : ℕ} (hn : n ≤ r.profiles.length) :
    (List.range n).forM (fun i => setSelected i false) r =
      .ok ⟨⟩ { r with
        profiles := (r.profiles.take n).map (·.setSelected false) ++
          r.profiles.drop n } := by
  induction n with
  | zero => rfl
  | succ n ih =>
      have hlength : ((r.profiles.take n).map (·.setSelected false)).length =
          n := by
        rw [List.length_map, List.length_take, Nat.min_eq_left (by omega)]
      have hdrop := List.drop_eq_getElem_cons (show n < r.profiles.length by
        omega)
      have hget : ((r.profiles.take n).map (·.setSelected false) ++
          r.profiles.drop n)[n]? = some r.profiles[n] := by
        rw [List.getElem?_append_right (by omega), hlength, Nat.sub_self,
          hdrop]
        rfl
      rw [List.range_succ, List.forM_eq_forM, List.forM_append,
        ← List.forM_eq_forM, bind_of_ok (ih (by omega))]
      refine (bind_of_ok (setSelected_of_getElem? hget false)).trans ?_
      show EStateM.Result.ok _ _ = EStateM.Result.ok _ _
      congr 2
      rw [List.set_append_right _ _ (by omega), hlength, Nat.sub_self, hdrop,
        List.set_cons_zero, ← List.take_concat_get' r.profiles n (by omega),
        List.map_append, List.append_assoc]
      rfl

theorem clearSelected_eq (r : Rig) :
    clearSelected r = .ok ⟨⟩ { r with
      profiles := r.profiles.map (·.setSelected false) } := by
  have hall := forM_setSelected_eq r (Nat.le_refl _)
  rw [List.take_length, List.drop_length, List.append_nil] at hall
  exact hall

theorem marks_clearSelected : Preserves r.Marks clearSelected :=
  Preserves.get_bind fun _ => Preserves.forM fun i _ => marks_setSelected i _

end Rig

end ChuckLight
