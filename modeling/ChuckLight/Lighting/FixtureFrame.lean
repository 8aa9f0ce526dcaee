import ChuckLight.Lighting.FixtureEffects
import ChuckLight.Lighting.FixtureValid

/-!
# Fixtures and their windows

Whatever is called on a fixture within the universe, its mirror stays in
agreement with the driver, and the driver keeps the values of all other
addresses.  Calls on fixtures that share no address commute.
-/

namespace ChuckLight

open Java

namespace Light

/-- A call of a method that works on the driver; null arguments are `none`. -/
inductive Operation where
  | setDMXVals (dmxValueArray : Option (List Int32))
  | setColor (color : Option Color)
  | setWhite (intensity : Int32)
  | setDimmerValue (dimmerVal : Int32)
  | setChannelManual (channel value : Int32)
  | clearLight
  | syncLight

namespace Operation

def run : Operation → Run Light Unit
  | setDMXVals none => throwNew .nullPointerException
  | setDMXVals (some values) => Light.setDMXVals values
  | setColor none => setNullColor
  | setColor (some color) => Light.setColor color
  | setWhite intensity => Light.setWhite intensity
  | setDimmerValue dimmerVal => Light.setDimmerValue dimmerVal
  | setChannelManual channel value => Light.setChannelManual channel value
  | clearLight => Light.clearLight
  | syncLight => Light.syncLight

/-- What the call does to a fixture. -/
def effect (f : FixtureProfile) : Operation → Effect
  | setDMXVals none => .rejects .nullPointerException
  | setDMXVals (some values) => valuesEffect f values
  | setColor none => nullColorEffect f
  | setColor (some color) => colorEffect f color
  | setWhite intensity => whiteEffect f intensity
  | setDimmerValue dimmerVal => dimmerEffect f dimmerVal
  | setChannelManual channel value => channelEffect f channel value
  | clearLight => clearEffect f
  | syncLight => .syncs

end Operation

variable {l : Light} {f g : FixtureProfile}

/-! ## One call -/

theorem gives_run (h : Mounted l.fixture) (hd : l.dmx.NoFault)
    (op : Operation) : (op.effect l.fixture).Gives l (op.run l) := by
  cases op with
  | setDMXVals values =>
      cases values with
      | none => rfl
      | some values => exact gives_setDMXVals h hd values
  | setColor color =>
      cases color with
      | none => exact gives_setNullColor
      | some color => exact gives_setColor h hd color
  | setWhite intensity => exact gives_setWhite h hd intensity
  | setDimmerValue dimmerVal => exact gives_setDimmerValue h hd dimmerVal
  | setChannelManual channel value =>
      exact gives_setChannelManual h hd channel value
  | clearLight => exact gives_clearLight h hd
  | syncLight => exact gives_syncLight h

/-- What an effect does to the window of the fixture. -/
def Effect.action : Effect → Window.Action Int32
  | rejects _ => .skip
  | writes ws => .writes ws
  | syncs => .syncs

theorem within_channelEffect (f : FixtureProfile) (channel value : Int32) :
    (channelEffect f channel value).action.Within f.channelMap.size := by
  unfold channelEffect
  split_ifs with hrange hvalue
  · intro w hw
    rw [List.mem_singleton.mp hw]
    show channel.toInt.toNat < _
    omega
  · trivial
  · trivial

theorem within_valuesEffect (f : FixtureProfile) (values : List Int32) :
    (valuesEffect f values).action.Within f.channelMap.size := by
  unfold valuesEffect
  split_ifs with hlength hbytes
  · trivial
  · intro w hw
    have hlt := (Window.mem_writesFrom hw).2.1
    omega
  · trivial

theorem within_nullColorEffect (f : FixtureProfile) :
    (nullColorEffect f).action.Within f.channelMap.size := by
  unfold nullColorEffect
  split <;> trivial

theorem within_dimmerEffect (h : Mounted f) (dimmerVal : Int32) :
    (dimmerEffect f dimmerVal).action.Within f.channelMap.size := by
  unfold dimmerEffect
  split_ifs with hbyte
  · cases hdimmer : f.channelMap.lookup "dimmer" with
    | none => trivial
    | some offset =>
        obtain ⟨hlo, hhi⟩ := h.offset _ _ hdimmer
        intro w hw
        rw [List.mem_singleton.mp hw]
        show offset.toInt.toNat < _
        omega
  · trivial

theorem within_colorEffect (h : Mounted f) (color : Color) :
    (colorEffect f color).action.Within f.channelMap.size := by
  unfold colorEffect
  split
  · rename_i red green blue hred hgreen hblue
    obtain ⟨hredLo, hredHi⟩ := h.offset _ _ hred
    obtain ⟨hgreenLo, hgreenHi⟩ := h.offset _ _ hgreen
    obtain ⟨hblueLo, hblueHi⟩ := h.offset _ _ hblue
    intro w hw
    simp only [List.mem_cons, List.not_mem_nil, or_false] at hw
    rcases hw with rfl | rfl | rfl
    · show red.toInt.toNat < _
      omega
    · show green.toInt.toNat < _
      omega
    · show blue.toInt.toNat < _
      omega
  · trivial

theorem within_whiteEffect (h : Mounted f) (intensity : Int32) :
    (whiteEffect f intensity).action.Within f.channelMap.size := by
  unfold whiteEffect
  cases f.channelMap.lookup "white" with
  | some offset => exact within_channelEffect f offset intensity
  | none => exact within_colorEffect h Color.WHITE

/-- A call writes only to the channels of the fixture. -/
theorem within_effect (h : Mounted f) (op : Operation) :
    (op.effect f).action.Within f.channelMap.size := by
  cases op with
  | setDMXVals values =>
      cases values with
      | none => trivial
      | some values => exact within_valuesEffect f values
  | setColor color =>
      cases color with
      | none => exact within_nullColorEffect f
      | some color => exact within_colorEffect h color
  | setWhite intensity => exact within_whiteEffect h intensity
  | setDimmerValue dimmerVal => exact within_dimmerEffect h dimmerVal
  | setChannelManual channel value =>
      exact within_channelEffect f channel value
  | clearLight =>
      intro w hw
      obtain ⟨k, hk, rfl⟩ := List.mem_map.mp hw
      exact List.mem_range.mp hk
  | syncLight => trivial

/-- The effect of a call depends on the channels of the fixture alone. -/
theorem effect_congr (h : g.channelMap = f.channelMap) (op : Operation) :
    op.effect g = op.effect f := by
  cases op with
  | setDMXVals values =>
      cases values with
      | none => rfl
      | some values => simp only [Operation.effect, valuesEffect, h]
  | setColor color =>
      cases color with
      | none =>
          simp only [Operation.effect, nullColorEffect, colorEffect, h]
      | some color => simp only [Operation.effect, colorEffect, h]
  | setWhite intensity =>
      simp only [Operation.effect, whiteEffect, channelEffect, colorEffect, h]
  | setDimmerValue dimmerVal => simp only [Operation.effect, dimmerEffect, h]
  | setChannelManual channel value =>
      simp only [Operation.effect, channelEffect, h]
  | clearLight => simp only [Operation.effect, clearEffect, h]
  | syncLight => rfl

/-! ## Sequences of calls -/

/-- The mirror of the fixture and the shadow of the driver. -/
def panel (l : Light) : List Int32 × (Fin 513 → Int32) :=
  (l.fixture.dmxVals, l.dmx.dmxShadow)

/-- The light is that of the fixture `f` up to the values of the mirror, and
no write of its driver fails. -/
structure Remains (f : FixtureProfile) (l : Light) : Prop where
  kept : Kept f False l
  noFault : l.dmx.NoFault

theorem Remains.refl {dmx : DefaultDMX} (hd : dmx.NoFault) :
    Remains f ⟨dmx, f⟩ :=
  ⟨⟨rfl, rfl, False.elim, False.elim⟩, hd⟩

theorem Remains.mounted (h : Remains f l) (hf : Mounted f) :
    Mounted l.fixture := by
  rw [h.kept.setup]
  exact hf.mirror h.kept.length

theorem remains_of_mirror (h : Remains f l) {dmx : DefaultDMX}
    (hd : dmx.NoFault) {vals : List Int32}
    (hlength : vals.length = l.fixture.dmxVals.length) :
    Remains f ⟨dmx, { l.fixture with dmxVals := vals }⟩ := by
  refine ⟨⟨?_, hlength.trans h.kept.length, False.elim, False.elim⟩, hd⟩
  show ({ l.fixture with dmxVals := vals } : FixtureProfile) = _
  rw [h.kept.setup]

/-- The light after a call, accepted or not. -/
def after (l : Light) (op : Operation) : Light := stateAfter op.run l

/-- The call acts on the window of the fixture and changes nothing else of
it. -/
theorem Remains.after (h : Remains f l) (hf : Mounted f) (op : Operation) :
    Remains f (l.after op) ∧
      (l.after op).panel =
        (op.effect f).action.apply (base f) f.channelMap.size l.panel := by
  have hmounted := h.mounted hf
  have hgives := gives_run hmounted h.noFault op
  have hbase : base l.fixture = base f := by
    unfold base
    rw [h.kept.address_eq]
  rw [effect_congr h.kept.channelMap_eq] at hgives
  unfold Light.after stateAfter
  cases heffect : op.effect f with
  | rejects e =>
      rw [heffect] at hgives
      have hrun : op.run l = .error (.thrown e) l := hgives
      rw [hrun]
      exact ⟨h, rfl⟩
  | writes ws =>
      rw [heffect] at hgives
      obtain ⟨⟨dmx, f'⟩, hrun, hfixture, hshadow, hfault⟩ := hgives
      cases hfixture
      rw [hbase] at hshadow
      rw [hrun]
      exact ⟨remains_of_mirror h hfault (Window.length_mirror _ _),
        Prod.ext rfl hshadow⟩
  | syncs =>
      rw [heffect] at hgives
      have hrun : op.run l = .ok ⟨⟩
          ⟨l.dmx, mirrorOf l.fixture (List.ofFn l.dmx.dmxShadow)⟩ := hgives
      have hview : Window.view (base l.fixture) l.fixture.channelMap.size
          l.dmx.dmxShadow =
            Window.view (base f) f.channelMap.size l.dmx.dmxShadow := by
        rw [hbase, h.kept.channelMap_eq]
      rw [hmounted.mirrorOf_eq, hview] at hrun
      have hlength : (Window.view (base f) f.channelMap.size
          l.dmx.dmxShadow).length = l.fixture.dmxVals.length := by
        rw [Window.length_view hf.base_add_le, h.kept.length,
          hf.length_dmxVals]
      rw [hrun]
      exact ⟨remains_of_mirror h h.noFault hlength, rfl⟩

/-- The light after some calls. -/
def afterAll (l : Light) (ops : List Operation) : Light :=
  ops.foldl Light.after l

/-- What the calls do to the window of the fixture. -/
def actions (f : FixtureProfile) (ops : List Operation) :
    List (Window.Action Int32) :=
  ops.map fun op => (op.effect f).action

theorem within_actions (hf : Mounted f) (ops : List Operation) :
    ∀ action ∈ actions f ops, action.Within f.channelMap.size := by
  intro action haction
  obtain ⟨op, -, rfl⟩ := List.mem_map.mp haction
  exact within_effect hf op

theorem Remains.afterAll (h : Remains f l) (hf : Mounted f)
    (ops : List Operation) :
    Remains f (l.afterAll ops) ∧
      (l.afterAll ops).panel =
        Window.applyAll (base f) f.channelMap.size (actions f ops)
          l.panel := by
  induction ops generalizing l with
  | nil => exact ⟨h, rfl⟩
  | cons op ops ih =>
      obtain ⟨hafter, hpanel⟩ := h.after hf op
      obtain ⟨hall, hwindow⟩ := ih hafter
      rw [hpanel] at hwindow
      exact ⟨hall, hwindow⟩

/-! ## Agreement, frame and commutation -/

/-- The mirror of the fixture holds the values of the driver. -/
def InAgreement (l : Light) : Prop :=
  Window.Agrees (base l.fixture) l.fixture.dmxVals l.dmx.dmxShadow

/-- The address is one of the fixture. -/
def Occupies (f : FixtureProfile) (a : Fin 513) : Prop :=
  f.address.toInt ≤ a ∧ a < f.address.toInt + f.channelMap.size

/-- The fixtures share no address. -/
def Apart (f g : FixtureProfile) : Prop :=
  f.address.toInt + f.channelMap.size ≤ g.address.toInt ∨
    g.address.toInt + g.channelMap.size ≤ f.address.toInt

/-- A call that fails changes nothing. -/
theorem eq_of_run_eq_error (h : Mounted l.fixture) (hd : l.dmx.NoFault)
    {op : Operation} {e : Abrupt} {l' : Light}
    (herror : op.run l = .error e l') : l' = l := by
  have hgives := gives_run h hd op
  rw [herror] at hgives
  cases heffect : op.effect l.fixture with
  | rejects e' =>
      rw [heffect] at hgives
      cases hgives
      rfl
  | writes ws =>
      rw [heffect] at hgives
      obtain ⟨_, hrun, -⟩ := hgives
      cases hrun
  | syncs =>
      rw [heffect] at hgives
      cases hgives

/-- `setColor` leaves the driver with the values that three single writes leave
it with. -/
def WritesSingly (l : Light) (color : Color) : Prop :=
  ∀ red green blue, l.fixture.channelMap.lookup "red" = some red →
    l.fixture.channelMap.lookup "green" = some green →
    l.fixture.channelMap.lookup "blue" = some blue →
      ∃ l' d', setColor color l = .ok ⟨⟩ l' ∧
        (do
          DefaultDMX.setDMX (l.fixture.address + red) [color.getRed]
          DefaultDMX.setDMX (l.fixture.address + green) [color.getGreen]
          DefaultDMX.setDMX (l.fixture.address + blue) [color.getBlue] :
            Run DefaultDMX Unit) l.dmx = .ok ⟨⟩ d' ∧
        l'.dmx.dmxShadow = d'.dmxShadow

theorem writesSingly (h : Mounted l.fixture) (hd : l.dmx.NoFault)
    (color : Color) : WritesSingly l color := by
  intro red green blue hred hgreen hblue
  have hgives := gives_setColor h hd color
  unfold colorEffect at hgives
  rw [hred, hgreen, hblue] at hgives
  obtain ⟨l', hrun, hwritten⟩ := hgives
  obtain ⟨d₁, d₂, d₃, hwrite₁, hwrite₂, hwrite₃, hshadow, -⟩ :=
    h.setDMX_three hd color (h.offsets hred hgreen hblue)
  exact ⟨l', d₃, hrun,
    (bind_of_ok hwrite₁).trans ((bind_of_ok hwrite₂).trans hwrite₃),
    hwritten.shadow.trans hshadow.symm⟩

theorem Apart.bases (h : Apart f g) (hf : Mounted f) (hg : Mounted g) :
    base f + f.channelMap.size ≤ base g ∨
      base g + g.channelMap.size ≤ base f := by
  have hone := hf.one_le_address
  have hone' := hg.one_le_address
  unfold Apart at h
  unfold base
  omega

theorem Remains.ext {l₁ l₂ : Light} (h₁ : Remains f l₁) (h₂ : Remains f l₂)
    (hvals : l₁.fixture.dmxVals = l₂.fixture.dmxVals) :
    l₁.fixture = l₂.fixture := by
  rw [h₁.kept.setup, h₂.kept.setup, hvals]

/-- Either order of the calls leaves the fixtures and the values of the driver
the same. -/
structure Commute (dmx : DefaultDMX) (f g : FixtureProfile)
    (ops ops' : List Operation) : Prop where
  first : (afterAll ⟨dmx, f⟩ ops).fixture =
    (afterAll ⟨(afterAll ⟨dmx, g⟩ ops').dmx, f⟩ ops).fixture
  second : (afterAll ⟨(afterAll ⟨dmx, f⟩ ops).dmx, g⟩ ops').fixture =
    (afterAll ⟨dmx, g⟩ ops').fixture
  shadow : (afterAll ⟨(afterAll ⟨dmx, f⟩ ops).dmx, g⟩ ops').dmx.dmxShadow =
    (afterAll ⟨(afterAll ⟨dmx, g⟩ ops').dmx, f⟩ ops).dmx.dmxShadow

theorem commute_of_apart {dmx : DefaultDMX} (hd : dmx.NoFault)
    (hf : Mounted f) (hg : Mounted g) (h : Apart f g)
    (ops ops' : List Operation) : Commute dmx f g ops ops' := by
  obtain ⟨hf₁, hpanel₁⟩ := (Remains.refl hd).afterAll hf ops
  obtain ⟨hg₁, hpanel₁'⟩ := (Remains.refl hd).afterAll hg ops'
  obtain ⟨hg₂, hpanel₂⟩ := (Remains.refl hf₁.noFault).afterAll hg ops'
  obtain ⟨hf₂, hpanel₂'⟩ := (Remains.refl hg₁.noFault).afterAll hf ops
  have hcomm := Window.applyAll_comm (within_actions hf ops)
    (within_actions hg ops') (h.bases hf hg) f.dmxVals g.dmxVals
    dmx.dmxShadow
  have hshadow₁ := congrArg Prod.snd hpanel₁
  have hshadow₁' := congrArg Prod.snd hpanel₁'
  obtain ⟨hmirror, hmirror', hmemory⟩ := hcomm
  refine ⟨hf₁.ext hf₂ ?_, hg₂.ext hg₁ ?_, ?_⟩
  · refine (congrArg Prod.fst hpanel₁).trans (hmirror.trans ?_)
    refine Eq.trans ?_ (congrArg Prod.fst hpanel₂').symm
    exact congrArg (fun m => (Window.applyAll (base f) f.channelMap.size
      (actions f ops) (f.dmxVals, m)).1) hshadow₁'.symm
  · refine (congrArg Prod.fst hpanel₂).trans (Eq.trans ?_ (hmirror'.trans
      (congrArg Prod.fst hpanel₁').symm))
    exact congrArg (fun m => (Window.applyAll (base g) g.channelMap.size
      (actions g ops') (g.dmxVals, m)).1) hshadow₁
  · refine (congrArg Prod.snd hpanel₂).trans (Eq.trans ?_ (hmemory.trans
      (Eq.trans ?_ (congrArg Prod.snd hpanel₂').symm)))
    · exact congrArg (fun m => (Window.applyAll (base g) g.channelMap.size
        (actions g ops') (g.dmxVals, m)).2) hshadow₁
    · exact congrArg (fun m => (Window.applyAll (base f) f.channelMap.size
        (actions f ops) (f.dmxVals, m)).2) hshadow₁'.symm

/-- The mirror of a fixture stays in agreement with the driver, and nothing
outside its addresses changes, through any calls; a call that is rejected
changes nothing, the fast path of `setColor` is one in speed alone, and calls
on fixtures that share no address commute. -/
theorem mirror_and_frame {dmx : DefaultDMX} (hd : dmx.NoFault)
    (hf : Mounted f) (ops : List Operation) :
    (InAgreement ⟨dmx, f⟩ → InAgreement (afterAll ⟨dmx, f⟩ ops)) ∧
      (∀ a, ¬ Occupies f a →
        (afterAll ⟨dmx, f⟩ ops).dmx.dmxShadow a = dmx.dmxShadow a) ∧
      (∀ op e l', Operation.run op (afterAll ⟨dmx, f⟩ ops) = .error e l' →
        l' = afterAll ⟨dmx, f⟩ ops) ∧
      (∀ color, WritesSingly (afterAll ⟨dmx, f⟩ ops) color) ∧
      ∀ g ops', Mounted g → Apart f g → Commute dmx f g ops ops' := by
  obtain ⟨hremains, hpanel⟩ := (Remains.refl hd).afterAll hf ops
  have hmounted := hremains.mounted hf
  have hvals : (afterAll ⟨dmx, f⟩ ops).fixture.dmxVals = _ :=
    congrArg Prod.fst hpanel
  have hshadow : (afterAll ⟨dmx, f⟩ ops).dmx.dmxShadow = _ :=
    congrArg Prod.snd hpanel
  refine ⟨fun hagree => ?_, fun a ha => ?_, fun op e l' herror =>
    eq_of_run_eq_error hmounted hremains.noFault herror, fun color =>
      writesSingly hmounted hremains.noFault color, fun g ops' hg hapart =>
        commute_of_apart hd hf hg hapart ops ops'⟩
  · have hbase : base (afterAll ⟨dmx, f⟩ ops).fixture = base f := by
      unfold base
      rw [hremains.kept.address_eq]
    unfold InAgreement
    rw [hbase, hvals, hshadow]
    exact Window.agrees_applyAll hf.base_add_le _ hagree
  · have hone := hf.one_le_address
    have houtside : (a : ℕ) < base f ∨ base f + f.channelMap.size ≤ a := by
      unfold Occupies at ha
      unfold base
      omega
    exact (congrFun hshadow a).trans
      (Window.applyAll_outside (within_actions hf ops) houtside)

end Light

/-- A valid fixture with a driver is mounted. -/
theorem FixtureProfile.Valid.mounted {f : FixtureProfile}
    (h : FixtureProfile.Valid f) (hdriver : f.dmxDriver ≠ none) :
    Light.Mounted f := by
  have hle := h.address_le
  refine ⟨hdriver, h.one_le_address, by omega, fun s o ho => ?_,
    h.length_dmxVals⟩
  obtain ⟨names, -, hlength, hlookup⟩ := h.offsets
  obtain ⟨k, hk, hoffset⟩ := (hlookup s o).mp ho
  have hlt := (List.getElem?_eq_some_iff.mp hk).1
  omega

namespace Light

open FixtureProfile

theorem mounted_lastPair : Mounted lastPair := by
  have hvalid : Valid lastPair :=
    (Origin.valid_iff (o := .constructor (some ()) (some ⟨"par", true⟩) 511
      (some [some "red", some "dimmer"])) (by rfl)).mpr
        ⟨by decide, by decide⟩
  exact hvalid.mounted (by decide)

/-- A write, a dimmer value out of range and a reading. -/
def threeCalls : List Operation :=
  [.setChannelManual 0 7, .setDimmerValue 300, .syncLight]

theorem mirror_and_frame_threeCalls :
    (InAgreement ⟨newDriver, lastPair⟩ →
        InAgreement (afterAll ⟨newDriver, lastPair⟩ threeCalls)) ∧
      (∀ a, ¬ Occupies lastPair a →
        (afterAll ⟨newDriver, lastPair⟩ threeCalls).dmx.dmxShadow a =
          newDriver.dmxShadow a) ∧
      (∀ op e l', Operation.run op
          (afterAll ⟨newDriver, lastPair⟩ threeCalls) = .error e l' →
        l' = afterAll ⟨newDriver, lastPair⟩ threeCalls) ∧
      (∀ color,
        WritesSingly (afterAll ⟨newDriver, lastPair⟩ threeCalls) color) ∧
      ∀ g ops', Mounted g → Apart lastPair g →
        Commute newDriver lastPair g threeCalls ops' :=
  have hd : newDriver.NoFault := rfl
  mirror_and_frame hd mounted_lastPair threeCalls

end Light

end ChuckLight
