import ChuckLight.Lighting.FixtureKeeps
import ChuckLight.Support.Window

/-!
# What fixture methods do

A fixture within the universe is a window on the shadow of its driver, with
`dmxVals` as the mirror.  Without faults a method rejects its arguments and
changes nothing, or writes some values at offsets of the window, or copies the
window into the mirror.  Which of these it does depends on the channels of the
fixture and on the arguments alone.
-/

namespace ChuckLight

open Java

namespace Light

/-- The first address of a fixture. -/
def base (f : FixtureProfile) : ℕ := f.address.toInt.toNat

theorem Mounted.base_add_le {f : FixtureProfile} (h : Mounted f) :
    base f + f.channelMap.size ≤ 513 := by
  have hone := h.one_le_address
  have hadd := h.address_add_le
  unfold base
  omega

/-! ## Writes -/

/-- The second light is the first one after some writes. -/
structure Written (ws : List (ℕ × Int32)) (l l' : Light) : Prop where
  fixture : l'.fixture =
    { l.fixture with dmxVals := Window.mirror l.fixture.dmxVals ws }
  shadow : l'.dmx.dmxShadow =
    Window.memory (base l.fixture) l.dmx.dmxShadow ws
  noFault : l'.dmx.NoFault

variable {l l' l'' : Light} {ws ws' : List (ℕ × Int32)}

theorem Written.nil (h : l.dmx.NoFault) : Written [] l l := ⟨rfl, rfl, h⟩

theorem Written.trans (h : Written ws l l') (h' : Written ws' l' l'') :
    Written (ws ++ ws') l l'' := by
  refine ⟨?_, ?_, h'.noFault⟩
  · rw [h'.fixture, h.fixture, Window.mirror_append]
  · rw [h'.shadow, h.shadow, Window.memory_append, h.fixture]
    rfl

theorem Written.mounted (h : Written ws l l') (hl : Mounted l.fixture) :
    Mounted l'.fixture := by
  rw [h.fixture]
  exact hl.mirror (Window.length_mirror _ _)

/-- The method returns after some writes. -/
def Writes (ws : List (ℕ × Int32)) (x : Run Light Unit) (l : Light) : Prop :=
  ∃ l', x l = .ok ⟨⟩ l' ∧ Written ws l l'

/-- Values stored in the shadow from an offset of a window on. -/
theorem storeValues_eq (base offset : ℕ) (values : List Int32)
    (shadow : Fin 513 → Int32) :
    DefaultDMX.storeValues (base + offset) values shadow =
      Window.memory base shadow (Window.writesFrom offset values) := by
  induction values generalizing offset shadow with
  | nil =>
      funext a
      have hnone : DefaultDMX.covered (base + offset) [] a = none :=
        DefaultDMX.covered_eq_none (by rw [List.length_nil]; omega)
      unfold DefaultDMX.storeValues
      rw [hnone]
      rfl
  | cons v vs ih =>
      rw [Window.writesFrom, Window.memory_cons, ← ih (offset + 1)]
      funext a
      unfold DefaultDMX.storeValues Window.poke
      rw [DefaultDMX.covered_cons]
      by_cases ha : base + offset = a
      · have hnone : DefaultDMX.covered (base + (offset + 1)) vs a = none :=
          DefaultDMX.covered_eq_none (by omega)
        rw [if_pos ha, if_pos ha.symm, hnone]
        rfl
      · rw [if_neg ha, if_neg (Ne.symm ha), Nat.add_assoc]

/-- The address of a channel. -/
theorem Mounted.toInt_address_add {f : FixtureProfile} (h : Mounted f)
    {channel : Int32} (hlo : 0 ≤ channel.toInt)
    (hhi : channel.toInt < f.channelMap.size) :
    (f.address + channel).toInt = (base f + channel.toInt.toNat : ℕ) := by
  have hone := h.one_le_address
  have hadd := h.address_add_le
  rw [toInt_add_of_le (by omega) (by omega)]
  unfold base
  omega

theorem callDriver_of_ok {α : Type} {m : Run DefaultDMX α} {r : α}
    {dmx : DefaultDMX} (hdriver : l.fixture.dmxDriver ≠ none)
    (h : m l.dmx = .ok r dmx) :
    callDriver m l = .ok r { l with dmx := dmx } := by
  unfold callDriver
  rw [bind_of_ok (x := get) rfl, if_neg hdriver]
  unfold zoom
  rw [h]

theorem callDriver_three {m₁ m₂ m₃ : Run DefaultDMX Unit}
    {d₁ d₂ d₃ : DefaultDMX} (hdriver : l.fixture.dmxDriver ≠ none)
    (h₁ : m₁ l.dmx = .ok ⟨⟩ d₁) (h₂ : m₂ d₁ = .ok ⟨⟩ d₂)
    (h₃ : m₃ d₂ = .ok ⟨⟩ d₃) :
    (do
      callDriver m₁
      callDriver m₂
      callDriver m₃ : Run Light Unit) l = .ok ⟨⟩ { l with dmx := d₃ } := by
  have hrun₂ := callDriver_of_ok (l := ⟨d₁, l.fixture⟩) hdriver h₂
  have hrun₃ := callDriver_of_ok (l := ⟨d₂, l.fixture⟩) hdriver h₃
  rw [bind_of_ok (callDriver_of_ok hdriver h₁), bind_of_ok hrun₂]
  exact hrun₃

/-- A single write to the address of a channel. -/
theorem Mounted.setDMX_eq {f : FixtureProfile} (h : Mounted f)
    {d : DefaultDMX} (hd : d.NoFault) {channel value : Int32}
    (hlo : 0 ≤ channel.toInt) (hhi : channel.toInt < f.channelMap.size)
    (hvalue : IsByte value) :
    ∃ d', DefaultDMX.setDMX (f.address + channel) [value] d = .ok ⟨⟩ d' ∧
      d'.dmxShadow =
        Window.poke (base f) d.dmxShadow (channel.toInt.toNat, value) ∧
      d'.NoFault := by
  refine ⟨_, (h.accepts_singleton hlo hhi hvalue).setDMX_of_noFault hd, ?_,
    (hd.store _ _).record _⟩
  have haddress : (f.address + channel).toInt.toNat =
      base f + channel.toInt.toNat := by
    rw [h.toInt_address_add hlo hhi, Int.toNat_natCast]
  have hstore := storeValues_eq (base f) channel.toInt.toNat [value]
    d.dmxShadow
  rw [← haddress] at hstore
  exact hstore

theorem storeMirror_of_lt {channel v : Int32} (hlo : 0 ≤ channel.toInt)
    (hhi : channel.toInt < l.fixture.dmxVals.length) :
    storeMirror channel v l = .ok ⟨⟩ { l with
      fixture := { l.fixture with
        dmxVals := l.fixture.dmxVals.set channel.toInt.toNat v } } := by
  unfold storeMirror
  rw [bind_of_ok (x := get) rfl, if_pos ⟨hlo, hhi⟩]
  rfl

theorem writes_writeChannel (h : Mounted l.fixture) (hd : l.dmx.NoFault)
    {channel value : Int32} (hlo : 0 ≤ channel.toInt)
    (hhi : channel.toInt < l.fixture.channelMap.size)
    (hvalue : IsByte value) :
    Writes [(channel.toInt.toNat, value)] (writeChannel channel value) l := by
  have hmirror : channel.toInt < l.fixture.dmxVals.length := by
    rw [h.length_dmxVals]
    exact hhi
  have hstore := storeMirror_of_lt (v := value) hlo hmirror
  obtain ⟨dmx, hwrite, hshadow, hfault⟩ := h.setDMX_eq hd hlo hhi hvalue
  refine ⟨⟨dmx, { l.fixture with
    dmxVals := l.fixture.dmxVals.set channel.toInt.toNat value }⟩, ?_,
    ⟨rfl, hshadow, hfault⟩⟩
  unfold writeChannel
  rw [bind_of_ok hstore, bind_of_ok (x := get) rfl]
  exact callDriver_of_ok h.dmxDriver hwrite

/-- Rounds of a loop that write one value each. -/
theorem writes_forM {body : ℕ → Run Light Unit} {v : ℕ → Int32} {n : ℕ}
    (hbody : ∀ k < n, ∀ l' : Light, Mounted l'.fixture →
      l'.fixture.channelMap = l.fixture.channelMap → l'.dmx.NoFault →
        Writes [(k, v k)] (body k) l')
    (h : Mounted l.fixture) (hd : l.dmx.NoFault) :
    Writes ((List.range n).map fun k => (k, v k))
      ((List.range n).forM body) l := by
  induction n with
  | zero => exact ⟨l, rfl, .nil hd⟩
  | succ n ih =>
      obtain ⟨l₁, hrun₁, hl₁⟩ := ih fun k hk => hbody k (by omega)
      have hmap : l₁.fixture.channelMap = l.fixture.channelMap := by
        rw [hl₁.fixture]
      obtain ⟨l₂, hrun₂, hl₂⟩ :=
        hbody n (Nat.lt_succ_self n) l₁ (hl₁.mounted h) hmap hl₁.noFault
      refine ⟨l₂, ?_, ?_⟩
      · rw [List.range_succ, List.forM_eq_forM, List.forM_append,
          ← List.forM_eq_forM, bind_of_ok hrun₁]
        exact bind_of_ok hrun₂
      · rw [List.range_succ, List.map_append]
        exact hl₁.trans hl₂

/-! ## Effects -/

/-- What a call does: it throws and changes nothing, writes values at offsets
of the fixture, or takes the values of the driver over. -/
inductive Effect where
  | rejects (e : Throwable)
  | writes (ws : List (ℕ × Int32))
  | syncs

/-- The result of a call with the effect. -/
def Effect.Gives (l : Light) :
    Effect → EStateM.Result Abrupt Light Unit → Prop
  | rejects e, result => result = .error (.thrown e) l
  | writes ws, result => ∃ l', result = .ok ⟨⟩ l' ∧ Written ws l l'
  | syncs, result => result = .ok ⟨⟩
      ⟨l.dmx, mirrorOf l.fixture (List.ofFn l.dmx.dmxShadow)⟩

/-- The effect of a write to one channel. -/
def channelEffect (f : FixtureProfile) (channel value : Int32) : Effect :=
  if ¬ (0 ≤ channel.toInt ∧ channel.toInt < f.channelMap.size) then
    .rejects (.illegalArgumentException
      "channel must be between [0:numChannels]")
  else if ¬ IsByte value then
    .rejects (.illegalArgumentException "value must be within [0:255]")
  else .writes [(channel.toInt.toNat, value)]

def valuesEffect (f : FixtureProfile) (values : List Int32) : Effect :=
  if values.length ≠ f.channelMap.size then
    .rejects (.illegalArgumentException
      "array must be same size as numchannels")
  else if ¬ ∀ v ∈ values, IsByte v then
    .rejects (.illegalArgumentException
      "all dmx values must be within [0:255]")
  else .writes (Window.writesFrom 0 values)

def dimmerEffect (f : FixtureProfile) (dimmerVal : Int32) : Effect :=
  if ¬ IsByte dimmerVal then
    .rejects (.illegalArgumentException
      "dimmer value must be within [0:255]")
  else
    match f.channelMap.lookup "dimmer" with
    | some offset => .writes [(offset.toInt.toNat, dimmerVal)]
    | none => .rejects .nullPointerException

def colorEffect (f : FixtureProfile) (color : Color) : Effect :=
  match f.channelMap.lookup "red", f.channelMap.lookup "green",
      f.channelMap.lookup "blue" with
  | some red, some green, some blue =>
      .writes [(red.toInt.toNat, color.getRed),
        (green.toInt.toNat, color.getGreen), (blue.toInt.toNat, color.getBlue)]
  | _, _, _ =>
      .rejects (.unsupportedOperationException
        "cannot set color on fixture without rgb channels")

def whiteEffect (f : FixtureProfile) (intensity : Int32) : Effect :=
  match f.channelMap.lookup "white" with
  | some offset => channelEffect f offset intensity
  | none => colorEffect f Color.WHITE

def clearEffect (f : FixtureProfile) : Effect :=
  .writes ((List.range f.channelMap.size).map fun k => (k, 0))

/-! ## The methods have their effects -/

theorem gives_setChannelManual (h : Mounted l.fixture) (hd : l.dmx.NoFault)
    (channel value : Int32) :
    (channelEffect l.fixture channel value).Gives l
      (setChannelManual channel value l) := by
  have hone := h.one_le_address
  have hadd := h.address_add_le
  have hofNat : (Int32.ofNat l.fixture.dmxVals.length).toInt =
      l.fixture.channelMap.size := by
    rw [h.length_dmxVals]
    exact Int32.toInt_ofNat_of_lt (by omega)
  have h0 : (0 : Int32).toInt = 0 := rfl
  have hrange : (channel < 0 ∨
      channel ≥ Int32.ofNat l.fixture.dmxVals.length) ↔
        ¬ (0 ≤ channel.toInt ∧
          channel.toInt < l.fixture.channelMap.size) := by
    simp only [ge_iff_le, Int32.lt_iff_toInt_lt, Int32.le_iff_toInt_le,
      hofNat]
    omega
  unfold setChannelManual channelEffect
  rw [bind_of_ok (x := get) rfl]
  by_cases hchannel : 0 ≤ channel.toInt ∧
      channel.toInt < l.fixture.channelMap.size
  · rw [if_neg (mt hrange.mp (not_not.mpr hchannel)),
      if_neg (not_not.mpr hchannel)]
    by_cases hvalue : IsByte value
    · rw [if_neg (isByte_iff.mp hvalue), if_neg (not_not.mpr hvalue)]
      exact writes_writeChannel h hd hchannel.1 hchannel.2 hvalue
    · rw [if_pos (not_not.mp (mt isByte_iff.mpr hvalue)), if_pos hvalue]
      rfl
  · rw [if_pos (hrange.mpr hchannel), if_pos hchannel]
    rfl

theorem range_map_getD (values : List Int32) :
    (List.range values.length).map (fun k => (k, values.getD k 0)) =
      Window.writesFrom 0 values := by
  have hfrom : ∀ offset, (List.range values.length).map
      (fun k => (offset + k, values.getD k 0)) =
        Window.writesFrom offset values := by
    induction values with
    | nil => exact fun _ => rfl
    | cons v vs ih =>
        intro offset
        have hrest := ih (offset + 1)
        rw [List.length_cons, List.range_succ_eq_map, List.map_cons,
          List.map_map, Window.writesFrom, ← hrest]
        refine congrArg _ (List.map_congr_left fun k _ => ?_)
        show (offset + (k + 1), _) = _
        rw [List.getD_cons_succ, Nat.add_right_comm, Nat.add_assoc]
  have hzero := hfrom 0
  simp only [Nat.zero_add] at hzero
  exact hzero

theorem gives_setDMXVals (h : Mounted l.fixture) (hd : l.dmx.NoFault)
    (values : List Int32) :
    (valuesEffect l.fixture values).Gives l (setDMXVals values l) := by
  unfold setDMXVals valuesEffect
  rw [bind_of_ok (x := get) rfl, h.length_dmxVals]
  by_cases hlength : values.length = l.fixture.channelMap.size
  · rw [if_neg (not_not.mpr hlength), if_neg (not_not.mpr hlength)]
    by_cases hbytes : ∀ v ∈ values, IsByte v
    · rw [if_neg (mt any_not_isByte_iff.mp (not_not.mpr hbytes)),
        if_neg (not_not.mpr hbytes), ← range_map_getD]
      refine writes_forM (fun k hk l' hl' hmap hd' => ?_) h hd
      have hvalue : IsByte values[k] := hbytes _ (List.getElem_mem hk)
      have hget : values.getD k 0 = values[k] := by
        rw [List.getD_eq_getElem?_getD, List.getElem?_eq_getElem hk]
        rfl
      have hone := h.one_le_address
      have hadd := h.address_add_le
      have hofNat : (Int32.ofNat k).toInt = k :=
        Int32.toInt_ofNat_of_lt (by omega)
      have hlo : 0 ≤ (Int32.ofNat k).toInt := by omega
      have hhi : (Int32.ofNat k).toInt < l'.fixture.channelMap.size := by
        rw [hmap]
        omega
      have hwrite := writes_writeChannel hl' hd' hlo hhi hvalue
      rw [arrayGet_bind_of_lt hk, hget]
      rwa [hofNat, Int.toNat_natCast] at hwrite
    · rw [if_pos (any_not_isByte_iff.mpr hbytes), if_pos hbytes]
      rfl
  · rw [if_pos hlength, if_pos hlength]
    rfl

theorem channelOffset_eq {key : String} {offset : Int32}
    (h : l.fixture.channelMap.lookup key = some offset) :
    channelOffset key l = .ok offset l := by
  show (match l.fixture.channelMap.lookup key with
    | some offset => pure offset
    | none => throwNew .nullPointerException : Run Light Int32) l = _
  rw [h]
  rfl

theorem gives_setDimmerValue (h : Mounted l.fixture) (hd : l.dmx.NoFault)
    (dimmerVal : Int32) :
    (dimmerEffect l.fixture dimmerVal).Gives l
      (setDimmerValue dimmerVal l) := by
  unfold setDimmerValue dimmerEffect
  by_cases hbyte : IsByte dimmerVal
  · rw [if_neg (isByte_iff.mp hbyte), if_neg (not_not.mpr hbyte)]
    cases hdimmer : l.fixture.channelMap.lookup "dimmer" with
    | none =>
        have hnull : channelOffset "dimmer" l =
            .error (.thrown .nullPointerException) l := by
          show (match l.fixture.channelMap.lookup "dimmer" with
            | some offset => pure offset
            | none => throwNew .nullPointerException : Run Light Int32) l = _
          rw [hdimmer]
          rfl
        exact bind_of_error hnull
    | some offset =>
        obtain ⟨hlo, hhi⟩ := h.offset _ _ hdimmer
        rw [bind_of_ok (channelOffset_eq hdimmer)]
        exact writes_writeChannel h hd hlo hhi hbyte
  · rw [if_pos (not_not.mp (mt isByte_iff.mpr hbyte)), if_pos hbyte]
    rfl

/-- The three stores of `setColor` in the mirror. -/
theorem storeMirror_three {red green blue : Int32} (color : Color)
    (h : ∀ o ∈ [red, green, blue], 0 ≤ o.toInt ∧
      o.toInt < l.fixture.dmxVals.length) (x : Run Light Unit) :
    (do
      storeMirror red color.getRed
      storeMirror green color.getGreen
      storeMirror blue color.getBlue
      x : Run Light Unit) l =
      x { l with fixture := { l.fixture with
        dmxVals := Window.mirror l.fixture.dmxVals
          [(red.toInt.toNat, color.getRed),
            (green.toInt.toNat, color.getGreen),
            (blue.toInt.toNat, color.getBlue)] } } := by
  obtain ⟨hredLo, hredHi⟩ := h red (by simp)
  obtain ⟨hgreenLo, hgreenHi⟩ := h green (by simp)
  obtain ⟨hblueLo, hblueHi⟩ := h blue (by simp)
  rw [bind_of_ok (storeMirror_of_lt hredLo hredHi)]
  refine (bind_of_ok (storeMirror_of_lt hgreenLo ?_)).trans
    ((bind_of_ok (storeMirror_of_lt hblueLo ?_)).trans ?_)
  · rwa [List.length_set]
  · rwa [List.length_set, List.length_set]
  · rfl

theorem Mounted.offsets {f : FixtureProfile} (h : Mounted f)
    {red green blue : Int32} (hred : f.channelMap.lookup "red" = some red)
    (hgreen : f.channelMap.lookup "green" = some green)
    (hblue : f.channelMap.lookup "blue" = some blue) :
    ∀ o ∈ [red, green, blue], 0 ≤ o.toInt ∧ o.toInt < f.channelMap.size := by
  intro o ho
  simp only [List.mem_cons, List.not_mem_nil, or_false] at ho
  rcases ho with rfl | rfl | rfl
  · exact h.offset _ _ hred
  · exact h.offset _ _ hgreen
  · exact h.offset _ _ hblue

/-- Three single writes, one for each component. -/
theorem Mounted.setDMX_three {f : FixtureProfile} (h : Mounted f)
    {d : DefaultDMX} (hd : d.NoFault) {red green blue : Int32} (color : Color)
    (hoffsets : ∀ o ∈ [red, green, blue], 0 ≤ o.toInt ∧
      o.toInt < f.channelMap.size) :
    ∃ d₁ d₂ d₃,
      DefaultDMX.setDMX (f.address + red) [color.getRed] d = .ok ⟨⟩ d₁ ∧
      DefaultDMX.setDMX (f.address + green) [color.getGreen] d₁ =
        .ok ⟨⟩ d₂ ∧
      DefaultDMX.setDMX (f.address + blue) [color.getBlue] d₂ = .ok ⟨⟩ d₃ ∧
      d₃.dmxShadow = Window.memory (base f) d.dmxShadow
        [(red.toInt.toNat, color.getRed), (green.toInt.toNat, color.getGreen),
          (blue.toInt.toNat, color.getBlue)] ∧
      d₃.NoFault := by
  obtain ⟨hredLo, hredHi⟩ := hoffsets red (by simp)
  obtain ⟨hgreenLo, hgreenHi⟩ := hoffsets green (by simp)
  obtain ⟨hblueLo, hblueHi⟩ := hoffsets blue (by simp)
  obtain ⟨d₁, hrun₁, hshadow₁, hfault₁⟩ :=
    h.setDMX_eq hd hredLo hredHi (isByte_ofNat color.red)
  obtain ⟨d₂, hrun₂, hshadow₂, hfault₂⟩ :=
    h.setDMX_eq hfault₁ hgreenLo hgreenHi (isByte_ofNat color.green)
  obtain ⟨d₃, hrun₃, hshadow₃, hfault₃⟩ :=
    h.setDMX_eq hfault₂ hblueLo hblueHi (isByte_ofNat color.blue)
  refine ⟨d₁, d₂, d₃, hrun₁, hrun₂, hrun₃, ?_, hfault₃⟩
  rw [hshadow₃, hshadow₂, hshadow₁]
  rfl

/-- The fast path of `setColor` does the same to the shadow. -/
theorem Mounted.setDMX_fast {f : FixtureProfile} (h : Mounted f)
    {d : DefaultDMX} (hd : d.NoFault) {red green blue : Int32} (color : Color)
    (hoffsets : ∀ o ∈ [red, green, blue], 0 ≤ o.toInt ∧
      o.toInt < f.channelMap.size)
    (hrgb : red = 1 ∧ green = 2 ∧ blue = 3) :
    ∃ d', DefaultDMX.setDMX (f.address + red)
        [color.getRed, color.getGreen, color.getBlue] d = .ok ⟨⟩ d' ∧
      d'.dmxShadow = Window.memory (base f) d.dmxShadow
        [(red.toInt.toNat, color.getRed), (green.toInt.toNat, color.getGreen),
          (blue.toInt.toNat, color.getBlue)] ∧
      d'.NoFault := by
  obtain ⟨rfl, rfl, rfl⟩ := hrgb
  obtain ⟨hlo, hhi⟩ := hoffsets 1 (by simp)
  have hblue := (hoffsets 3 (by simp)).2
  have haddress := h.toInt_address_add hlo hhi
  have hone := h.one_le_address
  have hadd := h.address_add_le
  have h1 : (1 : Int32).toInt = 1 := rfl
  have h3 : (3 : Int32).toInt = 3 := rfl
  have hnat : (f.address + 1).toInt.toNat = base f + 1 := by
    rw [haddress, Int.toNat_natCast]
    rfl
  have haccepts : DefaultDMX.Accepts (f.address + 1)
      [color.getRed, color.getGreen, color.getBlue] := by
    unfold base at haddress
    refine ⟨by omega, ?_, Nat.le_add_left 1 2, Nat.le_add_left 3 1, ?_⟩
    · simp only [List.length_cons, List.length_nil]
      omega
    · intro v hv
      simp only [List.mem_cons, List.not_mem_nil, or_false] at hv
      rcases hv with rfl | rfl | rfl
      · exact isByte_ofNat color.red
      · exact isByte_ofNat color.green
      · exact isByte_ofNat color.blue
  refine ⟨_, haccepts.setDMX_of_noFault hd, ?_, (hd.store _ _).record _⟩
  have hstore := storeValues_eq (base f) 1
    [color.getRed, color.getGreen, color.getBlue] d.dmxShadow
  rw [← hnat] at hstore
  exact hstore

theorem setColor_of_offsets {red green blue : Int32} (color : Color)
    (hred : l.fixture.channelMap.lookup "red" = some red)
    (hgreen : l.fixture.channelMap.lookup "green" = some green)
    (hblue : l.fixture.channelMap.lookup "blue" = some blue) :
    setColor color l = (do
      storeMirror red color.getRed
      storeMirror green color.getGreen
      storeMirror blue color.getBlue
      let address := (← get).fixture.address
      if red = 1 ∧ green = 2 ∧ blue = 3 then
        callDriver (DefaultDMX.setDMX (address + red)
          [color.getRed, color.getGreen, color.getBlue])
      else do
        callDriver (DefaultDMX.setDMX (address + red) [color.getRed])
        callDriver (DefaultDMX.setDMX (address + green) [color.getGreen])
        callDriver (DefaultDMX.setDMX (address + blue) [color.getBlue]) :
          Run Light Unit) l := by
  have hrgb : (l.fixture.channelMap.lookup "red").isSome ∧
      (l.fixture.channelMap.lookup "green").isSome ∧
        (l.fixture.channelMap.lookup "blue").isSome := by
    rw [hred, hgreen, hblue]
    exact ⟨rfl, rfl, rfl⟩
  unfold setColor
  rw [bind_of_ok (x := get) rfl, if_neg (not_not.mpr hrgb),
    bind_of_ok (channelOffset_eq hred), bind_of_ok (channelOffset_eq hgreen),
    bind_of_ok (channelOffset_eq hblue)]

/-- Without all three channels there is no color to set. -/
theorem colorEffect_of_not {f : FixtureProfile} (color : Color)
    (h : ¬ ((f.channelMap.lookup "red").isSome ∧
      (f.channelMap.lookup "green").isSome ∧
        (f.channelMap.lookup "blue").isSome)) :
    colorEffect f color = .rejects (.unsupportedOperationException
      "cannot set color on fixture without rgb channels") := by
  unfold colorEffect
  split
  · rename_i hred hgreen hblue
    rw [hred, hgreen, hblue] at h
    exact absurd ⟨rfl, rfl, rfl⟩ h
  · rfl

theorem gives_setColor (h : Mounted l.fixture) (hd : l.dmx.NoFault)
    (color : Color) :
    (colorEffect l.fixture color).Gives l (setColor color l) := by
  by_cases hrgb : (l.fixture.channelMap.lookup "red").isSome ∧
      (l.fixture.channelMap.lookup "green").isSome ∧
        (l.fixture.channelMap.lookup "blue").isSome
  · obtain ⟨red, hred⟩ := Option.isSome_iff_exists.mp hrgb.1
    obtain ⟨green, hgreen⟩ := Option.isSome_iff_exists.mp hrgb.2.1
    obtain ⟨blue, hblue⟩ := Option.isSome_iff_exists.mp hrgb.2.2
    have hoffsets := h.offsets hred hgreen hblue
    have hlengths := hoffsets
    rw [← h.length_dmxVals] at hlengths
    unfold colorEffect
    rw [hred, hgreen, hblue, setColor_of_offsets color hred hgreen hblue,
      storeMirror_three color hlengths, bind_of_ok (x := get) rfl]
    by_cases hfast : red = 1 ∧ green = 2 ∧ blue = 3
    · obtain ⟨dmx, hwrite, hshadow, hfault⟩ :=
        h.setDMX_fast hd color hoffsets hfast
      rw [if_pos hfast]
      exact ⟨_, callDriver_of_ok h.dmxDriver hwrite, rfl, hshadow, hfault⟩
    · obtain ⟨d₁, d₂, d₃, hwrite₁, hwrite₂, hwrite₃, hshadow, hfault⟩ :=
        h.setDMX_three hd color hoffsets
      rw [if_neg hfast]
      exact ⟨⟨d₃, _⟩, callDriver_three (l := ⟨l.dmx, _⟩) h.dmxDriver hwrite₁
        hwrite₂ hwrite₃, rfl, hshadow, hfault⟩
  · rw [colorEffect_of_not color hrgb]
    unfold setColor
    rw [bind_of_ok (x := get) rfl, if_pos hrgb]
    rfl

/-- `setColor(null)`, which fails where it reads the color. -/
def setNullColor : Run Light Unit := do
  let m := (← get).fixture.channelMap
  if ¬ ((m.lookup "red").isSome ∧ (m.lookup "green").isSome ∧
      (m.lookup "blue").isSome) then
    throwNew (.unsupportedOperationException
      "cannot set color on fixture without rgb channels")
  else throwNew .nullPointerException

/-- The effect of `setColor(null)`. -/
def nullColorEffect (f : FixtureProfile) : Effect :=
  match colorEffect f Color.WHITE with
  | .rejects e => .rejects e
  | _ => .rejects .nullPointerException

theorem gives_setNullColor :
    (nullColorEffect l.fixture).Gives l (setNullColor l) := by
  unfold nullColorEffect setNullColor
  rw [bind_of_ok (x := get) rfl]
  by_cases hrgb : (l.fixture.channelMap.lookup "red").isSome ∧
      (l.fixture.channelMap.lookup "green").isSome ∧
        (l.fixture.channelMap.lookup "blue").isSome
  · obtain ⟨red, hred⟩ := Option.isSome_iff_exists.mp hrgb.1
    obtain ⟨green, hgreen⟩ := Option.isSome_iff_exists.mp hrgb.2.1
    obtain ⟨blue, hblue⟩ := Option.isSome_iff_exists.mp hrgb.2.2
    rw [if_neg (not_not.mpr hrgb)]
    unfold colorEffect
    rw [hred, hgreen, hblue]
    rfl
  · rw [if_pos hrgb, colorEffect_of_not Color.WHITE hrgb]
    rfl

theorem gives_setWhite (h : Mounted l.fixture) (hd : l.dmx.NoFault)
    (intensity : Int32) :
    (whiteEffect l.fixture intensity).Gives l (setWhite intensity l) := by
  unfold setWhite whiteEffect
  rw [bind_of_ok (x := get) rfl]
  cases l.fixture.channelMap.lookup "white" with
  | some offset => exact gives_setChannelManual h hd offset intensity
  | none => exact gives_setColor h hd Color.WHITE

theorem gives_clearLight (h : Mounted l.fixture) (hd : l.dmx.NoFault) :
    (clearEffect l.fixture).Gives l (clearLight l) := by
  refine writes_forM (v := fun _ => 0) (fun k hk l' hl' hmap hd' => ?_)
    h hd
  have hone := h.one_le_address
  have hadd := h.address_add_le
  have hofNat : (Int32.ofNat k).toInt = k :=
    Int32.toInt_ofNat_of_lt (by omega)
  have hgives := gives_setChannelManual hl' hd' (Int32.ofNat k) 0
  have hrange : 0 ≤ (k : ℤ) ∧ (k : ℤ) < l'.fixture.channelMap.size := by
    rw [hmap]
    omega
  unfold channelEffect at hgives
  rw [hofNat, if_neg (not_not.mpr hrange), if_neg (not_not.mpr isByte_zero),
    Int.toNat_natCast] at hgives
  exact hgives

theorem Mounted.mirrorOf_eq {f : FixtureProfile} (h : Mounted f)
    (shadow : Fin 513 → Int32) :
    mirrorOf f (List.ofFn shadow) =
      { f with
        dmxVals := Window.view (base f) f.channelMap.size shadow } := by
  have hdrop : f.dmxVals.drop f.channelMap.size = [] := by
    rw [List.drop_eq_nil_iff, h.length_dmxVals]
  unfold mirrorOf
  rw [hdrop, List.append_nil]
  rfl

theorem gives_syncLight (h : Mounted l.fixture) :
    Effect.syncs.Gives l (syncLight l) := h.syncLight_eq l.dmx

end Light

end ChuckLight
