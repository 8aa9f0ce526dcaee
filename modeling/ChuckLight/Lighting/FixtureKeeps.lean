import ChuckLight.Dmx.SetDMX
import ChuckLight.Lighting.FixtureMethods
import Mathlib.Data.List.Basic

/-!
# What the fixture methods keep

No method that uses the driver changes anything of a fixture but the values of
its mirror.  On a usable fixture, with arguments in range, the only exception
is the `IOException` of the driver.  `Keeps` states both facts at once, so one
rule per construct serves all methods.
-/

namespace ChuckLight.Light

open Java

/-- A fixture that all methods can work on. -/
structure Usable (f : FixtureProfile) : Prop where
  dmxDriver : f.dmxDriver ≠ none
  one_le_address : 1 ≤ f.address.toInt
  address_add_le : f.address.toInt + f.channelMap.size ≤ 513
  offset : ∀ s o, f.channelMap.lookup s = some o →
    0 ≤ o.toInt ∧ o.toInt < f.channelMap.size
  length_dmxVals : f.dmxVals.length = f.channelMap.size
  red : (f.channelMap.lookup "red").isSome
  green : (f.channelMap.lookup "green").isSome
  blue : (f.channelMap.lookup "blue").isSome
  dimmer : (f.channelMap.lookup "dimmer").isSome

/-- The fixture has a driver and lies within addresses 1 to 512. -/
structure Mounted (f : FixtureProfile) : Prop where
  dmxDriver : f.dmxDriver ≠ none
  one_le_address : 1 ≤ f.address.toInt
  address_add_le : f.address.toInt + f.channelMap.size ≤ 513
  offset : ∀ s o, f.channelMap.lookup s = some o →
    0 ≤ o.toInt ∧ o.toInt < f.channelMap.size
  length_dmxVals : f.dmxVals.length = f.channelMap.size

theorem Usable.mounted {f : FixtureProfile} (h : Usable f) : Mounted f :=
  ⟨h.dmxDriver, h.one_le_address, h.address_add_le, h.offset,
    h.length_dmxVals⟩

/-- A fixture stays mounted when its values change. -/
theorem Mounted.mirror {f : FixtureProfile} (h : Mounted f)
    {vals : List Int32} (hlength : vals.length = f.dmxVals.length) :
    Mounted { f with dmxVals := vals } :=
  ⟨h.dmxDriver, h.one_le_address, h.address_add_le, h.offset,
    hlength.trans h.length_dmxVals⟩

/-- The fixture is `f` up to the values of its mirror.  If `bytes` holds, then
the mirror and the shadow of the driver hold bytes. -/
structure Kept (f : FixtureProfile) (bytes : Prop) (l : Light) : Prop where
  setup : l.fixture = { f with dmxVals := l.fixture.dmxVals }
  length : l.fixture.dmxVals.length = f.dmxVals.length
  mirror : bytes → ∀ v ∈ l.fixture.dmxVals, IsByte v
  shadow : bytes → ∀ a, IsByte (l.dmx.dmxShadow a)

/-- The method keeps the fixture, and if `c` holds, it fails only with an
`IOException`. -/
def Keeps (f : FixtureProfile) (bytes c : Prop) {α : Type}
    (x : Run Light α) : Prop :=
  Triple (Kept f bytes) x (fun _ => Kept f bytes)
    (fun e l => Kept f bytes l ∧ (c → e.IsIOException))

variable {f : FixtureProfile} {bytes c : Prop} {α β : Type} {l : Light}

namespace Kept

theorem dmxDriver_eq (h : Kept f bytes l) :
    l.fixture.dmxDriver = f.dmxDriver := by rw [h.setup]

theorem address_eq (h : Kept f bytes l) : l.fixture.address = f.address := by
  rw [h.setup]

theorem channelMap_eq (h : Kept f bytes l) :
    l.fixture.channelMap = f.channelMap := by rw [h.setup]

end Kept

/-! ## Rules -/

namespace Keeps

theorem pure (a : α) : Keeps f bytes c (pure a : Run Light α) :=
  Triple.pure fun _ h => h

theorem throwNew (hc : ¬ c) (e : Throwable) :
    Keeps f bytes c (throwNew e : Run Light α) :=
  Triple.throw fun _ h => ⟨h, fun h => absurd h hc⟩

theorem bind {x : Run Light α} {g : α → Run Light β} (hx : Keeps f bytes c x)
    (hg : ∀ a, Keeps f bytes c (g a)) : Keeps f bytes c (x >>= g) :=
  Triple.bind hx hg

theorem get_bind {g : Light → Run Light β}
    (h : ∀ l, Kept f bytes l → Keeps f bytes c (g l)) :
    Keeps f bytes c (MonadState.get >>= g) :=
  Triple.get_bind h

theorem ite {p : Prop} [Decidable p] {x y : Run Light α}
    (hx : p → Keeps f bytes c x) (hy : ¬ p → Keeps f bytes c y) :
    Keeps f bytes c (if p then x else y) :=
  Triple.ite hx hy

theorem forM {body : β → Run Light PUnit} {xs : List β}
    (h : ∀ x ∈ xs, Keeps f bytes c (body x)) :
    Keeps f bytes c (xs.forM body) := by
  induction xs with
  | nil => exact pure _
  | cons x rest ih =>
      rw [List.forM_eq_forM, List.forM_cons]
      exact (h x (List.mem_cons_self ..)).bind fun _ =>
        ih fun y hy => h y (List.mem_cons_of_mem _ hy)

theorem anyM {body : β → Run Light Bool} {xs : List β}
    (h : ∀ x ∈ xs, Keeps f bytes c (body x)) :
    Keeps f bytes c (xs.anyM body) := by
  induction xs with
  | nil => exact pure _
  | cons x rest ih =>
      refine (h x (List.mem_cons_self ..)).bind fun found => ?_
      cases found with
      | true => exact pure _
      | false => exact ih fun y hy => h y (List.mem_cons_of_mem _ hy)

end Keeps

/-! ## The primitive steps -/

theorem keeps_arrayGet {xs : List α} {i : ℕ} (hi : c → i < xs.length) :
    Keeps f bytes c (arrayGet xs i) := by
  unfold arrayGet
  cases h : xs[i]? with
  | some x => exact Keeps.pure x
  | none =>
      refine Keeps.throwNew (fun hc => ?_) _
      have hlt := hi hc
      rw [List.getElem?_eq_getElem hlt] at h
      cases h

theorem keeps_storeMirror {index value : Int32} (hvalue : bytes → IsByte value)
    (hindex : c → 0 ≤ index.toInt ∧ index.toInt < f.dmxVals.length) :
    Keeps f bytes c (storeMirror index value) := by
  apply Keeps.get_bind
  intro l hl
  refine Keeps.ite (fun _ => Triple.modify fun l hl => ?_) fun hnot =>
    Keeps.throwNew (fun hc => hnot ?_) _
  · refine ⟨?_, ?_, fun hb v hv => ?_, hl.shadow⟩
    · show ({ l.fixture with dmxVals := _ } : FixtureProfile) = _
      rw [hl.setup]
    · exact List.length_set.trans hl.length
    · rcases List.mem_or_eq_of_mem_set hv with hv | rfl
      · exact hl.mirror hb v hv
      · exact hvalue hb
  · rw [hl.length]
    exact hindex hc

theorem keeps_channelOffset_bind {key : String} {g : Int32 → Run Light β}
    (hkey : c → (f.channelMap.lookup key).isSome)
    (hg : ∀ offset, f.channelMap.lookup key = some offset →
      Keeps f bytes c (g offset)) :
    Keeps f bytes c (channelOffset key >>= g) := by
  intro l hl
  have hmap := hl.channelMap_eq
  cases hlookup : f.channelMap.lookup key with
  | some offset =>
      have hrun : channelOffset key l = .ok offset l := by
        unfold channelOffset
        rw [bind_of_ok (x := get) rfl, hmap, hlookup]
        rfl
      rw [bind_of_ok hrun]
      exact hg offset hlookup l hl
  | none =>
      have hrun : channelOffset key l =
          .error (.thrown .nullPointerException) l := by
        unfold channelOffset
        rw [bind_of_ok (x := get) rfl, hmap, hlookup]
        rfl
      rw [bind_of_error hrun]
      refine ⟨hl, fun h => ?_⟩
      have hsome := hkey h
      rw [hlookup] at hsome
      cases hsome

theorem keeps_callDriver {m : Run DefaultDMX α}
    (hdriver : c → f.dmxDriver ≠ none)
    (hm : Triple (fun d => bytes → ∀ a, IsByte (d.dmxShadow a)) m
      (fun _ d => bytes → ∀ a, IsByte (d.dmxShadow a))
      (fun e d => (bytes → ∀ a, IsByte (d.dmxShadow a)) ∧
        (c → e.IsIOException))) :
    Keeps f bytes c (callDriver m) := by
  apply Keeps.get_bind
  intro l hl
  refine Keeps.ite (fun hnull => Keeps.throwNew (fun hc => ?_) _) fun _ => ?_
  · rw [hl.dmxDriver_eq] at hnull
    exact hdriver hc hnull
  · refine Triple.zoom hm (fun l hl => hl.shadow)
      (fun l _ dmx hl hdmx => ?_) fun l _ dmx hl hdmx => ⟨?_, hdmx.2⟩
    · exact ⟨hl.setup, hl.length, hl.mirror, hdmx⟩
    · exact ⟨hl.setup, hl.length, hl.mirror, hdmx.1⟩

/-- A shadow of bytes takes a byte. -/
theorem isByte_update (bytes : Prop) (shadow : Fin 513 → Int32)
    (index : Fin 513) (v : Int32) (hv : IsByte v)
    (hshadow : bytes → ∀ a, IsByte (shadow a)) :
    bytes → ∀ a, IsByte (Function.update shadow index v a) := by
  intro hb a
  by_cases ha : a = index
  · rw [ha, Function.update_self]
    exact hv
  · rw [Function.update_of_ne ha]
    exact hshadow hb a

theorem keeps_setDMX {address : Int32} {values : List Int32}
    (hdriver : c → f.dmxDriver ≠ none)
    (haccepts : c → DefaultDMX.Accepts address values) :
    Keeps f bytes c (callDriver (DefaultDMX.setDMX address values)) := by
  apply keeps_callDriver hdriver
  exact (DefaultDMX.setDMX_triple (isByte_update bytes) address values).conseq
    (fun _ h => h) (fun _ _ h => h) fun _ _ h =>
      ⟨h.1, fun hc => h.2 (haccepts hc)⟩

/-- The values from an offset of a fixture on can be written. -/
theorem Mounted.accepts (h : Mounted f) {channel : Int32} {values : List Int32}
    (hchannel : 0 ≤ channel.toInt)
    (hle : channel.toInt + values.length ≤ f.channelMap.size)
    (hpos : 1 ≤ values.length) (hfour : values.length ≤ 4)
    (hvalues : ∀ v ∈ values, IsByte v) :
    DefaultDMX.Accepts (f.address + channel) values := by
  have hone := h.one_le_address
  have hadd := h.address_add_le
  have hsum : (f.address + channel).toInt =
      f.address.toInt + channel.toInt :=
    toInt_add_of_le (by omega) (by omega)
  exact ⟨by omega, by omega, hpos, hfour, hvalues⟩

theorem Mounted.accepts_singleton (h : Mounted f) {channel value : Int32}
    (hchannel : 0 ≤ channel.toInt)
    (hlt : channel.toInt < f.channelMap.size) (hvalue : IsByte value) :
    DefaultDMX.Accepts (f.address + channel) [value] := by
  apply h.accepts hchannel
  · simp only [List.length_singleton]
    omega
  · exact Nat.le_refl 1
  · exact Nat.le_add_left 1 3
  · intro v hv
    rw [List.mem_singleton.mp hv]
    exact hvalue

theorem keeps_writeChannel {channel value : Int32}
    (hvalue : bytes → IsByte value)
    (hc : c → Mounted f ∧ 0 ≤ channel.toInt ∧
      channel.toInt < f.channelMap.size ∧ IsByte value) :
    Keeps f bytes c (writeChannel channel value) := by
  have hstore : Keeps f bytes c (storeMirror channel value) := by
    apply keeps_storeMirror hvalue
    intro h
    obtain ⟨hf, hlo, hhi, -⟩ := hc h
    rw [hf.length_dmxVals]
    exact ⟨hlo, hhi⟩
  refine hstore.bind fun _ => Keeps.get_bind fun l hl => ?_
  rw [hl.address_eq]
  apply keeps_setDMX
  · exact fun h => (hc h).1.dmxDriver
  · intro h
    obtain ⟨hf, hlo, hhi, hv⟩ := hc h
    exact hf.accepts_singleton hlo hhi hv

/-! ## The methods -/

theorem isByte_iff {v : Int32} : IsByte v ↔ ¬ (v < 0 ∨ v > 255) := by
  have h255 : (255 : Int32).toInt = 255 := rfl
  have h0 : (0 : Int32).toInt = 0 := rfl
  unfold IsByte
  simp only [gt_iff_lt, Int32.lt_iff_toInt_lt]
  omega

theorem keeps_setChannelManual {channel value : Int32}
    (hc : c → Mounted f ∧ 0 ≤ channel.toInt ∧
      channel.toInt < f.channelMap.size ∧ IsByte value) :
    Keeps f bytes c (setChannelManual channel value) := by
  apply Keeps.get_bind
  intro l hl
  refine Keeps.ite (fun hrange => Keeps.throwNew (fun h => ?_) _) fun _ =>
    Keeps.ite (fun hbyte => Keeps.throwNew (fun h => ?_) _) fun hbyte => ?_
  · obtain ⟨hf, hlo, hhi, -⟩ := hc h
    have hlength := hf.length_dmxVals
    have hadd := hf.address_add_le
    have hone := hf.one_le_address
    have hofNat : (Int32.ofNat f.channelMap.size).toInt = f.channelMap.size :=
      Int32.toInt_ofNat_of_lt (by omega)
    have h0 : (0 : Int32).toInt = 0 := rfl
    rw [hl.length, hlength] at hrange
    simp only [ge_iff_le, Int32.lt_iff_toInt_lt, Int32.le_iff_toInt_le,
      hofNat] at hrange
    omega
  · exact isByte_iff.mp (hc h).2.2.2 hbyte
  · exact keeps_writeChannel (fun _ => isByte_iff.mpr hbyte) hc

theorem any_not_isByte_iff {values : List Int32} :
    (values.any fun v => v < 0 || v > 255) = true ↔
      ¬ ∀ v ∈ values, IsByte v := by
  simp only [List.any_eq_true, Bool.or_eq_true, decide_eq_true_eq, isByte_iff,
    not_forall, not_not, exists_prop]

theorem keeps_setDMXVals {values : List Int32}
    (hc : c → Mounted f ∧ values.length = f.dmxVals.length ∧
      ∀ v ∈ values, IsByte v) :
    Keeps f bytes c (setDMXVals values) := by
  apply Keeps.get_bind
  intro l hl
  refine Keeps.ite (fun hlength => Keeps.throwNew (fun h => ?_) _)
    fun hlength => Keeps.ite (fun hbyte => Keeps.throwNew (fun h => ?_) _)
      fun hbyte => ?_
  · rw [hl.length] at hlength
    exact hlength (hc h).2.1
  · exact any_not_isByte_iff.mp hbyte (hc h).2.2
  · apply Keeps.forM
    intro i hi
    have hlt := List.mem_range.mp hi
    have hvalue : IsByte values[i] :=
      not_not.mp (mt any_not_isByte_iff.mpr hbyte) _ (List.getElem_mem hlt)
    rw [arrayGet_bind_of_lt hlt]
    refine keeps_writeChannel (fun _ => hvalue) fun h => ?_
    obtain ⟨hf, hlength', -⟩ := hc h
    have hone := hf.one_le_address
    have hadd := hf.address_add_le
    have hsize := hf.length_dmxVals
    have hofNat : (Int32.ofNat i).toInt = i :=
      Int32.toInt_ofNat_of_lt (by omega)
    exact ⟨hf, by omega, by omega, hvalue⟩

theorem isByte_ofNat (n : UInt8) : IsByte (Int32.ofNat n.toNat) := by
  have hlt := n.toNat_lt
  have hofNat : (Int32.ofNat n.toNat).toInt = n.toNat :=
    Int32.toInt_ofNat_of_lt (by omega)
  unfold IsByte
  omega

theorem keeps_setColor {color : Color} (hc : c → Usable f) :
    Keeps f bytes c (setColor color) := by
  have hred : IsByte color.getRed := isByte_ofNat _
  have hgreen : IsByte color.getGreen := isByte_ofNat _
  have hblue : IsByte color.getBlue := isByte_ofNat _
  have hstore : ∀ {s : String} {o v : Int32},
      f.channelMap.lookup s = some o → IsByte v →
        Keeps f bytes c (storeMirror o v) := by
    intro s o v ho hv
    refine keeps_storeMirror (fun _ => hv) fun h => ?_
    rw [(hc h).length_dmxVals]
    exact (hc h).offset s o ho
  have hwrite : ∀ {s : String} {o v : Int32},
      f.channelMap.lookup s = some o → IsByte v →
        Keeps f bytes c (callDriver
          (DefaultDMX.setDMX (f.address + o) [v])) := by
    intro s o v ho hv
    refine keeps_setDMX (fun h => (hc h).dmxDriver) fun h => ?_
    obtain ⟨hlo, hhi⟩ := (hc h).offset s o ho
    exact (hc h).mounted.accepts_singleton hlo hhi hv
  apply Keeps.get_bind
  intro l hl
  rw [hl.channelMap_eq]
  refine Keeps.ite (fun hrgb => Keeps.throwNew (fun h => hrgb ?_) _) fun _ => ?_
  · exact ⟨(hc h).red, (hc h).green, (hc h).blue⟩
  refine keeps_channelOffset_bind (fun h => (hc h).red) fun r hr =>
    keeps_channelOffset_bind (fun h => (hc h).green) fun g hg =>
      keeps_channelOffset_bind (fun h => (hc h).blue) fun b hb =>
        (hstore hr hred).bind fun _ => (hstore hg hgreen).bind fun _ =>
          (hstore hb hblue).bind fun _ => Keeps.get_bind fun l hl => ?_
  rw [hl.address_eq]
  refine Keeps.ite (fun hrgb => ?_) fun _ =>
    (hwrite hr hred).bind fun _ => (hwrite hg hgreen).bind fun _ =>
      hwrite hb hblue
  refine keeps_setDMX (fun h => (hc h).dmxDriver) fun h => ?_
  obtain ⟨rfl, rfl, rfl⟩ := hrgb
  have hlast := ((hc h).offset _ _ hb).2
  have h1 : (1 : Int32).toInt = 1 := rfl
  have h3 : (3 : Int32).toInt = 3 := rfl
  apply (hc h).mounted.accepts (by omega)
  · simp only [List.length_cons, List.length_nil]
    omega
  · exact Nat.le_add_left 1 2
  · exact Nat.le_add_left 3 1
  · intro v hv
    simp only [List.mem_cons, List.not_mem_nil, or_false] at hv
    rcases hv with rfl | rfl | rfl
    · exact hred
    · exact hgreen
    · exact hblue

theorem keeps_setWhite {intensity : Int32}
    (hc : c → Usable f ∧ IsByte intensity) :
    Keeps f bytes c (setWhite intensity) := by
  apply Keeps.get_bind
  intro l hl
  rw [hl.channelMap_eq]
  cases hw : f.channelMap.lookup "white" with
  | none => exact keeps_setColor fun h => (hc h).1
  | some o =>
      refine keeps_setChannelManual fun h => ?_
      obtain ⟨hf, hbyte⟩ := hc h
      obtain ⟨hlo, hhi⟩ := hf.offset _ _ hw
      exact ⟨hf.mounted, hlo, hhi, hbyte⟩

theorem keeps_setDimmerValue {dimmerVal : Int32}
    (hc : c → Mounted f ∧ (f.channelMap.lookup "dimmer").isSome ∧
      IsByte dimmerVal) :
    Keeps f bytes c (setDimmerValue dimmerVal) := by
  unfold setDimmerValue
  refine Keeps.ite (fun hbyte => Keeps.throwNew (fun h => ?_) _) fun hbyte => ?_
  · exact isByte_iff.mp (hc h).2.2 hbyte
  · refine keeps_channelOffset_bind (fun h => (hc h).2.1) fun o ho => ?_
    refine keeps_writeChannel (fun _ => isByte_iff.mpr hbyte) fun h => ?_
    obtain ⟨hf, -, hv⟩ := hc h
    obtain ⟨hlo, hhi⟩ := hf.offset _ _ ho
    exact ⟨hf, hlo, hhi, hv⟩

theorem keeps_clearLight (hc : c → Mounted f) :
    Keeps f bytes c clearLight := by
  apply Keeps.get_bind
  intro l hl
  rw [hl.channelMap_eq]
  apply Keeps.forM
  intro i hi
  have hlt := List.mem_range.mp hi
  refine keeps_setChannelManual fun h => ?_
  have hone := (hc h).one_le_address
  have hadd := (hc h).address_add_le
  have hofNat : (Int32.ofNat i).toInt = i :=
    Int32.toInt_ofNat_of_lt (by omega)
  exact ⟨hc h, by omega, by omega, by decide⟩

/-- The values that `getDmx` returns. -/
theorem callDriver_getDmx_triple (hdriver : c → f.dmxDriver ≠ none) :
    Triple (Kept f bytes) (callDriver DefaultDMX.getDmx)
      (fun dmx l => Kept f bytes l ∧ dmx.length = 513 ∧
        (bytes → ∀ v ∈ dmx, IsByte v))
      (fun e l => Kept f bytes l ∧ (c → e.IsIOException)) := by
  refine Triple.get_bind fun l hl => Triple.ite (fun hnull => ?_) fun _ => ?_
  · rw [hl.dmxDriver_eq] at hnull
    exact Triple.throw fun _ hl => ⟨hl, fun h => absurd hnull (hdriver h)⟩
  · have hget : Triple (fun d => bytes → ∀ a, IsByte (d.dmxShadow a))
        DefaultDMX.getDmx
        (fun dmx d => (bytes → ∀ a, IsByte (d.dmxShadow a)) ∧
          dmx.length = 513 ∧ (bytes → ∀ v ∈ dmx, IsByte v))
        (fun _ _ => False) := by
      refine fun d hd => ⟨hd, List.length_ofFn, fun hb v hv => ?_⟩
      obtain ⟨a, rfl⟩ := List.mem_ofFn.mp hv
      exact hd hb a
    refine Triple.zoom hget (fun l hl => hl.shadow)
      (fun l dmx d hl hd => ?_) fun l e d hl hd => hd.elim
    exact ⟨⟨hl.setup, hl.length, hl.mirror, hd.1⟩, hd.2⟩

/-- `syncLight` copies the values of the driver into the mirror. -/
theorem keeps_syncLight (hc : c → Mounted f) : Keeps f bytes c syncLight := by
  refine Triple.bind
    (callDriver_getDmx_triple fun h => (hc h).dmxDriver) fun dmx => ?_
  refine Triple.get_bind fun l hl => Triple.ite
    (fun hrange => Triple.modify fun l' hl' => ?_) fun hnot => ?_
  · obtain ⟨hkept, hlength, hbytes⟩ := hl'
    obtain ⟨hlo, hhi, hsize⟩ := hrange
    rw [hl.1.address_eq] at hlo hhi
    rw [hl.1.channelMap_eq, hl.1.length] at hsize
    rw [hl.1.channelMap_eq] at hhi
    refine ⟨?_, ?_, fun hb v hv => ?_, hkept.shadow⟩
    · show mirrorOf l'.fixture dmx = _
      unfold mirrorOf
      rw [hkept.setup]
    · show (mirrorOf l'.fixture dmx).dmxVals.length = _
      simp only [mirrorOf, hkept.address_eq, hkept.channelMap_eq,
        List.length_append, List.length_take, List.length_drop, hkept.length]
      omega
    · rcases List.mem_append.mp hv with hv | hv
      · exact hbytes hb v (List.mem_of_mem_drop (List.mem_of_mem_take hv))
      · exact hkept.mirror hb v (List.mem_of_mem_drop hv)
  · refine Triple.throw fun _ hl' => ⟨hl'.1, fun h => absurd ?_ hnot⟩
    rw [hl.1.address_eq, hl.1.channelMap_eq, hl.2.1, hl.1.length,
      (hc h).length_dmxVals]
    have hone := (hc h).one_le_address
    have hadd := (hc h).address_add_le
    omega

theorem keeps_hasColor (hc : c → Mounted f) : Keeps f bytes c hasColor := by
  refine Keeps.get_bind fun l hl => Keeps.anyM fun color _ => ?_
  rw [hl.channelMap_eq]
  cases hlookup : f.channelMap.lookup color with
  | none => exact Keeps.pure _
  | some offset =>
      have hoffset : c → 0 ≤ offset.toInt ∧
          offset.toInt < l.fixture.dmxVals.length := by
        intro h
        rw [hl.length, (hc h).length_dmxVals]
        exact (hc h).offset color offset hlookup
      refine Keeps.ite (fun hpos => ?_) fun hneg =>
        Keeps.throwNew (fun h => hneg (hoffset h).1) _
      refine (keeps_arrayGet fun h => ?_).bind fun _ => Keeps.pure _
      have hlt := (hoffset h).2
      omega

/-- `syncLight` works on every mounted fixture. -/
theorem Mounted.syncLight_eq (h : Mounted f) (dmx : DefaultDMX) :
    syncLight ⟨dmx, f⟩ =
      .ok ⟨⟩ ⟨dmx, mirrorOf f (List.ofFn dmx.dmxShadow)⟩ := by
  have hget : callDriver DefaultDMX.getDmx ⟨dmx, f⟩ =
      .ok (List.ofFn dmx.dmxShadow) ⟨dmx, f⟩ := by
    unfold callDriver
    rw [bind_of_ok (x := get) rfl, if_neg h.dmxDriver]
    rfl
  have hlength : (List.ofFn dmx.dmxShadow).length = 513 := List.length_ofFn
  have hone := h.one_le_address
  have hpos : 0 ≤ f.address.toInt := by omega
  unfold syncLight
  rw [bind_of_ok hget, bind_of_ok (x := get) rfl, hlength,
    if_pos ⟨hpos, h.address_add_le, h.length_dmxVals.ge⟩]
  rfl

end ChuckLight.Light
