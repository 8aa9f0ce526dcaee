import ChuckLight.Lighting.ChannelOffsets
import ChuckLight.Lighting.FixtureKeeps
import ChuckLight.Support.Runs

/-!
# Fixtures within the DMX universe

Three entry points check that a fixture stays within addresses 1 to 512: the
constructor, `readObject` and `setAddress`.  Each lets some arguments through.
`valid_states_iff` says for whole lives of fixtures which arguments keep the
invariant.
-/

namespace ChuckLight.FixtureProfile

open Java

/-- The invariant of a fixture: a name, channels numbered from zero within the
DMX universe, and a mirror of their number. -/
structure Valid (f : FixtureProfile) : Prop where
  name : ∃ n, f.name = some n ∧ n ≠ ""
  one_le_address : 1 ≤ f.address.toInt
  one_le_size : 1 ≤ f.channelMap.size
  size_le : f.channelMap.size ≤ 512
  address_le : f.address.toInt + f.channelMap.size - 1 ≤ 512
  offsets : ∃ names : List String, names.Nodup ∧
    names.length = f.channelMap.size ∧
      ∀ s o, f.channelMap.lookup s = some o ↔
        ∃ k : ℕ, names[k]? = some s ∧ o.toInt = k
  length_dmxVals : f.dmxVals.length = f.channelMap.size

/-- The part of the invariant that every fixture has. -/
structure Formed (f : FixtureProfile) : Prop where
  one_le_size : 1 ≤ f.channelMap.size
  size_lt : f.channelMap.size < 2 ^ 31
  offsets : ∃ names, Offsets f.channelMap names
  length_dmxVals : f.dmxVals.length = f.channelMap.size

/-- The part of the invariant that the arguments decide. -/
structure Placed (f : FixtureProfile) : Prop where
  name : ∃ n, f.name = some n ∧ n ≠ ""
  one_le_address : 1 ≤ f.address.toInt
  address_add_le : f.address.toInt + f.channelMap.size ≤ 513

variable {f : FixtureProfile}

theorem Formed.valid_iff (h : Formed f) : Valid f ↔ Placed f := by
  constructor
  · intro hv
    have hle := hv.address_le
    exact ⟨hv.name, hv.one_le_address, by omega⟩
  · intro hp
    have hone := hp.one_le_address
    have hle := hp.address_add_le
    have hlt := h.size_lt
    obtain ⟨names, hnames⟩ := h.offsets
    have hsize := hnames.size_eq
    refine ⟨hp.name, hone, h.one_le_size, by omega, by omega,
      ⟨names, hnames.nodup, hsize.symm, fun s o => ?_⟩, h.length_dmxVals⟩
    rw [hnames.lookup_iff]
    apply exists_congr
    intro k
    apply and_congr_right
    intro hk
    have hklt := (List.getElem?_eq_some_iff.mp hk).1
    have hofNat : (Int32.ofNat k).toInt = k :=
      Int32.toInt_ofNat_of_lt (by omega)
    constructor
    · rintro rfl
      exact hofNat
    · intro ho
      exact Int32.toInt_inj.mp (ho.trans hofNat.symm)

/-! ## The constructor -/

/-- The object that the constructor returns, and the checks it has passed. -/
theorem create_eq_ok {dmx : DriverRef} {fixtureName : Option StringRef}
    {dmxAddress : Int32} {channels : Option (List (Option String))}
    (h : create dmx fixtureName dmxAddress channels = .ok f) :
    ∃ name names channelMap, dmx ≠ none ∧ fixtureName = some name ∧
      ¬ name.SameAs "" ∧ 1 ≤ dmxAddress.toInt ∧
      channels = some (names.map some) ∧ 1 ≤ names.length ∧
      names.length ≤ 512 ∧ (∀ s ∈ names, s ≠ "") ∧
      Offsets channelMap names ∧
      f =
        { dmxDriver := dmx
          name := some name.value
          address := dmxAddress
          defaultColorOffs := defaultColor channelMap
          isSelected := false
          channelMap := channelMap
          dmxVals := List.replicate names.length 0 } := by
  unfold create at h
  by_cases hdmx : dmx = none
  · simp only [if_pos hdmx] at h
    cases h
  simp only [if_neg hdmx] at h
  cases fixtureName with
  | none => cases h
  | some name =>
      by_cases hname : name.SameAs ""
      · simp only [if_pos hname] at h
        cases h
      simp only [if_neg hname] at h
      by_cases haddress : dmxAddress < 1
      · simp only [if_pos haddress] at h
        cases h
      simp only [if_neg haddress] at h
      cases channels with
      | none => cases h
      | some channels =>
          by_cases hlength : channels.length < 1 ∨ channels.length > 512
          · simp only [if_pos hlength] at h
            cases h
          simp only [if_neg hlength] at h
          by_cases hbound : Int32.ofNat channels.length + 0 > 513
          · simp only [if_pos hbound] at h
            cases h
          simp only [if_neg hbound] at h
          cases hadd : addChannels ∅ 0 channels with
          | error e =>
              rw [hadd] at h
              cases h
          | ok channelMap =>
              rw [hadd] at h
              injection h with h
              obtain ⟨names, rfl, hne, hoffsets⟩ :=
                addChannels_eq_ok offsets_empty hadd
              rw [List.nil_append] at hoffsets
              rw [List.length_map] at hlength h
              rw [Int32.lt_iff_toInt_lt] at haddress
              have h1 : (1 : Int32).toInt = 1 := rfl
              exact ⟨name, names, channelMap, hdmx, rfl, hname, by omega, rfl,
                by omega, by omega, hne, hoffsets, h.symm⟩

/-- What the constructor accepts. -/
theorem create_ok (name : StringRef) (dmxAddress : Int32)
    (names : List String) (hname : ¬ name.SameAs "")
    (haddress : 1 ≤ dmxAddress.toInt) (hpos : 1 ≤ names.length)
    (hle : names.length ≤ 512) (hne : ∀ s ∈ names, s ≠ "")
    (hnodup : names.Nodup) :
    ∃ f, create (some ()) (some name) dmxAddress (some (names.map some)) =
        .ok f ∧ Offsets f.channelMap names := by
  obtain ⟨m, hadd, hoffsets⟩ := addChannels_ok offsets_empty hne hnodup
  have hlow : ¬ dmxAddress < 1 := by
    rw [Int32.lt_iff_toInt_lt]
    have h1 : (1 : Int32).toInt = 1 := rfl
    omega
  have hlength : ¬ ((names.map some).length < 1 ∨
      (names.map some).length > 512) := by
    rw [List.length_map]
    omega
  have hbound : ¬ Int32.ofNat (names.map some).length + 0 > 513 := by
    have hnat : (Int32.ofNat (names.map some).length).toInt =
        (names.map some).length := by
      rw [List.length_map]
      exact Int32.toInt_ofNat_of_lt (by omega)
    have h513 : (513 : Int32).toInt = 513 := rfl
    rw [Int32.add_zero, gt_iff_lt, Int32.lt_iff_toInt_lt, hnat, h513,
      List.length_map]
    omega
  unfold create
  simp only [reduceCtorEq, if_false, if_neg hname, if_neg hlow,
    if_neg hlength, if_neg hbound]
  rw [show addChannels ∅ 0 (names.map some) = .ok m from hadd]
  exact ⟨_, rfl, hoffsets⟩

/-- The object that `readObject` returns, and the checks it has passed. -/
theorem readObject_eq_ok {stream rest : List StreamItem}
    (h : readObject stream = .ok f rest) :
    ∃ name address color numChannels names channelMap,
      stream = .string (some name) :: .int address :: .int color ::
        .int numChannels ::
          (names.map (fun s => .string (some s)) ++ rest) ∧
      name ≠ "" ∧ numChannels.toInt = names.length ∧ 1 ≤ names.length ∧
      (numChannels + address).toInt ≤ 513 ∧ Offsets channelMap names ∧
      f =
        { dmxDriver := none
          name := some name
          address := address
          defaultColorOffs := color
          isSelected := false
          channelMap := channelMap
          dmxVals := List.replicate channelMap.size 0 } := by
  rw [readObject] at h
  obtain ⟨name, st₁, hname, hrest⟩ := exists_of_bind_eq_ok h
  clear h
  have hstream := readString_eq_ok hname
  cases name with
  | none => cases hrest
  | some name =>
      by_cases hempty : name.length = 0
      · simp only [if_pos hempty] at hrest
        cases hrest
      simp only [if_neg hempty] at hrest
      obtain ⟨address, st₂, haddress, hrest₂⟩ := exists_of_bind_eq_ok hrest
      obtain ⟨color, st₃, hcolor, hrest₃⟩ := exists_of_bind_eq_ok hrest₂
      obtain ⟨numChannels, st₄, hnum, hrest₄⟩ := exists_of_bind_eq_ok hrest₃
      obtain ⟨channelMap, st₅, hchannels, hlast⟩ :=
        exists_of_bind_eq_ok hrest₄
      clear hrest hrest₂ hrest₃ hrest₄
      obtain ⟨names, hlength, hnames, -, hoffsets⟩ :=
        readChannels_eq_ok offsets_empty hchannels
      rw [List.nil_append] at hoffsets
      by_cases hoffs : color < 0 ∨ color ≥ numChannels
      · rw [if_pos hoffs] at hlast
        cases hlast
      rw [if_neg hoffs] at hlast
      by_cases hbound : numChannels + address > 513
      · rw [if_pos hbound] at hlast
        cases hlast
      rw [if_neg hbound] at hlast
      injection hlast with hf hst
      rw [hstream, readInt_eq_ok haddress, readInt_eq_ok hcolor,
        readInt_eq_ok hnum, hnames, hst]
      simp only [ge_iff_le, Int32.lt_iff_toInt_lt, Int32.le_iff_toInt_le]
        at hoffs
      rw [gt_iff_lt, Int32.lt_iff_toInt_lt] at hbound
      have h0 : (0 : Int32).toInt = 0 := rfl
      have h513 : (513 : Int32).toInt = 513 := rfl
      refine ⟨name, address, color, numChannels, names, channelMap, rfl, ?_,
        by omega, by omega, by omega, hoffsets, hf.symm⟩
      rintro rfl
      exact hempty rfl

/-! ## Where fixtures come from -/

/-- How a fixture comes into existence. -/
inductive Origin where
  | constructor (dmx : DriverRef) (fixtureName : Option StringRef)
      (dmxAddress : Int32) (channels : Option (List (Option String)))
  | stream (items : List StreamItem)

/-- The fixture, unless the arguments are rejected. -/
def Origin.fixture? : Origin → Option FixtureProfile
  | .constructor dmx fixtureName dmxAddress channels =>
      (create dmx fixtureName dmxAddress channels).toOption
  | .stream items =>
      match readObject items with
      | .ok f _ => some f
      | .error _ _ => none

/-- The condition on arguments that are accepted: a constructor gets a name
that is not empty and an address that leaves room for the channels; a stream
holds an address from one on whose sum with the number of channels does not
wrap. -/
def Origin.Meets : Origin → Prop
  | .constructor _ fixtureName dmxAddress channels =>
      (fixtureName.map StringRef.value).getD "" ≠ "" ∧
        dmxAddress.toInt + (channels.getD []).length ≤ 513
  | .stream (_ :: .int address :: _ :: .int numChannels :: _) =>
      1 ≤ address.toInt ∧ address.toInt + numChannels.toInt < 2 ^ 31
  | .stream _ => False

theorem Origin.create_of_fixture? {dmx : DriverRef}
    {fixtureName : Option StringRef} {dmxAddress : Int32}
    {channels : Option (List (Option String))}
    (h : (constructor dmx fixtureName dmxAddress channels).fixture? = some f) :
    create dmx fixtureName dmxAddress channels = .ok f := by
  have hcreate : (create dmx fixtureName dmxAddress channels).toOption =
      some f := h
  cases hresult : create dmx fixtureName dmxAddress channels with
  | error e =>
      rw [hresult] at hcreate
      cases hcreate
  | ok g =>
      rw [hresult] at hcreate
      cases hcreate
      rfl

theorem Origin.readObject_of_fixture? {items : List StreamItem}
    (h : (stream items).fixture? = some f) :
    ∃ rest, readObject items = .ok f rest := by
  have hread : (match readObject items with
    | .ok f _ => some f
    | .error _ _ => none) = some f := h
  cases hresult : readObject items with
  | error e rest =>
      simp only [hresult] at hread
      cases hread
  | ok g rest =>
      simp only [hresult] at hread
      cases hread
      exact ⟨rest, rfl⟩

theorem Origin.formed {o : Origin} (h : o.fixture? = some f) : Formed f := by
  cases o with
  | constructor dmx fixtureName dmxAddress channels =>
      obtain ⟨name, names, m, -, -, -, -, -, hone, hle, -, hoffsets, rfl⟩ :=
        create_eq_ok (create_of_fixture? h)
      have hsize := hoffsets.size_eq
      constructor
      · show 1 ≤ m.size
        omega
      · show m.size < 2 ^ 31
        omega
      · exact ⟨names, hoffsets⟩
      · exact List.length_replicate.trans hsize.symm
  | stream items =>
      obtain ⟨rest, hread⟩ := readObject_of_fixture? h
      obtain ⟨name, address, color, numChannels, names, m, -, -, hnum, hone, -,
        hoffsets, rfl⟩ := readObject_eq_ok hread
      have hsize := hoffsets.size_eq
      have hlt := numChannels.toInt_lt
      constructor
      · show 1 ≤ m.size
        omega
      · show m.size < 2 ^ 31
        omega
      · exact ⟨names, hoffsets⟩
      · exact List.length_replicate

/-- An accepted fixture satisfies the invariant exactly if its arguments meet
the condition. -/
theorem Origin.valid_iff {o : Origin} (h : o.fixture? = some f) :
    Valid f ↔ o.Meets := by
  rw [(Origin.formed h).valid_iff]
  cases o with
  | constructor dmx fixtureName dmxAddress channels =>
      obtain ⟨name, names, m, -, rfl, -, haddress, rfl, -, -, -, hoffsets,
        rfl⟩ := create_eq_ok (create_of_fixture? h)
      have hsize := hoffsets.size_eq
      have hlength : (names.map some).length = names.length :=
        List.length_map some
      constructor
      · rintro ⟨⟨n, hn, hne⟩, -, hle⟩
        cases hn
        refine ⟨hne, ?_⟩
        show dmxAddress.toInt + (names.map some).length ≤ 513
        rw [hlength, ← hsize]
        exact hle
      · rintro ⟨hne, hle⟩
        refine ⟨⟨name.value, rfl, hne⟩, haddress, ?_⟩
        show dmxAddress.toInt + m.size ≤ 513
        rw [hsize, ← hlength]
        exact hle
  | stream items =>
      obtain ⟨rest, hread⟩ := readObject_of_fixture? h
      obtain ⟨name, address, color, numChannels, names, m, rfl, hne, hnum,
        hone, hle, hoffsets, rfl⟩ := readObject_eq_ok hread
      have hsize := hoffsets.size_eq
      show _ ↔ 1 ≤ address.toInt ∧
        address.toInt + numChannels.toInt < 2 ^ 31
      constructor
      · intro hp
        have hlow : 1 ≤ address.toInt := hp.one_le_address
        have hadd : address.toInt + m.size ≤ 513 := hp.address_add_le
        constructor
        · exact hlow
        · omega
      · rintro ⟨hlow, hlt⟩
        rw [toInt_add_of_le (by omega) (by omega)] at hle
        refine ⟨⟨name, rfl, hne⟩, hlow, ?_⟩
        show address.toInt + m.size ≤ 513
        omega

/-! ## Calls -/

/-- A call that changes a fixture. -/
inductive Call where
  | setAddress (address : Int32)
  | setFixtureName (name : Option String)
  | setSelected (selected : Bool)
  | setDMXDriver (driver : DriverRef)
  | setDMXVals (dmxValueArray : List Int32)
  | setWhite (intensity : Int32)
  | setColor (color : Color)
  | setDimmerValue (dimmerVal : Int32)
  | setChannelManual (channel value : Int32)
  | syncLight
  | clearLight

/-- The call on a fixture and the driver. -/
def Call.run : Call → Run Light Unit
  | .setAddress address => fun l =>
      match l.fixture.setAddress address with
      | .ok f => .ok ⟨⟩ { l with fixture := f }
      | .error e => .error (.thrown e) l
  | .setFixtureName name =>
      modify fun l => { l with fixture := l.fixture.setFixtureName name }
  | .setSelected selected =>
      modify fun l => { l with fixture := l.fixture.setSelected selected }
  | .setDMXDriver driver =>
      modify fun l => { l with fixture := l.fixture.setDMXDriver driver }
  | .setDMXVals dmxValueArray => Light.setDMXVals dmxValueArray
  | .setWhite intensity => Light.setWhite intensity
  | .setColor color => Light.setColor color
  | .setDimmerValue dimmerVal => Light.setDimmerValue dimmerVal
  | .setChannelManual channel value => Light.setChannelManual channel value
  | .syncLight => Light.syncLight
  | .clearLight => Light.clearLight

/-- The fixture after a call, accepted or not, with the driver as it stands at
the call. -/
def afterCall (f : FixtureProfile) (input : DefaultDMX × Call) :
    FixtureProfile :=
  (stateAfter input.2.run ⟨input.1, f⟩).fixture

/-- The condition on a call: an address from one on whose sum with the number
of channels does not wrap, and a name that is not empty. -/
def Call.Meets (f : FixtureProfile) : Call → Prop
  | .setAddress address =>
      1 ≤ address.toInt ∧ address.toInt + f.channelMap.size < 2 ^ 31
  | .setFixtureName name => name.getD "" ≠ ""
  | _ => True

/-- Validity depends on the setup of a fixture and the length of its mirror. -/
theorem Valid.congr {g : FixtureProfile} (h : Valid f) (hname : g.name = f.name)
    (haddress : g.address = f.address)
    (hmap : g.channelMap = f.channelMap)
    (hlength : g.dmxVals.length = f.dmxVals.length) : Valid g := by
  constructor
  · rw [hname]
    exact h.name
  · rw [haddress]
    exact h.one_le_address
  · rw [hmap]
    exact h.one_le_size
  · rw [hmap]
    exact h.size_le
  · rw [haddress, hmap]
    exact h.address_le
  · rw [hmap]
    exact h.offsets
  · rw [hmap, hlength]
    exact h.length_dmxVals

/-- The methods that use the driver keep a fixture valid. -/
theorem Valid.stateAfter_of_keeps {x : Run Light Unit} (dmx : DefaultDMX)
    (h : Valid f) (hx : Light.Keeps f False False x) :
    Valid (stateAfter x ⟨dmx, f⟩).fixture := by
  have hstart : Light.Kept f False ⟨dmx, f⟩ :=
    ⟨rfl, rfl, fun hf => hf.elim, fun hf => hf.elim⟩
  have hkept : Light.Kept f False (stateAfter x ⟨dmx, f⟩) :=
    Triple.stateAfter (hx.conseq (fun _ h => h) (fun _ _ h => h)
      fun _ _ h => h.1) hstart
  refine h.congr ?_ hkept.address_eq hkept.channelMap_eq hkept.length
  rw [hkept.setup]

theorem afterCall_setAddress (dmx : DefaultDMX) (address : Int32) :
    afterCall f (dmx, .setAddress address) =
      if address + Int32.ofNat f.channelMap.size > 513 then f
      else { f with address := address } := by
  by_cases hbound : address + Int32.ofNat f.channelMap.size > 513
  · simp only [afterCall, stateAfter, Call.run, setAddress, if_pos hbound]
  · simp only [afterCall, stateAfter, Call.run, setAddress, if_neg hbound]

/-- `setAddress` keeps a fixture valid exactly if its argument meets the
condition. -/
theorem Valid.setAddress_iff (h : Valid f) (dmx : DefaultDMX)
    (address : Int32) :
    Valid (afterCall f (dmx, .setAddress address)) ↔
      1 ≤ address.toInt ∧ address.toInt + f.channelMap.size < 2 ^ 31 := by
  have hsize := h.size_le
  have hone := h.one_le_size
  have hofNat : (Int32.ofNat f.channelMap.size).toInt = f.channelMap.size :=
    Int32.toInt_ofNat_of_lt (by omega)
  have h513 : (513 : Int32).toInt = 513 := rfl
  have hmin := address.le_toInt
  have hmax := address.toInt_lt
  rw [afterCall_setAddress]
  by_cases hbound : address + Int32.ofNat f.channelMap.size > 513
  · rw [if_pos hbound]
    rw [gt_iff_lt, Int32.lt_iff_toInt_lt, h513] at hbound
    refine iff_of_true h ?_
    by_cases hlt : address.toInt + f.channelMap.size < 2 ^ 31
    · rw [toInt_add_of_le (by omega) (by omega)] at hbound
      exact ⟨by omega, hlt⟩
    · rw [toInt_add_of_ge (by omega)] at hbound
      omega
  · rw [if_neg hbound]
    rw [gt_iff_lt, Int32.lt_iff_toInt_lt, h513] at hbound
    constructor
    · intro hv
      have hlow : 1 ≤ address.toInt := hv.one_le_address
      have hle : address.toInt + f.channelMap.size - 1 ≤ 512 := hv.address_le
      exact ⟨hlow, by omega⟩
    · rintro ⟨hlow, hlt⟩
      rw [toInt_add_of_le (by omega) (by omega)] at hbound
      refine ⟨h.name, hlow, h.one_le_size, h.size_le, ?_, h.offsets,
        h.length_dmxVals⟩
      show address.toInt + f.channelMap.size - 1 ≤ 512
      omega

/-- A call keeps a fixture valid exactly if it meets the condition. -/
theorem Valid.afterCall_iff (h : Valid f) (input : DefaultDMX × Call) :
    Valid (afterCall f input) ↔ input.2.Meets f := by
  obtain ⟨dmx, call⟩ := input
  cases call with
  | setAddress address => exact h.setAddress_iff dmx address
  | setFixtureName name =>
      constructor
      · intro hv
        obtain ⟨n, hn, hne⟩ := hv.name
        cases hn
        exact hne
      · intro hne
        cases name with
        | none => exact absurd rfl hne
        | some n =>
            exact ⟨⟨n, rfl, hne⟩, h.one_le_address, h.one_le_size, h.size_le,
              h.address_le, h.offsets, h.length_dmxVals⟩
  | setSelected selected => exact iff_of_true (h.congr rfl rfl rfl rfl) trivial
  | setDMXDriver driver => exact iff_of_true (h.congr rfl rfl rfl rfl) trivial
  | setDMXVals values =>
      exact iff_of_true (h.stateAfter_of_keeps dmx
        (Light.keeps_setDMXVals fun hf => hf.elim)) trivial
  | setWhite intensity =>
      exact iff_of_true (h.stateAfter_of_keeps dmx
        (Light.keeps_setWhite fun hf => hf.elim)) trivial
  | setColor color =>
      exact iff_of_true (h.stateAfter_of_keeps dmx
        (Light.keeps_setColor fun hf => hf.elim)) trivial
  | setDimmerValue dimmerVal =>
      exact iff_of_true (h.stateAfter_of_keeps dmx
        (Light.keeps_setDimmerValue fun hf => hf.elim)) trivial
  | setChannelManual channel value =>
      exact iff_of_true (h.stateAfter_of_keeps dmx
        (Light.keeps_setChannelManual fun hf => hf.elim)) trivial
  | syncLight =>
      exact iff_of_true (h.stateAfter_of_keeps dmx
        (Light.keeps_syncLight fun hf => hf.elim)) trivial
  | clearLight =>
      exact iff_of_true (h.stateAfter_of_keeps dmx
        (Light.keeps_clearLight fun hf => hf.elim)) trivial

/-! ## Lives of fixtures -/

/-- A fixture satisfies the invariant throughout its life exactly if its origin
and all its calls meet the conditions. -/
theorem valid_states_iff {o : Origin} (h : o.fixture? = some f)
    (calls : List (DefaultDMX × Call)) :
    (∀ g ∈ Runs.states afterCall f calls, Valid g) ↔
      o.Meets ∧
        Runs.AllSteps afterCall (fun g input => input.2.Meets g) f calls := by
  have hrun : (∀ g ∈ Runs.states afterCall f calls, Valid g) ↔
      Valid f ∧
        Runs.AllSteps afterCall (fun g input => input.2.Meets g) f calls :=
    Runs.invariant_iff fun g input hg => Valid.afterCall_iff hg input
  rw [hrun, Origin.valid_iff h]

/-- A light with two channels at address 511. -/
def lastPair : FixtureProfile where
  dmxDriver := some ()
  name := some "par"
  address := 511
  defaultColorOffs := 0
  isSelected := false
  channelMap := (∅ : ChannelMap).insert "red" 0 |>.insert "dimmer" 1
  dmxVals := [0, 0]

/-- A driver that has written nothing. -/
def newDriver : DefaultDMX := ⟨fun _ => 0, [], fun _ => false⟩

theorem valid_states_lastPair :
    Valid (afterCall lastPair (newDriver, .setAddress 3)) :=
  (valid_states_iff
    (o := .constructor (some ()) (some ⟨"par", true⟩) 511
      (some [some "red", some "dimmer"])) (by rfl)
        [(newDriver, .setAddress 3)]).mpr
    ⟨⟨by decide, by decide⟩, ⟨by decide, by decide⟩, trivial⟩ _
    (List.mem_cons_of_mem _ (List.mem_singleton_self _))

/-- The constructor accepts two channels at address 512. -/
theorem create_accepts_beyond_512 :
    ∃ f, create (some ()) (some ⟨"par", true⟩) 512
        (some [some "red", some "dimmer"]) = .ok f ∧ ¬ Valid f := by
  refine ⟨{ lastPair with address := 512 }, by rfl, fun h => ?_⟩
  have hle : (512 : Int32).toInt + (2 : ℕ) - 1 ≤ 512 := h.address_le
  exact absurd hle (by decide)

end ChuckLight.FixtureProfile
