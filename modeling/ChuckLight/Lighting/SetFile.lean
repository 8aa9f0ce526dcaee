import ChuckLight.Lighting.ChannelOffsets
import ChuckLight.Lighting.FixtureValid
import ChuckLight.Lighting.SetPaths
import ChuckLight.Support.StableSort

/-!
# Set files can be read back

A saved set is loaded with the same fixtures in the same order.  Each fixture
must pass the checks of `readObject`, which refuses some fixtures that the
constructor lets through.
-/

namespace ChuckLight

open Java

namespace FixtureProfile

variable {m : ChannelMap} {names : List String} {f g : FixtureProfile}

/-! ## The names in the file -/

/-- The offset of `s` is at most that of `s'`. -/
def OffsetLe (m : ChannelMap) (s s' : String) : Prop :=
  ∀ o o', m.lookup s = some o → m.lookup s' = some o' → o.toInt ≤ o'.toInt

section ChannelNames

variable (h : Offsets m names) (hsize : m.size < 2 ^ 31)

include h in
theorem Offsets.lookup_of_getElem? {k : ℕ} {s : String}
    (hk : names[k]? = some s) : m.lookup s = some (Int32.ofNat k) :=
  (h.lookup_iff s _).mpr ⟨k, hk, rfl⟩

include h hsize in
theorem Offsets.toInt_ofNat {k : ℕ} {s : String}
    (hk : names[k]? = some s) : (Int32.ofNat k).toInt = k := by
  have hlt := (List.getElem?_eq_some_iff.mp hk).1
  rw [← h.size_eq] at hlt
  exact Int32.toInt_ofNat_of_lt (by omega)

include h hsize in
theorem Offsets.pairwise_offsetLe : names.Pairwise (OffsetLe m) := by
  refine List.pairwise_iff_getElem.mpr fun i j hi hj hij o o' ho ho' => ?_
  have hi' := List.getElem?_eq_getElem hi
  have hj' := List.getElem?_eq_getElem hj
  rw [h.lookup_of_getElem? hi'] at ho
  rw [h.lookup_of_getElem? hj'] at ho'
  cases ho
  cases ho'
  rw [h.toInt_ofNat hsize hi', h.toInt_ofNat hsize hj']
  omega

theorem pairwise_channelNames : (channelNames m).Pairwise (OffsetLe m) := by
  have hsorted := StableSort.pairwise_insertionSort_of_key
    (r := fun e e' : Σ _ : String, Int32 => e.2 ≤ e'.2) (fun e => e.2.toInt)
    (l := m.entries) fun _ _ _ _ => Int32.le_iff_toInt_le
  refine List.pairwise_map.mpr (hsorted.imp_of_mem ?_)
  intro e e' he he' hle o o' ho ho'
  have hentry : ∀ e : Σ _ : String, Int32,
      (e ∈ m.entries.insertionSort fun e e' => e.2 ≤ e'.2) →
        m.lookup e.1 = some e.2 := fun e he =>
    AList.mem_lookup_iff.mpr ((List.mem_insertionSort _).mp he)
  rw [hentry e he] at ho
  rw [hentry e' he'] at ho'
  cases ho
  cases ho'
  exact hle

include h hsize in
/-- The names are written in the order of their offsets. -/
theorem Offsets.channelNames_eq : channelNames m = names := by
  have hperm : (channelNames m).Perm names :=
    ((List.perm_insertionSort _ m.entries).map Sigma.fst).trans h.keys_perm
  refine hperm.eq_of_pairwise ?_ pairwise_channelNames
    (h.pairwise_offsetLe hsize)
  intro a b ha hb hab hba
  obtain ⟨i, hi⟩ := List.mem_iff_getElem?.mp (hperm.mem_iff.mp ha)
  obtain ⟨j, hj⟩ := List.mem_iff_getElem?.mp hb
  have hle := hab _ _ (h.lookup_of_getElem? hi) (h.lookup_of_getElem? hj)
  have hge := hba _ _ (h.lookup_of_getElem? hj) (h.lookup_of_getElem? hi)
  rw [h.toInt_ofNat hsize hi, h.toInt_ofNat hsize hj] at hle hge
  have hij : i = j := by omega
  subst hij
  exact Option.some.inj (hi.symm.trans hj)

end ChannelNames

/-! ## One fixture -/

/-- The two fixtures agree in everything that a set file holds. -/
structure SameProfile (f g : FixtureProfile) : Prop where
  name : g.name = f.name
  address : g.address = f.address
  defaultColorOffs : g.defaultColorOffs = f.defaultColorOffs
  channelMap : ∀ s, g.channelMap.lookup s = f.channelMap.lookup s

/-- The fixture has a name and a color channel and lies within the DMX
universe. -/
structure Storable (f : FixtureProfile) : Prop where
  name : f.name ≠ some ""
  color : ∃ color ∈ COLOR_NAMES, (f.channelMap.lookup color).isSome
  address_add_le : f.address.toInt + f.channelMap.size ≤ 513

/-- The default color of a map with a color channel is the offset of some
channel. -/
theorem exists_lookup_defaultColor
    (h : ∃ color ∈ COLOR_NAMES, (m.lookup color).isSome) :
    ∃ color, m.lookup color = some (defaultColor m) := by
  have hsome : (COLOR_NAMES.findSome? fun color => m.lookup color).isSome :=
    List.findSome?_isSome_iff.mpr h
  obtain ⟨o, ho⟩ := Option.isSome_iff_exists.mp hsome
  obtain ⟨color, -, hcolor⟩ := List.exists_of_findSome?_eq_some ho
  refine ⟨color, ?_⟩
  rw [hcolor, defaultColor, ho, Option.getD_some]

/-- Items that describe a fixture with a color channel are read. -/
theorem readObject_items {name : String} {address color : Int32}
    (hname : name ≠ "") (hnodup : names.Nodup) (hne : ∀ s ∈ names, s ≠ "")
    (hcolor : 0 ≤ color.toInt ∧ color.toInt < names.length)
    (hone : 1 ≤ address.toInt) (hadd : address.toInt + names.length ≤ 513) :
    ∃ m, Offsets m names ∧
      readObject (.string (some name) :: .int address :: .int color ::
          .int (Int32.ofNat names.length) ::
            names.map fun s => .string (some s)) =
        .ok
          { dmxDriver := none
            name := some name
            address := address
            defaultColorOffs := color
            isSelected := false
            channelMap := m
            dmxVals := List.replicate m.size 0 } [] := by
  obtain ⟨m, hread, hoffsets⟩ :
      ∃ m, readChannels ∅ 0 names.length
          (names.map (fun s => .string (some s)) ++ []) = .ok m [] ∧
        Offsets m ([] ++ names) :=
    readChannels_map offsets_empty hnodup hne []
  rw [List.append_nil] at hread
  refine ⟨m, hoffsets, ?_⟩
  have hnum : (Int32.ofNat names.length).toInt = names.length :=
    Int32.toInt_ofNat_of_lt (by omega)
  have hcount : (Int32.ofNat names.length).toInt.toNat = names.length := by
    rw [hnum, Int.toNat_natCast]
  have hempty : ¬ name.length = 0 := by
    rw [String.length_eq_zero_iff]
    exact hname
  have h0 : (0 : Int32).toInt = 0 := rfl
  have h513 : (513 : Int32).toInt = 513 := rfl
  have hoffs : ¬ (color < 0 ∨ color ≥ Int32.ofNat names.length) := by
    simp only [ge_iff_le, Int32.lt_iff_toInt_lt, Int32.le_iff_toInt_le, hnum]
    omega
  have hbound : ¬ Int32.ofNat names.length + address > 513 := by
    rw [gt_iff_lt, Int32.lt_iff_toInt_lt,
      toInt_add_of_le (by omega) (by omega), hnum]
    omega
  rw [readObject, bind_of_ok (readString_string _ _ _)]
  simp only [if_neg hempty]
  rw [bind_of_ok (readInt_int _ _), bind_of_ok (readInt_int _ _),
    bind_of_ok (readInt_int _ _), hcount, bind_of_ok hread, if_neg hoffs,
    if_neg hbound]
  rfl

/-- A storable fixture of the constructor is read back. -/
theorem readObject_writeObject {dmx : DriverRef}
    {fixtureName : Option StringRef} {dmxAddress : Int32}
    {channels : Option (List (Option String))}
    (hcreate : create dmx fixtureName dmxAddress channels = .ok f)
    (h : Storable f) :
    ∃ g, readObject (writeObject f) = .ok g [] ∧ SameProfile f g := by
  obtain ⟨name, names, m, -, -, -, hone, -, -, hle, hne, hoffsets, rfl⟩ :=
    create_eq_ok hcreate
  have hsize := hoffsets.size_eq
  have hadd : dmxAddress.toInt + m.size ≤ 513 := h.address_add_le
  have hname : name.value ≠ "" := fun hempty => h.name (congrArg some hempty)
  obtain ⟨color, hcolor⟩ : ∃ color, m.lookup color = some (defaultColor m) :=
    exists_lookup_defaultColor h.color
  have hoffs := hoffsets.lt_size (by omega) hcolor
  obtain ⟨m', hoffsets', hread⟩ :=
    readObject_items hname hoffsets.nodup hne (by rwa [← hsize]) hone
      (by rwa [← hsize])
  rw [← hsize] at hread
  rw [writeObject]
  simp only [hoffsets.channelNames_eq (by omega)]
  refine ⟨_, hread, rfl, rfl, rfl, fun s => ?_⟩
  apply Option.ext
  intro o
  rw [hoffsets'.lookup_iff, hoffsets.lookup_iff]

/-! ## The list of fixtures -/

end FixtureProfile

namespace FixtureManager

open FixtureProfile

variable {set_dir : RealPath} {set : List FixtureProfile}

/-- Between addresses from one on, `compareTo` compares the addresses. -/
theorem compareTo_le_iff {f g : FixtureProfile} (hf : 1 ≤ f.address.toInt)
    (hg : 1 ≤ g.address.toInt) :
    (f.compareTo g).toInt ≤ 0 ↔ f.address.toInt ≤ g.address.toInt := by
  have hflt := f.address.toInt_lt
  have hglt := g.address.toInt_lt
  rw [compareTo, toInt_sub_of_le (by omega) (by omega)]
  omega

/-- The sorted set is ordered by address. -/
theorem pairwise_sort (h : ∀ f ∈ set, 1 ≤ f.address.toInt) :
    (sort set).Pairwise fun f g => f.address.toInt ≤ g.address.toInt :=
  StableSort.pairwise_insertionSort_of_key (fun f => f.address.toInt)
    fun f hf g hg => compareTo_le_iff (h f hf) (h g hg)

/-- A set that is ordered by address is not changed by sorting. -/
theorem sort_eq_self (h : ∀ f ∈ set, 1 ≤ f.address.toInt)
    (hsorted : set.Pairwise fun f g => f.address.toInt ≤ g.address.toInt) :
    sort set = set := by
  apply List.Pairwise.insertionSort_eq
  exact hsorted.imp_of_mem fun {f g} hf hg hle =>
    (compareTo_le_iff (h f hf) (h g hg)).mpr hle

/-- The managers that `addFixture` builds from accepted fixtures. -/
structure Built (P : FixtureProfile → Prop) (m : FixtureManager) : Prop where
  length_lt : m.set.length < 2 ^ 31
  forall_mem : ∀ f ∈ m.set, P f
  sorted : m.set.Pairwise fun f g => f.address.toInt ≤ g.address.toInt

theorem built_empty (P : FixtureProfile → Prop) : Built P (empty set_dir) :=
  ⟨Nat.two_pow_pos 31, fun _ hf => absurd hf List.not_mem_nil,
    List.Pairwise.nil⟩

theorem Built.addFixture {P : FixtureProfile → Prop} {m m' : FixtureManager}
    {newFixture : Option FixtureProfile} (h : Built P m)
    (hP : ∀ f, P f → 1 ≤ f.address.toInt)
    (hnew : ∀ f, newFixture = some f → P f)
    (hadd : addFixture m newFixture = .ok m') :
    Built P m' ∧ m'.set_dir = m.set_dir := by
  unfold FixtureManager.addFixture at hadd
  cases newFixture with
  | none =>
      injection hadd with hadd
      subst hadd
      exact ⟨h, rfl⟩
  | some f =>
      dsimp only at hadd
      by_cases hlength : m.set.length + 1 < 2 ^ 31
      · rw [if_pos hlength] at hadd
        injection hadd with hadd
        subst hadd
        have hmem : ∀ g ∈ m.set ++ [f], P g := by
          intro g hg
          rcases List.mem_append.mp hg with hg | hg
          · exact h.forall_mem g hg
          · rw [List.mem_singleton.mp hg]
            exact hnew f rfl
        refine ⟨⟨?_, ?_, ?_⟩, rfl⟩
        · show (sort (m.set ++ [f])).length < 2 ^ 31
          rw [sort, List.length_insertionSort, List.length_append]
          exact hlength
        · intro g hg
          exact hmem g ((List.mem_insertionSort _).mp hg)
        · exact pairwise_sort fun g hg => hP g (hmem g hg)
      · rw [if_neg hlength] at hadd
        cases hadd

/-- The fixtures of a list are added one after another. -/
theorem Built.foldlM {P : FixtureProfile → Prop} {m m' : FixtureManager}
    {fixtures : List (Option FixtureProfile)} (h : Built P m)
    (hP : ∀ f, P f → 1 ≤ f.address.toInt)
    (hfixtures : ∀ f, some f ∈ fixtures → P f)
    (hadd : fixtures.foldlM FixtureManager.addFixture m = .ok m') :
    Built P m' ∧ m'.set_dir = m.set_dir := by
  induction fixtures generalizing m with
  | nil =>
      injection hadd with hadd
      subst hadd
      exact ⟨h, rfl⟩
  | cons newFixture fixtures ih =>
      rw [List.foldlM_cons] at hadd
      cases hfirst : FixtureManager.addFixture m newFixture with
      | error e =>
          rw [hfirst] at hadd
          cases hadd
      | ok m₁ =>
          rw [hfirst] at hadd
          obtain ⟨hbuilt, hdir⟩ := h.addFixture hP
            (fun f hf => hfixtures f (hf ▸ List.mem_cons_self ..)) hfirst
          obtain ⟨hlast, hdir'⟩ := ih hbuilt
            (fun f hf => hfixtures f (List.mem_cons_of_mem _ hf)) hadd
          exact ⟨hlast, hdir'.trans hdir⟩

/-! ## Paths -/

/-- A name without a slash is the name of a file in the directory. -/
theorem setFile_of_plain {filename : List Char} (hslash : '/' ∉ filename)
    (hnul : '\x00' ∉ filename) :
    setFile set_dir (savedName filename) =
      .ok ⟨true, set_dir.names ++ [savedName filename]⟩ := by
  have hlength : 4 ≤ (savedName filename).length :=
    (suffix_savedName filename).length_le
  have hmem : ∀ c ∈ savedName filename,
      c ∈ filename ∨ c ∈ ['.', 's', 'e', 't'] := by
    intro c hc
    unfold savedName at hc
    split_ifs at hc
    · exact Or.inl hc
    · exact List.mem_append.mp hc
  refine setFile_of_ordinary ⟨?_, fun hc => ?_, fun hc => ?_, ?_, ?_⟩
  · exact List.ne_nil_of_length_pos (by omega)
  · rcases hmem _ hc with hc | hc
    · exact hslash hc
    · exact absurd hc (by decide)
  · rcases hmem _ hc with hc | hc
    · exact hnul hc
    · exact absurd hc (by decide)
  · intro hdot
    rw [hdot] at hlength
    exact absurd hlength (by decide)
  · intro hdots
    rw [hdots] at hlength
    exact absurd hlength (by decide)

/-! ## The file -/

/-- The loop over fixtures that can be read. -/
theorem readFixtures_map (dmx : DriverRef)
    (h : ∀ f ∈ set, ∃ g, readObject (writeObject f) = .ok g [] ∧
      SameProfile f g) :
    ∃ gs, readFixtures dmx set.length
        (set.map fun f => .fixture (writeObject f)) = .ok gs [] ∧
      List.Forall₂ SameProfile set gs := by
  induction set with
  | nil => exact ⟨[], rfl, List.Forall₂.nil⟩
  | cons f set ih =>
      obtain ⟨g, hread, hsame⟩ := h f (List.mem_cons_self ..)
      obtain ⟨gs, hrest, hforall⟩ := ih fun f hf =>
        h f (List.mem_cons_of_mem _ hf)
      have hfixture : readFixture dmx (.fixture (writeObject f) ::
          set.map fun f => .fixture (writeObject f)) =
            .ok (g.setDMXDriver dmx)
              (set.map fun f => .fixture (writeObject f)) := by
        unfold readFixture
        rw [bind_of_ok (x := get) rfl]
        dsimp only
        rw [hread]
        rfl
      refine ⟨g.setDMXDriver dmx :: gs, ?_, List.Forall₂.cons ?_ hforall⟩
      · rw [List.length_cons, readFixtures, List.map_cons,
          bind_of_ok hfixture, bind_of_ok hrest]
        rfl
      · exact ⟨hsame.name, hsame.address, hsame.defaultColorOffs,
          hsame.channelMap⟩

/-- A fixture at the end of the stream pushes everything out. -/
theorem flushed_fileItems (hne : set ≠ []) :
    flushed (fileItems set) = fileItems set := by
  refine List.rdropWhile_eq_self_iff.mpr fun hnil hlast => ?_
  have hmap : set.map (fun f => FileItem.fixture (writeObject f)) ≠ [] := by
    rw [Ne, List.map_eq_nil_iff]
    exact hne
  have hget : (fileItems set).getLast hnil =
      .fixture (writeObject (set.getLast hne)) :=
    (List.getLast_cons hmap).trans (List.getLast_map hmap)
  rw [hget] at hlast
  cases hlast

/-- What is read from a sorted set is sorted. -/
theorem sort_eq_self_of_forall₂ {gs : List FixtureProfile}
    (hsame : List.Forall₂ SameProfile set gs)
    (hone : ∀ f ∈ set, 1 ≤ f.address.toInt)
    (hsorted : set.Pairwise fun f g => f.address.toInt ≤ g.address.toInt) :
    sort gs = gs := by
  have haddress : gs.map (fun f => f.address.toInt) =
      set.map fun f => f.address.toInt := by
    clear hone hsorted
    induction hsame with
    | nil => rfl
    | cons hfg _ ih => rw [List.map_cons, List.map_cons, ih, hfg.address]
  apply sort_eq_self
  · intro g hg
    have hmem := List.mem_map_of_mem (f := fun f => f.address.toInt) hg
    rw [haddress] at hmem
    obtain ⟨f, hf, heq⟩ := List.mem_map.mp hmem
    rw [← heq]
    exact hone f hf
  · have hmap := List.pairwise_map.mpr hsorted
    rw [← haddress] at hmap
    exact List.pairwise_map.mp hmap

/-! ## The round trip -/

/-- Whatever is on the disk, saving under one name and loading under the other
succeed, and the loaded set is the saved one. -/
def RoundTrips (m : FixtureManager) (saved loaded : List Char) : Prop :=
  ∀ (dmx : DriverRef) (files : FileSystem), ∃ files' m',
    saveSetFile m saved files = .ok ⟨⟩ files' ∧
      load m.set_dir dmx loaded files' = .ok m' files' ∧
      List.Forall₂ SameProfile m.set m'.set

section Load

variable {dmx : DriverRef} {filename : List Char} {files files' : FileSystem}
  {m : FixtureManager} {path : Path} {items rest : List FileItem}
  {fixtures : List FixtureProfile}

theorem newInputStream_of_some (h : files path = some items) :
    newInputStream path files = .ok items files := by
  unfold newInputStream
  rw [bind_of_ok (x := get) rfl, h]
  rfl

theorem newInputStream_of_none (h : files path = none) :
    newInputStream path files =
      .error (.thrown (.ioException "no such file")) files := by
  unfold newInputStream
  rw [bind_of_ok (x := get) rfl, h]
  rfl

/-- A file that can be read is loaded. -/
theorem load_of_items (hpath : setFile set_dir filename = .ok path)
    (hitems : files path = some items)
    (hread : (do readFixtures dmx (← readCount).toInt.toNat : Run _ _) items =
      .ok fixtures rest) :
    load set_dir dmx filename files = .ok ⟨set_dir, sort fixtures⟩ files := by
  rw [load, hpath]
  show (newInputStream path >>= _) files = _
  rw [bind_of_ok (newInputStream_of_some hitems)]
  simp only [hread]
  rfl

/-- What is loaded has been read from a file. -/
theorem exists_of_load_eq_ok
    (h : load set_dir dmx filename files = .ok m files') :
    ∃ path items fixtures rest, setFile set_dir filename = .ok path ∧
      files path = some items ∧
      (do readFixtures dmx (← readCount).toInt.toNat : Run _ _) items =
        .ok fixtures rest := by
  unfold load at h
  cases hpath : setFile set_dir filename with
  | error e =>
      rw [hpath] at h
      cases h
  | ok path =>
      rw [hpath] at h
      obtain ⟨items, files'', hstream, hrest⟩ :=
        exists_of_bind_eq_ok (x := newInputStream path) h
      cases hitems : files path with
      | none =>
          rw [newInputStream_of_none hitems] at hstream
          cases hstream
      | some items' =>
          rw [newInputStream_of_some hitems] at hstream
          cases hstream
          cases hread : (do readFixtures dmx (← readCount).toInt.toNat :
              Run _ _) items with
          | ok fixtures rest =>
              exact ⟨path, items, fixtures, rest, rfl, hitems, hread⟩
          | error e rest =>
              simp only [hread] at hrest
              cases hrest

end Load

/-- Loading reads what saving has written. -/
theorem load_of_fileItems {path : Path} {filename : List Char}
    {files : FileSystem} {gs : List FixtureProfile} {dmx : DriverRef}
    (hpath : setFile set_dir filename = .ok path)
    (hfile : files path = some (fileItems set)) (hlength : set.length < 2 ^ 31)
    (hread : readFixtures dmx set.length
      (set.map fun f => .fixture (writeObject f)) = .ok gs []) :
    load set_dir dmx filename files = .ok ⟨set_dir, sort gs⟩ files := by
  have hcount : (Int32.ofNat set.length).toInt.toNat = set.length := by
    rw [Int32.toInt_ofNat_of_lt hlength, Int.toNat_natCast]
  have hrun : (do readFixtures dmx (← readCount).toInt.toNat : Run _ _)
      (fileItems set) = .ok gs [] := by
    show readFixtures dmx (Int32.ofNat set.length).toInt.toNat _ = _
    rw [hcount, hread]
  exact load_of_items hpath hfile hrun

/-- A manager of storable fixtures is loaded back under the name under which it
was saved. -/
theorem roundTrips_savedName {fixtures : List (Option FixtureProfile)}
    {m : FixtureManager} {filename : List Char} {path : Path}
    (hcreate : ∀ f, some f ∈ fixtures → ∃ dmx fixtureName dmxAddress channels,
      create dmx fixtureName dmxAddress channels = .ok f)
    (hstorable : ∀ f, some f ∈ fixtures → Storable f)
    (hadd : fixtures.foldlM addFixture (empty set_dir) = .ok m)
    (hne : m.set ≠ [])
    (hpath : setFile set_dir (savedName filename) = .ok path) :
    RoundTrips m filename (savedName filename) := by
  let P : FixtureProfile → Prop := fun f =>
    1 ≤ f.address.toInt ∧ ∃ g, readObject (writeObject f) = .ok g [] ∧
      SameProfile f g
  have hP : ∀ f, some f ∈ fixtures → P f := by
    intro f hf
    obtain ⟨dmx, fixtureName, dmxAddress, channels, hf'⟩ := hcreate f hf
    refine ⟨?_, readObject_writeObject hf' (hstorable f hf)⟩
    obtain ⟨name, names, channelMap, -, -, -, hone, -, -, -, -, -, rfl⟩ :=
      create_eq_ok hf'
    exact hone
  obtain ⟨hbuilt, hdir⟩ :=
    (built_empty P).foldlM (fun f hf => hf.1) hP hadd
  have hdir' : m.set_dir = set_dir := hdir
  intro dmx files
  obtain ⟨gs, hread, hforall⟩ :=
    readFixtures_map dmx fun f hf => (hbuilt.forall_mem f hf).2
  have hsort : sort gs = gs :=
    sort_eq_self_of_forall₂ hforall (fun f hf => (hbuilt.forall_mem f hf).1)
      hbuilt.sorted
  rw [← hdir'] at hpath
  have hsave : saveSetFile m filename files =
      .ok ⟨⟩ (Function.update (Function.update files path none) path
        (some (flushed (fileItems m.set)))) := by
    rw [saveSetFile, hpath]
    rfl
  refine ⟨_, _, hsave, load_of_fileItems hpath ?_ hbuilt.length_lt hread, ?_⟩
  · rw [Function.update_self, flushed_fileItems hne]
  · show List.Forall₂ SameProfile m.set (sort gs)
    rw [hsort]
    exact hforall

/-- The directory of set files in a home directory. -/
def setsDir : RealPath := ⟨[['s', 'e', 't', 's']], by decide⟩

/-- A fixture with the given channels. -/
def fixtureOf (name : String) (address color : Int32) (m : ChannelMap)
    (dmxVals : List Int32) : FixtureProfile :=
  ⟨some (), some name, address, color, false, m, dmxVals⟩

def redDimmer : ChannelMap :=
  (∅ : ChannelMap).insert "red" 0 |>.insert "dimmer" 1

/-- Two fixtures, added against the order of their addresses. -/
def redDimmers : List FixtureProfile :=
  [fixtureOf "spot" 7 0 redDimmer [0, 0], fixtureOf "par" 1 0 redDimmer [0, 0]]

theorem roundTrips_redDimmers :
    RoundTrips ⟨setsDir, redDimmers.reverse⟩ ['a'] (savedName ['a']) := by
  have hmem : ∀ f, some f ∈ redDimmers.map some →
      f = fixtureOf "spot" 7 0 redDimmer [0, 0] ∨
        f = fixtureOf "par" 1 0 redDimmer [0, 0] := by
    intro f hf
    obtain ⟨g, hg, hsome⟩ := List.mem_map.mp hf
    rw [← Option.some.inj hsome]
    exact List.mem_pair.mp hg
  have hadd : (redDimmers.map some).foldlM addFixture (empty setsDir) =
      .ok ⟨setsDir, redDimmers.reverse⟩ := by rfl
  refine roundTrips_savedName ?_ ?_ hadd (List.cons_ne_nil _ _)
    (setFile_of_plain (by decide) (by decide))
  · intro f hf
    rcases hmem f hf with rfl | rfl
    · exact ⟨some (), some ⟨"spot", true⟩, 7,
        some [some "red", some "dimmer"], by rfl⟩
    · exact ⟨some (), some ⟨"par", true⟩, 1,
        some [some "red", some "dimmer"], by rfl⟩
  · intro f hf
    rcases hmem f hf with rfl | rfl <;>
      exact ⟨by decide, ⟨"red", by decide, by rfl⟩, by decide⟩

/-- A name that leaves the directory cannot be saved.  A name that ends in
`.set` already, a fixture without a color channel, one past the end of the DMX
universe, and one with an empty name that is no literal are all accepted and
saved, but cannot be loaded. -/
theorem not_roundTrips_append_set :
    (¬ RoundTrips ⟨setsDir, [fixtureOf "par" 1 0 redDimmer [0, 0]]⟩
        ['.', '.', '/', 'a'] ['.', '.', '/', 'a', '.', 's', 'e', 't']) ∧
      (¬ RoundTrips ⟨setsDir, [fixtureOf "par" 1 0 redDimmer [0, 0]]⟩
        ['.', 's', 'e', 't'] ['.', 's', 'e', 't', '.', 's', 'e', 't']) ∧
      (create (some ()) (some ⟨"par", true⟩) 1 (some [some "dimmer"]) =
          .ok (fixtureOf "par" 1 (-1)
            ((∅ : ChannelMap).insert "dimmer" 0) [0]) ∧
        ¬ RoundTrips ⟨setsDir, [fixtureOf "par" 1 (-1)
          ((∅ : ChannelMap).insert "dimmer" 0) [0]]⟩
          ['a'] ['a', '.', 's', 'e', 't']) ∧
      (create (some ()) (some ⟨"par", true⟩) 512
          (some [some "red", some "dimmer"]) =
            .ok (fixtureOf "par" 512 0 redDimmer [0, 0]) ∧
        ¬ RoundTrips ⟨setsDir, [fixtureOf "par" 512 0 redDimmer [0, 0]]⟩
          ['a'] ['a', '.', 's', 'e', 't']) ∧
      (create (some ()) (some ⟨"", false⟩) 1
          (some [some "red", some "dimmer"]) =
            .ok (fixtureOf "" 1 0 redDimmer [0, 0]) ∧
        ¬ RoundTrips ⟨setsDir, [fixtureOf "" 1 0 redDimmer [0, 0]]⟩
          ['a'] ['a', '.', 's', 'e', 't']) := by
  refine ⟨?_, ?_, ⟨by rfl, ?_⟩, ⟨by rfl, ?_⟩, ⟨by rfl, ?_⟩⟩
  · intro h
    obtain ⟨files', m', hsave, -, -⟩ := h none fun _ => none
    cases hsave
  · intro h
    obtain ⟨files', m', hsave, hload, -⟩ := h none fun _ => none
    cases hsave
    cases hload
  · intro h
    obtain ⟨files', m', hsave, hload, -⟩ := h none fun _ => none
    cases hsave
    cases hload
  · intro h
    obtain ⟨files', m', hsave, hload, -⟩ := h none fun _ => none
    cases hsave
    cases hload
  · intro h
    obtain ⟨files', m', hsave, hload, -⟩ := h none fun _ => none
    cases hsave
    cases hload

end FixtureManager

end ChuckLight
