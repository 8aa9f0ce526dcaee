import ChuckLight.Lighting.FixtureValid
import ChuckLight.Threads.HighlightLedger

/-!
# The permit of the highlight thread

The highlight thread takes its permit for a pass and gives it back at the end.
An exception that leaves the pass ends the thread and takes the permit along,
and then every later call of the server waits for ever.
-/

namespace ChuckLight

open Java

/-! ## Fixtures from the constructor -/

namespace FixtureProfile

/-- The fixture has come out of the constructor.  Its values may have changed
since. -/
def Built (f : FixtureProfile) : Prop :=
  ∃ dmx fixtureName dmxAddress channels g,
    create dmx fixtureName dmxAddress channels = .ok g ∧ f.setup = g.setup

/-- One of the channels is a color. -/
def HasColorChannel (f : FixtureProfile) : Prop :=
  ∃ color ∈ COLOR_NAMES, (f.channelMap.lookup color).isSome

variable {f : FixtureProfile}

theorem mounted_of_create {dmx : DriverRef} {fixtureName : Option StringRef}
    {dmxAddress : Int32} {channels : Option (List (Option String))}
    (h : create dmx fixtureName dmxAddress channels = .ok f)
    (hle : f.address.toInt + f.channelMap.size ≤ 513) : Light.Mounted f := by
  obtain ⟨name, names, channelMap, hdmx, -, -, hone, -, -, hlength, -,
    hoffsets, rfl⟩ := create_eq_ok h
  have hsize : channelMap.size = names.length := hoffsets.size_eq
  refine ⟨hdmx, hone, hle, fun s o ho => ?_, ?_⟩
  · obtain ⟨k, hk, rfl⟩ := (hoffsets.lookup_iff s o).mp ho
    have hlt := (List.getElem?_eq_some_iff.mp hk).1
    have hofNat : (Int32.ofNat k).toInt = k :=
      Int32.toInt_ofNat_of_lt (by omega)
    show _ ∧ _ < (channelMap.size : ℤ)
    omega
  · show (List.replicate names.length (0 : Int32)).length = channelMap.size
    rw [List.length_replicate, hsize]

theorem Built.mounted (h : Built f)
    (hle : f.address.toInt + f.channelMap.size ≤ 513) : Light.Mounted f := by
  obtain ⟨dmx, fixtureName, dmxAddress, channels, g, hcreate, hsetup⟩ := h
  have haddress : f.address = g.address := congrArg (·.1.address) hsetup
  have hmap : f.channelMap = g.channelMap := congrArg (·.1.channelMap) hsetup
  rw [haddress, hmap] at hle
  exact (mounted_of_create hcreate hle).of_setup_eq hsetup

/-- A fixture with a color channel has a default color. -/
theorem Built.defaultColored (h : Built f)
    (hle : f.address.toInt + f.channelMap.size ≤ 513)
    (hcolor : HasColorChannel f) : Light.DefaultColored f := by
  have hmounted := h.mounted hle
  obtain ⟨dmx, fixtureName, dmxAddress, channels, g, hcreate, hsetup⟩ := h
  have hmap : f.channelMap = g.channelMap := congrArg (·.1.channelMap) hsetup
  have hoffs : f.defaultColorOffs = g.defaultColorOffs :=
    congrArg (·.1.defaultColorOffs) hsetup
  obtain ⟨name, names, channelMap, -, -, -, -, -, -, -, -, -, rfl⟩ :=
    create_eq_ok hcreate
  obtain ⟨color, hmem, hsome⟩ := hcolor
  rw [hmap] at hsome
  cases hfind : COLOR_NAMES.findSome? fun color => channelMap.lookup color with
  | none =>
      have hnone := List.findSome?_eq_none_iff.mp hfind color hmem
      rw [hnone] at hsome
      cases hsome
  | some offset =>
      obtain ⟨color', -, hlookup⟩ := List.exists_of_findSome?_eq_some hfind
      have hdefault : f.defaultColorOffs = offset := by
        rw [hoffs]
        show defaultColor channelMap = offset
        unfold defaultColor
        rw [hfind]
        rfl
      have hoffset := hmounted.offset color' offset
        (by rw [hmap]; exact hlookup)
      unfold Light.DefaultColored
      rw [hdefault]
      exact hoffset

end FixtureProfile

namespace HighlightThread

open FixtureProfile Stage

/-! ## The server and the thread -/

/-- The stage of the thread, whether the thread is alive, and how the server
has ended, if it has.  It ends too if it waits for something that never
comes. -/
structure Session where
  stage : Stage HighlightThread
  alive : Bool
  ended : Option Abrupt

/-- A show with one light. -/
def oneLightRig : Rig := ⟨Process.blackout, [Process.parLight]⟩

namespace Session

/-- The thread has been created. -/
def start (r : Rig) : Session := ⟨(r, new), true, none⟩

/-- The thread makes a pass.  An exception ends it. -/
def pass (s : Session) (n : ℕ) : Session :=
  match passUpTo n s.stage with
  | .ok _ st => { s with stage := st }
  | .error (.thrown _) st => { s with stage := st, alive := false }
  | .error .exited st => { s with stage := st, ended := some .exited }
  | .error .blocked _ => s

/-- The server makes a call. -/
def serve (s : Session) (c : Call) : Session :=
  match c.run s.stage with
  | .ok _ st => { s with stage := st }
  | .error e st => { s with stage := st, ended := some e }

def step (s : Session) : Call → Session
  | .pass n =>
      if s.alive = false ∨ s.ended = some .exited then s else s.pass n
  | c => if s.ended.isSome then s else s.serve c

/-- No call has to wait. -/
structure Answers (st : Stage HighlightThread) (count : ℕ) : Prop where
  addLight : ∀ light < count, ∀ st',
    HighlightThread.addLight light st ≠ .error .blocked st'
  removeLight : ∀ light st',
    HighlightThread.removeLight light st ≠ .error .blocked st'
  redrum : ∀ st', HighlightThread.redrum st ≠ .error .blocked st'

/-- The permit is there and no call has to wait, unless the process has
exited. -/
structure Available (s : Session) (count : ℕ) : Prop where
  permit : s.ended ≠ some .exited → s.stage.2.semaphore = true
  answers : s.ended ≠ some .exited → Answers s.stage count
  not_blocked : s.ended ≠ some .blocked

/-- The lights that a pass visits have a dimmer, and a color channel if the
default color may have to be shown. -/
def Provided (s : Session) : Call → Prop
  | .pass n => ∀ light ∈ s.stage.2.lights.take n,
      ∃ f, s.stage.1.profiles[light]? = some f ∧
        (f.channelMap.lookup "dimmer").isSome ∧
          (s.stage.2.updateDefaultColor = true → HasColorChannel f)
  | _ => True

/-! ## The permit in a run -/

/-- The fixtures of a show, out of the constructor and within the universe, and
a driver with bytes. -/
structure Assembled (r : Rig) : Prop where
  built : ∀ f ∈ r.profiles, Built f
  address_add_le : ∀ f ∈ r.profiles,
    f.address.toInt + f.channelMap.size ≤ 513
  bytes : r.Bytes

/-- The server runs and the permit is there, or the process has exited. -/
def Sane (r : Rig) (s : Session) : Prop :=
  s.ended = some .exited ∨
    (s.ended = none ∧ Free s.stage ∧ ∃ ledger, Tended r ledger s.stage)

variable {r : Rig} {s : Session} {c : Call}
  {ledger : List (ℕ × List Int32)} {st : Stage HighlightThread}

theorem Assembled.stocked (h : Assembled r) : r.Stocked :=
  ⟨fun f hf => (h.built f hf).mounted (h.address_add_le f hf), h.bytes⟩

/-- A light with the channels that a pass needs. -/
theorem Assembled.bears (h : Assembled r) (hr : r.Follows st.1) {light : ℕ}
    {f : FixtureProfile} (hf : st.1.profiles[light]? = some f)
    (hdimmer : (f.channelMap.lookup "dimmer").isSome) {updating : Bool}
    (hcolor : updating = true → HasColorChannel f) :
    Bears r updating light := by
  obtain ⟨g, hg, hsetup⟩ := Rig.exists_getElem?_of_setup hr.setup.symm hf
  have hmem := List.mem_of_getElem? hg
  have hmap : g.channelMap = f.channelMap :=
    congrArg (·.1.channelMap) hsetup
  have hle := h.address_add_le g hmem
  refine ⟨g, hg, (h.built g hmem).mounted hle, hmap ▸ hdimmer,
    fun hupdating => (h.built g hmem).defaultColored hle ?_⟩
  unfold HasColorChannel
  rw [hmap]
  exact hcolor hupdating

theorem sane_start (r : Rig) : Sane r (start r) :=
  .inr ⟨rfl, rfl, [], tended_new r⟩

/-- A critical section ends with the permit back, or the process exits. -/
theorem call_cases (h : Assembled r) (hfree : Free s.stage)
    (htended : Tended r ledger s.stage)
    (hc : c.Within r.profiles.length ∧ Provided s c) :
    (∃ st' ledger', c.run s.stage = .ok ⟨⟩ st' ∧ Tended r ledger' st' ∧
        Free st') ∨
      ∃ st', c.run s.stage = .error .exited st' := by
  have hsettles : ∀ {pre : Stage HighlightThread → Prop} {ledger'},
      Settles r pre c.run (fun st => Tended r ledger' st ∧ Free st) →
      pre s.stage → (∃ st' ledger', c.run s.stage = .ok ⟨⟩ st' ∧
        Tended r ledger' st' ∧ Free st') ∨
          ∃ st', c.run s.stage = .error .exited st' := by
    intro pre ledger' hrun hpre
    cases hresult : c.run s.stage with
    | ok _ st' => exact .inl ⟨st', ledger', rfl, hrun.of_ok hpre hresult⟩
    | error e st' =>
        obtain ⟨rfl, -⟩ := hrun.of_error hpre hresult
        exact .inr ⟨st', rfl⟩
  cases c with
  | addLight light =>
      obtain ⟨st', hrun, hst'⟩ :=
        tended_addLight h.stocked htended hfree hc.1
      exact .inl ⟨st', _, hrun, hst'⟩
  | removeLight light =>
      exact hsettles (settles_removeLight h.stocked light) ⟨htended, hfree⟩
  | updateDefaultColor =>
      obtain ⟨st', hrun, hst'⟩ := tended_setUpdateDefaultColor htended hfree
      exact .inl ⟨st', _, hrun, hst'⟩
  | clearHighlighted =>
      obtain ⟨st', hrun, hst'⟩ := tended_clearHighlighted htended hfree
      exact .inl ⟨st', _, hrun, hst'⟩
  | pass n =>
      refine hsettles (settles_passUpTo fun light hlight => ?_)
        ⟨⟨htended, rfl⟩, hfree⟩
      rw [← htended.lights] at hlight
      obtain ⟨f, hf, hdimmer, hcolor⟩ := hc.2 light hlight
      exact h.bears htended.rig hf hdimmer hcolor

theorem sane_serve (h : Assembled r) (hended : s.ended = none)
    (hfree : Free s.stage) (htended : Tended r ledger s.stage)
    (hc : c.Within r.profiles.length ∧ Provided s c) :
    Sane r (s.serve c) := by
  unfold serve
  rcases call_cases h hfree htended hc with
    ⟨st', ledger', hrun, hst', hfree'⟩ | ⟨st', hrun⟩
  · rw [hrun]
    exact .inr ⟨hended, hfree', ledger', hst'⟩
  · rw [hrun]
    exact .inl rfl

theorem sane_pass (h : Assembled r) (hended : s.ended = none)
    (hfree : Free s.stage) (htended : Tended r ledger s.stage) {n : ℕ}
    (hprovided : Provided s (.pass n)) : Sane r (s.pass n) := by
  unfold pass
  rcases call_cases (c := .pass n) h hfree htended ⟨trivial, hprovided⟩ with
    ⟨st', ledger', hrun, hst', hfree'⟩ | ⟨st', hrun⟩
  · have hpass : passUpTo n s.stage = .ok ⟨⟩ st' := hrun
    rw [hpass]
    exact .inr ⟨hended, hfree', ledger', hst'⟩
  · have hpass : passUpTo n s.stage = .error .exited st' := hrun
    rw [hpass]
    exact .inl rfl

theorem step_of_exited (h : s.ended = some .exited) (c : Call) :
    step s c = s := by
  have hsome : s.ended.isSome := by
    rw [h]
    rfl
  cases c with
  | pass n => exact if_pos (.inr h)
  | _ => exact if_pos hsome

theorem sane_step (h : Assembled r) (hs : Sane r s)
    (hc : c.Within r.profiles.length ∧ Provided s c) : Sane r (step s c) := by
  rcases hs with hexited | ⟨hended, hfree, ledger, htended⟩
  · rw [step_of_exited hexited]
    exact .inl hexited
  · have hnot : ¬ s.ended.isSome := by
      rw [hended]
      exact Bool.false_ne_true
    have hserve := sane_serve h hended hfree htended hc
    cases c with
    | pass n =>
        unfold step
        split_ifs with hdead
        · exact .inr ⟨hended, hfree, ledger, htended⟩
        · exact sane_pass h hended hfree htended hc.2
    | _ =>
        show Sane r (if s.ended.isSome then s else s.serve _)
        rw [if_neg hnot]
        exact hserve

theorem answers_of_tended (hr : r.Stocked) (hfree : Free st)
    (htended : Tended r ledger st) : Answers st r.profiles.length := by
  refine ⟨fun light hlt st' hblocked => ?_, fun light st' hblocked => ?_,
    fun st' hblocked => ?_⟩
  · obtain ⟨st'', hrun, -⟩ := tended_addLight hr htended hfree hlt
    cases hrun.symm.trans hblocked
  · have hexited := (settles_removeLight hr light).of_error ⟨htended, hfree⟩
      hblocked
    cases hexited.1
  · rw [← redrumAmid_nil] at hblocked
    have hnone : ∀ (_ : ℕ) ledger, Settles r
        (fun st => Tended r ledger st ∧ Free st)
        (List.forM [] passUpTo) (fun st => Tended r ledger st ∧ Free st) :=
      fun _ _ => Triple.pure fun _ h => h
    have hcases := redrumAmid_cases hr hnone htended hfree
    rcases hcases with ⟨st'', hrun, -⟩ | ⟨st'', hrun, -⟩
    · cases hrun.symm.trans hblocked
    · cases hrun.symm.trans hblocked

theorem Sane.available (h : Assembled r) (hs : Sane r s) :
    Available s r.profiles.length := by
  rcases hs with hexited | ⟨hended, hfree, ledger, htended⟩
  · refine ⟨fun hne => absurd hexited hne, fun hne => absurd hexited hne, ?_⟩
    rw [hexited]
    exact nofun
  · refine ⟨fun _ => hfree, fun _ => answers_of_tended h.stocked hfree htended,
      ?_⟩
    rw [hended]
    exact nofun

/-- In every run in which all passes visit only lights with the channels that
they need, the permit is back after every critical section, and no call of the
server waits for ever. -/
theorem available_of_provided (h : Assembled r) {calls : List Call}
    (hcalls : Runs.AllSteps step
      (fun s c => c.Within r.profiles.length ∧ Provided s c) (start r) calls) :
    ∀ s ∈ Runs.states step (start r) calls,
      Available s r.profiles.length := by
  intro s hs
  exact (Runs.invariant (fun _ _ hs hc => sane_step h hs hc) (sane_start r)
    hcalls s hs).available h

/-- A light is highlighted, shown, and no longer highlighted. -/
def onceShown : List Call := [.addLight 0, .pass 1, .removeLight 0]

theorem assembled_oneLightRig : Assembled oneLightRig := by
  refine ⟨fun f hf => ?_, fun f hf => ?_, ⟨by decide, fun _ => isByte_zero⟩⟩
  · rw [List.mem_singleton.mp hf]
    exact ⟨some (), some ⟨"par", true⟩, 1,
      some [some "red", some "green", some "blue", some "dimmer"],
      Process.parLight, by rfl, rfl⟩
  · rw [List.mem_singleton.mp hf]
    decide

theorem available_of_provided_onceShown :
    Available (onceShown.foldl step (start oneLightRig)) 1 := by
  have hcalls : Runs.AllSteps step (fun s c => c.Within 1 ∧ Provided s c)
      (start oneLightRig) onceShown := by
    refine ⟨⟨Nat.one_pos, trivial⟩, ⟨trivial, fun light hlight => ?_⟩,
      ⟨trivial, trivial⟩, trivial⟩
    have hlight' : light ∈ [0] := hlight
    rw [List.mem_singleton.mp hlight']
    exact ⟨Process.parLight, rfl, rfl, fun _ => ⟨"red", by decide, rfl⟩⟩
  exact available_of_provided assembled_oneLightRig hcalls _
    Runs.foldl_mem_states

/-- A fixture with a dimmer and nothing else. -/
def dimOnly : FixtureProfile where
  dmxDriver := some ()
  name := some "dim"
  address := 1
  defaultColorOffs := -1
  isSelected := false
  channelMap := (∅ : ChannelMap).insert "dimmer" 0
  dmxVals := [0]

/-- The first pass over a fixture without a color takes the permit along. -/
theorem not_available_dimOnly :
    Assembled ⟨Process.blackout, [dimOnly]⟩ ∧
      (∀ c ∈ onceShown, c.Within 1) ∧
      ¬ ∀ s ∈ Runs.states step (start ⟨Process.blackout, [dimOnly]⟩) onceShown,
        Available s 1 := by
  refine ⟨⟨fun f hf => ?_, fun f hf => ?_, fun f hf => ?_,
    fun _ => isByte_zero⟩, fun c hc => ?_, fun h => ?_⟩
  · rw [List.mem_singleton.mp hf]
    exact ⟨some (), some ⟨"dim", true⟩, 1, some [some "dimmer"], dimOnly,
      by rfl, rfl⟩
  · rw [List.mem_singleton.mp hf]
    decide
  · rw [List.mem_singleton.mp hf]
    decide
  · simp only [onceShown, List.mem_cons, List.not_mem_nil, or_false] at hc
    rcases hc with rfl | rfl | rfl
    · exact Nat.one_pos
    · trivial
    · trivial
  · exact (h _ (List.mem_cons_of_mem _ (List.mem_cons_of_mem _
      (List.mem_cons_of_mem _ (List.mem_cons_self ..))))).not_blocked
      (by decide +kernel)

end Session

end HighlightThread

end ChuckLight
