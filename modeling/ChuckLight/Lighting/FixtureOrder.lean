import ChuckLight.Lighting.SetFile
import ChuckLight.Support.Runs

/-!
# The order of the fixtures

A manager keeps its fixtures sorted by address.  `compareTo` subtracts the
addresses, and the difference of two `int`s need not be an `int`.
-/

namespace ChuckLight.FixtureManager

open Java StableSort

/-! ## Definitions -/

/-- A fixture with its number.  Fixtures are numbered as they enter. -/
abbrev Entry : Type := FixtureProfile × ℕ

/-- The sort by `compareTo`, on fixtures with their numbers. -/
def sortEntries (entries : List Entry) : List Entry :=
  entries.insertionSort fun e e' => (e.1.compareTo e'.1).toInt ≤ 0

/-- A manager, the numbers of its fixtures, and the fixtures that have entered
and left. -/
structure Session where
  manager : FixtureManager
  entries : List Entry
  entered : List Entry
  removed : List Entry

inductive Call where
  | addFixture (newFixture : Option FixtureProfile)
  | removeFixture (fixtureIndex : Int32)

namespace Session

/-- A call that throws changes nothing. -/
def step (s : Session) : Call → Session
  | .addFixture none => s
  | .addFixture (some f) =>
      match s.manager.addFixture (some f) with
      | .error _ => s
      | .ok m =>
          { s with
            manager := m
            entries := sortEntries (s.entries ++ [(f, s.entered.length)])
            entered := s.entered ++ [(f, s.entered.length)] }
  | .removeFixture fixtureIndex =>
      match s.manager.removeFixture fixtureIndex with
      | .error _ => s
      | .ok m =>
          { s with
            manager := m
            entries := s.entries.eraseIdx fixtureIndex.toInt.toNat
            removed :=
              s.removed ++ s.entries[fixtureIndex.toInt.toNat]?.toList }

/-- The manager of the fixtures of a file, or of none. -/
def ofFixtures (set_dir : RealPath) (fixtures : List FixtureProfile) :
    Session where
  manager := ⟨set_dir, sort fixtures⟩
  entries := sortEntries fixtures.zipIdx
  entered := fixtures.zipIdx
  removed := []

/-- The manager is new: empty, or loaded from a file. -/
inductive Opens : Session → Prop
  | empty (set_dir : RealPath) :
      Opens ⟨FixtureManager.empty set_dir, [], [], []⟩
  | load {set_dir : RealPath} {dmx : DriverRef} {filename : List Char}
      {files files' : FileSystem} {path : Path} {items rest : List FileItem}
      {fixtures : List FixtureProfile} {m : FixtureManager}
      (hpath : setFile set_dir filename = .ok path)
      (hitems : files path = some items)
      (hread : (do readFixtures dmx (← readCount).toInt.toNat : Run _ _)
        items = .ok fixtures rest)
      (hload : FixtureManager.load set_dir dmx filename files = .ok m files') :
      Opens ⟨m, sortEntries fixtures.zipIdx, fixtures.zipIdx, []⟩

/-- The list is sorted by address, with equal addresses in the order in which
they have entered, and holds what has entered less what has left; and
`compareTo` is the order of the addresses. -/
structure InOrder (s : Session) : Prop where
  set : s.manager.set = s.entries.map Prod.fst
  sorted : s.entries.Pairwise
    (Before fun f : FixtureProfile => f.address.toInt)
  contents : (s.entries ++ s.removed).Perm s.entered
  compareTo : ∀ f ∈ s.manager.set, ∀ g ∈ s.manager.set,
    (f.compareTo g).toInt.sign = (f.address.toInt - g.address.toInt).sign

end Session

/-- The difference of the addresses is an `int` in both directions. -/
def Near (f g : FixtureProfile) : Prop :=
  (f.address.toInt - g.address.toInt).natAbs < 2 ^ 31

instance (f g : FixtureProfile) : Decidable (Near f g) :=
  inferInstanceAs (Decidable (_ < _))

/-- A fixture that is added is near to all fixtures in the list. -/
def Session.Admits (s : Session) : Call → Prop
  | .addFixture (some f) => s.manager.set.length + 1 < 2 ^ 31 →
      ∀ g ∈ s.manager.set, Near f g
  | _ => True

/-! ## Comparing addresses -/

variable {f g : FixtureProfile}

theorem near_comm : Near f g ↔ Near g f := by
  unfold Near
  omega

theorem near_self (f : FixtureProfile) : Near f f := by
  unfold Near
  omega

theorem compareTo_of_near (h : Near f g) :
    (f.compareTo g).toInt = f.address.toInt - g.address.toInt := by
  unfold Near at h
  exact toInt_sub_of_le (by omega) (by omega)

/-- A right sign excludes a difference that wraps around. -/
theorem sub_lt_of_sign (h : (f.compareTo g).toInt.sign =
    (f.address.toInt - g.address.toInt).sign) :
    f.address.toInt - g.address.toInt < 2 ^ 31 := by
  by_contra hge
  have hwrap : (f.compareTo g).toInt =
      f.address.toInt - g.address.toInt - 2 ^ 32 :=
    toInt_sub_of_ge (Int.not_lt.mp hge)
  have hlow := g.address.le_toInt
  have hhigh := f.address.toInt_lt
  rw [hwrap, Int.sign_eq_neg_one_of_neg (by omega),
    Int.sign_eq_one_of_pos (by omega)] at h
  cases h

/-- `compareTo` is right about all fixtures of a list if and only if they are
near to each other. -/
theorem forall_sign_iff {set : List FixtureProfile} :
    (∀ f ∈ set, ∀ g ∈ set, (f.compareTo g).toInt.sign =
        (f.address.toInt - g.address.toInt).sign) ↔
      ∀ f ∈ set, ∀ g ∈ set, Near f g := by
  constructor
  · intro h f hf g hg
    have hfg := sub_lt_of_sign (h f hf g hg)
    have hgf := sub_lt_of_sign (h g hg f hf)
    unfold Near
    omega
  · intro h f hf g hg
    rw [compareTo_of_near (h f hf g hg)]

/-! ## Sorting -/

variable {entries : List Entry}

theorem map_sortEntries (entries : List Entry) :
    (sortEntries entries).map Prod.fst = sort (entries.map Prod.fst) :=
  List.map_insertionSort _ _ _ _ fun _ _ _ _ => Iff.rfl

theorem perm_sortEntries (entries : List Entry) :
    (sortEntries entries).Perm entries := List.perm_insertionSort _ _

/-- Among near fixtures the sort is by address, and then by number. -/
theorem pairwise_sortEntries
    (hnear : ∀ e ∈ entries, ∀ e' ∈ entries, Near e.1 e'.1)
    (hnumbers : entries.Pairwise fun e e' =>
      e.1.address.toInt = e'.1.address.toInt → e.2 < e'.2) :
    (sortEntries entries).Pairwise
      (Before fun f : FixtureProfile => f.address.toInt) := by
  refine pairwise_before (fun e he e' he' => ?_) (fun e e' hsame => ?_)
    hnumbers
  · rw [compareTo_of_near (hnear e he e' he')]
    omega
  · have hnear' : Near e.1 e'.1 := by
      unfold Near
      omega
    rw [compareTo_of_near hnear']
    omega

namespace Session

variable {s : Session} {set_dir : RealPath} {fixtures : List FixtureProfile}

/-! ## A new manager -/

theorem Opens.exists_fixtures (h : Opens s) :
    ∃ set_dir fixtures, s = ofFixtures set_dir fixtures := by
  cases h with
  | empty set_dir => exact ⟨set_dir, [], rfl⟩
  | @load set_dir _ _ _ _ _ _ _ fixtures m hpath hitems hread hload =>
      have heq := load_of_items hpath hitems hread
      rw [hload] at heq
      cases heq
      exact ⟨set_dir, fixtures, rfl⟩

/-- Every manager that is loaded opens a session. -/
theorem exists_opens_of_load {dmx : DriverRef} {filename : List Char}
    {files files' : FileSystem} {m : FixtureManager}
    (h : FixtureManager.load set_dir dmx filename files = .ok m files') :
    ∃ s, Opens s ∧ s.manager = m := by
  obtain ⟨path, items, fixtures, rest, hpath, hitems, hread⟩ :=
    exists_of_load_eq_ok h
  exact ⟨_, .load hpath hitems hread h, rfl⟩

/-- The numbers are those of the fixtures so far. -/
def Numbered (s : Session) : Prop := ∀ e ∈ s.entered, e.2 < s.entered.length

theorem numbered_ofFixtures (set_dir : RealPath)
    (fixtures : List FixtureProfile) :
    (ofFixtures set_dir fixtures).Numbered := by
  intro e he
  have hlt := (List.mem_zipIdx he).2.1
  show e.2 < fixtures.zipIdx.length
  rw [List.length_zipIdx]
  omega

theorem inOrder_ofFixtures (hnear : ∀ f ∈ fixtures, ∀ g ∈ fixtures, Near f g) :
    (ofFixtures set_dir fixtures).InOrder := by
  have hmap : fixtures.zipIdx.map Prod.fst = fixtures :=
    List.zipIdx_map_fst 0 fixtures
  have hentry : ∀ e ∈ fixtures.zipIdx, e.1 ∈ fixtures := fun e he =>
    hmap ▸ List.mem_map_of_mem he
  refine ⟨?_, ?_, ?_, ?_⟩
  · show sort fixtures = (sortEntries fixtures.zipIdx).map Prod.fst
    rw [map_sortEntries, hmap]
  · refine pairwise_sortEntries (fun e he e' he' =>
      hnear _ (hentry e he) _ (hentry e' he')) ?_
    refine (pairwise_zipIdx fixtures 0).imp fun {e e'} hlt => ?_
    exact fun _ => hlt
  · show (sortEntries fixtures.zipIdx ++ []).Perm fixtures.zipIdx
    rw [List.append_nil]
    exact perm_sortEntries _
  · refine forall_sign_iff.mpr fun f hf g hg => hnear f ?_ g ?_
    · exact (List.mem_insertionSort _).mp hf
    · exact (List.mem_insertionSort _).mp hg

/-- A list that is loaded is in order if and only if its fixtures are near to
each other. -/
theorem inOrder_ofFixtures_iff :
    (ofFixtures set_dir fixtures).InOrder ↔
      ∀ e ∈ (ofFixtures set_dir fixtures).entered,
        ∀ e' ∈ (ofFixtures set_dir fixtures).entered, Near e.1 e'.1 := by
  have hmap : fixtures.zipIdx.map Prod.fst = fixtures :=
    List.zipIdx_map_fst 0 fixtures
  constructor
  · intro h e he e' he'
    have hmem : ∀ e ∈ fixtures.zipIdx, e.1 ∈ sort fixtures := fun e he =>
      (List.mem_insertionSort _).mpr (hmap ▸ List.mem_map_of_mem he)
    exact forall_sign_iff.mp h.compareTo _ (hmem e he) _ (hmem e' he')
  · intro h
    refine inOrder_ofFixtures fun f hf g hg => ?_
    rw [← hmap] at hf hg
    obtain ⟨e, he, rfl⟩ := List.mem_map.mp hf
    obtain ⟨e', he', rfl⟩ := List.mem_map.mp hg
    exact h e he e' he'

/-! ## One call -/

theorem InOrder.near (h : s.InOrder) :
    ∀ f ∈ s.manager.set, ∀ g ∈ s.manager.set, Near f g :=
  forall_sign_iff.mp h.compareTo

theorem InOrder.lt (h : s.InOrder) (hnumbered : s.Numbered) :
    ∀ e ∈ s.entries, e.2 < s.entered.length := fun e he =>
  hnumbered e (h.contents.mem_iff.mp (List.mem_append_left _ he))

theorem step_addFixture (f : FixtureProfile)
    (hlength : s.manager.set.length + 1 < 2 ^ 31) :
    s.step (.addFixture (some f)) =
      { s with
        manager := { s.manager with set := sort (s.manager.set ++ [f]) }
        entries := sortEntries (s.entries ++ [(f, s.entered.length)])
        entered := s.entered ++ [(f, s.entered.length)] } := by
  have hadd : s.manager.addFixture (some f) =
      .ok { s.manager with set := sort (s.manager.set ++ [f]) } :=
    if_pos hlength
  simp only [step, hadd]

theorem step_addFixture_of_full (f : FixtureProfile)
    (hlength : ¬ s.manager.set.length + 1 < 2 ^ 31) :
    s.step (.addFixture (some f)) = s := by
  have hadd : s.manager.addFixture (some f) = .error .outOfMemoryError :=
    if_neg hlength
  simp only [step, hadd]

theorem step_removeFixture {fixtureIndex : Int32}
    (hrange : 0 ≤ fixtureIndex.toInt ∧
      fixtureIndex.toInt < s.manager.set.length) :
    s.step (.removeFixture fixtureIndex) =
      { s with
        manager := { s.manager with
          set := s.manager.set.eraseIdx fixtureIndex.toInt.toNat }
        entries := s.entries.eraseIdx fixtureIndex.toInt.toNat
        removed :=
          s.removed ++ s.entries[fixtureIndex.toInt.toNat]?.toList } := by
  have hremove : s.manager.removeFixture fixtureIndex =
      .ok { s.manager with
        set := s.manager.set.eraseIdx fixtureIndex.toInt.toNat } :=
    if_pos hrange
  simp only [step, hremove]

theorem step_removeFixture_of_outside {fixtureIndex : Int32}
    (hrange : ¬ (0 ≤ fixtureIndex.toInt ∧
      fixtureIndex.toInt < s.manager.set.length)) :
    s.step (.removeFixture fixtureIndex) = s := by
  have hremove : s.manager.removeFixture fixtureIndex =
      .error .arrayIndexOutOfBoundsException := if_neg hrange
  simp only [step, hremove]

theorem mem_sort_concat {set : List FixtureProfile} {f g : FixtureProfile} :
    g ∈ sort (set ++ [f]) ↔ g ∈ set ∨ g = f := by
  rw [sort, List.mem_insertionSort, List.mem_append, List.mem_singleton]

/-- A near fixture enters. -/
theorem InOrder.addFixture (h : s.InOrder) (hnumbered : s.Numbered)
    {f : FixtureProfile} (hlength : s.manager.set.length + 1 < 2 ^ 31)
    (hnear : ∀ g ∈ s.manager.set, Near f g) :
    (s.step (.addFixture (some f))).InOrder := by
  have hall : ∀ g ∈ s.manager.set ++ [f], ∀ g' ∈ s.manager.set ++ [f],
      Near g g' := by
    intro g hg g' hg'
    rcases List.mem_append.mp hg with hg | hg <;>
      rcases List.mem_append.mp hg' with hg' | hg'
    · exact h.near g hg g' hg'
    · rw [List.mem_singleton.mp hg']
      exact near_comm.mp (hnear g hg)
    · rw [List.mem_singleton.mp hg]
      exact hnear g' hg'
    · rw [List.mem_singleton.mp hg, List.mem_singleton.mp hg']
      exact near_self f
  have hmap : (s.entries ++ [(f, s.entered.length)]).map Prod.fst =
      s.manager.set ++ [f] := by
    rw [List.map_append, h.set]
    rfl
  have hentry : ∀ e ∈ s.entries ++ [(f, s.entered.length)],
      e.1 ∈ s.manager.set ++ [f] := fun e he =>
    hmap ▸ List.mem_map_of_mem he
  rw [step_addFixture f hlength]
  refine ⟨?_, ?_, ?_, ?_⟩
  · show sort _ = (sortEntries _).map Prod.fst
    rw [map_sortEntries, hmap]
  · exact pairwise_sortEntries
      (fun e he e' he' => hall _ (hentry e he) _ (hentry e' he'))
      (pairwise_concat h.sorted (h.lt hnumbered) f)
  · have hperm := (perm_sortEntries
      (s.entries ++ [(f, s.entered.length)])).append_right s.removed
    refine hperm.trans ?_
    rw [List.append_assoc]
    exact (List.perm_append_comm.append_left _).trans
      (by rw [← List.append_assoc]; exact h.contents.append_right _)
  · refine forall_sign_iff.mpr fun g hg g' hg' => hall g ?_ g' ?_
    · exact (List.mem_insertionSort _).mp hg
    · exact (List.mem_insertionSort _).mp hg'

/-- A fixture that is not near to another one breaks the order. -/
theorem not_inOrder_of_far {f g : FixtureProfile}
    (hlength : s.manager.set.length + 1 < 2 ^ 31) (hg : g ∈ s.manager.set)
    (hfar : ¬ Near f g) : ¬ (s.step (.addFixture (some f))).InOrder := by
  intro h
  have hnear := h.near
  rw [step_addFixture f hlength] at hnear
  exact hfar (hnear f (mem_sort_concat.mpr (Or.inr rfl)) g
    (mem_sort_concat.mpr (Or.inl hg)))

/-- A fixture leaves. -/
theorem InOrder.removeFixture (h : s.InOrder) (fixtureIndex : Int32) :
    (s.step (.removeFixture fixtureIndex)).InOrder := by
  by_cases hrange : 0 ≤ fixtureIndex.toInt ∧
      fixtureIndex.toInt < s.manager.set.length
  · have hlength : s.manager.set.length = s.entries.length := by
      rw [h.set, List.length_map]
    have hlt : fixtureIndex.toInt.toNat < s.entries.length := by omega
    rw [step_removeFixture hrange]
    refine ⟨?_, ?_, ?_, ?_⟩
    · show s.manager.set.eraseIdx _ = (s.entries.eraseIdx _).map Prod.fst
      rw [h.set, List.eraseIdx_map]
    · exact h.sorted.sublist (List.eraseIdx_sublist ..)
    · show (s.entries.eraseIdx _ ++ (s.removed ++ _)).Perm s.entered
      rw [List.getElem?_eq_getElem hlt, Option.toList_some]
      have hback := (List.getElem_cons_eraseIdx_perm hlt).append_right s.removed
      rw [← List.append_assoc]
      exact (List.perm_append_singleton _ _).trans (hback.trans h.contents)
    · exact fun f hf g hg => h.compareTo f (List.mem_of_mem_eraseIdx hf) g
        (List.mem_of_mem_eraseIdx hg)
  · rw [step_removeFixture_of_outside hrange]
    exact h

/-- The numbers stay below the next one. -/
theorem Numbered.step (h : s.Numbered) (c : Call) : (s.step c).Numbered := by
  cases c with
  | addFixture newFixture =>
      cases newFixture with
      | none => exact h
      | some f =>
          by_cases hlength : s.manager.set.length + 1 < 2 ^ 31
          · rw [step_addFixture f hlength]
            intro e he
            show e.2 < (s.entered ++ [_]).length
            rw [List.length_append, List.length_singleton]
            rcases List.mem_append.mp he with he | he
            · exact Nat.lt_succ_of_lt (h e he)
            · rw [List.mem_singleton.mp he]
              exact Nat.lt_succ_self _
          · rw [step_addFixture_of_full f hlength]
            exact h
  | removeFixture fixtureIndex =>
      by_cases hrange : 0 ≤ fixtureIndex.toInt ∧
          fixtureIndex.toInt < s.manager.set.length
      · rw [step_removeFixture hrange]
        exact h
      · rw [step_removeFixture_of_outside hrange]
        exact h

theorem InOrder.step (h : s.InOrder) (hnumbered : s.Numbered) {c : Call}
    (hadmits : s.Admits c) : (s.step c).InOrder := by
  cases c with
  | addFixture newFixture =>
      cases newFixture with
      | none => exact h
      | some f =>
          by_cases hlength : s.manager.set.length + 1 < 2 ^ 31
          · exact h.addFixture hnumbered hlength (hadmits hlength)
          · rw [step_addFixture_of_full f hlength]
            exact h
  | removeFixture fixtureIndex => exact h.removeFixture fixtureIndex

theorem not_inOrder_step {c : Call} (hadmits : ¬ s.Admits c) :
    ¬ (s.step c).InOrder := by
  cases c with
  | addFixture newFixture =>
      cases newFixture with
      | none => exact absurd trivial hadmits
      | some f =>
          simp only [Admits, not_forall] at hadmits
          obtain ⟨hlength, g, hg, hfar⟩ := hadmits
          exact not_inOrder_of_far hlength hg hfar
  | removeFixture fixtureIndex => exact absurd trivial hadmits

/-! ## All calls -/

/-- The list is in order throughout if and only if the fixtures of the file are
near to each other, and each that is added is near to those in the list. -/
theorem inOrder_iff (hopens : Opens s) (calls : List Call) :
    (∀ t ∈ Runs.states step s calls, t.InOrder) ↔
      (∀ e ∈ s.entered, ∀ e' ∈ s.entered, Near e.1 e'.1) ∧
        Runs.AllSteps step Admits s calls := by
  obtain ⟨set_dir, fixtures, rfl⟩ := hopens.exists_fixtures
  have hstart := @inOrder_ofFixtures_iff set_dir fixtures
  have hrun (h : (ofFixtures set_dir fixtures).InOrder) :
      (∀ t ∈ Runs.states step (ofFixtures set_dir fixtures) calls,
          t.InOrder) ↔
        Runs.AllSteps step Admits (ofFixtures set_dir fixtures) calls :=
    Runs.forall_states_iff
      (fun t (ht : t.InOrder ∧ t.Numbered) => ht.1)
      (fun _ _ ht hadmits => ⟨ht.1.step ht.2 hadmits, ht.2.step _⟩)
      (fun _ _ _ hadmits => not_inOrder_step hadmits)
      ⟨h, numbered_ofFixtures set_dir fixtures⟩
  constructor
  · intro h
    have hfirst := h _ Runs.start_mem_states
    exact ⟨hstart.mp hfirst, (hrun hfirst).mp h⟩
  · rintro ⟨hnear, hadmits⟩
    exact (hrun (hstart.mpr hnear)).mpr hadmits

/-- A light with two channels. -/
def parAt (address : Int32) : FixtureProfile :=
  fixtureOf "par" address 0 redDimmer [0, 0]

theorem inOrder_parAt :
    Opens ⟨FixtureManager.empty setsDir, [], [], []⟩ ∧
      ∀ t ∈ Runs.states step ⟨FixtureManager.empty setsDir, [], [], []⟩
        [.addFixture (some (parAt 5)), .addFixture (some (parAt 1)),
          .removeFixture 0], t.InOrder := by
  refine ⟨.empty setsDir, (inOrder_iff (.empty setsDir) _).mpr
    ⟨by decide, ?_, ?_, trivial, trivial⟩⟩
  · exact fun _ => by decide
  · exact fun _ => by decide

/-- A set file with a light at address -2. -/
def belowOne : List FileItem :=
  [.int 1, .fixture [.string (some "par"), .int (-2), .int 0, .int 2,
    .string (some "red"), .string (some "dimmer")]]

def allBelowOne : FileSystem := fun _ => some belowOne

/-- The set that is loaded from this file. -/
def loadedBelowOne : Session := ofFixtures setsDir [parAt (-2)]

theorem opens_loadedBelowOne : Opens loadedBelowOne := by
  have hpath : setFile setsDir ['a'] =
      .ok ⟨true, setsDir.names ++ [['a']]⟩ := by rfl
  have hitems : allBelowOne ⟨true, setsDir.names ++ [['a']]⟩ =
      some belowOne := rfl
  have hread : (do readFixtures (some ()) (← readCount).toInt.toNat : Run _ _)
      belowOne = .ok [parAt (-2)] [] := by rfl
  exact .load hpath hitems hread (load_of_items hpath hitems hread)

/-- A light at address 2147483647 is put before it. -/
theorem not_inOrder_loadedBelowOne :
    ¬ ∀ s, Opens s → ∀ calls : List Call,
      (∀ f, .addFixture (some f) ∈ calls →
        ∃ dmx fixtureName dmxAddress channels,
          FixtureProfile.create dmx fixtureName dmxAddress channels = .ok f) →
      ∀ t ∈ Runs.states step s calls, t.InOrder := by
  intro h
  have hcreate : FixtureProfile.create (some ()) (some ⟨"par", true⟩)
      2147483647 (some [some "red", some "dimmer"]) =
        .ok (parAt 2147483647) := by rfl
  have hinOrder := h _ opens_loadedBelowOne
    [.addFixture (some (parAt 2147483647))]
    (fun f hf => by
      cases List.mem_singleton.mp hf
      exact ⟨_, _, _, _, hcreate⟩) _ Runs.foldl_mem_states
  have hbefore := List.rel_of_pairwise_cons hinOrder.sorted
    (List.mem_singleton_self (parAt (-2), 0))
  rcases hbefore with hlt | ⟨heq, -⟩
  · exact absurd hlt (by decide)
  · exact absurd heq (by decide)

end Session

end ChuckLight.FixtureManager
