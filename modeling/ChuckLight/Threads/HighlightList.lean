import ChuckLight.Support.Aligned
import ChuckLight.Threads.Passes

/-!
# The list of the highlight thread

The thread keeps the lights that it highlights, in the order in which they were
added, together with the values that they had.  What it does to the list does
not depend on what the lights show, and on usable lights it throws nothing.
-/

namespace ChuckLight

open Java

/-! ## Usable lights -/

/-- A fixture stays usable when its values change. -/
theorem Light.Usable.of_setup_eq {f g : FixtureProfile} (h : Light.Usable f)
    (hsetup : g.setup = f.setup) : Light.Usable g := by
  obtain ⟨hfields, hlength⟩ := Prod.mk.inj hsetup
  have hdriver : g.dmxDriver = f.dmxDriver := congrArg (·.dmxDriver) hfields
  have haddress : g.address = f.address := congrArg (·.address) hfields
  have hmap : g.channelMap = f.channelMap := congrArg (·.channelMap) hfields
  obtain ⟨hdriver', hone, hadd, hoffset, hvals, hred, hgreen, hblue, hdimmer⟩ :=
    h
  rw [← hdriver] at hdriver'
  rw [← haddress] at hone hadd
  rw [← hmap] at hadd hoffset hvals hred hgreen hblue hdimmer
  exact ⟨hdriver', hone, hadd, hoffset, hlength.trans hvals, hred, hgreen,
    hblue, hdimmer⟩

namespace Rig

/-- All methods work on the fixture at position `i`. -/
structure Usable (r : Rig) (i : ℕ) : Prop where
  bytes : r.Bytes
  fixture : ∃ f, r.profiles[i]? = some f ∧ Light.Usable f

variable {r r' : Rig} {i : ℕ}

theorem Usable.of_follows (h : r.Usable i) (hr : r.Follows r') :
    r'.Usable i := by
  obtain ⟨f, hf, husable⟩ := h.fixture
  obtain ⟨g, hg, hsetup⟩ := hr.getElem? hf
  exact ⟨hr.bytes h.bytes, g, hg, husable.of_setup_eq hsetup⟩

end Rig

/-! ## Values to show -/

/-- The fixture at position `i` can show the values. -/
structure Rig.Fits (r : Rig) (i : ℕ) (values : List Int32) : Prop where
  size : r.sizes[i]? = some values.length
  bytes : ∀ v ∈ values, IsByte v

namespace Rig

variable {r r' : Rig} {i : ℕ} {values : List Int32} {f : FixtureProfile}

theorem Fits.of_sizes (h : r.Fits i values) (hsizes : r'.sizes = r.sizes) :
    r'.Fits i values :=
  ⟨hsizes ▸ h.size, h.bytes⟩

theorem Fits.length_eq (h : r.Fits i values) (hf : r.profiles[i]? = some f)
    (hmounted : Light.Mounted f) : values.length = f.dmxVals.length := by
  have hsize := h.size
  rw [sizes, List.getElem?_map, hf] at hsize
  exact (Option.some.inj hsize).symm.trans hmounted.length_dmxVals.symm

/-- What a fixture shows, it can show again. -/
theorem Bytes.fits (h : r.Bytes) (hf : r.profiles[i]? = some f)
    (hmounted : Light.Mounted f) : r.Fits i f.dmxVals := by
  refine ⟨?_, h.mirror f (List.mem_of_getElem? hf)⟩
  rw [sizes, List.getElem?_map, hf, hmounted.length_dmxVals]
  rfl

theorem Usable.fits (h : r.Usable i) (hf : r.profiles[i]? = some f) :
    r.Fits i f.dmxVals := by
  obtain ⟨hbytes, g, hg, husable⟩ := h
  cases hf.symm.trans hg
  exact hbytes.fits hf husable.mounted

end Rig

/-- A method of the rig leaves the object of the thread alone. -/
theorem Stage.triple_rig {α β : Type} {c : Rig → Prop} {x : Run Rig α}
    (hx : Rig.Shows c x) (st : Stage β) :
    Triple (fun st' => st' = st) (Stage.rig x)
      (fun _ st' => st.1.Follows st'.1 ∧ st'.2 = st.2)
      (fun e st' => (st.1.Follows st'.1 ∧ st'.2 = st.2) ∧
        (c st.1 → e.IsIOException)) := by
  rintro _ rfl
  rename Stage β => st
  unfold Stage.rig Java.zoom
  cases hrun : x st.1 with
  | ok a r => exact ⟨(hx st.1).of_ok rfl hrun, rfl⟩
  | error e r =>
      obtain ⟨hr, he⟩ := (hx st.1).of_error rfl hrun
      exact ⟨⟨hr, rfl⟩, he⟩

namespace HighlightThread

open Stage

/-- The list with a light in it. -/
def withLight (light : ℕ) (list : List ℕ) : List ℕ :=
  if light ∈ list then list else list ++ [light]

/-- The thread highlights the lights of the list, and if `c` holds, it has
saved values that they can show. -/
structure Lit (c : Prop) (r : Rig) (list : List ℕ)
    (st : Stage HighlightThread) : Prop where
  rig : r.Follows st.1
  lights : st.2.lights = list
  saved : c → List.Forall₂ r.Fits list st.2.savedValues

variable {r : Rig} {list : List ℕ} {light : ℕ} {c : Prop}

/-! ## Adding -/

/-- The thread waits, or takes the semaphore. -/
theorem triple_acquire {inv : Stage HighlightThread → Prop}
    (hinv : ∀ st : Stage HighlightThread, inv st →
      inv (st.1, { st.2 with semaphore := false })) :
    Triple inv acquire (fun _ => inv) (fun e _ => c → ¬ e.IsThrown) := by
  refine Triple.get_bind fun _ _ => Triple.ite (fun _ => ?_) fun _ => ?_
  · exact Triple.modify hinv
  · exact Triple.throw fun _ _ _ => nofun

theorem lit_acquire :
    Triple (Lit c r list) acquire (fun _ => Lit c r list)
      (fun e _ => c → ¬ e.IsThrown) :=
  triple_acquire fun _ h => ⟨h.rig, h.lights, h.saved⟩

theorem lit_release :
    Triple (Lit c r list) release (fun _ => Lit c r list)
      (fun e _ => c → ¬ e.IsThrown) :=
  Triple.modify fun _ h => ⟨h.rig, h.lights, h.saved⟩

/-- A light has been added, and its values have not been saved. -/
structure Unsaved (c : Prop) (r : Rig) (list : List ℕ) (light : ℕ)
    (st : Stage HighlightThread) : Prop where
  rig : r.Follows st.1
  lights : st.2.lights = list ++ [light]
  saved : c → List.Forall₂ r.Fits list st.2.savedValues

/-- The values of the new light are saved. -/
theorem unsaved_save (hc : c → r.Usable light) :
    Triple (Unsaved c r list light)
      (do
        let saved ← Stage.rig (Rig.callLight light Light.getDMXVals)
        update fun t =>
          { t with
            savedValues := t.savedValues ++ [saved]
            updateDefaultColor := true }
        release)
      (fun _ => Lit c r (list ++ [light])) (fun e _ => c → ¬ e.IsThrown) := by
  intro st h
  cases hf : st.1.profiles[light]? with
  | none =>
      have hrun : Stage.rig (Rig.callLight light Light.getDMXVals) st =
          .error (.thrown .nullPointerException) st := by
        unfold Stage.rig Java.zoom
        rw [Rig.callLight_of_getElem?_none hf]
      rw [bind_of_error hrun]
      intro hcond
      obtain ⟨f, hsome, -⟩ := ((hc hcond).of_follows h.rig).fixture
      cases hf.symm.trans hsome
  | some f =>
      have hrun : Stage.rig (Rig.callLight light Light.getDMXVals) st =
          .ok f.dmxVals st := by
        unfold Stage.rig Java.zoom
        rw [Rig.getDMXVals_of_getElem? hf]
      rw [bind_of_ok hrun]
      refine ⟨h.rig, h.lights, fun hcond => ?_⟩
      have hfits := ((hc hcond).of_follows h.rig).fits hf
      exact List.rel_append (h.saved hcond)
        (.cons (hfits.of_sizes h.rig.sizes.symm) .nil)

theorem lit_addLight (hc : c → r.Usable light) :
    Triple (Lit c r list) (addLight light)
      (fun _ => Lit c r (withLight light list))
      (fun e _ => c → ¬ e.IsThrown) := by
  refine Triple.get_bind fun st h => Triple.ite (fun hnot => ?_) fun hmem => ?_
  · rw [h.lights] at hnot
    have hwith : withLight light list = list ++ [light] := if_neg hnot
    have hadd : Triple (Lit c r list)
        (update fun t => { t with lights := t.lights ++ [light] })
        (fun _ => Unsaved c r list light) (fun e _ => c → ¬ e.IsThrown) :=
      Triple.modify fun _ h =>
        ⟨h.rig, congrArg (· ++ [light]) h.lights, h.saved⟩
    rw [hwith]
    exact lit_acquire.bind fun _ => hadd.bind fun _ => unsaved_save hc
  · rw [h.lights, not_not] at hmem
    have hwith : withLight light list = list := if_pos hmem
    rw [hwith]
    exact Triple.pure fun _ h => h

theorem lit_setUpdateDefaultColor :
    Triple (Lit c r list) setUpdateDefaultColor (fun _ => Lit c r list)
      (fun e _ => c → ¬ e.IsThrown) :=
  lit_acquire.bind fun _ => Triple.bind
    (Triple.modify fun _ h => ⟨h.rig, h.lights, h.saved⟩)
    fun _ => lit_release

/-! ## Removing -/

/-- The values of a light in the list are no longer saved. -/
structure Restoring (c : Prop) (r : Rig) (list : List ℕ) (light : ℕ)
    (st : Stage HighlightThread) : Prop where
  rig : r.Follows st.1
  lights : st.2.lights = list
  saved : c → List.Forall₂ r.Fits (list.erase light) st.2.savedValues

/-- The light gets its values back. -/
theorem restoring_setDMXVals {saved : List Int32} (hc : c → r.Usable light)
    (hfits : c → r.Fits light saved) :
    Triple (Restoring c r list light)
      (Stage.rig (Rig.callLight light (Light.setDMXVals saved)))
      (fun _ => Restoring c r list light)
      (fun e st => Restoring c r list light st ∧ (c → e.IsIOException)) := by
  intro st h
  have hkept : ∀ st' : Stage HighlightThread,
      st.1.Follows st'.1 ∧ st'.2 = st.2 → Restoring c r list light st' := by
    rintro st' ⟨hrig, hobject⟩
    exact ⟨h.rig.trans hrig, (congrArg _ hobject).trans h.lights,
      hobject ▸ h.saved⟩
  refine (Stage.triple_rig (Rig.shows_callLight
    (Light.calm_setDMXVals saved) light) st).conseq (fun _ h => h)
    (fun _ => hkept) (fun e st' he => ⟨hkept st' he.1, fun hcond => ?_⟩)
    st rfl
  obtain ⟨-, f, hf, husable⟩ := (hc hcond).of_follows h.rig
  have hlength := ((hfits hcond).of_sizes h.rig.sizes).length_eq hf
    husable.mounted
  exact he.2 ⟨f, hf, husable.mounted, hlength, (hfits hcond).bytes⟩

/-- The block in which the values of the light are removed and written. -/
theorem lit_restore (hmem : light ∈ list) (hc : c → r.Usable light) :
    Triple (Lit c r list)
      (do
        let t := (← get).2
        let index := t.lights.idxOf light
        let saved ← orThrow t.savedValues[index]?
          (.indexOutOfBoundsException "remove")
        update fun t => { t with savedValues := t.savedValues.eraseIdx index }
        Stage.rig (Rig.callLight light (Light.setDMXVals saved)))
      (fun _ => Restoring c r list light)
      (fun e st => Restoring c r list light st ∧
        (¬ e.IsIOException → c → ¬ e.IsThrown)) := by
  refine Triple.get_bind_eq fun st h => ?_
  have hindex := List.getElem?_idxOf hmem
  dsimp only
  rw [h.lights]
  cases hsaved : st.2.savedValues[list.idxOf light]? with
  | none =>
      have hnot : ¬ c := fun hcond => by
        obtain ⟨saved, hsome, -⟩ :=
          Aligned.exists_getElem? (h.saved hcond) hindex
        cases hsaved.symm.trans hsome
      refine Triple.throw fun st' hst' => ?_
      subst hst'
      exact ⟨⟨h.rig, h.lights, fun hcond => absurd hcond hnot⟩,
        fun _ hcond => absurd hcond hnot⟩
  | some saved =>
      have hfits : c → r.Fits light saved := fun hcond => by
        obtain ⟨saved', hsome, hfits⟩ :=
          Aligned.exists_getElem? (h.saved hcond) hindex
        cases hsaved.symm.trans hsome
        exact hfits
      rw [orThrow_some_bind]
      refine Triple.bind (Triple.modify fun st' hst' => ?_) fun _ =>
        (restoring_setDMXVals hc hfits).conseq (fun _ h => h)
          (fun _ _ h => h) fun e st he =>
            ⟨he.1, fun hnot hcond => absurd (he.2 hcond) hnot⟩
      subst hst'
      refine ⟨h.rig, h.lights, fun hcond => ?_⟩
      rw [← List.eraseIdx_idxOf_eq_erase]
      exact Aligned.eraseIdx (h.saved hcond) _

theorem lit_removeLight (hc : c → r.Usable light) :
    Triple (Lit c r list) (removeLight light)
      (fun _ => Lit c r (list.erase light))
      (fun e _ => c → ¬ e.IsThrown) := by
  refine Triple.get_bind fun st h => Triple.ite (fun hmem => ?_) fun hnot => ?_
  · rw [h.lights] at hmem
    refine lit_acquire.bind fun _ => Triple.bind (Triple.catchIOException_of
      (lit_restore hmem hc) (Triple.throw fun _ _ _ => nofun)) fun _ => ?_
    refine Triple.bind (Triple.modify fun st h => ?_) fun _ => lit_release
    exact ⟨h.rig, congrArg (List.erase · light) h.lights, h.saved⟩
  · rw [h.lights] at hnot
    rw [List.erase_of_not_mem hnot]
    exact Triple.pure fun _ h => h

theorem lit_removeAll (n : ℕ) (hc : c → ∀ light ∈ list, r.Usable light) :
    Triple (Lit c r list) (removeAll n) (fun _ => Lit c r (list.drop n))
      (fun e _ => c → ¬ e.IsThrown) := by
  induction n generalizing list with
  | zero => exact Triple.pure fun _ h => h
  | succ n ih =>
      refine Triple.get_bind fun st h => ?_
      rw [h.lights]
      cases list with
      | nil => exact Triple.pure fun _ h => h
      | cons light rest =>
          have hremove : Triple (Lit c r (light :: rest)) (removeLight light)
              (fun _ => Lit c r ((light :: rest).erase light))
              (fun e _ => c → ¬ e.IsThrown) :=
            lit_removeLight fun hcond => hc hcond light (List.mem_cons_self ..)
          rw [List.erase_cons_head] at hremove
          exact hremove.bind fun _ => ih fun hcond light' hmem =>
            hc hcond light' (List.mem_cons_of_mem _ hmem)

/-- The thread returns its list and is left without lights. -/
theorem lit_redrum (hc : c → ∀ light ∈ list, r.Usable light) :
    Triple (Lit c r list) redrum
      (fun lights st => lights = list ∧ Lit c r [] st)
      (fun e _ => c → ¬ e.IsThrown) := by
  refine Triple.get_bind fun st h => ?_
  have hremove := lit_removeAll (r := r) list.length hc
  rw [List.drop_length] at hremove
  rw [h.lights]
  exact hremove.bind fun _ => Triple.pure fun _ h => ⟨rfl, h⟩

end HighlightThread

end ChuckLight
