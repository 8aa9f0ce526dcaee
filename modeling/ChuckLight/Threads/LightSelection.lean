import ChuckLight.Threads.HighlightList
import ChuckLight.Threads.References

/-!
# The light selection

The light selection moves a cursor over the lights, selects lights and keeps
the list of the highlight thread in step.  What its methods do to the three is
the same whatever else is invariant; and where all lights are usable, none of
its methods throws.
-/

namespace ChuckLight

open Java

/-- Which fixtures are selected. -/
def Rig.flags (r : Rig) : List Bool := r.profiles.map FixtureProfile.isSelected

@[simp]
theorem Rig.length_flags (r : Rig) : r.flags.length = r.profiles.length :=
  List.length_map _

theorem Rig.Follows.flags {r r' : Rig} (h : r.Follows r') :
    r'.flags = r.flags :=
  h.map_eq fun x => x.1.isSelected

theorem Rig.Marks.length_flags {r r' : Rig} (h : r.Marks r') :
    r'.flags.length = r.flags.length := by
  have hlength := congrArg List.length h.profiles
  simpa using hlength

namespace Server

/-- The highlight thread highlights the lights of the list, and if `c` holds, it
has saved values that they can show. -/
def Lights (c : Prop) (list : List ℕ) (s : Server) : Prop :=
  Refers .highlight (fun t => t.lights = list ∧
    (c → List.Forall₂ s.rig.Fits list t.savedValues)) s

variable {list list' : List ℕ} {c : Prop} {α : Type} {s : Server}

theorem Lights.setRig {r : Rig} (h : Lights c list s)
    (hr : r.sizes = s.rig.sizes) : Lights c list { s with rig := r } := by
  obtain ⟨t, ht, hlights, hsaved⟩ := h
  exact ⟨t, ht, hlights, fun hc => (hsaved hc).imp
    fun _ _ hfits => hfits.of_sizes hr⟩

theorem ticks_lights : Ticks (Lights c list) := by
  have hrefers : ∀ r : Rig, Ticks (Refers .highlight fun t =>
      t.lights = list ∧ (c → List.Forall₂ r.Fits list t.savedValues)) :=
    fun r => ticks_refers fun _ _ h ht =>
      ⟨h.1.trans ht.1, fun hc => h.2 ▸ ht.2 hc⟩
  refine ⟨⟨fun s r hr h => h.setRig hr.sizes,
    fun s k i stage w hw hstage h => ?_⟩,
    fun s k slot hslot h => (hrefers s.rig).workers s k slot hslot h⟩
  refine ((hrefers s.rig).object s k i stage w hw hstage h).imp fun t ht =>
    ⟨ht.1, fun hc => (ht.2 hc).imp fun _ _ hfits => ?_⟩
  exact hfits.of_sizes hstage.rig.sizes

/-- A method of the highlight thread. -/
theorem triple_onHighlight {inv : Server → Prop} (h : Workable inv)
    (result : α → Prop) {x : Run (Stage HighlightThread) α}
    (hx : ∀ s, inv s → Triple (HighlightThread.Lit c s.rig list) x
      (fun a st => result a ∧ HighlightThread.Lit c s.rig list' st)
      (fun e _ => c → ¬ e.IsThrown)) :
    Triple (fun s => inv s ∧ Lights c list s) (onHighlight x)
      (fun a s => result a ∧ inv s ∧ Lights c list' s)
      (fun e _ => c → ¬ e.IsThrown) := by
  rintro s ⟨hs, hlit⟩
  obtain ⟨i, w, hi, hw, ⟨hlights, hsaved⟩, hderef⟩ := hlit.deref
  have hstart : HighlightThread.Lit c s.rig list (s.rig, w.object) :=
    ⟨Rig.Follows.refl _, hlights, hsaved⟩
  unfold onHighlight onWorker
  rw [bind_of_ok hderef]
  unfold Java.zoom
  cases hrun : x (s.rig, w.object) with
  | ok a stage =>
      obtain ⟨hresult, hlit'⟩ := (hx s hs).of_ok hstart hrun
      refine ⟨hresult, h.slots _ _ (h.rig s stage.1 hlit'.rig hs), stage.2,
        ?_, hlit'.lights, fun hc => (hlit'.saved hc).imp
          fun _ _ hfits => hfits.of_sizes hlit'.rig.sizes⟩
      show Slot.object? ((store .highlight i stage s).slots .highlight) = _
      unfold store
      rw [slots_setSlot_self]
      exact Slot.object?_setObject stage.2 hi hw
  | error e stage => exact (hx s hs).of_error hstart hrun

/-- A method of the highlight thread without a result. -/
theorem triple_onHighlight_unit {inv : Server → Prop} (h : Workable inv)
    {x : Run (Stage HighlightThread) Unit}
    (hx : ∀ s, inv s → Triple (HighlightThread.Lit c s.rig list) x
      (fun _ => HighlightThread.Lit c s.rig list')
      (fun e _ => c → ¬ e.IsThrown)) :
    Triple (fun s => inv s ∧ Lights c list s) (onHighlight x)
      (fun _ s => inv s ∧ Lights c list' s) (fun e _ => c → ¬ e.IsThrown) :=
  (triple_onHighlight h (fun _ => True) fun s hs =>
    (hx s hs).conseq (fun _ h => h) (fun _ _ h => ⟨trivial, h⟩)
      fun _ _ h => h).conseq (fun _ h => h) (fun _ _ h => h.2) fun _ _ h => h

/-! ## What the selection needs -/

/-- What is invariant for a cursor and for flags.  Under `c` all lights are
usable and a revert throws nothing. -/
structure Selecting (c : Prop) (inv : ℕ → List Bool → Server → Prop) :
    Prop where
  workable : ∀ cursor flags, Workable (inv cursor flags)
  cursor : ∀ {cursor flags s}, inv cursor flags s →
    s.currentLightIndex = (cursor : ℤ)
  flags : ∀ {cursor flags s}, inv cursor flags s → s.rig.flags = flags
  lt : ∀ {cursor flags s}, inv cursor flags s → cursor < flags.length
  usable : ∀ {cursor flags s}, inv cursor flags s → c →
    ∀ i < flags.length, s.rig.Usable i
  reverts : ∀ cursor flags, Triple (inv cursor flags) revertScene
    (fun _ => inv cursor flags) (fun e _ => c → ¬ e.IsThrown)
  move : ∀ {cursor flags s} (cursor' : ℕ), inv cursor flags s →
    cursor' < flags.length →
      inv cursor' flags { s with currentLightIndex := cursor' }
  mark : ∀ {cursor flags s} (r : Rig), inv cursor flags s → s.rig.Marks r →
    inv cursor r.flags { s with rig := r }

/-- The cursor before `cursor`, among `n` lights. -/
def before (n cursor : ℕ) : ℕ := if cursor = 0 then n - 1 else cursor - 1

theorem moveLightIndex_eq (s : Server) :
    moveLightIndex s = .ok ⟨⟩ { s with
      currentLightIndex :=
        if s.currentLightIndex - 1 < 0 then s.rig.profiles.length - 1
        else s.currentLightIndex - 1 } := by
  unfold moveLightIndex
  rw [bind_of_ok (x := modify _) rfl, bind_of_ok (x := get) rfl]
  dsimp only
  by_cases hneg : s.currentLightIndex - 1 < 0
  · rw [if_pos hneg, if_pos hneg]
    rfl
  · rw [if_neg hneg, if_neg hneg]
    rfl

/-- The list after the cursor has moved from `cursor` to `next`. -/
def stepped (flags : List Bool) (cursor next : ℕ) (list : List ℕ) : List ℕ :=
  let rest := if flags.getD cursor false then list else list.erase cursor
  if flags.getD next false then rest else HighlightThread.withLight next rest

namespace Selecting

variable {inv : ℕ → List Bool → Server → Prop} (h : Selecting c inv)
  {cursor : ℕ} {flags : List Bool} {s : Server}

include h

theorem getLight_eq (hs : inv cursor flags s) :
    onRig (Rig.getLight (cursor : ℤ)) s = .ok cursor s := by
  have hlt : cursor < s.rig.profiles.length := by
    rw [← Rig.length_flags, h.flags hs]
    exact h.lt hs
  have hget : Rig.getLight (cursor : ℤ) s.rig = .ok cursor s.rig :=
    Rig.getLight_of_lt (Int.natCast_nonneg cursor) (Int.ofNat_lt.mpr hlt)
  unfold onRig Java.zoom
  rw [hget]

theorem currentLight_eq (hs : inv cursor flags s) :
    currentLight s = .ok cursor s := by
  unfold currentLight
  rw [bind_of_ok (x := get) rfl, h.cursor hs]
  exact h.getLight_eq hs

theorem getElem?_flags (hs : inv cursor flags s) {i : ℕ}
    (hi : i < flags.length) :
    ∃ f, s.rig.profiles[i]? = some f ∧ f.isSelected = flags.getD i false := by
  have hflags := h.flags hs
  have hlt : i < s.rig.profiles.length := by
    rw [← Rig.length_flags, hflags]
    exact hi
  refine ⟨s.rig.profiles[i], List.getElem?_eq_getElem hlt, ?_⟩
  rw [← hflags, List.getD_eq_getElem?_getD, Rig.flags, List.getElem?_map,
    List.getElem?_eq_getElem hlt]
  rfl

theorem isSelected_eq (hs : inv cursor flags s) {i : ℕ}
    (hi : i < flags.length) :
    onRig (Rig.isSelected i) s = .ok (flags.getD i false) s := by
  obtain ⟨f, hf, hselected⟩ := h.getElem?_flags hs hi
  have hget : Rig.isSelected i s.rig = .ok f.isSelected s.rig :=
    bind_of_ok (Rig.fixture_of_getElem? hf)
  unfold onRig Java.zoom
  rw [hget, ← hselected]

/-! ## The highlight -/

theorem triple_addLight :
    Triple (fun s => inv cursor flags s ∧ Lights c list s)
      (onHighlight (HighlightThread.addLight cursor))
      (fun _ s => inv cursor flags s ∧
        Lights c (HighlightThread.withLight cursor list) s)
      (fun e _ => c → ¬ e.IsThrown) :=
  triple_onHighlight_unit (h.workable cursor flags) fun _ hs =>
    HighlightThread.lit_addLight fun hc => h.usable hs hc _ (h.lt hs)

theorem triple_removeLight :
    Triple (fun s => inv cursor flags s ∧ Lights c list s)
      (onHighlight (HighlightThread.removeLight cursor))
      (fun _ s => inv cursor flags s ∧ Lights c (list.erase cursor) s)
      (fun e _ => c → ¬ e.IsThrown) :=
  triple_onHighlight_unit (h.workable cursor flags) fun _ hs =>
    HighlightThread.lit_removeLight fun hc => h.usable hs hc _ (h.lt hs)

theorem triple_revertScene :
    Triple (fun s => inv cursor flags s ∧ Lights c list s) revertScene
      (fun _ s => inv cursor flags s ∧ Lights c list s)
      (fun e _ => c → ¬ e.IsThrown) :=
  (h.reverts cursor flags).and_leads ticks_lights.revertScene.leads

/-- The light at the cursor leaves the list, unless it is selected. -/
theorem triple_leaveLight :
    Triple (fun s => inv cursor flags s ∧ Lights c list s) leaveLight
      (fun _ s => inv cursor flags s ∧
        Lights c (if flags.getD cursor false then list
          else list.erase cursor) s)
      (fun e _ => c → ¬ e.IsThrown) := by
  refine Triple.reads_bind (fun s hs => h.currentLight_eq hs.1) ?_
  refine Triple.reads_bind (fun s hs => h.isSelected_eq hs.1 (h.lt hs.1)) ?_
  cases flags.getD cursor false with
  | true => exact Triple.pure fun _ hs => hs
  | false =>
      refine h.triple_removeLight.bind fun _ => h.triple_revertScene.bind
        fun _ => ?_
      exact triple_onHighlight_unit (h.workable cursor flags) fun _ _ =>
        HighlightThread.lit_setUpdateDefaultColor

/-- The light at the cursor joins the list, unless it is selected. -/
theorem triple_enterLight :
    Triple (fun s => inv cursor flags s ∧ Lights c list s) enterLight
      (fun _ s => inv cursor flags s ∧
        Lights c (if flags.getD cursor false then list
          else HighlightThread.withLight cursor list) s)
      (fun e _ => c → ¬ e.IsThrown) := by
  refine Triple.reads_bind (fun s hs => h.currentLight_eq hs.1) ?_
  refine Triple.reads_bind (fun s hs => h.isSelected_eq hs.1 (h.lt hs.1)) ?_
  cases flags.getD cursor false with
  | true => exact Triple.pure fun _ hs => hs
  | false => exact h.triple_addLight

theorem triple_moveLightIndex :
    Triple (fun s => inv cursor flags s ∧ Lights c list s) moveLightIndex
      (fun _ s => inv (before flags.length cursor) flags s ∧ Lights c list s)
      (fun e _ => c → ¬ e.IsThrown) := by
  rintro s ⟨hs, hlights⟩
  have hlt := h.lt hs
  have hlength : s.rig.profiles.length = flags.length := by
    rw [← Rig.length_flags, h.flags hs]
  have hbefore : (if s.currentLightIndex - 1 < 0 then
      (s.rig.profiles.length : ℤ) - 1 else s.currentLightIndex - 1) =
        (before flags.length cursor : ℤ) := by
    rw [h.cursor hs, hlength]
    unfold before
    split_ifs <;> omega
  rw [moveLightIndex_eq, hbefore]
  refine ⟨h.move _ hs ?_, hlights⟩
  unfold before
  split_ifs <;> omega

theorem triple_stepLight :
    Triple (fun s => inv cursor flags s ∧ Lights c list s) stepLight
      (fun _ s => inv (before flags.length cursor) flags s ∧
        Lights c (stepped flags cursor (before flags.length cursor) list) s)
      (fun e _ => c → ¬ e.IsThrown) :=
  h.triple_leaveLight.bind fun _ => h.triple_moveLightIndex.bind fun _ =>
    h.triple_enterLight

/-! ## Selecting lights -/

theorem triple_setSelected {i : ℕ} (hi : i < flags.length) (selected : Bool) :
    Triple (fun s => inv cursor flags s ∧ Lights c list s)
      (onRig (Rig.setSelected i selected))
      (fun _ s => inv cursor (flags.set i selected) s ∧ Lights c list s)
      (fun e _ => c → ¬ e.IsThrown) := by
  rintro s ⟨hs, hlights⟩
  obtain ⟨f, hf, -⟩ := h.getElem?_flags hs hi
  have hset := Rig.setSelected_of_getElem? hf selected
  have hmarks := (Rig.marks_setSelected i selected).of_ok
    (Rig.Marks.refl s.rig) hset
  have hflags : Rig.flags { s.rig with
      profiles := s.rig.profiles.set i (f.setSelected selected) } =
        flags.set i selected := by
    rw [← h.flags hs]
    exact List.map_set
  have hmark := h.mark _ hs hmarks
  rw [hflags] at hmark
  unfold onRig Java.zoom
  rw [hset]
  exact ⟨hmark, hlights.setRig hmarks.sizes⟩

theorem triple_toggleLight :
    Triple (fun s => inv cursor flags s ∧ Lights c list s) toggleLight
      (fun _ s => inv cursor
        (flags.set cursor (!flags.getD cursor false)) s ∧ Lights c list s)
      (fun e _ => c → ¬ e.IsThrown) := by
  refine Triple.reads_bind (fun s hs => h.currentLight_eq hs.1) ?_
  refine Triple.reads_bind (fun s hs => h.isSelected_eq hs.1 (h.lt hs.1)) ?_
  by_cases hlt : cursor < flags.length
  · cases flags.getD cursor false with
    | true => exact h.triple_setSelected hlt false
    | false => exact h.triple_setSelected hlt true
  · exact fun s hs => absurd (h.lt hs.1) hlt

/-- No light is selected any more. -/
theorem triple_clearSelected {keeps : Server → Prop}
    (hkeeps : ∀ s r, s.rig.Marks r → keeps s → keeps { s with rig := r }) :
    Triple (fun s => inv cursor flags s ∧ keeps s) clearSelected
      (fun _ s => inv cursor (List.replicate flags.length false) s ∧ keeps s)
      (fun e _ => c → ¬ e.IsThrown) := by
  rintro s ⟨hs, hkept⟩
  have hmarks := Rig.marks_clearSelected.of_ok (Rig.Marks.refl s.rig)
    (Rig.clearSelected_eq s.rig)
  have hflags : Rig.flags { s.rig with
      profiles := s.rig.profiles.map (·.setSelected false) } =
        List.replicate flags.length false := by
    rw [← h.flags hs, Rig.length_flags]
    exact (List.map_map).trans (List.map_const' ..)
  have hmark := h.mark _ hs hmarks
  rw [hflags] at hmark
  unfold clearSelected onRig Java.zoom
  rw [Rig.clearSelected_eq]
  exact ⟨hmark, hkeeps _ _ hmarks hkept⟩

theorem triple_clearSelected_all :
    Triple (inv cursor flags) clearSelected
      (fun _ => inv cursor (List.replicate flags.length false))
      (fun e _ => c → ¬ e.IsThrown) :=
  (h.triple_clearSelected (fun _ _ _ => id)).conseq
    (fun _ hs => ⟨hs, trivial⟩) (fun _ _ hs => hs.1) fun _ _ he => he

/-! ## The thread -/

/-- The highlight ends, and the lights of its list are returned. -/
theorem triple_redrumHighlight (hlist : c → ∀ i ∈ list, i < flags.length) :
    Triple (fun s => inv cursor flags s ∧ Lights c list s) redrumHighlight
      (fun lights s => lights = list ∧ inv cursor flags s)
      (fun e _ => c → ¬ e.IsThrown) := by
  have hworkable := h.workable cursor flags
  have hredrum : Triple (fun s => inv cursor flags s ∧ Lights c list s)
      (onHighlight HighlightThread.redrum)
      (fun lights s => lights = list ∧ inv cursor flags s ∧ Lights c [] s)
      (fun e _ => c → ¬ e.IsThrown) :=
    triple_onHighlight hworkable (fun lights => lights = list) fun s hs =>
      HighlightThread.lit_redrum fun hc i hi => h.usable hs hc i (hlist hc i hi)
  have hclear : Triple (fun s => inv cursor flags s ∧ Lights c list s)
      (clearRunning .highlight)
      (fun _ s => inv cursor flags s ∧ Lights c list s)
      (fun e _ => c → ¬ e.IsThrown) := by
    rintro s ⟨hs, hlights⟩
    obtain ⟨i, w, -, -, -, hderef⟩ := Refers.deref hlights
    unfold clearRunning
    rw [bind_of_ok hderef]
    exact ⟨hworkable.slots _ _ hs, ticks_lights.workers s _ _
      (Slot.sameObjects_setRunning ..) hlights⟩
  refine hclear.bind fun _ => hredrum.bind fun lights => ?_
  rintro s ⟨hlights, hs, hrefers⟩
  exact (hworkable.triple_join.bind fun _ =>
    Triple.pure fun _ hs => ⟨hlights, hs⟩) s
      ⟨hs, Refers.imp hrefers fun _ _ => trivial⟩

/-- The highlight starts with the light at the cursor. -/
theorem triple_startHighlight :
    Triple (inv cursor flags) startHighlight
      (fun _ s => inv cursor flags s ∧ Lights c [cursor] s)
      (fun e _ => c → ¬ e.IsThrown) := by
  have hworkable := h.workable cursor flags
  have hconstruct : Triple (inv cursor flags)
      (modify fun s => s.setSlot .highlight
        ((s.slots .highlight).construct HighlightThread.new))
      (fun _ s => inv cursor flags s ∧ Lights c [] s)
      (fun e _ => c → ¬ e.IsThrown) := by
    refine Triple.modify fun s hs => ⟨hworkable.slots _ _ hs,
      HighlightThread.new, ?_, rfl, fun _ => .nil⟩
    rw [slots_setSlot_self]
    exact Slot.object?_construct ..
  refine hconstruct.bind fun _ => Triple.get_bind fun s hs => ?_
  rw [h.cursor hs.1]
  refine Triple.reads_bind (fun s hs => h.getLight_eq hs.1) ?_
  refine h.triple_addLight.bind fun _ => Triple.modify fun s hs => ?_
  exact ⟨hworkable.slots _ _ hs.1, hs.2.setSlot Slot.sameObjects_launch⟩

end Selecting

end Server

end ChuckLight
