import ChuckLight.Threads.HighlightList
import ChuckLight.Threads.Steady

/-!
# Which workers can be alive

A worker that leaves a pass by an exception ends by itself, so that a mode can
lose the worker that it owns.  What remains true is that no other worker is
alive; it holds in every run in which no command leaves a mode without telling
its worker to stop.  Moreover a highlight thread never has a light twice.
-/

namespace ChuckLight

open Java

namespace Slot

variable {β : Type} {slot slot' : Slot β} {fine : β → Prop}
  {f : ℕ → Worker β → Worker β} {allowed allowed' : Prop} {i : ℕ}

/-- No worker is alive but the one that the field refers to, and that one only
if it is allowed; all objects are as they should be. -/
structure Staffed (fine : β → Prop) (allowed : Prop) (slot : Slot β) :
    Prop where
  ref : ∀ (i : ℕ) (w : Worker β), slot.workers[i]? = some w →
    w.alive = true → slot.ref = some i
  idle : ¬ allowed → slot.Idle
  fine : ∀ (i : ℕ) (w : Worker β), slot.workers[i]? = some w → fine w.object

theorem Staffed.change (h : slot.Staffed fine allowed)
    (href : slot'.ref = slot.ref)
    (hworkers : ∀ j, slot'.workers[j]? = slot.workers[j]?.map (f j))
    (halive : ∀ j w, w.alive = false → (f j w).alive = false)
    (hfine : ∀ j w, slot.workers[j]? = some w → fine (f j w).object) :
    slot'.Staffed fine allowed := by
  refine ⟨fun j v hv hlive => ?_, fun hnot =>
    (h.idle hnot).change hworkers halive, fun j v hv => ?_⟩
  · rw [hworkers j] at hv
    obtain ⟨w, hw, rfl⟩ := Option.map_eq_some_iff.mp hv
    rw [href]
    refine h.ref j w hw ?_
    cases hw' : w.alive with
    | true => rfl
    | false =>
        rw [halive j w hw'] at hlive
        cases hlive
  · rw [hworkers j] at hv
    obtain ⟨w, hw, rfl⟩ := Option.map_eq_some_iff.mp hv
    exact hfine j w hw

theorem Staffed.modifyAt (h : slot.Staffed fine allowed) (i : ℕ)
    {f : Worker β → Worker β}
    (halive : ∀ w, w.alive = false → (f w).alive = false)
    (hfine : ∀ w, slot.workers[i]? = some w → fine (f w).object) :
    (slot.modifyAt i f).Staffed fine allowed := by
  refine h.change rfl (getElem?_modifyAt slot i · f) (fun j w hw => ?_)
    fun j w hw => ?_
  · split_ifs
    · exact halive w hw
    · exact hw
  · split_ifs with hij
    · subst hij
      exact hfine w hw
    · exact h.fine j w hw

theorem Staffed.setRunning (h : slot.Staffed fine allowed) (isStatic : Bool)
    (i : ℕ) (running : Bool) :
    (slot.setRunning isStatic i running).Staffed fine allowed := by
  refine h.change (ref_setRunning ..)
    (getElem?_setRunning slot isStatic running i) (fun j w hw => ?_)
    fun j w hw => ?_
  · split_ifs <;> exact hw
  · split_ifs <;> exact h.fine j w hw

/-- A new worker is not alive yet. -/
theorem Staffed.construct (h : slot.Staffed fine allowed) (hidle : slot.Idle)
    {object : β} (hobject : fine object) :
    (slot.construct object).Staffed fine allowed' := by
  have hworker : ∀ (j : ℕ) (w : Worker β),
      (slot.construct object).workers[j]? = some w →
        w.alive = false ∧ fine w.object := by
    intro j w hw
    rcases List.mem_append.mp (List.mem_of_getElem? hw) with hold | hnew
    · obtain ⟨i, hi⟩ := List.getElem?_of_mem hold
      exact ⟨hidle i w hi, h.fine i w hi⟩
    · rw [List.mem_singleton.mp hnew]
      exact ⟨rfl, hobject⟩
  refine ⟨fun j w hw halive => ?_, fun _ j w hw => (hworker j w hw).1,
    fun j w hw => (hworker j w hw).2⟩
  rw [(hworker j w hw).1] at halive
  cases halive

/-- The worker that the field refers to starts. -/
theorem Staffed.launch (h : slot.Staffed fine allowed) (hidle : slot.Idle)
    (hallowed : allowed') : slot.launch.Staffed fine allowed' := by
  unfold Slot.launch
  cases href : slot.ref with
  | none =>
      exact ⟨h.ref, fun _ => hidle, h.fine⟩
  | some i =>
      refine ⟨fun j v hv hlive => ?_, fun hnot => absurd hallowed hnot,
        fun j v hv => ?_⟩
      · rw [getElem?_modifyAt] at hv
        obtain ⟨w, hw, rfl⟩ := Option.map_eq_some_iff.mp hv
        show slot.ref = some j
        by_cases hij : i = j
        · rw [href, hij]
        · rw [if_neg hij] at hlive
          exact h.ref j w hw hlive
      · rw [getElem?_modifyAt] at hv
        obtain ⟨w, hw, rfl⟩ := Option.map_eq_some_iff.mp hv
        split_ifs <;> exact h.fine j w hw

/-- The worker that the field refers to ends. -/
theorem Staffed.finish (h : slot.Staffed fine allowed)
    (hi : slot.ref = some i) :
    Staffed fine allowed' { slot.finish i with ref := none } := by
  have hworker : ∀ (j : ℕ) (v : Worker β),
      (slot.finish i).workers[j]? = some v →
        v.alive = false ∧ fine v.object := by
    intro j v hv
    unfold Slot.finish at hv
    rw [getElem?_modifyAt] at hv
    obtain ⟨w, hw, rfl⟩ := Option.map_eq_some_iff.mp hv
    by_cases hij : i = j
    · rw [if_pos hij]
      exact ⟨rfl, h.fine j w hw⟩
    · rw [if_neg hij]
      refine ⟨?_, h.fine j w hw⟩
      cases hlive : w.alive with
      | false => rfl
      | true => exact absurd (Option.some.inj (hi.symm.trans
          (h.ref j w hw hlive))) hij
  refine ⟨fun j v hv hlive => ?_, fun _ j v hv => (hworker j v hv).1,
    fun j v hv => (hworker j v hv).2⟩
  rw [(hworker j v hv).1] at hlive
  cases hlive

end Slot

/-- A highlight thread has no light twice. -/
def WorkerField.Neat : (k : WorkerField) → k.Object → Prop
  | .highlight, t => t.lights.Nodup
  | _, _ => True

theorem WorkerField.neat_of_ne {k : WorkerField} (h : k ≠ .highlight)
    (t : k.Object) : k.Neat t := by
  cases k with
  | highlight => exact absurd rfl h
  | _ => trivial

theorem WorkerField.Alike.neat {k : WorkerField} {t t' : k.Object}
    (h : k.Alike t t') (ht : k.Neat t) : k.Neat t' := by
  cases k with
  | highlight =>
      show t'.lights.Nodup
      rw [h.1]
      exact ht
  | _ => trivial

namespace HighlightThread

/-- The lights may show something else, and no light is in the list twice. -/
def Tidy (r : Rig) (st : Stage HighlightThread) : Prop :=
  r.Follows st.1 ∧ st.2.lights.Nodup

variable {r : Rig} {α : Type}

/-- What is known of a method for each list. -/
theorem tidy_of_lit (result : α → Prop) {x : Run (Stage HighlightThread) α}
    {f : List ℕ → List ℕ}
    (hf : ∀ list, list.Nodup → (f list).Nodup)
    (hx : ∀ list, list.Nodup → Triple (Lit False r list) x
      (fun a st => result a ∧ Lit False r (f list) st)
      (fun e _ => False → ¬ e.IsThrown)) :
    Triple (Tidy r) x (fun a st => result a ∧ Tidy r st)
      (fun _ _ => True) := by
  rintro st ⟨hr, hnodup⟩
  have hrun := hx st.2.lights hnodup st ⟨hr, rfl, False.elim⟩
  cases hresult : x st with
  | ok a st' =>
      rw [hresult] at hrun
      obtain ⟨ha, hlit⟩ := hrun
      exact ⟨ha, hlit.rig, hlit.lights ▸ hf _ hnodup⟩
  | error e st' => trivial

theorem nodup_withLight {list : List ℕ} (light : ℕ) (h : list.Nodup) :
    (withLight light list).Nodup := by
  unfold withLight
  split_ifs with hmem
  · exact h
  · rw [← List.concat_eq_append]
    exact h.concat hmem

theorem leads_tidy_addLight (light : ℕ) :
    Leads (Tidy r) (addLight light) (Tidy r) :=
  (tidy_of_lit (fun _ => True)
    (fun _ => nodup_withLight light) fun _ _ =>
      (lit_addLight False.elim).mono fun _ _ h => ⟨trivial, h⟩).mono
        fun _ _ h => h.2

theorem leads_tidy_removeLight (light : ℕ) :
    Leads (Tidy r) (removeLight light) (Tidy r) :=
  (tidy_of_lit (fun _ => True)
    (fun _ h => h.erase light) fun _ _ =>
      (lit_removeLight False.elim).mono fun _ _ h => ⟨trivial, h⟩).mono
        fun _ _ h => h.2

/-- The thread returns a list without repetitions. -/
theorem triple_tidy_redrum :
    Triple (Tidy r) redrum
      (fun lights st => lights.Nodup ∧ Tidy r st) (fun _ _ => True) :=
  tidy_of_lit _ (f := fun _ => []) (fun _ _ => List.nodup_nil)
    fun _ hnodup => (lit_redrum False.elim).mono
      fun _ _ h => ⟨h.1 ▸ hnodup, h.2⟩

end HighlightThread

namespace Server

variable {inv : Server → Prop} {o o' : Option WorkerField} {k : WorkerField}
  {s : Server} {α : Type}

/-- The invariant holds, and no worker is alive but one of the field `o`. -/
structure Manned (inv : Server → Prop) (o : Option WorkerField)
    (s : Server) : Prop where
  holds : inv s
  staffed : ∀ k, (s.slots k).Staffed k.Neat (o = some k)

theorem Manned.imp {inv' : Server → Prop} (h : Manned inv o s)
    (himp : inv s → inv' s) : Manned inv' o s := ⟨himp h.holds, h.staffed⟩

/-- A change of the workers of one field. -/
theorem Manned.setSlot (hinv : Workable inv) (h : Manned inv o s)
    {slot : Slot k.Object} (hslot : slot.Staffed k.Neat (o' = some k))
    (hothers : ∀ k' ≠ k, o = some k' → o' = some k') :
    Manned inv o' (s.setSlot k slot) := by
  refine ⟨hinv.slots _ _ h.holds, fun k' => ?_⟩
  by_cases hk : k' = k
  · subst hk
    rw [slots_setSlot_self]
    exact hslot
  · rw [slots_setSlot_of_ne hk]
    have hstaffed := h.staffed k'
    exact ⟨hstaffed.ref, fun hnot => hstaffed.idle fun ho =>
      hnot (hothers k' hk ho), hstaffed.fine⟩

/-! ## Showing -/

theorem shown_manned (h : Shown inv) : Shown (Manned inv o) where
  rig := fun s r hr hs => ⟨h.rig s r hr hs.holds, hs.staffed⟩
  object := fun s k i stage w hw hstage hs => by
    refine ⟨h.object s k i stage w hw hstage hs.holds, fun k' => ?_⟩
    unfold store
    by_cases hk : k' = k
    · subst hk
      rw [slots_setSlot_self]
      refine (hs.staffed k').modifyAt i (fun _ hw => hw) fun v hv => ?_
      cases hw.symm.trans hv
      exact hstage.object.neat ((hs.staffed k').fine i w hw)
    · rw [slots_setSlot_of_ne hk]
      exact hs.staffed k'

/-- A method of the highlight thread. -/
theorem triple_onHighlight_manned (hinv : Workable inv) (result : α → Prop)
    {x : Run (Stage HighlightThread) α}
    (hx : ∀ r, Triple (HighlightThread.Tidy r) x
      (fun a st => result a ∧ HighlightThread.Tidy r st)
      (fun _ _ => True)) :
    Triple (Manned inv o) (onHighlight x)
      (fun a s => result a ∧ Manned inv o s) (fun _ _ => True) := by
  intro s hs
  unfold onHighlight onWorker
  rcases deref_cases .highlight s with ⟨i, w, -, hw, hderef⟩ | hderef
  · rw [bind_of_ok hderef]
    unfold Java.zoom
    have hstart : HighlightThread.Tidy s.rig (s.rig, w.object) :=
      ⟨Rig.Follows.refl _, (hs.staffed .highlight).fine i w hw⟩
    cases hrun : x (s.rig, w.object) with
    | error e stage => trivial
    | ok a stage =>
        obtain ⟨hresult, hrig, hnodup⟩ := (hx s.rig).of_ok hstart hrun
        have hshown : Manned inv o { s with rig := stage.1 } :=
          ⟨hinv.rig s stage.1 hrig hs.holds, hs.staffed⟩
        exact ⟨hresult, hshown.setSlot (k := .highlight) hinv
          ((hs.staffed .highlight).modifyAt i (fun _ hw => hw)
            fun _ _ => hnodup) fun _ _ ho => ho⟩
  · rw [bind_of_error hderef]
    trivial

theorem leads_onHighlight_manned (hinv : Workable inv)
    {x : Run (Stage HighlightThread) Unit}
    (hx : ∀ r, Leads (HighlightThread.Tidy r) x
      (HighlightThread.Tidy r)) :
    Leads (Manned inv o) (onHighlight x) (Manned inv o) :=
  (triple_onHighlight_manned hinv (fun _ => True) fun r =>
    Triple.mono (hx r) fun _ _ h => ⟨trivial, h⟩).mono fun _ _ h => h.2

/-! ## Starting and stopping workers -/

section Workers

variable (h : Workable inv)

include h

theorem leads_startWorker_manned (k : WorkerField) {object : k.Object}
    (hobject : k.Neat object) :
    Leads (Manned inv none) (startWorker k object)
      (Manned inv (some k)) := by
  refine Leads.modify fun s hs => ?_
  have hidle : (s.slots k).Idle := (hs.staffed k).idle nofun
  have hconstruct : ((s.slots k).construct object).Staffed k.Neat False :=
    (hs.staffed k).construct hidle hobject
  exact hs.setSlot h (hconstruct.launch (hconstruct.idle id) rfl)
    fun _ _ ho => nomatch ho

theorem manned_clearRunning (k : WorkerField) :
    Preserves (Manned inv o) (clearRunning k) :=
  (preserves_deref k).bind fun _ => Preserves.modify fun _ hs =>
    hs.setSlot h ((hs.staffed k).setRunning _ _ _) fun _ _ ho => ho

theorem leads_join_manned (k : WorkerField) :
    Leads (Manned inv (some k)) (join k) (Manned inv none) := by
  intro s hs
  unfold join
  rcases deref_cases k s with ⟨i, w, hi, hw, hderef⟩ | hderef
  · rw [bind_of_ok hderef]
    by_cases hwaits : w.alive = true ∧ w.begun = false
    · rw [if_pos hwaits]
      trivial
    · rw [if_neg hwaits]
      refine hs.setSlot h ((hs.staffed k).finish hi) ?_
      exact fun k' hk ho => absurd (Option.some.inj ho).symm hk
  · rw [bind_of_error hderef]
    trivial

theorem leads_redrum_manned (k : WorkerField) :
    Leads (Manned inv (some k)) (redrum k) (Manned inv none) :=
  (manned_clearRunning h k).leads.bind fun _ => leads_join_manned h k

theorem leads_startHighlight_manned :
    Leads (Manned inv none) startHighlight
      (Manned inv (some .highlight)) := by
  have hconstruct : Leads (Manned inv none)
      (modify fun s => s.setSlot .highlight
        ((s.slots .highlight).construct HighlightThread.new))
      (Manned inv none) := by
    refine Leads.modify fun s hs => hs.setSlot h ?_ fun _ _ ho => ho
    exact (hs.staffed .highlight).construct
      ((hs.staffed .highlight).idle nofun) List.nodup_nil
  refine hconstruct.bind fun _ => ?_
  refine (shown_manned h.toShown).currentLight.leads.bind fun light => ?_
  refine (leads_onHighlight_manned h fun _ =>
    HighlightThread.leads_tidy_addLight light).bind fun _ => ?_
  refine Leads.modify fun s hs => hs.setSlot h ?_ fun _ _ ho => nomatch ho
  exact (hs.staffed .highlight).launch ((hs.staffed .highlight).idle nofun) rfl

/-- The lights of the list are returned, without repetitions. -/
theorem triple_redrumHighlight_manned :
    Triple (Manned inv (some .highlight)) redrumHighlight
      (fun lights s => lights.Nodup ∧ Manned inv none s)
      (fun _ _ => True) := by
  refine Triple.bind (manned_clearRunning h .highlight).leads fun _ => ?_
  refine (triple_onHighlight_manned h _ fun _ =>
    HighlightThread.triple_tidy_redrum).bind fun temp => ?_
  rintro s ⟨hnodup, hs⟩
  cases hrun : join .highlight s with
  | error e s' =>
      rw [bind_of_error hrun]
      trivial
  | ok u s' =>
      rw [bind_of_ok hrun]
      exact ⟨hnodup, (leads_join_manned h .highlight).of_ok hs hrun⟩

/-! ## Ticks -/

/-- A step of a worker lets no other worker live. -/
theorem manned_tick (k : WorkerField) (i : ℕ) :
    Preserves (Manned inv o) (tick k i) := by
  have hfinish : ∀ s, Manned inv o s → Manned inv o (finishWorker k i s) :=
    fun s hs => hs.setSlot h ((hs.staffed k).modifyAt i (fun _ _ => rfl)
      fun w hw => (hs.staffed k).fine i w hw) fun _ _ ho => ho
  have hbegin : ∀ s, Manned inv o s → Manned inv o (beginWorker k i s) := by
    intro s hs
    have hrunning := (hs.staffed k).setRunning k.isStatic i true
    exact hs.setSlot h (hrunning.modifyAt i (fun _ hw => hw)
      fun w hw => hrunning.fine i w hw) fun _ _ ho => ho
  exact preserves_tick hfinish hbegin fun s w stage hw hstage hs =>
    (shown_manned h.toShown).object s k i stage w hw hstage hs

end Workers

/-- Where no worker is alive, none makes a step. -/
theorem tick_of_idle {k : WorkerField} (h : (s.slots k).Idle) (i : ℕ) :
    tick k i s = .ok ⟨⟩ s := by
  unfold Server.tick
  cases hw : (s.slots k).workers[i]? with
  | none => rfl
  | some w =>
      have hdead := h i w hw
      simp only [hdead, if_true]

end Server

end ChuckLight
