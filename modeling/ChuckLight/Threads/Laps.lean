import ChuckLight.Threads.Edits
import ChuckLight.Threads.WorkerLoops

/-!
# The laps of the workers

In the model of the server a worker that has begun and is alive stands at the
head of its loop, and a pass is one step.  Here the steps of that model are laps
of the loops: each is made of steps of the same worker.
-/

namespace ChuckLight

/-! ## Several steps of a worker -/

namespace WorkerField

variable {k : WorkerField}

/-- Several steps of a worker whose field keeps its value. -/
def walk (k : WorkerField) (running : Bool) (turns : List Turn) (p : Point) :
    Point :=
  turns.foldl (fun p turn => k.next running turn p) p

/-- The inner loop visits all its lights. -/
theorem exists_walk_light (k : WorkerField) (n : ℕ) :
    ∃ turns, k.walk true turns (.light n) = k.leave := by
  induction n with
  | zero => exact ⟨[⟨0, false⟩], rfl⟩
  | succ n ih =>
      obtain ⟨turns, hturns⟩ := ih
      by_cases hchase : k = chase
      · subst hchase
        exact ⟨⟨0, false⟩ :: ⟨0, false⟩ :: ⟨0, false⟩ :: turns, hturns⟩
      · have hbody : k.next true ⟨0, false⟩ (.body n) = .light n :=
          if_neg hchase
        have hlight : k.next true ⟨0, false⟩ (.light (n + 1)) = .body n :=
          if_neg (by simp)
        refine ⟨⟨0, false⟩ :: ⟨0, false⟩ :: turns, ?_⟩
        unfold walk at hturns ⊢
        rw [List.foldl_cons, List.foldl_cons, hlight, hbody]
        exact hturns

/-- A lap around `n` lights comes back to the test. -/
theorem exists_lap (k : WorkerField) (n : ℕ) :
    ∃ turns, k.walk true (⟨n, false⟩ :: turns) .test = .test := by
  obtain ⟨turns, hturns⟩ := k.exists_walk_light n
  by_cases hchase : k = chase
  · subst hchase
    exact ⟨turns, hturns⟩
  · refine ⟨turns ++ [⟨0, false⟩], ?_⟩
    show (turns ++ [_]).foldl _ (.light n) = Point.test
    have hleave : k.leave = .sleep := if_neg hchase
    unfold walk at hturns
    rw [List.foldl_append, hturns, hleave]
    rfl

/-- An exception leaves the body of the inner loop. -/
theorem exists_throw (k : WorkerField) :
    ∃ turns, k.walk true turns .test = .ended := by
  refine ⟨[⟨1, false⟩, ⟨0, false⟩, ⟨0, true⟩], ?_⟩
  have hlight : k.next true ⟨0, false⟩ (.light 1) = .body 0 := if_neg (by simp)
  show k.next true _ (k.next true _ (.light 1)) = .ended
  rw [hlight]
  rfl

end WorkerField

namespace Loops

variable {k : WorkerField} {l : Loops} {i : ℕ} {w : Loop} {p : Point}

/-- The worker at position `i` is at another point. -/
def place (l : Loops) (i : ℕ) (w : Loop) (p : Point) : Loops :=
  ⟨l.shared, l.workers.set i { w with point := p }⟩

theorem getElem?_place (hw : l.workers[i]? = some w) (p : Point) :
    (l.place i w p).workers[i]? = some { w with point := p } :=
  List.getElem?_set_self (List.getElem?_eq_some_iff.mp hw).1

theorem getElem?_place_of_ne {j : ℕ} (h : i ≠ j) (w : Loop) (p : Point) :
    (l.place i w p).workers[j]? = l.workers[j]? :=
  List.getElem?_set_ne h

theorem place_point (hw : l.workers[i]? = some w) :
    l.place i w w.point = l := by
  have hset : l.workers.set i w = l.workers := by
    obtain ⟨hlt, heq⟩ := List.getElem?_eq_some_iff.mp hw
    rw [← heq]
    exact List.set_getElem_self hlt
  unfold place
  rw [hset]

theorem step_place (hw : l.workers[i]? = some w) (hp : p ≠ .started)
    (turn : Turn) :
    (l.place i w p).step k (.own i turn) =
      l.place i w (k.next (l.reads k w) turn p) := by
  rw [step_own (getElem?_place hw p) hp]
  unfold place
  rw [List.set_set]
  rfl

theorem foldl_place (hw : l.workers[i]? = some w) (hp : p ≠ .started)
    (turns : List Turn) :
    (turns.map (.own i)).foldl (step k) (l.place i w p) =
      l.place i w (k.walk (l.reads k w) turns p) := by
  induction turns generalizing p with
  | nil => rfl
  | cons turn turns ih =>
      rw [List.map_cons, List.foldl_cons, step_place hw hp turn]
      exact ih (Point.next_ne_started _)

theorem foldl_own (hw : l.workers[i]? = some w) (hne : w.point ≠ .started)
    (turns : List Turn) :
    (turns.map (.own i)).foldl (step k) l =
      l.place i w (k.walk (l.reads k w) turns w.point) := by
  have h := foldl_place (k := k) hw hne turns
  rwa [place_point hw] at h

end Loops

/-! ## The workers of the server -/

/-- Where a worker of the server stands. -/
def Worker.point {β : Type} (w : Worker β) : Point :=
  if w.begun = false then .started else if w.alive then .test else .ended

/-- The loops of the workers of a field. -/
structure LoopsOf {β : Type} (k : WorkerField) (slot : Slot β) (l : Loops) :
    Prop where
  length : slot.workers.length = l.workers.length
  worker : ∀ (j : ℕ) (w : Worker β), slot.workers[j]? = some w →
    ∃ v, l.workers[j]? = some v ∧ v.point = w.point ∧
      (w.begun = true → w.running = l.reads k v)

namespace LoopsOf

variable {β : Type} {k : WorkerField} {slot slot' : Slot β} {l : Loops} {i : ℕ}
  {w : Worker β} {v : Loop}

/-- The point of one worker changes. -/
theorem place (h : LoopsOf k slot l) (hw : slot.workers[i]? = some w)
    (hv : l.workers[i]? = some v) {f : Worker β → Worker β}
    (hrunning : (f w).begun = true → (f w).running = l.reads k v) :
    LoopsOf k (slot.modifyAt i f) (l.place i v (f w).point) where
  length := by
    show (slot.workers.modify i f).length = (l.workers.set i _).length
    rw [List.length_modify, List.length_set]
    exact h.length
  worker := by
    intro j u hu
    rw [Slot.getElem?_modifyAt] at hu
    obtain ⟨u', hu', rfl⟩ := Option.map_eq_some_iff.mp hu
    by_cases hj : i = j
    · subst hj
      have heq : u' = w := Option.some.inj (hu'.symm.trans hw)
      subst heq
      rw [if_pos rfl]
      exact ⟨_, Loops.getElem?_place hv _, rfl, hrunning⟩
    · obtain ⟨v', hv', hpoint, hreads⟩ := h.worker j u' hu'
      rw [if_neg hj]
      exact ⟨v', (Loops.getElem?_place_of_ne hj v _).trans hv', hpoint, hreads⟩

/-- The server constructs a worker. -/
theorem construct (h : LoopsOf k slot l) (object : β) :
    LoopsOf k (slot.construct object) (l.step k .start) where
  length := by
    show (slot.workers ++ [_]).length = (l.workers ++ [_]).length
    rw [List.length_append, List.length_append, h.length]
    rfl
  worker := by
    intro j w hw
    rcases Nat.lt_or_ge j slot.workers.length with hlt | hge
    · have hold : slot.workers[j]? = some w :=
        (List.getElem?_append_left hlt).symm.trans hw
      obtain ⟨v, hv, hloop⟩ := h.worker j w hold
      exact ⟨v, (List.getElem?_append_left (h.length ▸ hlt)).trans hv, hloop⟩
    · have hlast := (List.getElem?_eq_some_iff.mp hw).1
      have hlength : (slot.construct object).workers.length =
          slot.workers.length + 1 := List.length_append
      have heq : j = slot.workers.length := by omega
      subst heq
      have hnew : w = ⟨false, false, false, object⟩ :=
        Option.some.inj (hw.symm.trans List.getElem?_concat_length)
      subst hnew
      refine ⟨⟨.started, false, false⟩, ?_, rfl, nofun⟩
      rw [h.length]
      exact List.getElem?_concat_length

/-- A worker that has not begun stands at the same point, alive or not. -/
theorem setAlive (h : LoopsOf k slot l) (hw : slot.workers[i]? = some w)
    (hbegun : w.begun = false) (alive : Bool) :
    LoopsOf k (slot.modifyAt i fun w => { w with alive := alive }) l := by
  obtain ⟨v, hv, hpoint, hreads⟩ := h.worker i w hw
  have hsame : ({ w with alive := alive } : Worker β).point = v.point := by
    rw [hpoint]
    unfold Worker.point
    rw [hbegun, if_pos rfl, if_pos rfl]
  have hplace := h.place hw hv (f := fun w => { w with alive := alive }) hreads
  rwa [hsame, Loops.place_point hv] at hplace

/-- The server starts a worker that has not begun. -/
theorem launch (h : LoopsOf k slot l) (hi : slot.ref = some i)
    (hw : slot.workers[i]? = some w) (hbegun : w.begun = false) :
    LoopsOf k slot.launch l := by
  have hlaunch : slot.launch =
      slot.modifyAt i fun w => { w with alive := true } := by
    unfold Slot.launch
    rw [hi]
  rw [hlaunch]
  exact h.setAlive hw hbegun true

/-- The field of one worker gets a value, and so does the static field of a
class that has one. -/
theorem setRunning (h : LoopsOf k slot l) (hw : slot.workers[i]? = some w)
    (running : Bool) {v' : Loop} (hpoint : v'.point = w.point)
    (hrunning : v'.running = running) :
    LoopsOf k (slot.setRunning k.isStatic i running)
      ⟨l.assigned k running, l.workers.set i v'⟩ where
  length := by
    rw [List.length_set, ← h.length]
    unfold Slot.setRunning Slot.modifyAt
    split_ifs
    · exact List.length_map _
    · exact List.length_modify ..
  worker := by
    intro j u hu
    rw [Slot.getElem?_setRunning] at hu
    obtain ⟨u', hu', rfl⟩ := Option.map_eq_some_iff.mp hu
    obtain ⟨v, hv, hpoint', hreads⟩ := h.worker j u' hu'
    unfold Loops.reads Loops.assigned at *
    by_cases hj : i = j
    · subst hj
      have heq : u' = w := Option.some.inj (hu'.symm.trans hw)
      subst heq
      have hlt := (List.getElem?_eq_some_iff.mp hv).1
      refine ⟨v', List.getElem?_set_self hlt, ?_, fun _ => ?_⟩
      · rw [if_pos (Or.inr rfl)]
        exact hpoint
      · rw [if_pos (Or.inr rfl)]
        split_ifs
        · rfl
        · exact hrunning.symm
    · refine ⟨v, (List.getElem?_set_ne hj).trans hv, ?_, ?_⟩
      · rw [hpoint']
        split_ifs <;> rfl
      · cases hstatic : k.isStatic with
        | true =>
            rw [if_pos (Or.inl rfl)]
            exact fun _ => rfl
        | false =>
            rw [hstatic] at hreads
            rw [if_neg (by simp [hj])]
            exact hreads

/-- The server calls `redrum`. -/
theorem redrum (h : LoopsOf k slot l) (hw : slot.workers[i]? = some w) :
    LoopsOf k (slot.setRunning k.isStatic i false) (l.step k (.redrum i)) := by
  obtain ⟨v, hv, hpoint, -⟩ := h.worker i w hw
  rw [Loops.step_redrum hv]
  exact h.setRunning hw false hpoint rfl

/-- A worker makes some steps, after which it stands where the worker of the
server does. -/
theorem walk (h : LoopsOf k slot l) (hw : slot.workers[i]? = some w)
    (hv : l.workers[i]? = some v) (hne : v.point ≠ .started)
    {f : Worker β → Worker β}
    (hrunning : (f w).begun = true → (f w).running = l.reads k v)
    {turns : List Turn}
    (hturns : k.walk (l.reads k v) turns v.point = (f w).point) :
    LoopsOf k (slot.modifyAt i f)
      ((turns.map (.own i)).foldl (Loops.step k) l) := by
  rw [Loops.foldl_own hv hne, hturns]
  exact h.place hw hv hrunning

/-- A worker that has been told to stop leaves its loop. -/
theorem finish (h : LoopsOf k slot l) (hw : slot.workers[i]? = some w)
    (hbegun : w.begun = true) (hrunning : w.running = false) :
    ∃ turns : List Turn, LoopsOf k (slot.finish i)
      ((turns.map (.own i)).foldl (Loops.step k) l) := by
  obtain ⟨v, hv, hpoint, hreads⟩ := h.worker i w hw
  have hreads := (hreads hbegun).symm
  have hne : v.point ≠ .started := by
    rw [hpoint]
    unfold Worker.point
    rw [hbegun, if_neg (by simp)]
    split_ifs <;> exact nofun
  refine ⟨[⟨0, false⟩], h.walk hw hv hne (fun _ => hreads.symm) ?_⟩
  rw [hreads, hrunning, hpoint]
  unfold Worker.point
  rw [hbegun]
  cases w.alive <;> rfl

/-- A worker that has not been told to stop makes some steps from its test. -/
theorem lap (h : LoopsOf k slot l) (hw : slot.workers[i]? = some w)
    (halive : w.alive = true) (hbegun : w.begun = true)
    (hrunning : w.running = true) {f : Worker β → Worker β}
    (hkeeps : (f w).running = true) {turns : List Turn}
    (hturns : k.walk true turns .test = (f w).point) :
    LoopsOf k (slot.modifyAt i f)
      ((turns.map (.own i)).foldl (Loops.step k) l) := by
  obtain ⟨v, hv, hpoint, hreads⟩ := h.worker i w hw
  have hreads : l.reads k v = true := (hreads hbegun).symm.trans hrunning
  have htest : v.point = .test := by
    rw [hpoint]
    unfold Worker.point
    rw [hbegun, halive]
    rfl
  refine h.walk hw hv (by rw [htest]; exact nofun) ?_ ?_
  · exact fun _ => hkeeps.trans hreads.symm
  · rw [hreads, htest]
    exact hturns

/-- A worker begins. -/
theorem begin (h : LoopsOf k slot l) (hw : slot.workers[i]? = some w)
    (hbegun : w.begun = false) (turn : Turn) {f : Worker β → Worker β}
    (hpoint : (f { w with running := true }).point =
      k.next true turn .entered)
    (hrunning : (f { w with running := true }).running = true) :
    LoopsOf k ((slot.setRunning k.isStatic i true).modifyAt i f)
      (([turn, turn].map (.own i)).foldl (Loops.step k) l) := by
  obtain ⟨v, hv, hstarted, -⟩ := h.worker i w hw
  have hstands : v.point = .started := by
    rw [hstarted]
    exact if_pos hbegun
  let v' : Loop := ⟨.started, true, v.told⟩
  let l' : Loops := ⟨l.assigned k true, l.workers.set i v'⟩
  have hset : LoopsOf k (slot.setRunning k.isStatic i true) l' :=
    h.setRunning hw true (hstands.symm.trans hstarted) rfl
  have hw' : (slot.setRunning k.isStatic i true).workers[i]? =
      some { w with running := true } := by
    rw [Slot.getElem?_setRunning, hw, Option.map_some, if_pos (Or.inr rfl)]
  have hv' : l'.workers[i]? = some v' :=
    List.getElem?_set_self (List.getElem?_eq_some_iff.mp hv).1
  have hreads : l'.reads k v' = true := by
    unfold Loops.reads
    show (if k.isStatic then l.assigned k true else true) = true
    unfold Loops.assigned
    split_ifs <;> rfl
  have hbegin : l.step k (.own i turn) = l'.place i v' .entered := by
    rw [Loops.step_begin hv hstands]
    unfold Loops.place
    rw [List.set_set]
  show LoopsOf k _ ((l.step k (.own i turn)).step k (.own i turn))
  have hentered := Loops.step_place (k := k) (p := .entered) hv' nofun turn
  rw [hbegin, hentered, hreads, ← hpoint]
  exact hset.place hw' hv' fun _ => hrunning.trans hreads.symm

end LoopsOf

namespace Server

open Java

variable {k : WorkerField} {i : ℕ} {s s' : Server} {l : Loops}

/-- The worker looks at its scenes after it has begun. -/
theorem next_entered (running : Bool) (m : SceneManager) :
    k.next running ⟨m.scenes.length, false⟩ .entered =
      if k.returns m then .ended else .test := by
  show (if _ then Point.ended else Point.test) = _
  unfold WorkerField.returns
  simp only [Bool.and_eq_true, decide_eq_true_eq]

theorem modifyAt_finish {β : Type} (slot : Slot β) (f : Worker β → Worker β) :
    (slot.modifyAt i f).finish i =
      slot.modifyAt i fun w => { f w with alive := false } := by
  unfold Slot.finish Slot.modifyAt
  rw [List.modify_modify_eq]
  rfl

/-- A step of a worker in the model of the server is made of steps of its
loop. -/
theorem loopsOf_tick (h : LoopsOf k (s.slots k) l)
    (hrun : tick k i s = .ok ⟨⟩ s') :
    ∃ turns : List Turn, LoopsOf k (s'.slots k)
      ((turns.map (.own i)).foldl (Loops.step k) l) := by
  have hstays : s' = s → ∃ turns : List Turn, LoopsOf k (s'.slots k)
      ((turns.map (.own i)).foldl (Loops.step k) l) := by
    rintro rfl
    exact ⟨[], h⟩
  unfold tick at hrun
  cases hw : (s.slots k).workers[i]? with
  | none =>
      rw [hw] at hrun
      cases hrun
      exact hstays rfl
  | some w =>
      simp only [hw] at hrun
      have hentered := next_entered (k := k) true s.sceneManager
      split_ifs at hrun with halive hbegun hreturns hrunning
      · cases hrun
        exact hstays rfl
      · cases hrun
        rw [if_pos hreturns] at hentered
        unfold finishWorker beginWorker
        rw [slots_setSlot_self, slots_setSlot_self, modifyAt_finish]
        exact ⟨_, h.begin hw hbegun _ hentered.symm rfl⟩
      · cases hrun
        rw [if_neg hreturns] at hentered
        unfold beginWorker
        rw [slots_setSlot_self]
        refine ⟨_, h.begin hw hbegun _ (Eq.trans ?_ hentered.symm) rfl⟩
        exact if_pos (Bool.not_eq_false _ ▸ halive)
      · cases hrun
        unfold finishWorker
        rw [slots_setSlot_self]
        exact h.finish hw (Bool.not_eq_false _ ▸ hbegun) hrunning
      · have halive' : w.alive = true := Bool.not_eq_false _ ▸ halive
        have hbegun' : w.begun = true := Bool.not_eq_false _ ▸ hbegun
        have hrunning' : w.running = true := Bool.not_eq_false _ ▸ hrunning
        cases hpass : passResult k w.object s with
        | ok u stage =>
            rw [hpass] at hrun
            cases hrun
            obtain ⟨turns, hturns⟩ := k.exists_lap 1
            unfold store
            rw [slots_setSlot_self]
            refine ⟨_, h.lap hw halive' hbegun' hrunning' hrunning'
              (hturns.trans ?_)⟩
            unfold Worker.point
            rw [hbegun', halive']
            rfl
        | error e stage =>
            rw [hpass] at hrun
            cases e with
            | thrown t =>
                cases hrun
                obtain ⟨turns, hturns⟩ := k.exists_throw
                unfold finishWorker store
                rw [slots_setSlot_self, slots_setSlot_self, modifyAt_finish]
                refine ⟨turns, h.lap hw halive' hbegun' hrunning' hrunning' ?_⟩
                rw [hturns]
                unfold Worker.point
                rw [hbegun']
                rfl
            | exited => cases hrun
            | blocked =>
                cases hrun
                exact hstays rfl

/-- The server starts a worker. -/
theorem loopsOf_startWorker (h : LoopsOf k (s.slots k) l) (object : k.Object) :
    LoopsOf k ((stateAfter (startWorker k object) s).slots k)
      (l.step k .start) := by
  show LoopsOf k ((s.setSlot k _).slots k) _
  rw [slots_setSlot_self]
  exact (h.construct object).launch rfl List.getElem?_concat_length rfl

/-- The server tells a worker to stop and waits for it: the worker makes its
last steps. -/
theorem loopsOf_redrum (h : LoopsOf k (s.slots k) l)
    (hrun : redrum k s = .ok ⟨⟩ s') :
    ∃ (i : ℕ) (turns : List Turn), LoopsOf k (s'.slots k)
      ((turns.map (.own i)).foldl (Loops.step k) (l.step k (.redrum i))) := by
  rcases deref_cases k s with ⟨i, w, hi, hw, hderef⟩ | hderef
  · have htold := h.redrum hw
    let slot := (s.slots k).setRunning k.isStatic i false
    have hclear : clearRunning k s = .ok ⟨⟩ (s.setSlot k slot) := by
      unfold clearRunning
      rw [bind_of_ok hderef]
      rfl
    have hworker : slot.workers[i]? = some { w with running := false } := by
      rw [Slot.getElem?_setRunning, hw, Option.map_some, if_pos (Or.inr rfl)]
    have hderef' : deref k (s.setSlot k slot) =
        .ok (i, { w with running := false }) (s.setSlot k slot) := by
      refine deref_of_ref ?_ ?_
      · rw [slots_setSlot_self, Slot.ref_setRunning, hi]
      · rw [slots_setSlot_self]
        exact hworker
    unfold redrum join at hrun
    rw [bind_of_ok hclear, bind_of_ok hderef'] at hrun
    dsimp only at hrun
    split_ifs at hrun with hwaits
    · cases hrun
    · cases hrun
      refine ⟨i, ?_⟩
      rw [slots_setSlot_self, slots_setSlot_self]
      cases hbegun : w.begun with
      | true =>
          obtain ⟨turns, hturns⟩ := htold.finish hworker hbegun rfl
          exact ⟨turns, ⟨hturns.length, hturns.worker⟩⟩
      | false =>
          have hsame := htold.setAlive hworker hbegun false
          exact ⟨[], ⟨hsame.length, hsame.worker⟩⟩
  · unfold redrum clearRunning at hrun
    rw [bind_assoc, bind_of_error hderef] at hrun
    cases hrun

end Server

end ChuckLight
