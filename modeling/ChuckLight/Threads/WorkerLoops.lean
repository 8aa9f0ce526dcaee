import ChuckLight.Support.Runs
import ChuckLight.Threads.Slots

/-!
# The loops of the workers

The method `run` of a worker, step by step: it sets its field `running`, tests
it, visits the lights or scenes one after another, and sleeps.  The server
starts workers and clears their fields in between, in any order.
-/

namespace ChuckLight

/-! ## One worker -/

/-- Where a thread is in `run`.  In the inner loop some lights are still to
come. -/
inductive Point where
  | started
  | entered
  | test
  | light (n : ℕ)
  | body (n : ℕ)
  | pause (n : ℕ)
  | sleep
  | ended
  deriving DecidableEq, Repr

/-- What a step of a worker meets: the length of the list of lights or scenes,
and whether an exception leaves the body of the inner loop. -/
structure Turn where
  size : ℕ
  throws : Bool

/-- A worker with its field `running`, and whether `redrum` has been called. -/
structure Loop where
  point : Point
  running : Bool
  told : Bool

namespace WorkerField

/-- The inner loop tests `running` before each light or scene. -/
def checks (k : WorkerField) : Bool := k ≠ rainbowVisual

/-- The inner loop is left.  A chase sleeps in the inner loop. -/
def leave (k : WorkerField) : Point :=
  if k = chase then .test else .sleep

/-- One step of `run`, where `running` is the value of the field. -/
def next (k : WorkerField) (running : Bool) (turn : Turn) : Point → Point
  | .started => .entered
  | .entered => if k = chase ∧ turn.size ≤ 1 then .ended else .test
  | .test => if running then .light turn.size else .ended
  | .light 0 => k.leave
  | .light (n + 1) => if k.checks && !running then k.leave else .body n
  | .body n =>
      if turn.throws then .ended
      else if k = chase then .pause n
      else .light n
  | .pause n => .light n
  | .sleep => .test
  | .ended => .ended

/-- The next step from here tests `running`. -/
def tests (k : WorkerField) : Point → Bool
  | .test => true
  | .light (_ + 1) => k.checks
  | _ => false

end WorkerField

namespace Point

/-- A bound on the steps that a worker with a cleared field still makes. -/
def left : Point → ℕ
  | started => 3
  | entered => 2
  | test => 1
  | light n => 3 * n + 3
  | body n => 3 * n + 5
  | pause n => 3 * n + 4
  | sleep => 2
  | ended => 0

theorem eq_ended_of_left {p : Point} (h : p.left = 0) : p = ended := by
  cases p with
  | ended => rfl
  | _ => exact absurd h (Nat.succ_ne_zero _)

variable {k : WorkerField} {turn : Turn} {p : Point}

theorem left_leave_le : k.leave.left ≤ 2 := by
  unfold WorkerField.leave
  split_ifs
  · exact Nat.le_succ 1
  · exact le_rfl

/-- A step of a worker with a cleared field. -/
theorem left_next_le (k : WorkerField) (turn : Turn) (p : Point) :
    (k.next false turn p).left ≤ p.left - 1 := by
  have hleave : k.leave.left ≤ 2 := left_leave_le
  cases p with
  | entered =>
      show (if k = .chase ∧ turn.size ≤ 1 then ended else test).left ≤ 1
      split_ifs
      · exact Nat.zero_le 1
      · exact le_rfl
  | light n =>
      cases n with
      | zero => exact hleave
      | succ n =>
          show (if k.checks && !false then k.leave else body n).left ≤ _
          split_ifs
          · exact hleave.trans (by simp only [left]; omega)
          · simp only [left]
            omega
  | body n =>
      show (if turn.throws then ended else if k = .chase then pause n
        else light n).left ≤ 3 * n + 4
      split_ifs
      · exact Nat.zero_le _
      · exact le_rfl
      · exact Nat.le_succ _
  | started | test | pause _ | sleep | ended => exact le_rfl

theorem next_ne_started (running : Bool) : k.next running turn p ≠ started := by
  have hleave : k.leave ≠ started := by
    unfold WorkerField.leave
    split_ifs <;> exact nofun
  cases p with
  | entered =>
      show (if k = .chase ∧ turn.size ≤ 1 then ended else test) ≠ started
      split_ifs <;> exact nofun
  | test =>
      show (if running then light turn.size else ended) ≠ started
      split_ifs <;> exact nofun
  | light n =>
      cases n with
      | zero => exact hleave
      | succ n =>
          show (if k.checks && !running then k.leave else body n) ≠ started
          split_ifs
          · exact hleave
          · exact nofun
  | body n =>
      show (if turn.throws then ended else if k = .chase then pause n
        else light n) ≠ started
      split_ifs <;> exact nofun
  | started | pause _ | sleep | ended => exact nofun

end Point

/-! ## All workers of a class -/

/-- The workers of a class that have been started, and the static field of the
class. -/
structure Loops where
  shared : Bool
  workers : List Loop

/-- The server starts a worker or calls `redrum`, or a worker makes a step. -/
inductive Move where
  | start
  | redrum (i : ℕ)
  | own (i : ℕ) (turn : Turn)

namespace Loops

/-- No worker has been started. -/
def init : Loops := ⟨false, []⟩

variable (k : WorkerField)

/-- What a worker reads from `running`. -/
def reads (l : Loops) (w : Loop) : Bool :=
  if k.isStatic then l.shared else w.running

/-- The static field after an assignment to `running`. -/
def assigned (l : Loops) (running : Bool) : Bool :=
  if k.isStatic then running else l.shared

/-- The interrupt in `redrum` only cuts a sleep short. -/
def step (l : Loops) : Move → Loops
  | .start => ⟨l.shared, l.workers ++ [⟨.started, false, false⟩]⟩
  | .redrum i =>
      match l.workers[i]? with
      | none => l
      | some w => ⟨l.assigned k false, l.workers.set i ⟨w.point, false, true⟩⟩
  | .own i turn =>
      match l.workers[i]? with
      | none => l
      | some w =>
          let point := k.next (l.reads k w) turn w.point
          if w.point = .started then
            ⟨l.assigned k true, l.workers.set i ⟨point, true, w.told⟩⟩
          else ⟨l.shared, l.workers.set i { w with point := point }⟩

/-- A step of a worker that has been told to stop does not find `running`
set. -/
def Unseen (l : Loops) : Move → Prop
  | .own i _ => ∀ w ∈ l.workers[i]?, w.told = true → k.tests w.point = true →
      l.reads k w = false
  | _ => True

/-- The server calls `redrum` only on a worker that has set `running`, and no
worker sets a static field while another one that has been told to stop has not
ended. -/
def Permitted (l : Loops) : Move → Prop
  | .start => True
  | .redrum i => ∀ w ∈ l.workers[i]?, w.point ≠ .started
  | .own i _ => k.isStatic = true → ∀ w ∈ l.workers[i]?, w.point = .started →
      ∀ v ∈ l.workers, v.told = true → v.point = .ended

instance (l : Loops) (m : Move) : Decidable (l.Unseen k m) :=
  match m with
  | .start | .redrum _ => inferInstanceAs (Decidable True)
  | .own _ _ => inferInstanceAs (Decidable (∀ _ ∈ _, _))

instance (l : Loops) (m : Move) : Decidable (l.Permitted k m) :=
  match m with
  | .start => inferInstanceAs (Decidable True)
  | .redrum _ => inferInstanceAs (Decidable (∀ _ ∈ _, _))
  | .own _ _ => inferInstanceAs (Decidable (_ → _))

/-- The worker makes the step. -/
def isOwn (i : ℕ) : Move → Bool
  | .own j _ => j = i
  | _ => false

/-! ## A stopped worker -/

/-- The workers that have been told to stop have begun, and find `running`
cleared until they have ended. -/
def Stopped (l : Loops) : Prop :=
  ∀ w ∈ l.workers, w.told = true → w.point ≠ .started ∧
    (w.point ≠ .ended → l.reads k w = false)

variable {k} {l : Loops} {m : Move} {i : ℕ} {w : Loop} {turn : Turn}

theorem step_redrum_of_none (h : l.workers[i]? = none) :
    l.step k (.redrum i) = l := by
  simp only [step, h]

theorem step_own_of_none (h : l.workers[i]? = none) :
    l.step k (.own i turn) = l := by
  simp only [step, h]

theorem step_redrum (hw : l.workers[i]? = some w) :
    l.step k (.redrum i) =
      ⟨l.assigned k false, l.workers.set i ⟨w.point, false, true⟩⟩ := by
  simp only [step, hw]

theorem step_begin (hw : l.workers[i]? = some w) (h : w.point = .started) :
    l.step k (.own i turn) =
      ⟨l.assigned k true, l.workers.set i ⟨.entered, true, w.told⟩⟩ := by
  simp only [step, hw, if_pos h]
  rw [h]
  rfl

theorem step_own (hw : l.workers[i]? = some w) (h : w.point ≠ .started) :
    l.step k (.own i turn) =
      ⟨l.shared, l.workers.set i
        { w with point := k.next (l.reads k w) turn w.point }⟩ := by
  simp only [step, hw, if_neg h]

theorem Stopped.redrum (h : l.Stopped k) (hok : l.Permitted k (.redrum i)) :
    (l.step k (.redrum i)).Stopped k := by
  cases hw : l.workers[i]? with
  | none =>
      rw [step_redrum_of_none hw]
      exact h
  | some w =>
      rw [step_redrum hw]
      intro v hv htold
      rcases List.mem_or_eq_of_mem_set hv with hv | rfl
      · refine ⟨(h v hv htold).1, fun hended => ?_⟩
        have hold := (h v hv htold).2 hended
        unfold reads assigned at *
        split_ifs with hstatic
        · rfl
        · rwa [if_neg hstatic] at hold
      · refine ⟨hok w hw, fun _ => ?_⟩
        unfold reads assigned
        split_ifs <;> rfl

theorem Stopped.own (h : l.Stopped k) (hok : l.Permitted k (.own i turn)) :
    (l.step k (.own i turn)).Stopped k := by
  cases hw : l.workers[i]? with
  | none =>
      rw [step_own_of_none hw]
      exact h
  | some w =>
      have hmem := List.mem_of_getElem? hw
      by_cases hstarted : w.point = .started
      · rw [step_begin hw hstarted]
        intro v hv htold
        rcases List.mem_or_eq_of_mem_set hv with hv | rfl
        · refine ⟨(h v hv htold).1, fun hended => ?_⟩
          have hold := (h v hv htold).2 hended
          unfold reads assigned at *
          split_ifs with hstatic
          · exact absurd (hok hstatic w hw hstarted v hv htold) hended
          · rwa [if_neg hstatic] at hold
        · exact absurd hstarted (h w hmem htold).1
      · rw [step_own hw hstarted]
        intro v hv htold
        rcases List.mem_or_eq_of_mem_set hv with hv | rfl
        · exact h v hv htold
        · refine ⟨Point.next_ne_started _, fun hended => ?_⟩
          refine (h w hmem htold).2 fun heq => hended ?_
          show k.next _ turn w.point = .ended
          rw [heq]
          rfl

theorem Stopped.step (h : l.Stopped k) (hok : l.Permitted k m) :
    (l.step k m).Stopped k := by
  cases m with
  | start =>
      intro v hv htold
      rcases List.mem_append.mp hv with hv | hv
      · exact h v hv htold
      · rw [List.mem_singleton.mp hv] at htold
        cases htold
  | redrum i => exact h.redrum hok
  | own i turn => exact h.own hok

theorem stopped_init : init.Stopped k := nofun

theorem Stopped.unseen (h : l.Stopped k) (m : Move) : l.Unseen k m := by
  cases m with
  | own i turn =>
      intro w hw htold htests
      refine (h w (List.mem_of_getElem? hw) htold).2 fun hended => ?_
      rw [hended] at htests
      cases htests
  | start => trivial
  | redrum i => trivial

/-! ## Its last steps -/

/-- A worker that has been told to stop. -/
def Told (i : ℕ) (l : Loops) : Prop :=
  ∃ w, l.workers[i]? = some w ∧ w.told = true

/-- A bound on the steps that worker `i` still makes. -/
def left (i : ℕ) (l : Loops) : ℕ :=
  (l.workers[i]?.map fun w => w.point.left).getD 0

theorem left_of_getElem? (hw : l.workers[i]? = some w) :
    l.left i = w.point.left := by
  unfold left
  rw [hw]
  rfl

/-- What a move does to a worker that has been told to stop. -/
theorem Stopped.advance (h : l.Stopped k) (hw : l.workers[i]? = some w)
    (htold : w.told = true) (m : Move) :
    ∃ w', (l.step k m).workers[i]? = some w' ∧ w'.told = true ∧
      w'.point.left ≤ w.point.left - if isOwn i m then 1 else 0 := by
  have hlt : i < l.workers.length := (List.getElem?_eq_some_iff.mp hw).1
  cases m with
  | start => exact ⟨w, (List.getElem?_append_left hlt).trans hw, htold, le_rfl⟩
  | redrum j =>
      cases hv : l.workers[j]? with
      | none =>
          rw [step_redrum_of_none hv]
          exact ⟨w, hw, htold, le_rfl⟩
      | some v =>
          rw [step_redrum hv]
          by_cases hj : j = i
          · subst hj
            have heq : v = w := Option.some.inj (hv.symm.trans hw)
            subst heq
            exact ⟨_, List.getElem?_set_self hlt, rfl, le_rfl⟩
          · exact ⟨w, (List.getElem?_set_ne hj).trans hw, htold, le_rfl⟩
  | own j turn =>
      by_cases hj : j = i
      · subst hj
        have hmem := h w (List.mem_of_getElem? hw) htold
        rw [step_own hw hmem.1]
        refine ⟨_, List.getElem?_set_self hlt, htold, ?_⟩
        rw [if_pos (show isOwn j (.own j turn) = true from decide_eq_true rfl)]
        by_cases hended : w.point = .ended
        · rw [hended]
          exact Nat.zero_le _
        · rw [hmem.2 hended]
          exact Point.left_next_le k turn w.point
      · have hother : isOwn i (.own j turn) = false := decide_eq_false hj
        rw [hother]
        cases hv : l.workers[j]? with
        | none =>
            rw [step_own_of_none hv]
            exact ⟨w, hw, htold, le_rfl⟩
        | some v =>
            refine ⟨w, ?_, htold, le_rfl⟩
            by_cases hstarted : v.point = .started
            · rw [step_begin hv hstarted]
              exact (List.getElem?_set_ne hj).trans hw
            · rw [step_own hv hstarted]
              exact (List.getElem?_set_ne hj).trans hw

theorem Told.step (htold : Told i l) (h : l.Stopped k) (m : Move) :
    Told i (l.step k m) := by
  obtain ⟨w, hw, hwtold⟩ := htold
  obtain ⟨w', hw', htold', -⟩ := h.advance hw hwtold m
  exact ⟨w', hw', htold'⟩

theorem Told.left_step_le (htold : Told i l) (h : l.Stopped k) (m : Move) :
    (l.step k m).left i ≤ l.left i - if isOwn i m then 1 else 0 := by
  obtain ⟨w, hw, hwtold⟩ := htold
  obtain ⟨w', hw', -, hle⟩ := h.advance hw hwtold m
  rw [left_of_getElem? hw, left_of_getElem? hw']
  exact hle

theorem Told.countdown (htold : Told i l) (h : l.Stopped k) {later : List Move}
    (hlater : Runs.AllSteps (Loops.step k) (Permitted k) l later) :
    Told i (later.foldl (Loops.step k) l) ∧
      (later.foldl (Loops.step k) l).left i ≤
        l.left i - later.countP (isOwn i) := by
  have hstep : ∀ l m, (l.Stopped k ∧ Told i l) → l.Permitted k m →
      (l.step k m).Stopped k ∧ Told i (l.step k m) :=
    fun _ m hl hok => ⟨hl.1.step hok, hl.2.step hl.1 m⟩
  have hkept := Runs.invariant hstep ⟨h, htold⟩ hlater _ Runs.foldl_mem_states
  refine ⟨hkept.2, ?_⟩
  refine Runs.countdown hstep ?_ ?_ ⟨h, htold⟩ hlater
  · intro l m hl _
    exact (hl.2.left_step_le hl.1 m).trans (Nat.sub_le ..)
  · intro l m hl _ hown
    have hle := hl.2.left_step_le hl.1 m
    rwa [if_pos hown] at hle

/-- The worker has ended. -/
def Ended (i : ℕ) (l : Loops) : Prop :=
  ∃ w, l.workers[i]? = some w ∧ w.point = .ended

theorem Told.ended (htold : Told i l) (hleft : l.left i = 0) : Ended i l := by
  obtain ⟨w, hw, -⟩ := htold
  rw [left_of_getElem? hw] at hleft
  exact ⟨w, hw, Point.eq_ended_of_left hleft⟩

/-- The steps of a worker that has been told to stop are permitted. -/
theorem Told.permitted (htold : Told i l) (h : l.Stopped k) (turn : Turn) :
    l.Permitted k (.own i turn) := by
  obtain ⟨w, hw, hwtold⟩ := htold
  intro _ v hv hstarted
  have heq : v = w := Option.some.inj (hv.symm.trans hw)
  subst heq
  exact absurd hstarted (h v (List.mem_of_getElem? hw) hwtold).1

theorem Told.allSteps (htold : Told i l) (h : l.Stopped k)
    (turns : List Turn) :
    Runs.AllSteps (Loops.step k) (Permitted k) l (turns.map (.own i)) := by
  induction turns generalizing l with
  | nil => trivial
  | cons turn turns ih =>
      have hok := htold.permitted h turn
      exact ⟨hok, ih (htold.step h _) (h.step hok)⟩

/-! ## Runs -/

variable (k)

/-- After it has been told to stop, a worker does not find `running` set any
more.  It ends when it has made enough steps, whatever else is permitted to
happen, and its own steps alone are enough. -/
structure StaysStopped (moves : List Move) : Prop where
  unseen : Runs.AllSteps (step k) (Unseen k) init moves
  ends : ∀ l ∈ Runs.states (step k) init moves, ∀ i, Told i l →
    ∀ later, Runs.AllSteps (step k) (Permitted k) l later →
      l.left i ≤ later.countP (isOwn i) → Ended i (later.foldl (step k) l)
  joins : ∀ l ∈ Runs.states (step k) init moves, ∀ i, Told i l →
    ∃ turns : List Turn, Ended i ((turns.map (.own i)).foldl (step k) l)

variable {k}

theorem staysStopped_of_permitted {moves : List Move}
    (h : Runs.AllSteps (step k) (Permitted k) init moves) :
    StaysStopped k moves := by
  have hstep : ∀ l m, Stopped k l → l.Permitted k m → (l.step k m).Stopped k :=
    fun _ _ hl hok => hl.step hok
  have hstopped := Runs.invariant hstep stopped_init h
  refine ⟨h.imp hstep (fun _ m hl _ => hl.unseen m) stopped_init, ?_, ?_⟩
  · intro l hl i htold later hlater hcount
    obtain ⟨htold', hleft⟩ := htold.countdown (hstopped l hl) hlater
    exact htold'.ended (by omega)
  · intro l hl i htold
    let turns : List Turn := List.replicate (l.left i) ⟨0, false⟩
    have hlater := htold.allSteps (hstopped l hl) turns
    obtain ⟨htold', hleft⟩ := htold.countdown (hstopped l hl) hlater
    have hcount : (turns.map (Move.own i)).countP (isOwn i) = l.left i := by
      rw [List.countP_map, List.countP_replicate]
      exact if_pos (decide_eq_true rfl)
    exact ⟨turns, htold'.ended (by omega)⟩

/-- A worker that is stopped in its first pass. -/
theorem staysStopped_of_permitted_begun :
    StaysStopped .rainbowVisual
      [.start, .own 0 ⟨1, false⟩, .own 0 ⟨1, false⟩, .own 0 ⟨1, false⟩,
        .redrum 0] :=
  staysStopped_of_permitted (by decide)

/-- A worker that is told to stop before it has begun sets `running` again, and
so does a worker of the same class where the field is static. -/
theorem not_staysStopped_early :
    (¬ ∃ k, StaysStopped k
      [.start, .redrum 0, .own 0 ⟨2, false⟩, .own 0 ⟨2, false⟩,
        .own 0 ⟨2, false⟩]) ∧
    ¬ StaysStopped .rainbowVisual
      [.start, .own 0 ⟨1, false⟩, .own 0 ⟨1, false⟩, .redrum 0, .start,
        .own 1 ⟨1, false⟩, .own 0 ⟨1, false⟩] := by
  constructor
  · rintro ⟨k, h⟩
    have hunseen := h.unseen
    cases k <;> exact absurd hunseen (by decide)
  · intro h
    exact absurd h.unseen (by decide)

/-! ## Joins -/

/-- The server starts a worker only after all earlier ones have been joined. -/
def Joined (l : Loops) : Move → Prop
  | .start => ∀ w ∈ l.workers, w.point = .ended
  | .redrum i => ∀ w ∈ l.workers[i]?, w.point ≠ .started
  | .own _ _ => True

/-- Only the last worker can be running. -/
def Lone (l : Loops) : Prop :=
  ∀ i w, l.workers[i]? = some w → w.point ≠ .ended → i + 1 = l.workers.length

theorem Lone.set (h : l.Lone) (hw : l.workers[i]? = some w) {v : Loop}
    (hended : w.point = .ended → v.point = .ended) (shared : Bool) :
    Lone ⟨shared, l.workers.set i v⟩ := by
  intro j u hu hne
  rw [List.length_set]
  by_cases hj : i = j
  · subst hj
    have hlt : i < l.workers.length := (List.getElem?_eq_some_iff.mp hw).1
    rw [List.getElem?_set_self hlt] at hu
    cases hu
    exact h i w hw fun heq => hne (hended heq)
  · rw [List.getElem?_set_ne hj] at hu
    exact h j u hu hne

theorem Lone.step (h : l.Lone) (hok : l.Joined m) : (l.step k m).Lone := by
  cases m with
  | start =>
      intro j u hu hne
      rcases Nat.lt_or_ge j l.workers.length with hlt | hge
      · have hold : l.workers[j]? = some u :=
          (List.getElem?_append_left hlt).symm.trans hu
        exact absurd (hok u (List.mem_of_getElem? hold)) hne
      · have hlast := (List.getElem?_eq_some_iff.mp hu).1
        have hlength : (l.step k .start).workers.length =
            l.workers.length + 1 := List.length_append
        omega
  | redrum i =>
      cases hw : l.workers[i]? with
      | none =>
          rw [step_redrum_of_none hw]
          exact h
      | some w =>
          rw [step_redrum hw]
          refine h.set hw ?_ _
          exact fun hended => hended
  | own i turn =>
      cases hw : l.workers[i]? with
      | none =>
          rw [step_own_of_none hw]
          exact h
      | some w =>
          by_cases hstarted : w.point = .started
          · rw [step_begin hw hstarted]
            exact h.set hw (fun heq => by rw [hstarted] at heq; cases heq) _
          · rw [step_own hw hstarted]
            refine h.set hw (fun heq => ?_) _
            show k.next _ turn w.point = .ended
            rw [heq]
            rfl

theorem Lone.permitted (h : l.Lone) (hstopped : l.Stopped k)
    (hok : l.Joined m) : l.Permitted k m := by
  cases m with
  | start => trivial
  | redrum i => exact hok
  | own i turn =>
      intro _ w hw hstarted v hv htold
      obtain ⟨j, hv⟩ := List.mem_iff_getElem?.mp hv
      by_contra hended
      have hlast := h j v hv hended
      have hlast' := h i w hw (by rw [hstarted]; exact nofun)
      have heq : j = i := by omega
      subst heq
      have hsame : v = w := Option.some.inj (hv.symm.trans hw)
      subst hsame
      exact (hstopped v (List.mem_of_getElem? hv) htold).1 hstarted

/-- A server that joins each worker before it starts the next one has to take
care of the first step of a worker only. -/
theorem permitted_of_joined {moves : List Move}
    (h : Runs.AllSteps (step k) Joined init moves) :
    Runs.AllSteps (step k) (Permitted k) init moves := by
  have hstep : ∀ l m, (Stopped k l ∧ Lone l) → l.Joined m →
      (l.step k m).Stopped k ∧ (l.step k m).Lone :=
    fun _ _ hl hok => ⟨hl.1.step (hl.2.permitted hl.1 hok), hl.2.step hok⟩
  exact h.imp hstep (fun _ _ hl hok => hl.2.permitted hl.1 hok)
    ⟨stopped_init, nofun⟩

end Loops

end ChuckLight
