import ChuckLight.Threads.FieldHistory
import ChuckLight.Threads.Ownership
import ChuckLight.Threads.StoredScenes

/-!
# Stopping the server

The user interface calls `stopServer` in a thread of its own.  Its statements
interleave with the rounds of the server loop, which goes on until the last
one, and with the steps of the workers.  A statement that cannot go on waits
for ever, and the later ones are never reached.  There is no statement for the
chase.  The statements for the listener, the heartbeat and the socket touch
neither the workers nor the lights and are left out.
-/

namespace ChuckLight

open Java

/-! ## Statements -/

namespace Server

/-- The method that ends the worker of a field. -/
def redrumField : WorkerField → Run Server Unit
  | .highlight => do let _ ← redrumHighlight
  | k => redrum k

/-- `if (field != null) redrumField();` -/
def redrumUnlessNull (k : WorkerField) : Run Server Unit := do
  if ((← get).slots k).ref.isSome then redrumField k

variable {count : WorkerField → ℕ} {stopped stopped' : WorkerField → Prop}
  {mode : Mode} {index : ℤ} {o o' : Option WorkerField} {k : WorkerField}
  {s : Server}

theorem redrumUnlessNull_of_none (h : (s.slots k).ref = none) :
    redrumUnlessNull k s = .ok ⟨⟩ s := by
  unfold redrumUnlessNull
  rw [bind_of_ok (x := get) rfl, h]
  rfl

section

variable (hstopped : ∀ k' ≠ k, stopped' k' → stopped k')
  (hothers : ∀ k' ≠ k, o = some k' → o' = some k')

include hstopped hothers

theorem triple_redrumField_since :
    Triple (Since count stopped mode index o) (redrumField k)
      (fun _ => Since count stopped' mode index o')
      (fun _ => Since count stopped mode index o) := by
  by_cases hk : k = .highlight
  · have hlights : Triple (Since count stopped mode index o) redrumHighlight
        (fun _ => Since count stopped' mode index o')
        (fun _ => Since count stopped mode index o) :=
      triple_redrumHighlight_since hstopped hothers hk
    subst hk
    exact hlights.bind fun _ => Triple.pure fun _ h => h
  · have hredrum : redrumField k = redrum k := by
      cases k with
      | highlight => exact absurd rfl hk
      | _ => rfl
    rw [hredrum]
    exact triple_redrum_since hstopped hothers

/-- A statement of `stopServer` stops its field. -/
theorem triple_redrumUnlessNull_since :
    Triple (Since count stopped mode index o) (redrumUnlessNull k)
      (fun _ => Since count stopped' mode index o')
      (fun _ => Since count stopped mode index o) := by
  refine Triple.get_bind_eq fun s h => Triple.ite (fun _ => ?_) fun hnull => ?_
  · exact (triple_redrumField_since hstopped hothers).of_eq h
  · have hnone : (s.slots k).ref = none :=
      Option.not_isSome_iff_eq_none.mp hnull
    refine Triple.pure fun t ht => ?_
    rw [ht]
    refine ⟨h.state, h.control, fun k' => ?_⟩
    by_cases hk : k' = k
    · subst hk
      have hslot := h.slots k'
      have hdead : (s.slots k').Idle := fun i w hw => by
        by_contra halive
        have hi := hslot.staffed.ref i w hw
          (Bool.eq_true_of_not_eq_false halive)
        exact absurd (hnone.symm.trans hi) nofun
      exact ⟨⟨hslot.staffed.ref, fun _ => hdead, hslot.staffed.fine⟩,
        fun _ => hnone, hslot.count_le,
        fun _ i hi => absurd (hnone.symm.trans hi) nofun⟩
    · exact (h.slots k').imp (hstopped k' hk) (hothers k' hk)

end

end Server

/-! ## The statements of the user interface -/

/-- A statement of `stopServer`, or of the command that quits. -/
inductive Statement where
  | redrum (k : WorkerField)
  /-- `serverRunning = false`, and `app.join()` in the caller. -/
  | endLoop
  /-- `dmx.clearDMX()`, where an `IOException` exits. -/
  | clearDMX
  deriving DecidableEq

namespace Statement

open Server

def run : Statement → Run Server Unit
  | redrum k => redrumUnlessNull k
  | endLoop => pure ()
  | clearDMX =>
      catchIOException (onRig (Rig.callDmx DefaultDMX.clearDMX))
        (throw .exited)

def stopServer : List Statement :=
  [redrum .highlight, redrum .presetVisual, redrum .rainbowVisual,
    redrum .dmxVisual, endLoop]

/-- The command `q` of the user interface. -/
def quit : List Statement := stopServer ++ [clearDMX]

end Statement

/-! ## Two threads -/

/-- The server, and what the user interface has still to do. -/
structure Shutdown where
  process : Process
  serverRunning : Bool
  pending : List Statement
  ended : Option Abrupt

inductive ShutdownEvent where
  | server (e : Event)
  | statement

namespace Shutdown

/-- The user interface calls a method. -/
def call (p : Process) (statements : List Statement) : Shutdown :=
  ⟨p, true, statements, none⟩

/-- The event has no effect any more. -/
def ignores (t : Shutdown) : ShutdownEvent → Bool
  | .server (.packet _ _) => !t.serverRunning
  | .server (.tick _ _) => false
  | .statement => t.ended.isSome || t.process.ended = some .exited

/-- The next statement. -/
def advance (t : Shutdown) : Shutdown :=
  match t.pending with
  | [] => t
  | x :: rest =>
      match x.run t.process.server with
      | .ok _ s =>
          { t with
            process := { t.process with server := s }
            serverRunning := t.serverRunning && x ≠ .endLoop
            pending := rest }
      | .error a s =>
          { t with
            process :=
              ⟨s, if a = .exited then some .exited else t.process.ended⟩
            ended := some a }

def step (colorConverter : XYConverter) (t : Shutdown) (e : ShutdownEvent) :
    Shutdown :=
  if t.ignores e then t
  else
    match e with
    | .server e =>
        { t with process := Process.step colorConverter t.process e }
    | .statement => t.advance

/-- The next statement returns or ends abruptly, if there is one. -/
theorem advance_cases (t : Shutdown) :
    t.advance = t ∨ ∃ x rest, t.pending = x :: rest ∧
      ((∃ s, x.run t.process.server = .ok ⟨⟩ s ∧
        t.advance.process = { t.process with server := s } ∧
        t.advance.pending = rest ∧ t.advance.ended = t.ended) ∨
      ∃ a s, x.run t.process.server = .error a s ∧
        t.advance.process =
          ⟨s, if a = .exited then some .exited else t.process.ended⟩ ∧
        t.advance.pending = t.pending ∧ t.advance.ended = some a) := by
  cases hpending : t.pending with
  | nil =>
      left
      unfold advance
      rw [hpending]
  | cons x rest =>
      refine .inr ⟨x, rest, rfl, ?_⟩
      cases hrun : x.run t.process.server with
      | ok u s =>
          refine .inl ⟨s, rfl, ?_⟩
          unfold advance
          simp only [hpending, hrun, and_self]
      | error a s =>
          refine .inr ⟨a, s, rfl, ?_⟩
          unfold advance
          simp only [hpending, hrun, and_self]

/-- What survives the events of the server and the next statement. -/
theorem step_of {colorConverter : XYConverter} {t : Shutdown}
    {e : ShutdownEvent} {inv : Shutdown → Prop} (h : inv t)
    (hserver : ∀ e', e = .server e' →
      inv { t with process := Process.step colorConverter t.process e' })
    (hstatement : e = .statement → t.ended = none → inv t.advance) :
    inv (step colorConverter t e) := by
  unfold Shutdown.step
  split_ifs with hignores
  · exact h
  cases e with
  | server e => exact hserver e rfl
  | statement =>
      refine hstatement rfl ?_
      cases hended : t.ended with
      | none => rfl
      | some a =>
          unfold ignores at hignores
          simp [hended] at hignores

end Shutdown

/-! ## Workers from before the call -/

variable {colorConverter : XYConverter} {p q : Process} {t : Shutdown}
  {dmx : DefaultDMX} {profiles : List FixtureProfile}
  {file : Option (List Char)}

namespace Shutdown

open Server Statement

/-- A command does not abandon a worker. -/
def Tells (t : Shutdown) : ShutdownEvent → Prop
  | .server e => t.process.Tells e
  | .statement => True

/-- How many workers a field has had. -/
def workers (p : Process) (k : WorkerField) : ℕ :=
  (p.server.slots k).workers.length

/-- The statement for a field is not pending any more. -/
def Stopped (pending : List Statement) (k : WorkerField) : Prop :=
  k ≠ .chase ∧ .redrum k ∉ pending

/-- The fields that have been stopped have no worker from before the call. -/
def Clears (count : WorkerField → ℕ) (t : Shutdown) : Prop :=
  Process.While (Custody.Settled (Since count (Stopped t.pending))) t.process

variable {count : WorkerField → ℕ} {e : ShutdownEvent} {x : Statement}
  {rest : List Statement}

theorem Stopped.of_rest {k : WorkerField} (h : Stopped rest k)
    (hk : .redrum k ≠ x) : Stopped (x :: rest) k :=
  ⟨h.1, List.not_mem_cons_of_ne_of_not_mem hk h.2⟩

/-- What a statement does to the workers. -/
theorem triple_run_since {mode : Mode} {index : ℤ} {o : Option WorkerField} :
    Triple (Since count (Stopped (x :: rest)) mode index o) x.run
      (fun _ => Since count (Stopped rest) mode index o)
      (fun _ => Since count (Stopped (x :: rest)) mode index o) := by
  have hsame : (∀ k, .redrum k ≠ x) → ∀ s,
      Since count (Stopped (x :: rest)) mode index o s →
        Since count (Stopped rest) mode index o s :=
    fun hne s h => ⟨h.state, h.control, fun k =>
      (h.slots k).imp (fun hk => hk.of_rest (hne k)) id⟩
  cases x with
  | redrum k =>
      refine triple_redrumUnlessNull_since (fun k' hk hs => hs.of_rest ?_)
        fun _ _ ho => ho
      intro heq
      cases heq
      exact hk rfl
  | endLoop => exact Triple.pure (hsame nofun)
  | clearDMX =>
      have hclear : Preserves
          (Since count (Stopped (.clearDMX :: rest)) mode index o)
          (Statement.run .clearDMX) :=
        Preserves.catchIOException (frame_since.onRig _) (Preserves.throw _)
      exact Triple.mono hclear fun _ => hsame nofun

theorem clears_step (h : Clears count t) (htells : t.Tells e) :
    Clears count (step colorConverter t e) := by
  refine step_of h (fun e' he => ?_) fun _ _ => ?_
  · subst he
    exact Process.while_since_step h htells
  rcases advance_cases t with
    heq | ⟨x, rest, hpending, ⟨s, hrun, hprocess, hrest, -⟩ |
      ⟨a, s, hrun, hprocess, hsame, -⟩⟩
  · rw [heq]
    exact h
  · unfold Clears at h ⊢
    rw [hpending] at h
    rw [hprocess, hrest]
    intro hended
    obtain ⟨hfits, hs⟩ := h hended
    exact custody_since.settled _ hfits (triple_run_since.of_ok hs hrun)
  · unfold Clears at h ⊢
    rw [hprocess, hsame, hpending]
    rw [hpending] at h
    intro hended
    dsimp only at hended ⊢
    split_ifs at hended
    obtain ⟨hfits, hs⟩ := h hended
    exact custody_since.settled _ hfits (triple_run_since.of_error hs hrun)

/-- The workers of the moment when the user interface makes the call. -/
theorem clears_call {statements : List Statement} (hq : q.ended = none →
      Custody.Settled (Since (fun _ => 0) fun _ => False) q.server)
    (hall : ∀ k, ¬ Stopped statements k) :
    Clears (workers q) (call q statements) := by
  intro hended
  obtain ⟨hfits, hs⟩ := hq hended
  refine ⟨hfits, hs.state, hs.control, fun k => ⟨(hs.slots k).staffed,
    (hs.slots k).ref_eq_none, ?_, fun hstopped =>
      absurd hstopped (hall k)⟩⟩
  exact Nat.le_refl _

/-- Whatever datagrams arrive meanwhile, as long as they abandon no worker: once
the statement of `stopServer` for a field has returned, the field has no live
worker from before the call. -/
theorem le_of_live {before : List Event} {events : List ShutdownEvent}
    (hstart : Process.Starts dmx profiles file p)
    (hbefore : Runs.AllSteps (Process.step colorConverter) Process.Tells p
      before)
    (hq : q ∈ Runs.states (Process.step colorConverter) p before)
    (htells : Runs.AllSteps (step colorConverter) Tells (call q stopServer)
      events)
    (ht : t ∈ Runs.states (step colorConverter) (call q stopServer) events)
    (hended : t.process.ended = none) {k : WorkerField}
    (hstopped : Stopped t.pending k) {i : ℕ}
    (hlive : t.process.server.Live k i) : workers q k ≤ i := by
  have hsettled : Process.While
      (Custody.Settled (Since (fun _ => 0) fun _ => False)) q :=
    Runs.invariant (fun _ _ h hok => Process.while_since_step h hok)
      (fun _ => Process.since_of_starts hstart) hbefore q hq
  have hall : ∀ k, ¬ Stopped stopServer k := by
    rintro k ⟨hne, hnot⟩
    cases k with
    | chase => exact hne rfl
    | _ => exact hnot (by decide)
  have hclears : Clears (workers q) t :=
    Runs.invariant (fun _ _ h hok => clears_step h hok)
      (clears_call hsettled hall) htells t ht
  obtain ⟨w, hw, halive⟩ := hlive
  exact ((hclears hended).2.slots k).le_of_alive hstopped hw halive

/-- The server with one light after some buttons. -/
def pressed (actions : List Int8) : Process :=
  (actions.map Process.button).foldl (Process.step fun _ _ => Color.WHITE)
    (Process.oneLight none)

theorem pressed_concat (actions : List Int8) (action : Int8) :
    pressed (actions ++ [action]) = Process.step (fun _ _ => Color.WHITE)
      (pressed actions) (Process.button action) := by
  unfold pressed
  rw [List.map_append, List.foldl_append, List.map_singleton,
    List.foldl_cons, List.foldl_nil]

theorem pressed_mem_states (actions : List Int8) :
    pressed actions ∈ Runs.states (Process.step fun _ _ => Color.WHITE)
      (Process.oneLight none) (actions.map Process.button) :=
  Runs.foldl_mem_states

/-- Other buttons than the party command abandon no worker. -/
theorem allSteps_buttons {spares : Process → Event → Prop}
    {actions : List Int8} (h : Connection.KONAMI ∉ actions)
    (hspares : ∀ p action, action ≠ Connection.KONAMI →
      spares p (Process.button action)) (p : Process) :
    Runs.AllSteps (Process.step fun _ _ => Color.WHITE) spares p
      (actions.map Process.button) := by
  refine Runs.allSteps_of_forall (fun e he s => ?_) p
  obtain ⟨action, hmem, rfl⟩ := List.mem_map.mp he
  exact hspares s action fun heq => h (heq ▸ hmem)

theorem tells_button (p : Process) (action : Int8)
    (h : action ≠ Connection.KONAMI) : p.Tells (Process.button action) :=
  fun _ habandons => h habandons.1

/-- The highlight begins, and some statements follow. -/
def afterBegin (n : ℕ) : List ShutdownEvent :=
  .server (.tick .highlight 0) :: List.replicate n .statement

/-- The light selection is stopped. -/
def selectionStopped : Shutdown :=
  (afterBegin 1).foldl (step fun _ _ => Color.WHITE)
    (call (pressed [Connection.B1]) stopServer)

theorem le_of_live_selection :
    ¬ selectionStopped.process.server.Live .highlight 0 := by
  intro hlive
  have hstopped : Stopped selectionStopped.pending .highlight :=
    ⟨by decide, by decide +kernel⟩
  have htells : Runs.AllSteps (step fun _ _ => Color.WHITE) Tells
      (call (pressed [Connection.B1]) stopServer) (afterBegin 1) :=
    ⟨trivial, trivial, trivial⟩
  have hmem : selectionStopped ∈ Runs.states (step fun _ _ => Color.WHITE)
      (call (pressed [Connection.B1]) stopServer) (afterBegin 1) :=
    Runs.foldl_mem_states
  have hended : selectionStopped.process.ended = none := by decide +kernel
  have hle := le_of_live Process.starts_oneLight
    (allSteps_buttons (by decide) tells_button _)
    (pressed_mem_states [Connection.B1]) htells hmem hended hstopped hlive
  exact absurd hle (by decide +kernel)

end Shutdown

/-! ## A chase -/

namespace Process

open Server Connection

variable {s : Server}

/-- The live scene is shown in the idle mode. -/
structure AtLive (s : Server) : Prop where
  state : s.currentState = .IDLE
  index : s.sceneManager.currentIndex = -1
  full : SceneManager.AllFull s.sceneManager

/-- The look has become the last scene. -/
def withScene (s : Server) : Server :=
  { s with sceneManager := { s.sceneManager with
      scenes := s.sceneManager.scenes ++ [List.ofFn s.rig.dmx.dmxShadow]
      modCount := s.sceneManager.modCount + 1
      file := some (SceneManager.fileText
        (s.sceneManager.scenes ++ [List.ofFn s.rig.dmx.dmxShadow])) } }

theorem length_withScene (s : Server) :
    (withScene s).sceneManager.scenes.length =
      s.sceneManager.scenes.length + 1 := List.length_append

theorem AtLive.withScene (h : AtLive s) : AtLive (withScene s) := by
  refine ⟨h.state, h.index, fun scene hscene => ?_⟩
  rcases List.mem_append.mp hscene with hold | hnew
  · exact h.full scene hold
  · rw [List.mem_singleton.mp hnew]
    exact List.length_ofFn

theorem AtLive.step_storeScene (h : AtLive s)
    (colorConverter : XYConverter) :
    step colorConverter ⟨s, none⟩ (button PS2) =
      ⟨Process.withScene s, none⟩ := by
  have hrun := processCommand_storeScene colorConverter
    (fun _ => Color.WHITE) (.new (dataBuffer [USER_ACTION_DATA, PS2]))
    (by decide) (by decide) (by decide) h.state (storeScene_eq h.full h.index)
  rw [← run_button] at hrun
  exact step_of_ok rfl hrun

theorem AtLive.step_enterChase (h : AtLive s) (colorConverter : XYConverter)
    (hlen : 1 < s.sceneManager.scenes.length) :
    (step colorConverter ⟨s, none⟩ (button B2)).ended = none ∧
      (step colorConverter ⟨s, none⟩ (button B2)).server.currentState =
        .CHASE := by
  let c := (WirelessCommand.new (dataBuffer [USER_ACTION_DATA, B2])).parse.2
  obtain ⟨t, ht, hstate⟩ :
      ∃ t, enterChase s = .ok true t ∧ t.currentState = .CHASE := by
    unfold enterChase
    rw [bind_of_ok (x := get) rfl, if_pos hlen]
    exact ⟨_, rfl, rfl⟩
  have hdebug : debugSwitch c s = .ok false s := rfl
  have hmain : mainSwitch colorConverter (fun _ => Color.WHITE) c s =
      .ok true t := by
    unfold mainSwitch
    rw [bind_of_ok (x := get) rfl, h.state]
    exact ht
  have hrun : run colorConverter (button B2) s = .ok ⟨⟩
      { t with heartbeats := t.heartbeats ++ [t.currentState.toByte] } := by
    rw [run_button, processCommand_of_interprets (by decide)]
    refine (bind_of_ok hdebug).trans ((bind_of_ok hmain).trans ?_)
    rfl
  rw [step_of_ok rfl hrun]
  exact ⟨rfl, hstate⟩

end Process

/-! ## Modes without a worker to stop -/

/-- A process that has exited does nothing any more. -/
theorem Process.step_of_exited (h : p.ended = some .exited) (e : Event) :
    Process.step colorConverter p e = p := by
  refine if_pos ?_
  unfold Process.ignores
  rw [h]
  cases e <;> rfl

theorem Process.foldl_of_exited (h : p.ended = some .exited)
    (events : List Event) :
    events.foldl (Process.step colorConverter) p = p := by
  induction events with
  | nil => rfl
  | cons e rest ih => rw [List.foldl_cons, Process.step_of_exited h, ih]

namespace Shutdown

open Server Statement

/-- The loop takes no datagram. -/
def TakesNone : ShutdownEvent → Prop
  | .server (.packet _ _) => False
  | _ => True

def isStatement : ShutdownEvent → Bool
  | .server _ => false
  | .statement => true

/-- The events of the server alone. -/
def serverEvents (events : List ShutdownEvent) : List Event :=
  events.filterMap fun e =>
    match e with
    | .server e => some e
    | .statement => none

/-- The statements that are pending find nothing to stop. -/
structure Vain (t : Shutdown) : Prop where
  since : ∃ mode index o, Since (fun _ => 0) (fun _ => False) mode index o
    t.process.server ∧ ∀ k, o = some k → .redrum k ∉ t.pending
  clearDMX : .clearDMX ∉ t.pending
  ended : t.ended = none

variable {e : ShutdownEvent}

theorem Vain.server (h : Vain t) (k : WorkerField) (i : ℕ) :
    Vain { t with
      process := Process.step colorConverter t.process (.tick k i) } := by
  obtain ⟨⟨mode, index, o, hs, ho⟩, hclear, hended⟩ := h
  have htick : Preserves (Since (fun _ => 0) (fun _ => False) mode index o)
      (tick k i) := since_tick k i
  exact ⟨⟨mode, index, o, Process.step_server hs htick fun _ => hs, ho⟩,
    hclear, hended⟩

theorem Vain.advance (h : Vain t) :
    Vain t.advance ∧ t.advance.process = t.process ∧
      t.advance.pending = t.pending.tail := by
  obtain ⟨⟨mode, index, o, hs, ho⟩, hclear, hended⟩ := id h
  cases hpending : t.pending with
  | nil =>
      have heq : t.advance = t := by
        unfold Shutdown.advance
        rw [hpending]
      rw [heq]
      exact ⟨h, rfl, hpending⟩
  | cons x rest =>
      rw [hpending] at ho hclear
      have hrun : x.run t.process.server = .ok ⟨⟩ t.process.server := by
        cases x with
        | redrum k =>
            exact redrumUnlessNull_of_none ((hs.slots k).ref_eq_none
              fun hk => ho k hk (List.mem_cons_self ..))
        | endLoop => rfl
        | clearDMX => exact absurd (List.mem_cons_self ..) hclear
      have heq : t.advance = { t with
          serverRunning := t.serverRunning && x ≠ .endLoop
          pending := rest } := by
        unfold Shutdown.advance
        simp only [hpending, hrun]
      rw [heq]
      exact ⟨⟨⟨mode, index, o, hs, fun k hk =>
        List.not_mem_of_not_mem_cons (ho k hk)⟩,
        List.not_mem_of_not_mem_cons hclear, hended⟩, rfl, rfl⟩

/-- The statements change nothing, and return one after another. -/
theorem Vain.foldl (h : Vain t) {events : List ShutdownEvent}
    (hnone : ∀ e ∈ events, TakesNone e) :
    (events.foldl (step colorConverter) t).process =
        (serverEvents events).foldl (Process.step colorConverter) t.process ∧
      ((events.foldl (step colorConverter) t).process.ended ≠ some .exited →
        (events.foldl (step colorConverter) t).pending =
          t.pending.drop (events.countP isStatement)) := by
  induction events generalizing t with
  | nil => exact ⟨rfl, fun _ => rfl⟩
  | cons e rest ih =>
      have hrest : ∀ e ∈ rest, TakesNone e := fun e he =>
        hnone e (List.mem_cons_of_mem _ he)
      rw [List.foldl_cons]
      cases e with
      | server e =>
          cases e with
          | packet random receiveData =>
              exact (hnone _ (List.mem_cons_self ..)).elim
          | tick k i =>
              exact ih (h.server k i) hrest
      | statement =>
          by_cases hexited : t.process.ended = some .exited
          · have hstep : step colorConverter t .statement = t := by
              refine if_pos ?_
              unfold ignores
              rw [hexited]
              simp
            have hfinal := ih h hrest
            rw [hstep]
            refine ⟨hfinal.1, fun hnot => ?_⟩
            rw [hfinal.1, Process.foldl_of_exited hexited] at hnot
            exact absurd hexited hnot
          · have hstep : step colorConverter t .statement = t.advance := by
              refine if_neg ?_
              unfold ignores
              rw [h.ended]
              simpa using hexited
            obtain ⟨hvain, hprocess, hpending⟩ := h.advance
            have hfinal := ih hvain hrest
            rw [hprocess, hpending, ← List.drop_one, List.drop_drop] at hfinal
            rw [hstep, List.countP_cons_of_pos (by rfl), Nat.add_comm]
            exact hfinal

/-- In a mode that owns no worker, or only the chase, `stopServer` returns and
has done nothing: the workers go on as if it had not been called. -/
theorem foldl_of_chase {before : List Event} {events : List ShutdownEvent}
    (hstart : Process.Starts dmx profiles file p)
    (hbefore : Runs.AllSteps (Process.step colorConverter) Process.Tells p
      before)
    (hq : q ∈ Runs.states (Process.step colorConverter) p before)
    (hended : q.ended = none)
    (howner : ∀ k, owner q.server.currentState
      q.server.currentControlIndex = some k → k = .chase)
    (hnone : ∀ e ∈ events, TakesNone e) :
    (events.foldl (step colorConverter) (call q stopServer)).process =
        (serverEvents events).foldl (Process.step colorConverter) q ∧
      ((events.foldl (step colorConverter)
          (call q stopServer)).process.ended ≠ some .exited →
        (events.foldl (step colorConverter) (call q stopServer)).pending =
          stopServer.drop (events.countP isStatement)) := by
  have hsettled : Process.While
      (Custody.Settled (Since (fun _ => 0) fun _ => False)) q :=
    Runs.invariant (fun _ _ h hok => Process.while_since_step h hok)
      (fun _ => Process.since_of_starts hstart) hbefore q hq
  have hvain : Vain (call q stopServer) := by
    refine ⟨⟨_, _, _, (hsettled hended).2, fun k hk => ?_⟩,
      show .clearDMX ∉ stopServer by decide, rfl⟩
    rw [howner k hk]
    exact show .redrum .chase ∉ stopServer by decide
  exact hvain.foldl hnone

/-- Two scenes are stored, and the chase starts. -/
def chasing : Process :=
  pressed [Connection.PS2, Connection.PS2, Connection.B2]

theorem chasing_state : chasing.ended = none ∧
    chasing.server.currentState = .CHASE := by
  have hlive : Process.AtLive (Process.oneLight none).server :=
    ⟨rfl, rfl, fun _ hs => (List.not_mem_nil hs).elim⟩
  have hempty : pressed [] = ⟨(Process.oneLight none).server, none⟩ := rfl
  have hone := pressed_concat [] Connection.PS2
  have htwo := pressed_concat [Connection.PS2] Connection.PS2
  have hthree :=
    pressed_concat [Connection.PS2, Connection.PS2] Connection.B2
  rw [hempty, hlive.step_storeScene] at hone
  rw [List.nil_append] at hone
  rw [hone, hlive.withScene.step_storeScene] at htwo
  rw [List.singleton_append] at htwo
  rw [htwo] at hthree
  rw [show chasing = _ from hthree]
  refine hlive.withScene.withScene.step_enterChase _ ?_
  rw [Process.length_withScene, Process.length_withScene]
  omega

/-- The user interface stops the server, and the chase is still there. -/
theorem foldl_of_chase_stopped :
    ((List.replicate 5 ShutdownEvent.statement).foldl
      (step fun _ _ => Color.WHITE) (call chasing stopServer)).process =
        chasing ∧
    ((List.replicate 5 ShutdownEvent.statement).foldl
      (step fun _ _ => Color.WHITE) (call chasing stopServer)).pending =
        [] := by
  obtain ⟨hended, hstate⟩ := chasing_state
  have hnone : ∀ e ∈ List.replicate 5 ShutdownEvent.statement,
      TakesNone e := by
    intro e he
    rw [List.eq_of_mem_replicate he]
    trivial
  have howner : ∀ k, owner chasing.server.currentState
      chasing.server.currentControlIndex = some k → k = .chase := by
    intro k hk
    rw [hstate] at hk
    exact (Option.some.inj hk).symm
  have htells : Runs.AllSteps (Process.step fun _ _ => Color.WHITE)
      Process.Tells (Process.oneLight none)
      ([Connection.PS2, Connection.PS2, Connection.B2].map Process.button) :=
    allSteps_buttons (by decide) tells_button _
  have hmem : chasing ∈ Runs.states (Process.step fun _ _ => Color.WHITE)
      (Process.oneLight none)
      ([Connection.PS2, Connection.PS2, Connection.B2].map Process.button) :=
    pressed_mem_states _
  obtain ⟨hprocess, hpending⟩ := foldl_of_chase Process.starts_oneLight htells
    hmem hended howner hnone
  have hnothing : serverEvents (List.replicate 5 .statement) = [] := rfl
  rw [hnothing, List.foldl_nil] at hprocess
  refine ⟨hprocess, hpending ?_⟩
  rw [hprocess, hended]
  exact nofun

end Shutdown

end ChuckLight
