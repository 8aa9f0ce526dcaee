import ChuckLight.Lighting.FixtureKeeps
import ChuckLight.Support.Runs
import ChuckLight.Threads.ServerApp

/-!
# Runs of the server

A run interleaves datagrams from the queue with steps of the worker threads.
An exception that leaves the loop ends the main thread; `System.exit` ends all
threads.
-/

namespace ChuckLight

open Java

/-- The server, and how its main thread has ended, if it has. -/
structure Process where
  server : Server
  ended : Option Abrupt

/-- A datagram with the colors drawn for it, or a step of a worker. -/
inductive Event where
  | packet (random : ℕ → Color) (receiveData : Buffer)
  | tick (k : WorkerField) (i : ℕ)

namespace Server

variable (k : WorkerField) (i : ℕ)

/-- The worker ends. -/
def finishWorker (s : Server) : Server :=
  s.setSlot k ((s.slots k).finish i)

/-- The method `run` begins. -/
def beginWorker (s : Server) : Server :=
  s.setSlot k (((s.slots k).setRunning k.isStatic i true).modifyAt i fun w =>
    { w with begun := true })

/-- One pass of worker `i`, with its object. -/
def passResult (object : k.Object) (s : Server) :
    EStateM.Result Abrupt (Stage k.Object) Unit :=
  k.pass s.sceneManager (s.rig, object)

/-- A step of worker `i`: it begins, makes a pass, or ends.  A pass that leaves
by an exception ends it, and one that has to wait leaves everything as it
is. -/
def tick : Run Server Unit := fun s =>
  match (s.slots k).workers[i]? with
  | none => .ok ⟨⟩ s
  | some w =>
      if w.alive = false then .ok ⟨⟩ s
      else if w.begun = false then
        if k.returns s.sceneManager then
          .ok ⟨⟩ (finishWorker k i (beginWorker k i s))
        else .ok ⟨⟩ (beginWorker k i s)
      else if w.running = false then .ok ⟨⟩ (finishWorker k i s)
      else
        match passResult k w.object s with
        | .ok _ stage => .ok ⟨⟩ (store k i stage s)
        | .error (.thrown _) stage =>
            .ok ⟨⟩ (finishWorker k i (store k i stage s))
        | .error .exited stage => .error .exited (store k i stage s)
        | .error .blocked _ => .ok ⟨⟩ s

/-- The next step of worker `i` leaves a pass by an exception. -/
def Throws (s : Server) : Prop :=
  ∃ w, (s.slots k).workers[i]? = some w ∧ w.alive = true ∧ w.begun = true ∧
    w.running = true ∧ ∃ e stage,
      passResult k w.object s = .error (.thrown e) stage

instance (s : Server) : Decidable (Throws k i s) :=
  match hw : (s.slots k).workers[i]? with
  | none => .isFalse fun ⟨_, h, _⟩ => nomatch hw.symm.trans h
  | some w =>
      decidable_of_iff (w.alive = true ∧ w.begun = true ∧ w.running = true ∧
          ∃ e stage, passResult k w.object s = .error (.thrown e) stage)
        ⟨fun h => ⟨w, hw, h⟩, fun ⟨_, h, hrest⟩ =>
          Option.some.inj (h.symm.trans hw) ▸ hrest⟩

end Server

/-- The loop takes this command into the modes. -/
def Interprets (command : WirelessCommand) : Prop :=
  command.parse.1 = true ∧
    command.parse.2.packetType = Connection.DATA_PACKET_ID

instance (command : WirelessCommand) : Decidable (Interprets command) :=
  inferInstanceAs (Decidable (_ ∧ _))

namespace Server

theorem processCommand_of_interprets {command : WirelessCommand}
    (h : Interprets command) (colorConverter : XYConverter)
    (random : ℕ → Color) :
    processCommand colorConverter random command = do
      let konami ← debugSwitch command.parse.2
      let beat ← mainSwitch colorConverter random command.parse.2
      if konami || beat then sendHeartbeat else return :=
  if_pos h

theorem processCommand_of_not_interprets {command : WirelessCommand}
    (h : ¬ Interprets command) (colorConverter : XYConverter)
    (random : ℕ → Color) :
    processCommand colorConverter random command = pure ⟨⟩ :=
  if_neg h

end Server

namespace Process

open Server

/-- What an event does to the server. -/
def run (colorConverter : XYConverter) : Event → Run Server Unit
  | .packet random receiveData =>
      processCommand colorConverter random (.new receiveData)
  | .tick k i => tick k i

/-- The event has no effect any more. -/
def ignores (p : Process) : Event → Bool
  | .packet _ _ => p.ended.isSome
  | .tick _ _ => p.ended = some .exited

def step (colorConverter : XYConverter) (p : Process) (e : Event) : Process :=
  if p.ignores e then p
  else
    match run colorConverter e p.server with
    | .ok _ s => { p with server := s }
    | .error a s => ⟨s, some a⟩

/-- The server reaches its loop. -/
def Starts (dmx : DefaultDMX) (profiles : List FixtureProfile)
    (file : Option (List Char)) (p : Process) : Prop :=
  startScenes (init dmx profiles file) = .ok ⟨⟩ p.server ∧ p.ended = none

variable {colorConverter : XYConverter} {p : Process} {e : Event}

/-- A server whose main thread has ended ignores datagrams. -/
theorem step_packet_of_ended (h : p.ended ≠ none) (random : ℕ → Color)
    (receiveData : Buffer) :
    step colorConverter p (.packet random receiveData) = p :=
  if_pos (Option.isSome_iff_ne_none.mpr h)

theorem step_of_ok {s : Server} (h : p.ignores e = false)
    (hrun : run colorConverter e p.server = .ok ⟨⟩ s) :
    step colorConverter p e = { p with server := s } := by
  unfold Process.step
  rw [if_neg (Bool.not_eq_true _ ▸ h), hrun]

/-- The loop goes on only after a round that has returned. -/
theorem run_of_ended_eq_none (h : (step colorConverter p e).ended = none) :
    p.ended = none ∧ run colorConverter e p.server =
      .ok ⟨⟩ (step colorConverter p e).server := by
  have hended : p.ended = none := by
    cases hp : p.ended with
    | none => rfl
    | some a =>
        unfold Process.step at h
        split_ifs at h
        · rw [hp] at h
          cases h
        · cases hrun : run colorConverter e p.server with
          | ok u s =>
              rw [hrun] at h
              exact absurd (hp.symm.trans h) (Option.some_ne_none a)
          | error b s =>
              rw [hrun] at h
              cases h
  have hignores : p.ignores e = false := by
    unfold Process.ignores
    rw [hended]
    cases e <;> rfl
  refine ⟨hended, ?_⟩
  unfold Process.step at h ⊢
  simp only [hignores, Bool.false_eq_true, if_false] at h ⊢
  cases hrun : run colorConverter e p.server with
  | ok u s => rfl
  | error b s =>
      rw [hrun] at h
      cases h

/-- What holds of the server after a step. -/
theorem step_server {pre inv : Server → Prop} (h : pre p.server)
    (hrun : Triple pre (run colorConverter e) (fun _ => inv) (fun _ => inv))
    (hignored : p.ignores e = true → inv p.server) :
    inv (step colorConverter p e).server := by
  unfold Process.step
  by_cases hignore : p.ignores e = true
  · rw [if_pos hignore]
    exact hignored hignore
  · rw [if_neg hignore]
    cases hresult : run colorConverter e p.server with
    | ok a s => exact hrun.of_ok h hresult
    | error a s => exact hrun.of_error h hresult

/-- How the main thread can have ended after a step. -/
theorem step_ended {exc : Abrupt → Prop}
    (h : ∀ a, p.ended = some a → exc a)
    (hrun : p.ignores e = false → ∀ a s,
      run colorConverter e p.server = .error a s → exc a) :
    ∀ a, (step colorConverter p e).ended = some a → exc a := by
  unfold Process.step
  cases hignore : p.ignores e with
  | true =>
      rw [if_pos rfl]
      exact h
  | false =>
      rw [if_neg Bool.false_ne_true]
      cases hresult : run colorConverter e p.server with
      | ok a s => exact h
      | error a s =>
          intro a' ha'
          rw [← Option.some.inj ha']
          exact hrun hignore a s hresult

/-- An invariant of the running server.  Nothing is said about a server whose
main thread has ended. -/
def While (inv : Server → Prop) (p : Process) : Prop :=
  p.ended = none → inv p.server

/-- A step keeps what its method ensures. -/
theorem while_step {pre inv : Server → Prop} (h : While pre p)
    (hrun : Triple pre (run colorConverter e) (fun _ => inv)
      (fun _ _ => True))
    (hignored : p.ignores e = true → While inv p) :
    While inv (step colorConverter p e) := by
  intro hended
  unfold Process.step at hended ⊢
  by_cases hignore : p.ignores e = true
  · rw [if_pos hignore] at hended ⊢
    exact hignored hignore hended
  · rw [if_neg hignore] at hended ⊢
    cases hresult : run colorConverter e p.server with
    | ok a s =>
        rw [hresult] at hended
        exact hrun.of_ok (h hended) hresult
    | error a s =>
        rw [hresult] at hended
        cases hended

/-- The datagram of a button that the loop interprets. -/
def Presses (userAction : Int8) : Event → Prop
  | .packet _ receiveData => Interprets (.new receiveData) ∧
      (WirelessCommand.new receiveData).parse.2.dataType =
        Connection.USER_ACTION_DATA ∧
      (WirelessCommand.new receiveData).parse.2.userActionData = userAction
  | .tick _ _ => False

/-! ## A show with one light -/

/-- A data packet with the bytes after its header. -/
def dataBuffer (bytes : List Int8) : Buffer := fun i =>
  (List.ofFn Connection.ID ++ Connection.DATA_PACKET_ID :: 0 :: bytes).getD i 0

/-- The datagram of a button. -/
def button (userAction : Int8) : Event :=
  .packet (fun _ => Color.WHITE)
    (dataBuffer [Connection.USER_ACTION_DATA, userAction])

theorem run_button (colorConverter : XYConverter) (userAction : Int8) :
    run colorConverter (button userAction) =
      processCommand colorConverter (fun _ => Color.WHITE)
        (.new (dataBuffer [Connection.USER_ACTION_DATA, userAction])) := rfl

/-- A light with three colors and a dimmer. -/
def parLight : FixtureProfile where
  dmxDriver := some ()
  name := some "par"
  address := 1
  defaultColorOffs := 0
  isSelected := false
  channelMap := (∅ : ChannelMap).insert "red" 0 |>.insert "green" 1
    |>.insert "blue" 2 |>.insert "dimmer" 3
  dmxVals := [0, 0, 0, 0]

theorem usable_parLight : Light.Usable parLight where
  dmxDriver := nofun
  one_le_address := by decide
  address_add_le := by decide
  offset := fun s o h => by
    have hentries : ∀ entry ∈ parLight.channelMap.entries,
        0 ≤ entry.2.toInt ∧ entry.2.toInt < parLight.channelMap.size := by
      decide
    exact hentries ⟨s, o⟩ (AList.mem_lookup_iff.mp h)
  length_dmxVals := rfl
  red := rfl
  green := rfl
  blue := rfl
  dimmer := rfl

theorem mounted_parLight {address : Int32} (hone : 1 ≤ address.toInt)
    (hle : address.toInt ≤ 509) :
    Light.Mounted { parLight with address := address } := by
  obtain ⟨hdriver, -, -, hoffset, hlength, -⟩ := usable_parLight
  refine ⟨hdriver, hone, ?_, hoffset, hlength⟩
  have hsize : parLight.channelMap.size = 4 := by decide
  show address.toInt + parLight.channelMap.size ≤ 513
  omega

/-- The driver of a new device. -/
def blackout : DefaultDMX := ⟨fun _ => 0, [], fun _ => false⟩

/-- The server in its loop, with one light. -/
def oneLight (file : Option (List Char)) : Process where
  server := stateAfter startScenes (init blackout [parLight] file)
  ended := none

theorem starts_oneLight : Starts blackout [parLight] none (oneLight none) :=
  ⟨rfl, rfl⟩

/-- The driver of a device that is lost after some writes. -/
def lostAfter (writes : ℕ) : DefaultDMX :=
  { blackout with fault := fun n => decide (writes ≤ n) }

/-- The server in its loop, with such a device. -/
def losingDevice (writes : ℕ) (profiles : List FixtureProfile) :
    Process where
  server := stateAfter startScenes (init (lostAfter writes) profiles none)
  ended := none

end Process

end ChuckLight
