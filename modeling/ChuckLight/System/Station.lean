import ChuckLight.Firmware.UdpController
import ChuckLight.Threads.Announcements
import ChuckLight.Threads.HeartBeatThread
import Mathlib.Tactic.IntervalCases

/-!
# Base station and controller

The server asks for heartbeats, which carry its mode to the controller and
arrive in order.  The loop, the workers and the heartbeat thread take turns.  An
iteration of the loop is one step, and one that gets no packet is as one whose
packet is not interpreted.
-/

namespace ChuckLight

open Java Firmware

/-- The server, its heartbeats, of which the controller has received the first
`delivered`, and the controller. -/
structure Station where
  process : Process
  heartbeat : HeartBeatThread
  delivered : ℕ
  controller : UdpController

/-- What can happen next: a step of the server, a statement of the method `run`
of the heartbeat thread, or the next heartbeat arrives. -/
inductive StationEvent where
  | server (e : Event)
  | run
  | deliver (addr : IpAddr)

namespace Station

open Process Server UdpController HeartBeatThread

/-- The heartbeat that the server has asked for since `log`.  An iteration of
the loop asks once, at its end. -/
def due (s : Server) (log : List Int8) : Option Int8 :=
  (s.heartbeats.drop log.length).head?

/-- A step of the server, and the heartbeat that is due after it.  An exception
of the heartbeat leaves the loop. -/
def serve (colorConverter : XYConverter) (e : Event) (p : Process)
    (h : HeartBeatThread) : Process × HeartBeatThread :=
  let process := Process.step colorConverter p e
  match due process.server p.server.heartbeats with
  | none => (process, h)
  | some mode =>
      match announce mode h with
      | .ok _ heartbeat => (process, heartbeat)
      | .error a heartbeat => ({ process with ended := some a }, heartbeat)

/-- The payload as the controller sees it. -/
def onWire (payload : List Int8) : List UInt8 := payload.map Int8.toUInt8

def step (colorConverter : XYConverter) (st : Station) :
    StationEvent → Station
  | .server e =>
      { st with
        process := (serve colorConverter e st.process st.heartbeat).1
        heartbeat := (serve colorConverter e st.process st.heartbeat).2 }
  | .run => { st with heartbeat := st.heartbeat.run }
  | .deliver addr =>
      match st.heartbeat.sent[st.delivered]? with
      | none => st
      | some payload =>
          { st with
            delivered := st.delivered + 1
            controller := udpRecieve addr (onWire payload) st.controller }

/-- The server reaches its loop; the heartbeat thread has not begun. -/
structure Starts (dmx : DefaultDMX) (profiles : List FixtureProfile)
    (file : Option (List Char)) (st : Station) : Prop where
  process : Process.Starts dmx profiles file st.process
  heartbeat : st.heartbeat = .new Mode.IDLE.toByte
  delivered : st.delivered = 0
  controller : st.controller = UdpController.init

/-- The mode that the heartbeat holds is the mode of the server. -/
def Holds (st : Station) : Prop :=
  st.heartbeat.currentState = st.process.server.currentState.toByte

/-- The last heartbeat that was sent carries the mode of the server. -/
def Announced (st : Station) : Prop :=
  st.heartbeat.sent.getLast? =
    some (pollPacket st.process.server.currentState.toByte)

/-- The controller is in the mode of the server. -/
def Agrees (st : Station) : Prop :=
  st.controller.MODE.toInt8 = st.process.server.currentState.toByte

/-! ## The controller -/

/-- A heartbeat sets the mode of the controller. -/
theorem MODE_udpRecieve_pollPacket (addr : IpAddr) (mode : Int8)
    (c : UdpController) :
    (udpRecieve addr (onWire (pollPacket mode)) c).MODE = mode.toUInt8 := by
  have hvalid : IsValid (onWire (pollPacket mode)) := by
    intro i hi
    interval_cases i <;> rfl
  have hpoll : byteAt (onWire (pollPacket mode)) 8 = POLL_PACKET_ID := rfl
  have hcommand : ¬ byteAt (onWire (pollPacket mode)) 8 =
      COMMAND_PACKET_ID := by
    rw [hpoll]
    decide
  unfold udpRecieve
  rw [if_neg (not_not.mpr hvalid), if_neg hcommand, if_pos hpoll]
  rfl

/-- The type of a packet that lacks its identification or its type. -/
theorem type_of_blank {payload : List Int8} (hblank : Blank payload) :
    byteAt (onWire payload) 8 = 0 := by
  obtain ⟨mode, rfl | rfl⟩ := hblank <;> rfl

/-- The controller ignores such a packet. -/
theorem udpRecieve_of_blank {payload : List Int8} (hblank : Blank payload)
    (addr : IpAddr) (c : UdpController) :
    udpRecieve addr (onWire payload) c = c := by
  have htype := type_of_blank hblank
  have hcommand : ¬ (0 : UInt8) = COMMAND_PACKET_ID := by decide
  have hpoll : ¬ (0 : UInt8) = Firmware.POLL_PACKET_ID := by decide
  unfold udpRecieve
  rw [htype, if_neg hcommand, if_neg hpoll]
  split_ifs <;> rfl

/-! ## A step of the server -/

variable {colorConverter : XYConverter} {p : Process} {e : Event}
  {h : HeartBeatThread}

theorem announced_server
    (hended : (Process.step colorConverter p e).ended = none) :
    Server.Announced p.server.currentState p.server.heartbeats
      (Process.step colorConverter p e).server := by
  obtain ⟨-, hrun⟩ := Process.run_of_ended_eq_none hended
  cases e with
  | packet random receiveData =>
      exact (triple_processCommand_announced colorConverter random _ _
        _).of_ok ⟨rfl, rfl⟩ hrun
  | tick k i =>
      exact .inl
        (((steady_silent _ _).working.ticks.tick k i).of_ok ⟨rfl, rfl⟩ hrun)

/-- No heartbeat is due and the mode is the one before, or a heartbeat of the
mode is due. -/
theorem due_step (hended : (Process.step colorConverter p e).ended = none) :
    let s := (Process.step colorConverter p e).server
    s.currentState = p.server.currentState ∧
        due s p.server.heartbeats = none ∨
      due s p.server.heartbeats = some s.currentState.toByte := by
  unfold due
  rcases announced_server hended with ⟨hmode, hlog⟩ | hlog
  · refine .inl ⟨hmode, ?_⟩
    rw [hlog, List.drop_length]
    rfl
  · refine .inr ?_
    rw [hlog, List.drop_left]
    rfl

theorem serve_of_none
    (hdue : due (Process.step colorConverter p e).server
      p.server.heartbeats = none) :
    serve colorConverter e p h = (Process.step colorConverter p e, h) := by
  unfold serve
  dsimp only
  rw [hdue]

theorem serve_of_ok {mode : Int8} {h' : HeartBeatThread}
    (hdue : due (Process.step colorConverter p e).server
      p.server.heartbeats = some mode)
    (hannounce : announce mode h = .ok ⟨⟩ h') :
    serve colorConverter e p h = (Process.step colorConverter p e, h') := by
  unfold serve
  dsimp only
  rw [hdue]
  dsimp only
  rw [hannounce]

theorem serve_of_error {mode : Int8} {a : Abrupt} {h' : HeartBeatThread}
    (hdue : due (Process.step colorConverter p e).server
      p.server.heartbeats = some mode)
    (hannounce : announce mode h = .error a h') :
    serve colorConverter e p h =
      ({ Process.step colorConverter p e with ended := some a }, h') := by
  unfold serve
  dsimp only
  rw [hdue]
  dsimp only
  rw [hannounce]

/-- A worker asks for no heartbeat. -/
theorem due_tick (k : WorkerField) (i : ℕ) :
    due (Process.step colorConverter p (.tick k i)).server
      p.server.heartbeats = none := by
  have hbefore : Logs p.server.heartbeats p.server := rfl
  have hlog : Logs p.server.heartbeats
      (Process.step colorConverter p (.tick k i)).server :=
    Process.step_server hbefore ((steady_logs _).working.ticks.tick k i)
      fun _ => rfl
  unfold due
  rw [hlog, List.drop_length]
  rfl

theorem heartbeat_serve {mode : Int8}
    (hdue : due (Process.step colorConverter p e).server
      p.server.heartbeats = some mode) :
    (serve colorConverter e p h).2 = stateAfter (announce mode) h := by
  unfold stateAfter
  cases hannounce : announce mode h with
  | ok _ h' => rw [serve_of_ok hdue hannounce]
  | error a h' => rw [serve_of_error hdue hannounce]

/-- An iteration after which the loop goes on. -/
theorem serve_cases (hended : (serve colorConverter e p h).1.ended = none) :
    (serve colorConverter e p h).1 = Process.step colorConverter p e ∧
      ((Process.step colorConverter p e).server.currentState =
          p.server.currentState ∧ (serve colorConverter e p h).2 = h ∨
        announce (Process.step colorConverter p
          e).server.currentState.toByte h =
            .ok ⟨⟩ (serve colorConverter e p h).2) := by
  cases hdue : due (Process.step colorConverter p e).server
      p.server.heartbeats with
  | none =>
      have hserve := @serve_of_none colorConverter p e h hdue
      rw [hserve] at hended ⊢
      rcases due_step hended with ⟨hmode, -⟩ | hsome
      · exact ⟨rfl, .inl ⟨hmode, rfl⟩⟩
      · cases hdue.symm.trans hsome
  | some mode =>
      cases hannounce : announce mode h with
      | error a h' =>
          rw [serve_of_error hdue hannounce] at hended
          cases hended
      | ok _ h' =>
          have hserve := serve_of_ok hdue hannounce
          rw [hserve] at hended ⊢
          rcases due_step hended with ⟨-, hnone⟩ | hsome
          · cases hdue.symm.trans hnone
          · obtain rfl := Option.some.inj (hdue.symm.trans hsome)
            exact ⟨rfl, .inr hannounce⟩

/-- The heartbeat thread stays prepared, and forgets nothing that it has
sent. -/
theorem prepared_serve (hprepared : Prepared h) :
    Prepared (serve colorConverter e p h).2 ∧
      h.sent <+: (serve colorConverter e p h).2.sent := by
  cases hdue : due (Process.step colorConverter p e).server
      p.server.heartbeats with
  | none =>
      rw [serve_of_none hdue]
      exact ⟨hprepared, List.prefix_refl _⟩
  | some mode =>
      cases hannounce : announce mode h with
      | error a h' =>
          rw [serve_of_error hdue hannounce]
          obtain ⟨-, rfl⟩ := hprepared.announce_of_error hannounce
          exact ⟨hprepared.setCurrentState mode, List.prefix_refl _⟩
      | ok _ h' =>
          rw [serve_of_ok hdue hannounce]
          have hkeeps := hprepared.keeps_announce hannounce
          exact ⟨hkeeps.prepared, hkeeps.sent⟩

/-- With a complete packet a heartbeat does not fail. -/
theorem serve_of_ready (hprepared : Prepared h) (hready : h.Ready) :
    (serve colorConverter e p h).1 = Process.step colorConverter p e := by
  cases hdue : due (Process.step colorConverter p e).server
      p.server.heartbeats with
  | none => rw [serve_of_none hdue]
  | some mode =>
      cases hannounce : announce mode h with
      | error a h' =>
          have hpoint := (hprepared.announce_of_error hannounce).1
          rcases hready with hnot | hnot <;>
            exact nomatch hpoint.symm.trans hnot
      | ok _ h' => rw [serve_of_ok hdue hannounce]

/-- Before there is a packet, an iteration that asks for a heartbeat ends the
loop. -/
theorem ended_of_newData (hprepared : Prepared h)
    (hpoint : h.point = .newData) {mode : Int8}
    (hdue : due (Process.step colorConverter p e).server
      p.server.heartbeats = some mode) :
    (serve colorConverter e p h).1.ended =
      some (.thrown .nullPointerException) := by
  rw [serve_of_error hdue (hprepared.announce_of_newData hpoint mode)]

/-! ## The invariant -/

/-- The heartbeats are in step with the server, and the controller with the
last heartbeat that it has received. -/
structure InStep (st : Station) : Prop where
  holds : st.Holds
  prepared : Prepared st.heartbeat
  current : Current st.heartbeat
  delivered_le : st.delivered ≤ st.heartbeat.sent.length
  mode_eq : ∀ mode,
    (st.heartbeat.sent.take st.delivered).getLast? = some (pollPacket mode) →
      st.controller.MODE = mode.toUInt8

variable {st : Station}

/-- The heartbeat thread keeps what it has sent. -/
theorem InStep.send (hin : InStep st) {process : Process}
    (hprepared : Prepared h) (hcurrent : Current h)
    (hholds : h.currentState = process.server.currentState.toByte)
    (hsent : st.heartbeat.sent <+: h.sent) :
    InStep { st with process := process, heartbeat := h } := by
  obtain ⟨new, hnew⟩ := hsent
  refine ⟨hholds, hprepared, hcurrent, ?_, fun mode hmode => ?_⟩
  · show st.delivered ≤ h.sent.length
    rw [← hnew, List.length_append]
    exact Nat.le_add_right_of_le hin.delivered_le
  · have htake : h.sent.take st.delivered =
        st.heartbeat.sent.take st.delivered := by
      rw [← hnew, List.take_append_of_le_length hin.delivered_le]
    exact hin.mode_eq mode (htake ▸ hmode)

theorem InStep.server (hin : InStep st)
    (hended : (serve colorConverter e st.process
      st.heartbeat).1.ended = none) :
    InStep (step colorConverter st (.server e)) := by
  obtain ⟨hprepared, hsent⟩ :=
    @prepared_serve colorConverter st.process e _ hin.prepared
  have hserver := congrArg Process.server (serve_cases hended).1
  rcases (serve_cases hended).2 with ⟨hmode, hsame⟩ | hannounce
  · refine hin.send hprepared ?_ ?_ hsent
    · rw [hsame]
      exact hin.current
    · rw [hsame, hserver, hmode]
      exact hin.holds
  · have hkeeps := hin.prepared.keeps_announce hannounce
    refine hin.send hprepared hkeeps.current ?_ hsent
    rw [hserver]
    exact hkeeps.currentState

theorem InStep.run (hin : InStep st) :
    InStep (step colorConverter st .run) := by
  have hkeeps := hin.prepared.keeps_run
  exact hin.send hkeeps.prepared hkeeps.current
    (hkeeps.currentState.trans hin.holds) hkeeps.sent

theorem InStep.deliver (hin : InStep st) (addr : IpAddr) :
    InStep (step colorConverter st (.deliver addr)) := by
  unfold Station.step
  cases hget : st.heartbeat.sent[st.delivered]? with
  | none => exact hin
  | some payload =>
      obtain ⟨hlt, heq⟩ := List.getElem?_eq_some_iff.mp hget
      refine ⟨hin.holds, hin.prepared, hin.current, hlt, fun mode hmode => ?_⟩
      have hlast : (st.heartbeat.sent.take (st.delivered + 1)).getLast? =
          some payload := by
        rw [List.take_succ_eq_append_getElem hlt, heq]
        exact List.getLast?_concat ..
      have hpayload := hlast.symm.trans hmode
      rw [Option.some.inj hpayload]
      exact MODE_udpRecieve_pollPacket addr mode st.controller

/-! ## Runs -/

/-- While the loop of the server goes on, the station is in step. -/
def WhileInStep (st : Station) : Prop :=
  st.process.ended = none → InStep st

theorem process_deliver (addr : IpAddr) :
    (step colorConverter st (.deliver addr)).process = st.process := by
  unfold Station.step
  cases st.heartbeat.sent[st.delivered]? <;> rfl

theorem heartbeat_deliver (addr : IpAddr) :
    (step colorConverter st (.deliver addr)).heartbeat = st.heartbeat := by
  unfold Station.step
  cases st.heartbeat.sent[st.delivered]? <;> rfl

theorem whileInStep_step (hin : WhileInStep st) (e : StationEvent) :
    WhileInStep (step colorConverter st e) := by
  intro hended
  cases e with
  | server e =>
      have hstep := (serve_cases hended).1
      have hbefore : (Process.step colorConverter st.process e).ended = none :=
        hstep ▸ hended
      exact (hin (Process.run_of_ended_eq_none hbefore).1).server hended
  | run => exact (hin hended).run
  | deliver addr =>
      rw [process_deliver] at hended
      exact (hin hended).deliver addr

theorem prepared_step (hprepared : Prepared st.heartbeat)
    (e : StationEvent) : Prepared (step colorConverter st e).heartbeat := by
  cases e with
  | server e => exact (prepared_serve hprepared).1
  | run => exact hprepared.keeps_run.prepared
  | deliver addr =>
      rw [heartbeat_deliver]
      exact hprepared

theorem polled_step (hprepared : Prepared st.heartbeat)
    (hpolled : st.heartbeat.Polled) (e : StationEvent) :
    (step colorConverter st e).heartbeat.Polled := by
  cases e with
  | server e =>
      exact hpolled.imp fun _ hmem => (prepared_serve hprepared).2.subset hmem
  | run => exact hprepared.keeps_run.polled hpolled
  | deliver addr =>
      rw [heartbeat_deliver]
      exact hpolled

theorem inStep_of_starts {dmx : DefaultDMX} {profiles : List FixtureProfile}
    {file : Option (List Char)} (hstart : Starts dmx profiles file st) :
    InStep st := by
  obtain ⟨hprocess, hheartbeat, hdelivered, hcontroller⟩ := hstart
  have hscenes : Preserves (Silent .IDLE []) startScenes :=
    ((steady_silent _ _).onRig _).bind fun _ =>
      (silent_onScenes _).bind fun _ => silent_onScenes _
  have hmode := (hscenes.of_ok ⟨rfl, rfl⟩ hprocess.1).1
  refine ⟨?_, ?_, ?_, ?_, ?_⟩
  · unfold Station.Holds
    rw [hheartbeat, hmode]
    rfl
  · rw [hheartbeat]
    exact prepared_new _
  · rw [hheartbeat]
    rintro ⟨mode, hmem⟩
    cases hmem
  · rw [hdelivered]
    exact Nat.zero_le _
  · rw [hdelivered]
    exact nofun

/-- Once `run` has sent a heartbeat, the station agrees on the mode. -/
theorem InStep.announced (hin : InStep st) (hpolled : st.heartbeat.Polled) :
    st.Holds ∧ st.Announced ∧
      (st.delivered = st.heartbeat.sent.length → st.Agrees) := by
  have hlast : st.Announced := by
    unfold Station.Announced
    rw [← hin.holds]
    exact hin.current hpolled
  refine ⟨hin.holds, hlast, fun hall => ?_⟩
  have hmode := hin.mode_eq st.process.server.currentState.toByte
    (by rw [hall, List.take_length]; exact hlast)
  unfold Station.Agrees
  rw [hmode]
  exact Int8.toInt8_toUInt8 _

/-- When the loop gets a packet, `run` has sent its first heartbeat. -/
def Warm (st : Station) : StationEvent → Prop
  | .server (.packet _ _) => st.heartbeat.point = .sendAgain
  | _ => True

/-- The states from the end of the first iteration on. -/
def iterated (colorConverter : XYConverter) (st : Station) :
    List StationEvent → List Station
  | [] => []
  | e :: es =>
      match e with
      | .server (.packet _ _) =>
          Runs.states (step colorConverter) (step colorConverter st e) es
      | _ => iterated colorConverter (step colorConverter st e) es

variable {events : List StationEvent}

/-- Where a complete packet has been sent, it stays sent. -/
theorem polled_run (hin : WhileInStep st) (hprepared : Prepared st.heartbeat)
    (hpolled : st.heartbeat.Polled) :
    ∀ t ∈ Runs.states (step colorConverter) st events,
      WhileInStep t ∧ t.heartbeat.Polled := by
  have hrun : ∀ t ∈ Runs.states (step colorConverter) st events,
      WhileInStep t ∧ Prepared t.heartbeat ∧ t.heartbeat.Polled :=
    Runs.invariant (fun _ e hu _ => ⟨whileInStep_step hu.1 e,
      prepared_step hu.2.1 e, polled_step hu.2.1 hu.2.2 e⟩)
      ⟨hin, hprepared, hpolled⟩ (Runs.allSteps_true _ _)
  exact fun t ht => ⟨(hrun t ht).1, (hrun t ht).2.2⟩

/-- From the first iteration on, a complete packet has been sent. -/
theorem polled_of_warm (hin : WhileInStep st)
    (hprepared : Prepared st.heartbeat)
    (hwarm : Runs.AllSteps (step colorConverter) Warm st events) :
    ∀ t ∈ iterated colorConverter st events,
      WhileInStep t ∧ t.heartbeat.Polled := by
  induction events generalizing st with
  | nil =>
      intro t ht
      cases ht
  | cons e es ih =>
      have hlater := ih (whileInStep_step hin e) (prepared_step hprepared e)
        hwarm.2
      intro t ht
      cases e with
      | run => exact hlater t ht
      | deliver addr => exact hlater t ht
      | server e =>
          cases e with
          | tick k i => exact hlater t ht
          | packet random receiveData =>
              have hpolled := hprepared.polled hwarm.1
              exact polled_run (whileInStep_step hin _)
                (prepared_step hprepared _) (polled_step hprepared hpolled _)
                t ht

/-- Where `run` has sent its first heartbeat before the first iteration of the
loop: as long as the loop goes on, the mode that the heartbeat holds and the
mode that it has announced last are the mode of the server; and when all
heartbeats have been delivered, so is the mode of the controller. -/
theorem announced_of_warm {dmx : DefaultDMX}
    {profiles : List FixtureProfile} {file : Option (List Char)}
    (hstart : Starts dmx profiles file st)
    (hwarm : Runs.AllSteps (step colorConverter) Warm st events) :
    ∀ t ∈ iterated colorConverter st events, t.process.ended = none →
      t.Holds ∧ t.Announced ∧
        (t.delivered = t.heartbeat.sent.length → t.Agrees) := by
  intro t ht hended
  have hin := inStep_of_starts hstart
  obtain ⟨hrun, hpolled⟩ :=
    polled_of_warm (fun _ => hin) hin.prepared hwarm t ht
  exact (hrun hended).announced hpolled

/-- A station with one light. -/
def oneLight : Station where
  process := Process.oneLight none
  heartbeat := .new Mode.IDLE.toByte
  delivered := 0
  controller := UdpController.init

theorem starts_oneLight : Starts blackout [parLight] none oneLight :=
  ⟨Process.starts_oneLight, rfl, rfl, rfl⟩

/-- The heartbeat thread comes to its second round, a button enters the light
selection, whose worker begins, and all heartbeats arrive. -/
def pressed : List StationEvent :=
  [.run, .run, .run, .run, .run, .server (button Connection.B1),
    .server (.tick .highlight 0), .run, .deliver 0, .deliver 0, .deliver 0]

theorem announced_of_warm_pressed :
    let t := pressed.foldl (step fun _ _ => Color.WHITE) oneLight
    t.Holds ∧ t.Announced ∧ t.Agrees := by
  have hwarm : Runs.AllSteps (step fun _ _ => Color.WHITE) Warm oneLight
      pressed :=
    ⟨trivial, trivial, trivial, trivial, trivial, rfl, trivial, trivial,
      trivial, trivial, trivial, trivial⟩
  have hmem : pressed.foldl (step fun _ _ => Color.WHITE) oneLight ∈
      iterated (fun _ _ => Color.WHITE) oneLight pressed :=
    List.mem_of_getElem? (i := 5) rfl
  obtain ⟨hholds, hannounced, hall⟩ :=
    announced_of_warm starts_oneLight hwarm _ hmem rfl
  exact ⟨hholds, hannounced, hall rfl⟩

/-- The button comes between the assignment of the packet and the copy of its
identification. -/
theorem not_announced_of_arraycopy :
    ¬ ∀ t ∈ iterated (fun _ _ => Color.WHITE) oneLight
        [.run, .run, .server (button Connection.B1), .deliver 0],
      t.process.ended = none → t.Holds ∧ t.Announced ∧
        (t.delivered = t.heartbeat.sent.length → t.Agrees) := by
  intro hall
  have hmem : _ ∈ iterated (fun _ _ => Color.WHITE) oneLight
      [.run, .run, .server (button Connection.B1), .deliver 0] :=
    List.mem_of_getElem? (i := 1) rfl
  obtain ⟨-, -, hagrees⟩ := hall _ hmem rfl
  have hmode : Mode.IDLE.toByte = Mode.LIGHT_SELECTION.toByte := hagrees rfl
  exact absurd hmode (by decide)

end Station

end ChuckLight
