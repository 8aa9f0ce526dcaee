import ChuckLight.System.ControllerPackets
import ChuckLight.System.Station
import ChuckLight.Threads.PlayableScenes

/-!
# Base station and controller in a loop

The controller reads its inputs and sends datagrams; the listener of the base
station queues them, the server loop takes them in order, and its heartbeats
go back to the controller.  The listener also hears the heartbeats of its own
station, which are broadcast to the port that it listens on.

A data packet of the controller is stamped by its mode, but nothing else ties
it to the mode that the server is in when the packet is taken.  The events are
tied to the mode where the link is at rest at each iteration that reads the
buttons: all datagrams have been taken and all heartbeats received by then.
-/

namespace ChuckLight

open Java Firmware UdpController

structure ClosedLoop where
  process : Process
  heartbeat : HeartBeatThread
  delivered : ℕ
  controller : MainLoop
  taken : ℕ
  receiveData : Buffer

/-- What can happen next.  An iteration of the controller receives some more
heartbeats before the `switch` over its mode, and some after it. -/
inductive LoopEvent where
  | iterate (i : MainLoop.Input) (early late : ℕ)
  | serve (random : ℕ → Color)
  | echo (random : ℕ → Color) (beat : ℕ)
  | tick (k : WorkerField) (i : ℕ)
  | run

namespace ClosedLoop

open Process Server HeartBeatThread

/-- The part that exchanges modes. -/
def station (l : ClosedLoop) : Station :=
  ⟨l.process, l.heartbeat, l.delivered, l.controller.udp⟩

/-- The datagrams of the controller that the server has not taken. -/
def inFlight (l : ClosedLoop) : List (List UInt8) :=
  l.controller.udp.sent.drop l.taken

/-- The next `n` heartbeats, as they arrive. -/
def arrivals (host : IpAddr) (h : HeartBeatThread) (delivered n : ℕ) :
    List (IpAddr × List UInt8) :=
  ((h.sent.drop delivered).take n).map fun payload =>
    (host, Station.onWire payload)

/-- An iteration of the controller. -/
def iterate (host : IpAddr) (i : MainLoop.Input) (early late : ℕ)
    (l : ClosedLoop) : ClosedLoop :=
  let first := arrivals host l.heartbeat l.delivered early
  let second := arrivals host l.heartbeat (l.delivered + first.length) late
  { l with
    delivered := l.delivered + first.length + second.length
    controller := l.controller.iterate
      { i with recieved := first, late := second } }

/-- A step of the base station. -/
def onStation (colorConverter : XYConverter) (e : StationEvent)
    (l : ClosedLoop) : ClosedLoop :=
  let st := Station.step colorConverter l.station e
  { l with process := st.process, heartbeat := st.heartbeat }

/-- The server takes a command with this buffer. -/
def take (colorConverter : XYConverter) (random : ℕ → Color)
    (receiveData : Buffer) (l : ClosedLoop) : ClosedLoop :=
  onStation colorConverter (.server (.packet random receiveData))
    { l with receiveData := receiveData }

def step (colorConverter : XYConverter) (host : IpAddr) (l : ClosedLoop) :
    LoopEvent → ClosedLoop
  | .iterate i early late => l.iterate host i early late
  | .serve random =>
      match l.controller.udp.sent[l.taken]? with
      | none => l
      | some payload =>
          take colorConverter random (received l.receiveData payload)
            { l with taken := l.taken + 1 }
  | .echo random beat =>
      match l.heartbeat.sent[beat]? with
      | none => l
      | some datagram =>
          take colorConverter random
            (UDPServerThread.receive l.receiveData datagram) l
  | .tick k i => onStation colorConverter (.server (.tick k i)) l
  | .run => onStation colorConverter .run l

/-- Nothing is on its way. -/
structure AtRest (l : ClosedLoop) : Prop where
  delivered : l.delivered = l.heartbeat.sent.length
  taken : l.taken = l.controller.udp.sent.length

/-- The stick is sampled in range, and the link is at rest when the buttons are
read. -/
def Prompt (l : ClosedLoop) : LoopEvent → Prop
  | .iterate i _ _ => SamplesStick i ∧ (i.debounceTick = true → l.AtRest)
  | _ => True

/-- Both parties reach their loops, and nothing has been sent. -/
structure Starts (dmx : DefaultDMX) (profiles : List FixtureProfile)
    (file : Option (List Char)) (l : ClosedLoop) : Prop where
  process : Process.Starts dmx profiles file l.process
  heartbeat : l.heartbeat = .new Mode.IDLE.toByte
  delivered : l.delivered = 0
  controller : l.controller = MainLoop.boot []
  taken : l.taken = 0

variable {colorConverter : XYConverter} {host : IpAddr} {l : ClosedLoop}
  {n : ℕ}

/-! ## Heartbeats that arrive -/

theorem arrivals_of_length_le {h : HeartBeatThread} {delivered : ℕ}
    (hle : h.sent.length ≤ delivered) (n : ℕ) :
    arrivals host h delivered n = [] := by
  unfold arrivals
  rw [List.drop_eq_nil_of_le hle, List.take_nil]
  rfl

theorem arrivals_succ {h : HeartBeatThread} {delivered : ℕ}
    (hlt : delivered < h.sent.length) (n : ℕ) :
    arrivals host h delivered (n + 1) =
      (host, Station.onWire h.sent[delivered]) ::
        arrivals host h (delivered + 1) n := by
  unfold arrivals
  rw [List.drop_eq_getElem_cons hlt, List.take_succ_cons]
  rfl

/-- A heartbeat restarts nothing. -/
theorem not_restarts_heartbeat {h : HeartBeatThread} (hprepared : Prepared h)
    {payload : List Int8} (hmem : payload ∈ h.sent) :
    ¬ MainLoop.Restarts (Station.onWire payload) := by
  rintro ⟨-, hcommand, -⟩
  obtain ⟨hlength, htype⟩ := hprepared.type_of_mem hmem
  have hbyte : byteAt (Station.onWire payload) 8 =
      (payload.getD 8 0).toUInt8 := List.getD_map ..
  rw [hbyte] at hcommand
  rcases htype with heq | heq
  · rw [heq] at hcommand
    exact absurd hcommand (by decide)
  · rw [heq] at hcommand
    exact absurd hcommand (by decide)

/-- The station does not interpret its own heartbeats. -/
theorem not_interprets_heartbeat {h : HeartBeatThread}
    (hprepared : Prepared h) {payload : List Int8} (hmem : payload ∈ h.sent)
    (stale : Buffer) :
    ¬ Interprets (.new (UDPServerThread.receive stale payload)) := by
  obtain ⟨hlength, htype⟩ := hprepared.type_of_mem hmem
  have hother : payload.getD 8 0 ≠ Connection.DATA_PACKET_ID := by
    rcases htype with heq | heq
    · rw [heq]
      decide
    · rw [heq]
      decide
  exact (reading_of_other (by rw [hlength]; decide) hother).2

theorem recieve_heartbeat {h : HeartBeatThread} (hprepared : Prepared h)
    {payload : List Int8} (hmem : payload ∈ h.sent) (m : MainLoop)
    (addr : IpAddr) :
    m.recieve (addr, Station.onWire payload) =
      { m with udp := udpRecieve addr (Station.onWire payload) m.udp } :=
  if_neg (not_restarts_heartbeat hprepared hmem)

/-- Before a complete packet has been sent, nothing arrives that the controller
notices. -/
theorem recieveAll_arrivals {h : HeartBeatThread} (hprepared : Prepared h)
    (hpolled : ¬ h.Polled) (delivered n : ℕ) (m : MainLoop) :
    MainLoop.recieveAll (arrivals host h delivered n) m = m := by
  have hblank : ∀ payload ∈ h.sent, Blank payload := fun payload hmem =>
    (hprepared.sent payload hmem).resolve_right fun ⟨_, mode, heq⟩ =>
      hpolled ⟨mode, heq ▸ hmem⟩
  have hmem : ∀ payload ∈ (h.sent.drop delivered).take n,
      payload ∈ h.sent :=
    fun _ hmem => List.mem_of_mem_drop (List.mem_of_mem_take hmem)
  unfold arrivals
  generalize (h.sent.drop delivered).take n = payloads at hmem
  induction payloads with
  | nil => rfl
  | cons payload rest ih =>
      have hfirst := hmem payload (List.mem_cons_self ..)
      have hsame : m.recieve (host, Station.onWire payload) = m := by
        rw [recieve_heartbeat hprepared hfirst,
          Station.udpRecieve_of_blank (hblank payload hfirst)]
      show MainLoop.recieveAll _ (m.recieve (host, _)) = m
      rw [hsame]
      exact ih fun p hp => hmem p (List.mem_cons_of_mem _ hp)

/-- The station keeps in step while heartbeats arrive. -/
theorem inStep_arrivals {process : Process} {heartbeat : HeartBeatThread}
    {delivered : ℕ} {m : MainLoop}
    (h : Station.InStep ⟨process, heartbeat, delivered, m.udp⟩) (n : ℕ) :
    Station.InStep ⟨process, heartbeat,
      delivered + (arrivals host heartbeat delivered n).length,
      (MainLoop.recieveAll (arrivals host heartbeat delivered n) m).udp⟩ := by
  induction n generalizing delivered m with
  | zero => exact h
  | succ n ih =>
      by_cases hlt : delivered < heartbeat.sent.length
      · have hnext := @Station.InStep.deliver (fun _ _ => Color.WHITE) _ h host
        have hmem : heartbeat.sent[delivered] ∈ heartbeat.sent :=
          List.getElem_mem hlt
        have hstep : Station.step (fun _ _ => Color.WHITE)
            ⟨process, heartbeat, delivered, m.udp⟩ (.deliver host) =
            ⟨process, heartbeat, delivered + 1,
              (m.recieve (host, Station.onWire
                heartbeat.sent[delivered])).udp⟩ := by
          unfold Station.step
          dsimp only
          rw [List.getElem?_eq_getElem hlt,
            recieve_heartbeat h.prepared hmem]
        rw [hstep] at hnext
        rw [arrivals_succ hlt, List.length_cons, ← Nat.add_assoc,
          Nat.add_right_comm]
        exact ih hnext
      · rw [arrivals_of_length_le (Nat.le_of_not_lt hlt)]
        exact h

/-! ## What an iteration leaves alone -/

/-- Only the mode of the controller counts. -/
theorem inStep_of_mode {process : Process} {heartbeat : HeartBeatThread}
    {delivered : ℕ} {c c' : UdpController}
    (h : Station.InStep ⟨process, heartbeat, delivered, c⟩)
    (hmode : c'.MODE = c.MODE) :
    Station.InStep ⟨process, heartbeat, delivered, c'⟩ :=
  ⟨h.holds, h.prepared, h.current, h.delivered_le, fun mode hlast =>
    hmode.trans (h.mode_eq mode hlast)⟩

theorem station_iterate (i : MainLoop.Input) (early late : ℕ)
    (h : Station.InStep l.station) :
    Station.InStep (l.iterate host i early late).station := by
  unfold iterate
  dsimp only
  generalize hfirst : arrivals host l.heartbeat l.delivered early = first
  generalize hsecond : arrivals host l.heartbeat (l.delivered + first.length)
    late = second
  generalize hinput : ({ i with recieved := first, late := second } :
    MainLoop.Input) = input
  have hearly := @inStep_arrivals host _ _ _ l.controller h early
  rw [hfirst] at hearly
  have hswitch : Station.InStep ⟨l.process, l.heartbeat,
      l.delivered + first.length,
      (MainLoop.switchMode input (l.controller.atSwitch input)).2.udp⟩ := by
    refine inStep_of_mode hearly ?_
    rw [(MainLoop.fields_switchMode _ _).1, MainLoop.atSwitch,
      MainLoop.udp_debounce, ← hinput]
  have hlate := @inStep_arrivals host _ _ _ _ hswitch late
  rw [hsecond] at hlate
  unfold station MainLoop.iterate
  dsimp only
  rw [show input.late = second from hinput ▸ rfl]
  split_ifs
  · exact hlate
  · exact inStep_of_mode hlate (MainLoop.fields_sendUserAction _).1

/-- Without a destination nothing is sent. -/
theorem sendDataPacket_of_none {c : UdpController} (hdest : c.DEST_IP = none)
    (dataType userData : UInt8) (otherData : ℕ → Int32) :
    sendDataPacket dataType userData otherData c = c := by
  unfold sendDataPacket
  rw [hdest]

theorem udp_switchMode_of_none {m : MainLoop} (i : MainLoop.Input)
    (hdest : m.udp.DEST_IP = none) :
    (MainLoop.switchMode i m).2.udp = m.udp := by
  unfold MainLoop.switchMode MainLoop.sendJoystick MainLoop.sendGyro
  split_ifs
  · unfold MainLoop.idle
    dsimp only
    split_ifs <;> rfl
  all_goals first
    | exact sendDataPacket_of_none hdest _ _ _
    | rfl

theorem udp_sendUserAction_of_none {m : MainLoop}
    (hdest : m.udp.DEST_IP = none) :
    (MainLoop.sendUserAction m).udp = m.udp := by
  unfold MainLoop.sendUserAction
  by_cases hsome : m.directionEvent ≠ 0 ∨ m.buttonEvent ≠ 0
  · rw [if_pos hsome]
    exact sendDataPacket_of_none hdest _ _ _
  · rw [if_neg hsome]

theorem udp_iterate_of_none {m : MainLoop} {i : MainLoop.Input}
    (hdest : m.udp.DEST_IP = none)
    (hearly : MainLoop.recieveAll i.recieved m = m)
    (hlate : ∀ m', MainLoop.recieveAll i.late m' = m') :
    (m.iterate i).udp = m.udp := by
  have hat : (m.atSwitch i).udp = m.udp := by
    rw [MainLoop.atSwitch, MainLoop.udp_debounce, hearly]
  have hswitch : (MainLoop.switchMode i (m.atSwitch i)).2.udp = m.udp :=
    (udp_switchMode_of_none i (hat ▸ hdest)).trans hat
  unfold MainLoop.iterate
  dsimp only
  rw [hlate]
  split_ifs
  · exact hswitch
  · exact (udp_sendUserAction_of_none (hswitch ▸ hdest)).trans hswitch

/-- The controller sends nothing before it has received a complete packet. -/
theorem known_iterate (i : MainLoop.Input) (early late : ℕ)
    (hprepared : Prepared l.heartbeat) (hpolled : ¬ l.heartbeat.Polled)
    (hknown : l.controller.udp.DEST_IP = none) :
    (l.iterate host i early late).controller.udp = l.controller.udp :=
  udp_iterate_of_none hknown (recieveAll_arrivals hprepared hpolled _ _ _)
    (recieveAll_arrivals hprepared hpolled _ _)

/-! ## The server -/

/-- The server of a show of `n` lights is safe from what the controller
sends. -/
structure Guarded (n : ℕ) (p : Process) : Prop where
  safe : Safe True p
  lawful : While (Lawful False n) p
  playable : While StoresPlayable p

theorem Guarded.step_of_fromController {p : Process} {e : Event}
    (h : Guarded n p) (hfrom : FromController p e) :
    Guarded n (Process.step colorConverter p e) := by
  have hsparing : Sparing True p e := by
    have hspares := hfrom.sparing h.lawful
    cases e with
    | tick k i => trivial
    | packet random receiveData =>
        exact fun hended hinterprets =>
          ⟨(hspares hended hinterprets).strands, fun _ =>
            (h.playable hended).not_recallsNoByte _⟩
  exact ⟨safe_step h.safe hsparing, while_lawful_step h.lawful hfrom.heeds,
    while_storesPlayable_step h.safe.valid h.playable⟩

/-- A main thread that has ended ignores the packet. -/
theorem step_packet_of_ended {p : Process} {random : ℕ → Color}
    {receiveData : Buffer} (h : p.ended ≠ none) :
    Process.step colorConverter p (.packet random receiveData) = p :=
  if_pos (Option.isSome_iff_ne_none.mpr h)

theorem Guarded.packet {p : Process} {random : ℕ → Color}
    {receiveData : Buffer} (h : Guarded n p)
    (hfrom : p.ended = none →
      FromController p (.packet random receiveData)) :
    Guarded n
      (Process.step colorConverter p (.packet random receiveData)) := by
  by_cases hended : p.ended = none
  · exact h.step_of_fromController (hfrom hended)
  · rw [step_packet_of_ended hended]
    exact h

/-- A worker does not change the mode. -/
theorem currentState_tick {p : Process} {k : WorkerField} {i : ℕ}
    (h : (Process.step colorConverter p (.tick k i)).ended = none) :
    (Process.step colorConverter p (.tick k i)).server.currentState =
      p.server.currentState := by
  obtain ⟨-, hrun⟩ := Process.run_of_ended_eq_none h
  exact (((steady_silent p.server.currentState
    p.server.heartbeats).working.ticks.tick k i).of_ok ⟨rfl, rfl⟩ hrun).1

/-- A packet that is not interpreted does nothing. -/
theorem step_of_not_interprets {p : Process} {random : ℕ → Color}
    {receiveData : Buffer} (h : ¬ Interprets (.new receiveData)) :
    Process.step colorConverter p (.packet random receiveData) = p := by
  by_cases hignores : p.ignores (.packet random receiveData) = true
  · exact if_pos hignores
  · have hrun : Process.run colorConverter (.packet random receiveData)
        p.server = .ok ⟨⟩ p.server := by
      show processCommand colorConverter random (.new receiveData)
        p.server = _
      rw [processCommand_of_not_interprets h]
      rfl
    exact step_of_ok ((Bool.not_eq_true _).mp hignores) hrun

/-! ## The invariant -/

/-- What ties the two parties.  A party command is the first datagram that is
in flight, and the server is idle as long as it is. -/
structure Tied (n : ℕ) (l : ClosedLoop) : Prop where
  idle : MainLoop.Idle l.controller
  inStep : Station.WhileInStep l.station
  prepared : Prepared l.heartbeat
  known : ¬ l.heartbeat.Polled →
    l.controller.udp.DEST_IP = none ∧ l.controller.udp.sent = []
  taken_le : l.taken ≤ l.controller.udp.sent.length
  onStick : ∀ d ∈ l.inFlight, StaysOnStick d
  head : ∀ d, l.inFlight.head? = some d → NoParty d ∨
    While (fun s => s.currentState = .IDLE) l.process
  tail : ∀ d ∈ l.inFlight.tail, NoParty d
  guarded : Guarded n l.process

theorem fromController_of_staysOnStick {payload : List UInt8}
    {stale : Buffer} {p : Process} (hstick : StaysOnStick payload)
    (hparty : NoParty payload ∨ p.server.currentState = .IDLE)
    (random : ℕ → Color) :
    FromController p (.packet random (received stale payload)) := by
  refine fun hinterprets => ⟨hstick stale, fun hkonami => ?_⟩
  rcases hparty with hno | hidle
  · exact absurd hkonami (hno stale hinterprets)
  · exact hidle

/-- The server is in the mode of a controller that has a destination, when
nothing is on its way. -/
theorem Tied.currentState_eq (h : Tied n l) (hrest : l.AtRest)
    (hdest : l.controller.udp.DEST_IP ≠ none)
    (hended : l.process.ended = none) :
    l.controller.udp.MODE =
      l.process.server.currentState.toByte.toUInt8 := by
  have hin := h.inStep hended
  have hpolled : l.heartbeat.Polled := by
    by_contra hno
    exact hdest (h.known hno).1
  have hlast := (hin.announced hpolled).2.1
  apply hin.mode_eq
  show (l.heartbeat.sent.take l.delivered).getLast? = _
  rw [hrest.delivered, List.take_length]
  exact hlast

theorem toByte_injective {mode mode' : Mode}
    (h : mode.toByte.toUInt8 = mode'.toByte.toUInt8) : mode = mode' := by
  cases mode <;> cases mode' <;> first | rfl | exact absurd h (by decide)

/-- The controller sends something: tame payloads, or on an empty link one
payload for an idle server. -/
theorem Tied.send (h : Tied n l) {m : MainLoop} {delivered : ℕ}
    (hidle : MainLoop.Idle m)
    (hinStep : Station.WhileInStep ⟨l.process, l.heartbeat, delivered, m.udp⟩)
    (hknown : ¬ l.heartbeat.Polled →
      m.udp.DEST_IP = none ∧ m.udp.sent = [])
    {new : List (List UInt8)}
    (hsent : m.udp.sent = l.controller.udp.sent ++ new)
    (hnew : (∀ d ∈ new, Tame d) ∨ l.inFlight = [] ∧
      ∃ payload, new = [payload] ∧ StaysOnStick payload ∧
        While (fun s => s.currentState = .IDLE) l.process) :
    Tied n { l with delivered := delivered, controller := m } := by
  have hflight : inFlight { l with delivered := delivered, controller := m } =
      l.inFlight ++ new := by
    unfold inFlight
    dsimp only
    rw [hsent, List.drop_append_of_le_length h.taken_le]
  refine ⟨hidle, hinStep, h.prepared, hknown, ?_, ?_, ?_, ?_, h.guarded⟩
  · show l.taken ≤ m.udp.sent.length
    rw [hsent, List.length_append]
    exact Nat.le_add_right_of_le h.taken_le
  · rw [hflight]
    intro d hd
    rcases List.mem_append.mp hd with hold | hadded
    · exact h.onStick d hold
    · rcases hnew with htame | ⟨-, payload, rfl, hpayload, -⟩
      · exact (htame d hadded).1
      · exact List.mem_singleton.mp hadded ▸ hpayload
  · rw [hflight]
    intro d hd
    rcases hnew with htame | ⟨-, payload, -, -, hmode⟩
    · cases hold : l.inFlight with
      | nil =>
          rw [hold, List.nil_append] at hd
          exact .inl (htame d (List.mem_of_head? hd)).2
      | cons first rest =>
          rw [hold, List.cons_append, List.head?_cons] at hd
          exact h.head d (by rw [hold, List.head?_cons, hd])
    · exact .inr hmode
  · rw [hflight]
    intro d hd
    rcases hnew with htame | ⟨hempty, payload, rfl, -, -⟩
    · cases hold : l.inFlight with
      | nil =>
          rw [hold, List.nil_append] at hd
          exact (htame d (List.mem_of_mem_tail hd)).2
      | cons first rest =>
          rw [hold, List.cons_append, List.tail_cons] at hd
          rcases List.mem_append.mp hd with hlater | hadded
          · exact h.tail d (by rw [hold]; exact hlater)
          · exact (htame d hadded).2
    · rw [hempty] at hd
      exact absurd hd List.not_mem_nil

/-- An iteration of the controller. -/
theorem Tied.iterate (h : Tied n l) {i : MainLoop.Input} {early late : ℕ}
    (hstick : SamplesStick i) (hrest : i.debounceTick = true → l.AtRest) :
    Tied n (l.iterate host i early late) := by
  have hinStep : Station.WhileInStep (l.iterate host i early late).station :=
    fun hended => station_iterate i early late (h.inStep hended)
  have hknown : ¬ l.heartbeat.Polled →
      (l.iterate host i early late).controller.udp.DEST_IP = none ∧
        (l.iterate host i early late).controller.udp.sent = [] := by
    intro hno
    rw [known_iterate i early late h.prepared hno (h.known hno).1]
    exact h.known hno
  unfold ClosedLoop.iterate at hinStep hknown ⊢
  dsimp only at hinStep hknown ⊢
  generalize hfirst : arrivals host l.heartbeat l.delivered early = first
    at hinStep hknown ⊢
  generalize hsecond : arrivals host l.heartbeat (l.delivered + first.length)
    late = second at hinStep hknown ⊢
  generalize hinput : ({ i with recieved := first, late := second } :
    MainLoop.Input) = input at hinStep hknown ⊢
  have hidle := MainLoop.idle_iterate h.idle input
  by_cases hparty : CallsParty l.controller input
  · have htick : i.debounceTick = true := by
      by_contra hno
      have hoff : input.debounceTick = false := by
        rw [← hinput]
        exact (Bool.not_eq_true _).mp hno
      exact not_callsParty_of_no_tick h.idle input hoff hparty
    have hat := hrest htick
    have hnone : ∀ k m, arrivals host l.heartbeat (l.delivered + k) m = [] :=
      fun k m => arrivals_of_length_le (by rw [hat.delivered]; omega) m
    have hrecieved : input.recieved = [] := by
      rw [← hinput]
      exact hfirst.symm.trans (hnone 0 early)
    have hlate : input.late = [] := by
      rw [← hinput]
      exact hsecond.symm.trans (hnone _ late)
    obtain ⟨hmode, new, hsent, hdest, hnew⟩ :=
      sent_of_callsParty h.idle hrecieved hlate hparty
    refine h.send hidle hinStep hknown hsent ?_
    rcases hnew with rfl | ⟨payload, rfl, hpayload⟩
    · exact .inl nofun
    · have hempty : l.inFlight = [] :=
        List.drop_eq_nil_of_le (Nat.le_of_eq hat.taken.symm)
      refine .inr ⟨hempty, payload, rfl, hpayload, fun hended =>
        toByte_injective ?_⟩
      have hknows : l.controller.udp.DEST_IP ≠ none := fun hno =>
        absurd (hdest hno) (List.cons_ne_nil _ _)
      rw [← h.currentState_eq hat hknows hended, hmode]
      rfl
  · have hsamples : SamplesStick input := by
      rw [← hinput]
      exact hstick
    obtain ⟨new, hsent, htame⟩ := sends_iterate h.idle hsamples hparty
    exact h.send hidle hinStep hknown hsent (.inl htame)

theorem station_onStation {e : StationEvent}
    (hudp : (Station.step colorConverter l.station e).controller =
      l.controller.udp)
    (hdelivered : (Station.step colorConverter l.station e).delivered =
      l.delivered) :
    (l.onStation colorConverter e).station =
      Station.step colorConverter l.station e := by
  show (⟨_, _, l.delivered, l.controller.udp⟩ : Station) = _
  rw [← hdelivered, ← hudp]
  rfl

/-- A step of the base station that takes nothing from the controller. -/
theorem Tied.onStation (h : Tied n l) {e : StationEvent}
    (hguarded : Guarded n (Station.step colorConverter l.station e).process)
    (hmode : (∀ d, l.inFlight.head? = some d → NoParty d) ∨
      ((Station.step colorConverter l.station e).process.ended = none →
        l.process.ended = none ∧
          (Station.step colorConverter l.station
            e).process.server.currentState = l.process.server.currentState))
    (hudp : (Station.step colorConverter l.station e).controller =
      l.controller.udp)
    (hdelivered : (Station.step colorConverter l.station e).delivered =
      l.delivered) :
    Tied n (l.onStation colorConverter e) := by
  refine ⟨h.idle, ?_, Station.prepared_step h.prepared e, fun hno => ?_,
    h.taken_le, h.onStick, fun d hd => ?_, h.tail, hguarded⟩
  · rw [station_onStation hudp hdelivered]
    exact Station.whileInStep_step h.inStep e
  · exact h.known fun hpolled =>
      hno (Station.polled_step h.prepared hpolled e)
  · rcases hmode with hno | hsame
    · exact .inl (hno d hd)
    · rcases h.head d hd with hno | hidle
      · exact .inl hno
      · refine .inr fun hended => ?_
        obtain ⟨hbefore, hmode⟩ := hsame hended
        exact hmode.trans (hidle hbefore)

/-- The server takes a command.  The heartbeat that it asks for does not
fail. -/
theorem Tied.take (h : Tied n l) {random : ℕ → Color} {receiveData : Buffer}
    (hserve : (Station.serve colorConverter (.packet random receiveData)
      l.process l.heartbeat).1 =
        Process.step colorConverter l.process (.packet random receiveData))
    (hfrom : l.process.ended = none →
      FromController l.process (.packet random receiveData))
    (hmode : (∀ d, l.inFlight.head? = some d → NoParty d) ∨
      Process.step colorConverter l.process (.packet random receiveData) =
        l.process) :
    Tied n (l.take colorConverter random receiveData) := by
  have hbuffer : Tied n { l with receiveData := receiveData } :=
    ⟨h.idle, h.inStep, h.prepared, h.known, h.taken_le, h.onStick, h.head,
      h.tail, h.guarded⟩
  have hprocess : (Station.step colorConverter l.station
      (.server (.packet random receiveData))).process =
      Process.step colorConverter l.process (.packet random receiveData) :=
    hserve
  refine hbuffer.onStation (hprocess ▸ h.guarded.packet hfrom)
    (hmode.imp_right fun hsame hended => ?_) rfl rfl
  have hend := hprocess.trans hsame
  refine ⟨?_, congrArg (fun p => p.server.currentState) hend⟩
  rw [← hend]
  exact hended

/-- The next datagram that is in flight is one that the controller may send. -/
theorem Tied.fromController (h : Tied n l) {payload : List UInt8}
    (hnext : l.controller.udp.sent[l.taken]? = some payload)
    (hended : l.process.ended = none) (random : ℕ → Color)
    (stale : Buffer) :
    FromController l.process (.packet random (received stale payload)) := by
  obtain ⟨hlt, hget⟩ := List.getElem?_eq_some_iff.mp hnext
  have hflight : l.inFlight =
      payload :: l.controller.udp.sent.drop (l.taken + 1) := by
    unfold inFlight
    rw [List.drop_eq_getElem_cons hlt, hget]
  have hstick := h.onStick payload (by
    rw [hflight]
    exact List.mem_cons_self ..)
  have hhead := h.head payload (by rw [hflight, List.head?_cons])
  exact fromController_of_staysOnStick hstick
    (hhead.imp_right fun hidle => hidle hended) random

/-- The next datagram is taken. -/
theorem Tied.pop (h : Tied n l)
    (hlt : l.taken < l.controller.udp.sent.length) :
    Tied n { l with taken := l.taken + 1 } := by
  have hflight : inFlight { l with taken := l.taken + 1 } =
      l.inFlight.tail := by
    unfold inFlight
    rw [List.tail_drop]
  refine ⟨h.idle, h.inStep, h.prepared, h.known, hlt, ?_, ?_, ?_, h.guarded⟩
  · rw [hflight]
    exact fun d hd => h.onStick d (List.mem_of_mem_tail hd)
  · rw [hflight]
    exact fun d hd => .inl (h.tail d (List.mem_of_head? hd))
  · rw [hflight]
    exact fun d hd => h.tail d (List.mem_of_mem_tail hd)

theorem Tied.serve (h : Tied n l) (random : ℕ → Color) :
    Tied n (l.step colorConverter host (.serve random)) := by
  unfold ClosedLoop.step
  dsimp only
  cases hnext : l.controller.udp.sent[l.taken]? with
  | none => exact h
  | some payload =>
      have hpop := h.pop (List.getElem?_eq_some_iff.mp hnext).1
      have hpolled : l.heartbeat.Polled := by
        by_contra hno
        rw [(h.known hno).2] at hnext
        cases hnext
      refine hpop.take
        (Station.serve_of_ready h.prepared (h.prepared.ready hpolled))
        (fun hended => h.fromController hnext hended random _)
        (.inl fun d hd => ?_)
      rcases hpop.head d hd with hno | -
      · exact hno
      · refine h.tail d ?_
        have hmem := List.mem_of_head? hd
        unfold inFlight at hmem ⊢
        rw [List.tail_drop]
        exact hmem

theorem Tied.echo (h : Tied n l) (random : ℕ → Color) (beat : ℕ) :
    Tied n (l.step colorConverter host (.echo random beat)) := by
  unfold ClosedLoop.step
  dsimp only
  cases hnext : l.heartbeat.sent[beat]? with
  | none => exact h
  | some datagram =>
      have hother := not_interprets_heartbeat h.prepared
        (List.mem_of_getElem? hnext) l.receiveData
      have hsame : Process.step colorConverter l.process (.packet random
          (UDPServerThread.receive l.receiveData datagram)) = l.process :=
        step_of_not_interprets hother
      have hdue : Station.due (Process.step colorConverter l.process
          (.packet random (UDPServerThread.receive l.receiveData
            datagram))).server l.process.server.heartbeats = none := by
        unfold Station.due
        rw [hsame, List.drop_length]
        rfl
      exact h.take (congrArg Prod.fst (Station.serve_of_none hdue))
        (fun _ hinterprets => absurd hinterprets hother) (.inr hsame)

theorem Tied.tick (h : Tied n l) (k : WorkerField) (i : ℕ) :
    Tied n (l.step colorConverter host (.tick k i)) := by
  have hprocess : (Station.step colorConverter l.station
      (.server (.tick k i))).process =
      Process.step colorConverter l.process (.tick k i) :=
    congrArg Prod.fst (Station.serve_of_none (Station.due_tick k i))
  refine h.onStation (hprocess ▸ h.guarded.step_of_fromController trivial)
    (.inr fun hended => ?_) rfl rfl
  rw [hprocess] at hended ⊢
  exact ⟨(run_of_ended_eq_none hended).1, currentState_tick hended⟩

theorem Tied.step (h : Tied n l) {e : LoopEvent} (hprompt : Prompt l e) :
    Tied n (l.step colorConverter host e) := by
  cases e with
  | iterate i early late => exact h.iterate hprompt.1 hprompt.2
  | serve random => exact h.serve random
  | echo random beat => exact h.echo random beat
  | tick k i => exact h.tick k i
  | run =>
      exact h.onStation h.guarded (.inr fun hended => ⟨hended, rfl⟩) rfl rfl

/-! ## Runs -/

variable {dmx : DefaultDMX} {profiles : List FixtureProfile}
  {file : Option (List Char)} {events : List LoopEvent}

theorem tied_of_starts (hstart : Starts dmx profiles file l)
    (hstaged : Staged dmx profiles)
    (hnone : ∀ f ∈ profiles, f.isSelected = false)
    (hplayable : StoresPlayable l.process.server) :
    Tied profiles.length l := by
  have hstation : Station.Starts dmx profiles file l.station :=
    ⟨hstart.process, hstart.heartbeat, hstart.delivered, by
      show l.controller.udp = _
      rw [hstart.controller]
      rfl⟩
  have hflight : l.inFlight = [] := by
    unfold inFlight
    rw [hstart.controller]
    exact List.drop_nil
  refine ⟨?_, fun _ => Station.inStep_of_starts hstation, ?_, ?_, ?_, ?_, ?_,
    ?_, safe_of_starts hstart.process hstaged, fun _ =>
      lawful_of_starts hstart.process hstaged.lights hnone, fun _ =>
      hplayable⟩
  · rw [hstart.controller]
    exact MainLoop.idle_boot []
  · rw [hstart.heartbeat]
    exact prepared_new _
  · rw [hstart.controller]
    exact fun _ => ⟨rfl, rfl⟩
  · rw [hstart.taken]
    exact Nat.zero_le _
  all_goals
    rw [hflight]
    exact nofun

/-- The runs of a show in which the link is at rest whenever the buttons are
read. -/
theorem tied_of_prompt (hstart : Starts dmx profiles file l)
    (hstaged : Staged dmx profiles)
    (hnone : ∀ f ∈ profiles, f.isSelected = false)
    (hplayable : StoresPlayable l.process.server)
    (hprompt : Runs.AllSteps (step colorConverter host) Prompt l events) :
    ∀ t ∈ Runs.states (step colorConverter host) l events,
      Tied profiles.length t :=
  Runs.invariant (fun _ _ h hok => h.step hok)
    (tied_of_starts hstart hstaged hnone hplayable) hprompt

/-- Every datagram that the server takes is one that it expects from the
controller: the party command finds it idle, and the coordinates are those of
the stick. -/
theorem fromController_of_prompt (hstart : Starts dmx profiles file l)
    (hstaged : Staged dmx profiles)
    (hnone : ∀ f ∈ profiles, f.isSelected = false)
    (hplayable : StoresPlayable l.process.server)
    (hprompt : Runs.AllSteps (step colorConverter host) Prompt l events) :
    ∀ t ∈ Runs.states (step colorConverter host) l events,
      t.process.ended = none → ∀ payload random,
        t.controller.udp.sent[t.taken]? = some payload →
          FromController t.process
            (.packet random (received t.receiveData payload)) := by
  intro t ht hended payload random hnext
  have htied := tied_of_prompt hstart hstaged hnone hplayable hprompt t ht
  exact htied.fromController hnext hended random _

/-- One light, and nothing on its way. -/
def oneLight : ClosedLoop where
  process := Process.oneLight none
  heartbeat := .new Mode.IDLE.toByte
  delivered := 0
  controller := MainLoop.boot []
  taken := 0
  receiveData := fun _ => 0

theorem starts_oneLight : Starts blackout [parLight] none oneLight :=
  ⟨Process.starts_oneLight, rfl, rfl, rfl, rfl⟩

theorem storesPlayable_oneLight : StoresPlayable oneLight.process.server := by
  have hscenes : oneLight.process.server.sceneManager.scenes = [] := rfl
  unfold StoresPlayable
  rw [hscenes]
  exact nofun

/-- The first heartbeat is sent and arrives, its answer is taken, and a button
is pressed. -/
def pressed : List LoopEvent :=
  [.run, .run, .run, .run, .run, .iterate { debounceTick := false } 1 0,
    .serve fun _ => .WHITE, .iterate { button := .b1 } 0 0]

theorem allSteps_pressed :
    Runs.AllSteps (step (fun _ _ => Color.WHITE) 0) Prompt oneLight
      pressed := by
  have hcentre : OnStick 0 := ⟨by decide, by decide⟩
  exact ⟨trivial, trivial, trivial, trivial, trivial,
    ⟨⟨hcentre, hcentre⟩, nofun⟩, trivial,
    ⟨⟨hcentre, hcentre⟩, fun _ => ⟨rfl, rfl⟩⟩, trivial⟩

theorem fromController_of_prompt_pressed :
    FromController (Process.oneLight none) (.packet (fun _ => .WHITE)
      (received (received (fun _ => 0)
          [74, 69, 16, 77, 75, 3, 67, 75, 30, 1, 215, 163, 48, 63, 105,
            0, 0, 0, 0, 0])
        [74, 69, 16, 77, 75, 3, 67, 75, 51, 1, 19, 2, 0, 0, 0, 0,
          0, 0, 0, 0, 0, 0, 0, 0])) := by
  have hmem := @Runs.foldl_mem_states _ _ (step (fun _ _ => Color.WHITE) 0)
    oneLight pressed
  exact fromController_of_prompt starts_oneLight staged_parLight (by decide)
    storesPlayable_oneLight allSteps_pressed _ hmem rfl _ _ rfl

/-- The controller cannot make the loop of the server fail: all cursors stay
valid, and no exception ever leaves the loop. -/
theorem not_thrown_of_prompt (hstart : Starts dmx profiles file l)
    (hstaged : Staged dmx profiles)
    (hnone : ∀ f ∈ profiles, f.isSelected = false)
    (hplayable : StoresPlayable l.process.server)
    (hprompt : Runs.AllSteps (step colorConverter host) Prompt l events) :
    ∀ t ∈ Runs.states (step colorConverter host) l events,
      (t.process.ended = none →
        CursorsValid profiles.length t.process.server) ∧
        ∀ e, t.process.ended ≠ some (.thrown e) := by
  intro t ht
  have hguarded :=
    (tied_of_prompt hstart hstaged hnone hplayable hprompt t ht).guarded
  refine ⟨fun hended => ?_, fun e hended => ?_⟩
  · exact cursorsValid_of_valid (hguarded.safe.valid hended)
      (hguarded.lawful hended).length_profiles
  · exact (hguarded.safe.excused _ hended ⟨e, rfl⟩).1 trivial

theorem not_thrown_of_prompt_pressed :
    ((pressed ++ [LoopEvent.serve fun _ => .WHITE]).foldl
      (step (fun _ _ => Color.WHITE) 0) oneLight).process.ended ≠
        some (.thrown .nullPointerException) := by
  have hsteps : Runs.AllSteps (step (fun _ _ => Color.WHITE) 0) Prompt
      oneLight (pressed ++ [LoopEvent.serve fun _ => .WHITE]) :=
    Runs.allSteps_concat allSteps_pressed trivial
  exact (not_thrown_of_prompt starts_oneLight staged_parLight (by decide)
    storesPlayable_oneLight hsteps _ Runs.foldl_mem_states).2 _

end ClosedLoop

end ChuckLight
