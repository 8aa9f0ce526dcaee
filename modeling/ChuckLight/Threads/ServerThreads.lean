import ChuckLight.Support.Runs
import ChuckLight.Threads.UDPServerThread

/-!
# The threads of the server

The listener, the heartbeat thread, the loop and the user interface share one
socket.  The listener moves datagrams from the socket to the queue of commands;
`stopServer` tells the listener and the heartbeat thread to end, waits for them
and closes the socket.  The state begins when the loop has started both
threads.

The loop takes commands from the front of the queue, which has no limit, and
may ask for a heartbeat at any time.  An interrupt does not wake a thread that
waits in `receive`.  A sleep of the heartbeat thread ends at some time,
interrupted or not, so its interrupt has no further effect.  The assignments at
the beginning of its method `run` are one step: what a packet holds does not
matter here, and a loop that fails for want of one asks for nothing more.
-/

namespace ChuckLight

/-! ## Program points -/

/-- Where the listener is in its method `run`. -/
inductive ListenPoint where
  | start
  | whileTest
  | receive
  | isInterrupted
  | put
  | ended
  deriving DecidableEq

/-- Where the heartbeat thread is in its method `run`. -/
inductive BeatPoint where
  | start
  | whileTest
  | sendHeartbeat
  /-- `server.send`, in the monitor of the thread object -/
  | send
  | sleep
  | ended
  deriving DecidableEq

/-- The next statement of `stopServer`. -/
inductive StopPoint where
  | redrumListen
  | interruptListen
  | joinListen
  | redrumBeat
  | interruptBeat
  | joinBeat
  | close
  | returned
  deriving DecidableEq

structure ServerThreads where
  /-- Every datagram that the socket has accepted. -/
  arrived : List (List Int8) := []
  /-- The datagrams that nobody has received yet. -/
  socket : List (List Int8) := []
  closed : Bool := false
  receiveData : Buffer := fun _ => 0
  /-- Every command that has been put into the queue. -/
  commandQ : List WirelessCommand := []
  listen : ListenPoint := .start
  listenRunning : Bool := false
  listenInterrupted : Bool := false
  beat : BeatPoint := .start
  beatRunning : Bool := false
  /-- The loop is in `server.send`, in the monitor of the heartbeat thread. -/
  sending : Bool := false
  stop : StopPoint := .redrumListen
  exited : Bool := false

inductive ThreadEvent where
  | arrive (datagram : List Int8)
  | listen
  | beat
  | loop
  | stop

namespace ServerThreads

open UDPServerThread

def arrive (datagram : List Int8) (t : ServerThreads) : ServerThreads :=
  if t.closed then t
  else
    { t with
      arrived := t.arrived ++ [datagram]
      socket := t.socket ++ [datagram] }

/-- `UDPServerThread.run` -/
def listenStep (t : ServerThreads) : ServerThreads :=
  match t.listen with
  | .start => { t with listenRunning := true, listen := .whileTest }
  | .whileTest =>
      { t with listen := if t.listenRunning then .receive else .ended }
  | .receive =>
      if t.closed then { t with exited := true }
      else
        match t.socket with
        | [] => t
        | datagram :: rest =>
            { t with
              socket := rest
              receiveData := UDPServerThread.receive t.receiveData datagram
              listen := .isInterrupted }
  | .isInterrupted =>
      { t with listen := if t.listenInterrupted then .whileTest else .put }
  | .put =>
      if t.listenInterrupted then { t with exited := true }
      else
        { t with
          commandQ := t.commandQ ++ [.new t.receiveData]
          listen := .whileTest }
  | .ended => t

/-- `HeartBeatThread.run` -/
def beatStep (t : ServerThreads) : ServerThreads :=
  match t.beat with
  | .start => { t with beatRunning := true, beat := .whileTest }
  | .whileTest =>
      { t with beat := if t.beatRunning then .sendHeartbeat else .ended }
  | .sendHeartbeat =>
      if t.sending then t
      else { t with beat := if t.beatRunning then .send else .sleep }
  | .send =>
      if t.closed then { t with exited := true } else { t with beat := .sleep }
  | .sleep => { t with beat := .whileTest }
  | .ended => t

/-- The loop calls `heartbeat.sendHeartbeat`, or returns from it. -/
def loopStep (t : ServerThreads) : ServerThreads :=
  if t.sending then
    if t.closed then { t with exited := true } else { t with sending := false }
  else if t.beatRunning ∧ t.beat ≠ .send then { t with sending := true }
  else t

/-- `ServerAppThread.stopServer`, from the statement for the listener on -/
def stopStep (t : ServerThreads) : ServerThreads :=
  match t.stop with
  | .redrumListen => { t with listenRunning := false, stop := .interruptListen }
  | .interruptListen =>
      { t with listenInterrupted := true, stop := .joinListen }
  | .joinListen =>
      if t.listen = .ended then { t with stop := .redrumBeat } else t
  | .redrumBeat => { t with beatRunning := false, stop := .interruptBeat }
  | .interruptBeat => { t with stop := .joinBeat }
  | .joinBeat => if t.beat = .ended then { t with stop := .close } else t
  | .close => { t with closed := true, stop := .returned }
  | .returned => t

/-- An input or output error, or an interrupt of `put`, exits the program. -/
def step (t : ServerThreads) (e : ThreadEvent) : ServerThreads :=
  if t.exited then t
  else
    match e with
    | .arrive datagram => t.arrive datagram
    | .listen => t.listenStep
    | .beat => t.beatStep
    | .loop => t.loopStep
    | .stop => t.stopStep

/-- The commands for a sequence of datagrams. -/
def commands (datagrams : List (List Int8)) : List WirelessCommand :=
  (datagrams.scanl UDPServerThread.receive fun _ => 0).tail.map .new

/-- The loop has started both threads. -/
def started : ServerThreads := {}

variable {t t' : ServerThreads} {e : ThreadEvent} {events : List ThreadEvent}
  {received : List (List Int8)}

/-! ## The steps of the threads -/

/-- What a step of the listener can do. -/
inductive Listens (t : ServerThreads) : ServerThreads → Prop
  | begins (hat : t.listen = .start) :
      Listens t { t with listenRunning := true, listen := .whileTest }
  | goesOn (hat : t.listen = .whileTest) (hrunning : t.listenRunning = true) :
      Listens t { t with listen := .receive }
  | ends (hat : t.listen = .whileTest) (hrunning : t.listenRunning = false) :
      Listens t { t with listen := .ended }
  | fails (hat : t.listen = .receive) : Listens t { t with exited := true }
  | waits (hat : t.listen = .receive) (hsocket : t.socket = []) : Listens t t
  | receives {datagram : List Int8} {rest : List (List Int8)}
      (hat : t.listen = .receive) (hsocket : t.socket = datagram :: rest) :
      Listens t { t with
        socket := rest
        receiveData := UDPServerThread.receive t.receiveData datagram
        listen := .isInterrupted }
  | drops (hat : t.listen = .isInterrupted)
      (hinterrupted : t.listenInterrupted = true) :
      Listens t { t with listen := .whileTest }
  | keeps (hat : t.listen = .isInterrupted) :
      Listens t { t with listen := .put }
  | breaks (hat : t.listen = .put) : Listens t { t with exited := true }
  | puts (hat : t.listen = .put) :
      Listens t { t with
        commandQ := t.commandQ ++ [.new t.receiveData]
        listen := .whileTest }
  | rests (hat : t.listen = .ended) : Listens t t

theorem listens_listenStep (t : ServerThreads) : Listens t t.listenStep := by
  unfold listenStep
  split
  case h_1 hat => exact .begins hat
  case h_2 hat =>
      split_ifs with hrunning
      · exact .goesOn hat hrunning
      · exact .ends hat (Bool.eq_false_of_not_eq_true hrunning)
  case h_3 hat =>
      split_ifs
      · exact .fails hat
      · split
        case h_1 hsocket => exact .waits hat hsocket
        case h_2 hsocket => exact .receives hat hsocket
  case h_4 hat =>
      split_ifs with hinterrupted
      · exact .drops hat hinterrupted
      · exact .keeps hat
  case h_5 hat =>
      split_ifs
      · exact .breaks hat
      · exact .puts hat
  case h_6 hat => exact .rests hat

/-- What a step of the heartbeat thread can do. -/
inductive Beats (t : ServerThreads) : ServerThreads → Prop
  | begins (hat : t.beat = .start) :
      Beats t { t with beatRunning := true, beat := .whileTest }
  | goesOn (hat : t.beat = .whileTest) (hrunning : t.beatRunning = true) :
      Beats t { t with beat := .sendHeartbeat }
  | ends (hat : t.beat = .whileTest) (hrunning : t.beatRunning = false) :
      Beats t { t with beat := .ended }
  | waits (hat : t.beat = .sendHeartbeat) (hsending : t.sending = true) :
      Beats t t
  | enters (hat : t.beat = .sendHeartbeat) (hrunning : t.beatRunning = true) :
      Beats t { t with beat := .send }
  | skips (hat : t.beat = .sendHeartbeat) (hsending : t.sending = false) :
      Beats t { t with beat := .sleep }
  | fails (hat : t.beat = .send) : Beats t { t with exited := true }
  | sends (hat : t.beat = .send) : Beats t { t with beat := .sleep }
  | wakes (hat : t.beat = .sleep) : Beats t { t with beat := .whileTest }
  | rests (hat : t.beat = .ended) : Beats t t

theorem beats_beatStep (t : ServerThreads) : Beats t t.beatStep := by
  unfold beatStep
  split
  case h_1 hat => exact .begins hat
  case h_2 hat =>
      split_ifs with hrunning
      · exact .goesOn hat hrunning
      · exact .ends hat (Bool.eq_false_of_not_eq_true hrunning)
  case h_3 hat =>
      split_ifs with hsending hrunning
      · exact .waits hat hsending
      · exact .enters hat hrunning
      · exact .skips hat (Bool.eq_false_of_not_eq_true hsending)
  case h_4 hat =>
      split_ifs
      · exact .fails hat
      · exact .sends hat
  case h_5 hat => exact .wakes hat
  case h_6 hat => exact .rests hat

/-- What the loop can do with the heartbeat thread. -/
inductive Asks (t : ServerThreads) : ServerThreads → Prop
  | fails : Asks t { t with exited := true }
  | returns (hsending : t.sending = true) : Asks t { t with sending := false }
  | calls (hrunning : t.beatRunning = true) : Asks t { t with sending := true }
  | goesOn (hsending : t.sending = false) : Asks t t

theorem asks_loopStep (t : ServerThreads) : Asks t t.loopStep := by
  unfold loopStep
  split_ifs with hsending hclosed hcall
  · exact .fails
  · exact .returns hsending
  · exact .calls hcall.1
  · exact .goesOn (Bool.eq_false_of_not_eq_true hsending)

/-- What a step of `stopServer` can do. -/
inductive Stops (t : ServerThreads) : ServerThreads → Prop
  | redrumsListen (hat : t.stop = .redrumListen) :
      Stops t { t with listenRunning := false, stop := .interruptListen }
  | interruptsListen (hat : t.stop = .interruptListen) :
      Stops t { t with listenInterrupted := true, stop := .joinListen }
  | joinsListen (hat : t.stop = .joinListen) (hended : t.listen = .ended) :
      Stops t { t with stop := .redrumBeat }
  | awaitsListen (hat : t.stop = .joinListen) (hended : t.listen ≠ .ended) :
      Stops t t
  | redrumsBeat (hat : t.stop = .redrumBeat) :
      Stops t { t with beatRunning := false, stop := .interruptBeat }
  | interruptsBeat (hat : t.stop = .interruptBeat) :
      Stops t { t with stop := .joinBeat }
  | joinsBeat (hat : t.stop = .joinBeat) (hended : t.beat = .ended) :
      Stops t { t with stop := .close }
  | awaitsBeat (hat : t.stop = .joinBeat) (hended : t.beat ≠ .ended) :
      Stops t t
  | closes (hat : t.stop = .close) :
      Stops t { t with closed := true, stop := .returned }
  | rests (hat : t.stop = .returned) : Stops t t

theorem stops_stopStep (t : ServerThreads) : Stops t t.stopStep := by
  unfold stopStep
  split
  case h_1 hat => exact .redrumsListen hat
  case h_2 hat => exact .interruptsListen hat
  case h_3 hat =>
      split_ifs with hended
      · exact .joinsListen hat hended
      · exact .awaitsListen hat hended
  case h_4 hat => exact .redrumsBeat hat
  case h_5 hat => exact .interruptsBeat hat
  case h_6 hat =>
      split_ifs with hended
      · exact .joinsBeat hat hended
      · exact .awaitsBeat hat hended
  case h_7 hat => exact .closes hat
  case h_8 hat => exact .rests hat

/-- What survives whatever a thread can do. -/
theorem step_of {motive : ServerThreads → Prop} (h : motive t)
    (harrive : ∀ d, e = .arrive d → motive (t.arrive d))
    (hlisten : ∀ t', e = .listen → Listens t t' → motive t')
    (hbeat : ∀ t', e = .beat → Beats t t' → motive t')
    (hloop : ∀ t', e = .loop → Asks t t' → motive t')
    (hstop : ∀ t', e = .stop → Stops t t' → motive t') :
    motive (step t e) := by
  unfold step
  split_ifs
  · exact h
  cases e with
  | arrive d => exact harrive d rfl
  | listen => exact hlisten _ rfl (listens_listenStep t)
  | beat => exact hbeat _ rfl (beats_beatStep t)
  | loop => exact hloop _ rfl (asks_loopStep t)
  | stop => exact hstop _ rfl (stops_stopStep t)

/-! ## From the socket to the queue -/

theorem commands_concat (datagrams : List (List Int8)) (d : List Int8) :
    commands (datagrams ++ [d]) = commands datagrams ++
      [.new ((datagrams ++ [d]).foldl UDPServerThread.receive fun _ => 0)] := by
  unfold commands
  rw [List.scanl_append, List.tail_append_of_ne_nil List.scanl_ne_nil,
    List.map_append, List.foldl_append]
  rfl

theorem length_commands (datagrams : List (List Int8)) :
    (commands datagrams).length = datagrams.length := by
  unfold commands
  rw [List.length_map, List.length_tail, List.length_scanl]
  rfl

/-- Every command is the one that the listener queues for its datagram. -/
theorem getElem?_commands (datagrams : List (List Int8)) (i : ℕ) :
    (commands datagrams)[i]? =
      datagrams[i]?.map (queued (datagrams.take i)) := by
  induction datagrams using List.reverseRecOn with
  | nil => rfl
  | append_singleton before d ih =>
      have hlength := length_commands before
      rw [commands_concat]
      rcases Nat.lt_trichotomy i before.length with hlt | rfl | hgt
      · rw [List.getElem?_append_left (hlength.symm ▸ hlt), ih,
          List.getElem?_append_left hlt, List.take_append_of_le_length hlt.le]
      · rw [← hlength, List.getElem?_concat_length, hlength,
          List.getElem?_concat_length, List.take_left, List.foldl_append]
        rfl
      · rw [List.getElem?_eq_none, List.getElem?_eq_none]
        · rfl
        · rw [List.length_append]
          exact hgt
        · rw [List.length_append, hlength]
          exact hgt

/-- The listener has begun before it is told to end. -/
def Heeds (t : ServerThreads) : ThreadEvent → Prop
  | .stop => t.stop = .redrumListen → t.listen ≠ .start
  | _ => True

/-- The flags of the listener. -/
structure Heard (t : ServerThreads) : Prop where
  told : t.stop ≠ .redrumListen → t.listenRunning = false ∧ t.listen ≠ .start
  interrupted : t.listenInterrupted = true → t.stop ≠ .redrumListen

/-- The datagrams that the listener has received are in the queue, but for one
that it has still to queue or has dropped when it was interrupted. -/
structure Ordered (received : List (List Int8)) (t : ServerThreads) : Prop where
  arrived_eq : t.arrived = received ++ t.socket
  receiveData_eq :
    t.receiveData = received.foldl UDPServerThread.receive fun _ => 0
  commandQ_eq : t.commandQ = commands (received.take t.commandQ.length)
  length_le : received.length ≤ t.commandQ.length + 1
  held : t.listen = .isInterrupted ∨ t.listen = .put →
    received.length = t.commandQ.length + 1
  level : t.listen = .start ∨ t.listen = .receive ∨
      (t.listen = .whileTest ∨ t.listen = .ended) ∧
        t.listenInterrupted = false →
    received.length = t.commandQ.length

theorem Heard.arrive (h : Heard t) (d : List Int8) : Heard (t.arrive d) := by
  unfold ServerThreads.arrive
  split_ifs
  · exact h
  · exact ⟨h.told, h.interrupted⟩

theorem Heard.listens (h : Heard t) (hlistens : Listens t t') : Heard t' := by
  cases hlistens with
  | begins hat =>
      exact ⟨fun hstop => absurd hat (h.told hstop).2, h.interrupted⟩
  | waits | rests => exact h
  | fails | breaks => exact ⟨h.told, h.interrupted⟩
  | _ => exact ⟨fun hstop => ⟨(h.told hstop).1, nofun⟩, h.interrupted⟩

theorem Heard.stops (h : Heard t) (hheeds : Heeds t .stop)
    (hstops : Stops t t') : Heard t' := by
  cases hstops with
  | redrumsListen hat => exact ⟨fun _ => ⟨rfl, hheeds hat⟩, fun _ => nofun⟩
  | awaitsListen | awaitsBeat | rests => exact h
  | _ hat =>
      have htold := h.told (by rw [hat]; exact nofun)
      exact ⟨fun _ => htold, fun _ => nofun⟩

/-- The listener does not begin again. -/
theorem Heard.step (h : Heard t) (hheeds : Heeds t e) : Heard (step t e) := by
  refine step_of h (fun d _ => h.arrive d) (fun t' _ => h.listens) ?_ ?_ ?_
  · rintro t' - hbeats
    cases hbeats <;> exact ⟨h.told, h.interrupted⟩
  · rintro t' - hasks
    cases hasks <;> exact ⟨h.told, h.interrupted⟩
  · rintro t' rfl hstops
    exact h.stops hheeds hstops

/-- The last command. -/
theorem commands_of_length {n : ℕ} (h : received.length = n + 1) :
    commands received = commands (received.take n) ++
      [.new (received.foldl UDPServerThread.receive fun _ => 0)] := by
  have hsplit : received.take n ++ [received[n]] = received := by
    rw [List.take_append_getElem, ← h, List.take_length]
  have hconcat := commands_concat (received.take n) received[n]
  rw [hsplit] at hconcat
  exact hconcat

theorem Ordered.listens (h : Ordered received t) (hheard : Heard t)
    (hlistens : Listens t t') : ∃ received, Ordered received t' := by
  cases hlistens with
  | waits | rests => exact ⟨received, h⟩
  | fails | breaks => exact ⟨received, { h with }⟩
  | begins hat =>
      exact ⟨received, { h with
        held := nofun
        level := fun _ => h.level (.inl hat) }⟩
  | goesOn hat hrunning =>
      have hcalm : t.listenInterrupted = false := by
        by_contra hinterrupted
        have hstop := hheard.interrupted (Bool.not_eq_false _ ▸ hinterrupted)
        rw [(hheard.told hstop).1] at hrunning
        cases hrunning
      have hlevel := h.level (.inr (.inr ⟨.inl hat, hcalm⟩))
      exact ⟨received, { h with held := nofun, level := fun _ => hlevel }⟩
  | ends hat =>
      refine ⟨received, { h with held := nofun, level := ?_ }⟩
      rintro (hnot | hnot | ⟨-, hcalm⟩)
      · cases hnot
      · cases hnot
      · exact h.level (.inr (.inr ⟨.inl hat, hcalm⟩))
  | receives hat hsocket =>
      rename_i datagram rest
      have hlevel := h.level (.inr (.inl hat))
      refine ⟨received ++ [datagram],
        { arrived_eq := ?_, receiveData_eq := ?_, commandQ_eq := ?_,
          length_le := ?_, held := fun _ => ?_, level := ?_ }⟩
      · show t.arrived = received ++ [datagram] ++ rest
        rw [h.arrived_eq, hsocket, List.append_assoc]
        rfl
      · rw [List.foldl_append, ← h.receiveData_eq]
        rfl
      · show t.commandQ = commands ((received ++ [datagram]).take _)
        rw [List.take_append_of_le_length hlevel.ge]
        exact h.commandQ_eq
      · show (received ++ [datagram]).length ≤ t.commandQ.length + 1
        rw [List.length_append, hlevel]
        rfl
      · rw [List.length_append, hlevel]
        rfl
      · rintro (hnot | hnot | ⟨hnot | hnot, -⟩) <;> cases hnot
  | drops hat hinterrupted =>
      refine ⟨received, { h with held := nofun, level := ?_ }⟩
      rintro (hnot | hnot | ⟨-, hcalm⟩)
      · cases hnot
      · cases hnot
      · rw [show t.listenInterrupted = false from hcalm] at hinterrupted
        cases hinterrupted
  | keeps hat =>
      refine ⟨received, { h with
        held := fun _ => h.held (.inl hat)
        level := ?_ }⟩
      rintro (hnot | hnot | ⟨hnot | hnot, -⟩) <;> cases hnot
  | puts hat =>
      have hheld := h.held (.inr hat)
      have hlength : (t.commandQ ++
          [WirelessCommand.new t.receiveData]).length = received.length := by
        rw [hheld, List.length_append]
        rfl
      refine ⟨received, { h with
        commandQ_eq := ?_, length_le := ?_, held := nofun, level := ?_ }⟩
      · show t.commandQ ++ _ = commands (received.take _)
        rw [hlength, List.take_length, commands_of_length hheld,
          ← h.commandQ_eq, h.receiveData_eq]
      · show received.length ≤ (t.commandQ ++ _).length + 1
        omega
      · intro _
        exact hlength.symm

/-- One step keeps the order. -/
theorem Ordered.step (h : Ordered received t) (hheard : Heard t) :
    ∃ received, Ordered received (step t e) := by
  refine step_of ⟨received, h⟩ ?_
    (fun t' _ hlistens => h.listens hheard hlistens) ?_ ?_ ?_
  · rintro d -
    unfold arrive
    split_ifs
    · exact ⟨received, h⟩
    · refine ⟨received, { h with arrived_eq := ?_ }⟩
      show t.arrived ++ [d] = received ++ (t.socket ++ [d])
      rw [h.arrived_eq, List.append_assoc]
  · rintro t' - hbeats
    cases hbeats <;> exact ⟨received, { h with }⟩
  · rintro t' - hasks
    cases hasks <;> exact ⟨received, { h with }⟩
  · rintro t' - hstops
    refine ⟨received, ?_⟩
    cases hstops with
    | interruptsListen =>
        refine { h with level := ?_ }
        rintro (hat | hat | ⟨-, hcalm⟩)
        · exact h.level (.inl hat)
        · exact h.level (.inr (.inl hat))
        · cases hcalm
    | _ => exact { h with }

theorem ordered_started : Ordered [] started :=
  ⟨rfl, rfl, rfl, Nat.zero_le _, nofun, fun _ => rfl⟩

/-- The commands in the queue are those of the first datagrams that the socket
has accepted, in their order; only the last datagram that was received can be
missing. -/
theorem commandQ_of_heeds
    (h : Runs.AllSteps step Heeds started events) :
    ∀ t ∈ Runs.states step started events,
      t.commandQ = commands (t.arrived.take t.commandQ.length) ∧
        t.commandQ.length + t.socket.length ≤ t.arrived.length ∧
        t.arrived.length ≤ t.commandQ.length + 1 + t.socket.length := by
  intro t ht
  have hstart : Heard started ∧ ∃ received, Ordered received started :=
    ⟨⟨fun hnot => absurd rfl hnot, nofun⟩, [], ordered_started⟩
  have hstep : ∀ t e, (Heard t ∧ ∃ received, Ordered received t) →
      Heeds t e → Heard (step t e) ∧ ∃ received, Ordered received (step t e) :=
    fun _ _ ⟨hheard, _, hordered⟩ hheeds =>
      ⟨hheard.step hheeds, hordered.step hheard⟩
  obtain ⟨-, received, hordered⟩ := Runs.invariant hstep hstart h t ht
  have hle : t.commandQ.length ≤ received.length := by
    have hlength := congrArg List.length hordered.commandQ_eq
    rw [length_commands, List.length_take] at hlength
    omega
  have hone := hordered.length_le
  have harrived : t.arrived.length = received.length + t.socket.length := by
    rw [hordered.arrived_eq, List.length_append]
  refine ⟨?_, by omega, by omega⟩
  rw [hordered.arrived_eq, List.take_append_of_le_length hle]
  exact hordered.commandQ_eq

/-- Every command in the queue was made of its datagram and of the bytes that
the earlier ones left in the buffer. -/
theorem getElem?_commandQ (h : Runs.AllSteps step Heeds started events)
    (ht : t ∈ Runs.states step started events) {i : ℕ}
    (hi : i < t.commandQ.length) :
    t.commandQ[i]? = t.arrived[i]?.map (queued (t.arrived.take i)) := by
  obtain ⟨hcommands, -, -⟩ := commandQ_of_heeds h t ht
  rw [hcommands, getElem?_commands, List.getElem?_take_of_lt hi,
    List.take_take, Nat.min_eq_left hi.le]

end ServerThreads

end ChuckLight
