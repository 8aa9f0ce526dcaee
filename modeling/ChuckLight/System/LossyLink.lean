import ChuckLight.Firmware.MainLoop
import ChuckLight.Support.Broadcast
import ChuckLight.System.Station

/-!
# Heartbeats over a lossy link

A heartbeat is a datagram, so it may be lost, arrive late, arrive twice or
overtake another one, and the controller may restart at any time.  Seen through
`view`, base station and controller are a source and a sink of the mode; a
packet that lacks its identification or its type is a message without a value.
-/

namespace ChuckLight

open Java Firmware

structure LossyStation where
  process : Process
  heartbeat : HeartBeatThread
  controller : UdpController

/-- What can happen next.  Any heartbeat that has been sent may arrive. -/
inductive LossyEvent where
  | server (e : Event)
  | run
  | deliver (addr : IpAddr) (k : ℕ)
  | restart

namespace LossyStation

open Process Server UdpController HeartBeatThread

def step (colorConverter : XYConverter) (st : LossyStation) :
    LossyEvent → LossyStation
  | .server e =>
      let served := Station.serve colorConverter e st.process st.heartbeat
      { st with process := served.1, heartbeat := served.2 }
  | .run => { st with heartbeat := st.heartbeat.run }
  | .deliver addr k =>
      match st.heartbeat.sent[k]? with
      | none => st
      | some payload =>
          { st with controller :=
              udpRecieve addr (Station.onWire payload) st.controller }
  | .restart =>
      { st with controller := (MainLoop.boot st.controller.sent).udp }

/-- The server reaches its loop; the heartbeat thread has not begun. -/
structure Starts (dmx : DefaultDMX) (profiles : List FixtureProfile)
    (file : Option (List Char)) (st : LossyStation) : Prop where
  process : Process.Starts dmx profiles file st.process
  heartbeat : st.heartbeat = .new Mode.IDLE.toByte
  controller : st.controller = UdpController.init

/-! ## Source and sink -/

/-- The mode in a heartbeat, if it is complete. -/
def modeOf (payload : List Int8) : Option Int8 :=
  if payload.getD 8 0 = Connection.POLL_PACKET_ID then some (payload.getD 9 0)
  else none

theorem modeOf_of_blank {payload : List Int8} (hblank : Blank payload) :
    modeOf payload = none := by
  obtain ⟨mode, rfl | rfl⟩ := hblank <;> rfl

/-- The exchange of the mode. -/
def view (st : LossyStation) : Broadcast.State Int8 where
  value := st.heartbeat.currentState
  sent := st.heartbeat.sent.map modeOf
  held := st.controller.MODE.toInt8

/-- What `sendHeartbeat` sends at this point of `run`. -/
def emission : RunPoint → List (Broadcast.Event Int8)
  | .setRunning | .newData => []
  | .arraycopy | .setPacketType => [.garble]
  | .sendFirst | .sendAgain => [.send]

/-- What the statement of `run` sends. -/
def round : RunPoint → List (Broadcast.Event Int8)
  | .sendFirst | .sendAgain => [.send]
  | _ => []

/-- What the event is to the exchange. -/
def moves (colorConverter : XYConverter) (st : LossyStation) :
    LossyEvent → List (Broadcast.Event Int8)
  | .server e =>
      match Station.due (Process.step colorConverter st.process e).server
          st.process.server.heartbeats with
      | none => []
      | some mode => .set mode :: emission st.heartbeat.point
  | .run => round st.heartbeat.point
  | .deliver _ k => [.deliver k]
  | .restart => [.reset Mode.IDLE.toByte]

def allMoves (colorConverter : XYConverter) (st : LossyStation) :
    List LossyEvent → List (Broadcast.Event Int8)
  | [] => []
  | e :: es => moves colorConverter st e ++
      allMoves colorConverter (step colorConverter st e) es

variable {colorConverter : XYConverter} {st : LossyStation}
  {events : List LossyEvent}

/-- The heartbeat thread, as a source. -/
def source (h : HeartBeatThread) (held : Int8) : Broadcast.State Int8 :=
  ⟨h.currentState, h.sent.map modeOf, held⟩

variable {h : HeartBeatThread}

/-- A packet that is sent is a value or a message without one. -/
theorem after_emission {first : List Int8}
    (hfirst : header h.point = some first) (s : Broadcast.State Int8) :
    Broadcast.after s (emission h.point) =
      { s with sent := s.sent ++ [modeOf (first ++ [s.value])] } := by
  cases hpoint : h.point with
  | setRunning | newData =>
      rw [hpoint] at hfirst
      cases hfirst
  | arraycopy | setPacketType | sendFirst | sendAgain =>
      rw [hpoint] at hfirst
      obtain rfl := Option.some.inj hfirst
      rfl

theorem source_sendHeartbeat (hprepared : Prepared h) (held : Int8) :
    source (stateAfter sendHeartbeat h) held =
      Broadcast.after (source h held) (emission h.point) := by
  unfold stateAfter
  rcases hprepared.sendHeartbeat_cases with
    ⟨hpoint, hsame⟩ | ⟨hpoint, herror⟩ | ⟨first, hfirst, hok⟩
  · rw [hsame, hpoint]
    rfl
  · rw [herror, hpoint]
    rfl
  · rw [hok, after_emission hfirst]
    unfold source
    rw [List.map_append]
    rfl

theorem source_run (hprepared : Prepared h) (held : Int8) :
    source h.run held =
      Broadcast.after (source h held) (round h.point) := by
  have hsend := source_sendHeartbeat hprepared held
  unfold HeartBeatThread.run
  cases hpoint : h.point with
  | setRunning | newData | arraycopy | setPacketType => rfl
  | sendFirst | sendAgain =>
      rw [hpoint] at hsend
      exact hsend

/-! ## The exchange is a broadcast -/

theorem heartbeat_deliver (addr : IpAddr) (k : ℕ) :
    (step colorConverter st (.deliver addr k)).heartbeat = st.heartbeat := by
  unfold step
  dsimp only
  cases st.heartbeat.sent[k]? <;> rfl

theorem prepared_step (hprepared : Prepared st.heartbeat) (e : LossyEvent) :
    Prepared (step colorConverter st e).heartbeat := by
  cases e with
  | server e => exact (Station.prepared_serve hprepared).1
  | run => exact hprepared.keeps_run.prepared
  | deliver addr k =>
      rw [heartbeat_deliver]
      exact hprepared
  | restart => exact hprepared

theorem prepared_run (hprepared : Prepared st.heartbeat)
    (events : List LossyEvent) :
    Prepared (events.foldl (step colorConverter) st).heartbeat := by
  induction events generalizing st with
  | nil => exact hprepared
  | cons e es ih => exact ih (prepared_step hprepared e)

/-- The controller takes over the mode of a complete packet. -/
theorem held_deliver (hprepared : Prepared st.heartbeat) (addr : IpAddr)
    (k : ℕ) :
    (step colorConverter st (.deliver addr k)).controller.MODE.toInt8 =
      ((st.heartbeat.sent.map modeOf).getD k none).getD
        st.controller.MODE.toInt8 := by
  unfold step
  dsimp only
  rw [List.getD_eq_getElem?_getD, List.getElem?_map]
  cases hget : st.heartbeat.sent[k]? with
  | none => rfl
  | some payload =>
      dsimp only
      rcases hprepared.sent payload (List.mem_of_getElem? hget) with
        hblank | ⟨-, mode, rfl⟩
      · rw [Station.udpRecieve_of_blank hblank, Option.map_some,
          modeOf_of_blank hblank]
        rfl
      · rw [Station.MODE_udpRecieve_pollPacket, Int8.toInt8_toUInt8]
        rfl

theorem view_step (hprepared : Prepared st.heartbeat) (e : LossyEvent) :
    view (step colorConverter st e) =
      Broadcast.after (view st) (moves colorConverter st e) := by
  cases e with
  | server e =>
      unfold moves step view
      dsimp only
      cases hdue : Station.due
          (Process.step colorConverter st.process e).server
          st.process.server.heartbeats with
      | none =>
          rw [Station.serve_of_none hdue]
          rfl
      | some mode =>
          rw [Station.heartbeat_serve hdue]
          exact source_sendHeartbeat (hprepared.setCurrentState mode) _
  | run => exact source_run hprepared _
  | deliver addr k =>
      unfold view
      rw [held_deliver hprepared, heartbeat_deliver]
      rfl
  | restart => rfl

/-- Runs of the station are runs of the broadcast. -/
theorem view_run (hprepared : Prepared st.heartbeat) :
    view (events.foldl (step colorConverter) st) =
      Broadcast.after (view st) (allMoves colorConverter st events) := by
  induction events generalizing st with
  | nil => rfl
  | cons e es ih =>
      rw [List.foldl_cons, ih (prepared_step hprepared e), view_step hprepared]
      exact (Broadcast.after_append _ _ _).symm

/-! ## The server -/

/-- The heartbeat holds the mode of the server. -/
def Holds (st : LossyStation) : Prop :=
  st.heartbeat.currentState = st.process.server.currentState.toByte

/-- A run that goes on at its end has gone on before. -/
theorem running_of_step {e : LossyEvent}
    (h : (step colorConverter st e).process.ended = none) :
    st.process.ended = none := by
  cases e with
  | server e =>
      have hstep : (Process.step colorConverter st.process e).ended =
          none := by
        rw [← (Station.serve_cases h).1]
        exact h
      exact (Process.run_of_ended_eq_none hstep).1
  | run => exact h
  | deliver addr k =>
      unfold step at h
      dsimp only at h
      cases hget : st.heartbeat.sent[k]? with
      | none =>
          rw [hget] at h
          exact h
      | some payload =>
          rw [hget] at h
          exact h
  | restart => exact h

theorem holds_step (hprepared : Prepared st.heartbeat) (hholds : st.Holds)
    {e : LossyEvent}
    (hended : (step colorConverter st e).process.ended = none) :
    (step colorConverter st e).Holds := by
  cases e with
  | server e =>
      obtain ⟨hprocess, hcases⟩ := Station.serve_cases hended
      unfold Holds step
      dsimp only
      rw [hprocess]
      rcases hcases with ⟨hmode, hsame⟩ | hannounce
      · rw [hsame, hmode]
        exact hholds
      · exact (hprepared.keeps_announce hannounce).currentState
  | run => exact hprepared.keeps_run.currentState.trans hholds
  | deliver addr k =>
      unfold step
      dsimp only
      cases st.heartbeat.sent[k]? <;> exact hholds
  | restart => exact hholds

/-- All values that a step brings into the exchange. -/
theorem moves_of_announced {p : Broadcast.Event Int8 → Prop}
    {e : LossyEvent} (hsend : p .send) (hgarble : p .garble)
    (hset : p (.set (step colorConverter st
      e).process.server.currentState.toByte))
    (hdeliver : ∀ addr k, e = .deliver addr k → p (.deliver k))
    (hrestart : e = .restart → p (.reset Mode.IDLE.toByte))
    (hended : (step colorConverter st e).process.ended = none) :
    ∀ m ∈ moves colorConverter st e, p m := by
  intro m hm
  cases e with
  | server e =>
      obtain ⟨hprocess, -⟩ := Station.serve_cases hended
      have hserver : (step colorConverter st (.server e)).process =
          Process.step colorConverter st.process e := hprocess
      rw [hserver] at hset hended
      unfold moves at hm
      dsimp only at hm
      rcases Station.due_step hended with ⟨-, hnone⟩ | hone
      · rw [hnone] at hm
        cases hm
      · rw [hone] at hm
        rcases List.mem_cons.mp hm with rfl | hm
        · exact hset
        · unfold emission at hm
          split at hm
          · cases hm
          · cases hm
          all_goals rw [List.mem_singleton.mp hm]
          · exact hgarble
          · exact hgarble
          · exact hsend
          · exact hsend
  | run =>
      unfold moves round at hm
      dsimp only at hm
      split at hm
      · rw [List.mem_singleton.mp hm]
        exact hsend
      · rw [List.mem_singleton.mp hm]
        exact hsend
      · cases hm
  | deliver addr k =>
      rw [List.mem_singleton.mp hm]
      exact hdeliver addr k rfl
  | restart =>
      rw [List.mem_singleton.mp hm]
      exact hrestart rfl

/-! ## Runs -/

variable {dmx : DefaultDMX} {profiles : List FixtureProfile}
  {file : Option (List Char)} {mode : Mode} {mark k : ℕ} {addr : IpAddr}
  {sender : Int8}

theorem mode_of_starts (h : Starts dmx profiles file st) :
    st.process.server.currentState = .IDLE := by
  have hscenes : Preserves (Silent .IDLE []) startScenes :=
    ((steady_silent _ _).onRig _).bind fun _ =>
      (silent_onScenes _).bind fun _ => silent_onScenes _
  exact (hscenes.of_ok ⟨rfl, rfl⟩ h.process.1).1

theorem prepared_of_starts (h : Starts dmx profiles file st) :
    Prepared st.heartbeat := by
  rw [h.heartbeat]
  exact prepared_new _

theorem holds_of_starts (h : Starts dmx profiles file st) : st.Holds := by
  unfold Holds
  rw [h.heartbeat, mode_of_starts h]
  rfl

/-- The mode of the controller is always one that the server has been in. -/
theorem exists_mode_of_running (hstart : Starts dmx profiles file st)
    (hended : (events.foldl (step colorConverter) st).process.ended = none) :
    ∃ u ∈ Runs.states (step colorConverter) st events,
      (events.foldl (step colorConverter) st).controller.MODE.toInt8 =
        u.process.server.currentState.toByte := by
  have hmodes : ∀ t ∈ Runs.states (step colorConverter) st events,
      ∃ u ∈ Runs.states (step colorConverter) st events,
        t.process.server.currentState.toByte =
          u.process.server.currentState.toByte := fun t ht => ⟨t, ht, rfl⟩
  obtain ⟨p, hp⟩ : ∃ p : Int8 → Prop, ∀ v, p v ↔
      ∃ u ∈ Runs.states (step colorConverter) st events,
        v = u.process.server.currentState.toByte := ⟨_, fun _ => Iff.rfl⟩
  rw [← hp]
  have hidle : p Mode.IDLE.toByte := by
    rw [hp, ← mode_of_starts hstart]
    exact hmodes st Runs.start_mem_states
  have hsteps := Runs.allSteps_of_states fun t ht => (hp _).mpr (hmodes t ht)
  have hrun : ∀ t ∈ Runs.states (step colorConverter) st events,
      t.process.ended = none →
        Prepared t.heartbeat ∧ Broadcast.Keeps p t.view := by
    refine Runs.invariant ?_ ?_ hsteps
    · intro t e h hmode hnext
      obtain ⟨hprepared, hkeeps⟩ := h (running_of_step hnext)
      refine ⟨prepared_step hprepared e, ?_⟩
      rw [view_step hprepared]
      refine hkeeps.after
        (moves_of_announced trivial trivial hmode ?_ ?_ hnext)
      · exact fun _ _ _ => trivial
      · exact fun _ => hidle
    · refine fun _ => ⟨prepared_of_starts hstart, ?_⟩
      have hheld : st.view = ⟨Mode.IDLE.toByte, [], Mode.IDLE.toByte⟩ := by
        unfold view
        rw [hstart.heartbeat, hstart.controller]
        rfl
      rw [hheld]
      exact ⟨hidle, nofun, hidle⟩
  exact (hrun _ Runs.foldl_mem_states hended).2.held

/-- One light, and nothing sent. -/
def oneLight : LossyStation where
  process := Process.oneLight none
  heartbeat := .new Mode.IDLE.toByte
  controller := UdpController.init

theorem starts_oneLight : Starts blackout [parLight] none oneLight :=
  ⟨Process.starts_oneLight, rfl, rfl⟩

/-- A button selects a light before the packet is complete, and the incomplete
packet arrives late. -/
def pressed : List LossyEvent :=
  [.run, .run, .server (button Connection.B1), .run, .run, .run, .deliver 0 0]

theorem exists_mode_of_running_pressed :
    ∃ u ∈ Runs.states (step fun _ _ => Color.WHITE) oneLight pressed,
      (pressed.foldl (step fun _ _ => Color.WHITE)
        oneLight).controller.MODE.toInt8 =
          u.process.server.currentState.toByte :=
  exists_mode_of_running starts_oneLight rfl

/-- No heartbeat that was sent before the mark arrives. -/
def NotStale (mark : ℕ) : LossyEvent → Prop
  | .deliver _ k => mark ≤ k
  | _ => True

/-- The server goes on in the mode. -/
def In (mode : Mode) (st : LossyStation) : Prop :=
  st.process.ended = none ∧ st.process.server.currentState = mode

theorem fresh_allMoves
    (hmode : ∀ t ∈ Runs.states (step colorConverter) st events, In mode t)
    (hfresh : ∀ e ∈ events, NotStale mark e) :
    ∀ m ∈ allMoves colorConverter st events,
      Broadcast.Fresh mark mode.toByte m := by
  induction events generalizing st with
  | nil => exact nofun
  | cons e es ih =>
      have hrest : ∀ t ∈ Runs.states (step colorConverter)
          (step colorConverter st e) es, In mode t :=
        fun t ht => hmode t (List.mem_cons_of_mem _ ht)
      obtain ⟨hended, hnext⟩ := hrest _ Runs.start_mem_states
      intro m hm
      rcases List.mem_append.mp hm with hfirst | hlater
      · refine moves_of_announced trivial trivial ?_ ?_ ?_ hended m hfirst
        · exact congrArg Mode.toByte hnext
        · rintro addr k rfl
          exact hfresh _ (List.mem_cons_self ..)
        · exact fun _ => trivial
      · exact ih hrest (fun e' he' => hfresh e' (List.mem_cons_of_mem _ he'))
          m hlater

theorem not_isReset_allMoves
    (hmode : ∀ t ∈ Runs.states (step colorConverter) st events, In mode t)
    (hrestart : .restart ∉ events) :
    ∀ m ∈ allMoves colorConverter st events, ¬ m.IsReset := by
  induction events generalizing st with
  | nil => exact nofun
  | cons e es ih =>
      have hrest : ∀ t ∈ Runs.states (step colorConverter)
          (step colorConverter st e) es, In mode t :=
        fun t ht => hmode t (List.mem_cons_of_mem _ ht)
      obtain ⟨hended, -⟩ := hrest _ Runs.start_mem_states
      intro m hm
      rcases List.mem_append.mp hm with hfirst | hlater
      · refine moves_of_announced (p := fun m => ¬ m.IsReset) id id id ?_ ?_
          hended m hfirst
        · exact fun _ _ _ => id
        · rintro rfl
          exact absurd (List.mem_cons_self ..) hrestart
      · exact ih hrest (fun h => hrestart (List.mem_cons_of_mem _ h)) m hlater

theorem fresh_run (hprepared : Prepared st.heartbeat) (hholds : st.Holds)
    (hmode : ∀ t ∈ Runs.states (step colorConverter) st events, In mode t)
    (hfresh : ∀ e ∈ events, NotStale st.heartbeat.sent.length e) :
    Broadcast.Stays st.heartbeat.sent.length mode.toByte
      (events.foldl (step colorConverter) st).view := by
  have hstays := Broadcast.stays_length st.view
  have hlength : st.view.sent.length = st.heartbeat.sent.length :=
    List.length_map _
  have hvalue : st.view.value = mode.toByte := by
    rw [← (hmode st Runs.start_mem_states).2]
    exact hholds
  rw [hlength, hvalue] at hstays
  rw [view_run hprepared]
  exact hstays.after (fresh_allMoves hmode hfresh)

/-- A fresh heartbeat arrives, and no restart follows. -/
theorem mode_of_fresh (hprepared : Prepared st.heartbeat) (hholds : st.Holds)
    {before after : List LossyEvent}
    (hmode : ∀ t ∈ Runs.states (step colorConverter) st
      (before ++ .deliver addr k :: after), In mode t)
    (hfresh : ∀ e ∈ before ++ .deliver addr k :: after,
      NotStale st.heartbeat.sent.length e)
    (hsent : (before.foldl (step colorConverter) st).heartbeat.sent[k]? =
      some (pollPacket sender))
    (hrestart : .restart ∉ after) :
    ((before ++ .deliver addr k :: after).foldl (step colorConverter)
      st).controller.MODE.toInt8 = mode.toByte := by
  have hmodes := fun t ht => hmode t (Runs.mem_states_append.mpr ht)
  have hstays := fresh_run hprepared hholds (fun t ht => hmodes t (.inl ht))
    fun e he => hfresh e (List.mem_append_left _ he)
  have hprepared' := @prepared_run colorConverter st hprepared before
  rw [List.foldl_append, List.foldl_cons]
  generalize before.foldl (step colorConverter) st = u at *
  have hvalue : u.view.sent[k]? = some (some sender) := by
    show (u.heartbeat.sent.map modeOf)[k]? = _
    rw [List.getElem?_map, hsent]
    rfl
  have hmark := hfresh (.deliver addr k)
    (List.mem_append_right _ (List.mem_cons_self ..))
  have hview : (step colorConverter u (.deliver addr k)).view =
      Broadcast.step u.view (.deliver k) := view_step hprepared' _
  have hheld := hstays.deliver hmark hvalue
  have hnext := hstays.step (e := .deliver k) hmark
  rw [← hview] at hheld hnext
  have hlater := fun t ht => hmodes t (.inr (List.mem_cons_of_mem _ ht))
  have hrun := @view_run colorConverter
    (step colorConverter u (.deliver addr k)) after
    (prepared_step hprepared' _)
  have hend := hnext.held_after
    (fresh_allMoves hlater fun e he => hfresh e
      (List.mem_append_right _ (List.mem_cons_of_mem _ he)))
    (not_isReset_allMoves hlater hrestart) hheld
  rw [← hrun] at hend
  exact hend

/-- As long as the server stays in a mode and nothing stale arrives, the
controller is in that mode from the first complete heartbeat on that arrives,
whatever the link and the controller have done before.  A restart of the
controller calls for one more heartbeat. -/
theorem agrees_of_fresh (hstart : Starts dmx profiles file st)
    {early before after : List LossyEvent}
    (hmode : ∀ t ∈ Runs.states (step colorConverter)
      (early.foldl (step colorConverter) st)
      (before ++ .deliver addr k :: after), In mode t)
    (hfresh : ∀ e ∈ before ++ .deliver addr k :: after, NotStale
      (early.foldl (step colorConverter) st).heartbeat.sent.length e)
    (hsent : ((early ++ before).foldl (step colorConverter)
      st).heartbeat.sent[k]? = some (pollPacket sender))
    (hrestart : .restart ∉ after) :
    ((early ++ (before ++ .deliver addr k :: after)).foldl
      (step colorConverter) st).controller.MODE.toInt8 = mode.toByte := by
  have hrun : ∀ t ∈ Runs.states (step colorConverter) st early,
      Prepared t.heartbeat ∧ (t.process.ended = none → t.Holds) :=
    Runs.invariant (fun _ e h _ => ⟨prepared_step h.1 e, fun hnext =>
        holds_step h.1 (h.2 (running_of_step hnext)) hnext⟩)
      ⟨prepared_of_starts hstart, fun _ => holds_of_starts hstart⟩
      (Runs.allSteps_true _ _)
  have hended := (hmode _ Runs.start_mem_states).1
  obtain ⟨hprepared, hholds⟩ := hrun _ Runs.foldl_mem_states
  rw [List.foldl_append] at hsent ⊢
  exact mode_of_fresh hprepared (hholds hended) hmode hfresh hsent hrestart

/-- The controller restarts, and the server sends its mode again. -/
def restarted : List LossyEvent := [.restart, .run]

/-- The new heartbeat arrives twice. -/
theorem agrees_of_fresh_restarted :
    ((pressed ++ (restarted ++ LossyEvent.deliver 0 2 ::
      [LossyEvent.deliver 0 2])).foldl (step fun _ _ => Color.WHITE)
        oneLight).controller.MODE.toInt8 = Mode.LIGHT_SELECTION.toByte := by
  have hmark : (pressed.foldl (step fun _ _ => Color.WHITE)
      oneLight).heartbeat.sent.length = 2 := rfl
  have hsent : ((pressed ++ restarted).foldl (step fun _ _ => Color.WHITE)
      oneLight).heartbeat.sent[2]? =
        some (pollPacket Mode.LIGHT_SELECTION.toByte) := rfl
  refine agrees_of_fresh starts_oneLight ?_ ?_ hsent nofun
  · refine List.forall_mem_cons.mpr ⟨⟨rfl, rfl⟩, List.forall_mem_cons.mpr
      ⟨⟨rfl, rfl⟩, List.forall_mem_cons.mpr ⟨⟨rfl, rfl⟩,
        List.forall_mem_cons.mpr ⟨⟨rfl, rfl⟩, ?_⟩⟩⟩⟩
    intro t ht
    rw [List.mem_singleton.mp ht]
    exact ⟨rfl, rfl⟩
  · rw [hmark]
    exact List.forall_mem_cons.mpr ⟨trivial, List.forall_mem_cons.mpr
      ⟨trivial, List.forall_mem_cons.mpr ⟨Nat.le_refl _,
        List.forall_mem_singleton.mpr (Nat.le_refl _)⟩⟩⟩

end LossyStation

end ChuckLight
