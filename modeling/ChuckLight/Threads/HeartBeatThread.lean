import ChuckLight.Defines.Connection
import ChuckLight.Support.Java
import Mathlib.Data.List.Infix

/-!
# Heartbeats

`HeartBeatThread` sends the mode of the server to the controller, every time
the loop asks for it and again from time to time.  Its method `run` sets
`running`, which lets `sendHeartbeat` pass, before it has made the packet, and
its statements interleave with the rounds of the loop.  The address of the
packet is set before there is a packet, and is left out.  A send that fails ends
the program, so sends succeed here.
-/

namespace ChuckLight

open Java

/-- The next statement of `HeartBeatThread.run`; `sendFirst` and `sendAgain` are
the rounds of its loop. -/
inductive RunPoint where
  | setRunning
  | newData
  | arraycopy
  | setPacketType
  | sendFirst
  | sendAgain
  deriving DecidableEq

structure HeartBeatThread where
  currentState : Int8
  running : Bool
  data : Option (List Int8)
  point : RunPoint
  sent : List (List Int8)

namespace HeartBeatThread

def new (currentState : Int8) : HeartBeatThread :=
  ⟨currentState, false, none, .setRunning, []⟩

def setCurrentState (currentState : Int8) (h : HeartBeatThread) :
    HeartBeatThread :=
  { h with currentState := currentState }

/-- The method is synchronized. -/
def sendHeartbeat : Run HeartBeatThread Unit := do
  let h ← get
  if h.running then
    let bytes ← orThrow h.data .nullPointerException
    set { h with
      data := some (bytes.set 9 h.currentState)
      sent := h.sent ++ [bytes.set 9 h.currentState] }

/-- The next statement of the method `run`. -/
def run (h : HeartBeatThread) : HeartBeatThread :=
  match h.point with
  | .setRunning => { h with running := true, point := .newData }
  | .newData =>
      { h with data := some (List.replicate 10 0), point := .arraycopy }
  | .arraycopy =>
      { h with
        data := h.data.map fun bytes =>
          List.ofFn Connection.ID ++ bytes.drop 8
        point := .setPacketType }
  | .setPacketType =>
      { h with
        data := h.data.map (·.set 8 Connection.POLL_PACKET_ID)
        point := .sendFirst }
  | .sendFirst | .sendAgain =>
      { stateAfter sendHeartbeat h with point := .sendAgain }

/-- What the loop does in a round that asks for a heartbeat. -/
def announce (currentState : Int8) : Run HeartBeatThread Unit := do
  modify (setCurrentState currentState)
  sendHeartbeat

/-! ## Packets -/

/-- The bytes of a heartbeat. -/
def pollPacket (currentState : Int8) : List Int8 :=
  List.ofFn Connection.ID ++ [Connection.POLL_PACKET_ID] ++ [currentState]

/-- The packet before the mode, where there is one. -/
def header : RunPoint → Option (List Int8)
  | .setRunning | .newData => none
  | .arraycopy => some (List.replicate 9 0)
  | .setPacketType => some (List.ofFn Connection.ID ++ [0])
  | .sendFirst | .sendAgain =>
      some (List.ofFn Connection.ID ++ [Connection.POLL_PACKET_ID])

/-- The packet lacks its identification or its type. -/
def Blank (payload : List Int8) : Prop :=
  ∃ mode, payload = List.replicate 9 0 ++ [mode] ∨
    payload = List.ofFn Connection.ID ++ [0] ++ [mode]

/-- The packet is complete. -/
def Ready (h : HeartBeatThread) : Prop :=
  h.point = .sendFirst ∨ h.point = .sendAgain

/-- A complete packet has been sent. -/
def Polled (h : HeartBeatThread) : Prop := ∃ mode, pollPacket mode ∈ h.sent

/-- The fields fit the statements of `run` that are over. -/
structure Prepared (h : HeartBeatThread) : Prop where
  running_eq : h.running = decide (h.point ≠ .setRunning)
  data_eq : ∃ last, h.data = (header h.point).map (· ++ [last])
  sent : ∀ payload ∈ h.sent, Blank payload ∨
    h.Ready ∧ ∃ mode, payload = pollPacket mode
  polled : h.point = .sendAgain → h.Polled

/-- Once a complete packet has been sent, the last one holds the mode. -/
def Current (h : HeartBeatThread) : Prop :=
  h.Polled → h.sent.getLast? = some (pollPacket h.currentState)

variable {h h' : HeartBeatThread} {mode : Int8} {payload : List Int8}
  {a : Abrupt}

theorem not_blank_pollPacket (mode : Int8) : ¬ Blank (pollPacket mode) := by
  have hne : Connection.POLL_PACKET_ID ≠ 0 := by decide
  rintro ⟨mode', heq | heq⟩
  · exact hne (congrArg (List.getD · 8 0) heq)
  · exact hne (congrArg (List.getD · 8 0) heq)

theorem prepared_new (currentState : Int8) : Prepared (new currentState) :=
  ⟨rfl, ⟨0, rfl⟩, nofun, nofun⟩

theorem Prepared.setCurrentState (hprepared : Prepared h) (mode : Int8) :
    Prepared (h.setCurrentState mode) :=
  ⟨hprepared.running_eq, hprepared.data_eq, hprepared.sent, hprepared.polled⟩

theorem Prepared.ready (hprepared : Prepared h) (hpolled : h.Polled) :
    h.Ready := by
  obtain ⟨mode, hmem⟩ := hpolled
  rcases hprepared.sent _ hmem with hblank | ⟨hready, -⟩
  · exact absurd hblank (not_blank_pollPacket mode)
  · exact hready

/-- Length and type of the packets. -/
theorem Prepared.type_of_mem (hprepared : Prepared h)
    (hmem : payload ∈ h.sent) :
    payload.length = 10 ∧
      (payload.getD 8 0 = 0 ∨
        payload.getD 8 0 = Connection.POLL_PACKET_ID) := by
  rcases hprepared.sent payload hmem with ⟨mode, rfl | rfl⟩ | ⟨-, mode, rfl⟩
  · exact ⟨rfl, .inl rfl⟩
  · exact ⟨rfl, .inl rfl⟩
  · exact ⟨rfl, .inr rfl⟩

/-- Before `running` is set, nothing is sent; before there is a packet, the
method throws; then it sends the packet as it is. -/
theorem Prepared.sendHeartbeat_cases (hprepared : Prepared h) :
    h.point = .setRunning ∧ sendHeartbeat h = .ok ⟨⟩ h ∨
    h.point = .newData ∧
      sendHeartbeat h = .error (.thrown .nullPointerException) h ∨
    ∃ first, header h.point = some first ∧ sendHeartbeat h = .ok ⟨⟩ { h with
      data := some (first ++ [h.currentState])
      sent := h.sent ++ [first ++ [h.currentState]] } := by
  obtain ⟨hrunning, ⟨last, hdata⟩, -, -⟩ := hprepared
  obtain ⟨currentState, running, data, point, sent⟩ := h
  cases point with
  | setRunning =>
      obtain rfl : running = false := hrunning
      exact .inl ⟨rfl, rfl⟩
  | newData =>
      obtain rfl : running = true := hrunning
      obtain rfl : data = none := hdata
      exact .inr (.inl ⟨rfl, rfl⟩)
  | arraycopy | setPacketType | sendFirst | sendAgain =>
      obtain rfl : running = true := hrunning
      obtain rfl : data = some (_ ++ [last]) := hdata
      exact .inr (.inr ⟨_, rfl, rfl⟩)

/-- The packet is blank until it is complete. -/
theorem blank_or_ready {first : List Int8}
    (hfirst : header h.point = some first) (mode : Int8) :
    ¬ h.Ready ∧ Blank (first ++ [mode]) ∨
      h.Ready ∧ first ++ [mode] = pollPacket mode := by
  unfold Ready
  cases hpoint : h.point with
  | setRunning | newData =>
      rw [hpoint] at hfirst
      cases hfirst
  | arraycopy =>
      rw [hpoint] at hfirst
      obtain rfl := Option.some.inj hfirst
      exact .inl ⟨nofun, mode, .inl rfl⟩
  | setPacketType =>
      rw [hpoint] at hfirst
      obtain rfl := Option.some.inj hfirst
      exact .inl ⟨nofun, mode, .inr rfl⟩
  | sendFirst =>
      rw [hpoint] at hfirst
      obtain rfl := Option.some.inj hfirst
      exact .inr ⟨.inl rfl, rfl⟩
  | sendAgain =>
      rw [hpoint] at hfirst
      obtain rfl := Option.some.inj hfirst
      exact .inr ⟨.inr rfl, rfl⟩

/-- What a method of the heartbeat thread keeps. -/
structure Keeps (h h' : HeartBeatThread) : Prop where
  prepared : Prepared h'
  current : Current h'
  currentState : h'.currentState = h.currentState
  sent : h.sent <+: h'.sent

/-- A call of `sendHeartbeat` that returns. -/
theorem Prepared.keeps_sendHeartbeat (hprepared : Prepared h)
    (hsend : sendHeartbeat h = .ok ⟨⟩ h') : Keeps h h' := by
  rcases hprepared.sendHeartbeat_cases with
    ⟨hpoint, hsame⟩ | ⟨-, herror⟩ | ⟨first, hfirst, hok⟩
  · rw [hsame] at hsend
    cases hsend
    refine ⟨hprepared, fun hpolled => ?_, rfl, List.prefix_refl _⟩
    rcases hprepared.ready hpolled with hready | hready
    · exact nomatch hpoint.symm.trans hready
    · exact nomatch hpoint.symm.trans hready
  · rw [herror] at hsend
    cases hsend
  · rw [hok] at hsend
    cases hsend
    have hkind := blank_or_ready hfirst h.currentState
    refine ⟨⟨hprepared.running_eq, ⟨h.currentState, ?_⟩, ?_, ?_⟩, ?_, rfl,
      List.prefix_append ..⟩
    · show some _ = (header h.point).map _
      rw [hfirst]
      rfl
    · intro payload hpayload
      rcases List.mem_append.mp hpayload with hold | hnew
      · exact hprepared.sent payload hold
      · rw [List.mem_singleton.mp hnew]
        exact hkind.imp (fun h => h.2) fun h => ⟨h.1, _, h.2⟩
    · intro hagain
      obtain ⟨mode, hmem⟩ := hprepared.polled hagain
      exact ⟨mode, List.mem_append_left _ hmem⟩
    · rintro ⟨mode, hmem⟩
      show (h.sent ++ [_]).getLast? = _
      rw [List.getLast?_concat]
      rcases hkind with ⟨hnot, hblank⟩ | ⟨-, heq⟩
      · exfalso
        rcases List.mem_append.mp hmem with hold | hnew
        · exact hnot (hprepared.ready ⟨mode, hold⟩)
        · rw [← List.mem_singleton.mp hnew] at hblank
          exact not_blank_pollPacket mode hblank
      · rw [heq]

/-- A request of the loop that returns. -/
theorem Prepared.keeps_announce (hprepared : Prepared h)
    (hannounce : announce mode h = .ok ⟨⟩ h') :
    Keeps (h.setCurrentState mode) h' :=
  (hprepared.setCurrentState mode).keeps_sendHeartbeat hannounce

/-- A request of the loop fails only before there is a packet. -/
theorem Prepared.announce_of_newData (hprepared : Prepared h)
    (hpoint : h.point = .newData) (mode : Int8) :
    announce mode h =
      .error (.thrown .nullPointerException) (h.setCurrentState mode) := by
  rcases (hprepared.setCurrentState mode).sendHeartbeat_cases with
    ⟨hnot, -⟩ | ⟨-, herror⟩ | ⟨first, hfirst, -⟩
  · exact nomatch hpoint.symm.trans hnot
  · exact herror
  · rw [show (h.setCurrentState mode).point = _ from hpoint] at hfirst
    cases hfirst

theorem Prepared.announce_of_error (hprepared : Prepared h)
    (hannounce : announce mode h = .error a h') :
    h.point = .newData ∧ h' = h.setCurrentState mode := by
  rcases (hprepared.setCurrentState mode).sendHeartbeat_cases with
    ⟨-, hok⟩ | ⟨hpoint, herror⟩ | ⟨first, -, hok⟩
  · cases hok.symm.trans hannounce
  · cases herror.symm.trans hannounce
    exact ⟨hpoint, rfl⟩
  · cases hok.symm.trans hannounce

/-- A statement before the loop of `run` sends nothing. -/
theorem Prepared.keeps_of_not_ready (hprepared : Prepared h)
    (hnot : ¬ h.Ready) (hsent : h'.sent = h.sent)
    (hstate : h'.currentState = h.currentState)
    (hrunning : h'.running = decide (h'.point ≠ .setRunning))
    (hdata : ∃ last, h'.data = (header h'.point).map (· ++ [last]))
    (hfirst : h'.point ≠ .sendAgain) : Keeps h h' := by
  have hblank : ∀ payload ∈ h'.sent, Blank payload := by
    rw [hsent]
    exact fun payload hpayload => (hprepared.sent payload
      hpayload).resolve_right fun hboth => hnot hboth.1
  refine ⟨⟨hrunning, hdata, fun payload hpayload =>
    .inl (hblank payload hpayload), fun hagain => absurd hagain hfirst⟩, ?_,
    hstate, hsent ▸ List.prefix_refl _⟩
  rintro ⟨mode, hmem⟩
  exact absurd (hblank _ hmem) (not_blank_pollPacket mode)

theorem Prepared.again (hprepared : Prepared h) (hready : h.Ready)
    (hpolled : h.Polled) : Prepared { h with point := .sendAgain } := by
  obtain ⟨hrunning, ⟨last, hdata⟩, hsent, -⟩ := hprepared
  refine ⟨?_, ⟨last, ?_⟩, fun payload hpayload =>
    (hsent payload hpayload).imp_right fun hboth => ⟨.inr rfl, hboth.2⟩,
    fun _ => hpolled⟩
  · rcases hready with hpoint | hpoint <;> rw [hpoint] at hrunning <;>
      exact hrunning
  · rcases hready with hpoint | hpoint <;> rw [hpoint] at hdata <;> exact hdata

/-- A round of the loop of `run` sends a complete packet. -/
theorem Prepared.keeps_round (hprepared : Prepared h) (hready : h.Ready) :
    Keeps h { stateAfter sendHeartbeat h with point := .sendAgain } := by
  rcases hprepared.sendHeartbeat_cases with
    ⟨hpoint, -⟩ | ⟨hpoint, -⟩ | ⟨first, hfirst, hok⟩
  · rcases hready with hnot | hnot <;> exact nomatch hpoint.symm.trans hnot
  · rcases hready with hnot | hnot <;> exact nomatch hpoint.symm.trans hnot
  · have hkeeps := hprepared.keeps_sendHeartbeat hok
    have hpolled : Polled { h with
        data := some (first ++ [h.currentState])
        sent := h.sent ++ [first ++ [h.currentState]] } := by
      rcases blank_or_ready hfirst h.currentState with ⟨hnot, -⟩ | ⟨-, heq⟩
      · exact absurd hready hnot
      · refine ⟨h.currentState, ?_⟩
        rw [← heq]
        exact List.mem_append_right _ (List.mem_singleton_self _)
    unfold stateAfter
    rw [hok]
    exact ⟨hkeeps.prepared.again hready hpolled, hkeeps.current,
      hkeeps.currentState, hkeeps.sent⟩

/-- A statement of `run`. -/
theorem Prepared.keeps_run (hprepared : Prepared h) : Keeps h h.run := by
  obtain ⟨last, hdata⟩ := hprepared.data_eq
  have hrunning := hprepared.running_eq
  unfold HeartBeatThread.run
  split
  case h_5 hpoint => exact hprepared.keeps_round (.inl hpoint)
  case h_6 hpoint => exact hprepared.keeps_round (.inr hpoint)
  all_goals rename_i hpoint
  all_goals
    have hnot : ¬ h.Ready := by
      unfold Ready
      rw [hpoint]
      exact nofun
    rw [hpoint] at hdata hrunning
    refine hprepared.keeps_of_not_ready hnot rfl rfl ?_ ?_ nofun
  · rfl
  · exact ⟨last, hdata⟩
  · exact hrunning
  · exact ⟨0, rfl⟩
  · exact hrunning
  · refine ⟨last, ?_⟩
    rw [hdata]
    rfl
  · exact hrunning
  · refine ⟨last, ?_⟩
    rw [hdata]
    rfl

theorem Keeps.polled (hkeeps : Keeps h h') (hpolled : h.Polled) :
    h'.Polled :=
  hpolled.imp fun _ hmem => hkeeps.sent.subset hmem

end HeartBeatThread
end ChuckLight
