import ChuckLight.Firmware.MainLoop
import ChuckLight.Firmware.WireFormat
import ChuckLight.Threads.Cursors

/-!
# What the controller puts on the wire

One iteration of the main loop of the controller sends replies to polls,
samples of the stick and of the motion, and at most one user action.  The
party command is sent only by an iteration that reads the buttons while the
controller is idle.
-/

namespace ChuckLight

open Java Firmware UdpController MainLoop

/-- The server as it reads a payload over what was in its buffer. -/
def readOver (stale : Buffer) (payload : List UInt8) : WirelessCommand :=
  (WirelessCommand.new (received stale payload)).parse.2

/-- If the payload carries coordinates, they lie on the stick. -/
def StaysOnStick (payload : List UInt8) : Prop :=
  ∀ stale q, (readOver stale payload).joystickData = some q →
    Process.OnStick q.1 ∧ Process.OnStick q.2

/-- The payload is no party command. -/
def NoParty (payload : List UInt8) : Prop :=
  ∀ stale, Interprets (.new (received stale payload)) →
    (readOver stale payload).userActionData ≠ Connection.KONAMI

/-- The payload does no harm in any mode. -/
def Tame (payload : List UInt8) : Prop :=
  StaysOnStick payload ∧ NoParty payload

/-! ## Payloads -/

theorem toInt8_injective {a b : UInt8} (h : a.toInt8 = b.toInt8) : a = b :=
  congrArg Int8.toUInt8 h

section Payloads

variable {p : DataPacket} (hid : p.header.id = ID)
  (htype : p.header.packetType = DATA_PACKET_ID)

include hid htype

theorem reading_userAction (hdata : p.dataType = USER_ACTION_DATA)
    (stale : Buffer) :
    (WirelessCommand.new (received stale p.bytes)).reading =
      ⟨true, Connection.DATA_PACKET_ID, p.header.mode.toInt8,
        p.dataType.toInt8, p.userAction.toInt8, none, 0⟩ := by
  rw [reading_received stale hid htype, hdata, if_pos (by decide)]

theorem staysOnStick_userAction (hdata : p.dataType = USER_ACTION_DATA) :
    StaysOnStick p.bytes := by
  intro stale q hq
  have hread := congrArg WirelessCommand.Reading.joystickData
    (reading_userAction hid htype hdata stale)
  cases hread.symm.trans hq

theorem tame_userAction (hdata : p.dataType = USER_ACTION_DATA)
    (haction : p.userAction ≠ KONAMI_COMPLETE) : Tame p.bytes := by
  refine ⟨staysOnStick_userAction hid htype hdata, fun stale _ hkonami => ?_⟩
  have hread := congrArg WirelessCommand.Reading.userActionData
    (reading_userAction hid htype hdata stale)
  have hsame : p.userAction.toInt8 = KONAMI_COMPLETE.toInt8 :=
    hread.symm.trans hkonami
  exact haction (toInt8_injective hsame)

/-- A sample is no user action. -/
theorem noParty_of_sample (hdata : p.dataType ≠ USER_ACTION_DATA) :
    NoParty p.bytes := by
  intro stale _ hkonami
  have hne : p.dataType.toInt8 ≠ Connection.USER_ACTION_DATA :=
    fun h => hdata (toInt8_injective h)
  have hreading := reading_received stale hid htype
  rw [if_neg hne] at hreading
  have hread := congrArg WirelessCommand.Reading.userActionData hreading
  have hzero : (readOver stale p.bytes).userActionData = 0 := by
    refine hread.trans ?_
    split_ifs <;> rfl
  rw [hzero] at hkonami
  exact absurd hkonami (by decide)

theorem tame_joystick (hdata : p.dataType = JOYSTICK_DATA)
    (hstick : Process.OnStick p.joystick.1 ∧ Process.OnStick p.joystick.2) :
    Tame p.bytes := by
  refine ⟨fun stale q hq => ?_, noParty_of_sample hid htype ?_⟩
  · have hreading := reading_received stale hid htype
    rw [hdata, if_neg (by decide), if_pos (by decide)] at hreading
    have hread := congrArg WirelessCommand.Reading.joystickData hreading
    obtain rfl := Option.some.inj (hread.symm.trans hq)
    exact hstick
  · rw [hdata]
    decide

theorem tame_gyro (hdata : p.dataType = GYRO_DATA) : Tame p.bytes := by
  refine ⟨fun stale q hq => ?_, noParty_of_sample hid htype ?_⟩
  · have hreading := reading_received stale hid htype
    rw [hdata, if_neg (by decide), if_neg (by decide),
      if_pos (by decide)] at hreading
    have hread := congrArg WirelessCommand.Reading.joystickData hreading
    cases hread.symm.trans hq
  · rw [hdata]
    decide

end Payloads

/-- A datagram whose packet type is not that of a data packet. -/
theorem reading_of_other {stale : Buffer} {datagram : List Int8}
    (hlength : 8 < datagram.length)
    (htype : datagram.getD 8 0 ≠ Connection.DATA_PACKET_ID) :
    let c := WirelessCommand.new (UDPServerThread.receive stale datagram)
    c.reading.joystickData = none ∧ ¬ Interprets c := by
  have h8 : UDPServerThread.receive stale datagram 8 ≠
      Connection.DATA_PACKET_ID := by
    rw [UDPServerThread.receive_of_lt (i := 8) stale hlength]
    exact htype
  by_cases hverify : (WirelessCommand.new
      (UDPServerThread.receive stale datagram)).VerifyPacket
  · have hreading := WirelessCommand.reading_of_ne_data hverify h8
    refine ⟨congrArg WirelessCommand.Reading.joystickData hreading, ?_⟩
    rintro ⟨-, hdata⟩
    have hread := congrArg WirelessCommand.Reading.packetType hreading
    exact h8 (hread.symm.trans hdata)
  · have hreading := WirelessCommand.reading_of_not_verify hverify
    refine ⟨congrArg WirelessCommand.Reading.joystickData hreading, ?_⟩
    rintro ⟨haccepted, -⟩
    have hread := congrArg WirelessCommand.Reading.accepted hreading
    cases hread.symm.trans haccepted

theorem tame_pollReply {p : PollReplyPacket} (hid : p.header.id = ID)
    (htype : p.header.packetType = POLL_REPLY_PACKET_ID)
    (msg : List UInt8) : Tame (p.bytes ++ msg) := by
  obtain ⟨⟨id, packetType, mode⟩, level, errorCode, length, message⟩ := p
  cases hid
  cases htype
  have hlength : 8 < ((PollReplyPacket.bytes ⟨⟨ID, POLL_REPLY_PACKET_ID,
      mode⟩, level, errorCode, length, message⟩ ++ msg).map
        UInt8.toInt8).length := by
    rw [List.length_map, List.length_append]
    exact Nat.lt_add_right _ (show 8 < 20 from by decide)
  have hother : ∀ stale, _ := fun stale =>
    @reading_of_other stale _ hlength (by
      show Firmware.POLL_REPLY_PACKET_ID.toInt8 ≠ _
      decide)
  refine ⟨fun stale q hq => ?_, fun stale hinterprets => ?_⟩
  · cases (hother stale).1.symm.trans hq
  · exact absurd hinterprets (hother stale).2

/-! ## Sending -/

/-- What `c'` has sent since `c` has the property. -/
def Sends (ok : List UInt8 → Prop) (c c' : UdpController) : Prop :=
  ∃ new, c'.sent = c.sent ++ new ∧ ∀ payload ∈ new, ok payload

namespace Sends

variable {ok ok' : List UInt8 → Prop} {c c' c'' : UdpController}

theorem of_eq (h : c'.sent = c.sent) : Sends ok c c' :=
  ⟨[], by rw [h, List.append_nil], nofun⟩

theorem one {payload : List UInt8} (h : c'.sent = c.sent ++ [payload])
    (hok : ok payload) : Sends ok c c' :=
  ⟨[payload], h, fun _ hd => List.mem_singleton.mp hd ▸ hok⟩

theorem trans (h : Sends ok c c') (h' : Sends ok c' c'') :
    Sends ok c c'' := by
  obtain ⟨new, hnew, hok⟩ := h
  obtain ⟨new', hnew', hok'⟩ := h'
  refine ⟨new ++ new', by rw [hnew', hnew, List.append_assoc], fun d hd => ?_⟩
  rcases List.mem_append.mp hd with hold | hlast
  · exact hok d hold
  · exact hok' d hlast

theorem imp (h : Sends ok c c') (himp : ∀ payload, ok payload → ok' payload) :
    Sends ok' c c' := by
  obtain ⟨new, hnew, hok⟩ := h
  exact ⟨new, hnew, fun d hd => himp d (hok d hd)⟩

end Sends

variable {c : UdpController} {m : MainLoop} {i : Input}

/-- A send is one payload, or nothing without a destination. -/
theorem sends_sendDataPacket {ok : List UInt8 → Prop} {dataType userData :
    UInt8} {otherData : ℕ → Int32}
    (hok : ok (c.nextData dataType userData otherData).bytes) :
    Sends ok c (sendDataPacket dataType userData otherData c) := by
  by_cases hdest : c.DEST_IP = none
  · apply Sends.of_eq
    unfold sendDataPacket
    rw [hdest]
  · exact .one (sent_sendDataPacket hdest ..) hok

theorem sends_sendPollReplyPacket (h : Headed c) (mode : UInt8)
    (level : Int32) (msgLen : UInt8) (msg : Option (List UInt8)) :
    Sends Tame c (sendPollReplyPacket mode level msgLen msg c) := by
  unfold sendPollReplyPacket
  cases c.DEST_IP with
  | none => exact .of_eq rfl
  | some addr =>
      refine .one rfl (tame_pollReply ?_ ?_ _)
      · exact h.replyId
      · exact h.replyType

theorem sends_udpRecieve (h : Headed c) (addr : IpAddr)
    (payload : List UInt8) : Sends Tame c (udpRecieve addr payload c) := by
  have hmode : ∀ mode ip, Headed ({ c with DEST_IP := ip }.setMode mode) :=
    fun _ _ => ⟨h.dataId, h.dataType, h.replyId, h.replyType⟩
  have hobey : ∀ command, (obey command
      (c.setMode (byteAt payload 9))).sent = c.sent := by
    intro command
    unfold obey
    split_ifs <;> rfl
  unfold udpRecieve answer
  split_ifs
  · exact .of_eq (hobey _)
  · obtain ⟨new, hnew, hok⟩ := sends_sendPollReplyPacket
      (hmode (byteAt payload 9) (some addr)) (byteAt payload 9) batteryLevel
        0 none
    exact ⟨new, hnew, hok⟩
  · exact .of_eq rfl
  · exact .of_eq rfl

theorem sends_recieveAll (h : Headed m.udp)
    (packets : List (IpAddr × List UInt8)) :
    Sends Tame m.udp (recieveAll packets m).udp := by
  induction packets generalizing m with
  | nil => exact .of_eq rfl
  | cons packet rest ih =>
      have hfirst : Headed (recieve m packet).udp ∧
          Sends Tame m.udp (recieve m packet).udp := by
        unfold recieve
        split_ifs
        · exact ⟨headed_boot _, .of_eq rfl⟩
        · exact ⟨h.udpRecieve _ _, sends_udpRecieve h _ _⟩
      exact hfirst.2.trans (ih hfirst.1)

/-! ## An iteration -/

/-- The coordinates of the iteration lie on the stick. -/
def SamplesStick (i : Input) : Prop :=
  Process.OnStick i.joystick.1 ∧ Process.OnStick i.joystick.2

theorem sends_sendJoystick (h : Headed m.udp) (hstick : SamplesStick i) :
    Sends Tame m.udp (sendJoystick i m).udp := by
  unfold sendJoystick
  split_ifs
  · obtain ⟨hid, htype⟩ := h.nextData JOYSTICK_DATA 0
      fun k => if k = 0 then i.joystick.1 else i.joystick.2
    exact sends_sendDataPacket (tame_joystick hid htype rfl hstick)
  · exact .of_eq rfl

theorem sends_sendGyro (h : Headed m.udp) :
    Sends Tame m.udp (sendGyro i m).udp := by
  unfold sendGyro
  split_ifs
  · obtain ⟨hid, htype⟩ := h.nextData GYRO_DATA 0 fun _ => i.gyro
    exact sends_sendDataPacket (tame_gyro hid htype rfl)
  · exact .of_eq rfl

theorem sends_switchMode (h : Headed m.udp) (hstick : SamplesStick i) :
    Sends Tame m.udp (switchMode i m).2.udp := by
  unfold switchMode
  split_ifs
  · apply Sends.of_eq
    unfold idle
    dsimp only
    split_ifs <;> rfl
  · exact sends_sendJoystick h hstick
  · exact sends_sendGyro h
  · exact sends_sendGyro h
  · exact .of_eq rfl

/-- No event is the party command. -/
def Plain (m : MainLoop) : Prop :=
  m.directionEvent ≠ KONAMI_COMPLETE ∧ m.buttonEvent ≠ KONAMI_COMPLETE

theorem zero_ne_konami : (0 : UInt8) ≠ KONAMI_COMPLETE := by decide

theorem Plain.recieveAll (h : Plain m)
    (packets : List (IpAddr × List UInt8)) :
    Plain (recieveAll packets m) := by
  induction packets generalizing m with
  | nil => exact h
  | cons packet rest ih =>
      apply ih
      unfold recieve
      split_ifs
      · exact ⟨zero_ne_konami, zero_ne_konami⟩
      · exact h

theorem sends_sendUserAction (h : Headed m.udp) (hplain : Plain m) :
    Sends Tame m.udp (sendUserAction m).udp := by
  unfold sendUserAction
  by_cases hsome : m.directionEvent ≠ 0 ∨ m.buttonEvent ≠ 0
  · rw [if_pos hsome]
    obtain ⟨hid, htype⟩ := h.nextData USER_ACTION_DATA
      (if m.directionEvent ≠ 0 then m.directionEvent else m.buttonEvent)
      fun _ => 0
    refine sends_sendDataPacket (tame_userAction hid htype rfl ?_)
    show (if m.directionEvent ≠ 0 then m.directionEvent
      else m.buttonEvent) ≠ KONAMI_COMPLETE
    split_ifs
    · exact hplain.1
    · exact hplain.2
  · rw [if_neg hsome]
    exact .of_eq rfl

theorem code_ne_konami_direction (d : Direction) :
    d.code ≠ KONAMI_COMPLETE := by
  cases d <;> decide

theorem code_ne_konami_button (b : Button) : b.code ≠ KONAMI_COMPLETE := by
  cases b <;> decide

theorem buttonResult_ne_konami (i : Input) :
    i.buttonResult ≠ KONAMI_COMPLETE := by
  unfold Input.buttonResult
  split_ifs
  · exact code_ne_konami_button _
  · decide

theorem directionResult_ne_konami (i : Input) :
    i.directionResult ≠ KONAMI_COMPLETE := by
  unfold Input.directionResult
  split_ifs
  · exact code_ne_konami_direction _
  · decide

/-- The iteration completes the code for the party. -/
def CallsParty (m : MainLoop) (i : Input) : Prop :=
  konamiResult (atSwitch m i) = KONAMI_COMPLETE

theorem sends_iterate (h : Idle m) (hstick : SamplesStick i)
    (hparty : ¬ CallsParty m i) : Sends Tame m.udp (iterate m i).udp := by
  have hat := h.atSwitch i
  have hswitch := hat.switchMode i
  have hreceived : Sends Tame m.udp (atSwitch m i).udp := by
    have hall := sends_recieveAll h.headed i.recieved
    unfold atSwitch debounce
    split_ifs
    · exact hall
    · exact hall
  have hlate := sends_recieveAll hswitch.1.headed i.late
  have hplain : Plain (switchMode i (atSwitch m i)).2 := by
    refine ⟨?_, ?_⟩
    · rw [hswitch.1.direction_eq]
      unfold directionAfter
      split_ifs with hcode
      · exact hparty
      · rw [hat.direction_eq]
        exact directionResult_ne_konami i
    · rw [hswitch.1.button_eq]
      exact buttonResult_ne_konami i
  have hbefore := (hreceived.trans (sends_switchMode hat.headed
    hstick)).trans hlate
  unfold iterate
  dsimp only
  split_ifs
  · exact hbefore
  · exact hbefore.trans (sends_sendUserAction
      (headed_recieveAll hswitch.1.headed i.late) (hplain.recieveAll i.late))

/-- Without an event nothing is completed. -/
theorem not_callsParty_of_no_tick (h : Idle m) (i : Input)
    (htick : i.debounceTick = false) : ¬ CallsParty m i := by
  have hat := h.atSwitch i
  unfold CallsParty konamiResult
  have hdirection : (atSwitch m i).directionEvent = 0 := by
    rw [hat.direction_eq, Input.directionResult, htick]
    rfl
  have hbutton : (atSwitch m i).buttonEvent = 0 := by
    rw [hat.button_eq, Input.buttonResult, htick]
    rfl
  rw [hdirection, hbutton, Konami.checkKonami_zero]
  split_ifs <;> exact zero_ne_konami

/-- The user action is one payload, or none. -/
theorem sent_sendUserAction (h : Headed m.udp) :
    ∃ new, (sendUserAction m).udp.sent = m.udp.sent ++ new ∧
      (m.udp.DEST_IP = none → new = []) ∧
        (new = [] ∨ ∃ payload, new = [payload] ∧ StaysOnStick payload) := by
  have hnone : (sendUserAction m).udp.sent = m.udp.sent →
      ∃ new, (sendUserAction m).udp.sent = m.udp.sent ++ new ∧
        (m.udp.DEST_IP = none → new = []) ∧
          (new = [] ∨ ∃ payload, new = [payload] ∧ StaysOnStick payload) :=
    fun hsent => ⟨[], hsent.trans (List.append_nil _).symm, fun _ => rfl,
      .inl rfl⟩
  by_cases hsome : m.directionEvent ≠ 0 ∨ m.buttonEvent ≠ 0
  · by_cases hdest : m.udp.DEST_IP = none
    · apply hnone
      unfold sendUserAction sendDataPacket
      rw [if_pos hsome, hdest]
    · obtain ⟨hid, htype⟩ := h.nextData USER_ACTION_DATA
        (if m.directionEvent ≠ 0 then m.directionEvent else m.buttonEvent)
        fun _ => 0
      refine ⟨[_], ?_, fun hno => absurd hno hdest, .inr ⟨_, rfl,
        staysOnStick_userAction hid htype rfl⟩⟩
      unfold sendUserAction
      rw [if_pos hsome]
      exact sent_sendDataPacket hdest ..
  · apply hnone
    unfold sendUserAction
    rw [if_neg hsome]

/-- The party command goes out alone, from an idle controller. -/
theorem sent_of_callsParty (h : Idle m) (hearly : i.recieved = [])
    (hlate : i.late = []) (hparty : CallsParty m i) :
    m.udp.MODE = IDLE_MODE ∧ ∃ new, (iterate m i).udp.sent =
      m.udp.sent ++ new ∧ (m.udp.DEST_IP = none → new = []) ∧
        (new = [] ∨ ∃ payload, new = [payload] ∧ StaysOnStick payload) := by
  have hudp : (atSwitch m i).udp = m.udp := by
    unfold atSwitch debounce
    rw [hearly]
    split_ifs <;> rfl
  have hmode : m.udp.MODE = IDLE_MODE := by
    by_contra hne
    unfold CallsParty konamiResult at hparty
    rw [hudp, if_neg hne] at hparty
    exact absurd hparty (by decide)
  have hswitched : (switchMode i (atSwitch m i)).2.udp = m.udp := by
    unfold switchMode
    rw [hudp, if_pos hmode]
    unfold idle
    dsimp only
    split_ifs <;> exact hudp
  have hheaded : Headed (switchMode i (atSwitch m i)).2.udp :=
    hswitched ▸ h.headed
  refine ⟨hmode, ?_⟩
  unfold iterate
  rw [hlate]
  dsimp only [MainLoop.recieveAll, List.foldl_nil]
  split_ifs
  · exact ⟨[], by rw [hswitched, List.append_nil], fun _ => rfl, .inl rfl⟩
  · have hsent := sent_sendUserAction hheaded
    rw [hswitched] at hsent
    exact hsent

end ChuckLight
