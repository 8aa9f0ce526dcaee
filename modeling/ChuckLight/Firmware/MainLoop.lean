import ChuckLight.Firmware.Konami
import ChuckLight.Support.Runs

/-!
# The main loop of the controller

One iteration of the loop in `app_main`, as far as packets depend on it: the
LEDs and the variables that only drive them are left out.  Packets from the
base station come in at any time; those that the loop can tell apart are the
ones before the `switch` over the mode and the ones after it.
-/

namespace ChuckLight.Firmware

open UdpController Konami

def XY_REFRESH_RATE : UInt8 := 30
def GYRO_REFRESH_RATE : UInt8 := 30

def COLOR_WHEEL_MODE : UInt8 := 4
def PARTY_MODE : UInt8 := 7
def SCARY_MODE : UInt8 := 8

structure MainLoop where
  udp : UdpController
  konami : Konami
  buttonEvent : UInt8
  directionEvent : UInt8
  xyTick : UInt8
  gyroTick : UInt8

namespace MainLoop

/-- What an iteration reads: the packets up to the `switch` over the mode and
up to the send, `DEBOUNCE_TICK`, and the results of the read functions. -/
structure Input where
  recieved : List (IpAddr × List UInt8) := []
  debounceTick : Bool := true
  direction : Direction := .center
  button : Button := .none
  joystick : Int32 × Int32 := (0, 0)
  gyro : Int32 := 0
  late : List (IpAddr × List UInt8) := []

/-- The variables when the loop is entered, with what has been sent before. -/
def boot (sent : List (List UInt8)) : MainLoop where
  udp := { UdpController.init with sent := sent }
  konami := clearKonami
  buttonEvent := 0
  directionEvent := 0
  xyTick := 0
  gyroTick := 0

/-! ## Packets from the base station -/

/-- The packet makes the controller restart. -/
def Restarts (payload : List UInt8) : Prop :=
  IsValid payload ∧ byteAt payload 8 = COMMAND_PACKET_ID ∧
    (byteAt payload 10 = HARD_RESET_COMMAND ∨
      byteAt payload 10 = SOFT_RESET_COMMAND)

instance (payload : List UInt8) : Decidable (Restarts payload) :=
  inferInstanceAs (Decidable (_ ∧ _ ∧ _))

def recieve (m : MainLoop) (packet : IpAddr × List UInt8) : MainLoop :=
  if Restarts packet.2 then boot m.udp.sent
  else { m with udp := udpRecieve packet.1 packet.2 m.udp }

def recieveAll (packets : List (IpAddr × List UInt8)) (m : MainLoop) :
    MainLoop :=
  packets.foldl recieve m

/-! ## An iteration -/

/-- The block under `if(DEBOUNCE_TICK)`. -/
def debounce (i : Input) (m : MainLoop) : MainLoop :=
  if i.debounceTick then
    { m with
      directionEvent := i.direction.code
      buttonEvent := i.button.code
      konami := m.konami.konamiTick
      xyTick := m.xyTick + 1
      gyroTick := m.gyroTick + 1 }
  else m

/-- A refresh of the joystick in COLOR_WHEEL. -/
def sendJoystick (i : Input) (m : MainLoop) : MainLoop :=
  if m.xyTick > XY_REFRESH_RATE then
    { m with
      udp := sendDataPacket JOYSTICK_DATA 0
        (fun k => if k = 0 then i.joystick.1 else i.joystick.2) m.udp
      xyTick := 0 }
  else m

/-- A refresh of the motion in PARTY and SCARY. -/
def sendGyro (i : Input) (m : MainLoop) : MainLoop :=
  if m.gyroTick > GYRO_REFRESH_RATE then
    { m with
      udp := sendDataPacket GYRO_DATA 0 (fun _ => i.gyro) m.udp
      gyroTick := 0 }
  else m

/-- The case of IDLE.  The result says whether the loop goes to
`SKIP_USER_INPUT`. -/
def idle (m : MainLoop) : Bool × MainLoop :=
  let (code, konami) := checkKonami m.directionEvent m.buttonEvent m.konami
  let m := { m with konami := konami }
  if code = KONAMI_SEMICOMPLETE then (true, m)
  else if code = KONAMI_COMPLETE then
    (false, { m with directionEvent := KONAMI_COMPLETE })
  else if code = REV_KONAMI_COMPLETE then
    (false, { m with directionEvent := REV_KONAMI_COMPLETE })
  else (false, m)

/-- The `switch` over the mode. -/
def switchMode (i : Input) (m : MainLoop) : Bool × MainLoop :=
  if m.udp.MODE = IDLE_MODE then m.idle
  else if m.udp.MODE = COLOR_WHEEL_MODE then (false, m.sendJoystick i)
  else if m.udp.MODE = PARTY_MODE then (false, m.sendGyro i)
  else if m.udp.MODE = SCARY_MODE then (false, m.sendGyro i)
  else (false, m)

/-- The send of the user action. -/
def sendUserAction (m : MainLoop) : MainLoop :=
  if m.directionEvent ≠ 0 ∨ m.buttonEvent ≠ 0 then
    { m with
      udp := sendDataPacket USER_ACTION_DATA
        (if m.directionEvent ≠ 0 then m.directionEvent else m.buttonEvent)
        (fun _ => 0) m.udp }
  else m

/-- The iteration when it comes to the `switch` over the mode. -/
def atSwitch (m : MainLoop) (i : Input) : MainLoop :=
  debounce i (recieveAll i.recieved m)

def iterate (m : MainLoop) (i : Input) : MainLoop :=
  let (skip, m) := switchMode i (atSwitch m i)
  let m := recieveAll i.late m
  let m := if skip then m else sendUserAction m
  { m with directionEvent := 0, buttonEvent := 0 }

/-! ## User actions that are sent -/

/-- The user action that a payload carries. -/
def userActionOf (payload : List UInt8) : Option UInt8 :=
  if byteAt payload 8 = DATA_PACKET_ID ∧
      byteAt payload 10 = USER_ACTION_DATA then some (byteAt payload 11)
  else none

/-- All user actions that have been sent. -/
def userActions (c : UdpController) : List UInt8 :=
  c.sent.filterMap userActionOf

variable {c : UdpController} {m : MainLoop}

theorem userActionOf_dataPacket {p : DataPacket} (hid : p.header.id = ID)
    (htype : p.header.packetType = DATA_PACKET_ID) :
    userActionOf p.bytes =
      if p.dataType = USER_ACTION_DATA then some p.userAction else none := by
  obtain ⟨⟨id, packetType, mode⟩, dataType, userAction, joystick, gyro⟩ := p
  cases hid
  cases htype
  by_cases h : dataType = USER_ACTION_DATA
  · rw [if_pos h]
    exact if_pos ⟨rfl, h⟩
  · rw [if_neg h]
    exact if_neg fun hboth => h hboth.2

theorem dataType_nextData (c : UdpController) (dataType userData : UInt8)
    (otherData : ℕ → Int32) :
    (c.nextData dataType userData otherData).dataType = dataType := by
  unfold nextData fill
  split_ifs <;> rfl

theorem userActions_sendDataPacket (h : Headed c)
    (hdest : c.DEST_IP ≠ none) (userData : UInt8) (otherData : ℕ → Int32) :
    userActions (sendDataPacket USER_ACTION_DATA userData otherData c) =
      userActions c ++ [userData] := by
  obtain ⟨hid, htype⟩ := h.nextData USER_ACTION_DATA userData otherData
  have haction := userActionOf_dataPacket hid htype
  rw [if_pos (dataType_nextData c _ _ _)] at haction
  unfold userActions
  rw [sent_sendDataPacket hdest, List.filterMap_append,
    List.filterMap_cons_some haction]
  rfl

theorem userActions_sendDataPacket_of_ne (h : Headed c) {dataType : UInt8}
    (hne : dataType ≠ USER_ACTION_DATA) (userData : UInt8)
    (otherData : ℕ → Int32) :
    userActions (sendDataPacket dataType userData otherData c) =
      userActions c := by
  by_cases hdest : c.DEST_IP = none
  · unfold sendDataPacket
    rw [hdest]
  · obtain ⟨hid, htype⟩ := h.nextData dataType userData otherData
    have haction := userActionOf_dataPacket hid htype
    rw [dataType_nextData, if_neg hne] at haction
    unfold userActions
    rw [sent_sendDataPacket hdest, List.filterMap_append,
      List.filterMap_cons_none haction, List.filterMap_nil, List.append_nil]

theorem userActionOf_pollReply {p : PollReplyPacket} (hid : p.header.id = ID)
    (htype : p.header.packetType = POLL_REPLY_PACKET_ID)
    (msg : List UInt8) : userActionOf (p.bytes ++ msg) = none := by
  obtain ⟨⟨id, packetType, mode⟩, level, errorCode, length, message⟩ := p
  cases hid
  cases htype
  have hne : POLL_REPLY_PACKET_ID ≠ DATA_PACKET_ID := by decide
  exact if_neg fun hboth => hne hboth.1

theorem userActions_sendPollReplyPacket (h : Headed c) (mode : UInt8)
    (level : Int32) (msgLen : UInt8) (msg : Option (List UInt8)) :
    userActions (sendPollReplyPacket mode level msgLen msg c) =
      userActions c := by
  unfold sendPollReplyPacket
  cases c.DEST_IP with
  | none => rfl
  | some addr =>
      have hreply : ∀ p msg, p.header.id = ID →
          p.header.packetType = POLL_REPLY_PACKET_ID →
          [PollReplyPacket.bytes p ++ msg].filterMap userActionOf = [] :=
        fun p msg hid htype =>
          List.filterMap_cons_none (userActionOf_pollReply hid htype msg)
      unfold userActions
      rw [List.filterMap_append]
      refine (congrArg _ (hreply _ _ ?_ ?_)).trans (List.append_nil _)
      · exact h.replyId
      · exact h.replyType

theorem userActions_udpRecieve (h : Headed c) (addr : IpAddr)
    (payload : List UInt8) :
    userActions (udpRecieve addr payload c) = userActions c := by
  have hmode : ∀ mode ip, Headed ({ c with DEST_IP := ip }.setMode mode) :=
    fun _ _ => ⟨h.dataId, h.dataType, h.replyId, h.replyType⟩
  unfold udpRecieve
  split_ifs
  · unfold obey
    split_ifs <;> rfl
  · exact userActions_sendPollReplyPacket (hmode _ _) _ _ _ _
  · rfl
  · rfl

/-! ## Stages of an iteration -/

/-- Where an iteration stands: what it is about to send, and which user actions
have been sent so far. -/
structure Holds (direction button : UInt8) (actions : List UInt8)
    (m : MainLoop) : Prop where
  headed : Headed m.udp
  direction_eq : m.directionEvent = direction
  button_eq : m.buttonEvent = button
  actions_eq : userActions m.udp = actions

variable {direction button : UInt8} {actions : List UInt8}

theorem headed_boot (sent : List (List UInt8)) : Headed (boot sent).udp :=
  ⟨rfl, rfl, rfl, rfl⟩

/-- Between two iterations no event is held. -/
theorem Holds.recieveAll_idle (h : Holds 0 0 actions m)
    (packets : List (IpAddr × List UInt8)) :
    Holds 0 0 actions (recieveAll packets m) := by
  induction packets generalizing m with
  | nil => exact h
  | cons packet rest ih =>
      apply ih
      unfold recieve
      split_ifs
      · exact ⟨headed_boot _, rfl, rfl, h.actions_eq⟩
      · exact ⟨h.headed.udpRecieve _ _, h.direction_eq, h.button_eq,
          (userActions_udpRecieve h.headed _ _).trans h.actions_eq⟩

theorem DEST_IP_udpRecieve {payload : List UInt8}
    (hrestart : ¬ Restarts payload) (hdest : c.DEST_IP ≠ none)
    (addr : IpAddr) : (udpRecieve addr payload c).DEST_IP ≠ none := by
  unfold udpRecieve
  split_ifs with hvalid hcommand
  · have hobey : obey (byteAt payload 10) (c.setMode (byteAt payload 9)) =
        c.setMode (byteAt payload 9) := by
      unfold obey
      rw [if_neg fun h => hrestart ⟨hvalid, hcommand, .inl h⟩,
        if_neg fun h => hrestart ⟨hvalid, hcommand, .inr h⟩]
    rw [hobey]
    exact hdest
  · exact Option.some_ne_none addr
  · exact hdest
  · exact hdest

/-- Packets that do not restart the controller leave the events alone. -/
theorem Holds.recieveAll (h : Holds direction button actions m)
    (hdest : m.udp.DEST_IP ≠ none) {packets : List (IpAddr × List UInt8)}
    (hrestart : ∀ packet ∈ packets, ¬ Restarts packet.2) :
    Holds direction button actions (recieveAll packets m) ∧
      (MainLoop.recieveAll packets m).udp.DEST_IP ≠ none := by
  induction packets generalizing m with
  | nil => exact ⟨h, hdest⟩
  | cons packet rest ih =>
      have hfirst := hrestart packet (List.mem_cons_self ..)
      have hrecieve : recieve m packet =
          { m with udp := udpRecieve packet.1 packet.2 m.udp } := if_neg hfirst
      have hstep : Holds direction button actions (recieve m packet) := by
        rw [hrecieve]
        exact ⟨h.headed.udpRecieve _ _, h.direction_eq, h.button_eq,
          (userActions_udpRecieve h.headed _ _).trans h.actions_eq⟩
      have hknown : (recieve m packet).udp.DEST_IP ≠ none := by
        rw [hrecieve]
        exact DEST_IP_udpRecieve hfirst hdest _
      exact ih hstep hknown fun p hp =>
        hrestart p (List.mem_cons_of_mem _ hp)

/-- The direction that the iteration has debounced. -/
def Input.directionResult (i : Input) : UInt8 :=
  if i.debounceTick then i.direction.code else 0

/-- The button that the iteration has debounced. -/
def Input.buttonResult (i : Input) : UInt8 :=
  if i.debounceTick then i.button.code else 0

theorem Holds.debounce (h : Holds 0 0 actions m) (i : Input) :
    Holds i.directionResult i.buttonResult actions (debounce i m) := by
  unfold MainLoop.debounce Input.directionResult Input.buttonResult
  by_cases htick : i.debounceTick = true
  · rw [if_pos htick, if_pos htick, if_pos htick]
    exact ⟨h.headed, rfl, rfl, h.actions_eq⟩
  · rw [if_neg htick, if_neg htick, if_neg htick]
    exact h

theorem DEST_IP_sendDataPacket (dataType userData : UInt8)
    (otherData : ℕ → Int32) :
    (sendDataPacket dataType userData otherData c).DEST_IP = c.DEST_IP := by
  unfold sendDataPacket
  split <;> rfl

/-- A refresh of sampled data is no user action. -/
theorem Holds.sendJoystick (h : Holds direction button actions m)
    (i : Input) : Holds direction button actions (sendJoystick i m) ∧
      (MainLoop.sendJoystick i m).udp.DEST_IP = m.udp.DEST_IP := by
  unfold MainLoop.sendJoystick
  split_ifs
  · exact ⟨⟨h.headed.sendDataPacket _ _ _, h.direction_eq, h.button_eq,
      (userActions_sendDataPacket_of_ne h.headed (by decide) _ _).trans
        h.actions_eq⟩, DEST_IP_sendDataPacket _ _ _⟩
  · exact ⟨h, rfl⟩

theorem Holds.sendGyro (h : Holds direction button actions m)
    (i : Input) : Holds direction button actions (sendGyro i m) ∧
      (MainLoop.sendGyro i m).udp.DEST_IP = m.udp.DEST_IP := by
  unfold MainLoop.sendGyro
  split_ifs
  · exact ⟨⟨h.headed.sendDataPacket _ _ _, h.direction_eq, h.button_eq,
      (userActions_sendDataPacket_of_ne h.headed (by decide) _ _).trans
        h.actions_eq⟩, DEST_IP_sendDataPacket _ _ _⟩
  · exact ⟨h, rfl⟩

/-- The result of `check_konami` in the `switch`, and 0 outside IDLE. -/
def konamiResult (m : MainLoop) : UInt8 :=
  if m.udp.MODE = IDLE_MODE then
    (checkKonami m.directionEvent m.buttonEvent m.konami).1
  else 0

/-- The direction with which the iteration goes on after the `switch`. -/
def directionAfter (m : MainLoop) : UInt8 :=
  if konamiResult m = KONAMI_COMPLETE ∨
      konamiResult m = REV_KONAMI_COMPLETE then konamiResult m
  else m.directionEvent

/-- The `switch` over the mode sends no user action. -/
theorem Holds.switchMode (h : Holds direction button actions m) (i : Input) :
    Holds (directionAfter m) button actions (switchMode i m).2 ∧
      (MainLoop.switchMode i m).2.udp.DEST_IP = m.udp.DEST_IP ∧
      ((MainLoop.switchMode i m).1 = true ↔
        konamiResult m = KONAMI_SEMICOMPLETE) := by
  unfold MainLoop.switchMode directionAfter konamiResult
  by_cases hidle : m.udp.MODE = IDLE_MODE
  · simp only [if_pos hidle]
    unfold idle
    generalize checkKonami m.directionEvent m.buttonEvent m.konami = r
    obtain ⟨code, konami⟩ := r
    dsimp only
    by_cases hsemi : code = KONAMI_SEMICOMPLETE
    · rw [if_pos hsemi, if_neg (by rw [hsemi]; decide)]
      exact ⟨⟨h.headed, rfl, h.button_eq, h.actions_eq⟩, rfl,
        ⟨fun _ => hsemi, fun _ => rfl⟩⟩
    rw [if_neg hsemi]
    by_cases hcomplete : code = KONAMI_COMPLETE
    · rw [if_pos hcomplete, if_pos (.inl hcomplete)]
      exact ⟨⟨h.headed, hcomplete.symm, h.button_eq, h.actions_eq⟩, rfl,
        ⟨nofun, fun hcode => absurd hcode hsemi⟩⟩
    rw [if_neg hcomplete]
    by_cases hrev : code = REV_KONAMI_COMPLETE
    · rw [if_pos hrev, if_pos (.inr hrev)]
      exact ⟨⟨h.headed, hrev.symm, h.button_eq, h.actions_eq⟩, rfl,
        ⟨nofun, fun hcode => absurd hcode hsemi⟩⟩
    · rw [if_neg hrev, if_neg (by simp [hcomplete, hrev])]
      exact ⟨⟨h.headed, rfl, h.button_eq, h.actions_eq⟩, rfl,
        ⟨nofun, fun hcode => absurd hcode hsemi⟩⟩
  · have hzero : ¬ ((0 : UInt8) = KONAMI_COMPLETE ∨
        (0 : UInt8) = REV_KONAMI_COMPLETE) := by decide
    have hskip : False ↔ (0 : UInt8) = KONAMI_SEMICOMPLETE := by decide
    have hm : Holds m.directionEvent button actions m :=
      ⟨h.headed, rfl, h.button_eq, h.actions_eq⟩
    simp only [if_neg hidle, if_neg hzero]
    split_ifs
    · exact ⟨(hm.sendJoystick i).1, (hm.sendJoystick i).2, hskip⟩
    · exact ⟨(hm.sendGyro i).1, (hm.sendGyro i).2, hskip⟩
    · exact ⟨(hm.sendGyro i).1, (hm.sendGyro i).2, hskip⟩
    · exact ⟨hm, rfl, hskip⟩

/-- The user action of the last stage. -/
def chosen (direction button : UInt8) : List UInt8 :=
  if direction ≠ 0 then [direction]
  else if button ≠ 0 then [button]
  else []

theorem Holds.sendUserAction (h : Holds direction button actions m)
    (hdest : m.udp.DEST_IP ≠ none) :
    Holds direction button (actions ++ chosen direction button)
      (sendUserAction m) := by
  obtain ⟨hheaded, rfl, rfl, rfl⟩ := h
  unfold MainLoop.sendUserAction chosen
  by_cases hd : m.directionEvent ≠ 0
  · have hsome : m.directionEvent ≠ 0 ∨ m.buttonEvent ≠ 0 := .inl hd
    rw [if_pos hsome, if_pos hd, if_pos hd]
    exact ⟨hheaded.sendDataPacket _ _ _, rfl, rfl,
      userActions_sendDataPacket hheaded hdest _ _⟩
  · by_cases hb : m.buttonEvent ≠ 0
    · have hsome : m.directionEvent ≠ 0 ∨ m.buttonEvent ≠ 0 := .inr hb
      rw [if_pos hsome, if_neg hd, if_neg hd, if_pos hb]
      exact ⟨hheaded.sendDataPacket _ _ _, rfl, rfl,
        userActions_sendDataPacket hheaded hdest _ _⟩
    · have hnone : ¬ (m.directionEvent ≠ 0 ∨ m.buttonEvent ≠ 0) :=
        not_or.mpr ⟨hd, hb⟩
      rw [if_neg hnone, if_neg hd, if_neg hb, List.append_nil]
      exact ⟨hheaded, rfl, rfl, rfl⟩

/-! ## User events of an iteration -/

/-- A destination is known, and no late packet restarts the controller. -/
def Known (m : MainLoop) (i : Input) : Prop :=
  (atSwitch m i).udp.DEST_IP ≠ none ∧
    ∀ packet ∈ i.late, ¬ Restarts packet.2

instance (m : MainLoop) (i : Input) : Decidable (Known m i) :=
  inferInstanceAs (Decidable (_ ∧ _))

/-- The user actions that the iteration sends. -/
def newActions (m : MainLoop) (i : Input) : List UInt8 :=
  (userActions (iterate m i).udp).drop (userActions m.udp).length

/-- The debounced events of the iteration. -/
def Input.events (i : Input) : List UInt8 :=
  [i.directionResult, i.buttonResult].filter (· ≠ 0)

/-- Each event is sent in one packet, except where `check_konami` returns a
code: there nothing or only the code is sent. -/
def Transmits (m : MainLoop) (i : Input) : Prop :=
  Known m i →
    if konamiResult (atSwitch m i) = 0 then
      (newActions m i).Perm i.events
    else newActions m i = [] ∨ newActions m i = [konamiResult (atSwitch m i)]

/-- A direction and a button are debounced in the same iteration, and
`check_konami` returns no code for them. -/
def Coincide (m : MainLoop) (i : Input) : Prop :=
  Known m i ∧ konamiResult (atSwitch m i) = 0 ∧
    i.directionResult ≠ 0 ∧ i.buttonResult ≠ 0

/-- Between two iterations. -/
structure Idle (m : MainLoop) : Prop where
  headed : Headed m.udp
  direction_eq : m.directionEvent = 0
  button_eq : m.buttonEvent = 0

theorem Idle.atSwitch (h : Idle m) (i : Input) :
    Holds i.directionResult i.buttonResult (userActions m.udp)
      (atSwitch m i) := by
  have hm : Holds 0 0 (userActions m.udp) m :=
    ⟨h.headed, h.direction_eq, h.button_eq, rfl⟩
  exact (hm.recieveAll_idle i.recieved).debounce i

theorem headed_recieveAll (h : Headed m.udp)
    (packets : List (IpAddr × List UInt8)) :
    Headed (MainLoop.recieveAll packets m).udp := by
  induction packets generalizing m with
  | nil => exact h
  | cons packet rest ih =>
      apply ih
      unfold recieve
      split_ifs
      · exact headed_boot _
      · exact h.udpRecieve _ _

theorem headed_sendUserAction (h : Headed m.udp) :
    Headed (sendUserAction m).udp := by
  unfold MainLoop.sendUserAction
  by_cases hsome : m.directionEvent ≠ 0 ∨ m.buttonEvent ≠ 0
  · rw [if_pos hsome]
    exact h.sendDataPacket _ _ _
  · rw [if_neg hsome]
    exact h

theorem idle_iterate (h : Idle m) (i : Input) : Idle (iterate m i) := by
  have hlate := headed_recieveAll ((h.atSwitch i).switchMode i).1.headed i.late
  refine ⟨?_, rfl, rfl⟩
  unfold iterate
  dsimp only
  split_ifs
  · exact hlate
  · exact headed_sendUserAction hlate

/-- What an iteration with a destination sends. -/
theorem newActions_eq (h : Idle m) {i : Input} (hknown : Known m i) :
    newActions m i =
      if konamiResult (atSwitch m i) = KONAMI_SEMICOMPLETE then []
      else chosen (directionAfter (atSwitch m i)) i.buttonResult := by
  obtain ⟨hdest, hrestart⟩ := hknown
  obtain ⟨hholds, hkept, hskip⟩ := (h.atSwitch i).switchMode i
  rw [← hkept] at hdest
  obtain ⟨hlate, hdest⟩ := hholds.recieveAll hdest hrestart
  have hactions : userActions (iterate m i).udp = userActions m.udp ++
      if konamiResult (atSwitch m i) = KONAMI_SEMICOMPLETE then []
      else chosen (directionAfter (atSwitch m i)) i.buttonResult := by
    by_cases hsemi : konamiResult (atSwitch m i) = KONAMI_SEMICOMPLETE
    · have hrun : userActions (iterate m i).udp =
          userActions (MainLoop.recieveAll i.late
            (MainLoop.switchMode i (atSwitch m i)).2).udp := by
        unfold iterate
        dsimp only
        rw [if_pos (hskip.mpr hsemi)]
      rw [hrun, if_pos hsemi, List.append_nil]
      exact hlate.actions_eq
    · have hrun : userActions (iterate m i).udp =
          userActions (MainLoop.sendUserAction (MainLoop.recieveAll i.late
            (MainLoop.switchMode i (atSwitch m i)).2)).udp := by
        unfold iterate
        dsimp only
        rw [if_neg fun hb => hsemi (hskip.mp hb)]
      rw [hrun, if_neg hsemi]
      exact (hlate.sendUserAction hdest).actions_eq
  unfold newActions
  rw [hactions, List.drop_left]

theorem konamiResult_cases (m : MainLoop) :
    konamiResult m = 0 ∨ konamiResult m = KONAMI_SEMICOMPLETE ∨
      konamiResult m = KONAMI_COMPLETE ∨
      konamiResult m = REV_KONAMI_COMPLETE := by
  unfold konamiResult
  split_ifs
  · exact checkKonami_cases _ _ _
  · exact .inl rfl

/-- With a code, nothing or only the code is sent. -/
theorem newActions_of_konami (h : Idle m) {i : Input} (hknown : Known m i)
    (hcode : konamiResult (atSwitch m i) ≠ 0) :
    newActions m i = [] ∨ newActions m i = [konamiResult (atSwitch m i)] := by
  rw [newActions_eq h hknown]
  by_cases hsemi : konamiResult (atSwitch m i) = KONAMI_SEMICOMPLETE
  · rw [if_pos hsemi]
    exact .inl rfl
  · have hcomplete : konamiResult (atSwitch m i) = KONAMI_COMPLETE ∨
        konamiResult (atSwitch m i) = REV_KONAMI_COMPLETE := by
      rcases konamiResult_cases (atSwitch m i) with hc | hc | hc
      · exact absurd hc hcode
      · exact absurd hc hsemi
      · exact hc
    rw [if_neg hsemi, directionAfter, if_pos hcomplete, chosen, if_pos hcode]
    exact .inr rfl

/-- Without a code, the direction is sent, or the button if there is none. -/
theorem newActions_of_no_konami (h : Idle m) {i : Input}
    (hknown : Known m i) (hcode : konamiResult (atSwitch m i) = 0) :
    newActions m i = chosen i.directionResult i.buttonResult := by
  have hdirection := (h.atSwitch i).direction_eq
  rw [newActions_eq h hknown, directionAfter, hcode, if_neg (by decide),
    if_neg (by decide), hdirection]

theorem transmits_iff (h : Idle m) (i : Input) :
    Transmits m i ↔ ¬ Coincide m i := by
  unfold Transmits
  by_cases hknown : Known m i
  · by_cases hcode : konamiResult (atSwitch m i) = 0
    · rw [if_pos hcode, newActions_of_no_konami h hknown hcode]
      unfold chosen Input.events
      by_cases hd : i.directionResult = 0
      · have hnot : ¬ Coincide m i := fun hc => hc.2.2.1 hd
        by_cases hb : i.buttonResult = 0
        · simp [hd, hb, hnot]
        · simp [hd, hb, hnot]
      · by_cases hb : i.buttonResult = 0
        · have hnot : ¬ Coincide m i := fun hc => hc.2.2.2 hb
          simp [hd, hb, hnot]
        · have hboth : Coincide m i := ⟨hknown, hcode, hd, hb⟩
          have hperm : ¬ [i.directionResult].Perm
              [i.directionResult, i.buttonResult] :=
            fun hp => absurd hp.length_eq (by simp)
          simp [hd, hb, hboth, hknown, hperm]
    · have hnot : ¬ Coincide m i := fun hc => hcode hc.2.1
      rw [if_neg hcode]
      exact ⟨fun _ => hnot, fun _ _ => newActions_of_konami h hknown hcode⟩
  · exact ⟨fun _ hc => hknown hc.1, fun _ hk => absurd hk hknown⟩

theorem idle_boot (sent : List (List UInt8)) : Idle (boot sent) :=
  ⟨headed_boot sent, rfl, rfl⟩

/-- In a run of the loop every user event is transmitted if and only if no
direction coincides with a button. -/
theorem transmits_run_iff (inputs : List Input) :
    Runs.AllSteps iterate Transmits (boot []) inputs ↔
      Runs.AllSteps iterate (fun m i => ¬ Coincide m i) (boot []) inputs :=
  Runs.allSteps_congr (fun _ i h _ => idle_iterate h i)
    (fun _ i h => transmits_iff h i) (idle_boot [])

/-- A poll of the base station in CONTROL_SELECTION, then RIGHT and B1 in one
tick. -/
def coincidence : List Input :=
  [{ recieved := [(0, ID ++ [POLL_PACKET_ID, 3])] },
    { direction := .right, button := .b1 }]

theorem not_transmits_coincidence :
    ¬ Runs.AllSteps iterate Transmits (boot []) coincidence := by
  rintro ⟨-, htransmits, -⟩
  have hknown : Known (iterate (boot [])
      { recieved := [(0, ID ++ [POLL_PACKET_ID, 3])] })
      { direction := .right, button := .b1 } := by decide
  have hperm := htransmits hknown
  rw [if_pos (by decide)] at hperm
  have hlength := hperm.length_eq
  revert hlength
  decide

/-- The iterations that a tick has woken. -/
def ticks (inputs : List Input) : ℕ :=
  inputs.countP fun i => i.debounceTick

/-! ## Mode and destination -/

theorem fields_sendDataPacket (c : UdpController) (dataType userData : UInt8)
    (otherData : ℕ → Int32) :
    (sendDataPacket dataType userData otherData c).MODE = c.MODE ∧
      (sendDataPacket dataType userData otherData c).DEST_IP = c.DEST_IP := by
  unfold sendDataPacket
  split <;> exact ⟨rfl, rfl⟩

theorem fields_switchMode (i : Input) (m : MainLoop) :
    (switchMode i m).2.udp.MODE = m.udp.MODE ∧
      (switchMode i m).2.udp.DEST_IP = m.udp.DEST_IP := by
  unfold switchMode sendJoystick sendGyro
  split_ifs
  · unfold idle
    dsimp only
    split_ifs <;> exact ⟨rfl, rfl⟩
  all_goals first
    | exact fields_sendDataPacket _ _ _ _
    | exact ⟨rfl, rfl⟩

theorem fields_sendUserAction (m : MainLoop) :
    (sendUserAction m).udp.MODE = m.udp.MODE ∧
      (sendUserAction m).udp.DEST_IP = m.udp.DEST_IP := by
  unfold sendUserAction
  by_cases hsome : m.directionEvent ≠ 0 ∨ m.buttonEvent ≠ 0
  · rw [if_pos hsome]
    exact fields_sendDataPacket _ _ _ _
  · rw [if_neg hsome]
    exact ⟨rfl, rfl⟩

theorem udp_debounce (i : Input) (m : MainLoop) :
    (debounce i m).udp = m.udp := by
  unfold debounce
  split_ifs <;> rfl

/-- Only packets change them. -/
theorem fields_iterate (m : MainLoop) (i : Input) :
    (iterate m i).udp.MODE =
        (recieveAll i.late (switchMode i (atSwitch m i)).2).udp.MODE ∧
      (iterate m i).udp.DEST_IP =
        (recieveAll i.late (switchMode i (atSwitch m i)).2).udp.DEST_IP := by
  unfold iterate
  dsimp only
  split_ifs
  · exact ⟨rfl, rfl⟩
  · exact fields_sendUserAction _

end MainLoop

end ChuckLight.Firmware
