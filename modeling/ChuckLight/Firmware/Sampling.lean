import ChuckLight.Firmware.MainLoop

/-!
# How often the controller samples

In COLOR_WHEEL the main loop sends the position of the stick, and in PARTY and
SCARY the motion, whenever the counter of the sample is above its rate.  The
counters advance in all modes and wrap around; a sample is sent in every 31st
tick at most, and in the modes of the sample also at least.
-/

namespace ChuckLight.Firmware.MainLoop

open UdpController

/-- The data that the loop samples. -/
inductive Sample where
  | joystick
  | gyro
  deriving DecidableEq

namespace Sample

def dataType : Sample → UInt8
  | joystick => JOYSTICK_DATA
  | gyro => GYRO_DATA

/-- The counter of the sample. -/
def tick : Sample → MainLoop → UInt8
  | joystick => xyTick
  | gyro => gyroTick

/-- The modes in which the loop looks at the counter. -/
def Active : Sample → UInt8 → Prop
  | joystick, mode => mode = COLOR_WHEEL_MODE
  | gyro, mode => mode = PARTY_MODE ∨ mode = SCARY_MODE

instance (k : Sample) (mode : UInt8) : Decidable (k.Active mode) :=
  match k with
  | joystick => inferInstanceAs (Decidable (_ = _))
  | gyro => inferInstanceAs (Decidable (_ ∨ _))

/-- The payload carries the sample. -/
def Carried (k : Sample) (payload : List UInt8) : Prop :=
  byteAt payload 8 = DATA_PACKET_ID ∧ byteAt payload 10 = k.dataType

instance (k : Sample) (payload : List UInt8) : Decidable (k.Carried payload) :=
  inferInstanceAs (Decidable (_ ∧ _))

end Sample

/-- How often the sample has been sent. -/
def samples (k : Sample) (c : UdpController) : ℕ :=
  c.sent.countP fun payload => decide (k.Carried payload)

/-- The counter is above the rate. -/
def Due (k : Sample) (m : MainLoop) : Prop := 30 < (k.tick m).toNat

instance (k : Sample) (m : MainLoop) : Decidable (Due k m) :=
  inferInstanceAs (Decidable (_ < _))

variable {k : Sample} {c : UdpController} {m : MainLoop} {i : Input}

/-! ## What is sent -/

theorem carried_dataPacket {p : DataPacket} (hid : p.header.id = ID)
    (htype : p.header.packetType = DATA_PACKET_ID) :
    k.Carried p.bytes ↔ p.dataType = k.dataType := by
  obtain ⟨⟨id, packetType, mode⟩, dataType, userAction, joystick, gyro⟩ := p
  cases hid
  cases htype
  exact ⟨fun h => h.2, fun h => ⟨rfl, h⟩⟩

theorem not_carried_pollReply {p : PollReplyPacket} (hid : p.header.id = ID)
    (htype : p.header.packetType = POLL_REPLY_PACKET_ID)
    (msg : List UInt8) : ¬ k.Carried (p.bytes ++ msg) := by
  obtain ⟨⟨id, packetType, mode⟩, level, errorCode, length, message⟩ := p
  cases hid
  cases htype
  have hne : POLL_REPLY_PACKET_ID ≠ DATA_PACKET_ID := by decide
  exact fun h => hne h.1

theorem samples_sendDataPacket (h : Headed c) (dataType userData : UInt8)
    (otherData : ℕ → Int32) :
    samples k (sendDataPacket dataType userData otherData c) =
      samples k c +
        if c.DEST_IP ≠ none ∧ dataType = k.dataType then 1 else 0 := by
  by_cases hdest : c.DEST_IP = none
  · rw [if_neg fun hboth => hboth.1 hdest]
    unfold sendDataPacket
    rw [hdest]
    rfl
  · obtain ⟨hid, htype⟩ := h.nextData dataType userData otherData
    have hcarried : k.Carried (c.nextData dataType userData otherData).bytes ↔
        dataType = k.dataType := by
      rw [carried_dataPacket hid htype, dataType_nextData]
    unfold samples
    rw [sent_sendDataPacket hdest, List.countP_append, List.countP_singleton]
    by_cases hdata : dataType = k.dataType
    · have hsent : c.DEST_IP ≠ none ∧ dataType = k.dataType := ⟨hdest, hdata⟩
      rw [decide_eq_true (hcarried.mpr hdata), if_pos rfl, if_pos hsent]
    · have hnot : ¬ (c.DEST_IP ≠ none ∧ dataType = k.dataType) :=
        fun hboth => hdata hboth.2
      rw [decide_eq_false fun htrue => hdata (hcarried.mp htrue),
        if_neg Bool.false_ne_true, if_neg hnot]

theorem samples_udpRecieve (h : Headed c) (addr : IpAddr)
    (payload : List UInt8) :
    samples k (udpRecieve addr payload c) = samples k c := by
  have hreply : ∀ p msg, p.header.id = ID →
      p.header.packetType = POLL_REPLY_PACKET_ID →
      [PollReplyPacket.bytes p ++ msg].countP
        (fun payload => decide (k.Carried payload)) = 0 := by
    intro p msg hid htype
    rw [List.countP_singleton,
      decide_eq_false (not_carried_pollReply hid htype msg)]
    rfl
  unfold udpRecieve
  split_ifs
  · unfold obey
    split_ifs <;> rfl
  · unfold answer sendPollReplyPacket samples
    refine (List.countP_append ..).trans ?_
    refine (congrArg _ (hreply _ _ ?_ ?_)).trans (Nat.add_zero _)
    · exact h.replyId
    · exact h.replyType
  · rfl
  · rfl

/-! ## Stages of an iteration -/

/-- The loop has looked at the counter of `k'`: if it was due, the sample was
sent to a known destination and the counter reset. -/
structure Refreshed (k' : Sample) (m m' : MainLoop) : Prop where
  tick : ∀ k, k.tick m' = if k = k' ∧ Due k m then 0 else k.tick m
  samples : ∀ k, MainLoop.samples k m'.udp = MainLoop.samples k m.udp +
    if (k = k' ∧ Due k m) ∧ m.udp.DEST_IP ≠ none then 1 else 0

theorem refreshed_of_not_due {k' : Sample} (h : ¬ Due k' m) :
    Refreshed k' m m := by
  have hnot : ∀ k, ¬ (k = k' ∧ Due k m) := by
    rintro k ⟨rfl, hdue⟩
    exact h hdue
  refine ⟨fun k => (if_neg (hnot k)).symm, fun k => ?_⟩
  have hsent : ¬ ((k = k' ∧ Due k m) ∧ m.udp.DEST_IP ≠ none) :=
    fun hboth => hnot k hboth.1
  rw [if_neg hsent]
  rfl

theorem samples_sendSample (h : Headed m.udp) {k' : Sample} (hdue : Due k' m)
    (otherData : ℕ → Int32) (k : Sample) :
    samples k (sendDataPacket k'.dataType 0 otherData m.udp) =
      samples k m.udp +
        if (k = k' ∧ Due k m) ∧ m.udp.DEST_IP ≠ none then 1 else 0 := by
  have hsent : (m.udp.DEST_IP ≠ none ∧ k'.dataType = k.dataType) ↔
      ((k = k' ∧ Due k m) ∧ m.udp.DEST_IP ≠ none) := by
    have htype : k'.dataType = k.dataType ↔ k = k' := by
      cases k <;> cases k' <;> decide
    rw [htype]
    constructor
    · rintro ⟨hdest, rfl⟩
      exact ⟨⟨rfl, hdue⟩, hdest⟩
    · rintro ⟨⟨rfl, -⟩, hdest⟩
      exact ⟨hdest, rfl⟩
  rw [samples_sendDataPacket h]
  simp only [hsent]

theorem refreshed_sendJoystick (h : Headed m.udp) (i : Input) :
    Refreshed .joystick m (sendJoystick i m) := by
  have hdue : m.xyTick > XY_REFRESH_RATE ↔ Due .joystick m :=
    UInt8.lt_iff_toNat_lt
  unfold sendJoystick
  by_cases hover : m.xyTick > XY_REFRESH_RATE
  · rw [if_pos hover]
    rw [hdue] at hover
    refine ⟨fun k => ?_, fun k => samples_sendSample h hover _ k⟩
    cases k with
    | joystick => exact (if_pos ⟨rfl, hover⟩).symm
    | gyro => exact (if_neg fun hboth => nomatch hboth.1).symm
  · rw [if_neg hover]
    exact refreshed_of_not_due fun hd => hover (hdue.mpr hd)

theorem refreshed_sendGyro (h : Headed m.udp) (i : Input) :
    Refreshed .gyro m (sendGyro i m) := by
  have hdue : m.gyroTick > GYRO_REFRESH_RATE ↔ Due .gyro m :=
    UInt8.lt_iff_toNat_lt
  unfold sendGyro
  by_cases hover : m.gyroTick > GYRO_REFRESH_RATE
  · rw [if_pos hover]
    rw [hdue] at hover
    refine ⟨fun k => ?_, fun k => samples_sendSample h hover _ k⟩
    cases k with
    | gyro => exact (if_pos ⟨rfl, hover⟩).symm
    | joystick => exact (if_neg fun hboth => nomatch hboth.1).symm
  · rw [if_neg hover]
    exact refreshed_of_not_due fun hd => hover (hdue.mpr hd)

theorem fields_idle (m : MainLoop) :
    m.idle.2.udp = m.udp ∧ ∀ k : Sample, k.tick m.idle.2 = k.tick m := by
  unfold idle
  dsimp only
  split_ifs <;> exact ⟨rfl, fun k => by cases k <;> rfl⟩

/-- The `switch` looks at the counter of the sample in the modes of the
sample. -/
theorem switchMode_sample (h : Headed m.udp) (k : Sample) (i : Input) :
    k.tick (switchMode i m).2 =
        (if k.Active m.udp.MODE ∧ Due k m then 0 else k.tick m) ∧
      samples k (switchMode i m).2.udp = samples k m.udp +
        if (k.Active m.udp.MODE ∧ Due k m) ∧ m.udp.DEST_IP ≠ none then 1
        else 0 := by
  have hsample : ∀ k' m', Refreshed k' m m' →
      (k.Active m.udp.MODE ↔ k = k') →
      k.tick m' = (if k.Active m.udp.MODE ∧ Due k m then 0 else k.tick m) ∧
        samples k m'.udp = samples k m.udp +
          if (k.Active m.udp.MODE ∧ Due k m) ∧ m.udp.DEST_IP ≠ none then 1
          else 0 := by
    intro k' m' hm' hactive
    simp only [hactive]
    exact ⟨hm'.tick k, hm'.samples k⟩
  have hkeep : ∀ m' : MainLoop, ¬ k.Active m.udp.MODE →
      k.tick m' = k.tick m → samples k m'.udp = samples k m.udp →
      k.tick m' = (if k.Active m.udp.MODE ∧ Due k m then 0 else k.tick m) ∧
        samples k m'.udp = samples k m.udp +
          if (k.Active m.udp.MODE ∧ Due k m) ∧ m.udp.DEST_IP ≠ none then 1
          else 0 := by
    intro m' hactive htick hsamples
    rw [if_neg fun hboth => hactive hboth.1,
      if_neg fun hall => hactive hall.1.1]
    exact ⟨htick, hsamples⟩
  unfold switchMode
  by_cases hidle : m.udp.MODE = IDLE_MODE
  · rw [if_pos hidle]
    have hactive : ¬ k.Active m.udp.MODE := by
      rw [hidle]
      cases k <;> decide
    obtain ⟨hudp, htick⟩ := fields_idle m
    exact hkeep _ hactive (htick k) (congrArg (samples k) hudp)
  rw [if_neg hidle]
  by_cases hwheel : m.udp.MODE = COLOR_WHEEL_MODE
  · rw [if_pos hwheel]
    refine hsample .joystick _ (refreshed_sendJoystick h i) ?_
    rw [hwheel]
    cases k <;> decide
  rw [if_neg hwheel]
  by_cases hparty : m.udp.MODE = PARTY_MODE
  · rw [if_pos hparty]
    refine hsample .gyro _ (refreshed_sendGyro h i) ?_
    rw [hparty]
    cases k <;> decide
  rw [if_neg hparty]
  by_cases hscary : m.udp.MODE = SCARY_MODE
  · rw [if_pos hscary]
    refine hsample .gyro _ (refreshed_sendGyro h i) ?_
    rw [hscary]
    cases k <;> decide
  · rw [if_neg hscary]
    refine hkeep m ?_ rfl rfl
    cases k with
    | joystick => exact hwheel
    | gyro => exact not_or.mpr ⟨hparty, hscary⟩

theorem samples_recieveAll (h : Headed m.udp)
    (packets : List (IpAddr × List UInt8)) :
    samples k (recieveAll packets m).udp = samples k m.udp ∧
      (k.tick (recieveAll packets m) = k.tick m ∨
        k.tick (recieveAll packets m) = 0) := by
  induction packets generalizing m with
  | nil => exact ⟨rfl, .inl rfl⟩
  | cons packet rest ih =>
      have hfirst : Headed (recieve m packet).udp ∧
          samples k (recieve m packet).udp = samples k m.udp ∧
          (k.tick (recieve m packet) = k.tick m ∨
            k.tick (recieve m packet) = 0) := by
        unfold recieve
        split_ifs
        · exact ⟨headed_boot _, rfl, .inr (by cases k <;> rfl)⟩
        · exact ⟨h.udpRecieve _ _, samples_udpRecieve h _ _,
            .inl (by cases k <;> rfl)⟩
      obtain ⟨hheaded, hsamples, htick⟩ := hfirst
      obtain ⟨hsamples', htick'⟩ := ih hheaded
      refine ⟨hsamples'.trans hsamples, ?_⟩
      rcases htick' with hsame | hzero
      · exact htick.imp hsame.trans hsame.trans
      · exact .inr hzero

theorem samples_sendUserAction (h : Headed m.udp) :
    samples k (sendUserAction m).udp = samples k m.udp := by
  unfold sendUserAction
  by_cases hsome : m.directionEvent ≠ 0 ∨ m.buttonEvent ≠ 0
  · rw [if_pos hsome]
    have hne : USER_ACTION_DATA ≠ k.dataType := by
      cases k <;> decide
    refine (samples_sendDataPacket h _ _ _).trans ?_
    rw [if_neg fun hboth => hne hboth.2]
    rfl
  · rw [if_neg hsome]

/-! ## Iterations -/

theorem tick_debounce (k : Sample) (i : Input) (m : MainLoop) :
    k.tick (debounce i m) = k.tick m + if i.debounceTick then 1 else 0 := by
  unfold debounce
  split_ifs
  · cases k <;> rfl
  · exact (UInt8.add_zero _).symm

/-- The counter advances with the tick, unless a packet restarts the
controller. -/
theorem tick_atSwitch (h : Headed m.udp) (k : Sample) (i : Input) :
    samples k (atSwitch m i).udp = samples k m.udp ∧
      ((k.tick (atSwitch m i)).toNat ≤
        (k.tick m).toNat + if i.debounceTick then 1 else 0) := by
  obtain ⟨hsamples, htick⟩ := @samples_recieveAll k m h i.recieved
  refine ⟨(congrArg (samples k) (udp_debounce i _)).trans hsamples, ?_⟩
  have hle : (k.tick (recieveAll i.recieved m)).toNat ≤ (k.tick m).toNat := by
    rcases htick with hsame | hzero
    · exact Nat.le_of_eq (congrArg _ hsame)
    · rw [hzero]
      exact Nat.zero_le _
  unfold atSwitch
  rw [tick_debounce, UInt8.toNat_add]
  refine Nat.le_trans (Nat.mod_le _ _) (Nat.add_le_add hle ?_)
  split_ifs <;> decide

theorem tick_iterate (k : Sample) (m : MainLoop) (i : Input) :
    k.tick (iterate m i) =
      k.tick (recieveAll i.late (switchMode i (atSwitch m i)).2) := by
  have haction : ∀ m : MainLoop, k.tick (sendUserAction m) = k.tick m := by
    intro m
    unfold sendUserAction
    split_ifs <;> cases k <;> rfl
  have hevents : ∀ m : MainLoop,
      k.tick { m with directionEvent := 0, buttonEvent := 0 } = k.tick m := by
    intro m
    cases k <;> rfl
  unfold iterate
  dsimp only
  split_ifs
  · exact hevents _
  · exact (hevents _).trans (haction _)

theorem samples_iterate (h : Idle m) (k : Sample) (i : Input) :
    samples k (iterate m i).udp = samples k m.udp +
      if (k.Active (atSwitch m i).udp.MODE ∧ Due k (atSwitch m i)) ∧
          (atSwitch m i).udp.DEST_IP ≠ none then 1 else 0 := by
  have hswitch := (switchMode_sample (h.atSwitch i).headed k i).2
  have hswitched := ((h.atSwitch i).switchMode i).1.headed
  have hlate := (@samples_recieveAll k _ hswitched i.late).1
  have hsent : samples k (iterate m i).udp =
      samples k (recieveAll i.late (switchMode i (atSwitch m i)).2).udp := by
    unfold iterate
    dsimp only
    split_ifs
    · rfl
    · exact samples_sendUserAction (headed_recieveAll hswitched i.late)
  rw [hsent, hlate, hswitch, (tick_atSwitch h.headed k i).1]

/-! ## The rate -/

theorem idle_run (early : List Input) :
    Idle (early.foldl iterate (boot [])) := by
  have hrun : ∀ m ∈ Runs.states iterate (boot []) early, Idle m :=
    Runs.invariant (fun _ i h _ => idle_iterate h i) (idle_boot [])
      (Runs.allSteps_true _ _)
  exact hrun _ Runs.foldl_mem_states

/-- The ticks that have been used up for samples, and those that the counter
has saved for the next one. -/
def credit (k : Sample) (m : MainLoop) : ℕ :=
  31 * samples k m.udp + min (k.tick m).toNat 31

/-- The counter is not due after an iteration that has looked at it. -/
theorem tick_le_of_active (h : Headed (atSwitch m i).udp)
    (hactive : k.Active (atSwitch m i).udp.MODE) :
    (k.tick (switchMode i (atSwitch m i)).2).toNat ≤ 30 := by
  rw [(switchMode_sample h k i).1]
  by_cases hdue : Due k (atSwitch m i)
  · rw [if_pos ⟨hactive, hdue⟩]
    exact Nat.zero_le 30
  · rw [if_neg fun hboth => hdue hboth.2]
    exact Nat.le_of_not_lt hdue

theorem credit_iterate (h : Idle m) (k : Sample) (i : Input) :
    credit k (iterate m i) ≤
      credit k m + if i.debounceTick then 1 else 0 := by
  have hheaded := (h.atSwitch i).headed
  have hswitched := ((h.atSwitch i).switchMode i).1.headed
  have htick := (switchMode_sample hheaded k i).1
  have hlate := (@samples_recieveAll k _ hswitched i.late).2
  have hat := (tick_atSwitch h.headed k i).2
  have hle : (k.tick (iterate m i)).toNat ≤
      (k.tick (switchMode i (atSwitch m i)).2).toNat := by
    rw [tick_iterate]
    rcases hlate with hsame | hzero
    · exact Nat.le_of_eq (congrArg _ hsame)
    · rw [hzero]
      exact Nat.zero_le _
  rw [htick] at hle
  unfold credit
  rw [samples_iterate h]
  generalize (if i.debounceTick = true then 1 else 0) = w at hat ⊢
  by_cases hfires : k.Active (atSwitch m i).udp.MODE ∧ Due k (atSwitch m i)
  · have hdue : 30 < (k.tick (atSwitch m i)).toNat := hfires.2
    have hnone : (0 : UInt8).toNat = 0 := rfl
    rw [if_pos hfires, hnone] at hle
    split_ifs <;> omega
  · have hnone : ¬ ((k.Active (atSwitch m i).udp.MODE ∧
        Due k (atSwitch m i)) ∧ (atSwitch m i).udp.DEST_IP ≠ none) :=
      fun hsent => hfires hsent.1
    rw [if_neg hfires] at hle
    rw [if_neg hnone]
    omega

/-- In any part of any run there is at most one packet of the sample for 31
ticks, after the first one. -/
theorem samples_le (k : Sample) (early inputs : List Input) :
    31 * samples k ((early ++ inputs).foldl iterate (boot [])).udp ≤
      31 * samples k (early.foldl iterate (boot [])).udp + ticks inputs +
        31 := by
  rw [List.foldl_append]
  have hidle := idle_run early
  generalize early.foldl iterate (boot []) = m at hidle ⊢
  have hrun : credit k (inputs.foldl iterate m) ≤
      credit k m + ticks inputs :=
    Runs.growth (fun _ i h _ => idle_iterate h i)
      (fun _ i h _ => credit_iterate h k i) hidle (Runs.allSteps_true _ _)
  unfold credit at hrun
  omega

/-! ## In the modes of the sample -/

/-- The iteration looks at the counter of the sample, a destination is known,
and no packet restarts the controller. -/
structure Looks (k : Sample) (m : MainLoop) (i : Input) : Prop where
  active : k.Active (atSwitch m i).udp.MODE
  known : (atSwitch m i).udp.DEST_IP ≠ none
  stays : ∀ packet ∈ i.recieved ++ i.late, ¬ Restarts packet.2

theorem tick_recieveAll {packets : List (IpAddr × List UInt8)}
    (hstays : ∀ packet ∈ packets, ¬ Restarts packet.2) (k : Sample)
    (m : MainLoop) : k.tick (recieveAll packets m) = k.tick m := by
  induction packets generalizing m with
  | nil => rfl
  | cons packet rest ih =>
      have hfirst : recieve m packet =
          { m with udp := udpRecieve packet.1 packet.2 m.udp } :=
        if_neg (hstays packet (List.mem_cons_self ..))
      have hrest := ih (fun q hq => hstays q (List.mem_cons_of_mem _ hq))
        (recieve m packet)
      refine hrest.trans ?_
      rw [hfirst]
      cases k <;> rfl

/-- The ticks that have been used up for samples, and those since then. -/
def account (k : Sample) (m : MainLoop) : ℕ :=
  31 * samples k m.udp + (k.tick m).toNat

theorem Looks.iterate (hlooks : Looks k m i) (h : Idle m)
    (htick : (k.tick m).toNat ≤ 30) :
    account k m + (if i.debounceTick then 1 else 0) =
      account k (MainLoop.iterate m i) := by
  have hheaded := (h.atSwitch i).headed
  have hlate := tick_recieveAll (fun q hq =>
    hlooks.stays q (List.mem_append_right _ hq)) k
      (switchMode i (atSwitch m i)).2
  have hat : (k.tick (atSwitch m i)).toNat =
      (k.tick m).toNat + if i.debounceTick then 1 else 0 := by
    have hstep : (if i.debounceTick = true then 1 else 0 : UInt8).toNat =
        if i.debounceTick = true then 1 else 0 := by split_ifs <;> rfl
    unfold atSwitch
    rw [tick_debounce, tick_recieveAll (fun q hq =>
      hlooks.stays q (List.mem_append_left _ hq)), UInt8.toNat_add, hstep]
    refine Nat.mod_eq_of_lt ?_
    split_ifs <;> omega
  unfold account
  rw [samples_iterate h, tick_iterate, hlate,
    (switchMode_sample hheaded k i).1]
  have hone : (if i.debounceTick = true then 1 else 0) ≤ 1 := by
    split_ifs <;> decide
  generalize (if i.debounceTick = true then 1 else 0) = w at hat hone ⊢
  by_cases hdue : Due k (atSwitch m i)
  · have hfires := And.intro hlooks.active hdue
    have hover : 30 < (k.tick (atSwitch m i)).toNat := hdue
    have hnone : (0 : UInt8).toNat = 0 := rfl
    rw [if_pos hfires, if_pos ⟨hfires, hlooks.known⟩, hnone]
    omega
  · have hnot : ¬ (k.Active (atSwitch m i).udp.MODE ∧
        Due k (atSwitch m i)) := fun hboth => hdue hboth.2
    have hnone : ¬ ((k.Active (atSwitch m i).udp.MODE ∧
        Due k (atSwitch m i)) ∧ (atSwitch m i).udp.DEST_IP ≠ none) :=
      fun hsent => hnot hsent.1
    rw [if_neg hnot, if_neg hnone]
    omega

theorem Looks.tick_le (hlooks : Looks k m i) (h : Idle m) :
    (k.tick (MainLoop.iterate m i)).toNat ≤ 30 := by
  rw [tick_iterate, tick_recieveAll fun q hq =>
    hlooks.stays q (List.mem_append_right _ hq)]
  exact tick_le_of_active (h.atSwitch i).headed hlooks.active

/-- As long as the loop looks at the counter, there is at least one packet of
the sample for 31 ticks. -/
theorem le_samples {early inputs : List Input}
    (hlooks : Runs.AllSteps iterate (Looks k)
      (early.foldl iterate (boot [])) inputs) :
    31 * samples k (early.foldl iterate (boot [])).udp + ticks inputs ≤
      31 * samples k ((early ++ inputs).foldl iterate (boot [])).udp +
        31 := by
  rw [List.foldl_append]
  have hidle := idle_run early
  generalize early.foldl iterate (boot []) = m at hidle hlooks ⊢
  cases inputs with
  | nil => exact Nat.le_add_right _ _
  | cons i rest =>
      obtain ⟨hfirst, hrest⟩ := hlooks
      have hle := hfirst.tick_le hidle
      have hmono : samples k m.udp ≤ samples k (iterate m i).udp := by
        rw [samples_iterate hidle]
        exact Nat.le_add_right _ _
      have hkeep : ∀ m i, Idle m ∧ (k.tick m).toNat ≤ 30 → Looks k m i →
          Idle (iterate m i) ∧ (k.tick (iterate m i)).toNat ≤ 30 :=
        fun m i h hok => ⟨idle_iterate h.1 i, hok.tick_le h.1⟩
      have hraise : ∀ m i, Idle m ∧ (k.tick m).toNat ≤ 30 → Looks k m i →
          (account k m + if i.debounceTick then 1 else 0) ≤
            account k (iterate m i) :=
        fun m i h hok => Nat.le_of_eq (hok.iterate h.1 h.2)
      have hrun : account k (iterate m i) + ticks rest ≤
          account k (rest.foldl iterate (iterate m i)) :=
        Runs.progress hkeep hraise ⟨idle_iterate hidle i, hle⟩ hrest
      have hend : (k.tick (rest.foldl iterate (iterate m i))).toNat ≤ 30 := by
        have hall : ∀ t ∈ Runs.states iterate (iterate m i) rest,
            Idle t ∧ (k.tick t).toNat ≤ 30 :=
          Runs.invariant hkeep ⟨idle_iterate hidle i, hle⟩ hrest
        exact (hall _ Runs.foldl_mem_states).2
      have hticks : ticks (i :: rest) ≤ ticks rest + 1 := by
        unfold ticks
        rw [List.countP_cons]
        split_ifs <;> omega
      unfold account at hrun
      rw [List.foldl_cons]
      omega

/-- A poll in PARTY, without a tick. -/
def partyPoll : Input :=
  { recieved := [(0, ID ++ [POLL_PACKET_ID, 7])], debounceTick := false }

def woken : Input := {}

theorem le_samples_party :
    31 * samples .gyro ([partyPoll].foldl iterate (boot [])).udp +
        ticks [woken, woken] ≤
      31 * samples .gyro
        (([partyPoll] ++ [woken, woken]).foldl iterate (boot [])).udp + 31 := by
  have hfirst : Looks .gyro ([partyPoll].foldl iterate (boot [])) woken :=
    ⟨by decide, by decide, nofun⟩
  have hsecond : Looks .gyro
      (iterate ([partyPoll].foldl iterate (boot [])) woken) woken :=
    ⟨by decide, by decide, nofun⟩
  exact le_samples ⟨hfirst, hsecond, trivial⟩

end ChuckLight.Firmware.MainLoop
