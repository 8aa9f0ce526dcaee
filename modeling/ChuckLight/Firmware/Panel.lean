import ChuckLight.Firmware.LedController

/-!
# What the LEDs show

The part of the main loop that drives the LEDs, beside the model of its
packets.  Packets from the base station come in at the two points of that
model; `set_mode` writes the LEDs for each packet that carries a mode.
-/

namespace ChuckLight.Firmware

open UdpController LedController MainLoop

def USER_FEEDBACK_RATE : UInt8 := 13
def PARTY_REFRESH_RATE : UInt8 := 10

/-- The LEDs with the variables that only drive them. -/
structure Panel where
  leds : Leds
  animation : Animation
  userFeedbackTick : UInt8
  userFeedbackEnable : Bool
  partyTick : UInt8
  partySubMode : UInt8

namespace Panel

/-- The panel when the loop is entered. -/
def boot : Panel := ⟨initLedController, .start, 0, false, 0, 0⟩

def setMode (mode : UInt8) (p : Panel) : Panel :=
  { p with userFeedbackEnable := false, leds := setLeds mode p.leds }

/-- The packet carries a mode for `set_mode`. -/
def SetsMode (payload : List UInt8) : Prop :=
  IsValid payload ∧ (byteAt payload 8 = COMMAND_PACKET_ID ∨
    byteAt payload 8 = POLL_PACKET_ID)

instance (payload : List UInt8) : Decidable (SetsMode payload) :=
  inferInstanceAs (Decidable (_ ∧ _))

def recieve (p : Panel) (packet : IpAddr × List UInt8) : Panel :=
  if Restarts packet.2 then boot
  else if SetsMode packet.2 then p.setMode (byteAt packet.2 9)
  else p

def recieveAll (packets : List (IpAddr × List UInt8)) (p : Panel) : Panel :=
  packets.foldl recieve p

/-- The animation, which is shown while the destination is not known. -/
def searching (dest : Option IpAddr) (p : Panel) : Panel :=
  if dest = none then
    let r := preConnectAnimation p.animation p.leds
    { p with animation := r.1, leds := r.2 }
  else p

/-- The block under `if(DEBOUNCE_TICK)`. -/
def debounce (dest : Option IpAddr) (i : Input) (p : Panel) : Panel :=
  if i.debounceTick then
    { p.searching dest with
      partyTick := p.partyTick + 1
      userFeedbackTick := p.userFeedbackTick + 1 }
  else p

/-- The case of CHASE and DMX, for the LED that `set` writes. -/
def feedback (set : Bool → Leds → Leds) (directionEvent : UInt8)
    (p : Panel) : Panel :=
  let p := if directionEvent ≠ 0 then
      { p with
        userFeedbackEnable := true
        userFeedbackTick := 0
        leds := set HIGH p.leds }
    else p
  if p.userFeedbackEnable = true ∧ p.userFeedbackTick > USER_FEEDBACK_RATE then
    { p with userFeedbackEnable := false, leds := set LOW p.leds }
  else p

def setRed (level : Bool) (leds : Leds) : Leds := { leds with red := level }

def setBlue (level : Bool) (leds : Leds) : Leds := { leds with blue := level }

/-- The `switch` over `party_sub_mode`. -/
def partySwitch (p : Panel) : Panel :=
  if p.partySubMode = 1 then { p with leds := ⟨HIGH, LOW, LOW⟩ }
  else if p.partySubMode = 2 then { p with leds := ⟨LOW, HIGH, LOW⟩ }
  else if p.partySubMode = 3 then { p with leds := ⟨LOW, LOW, HIGH⟩ }
  else if p.partySubMode = 4 then
    { p with leds := ⟨LOW, LOW, LOW⟩, partySubMode := 0 }
  else { p with partySubMode := 1 }

/-- The LEDs in the case of PARTY. -/
def party (p : Panel) : Panel :=
  if p.partyTick > PARTY_REFRESH_RATE then
    let p := p.partySwitch
    { p with partySubMode := p.partySubMode + 1, partyTick := 0 }
  else p

/-- The `switch` over the mode. -/
def switchMode (m : MainLoop) (p : Panel) : Panel :=
  if m.udp.MODE = CHASE_MODE then p.feedback setRed m.directionEvent
  else if m.udp.MODE = DMX_MODE then p.feedback setBlue m.directionEvent
  else if m.udp.MODE = PARTY_MODE then p.party
  else p

end Panel

/-- The controller with its LEDs. -/
structure Controller where
  loop : MainLoop
  panel : Panel

namespace Controller

def boot : Controller := ⟨.boot [], .boot⟩

/-- The panel when the iteration comes to the `switch` over the mode. -/
def panelAtSwitch (c : Controller) (i : Input) : Panel :=
  (c.panel.recieveAll i.recieved).debounce
    (MainLoop.recieveAll i.recieved c.loop).udp.DEST_IP i

def iterate (c : Controller) (i : Input) : Controller where
  loop := c.loop.iterate i
  panel := ((c.panelAtSwitch i).switchMode (c.loop.atSwitch i)).recieveAll
    i.late

end Controller

/-! ## Packets without a mode -/

namespace Controller

open Panel

variable {c : Controller} {i : Input} {inputs : List Input}
  {packet : IpAddr × List UInt8}

theorem setsMode_of_restarts {payload : List UInt8} (h : Restarts payload) :
    SetsMode payload := ⟨h.1, .inl h.2.1⟩

theorem recieve_of_not_setsMode (h : ¬ SetsMode packet.2) (m : MainLoop) :
    m.recieve packet = m := by
  have hrecieve : udpRecieve packet.1 packet.2 m.udp = m.udp := by
    unfold udpRecieve
    split_ifs with hvalid hcommand hpoll
    · exact absurd ⟨hvalid, .inl hcommand⟩ h
    · exact absurd ⟨hvalid, .inr hpoll⟩ h
    · rfl
    · rfl
  unfold MainLoop.recieve
  rw [if_neg fun hrestart => h (setsMode_of_restarts hrestart), hrecieve]

theorem panel_recieve_of_not_setsMode (h : ¬ SetsMode packet.2) (p : Panel) :
    p.recieve packet = p := by
  unfold Panel.recieve
  rw [if_neg fun hrestart => h (setsMode_of_restarts hrestart), if_neg h]

theorem recieveAll_of_not_setsMode (m : MainLoop) (p : Panel)
    (packets : List (IpAddr × List UInt8))
    (h : ∀ packet ∈ packets, ¬ SetsMode packet.2) :
    m.recieveAll packets = m ∧ p.recieveAll packets = p := by
  induction packets with
  | nil => exact ⟨rfl, rfl⟩
  | cons packet rest ih =>
      have hfirst := h packet (List.mem_cons_self ..)
      obtain ⟨hloop, hpanel⟩ := ih fun q hq => h q (List.mem_cons_of_mem _ hq)
      constructor
      · show (m.recieve packet).recieveAll rest = m
        rw [recieve_of_not_setsMode hfirst, hloop]
      · show (p.recieve packet).recieveAll rest = p
        rw [panel_recieve_of_not_setsMode hfirst, hpanel]

/-- No packet of the iteration carries a mode. -/
def Unheard (i : Input) : Prop :=
  ∀ packet ∈ i.recieved ++ i.late, ¬ SetsMode packet.2

instance (i : Input) : Decidable (Unheard i) :=
  inferInstanceAs (Decidable (∀ packet ∈ i.recieved ++ i.late, _))

/-- Without a mode from outside, the mode and the destination stay. -/
theorem fields_of_unheard (h : Unheard i) (m : MainLoop) :
    (m.iterate i).udp.MODE = m.udp.MODE ∧
      (m.iterate i).udp.DEST_IP = m.udp.DEST_IP ∧
      (m.atSwitch i).udp = m.udp := by
  have hfirst := fun m => (recieveAll_of_not_setsMode m .boot i.recieved
    fun q hq => h q (List.mem_append_left _ hq)).1
  have hlate := fun m => (recieveAll_of_not_setsMode m .boot i.late
    fun q hq => h q (List.mem_append_right _ hq)).1
  have hswitch : (m.atSwitch i).udp = m.udp := by
    unfold MainLoop.atSwitch
    rw [udp_debounce, hfirst]
  obtain ⟨hmode, hdest⟩ := fields_iterate m i
  obtain ⟨hmode', hdest'⟩ := fields_switchMode i (m.atSwitch i)
  rw [hlate] at hmode hdest
  rw [hswitch] at hmode' hdest'
  exact ⟨hmode.trans hmode', hdest.trans hdest', hswitch⟩

/-- The panel after an iteration without a mode from outside. -/
theorem panel_of_unheard (h : Unheard i) (c : Controller) :
    (c.iterate i).panel =
      (c.panel.debounce c.loop.udp.DEST_IP i).switchMode
        (c.loop.atSwitch i) := by
  have hfirst := recieveAll_of_not_setsMode c.loop c.panel i.recieved
    fun q hq => h q (List.mem_append_left _ hq)
  have hlate := fun p => (recieveAll_of_not_setsMode c.loop p i.late
    fun q hq => h q (List.mem_append_right _ hq)).2
  show (((c.panel.recieveAll i.recieved).debounce
    (c.loop.recieveAll i.recieved).udp.DEST_IP i).switchMode
      (c.loop.atSwitch i)).recieveAll i.late = _
  rw [hlate, hfirst.1, hfirst.2]

/-! ## Before the first packet -/

/-- No packet with a mode has come since the start, and the loop has been woken
`n` times. -/
structure Searching (n : ℕ) (c : Controller) : Prop where
  dest : c.loop.udp.DEST_IP = none
  mode : c.loop.udp.MODE = IDLE_MODE
  shown : (c.panel.animation, c.panel.leds) =
    animate^[n] (.start, initLedController)

theorem Searching.iterate {n : ℕ} (h : Searching n c) (hunheard : Unheard i) :
    Searching (n + if i.debounceTick then 1 else 0) (c.iterate i) := by
  obtain ⟨hmode, hdest, hswitch⟩ := fields_of_unheard hunheard c.loop
  refine ⟨hdest.trans h.dest, hmode.trans h.mode, ?_⟩
  have hidle : ∀ p : Panel, p.switchMode (c.loop.atSwitch i) = p := by
    intro p
    unfold Panel.switchMode
    rw [hswitch, h.mode, if_neg (by decide), if_neg (by decide),
      if_neg (by decide)]
  rw [panel_of_unheard hunheard, hidle, h.dest]
  unfold Panel.debounce Panel.searching
  by_cases htick : i.debounceTick = true
  · rw [if_pos htick, if_pos rfl, if_pos htick, Function.iterate_succ_apply',
      ← h.shown]
    rfl
  · rw [if_neg htick, if_neg htick]
    exact h.shown

theorem searching_foldl {n : ℕ} (h : Searching n c)
    (hunheard : ∀ i ∈ inputs, Unheard i) :
    Searching (n + ticks inputs) (inputs.foldl Controller.iterate c) := by
  induction inputs generalizing n c with
  | nil => exact h
  | cons i rest ih =>
      have hnext := ih (h.iterate (hunheard i (List.mem_cons_self ..)))
        fun j hj => hunheard j (List.mem_cons_of_mem _ hj)
      have hcount : n + ticks (i :: rest) =
          n + (if i.debounceTick then 1 else 0) + ticks rest := by
        unfold ticks
        rw [List.countP_cons]
        omega
      rw [hcount]
      exact hnext

/-- Until the first packet that carries a mode, the LEDs flash the text of the
log in Morse code, whatever is pressed. -/
theorem leds_of_unheard (hunheard : ∀ i ∈ inputs, Unheard i) :
    (inputs.foldl Controller.iterate boot).panel.leds =
      .all ((waveform logo).getD
        ((ticks inputs - 1) % (waveform logo).length) HIGH) := by
  have hstart : Searching 0 boot := ⟨rfl, rfl, rfl⟩
  have h := searching_foldl hstart hunheard
  rw [Nat.zero_add] at h
  have hleds : (inputs.foldl Controller.iterate boot).panel.leds =
      (animate^[ticks inputs] (.start, initLedController)).2 :=
    congrArg Prod.snd h.shown
  rw [hleds]
  cases ticks inputs with
  | zero =>
      rw [Nat.zero_sub, Nat.zero_mod]
      rfl
  | succ n =>
      obtain ⟨level, hlevel, hshown⟩ := leds_animate n
      rw [hshown, Nat.add_sub_cancel, List.getD_eq_getElem?_getD, hlevel]
      rfl

/-- The first dash is over. -/
theorem leds_of_unheard_dash :
    ((List.replicate 340 ({} : Input)).foldl Controller.iterate
      boot).panel.leds = .all LOW := by
  have hunheard : ∀ i ∈ List.replicate 340 ({} : Input), Unheard i :=
    fun i hi => (List.mem_replicate.mp hi).2 ▸ nofun
  have hticks : ticks (List.replicate 340 ({} : Input)) = 340 :=
    List.countP_replicate.trans (if_pos rfl)
  have hlevel : (waveform logo).getD
      ((340 - 1) % (waveform logo).length) HIGH = LOW := by decide +kernel
  rw [leds_of_unheard hunheard, hticks, hlevel]

/-! ## The mode -/

end Controller

namespace Panel

/-- The colors of the party. -/
def partyLeds : List Leds :=
  [⟨LOW, LOW, LOW⟩, ⟨HIGH, LOW, LOW⟩, ⟨LOW, HIGH, LOW⟩, ⟨LOW, LOW, HIGH⟩]

/-- The LEDs show the mode.  In CHASE and DMX one of them tells of
directions. -/
structure Shows (mode : UInt8) (p : Panel) : Prop where
  chase : mode = CHASE_MODE → p.leds = ⟨p.userFeedbackEnable, LOW, HIGH⟩
  dmx : mode = DMX_MODE → p.leds = ⟨HIGH, HIGH, p.userFeedbackEnable⟩
  party : mode = PARTY_MODE → p.leds ∈ partyLeds
  steady : mode ∉ [CHASE_MODE, DMX_MODE, PARTY_MODE] →
    ∀ leds, levelsOf mode = some leds → p.leds = leds

variable {mode : UInt8} {p : Panel} {m : MainLoop}

theorem shows_setMode (mode : UInt8) (p : Panel) :
    Shows mode (p.setMode mode) := by
  refine ⟨?_, ?_, ?_, fun _ leds hleds => ?_⟩
  · rintro rfl
    rfl
  · rintro rfl
    rfl
  · rintro rfl
    exact List.mem_cons_self ..
  · show (levelsOf mode).getD p.leds = leds
    rw [hleds]
    rfl

/-- The cases for CHASE and DMX. -/
theorem leds_feedback (set : Bool → Leds → Leds) (leds : Leds)
    (hset : ∀ level level' leds, set level (set level' leds) = set level leds)
    (h : p.leds = set p.userFeedbackEnable leds)
    (directionEvent : UInt8) :
    (p.feedback set directionEvent).leds =
      set (p.feedback set directionEvent).userFeedbackEnable leds := by
  unfold feedback
  dsimp only
  split_ifs
  · show set LOW (set HIGH p.leds) = set false leds
    rw [hset, h, hset]
    rfl
  · show set HIGH p.leds = set true leds
    rw [h, hset]
    rfl
  · show set LOW p.leds = set false leds
    rw [h, hset]
    rfl
  · exact h

theorem leds_partySwitch (h : p.leds ∈ partyLeds) :
    p.partySwitch.leds ∈ partyLeds := by
  have hred : (⟨HIGH, LOW, LOW⟩ : Leds) ∈ partyLeds := by decide
  have hgreen : (⟨LOW, HIGH, LOW⟩ : Leds) ∈ partyLeds := by decide
  have hblue : (⟨LOW, LOW, HIGH⟩ : Leds) ∈ partyLeds := by decide
  have hoff : (⟨LOW, LOW, LOW⟩ : Leds) ∈ partyLeds := by decide
  unfold partySwitch
  split_ifs
  · exact hred
  · exact hgreen
  · exact hblue
  · exact hoff
  · exact h

/-- The `switch` over the mode. -/
theorem Shows.switchMode (h : Shows m.udp.MODE p) :
    Shows m.udp.MODE (p.switchMode m) := by
  unfold Panel.switchMode
  by_cases hchase : m.udp.MODE = CHASE_MODE
  · rw [if_pos hchase, hchase]
    refine ⟨fun _ => ?_, nofun, nofun, fun hmode => absurd hmode (by decide)⟩
    exact leds_feedback setRed ⟨LOW, LOW, HIGH⟩ (fun _ _ _ => rfl)
      (h.chase hchase) _
  rw [if_neg hchase]
  by_cases hdmx : m.udp.MODE = DMX_MODE
  · rw [if_pos hdmx, hdmx]
    refine ⟨nofun, fun _ => ?_, nofun, fun hmode => absurd hmode (by decide)⟩
    exact leds_feedback setBlue ⟨HIGH, HIGH, LOW⟩ (fun _ _ _ => rfl)
      (h.dmx hdmx) _
  rw [if_neg hdmx]
  by_cases hparty : m.udp.MODE = PARTY_MODE
  · rw [if_pos hparty, hparty]
    refine ⟨nofun, nofun, fun _ => ?_, fun hmode => absurd hmode (by decide)⟩
    have hleds := leds_partySwitch (h.party hparty)
    unfold Panel.party
    split_ifs
    · exact hleds
    · exact h.party hparty
  · rw [if_neg hparty]
    exact h

/-- The LEDs show the mode once a destination is known. -/
def Lit (c : UdpController) (p : Panel) : Prop :=
  c.DEST_IP ≠ none → p.Shows c.MODE

theorem Lit.congr {c c' : UdpController} (h : Lit c p)
    (hfields : c'.MODE = c.MODE ∧ c'.DEST_IP = c.DEST_IP) : Lit c' p := by
  unfold Lit
  rw [hfields.1, hfields.2]
  exact h

theorem MODE_udpRecieve {c : UdpController} {payload : List UInt8}
    (hmode : SetsMode payload) (hrestart : ¬ Restarts payload)
    (addr : IpAddr) :
    (udpRecieve addr payload c).MODE = byteAt payload 9 := by
  obtain ⟨hvalid, htype⟩ := hmode
  unfold udpRecieve
  rw [if_neg (not_not.mpr hvalid)]
  by_cases hcommand : byteAt payload 8 = COMMAND_PACKET_ID
  · rw [if_pos hcommand]
    unfold obey
    rw [if_neg fun h => hrestart ⟨hvalid, hcommand, .inl h⟩,
      if_neg fun h => hrestart ⟨hvalid, hcommand, .inr h⟩]
    rfl
  · rw [if_neg hcommand, if_pos (htype.resolve_left hcommand)]
    rfl

theorem Lit.recieveAll (h : Lit m.udp p)
    (packets : List (IpAddr × List UInt8)) :
    Lit (m.recieveAll packets).udp (p.recieveAll packets) := by
  induction packets generalizing m p with
  | nil => exact h
  | cons packet rest ih =>
      refine ih (m := m.recieve packet) (p := p.recieve packet) ?_
      by_cases hrestart : Restarts packet.2
      · have hloop : m.recieve packet = .boot m.udp.sent := if_pos hrestart
        rw [hloop]
        exact fun hdest => absurd rfl hdest
      by_cases hmode : SetsMode packet.2
      · have hloop : m.recieve packet =
            { m with udp := udpRecieve packet.1 packet.2 m.udp } :=
          if_neg hrestart
        have hpanel : p.recieve packet = p.setMode (byteAt packet.2 9) :=
          (if_neg hrestart).trans (if_pos hmode)
        rw [hloop, hpanel]
        intro _
        rw [Panel.MODE_udpRecieve hmode hrestart]
        exact shows_setMode _ _
      · rw [Controller.recieve_of_not_setsMode hmode,
          Controller.panel_recieve_of_not_setsMode hmode]
        exact h

theorem Lit.debounce {c : UdpController} (h : Lit c p) (i : Input) :
    Lit c (p.debounce c.DEST_IP i) := by
  intro hdest
  obtain ⟨hchase, hdmx, hparty, hsteady⟩ := h hdest
  unfold Panel.debounce Panel.searching
  rw [if_neg hdest]
  split_ifs <;> exact ⟨hchase, hdmx, hparty, hsteady⟩

end Panel

namespace Controller

open Panel

variable {c : Controller} {i : Input} {inputs : List Input}

theorem lit_iterate (h : Lit c.loop.udp c.panel) (i : Input) :
    Lit (c.iterate i).loop.udp (c.iterate i).panel := by
  have hat : (c.loop.atSwitch i).udp = (c.loop.recieveAll i.recieved).udp :=
    udp_debounce i _
  have hbefore : Lit (c.loop.atSwitch i).udp (c.panelAtSwitch i) := by
    rw [hat]
    exact (h.recieveAll i.recieved).debounce i
  have hswitched : Lit (c.loop.atSwitch i).udp
      ((c.panelAtSwitch i).switchMode (c.loop.atSwitch i)) :=
    fun hdest => (hbefore hdest).switchMode
  have hlate := (hswitched.congr (fields_switchMode i _)).recieveAll i.late
  exact hlate.congr (fields_iterate c.loop i)

theorem lit_foldl (h : Lit c.loop.udp c.panel) (inputs : List Input) :
    Lit (inputs.foldl Controller.iterate c).loop.udp
      (inputs.foldl Controller.iterate c).panel := by
  have hrun : ∀ c' ∈ Runs.states Controller.iterate c inputs,
      Lit c'.loop.udp c'.panel :=
    Runs.invariant (fun _ i h _ => lit_iterate h i) h
      (Runs.allSteps_true c inputs)
  exact hrun _ Runs.foldl_mem_states

theorem lit_boot : Lit boot.loop.udp boot.panel := fun hdest =>
  absurd rfl hdest

/-- Once a base station is known, the LEDs show the mode, whatever packets have
come and whatever has been pressed. -/
theorem shows_of_known
    (hdest : (inputs.foldl Controller.iterate boot).loop.udp.DEST_IP ≠ none) :
    (inputs.foldl Controller.iterate boot).panel.Shows
      (inputs.foldl Controller.iterate boot).loop.udp.MODE :=
  lit_foldl lit_boot inputs hdest

/-- A poll of the base station in DMX. -/
def polled : Input := { recieved := [(0, ID ++ [POLL_PACKET_ID, 5])] }

def up : Input := { direction := .up }

theorem shows_of_known_polled :
    ([polled, up].foldl Controller.iterate boot).panel.Shows DMX_MODE :=
  @shows_of_known [polled, up] (by decide)

/-! ## Directions -/

/-- A mode in which an LED tells of directions. -/
def TellsDirections (mode : UInt8) : Prop :=
  mode = CHASE_MODE ∨ mode = DMX_MODE

/-- The LEDs in such a mode. -/
def feedbackLeds (mode : UInt8) (level : Bool) : Leds :=
  if mode = CHASE_MODE then ⟨level, LOW, HIGH⟩ else ⟨HIGH, HIGH, level⟩

/-- A direction was debounced, and the loop has been woken `n` times since. -/
def Told (n : ℕ) (p : Panel) : Prop :=
  if n ≤ 13 then
    p.userFeedbackEnable = true ∧ p.userFeedbackTick.toNat = n
  else p.userFeedbackEnable = false

variable {p : Panel} {m : MainLoop} {n : ℕ}

theorem switchMode_of_tells (htells : TellsDirections m.udp.MODE)
    (p : Panel) :
    ∃ set, p.switchMode m = p.feedback set m.directionEvent := by
  unfold Panel.switchMode
  rcases htells with hmode | hmode
  · exact ⟨setRed, if_pos hmode⟩
  · refine ⟨setBlue, ?_⟩
    rw [hmode, if_neg (by decide), if_pos rfl]

theorem gt_rate_iff (tick : UInt8) :
    tick > USER_FEEDBACK_RATE ↔ 13 < tick.toNat := UInt8.lt_iff_toNat_lt

theorem told_of_direction (set : Bool → Leds → Leds) {directionEvent : UInt8}
    (h : directionEvent ≠ 0) (p : Panel) :
    Told 0 (p.feedback set directionEvent) := by
  have hrate : ¬ (0 : UInt8) > USER_FEEDBACK_RATE := by decide
  unfold Panel.feedback
  rw [if_pos h]
  dsimp only
  rw [if_neg fun hover => hrate hover.2]
  exact ⟨rfl, rfl⟩

theorem feedback_zero (set : Bool → Leds → Leds) (p : Panel) :
    p.feedback set 0 =
      if p.userFeedbackEnable = true ∧
          p.userFeedbackTick > USER_FEEDBACK_RATE then
        { p with userFeedbackEnable := false, leds := set LOW p.leds }
      else p := rfl

/-- What the debounced block does to the variables of the feedback. -/
theorem fields_debounce (dest : Option IpAddr) (i : Input) (p : Panel) :
    (p.debounce dest i).userFeedbackEnable = p.userFeedbackEnable ∧
      (p.debounce dest i).userFeedbackTick =
        p.userFeedbackTick + if i.debounceTick then 1 else 0 := by
  unfold Panel.debounce Panel.searching
  by_cases htick : i.debounceTick = true
  · rw [if_pos htick, if_pos htick]
    split_ifs <;> exact ⟨rfl, rfl⟩
  · rw [if_neg htick, if_neg htick]
    exact ⟨rfl, (UInt8.add_zero _).symm⟩

/-- An iteration without a direction. -/
theorem Told.next (h : Told n p) (set : Bool → Leds → Leds)
    (dest : Option IpAddr) (i : Input) :
    Told (n + if i.debounceTick then 1 else 0)
      ((p.debounce dest i).feedback set 0) := by
  obtain ⟨henable, htick⟩ := fields_debounce dest i p
  generalize p.debounce dest i = q at henable htick ⊢
  have hstep : (if i.debounceTick = true then 1 else 0 : UInt8).toNat =
      if i.debounceTick = true then 1 else 0 := by split_ifs <;> rfl
  have hadd := UInt8.toNat_add p.userFeedbackTick
    (if i.debounceTick = true then 1 else 0)
  rw [← htick, hstep] at hadd
  generalize hk : (if i.debounceTick = true then 1 else 0) = k at hadd ⊢
  have hle : k ≤ 1 := by
    rw [← hk]
    split_ifs <;> decide
  rw [feedback_zero]
  unfold Told at h ⊢
  by_cases hn : n ≤ 13
  · rw [if_pos hn] at h
    rw [h.2, Nat.mod_eq_of_lt (by omega)] at hadd
    by_cases hnext : n + k ≤ 13
    · rw [if_pos hnext, if_neg fun hover =>
        absurd ((gt_rate_iff _).mp hover.2) (by omega)]
      exact ⟨henable.trans h.1, hadd⟩
    · rw [if_neg hnext, if_pos ⟨henable.trans h.1,
        (gt_rate_iff _).mpr (by omega)⟩]
  · rw [if_neg hn] at h
    have hoff := henable.trans h
    have hnot : ¬ (q.userFeedbackEnable = true ∧
        q.userFeedbackTick > USER_FEEDBACK_RATE) := fun hover =>
      Bool.false_ne_true (hoff.symm.trans hover.1)
    rw [if_neg (by omega), if_neg hnot]
    exact hoff

/-- No mode comes from outside, and no direction is debounced. -/
def Quiet (i : Input) : Prop := Unheard i ∧ i.directionResult = 0

theorem directionEvent_atSwitch (h : c.loop.Idle) (i : Input) :
    (c.loop.atSwitch i).directionEvent = i.directionResult :=
  (h.atSwitch i).direction_eq

theorem told_foldl (hidle : c.loop.Idle)
    (htells : TellsDirections c.loop.udp.MODE) (htold : Told n c.panel)
    (hquiet : ∀ i ∈ inputs, Quiet i) :
    Told (n + ticks inputs) (inputs.foldl Controller.iterate c).panel ∧
      (inputs.foldl Controller.iterate c).loop.udp.MODE =
        c.loop.udp.MODE ∧
      (inputs.foldl Controller.iterate c).loop.udp.DEST_IP =
        c.loop.udp.DEST_IP := by
  induction inputs generalizing c n with
  | nil => exact ⟨htold, rfl, rfl⟩
  | cons i rest ih =>
      obtain ⟨hunheard, hdirection⟩ := hquiet i (List.mem_cons_self ..)
      obtain ⟨hmode, hdest, hswitch⟩ := fields_of_unheard hunheard c.loop
      have hnext : Told (n + if i.debounceTick then 1 else 0)
          (c.iterate i).panel := by
        obtain ⟨set, hset⟩ := switchMode_of_tells (hswitch.symm ▸ htells)
          (c.panel.debounce c.loop.udp.DEST_IP i)
        rw [panel_of_unheard hunheard, hset,
          directionEvent_atSwitch hidle, hdirection]
        exact htold.next set _ i
      have hrest := ih (c := c.iterate i) (idle_iterate hidle i)
        (hmode.symm ▸ htells) hnext fun j hj =>
          hquiet j (List.mem_cons_of_mem _ hj)
      have hcount : n + ticks (i :: rest) =
          n + (if i.debounceTick then 1 else 0) + ticks rest := by
        unfold ticks
        rw [List.countP_cons]
        omega
      rw [hcount]
      exact ⟨hrest.1, hrest.2.1.trans hmode, hrest.2.2.trans hdest⟩

theorem idle_foldl (inputs : List Input) :
    (inputs.foldl Controller.iterate boot).loop.Idle := by
  have hrun : ∀ c ∈ Runs.states Controller.iterate boot inputs,
      c.loop.Idle :=
    Runs.invariant (fun _ i h _ => idle_iterate h i) (idle_boot [])
      (Runs.allSteps_true boot inputs)
  exact hrun _ Runs.foldl_mem_states

theorem leds_of_shows {mode : UInt8} (htells : TellsDirections mode)
    (h : p.Shows mode) : p.leds = feedbackLeds mode p.userFeedbackEnable := by
  unfold feedbackLeds
  by_cases hchase : mode = CHASE_MODE
  · rw [if_pos hchase]
    exact h.chase hchase
  · rw [if_neg hchase]
    exact h.dmx (htells.resolve_left hchase)

/-- In CHASE and DMX a direction is shown up to the thirteenth tick after the
last one that was debounced. -/
theorem leds_of_direction {early rest : List Input}
    (hdest : (early.foldl Controller.iterate boot).loop.udp.DEST_IP ≠ none)
    (htells : TellsDirections
      (early.foldl Controller.iterate boot).loop.udp.MODE)
    (hunheard : Unheard i) (hdirection : i.directionResult ≠ 0)
    (hquiet : ∀ j ∈ rest, Quiet j) :
    ((early ++ i :: rest).foldl Controller.iterate boot).panel.leds =
      feedbackLeds (early.foldl Controller.iterate boot).loop.udp.MODE
        (decide (ticks rest ≤ 13)) := by
  rw [List.foldl_append, List.foldl_cons]
  have hidle := idle_foldl early
  have hlit := lit_foldl lit_boot early
  generalize early.foldl Controller.iterate boot = c at *
  obtain ⟨hmode, hknown, hswitch⟩ := fields_of_unheard hunheard c.loop
  have htold : Told 0 (c.iterate i).panel := by
    obtain ⟨set, hset⟩ := switchMode_of_tells (hswitch.symm ▸ htells)
      (c.panel.debounce c.loop.udp.DEST_IP i)
    rw [panel_of_unheard hunheard, hset, directionEvent_atSwitch hidle]
    exact told_of_direction set hdirection _
  obtain ⟨htold', hmode', hknown'⟩ := told_foldl (idle_iterate hidle i)
    (hmode.symm ▸ htells) htold hquiet
  have hlit' := lit_foldl (lit_iterate hlit i) rest
  generalize rest.foldl Controller.iterate (c.iterate i) = c' at *
  have hmodes : c'.loop.udp.MODE = c.loop.udp.MODE := hmode'.trans hmode
  have hdests : c'.loop.udp.DEST_IP = c.loop.udp.DEST_IP :=
    hknown'.trans hknown
  have hshows : c'.panel.Shows c.loop.udp.MODE := by
    rw [← hmodes]
    exact hlit' (hdests.symm ▸ hdest)
  have henable : c'.panel.userFeedbackEnable = decide (ticks rest ≤ 13) := by
    rw [Nat.zero_add] at htold'
    unfold Told at htold'
    by_cases hle : ticks rest ≤ 13
    · rw [if_pos hle] at htold'
      rw [htold'.1, decide_eq_true hle]
    · rw [if_neg hle] at htold'
      rw [htold', decide_eq_false hle]
  rw [leds_of_shows htells hshows, henable]

/-- The feedback ends with the fourteenth tick. -/
theorem leds_of_direction_polled :
    (([polled] ++ up :: List.replicate 14 ({} : Input)).foldl
      Controller.iterate boot).panel.leds = ⟨HIGH, HIGH, LOW⟩ := by
  have hmode : ([polled].foldl Controller.iterate boot).loop.udp.MODE =
      DMX_MODE := by decide
  have hquiet : ∀ j ∈ List.replicate 14 ({} : Input), Quiet j :=
    fun j hj => (List.mem_replicate.mp hj).2 ▸ ⟨nofun, rfl⟩
  have hticks : ticks (List.replicate 14 ({} : Input)) = 14 :=
    List.countP_replicate.trans (if_pos rfl)
  have hleds := @leds_of_direction up [polled] _ (by decide) (.inr hmode)
    nofun (by decide) hquiet
  rw [hmode, hticks] at hleds
  exact hleds

end Controller

end ChuckLight.Firmware
