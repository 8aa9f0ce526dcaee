import ChuckLight.Defines.WirelessCommand
import Mathlib.Data.List.GetD
import Mathlib.Data.List.OfFn
import Mathlib.Logic.Function.Basic
import Mathlib.Tactic.Common

/-!
# The listener for datagrams

The listener reuses one receive buffer for every datagram and queues a copy of
the whole buffer, whatever the length of the datagram.
-/

namespace ChuckLight.UDPServerThread

open Connection WirelessCommand

/-- The buffer after `receive`: the datagram, cut to the length of the buffer,
over what was there before. -/
def receive (receiveData : Buffer) (datagram : List Int8) : Buffer :=
  fun i => datagram.getD i (receiveData i)

/-- The buffer after a history of datagrams. -/
def bufferAfter (history : List (List Int8)) : Buffer :=
  history.foldl receive fun _ => 0

/-- The command that is queued for a datagram. -/
def queued (history : List (List Int8)) (datagram : List Int8) :
    WirelessCommand :=
  new (receive (bufferAfter history) datagram)

/-- The datagram holds every byte that the parser reads: it differs from the
identification, or it reaches the packet type and mode and, for a data packet,
the last byte of its data. -/
def Complete (d : List Int8) : Prop :=
  (∃ i : Fin 8, (i : ℕ) < d.length ∧ d.getD i 0 ≠ ID i) ∨
    (10 ≤ d.length ∧
      (d.getD 8 0 ≠ DATA_PACKET_ID ∨
        (11 ≤ d.length ∧
          (d.getD 10 0 = USER_ACTION_DATA → 12 ≤ d.length) ∧
          (d.getD 10 0 = JOYSTIC_DATA → 20 ≤ d.length) ∧
          (d.getD 10 0 = GYRO_DATA → 24 ≤ d.length))))

variable {b b' : Buffer} {d : List Int8}

/-! ## Bytes of the datagram and of the buffer -/

theorem receive_of_lt (b : Buffer) {i : Fin 1024} (h : (i : ℕ) < d.length) :
    receive b d i = d.getD i 0 := by
  unfold receive
  rw [List.getD_eq_getElem _ _ h, List.getD_eq_getElem _ _ h]

theorem receive_of_le (b : Buffer) {i : Fin 1024} (h : d.length ≤ (i : ℕ)) :
    receive b d i = b i :=
  List.getD_eq_default _ _ h

theorem receive_agree {i : Fin 1024} (b b' : Buffer)
    (h : (i : ℕ) < d.length) : receive b d i = receive b' d i := by
  rw [receive_of_lt b h, receive_of_lt b' h]

/-- A byte past the datagram can be anything. -/
theorem receive_update {k : Fin 1024} (hk : d.length ≤ (k : ℕ)) (b : Buffer)
    (v : Int8) :
    receive (Function.update b k v) d =
      Function.update (receive b d) k v := by
  funext i
  by_cases hi : i = k
  · rw [hi, Function.update_self, receive_of_le _ hk, Function.update_self]
  · rw [Function.update_of_ne hi]
    by_cases hlt : (i : ℕ) < d.length
    · exact receive_agree _ _ hlt
    · rw [receive_of_le _ (by omega), receive_of_le _ (by omega),
        Function.update_of_ne hi]

/-- Every buffer is left behind by some history. -/
theorem bufferAfter_ofFn (b : Buffer) : bufferAfter [List.ofFn b] = b := by
  funext i
  have hlt : (i : ℕ) < (List.ofFn b).length := by
    rw [List.length_ofFn]
    exact i.isLt
  simp only [bufferAfter, receive, List.foldl_cons, List.foldl_nil]
  rw [List.getD_eq_getElem _ _ hlt, List.getElem_ofFn]

/-! ## A complete datagram -/

/-- The reading of a complete datagram does not depend on the buffer. -/
theorem Complete.reading_eq (h : Complete d) (b b' : Buffer) :
    (new (receive b d)).reading = (new (receive b' d)).reading := by
  rcases h with ⟨i, hi, hne⟩ | ⟨hten, hdata⟩
  · have hmismatch : ∀ b, ¬ (new (receive b d)).VerifyPacket := by
      intro b hverify
      apply hne
      rw [← hverify i]
      exact (receive_of_lt b (i := i.castLE (by decide)) hi).symm
    rw [reading_of_not_verify (hmismatch b),
      reading_of_not_verify (hmismatch b')]
  · have hagree : ∀ i : Fin 1024, (i : ℕ) < d.length →
        receive b d i = receive b' d i := fun i hi => receive_agree b b' hi
    have h8 := hagree 8 (by omega)
    have h9 := hagree 9 (by omega)
    have hverify : (new (receive b d)).VerifyPacket ↔
        (new (receive b' d)).VerifyPacket := by
      apply forall_congr'
      intro i
      have hi := hagree (i.castLE (by decide)) (by
        show (i : ℕ) < _
        omega)
      rw [receiveData_new, receiveData_new, hi]
    by_cases hv : (new (receive b d)).VerifyPacket
    · have hv' := hverify.mp hv
      by_cases hd : receive b d 8 = DATA_PACKET_ID
      · have hd' : receive b' d 8 = DATA_PACKET_ID := h8 ▸ hd
        rcases hdata with hne | ⟨heleven, haction, hjoystick, hgyro⟩
        · rw [receive_of_lt b (i := 8) (by show 8 < _; omega)] at hd
          exact absurd hd hne
        · have h10 := hagree 10 (by show 10 < _; omega)
          have hget : d.getD 10 0 = receive b' d 10 :=
            (receive_of_lt b' (i := 10) (by show 10 < _; omega)).symm
          rw [hget] at haction hjoystick hgyro
          rw [reading_of_data hv hd, reading_of_data hv' hd', h8, h9, h10]
          by_cases ha : receive b' d 10 = USER_ACTION_DATA
          · have hlength := haction ha
            rw [if_pos ha, if_pos ha, hagree 11 (by show 11 < _; omega)]
          · rw [if_neg ha, if_neg ha]
            by_cases hj : receive b' d 10 = JOYSTIC_DATA
            · have hlength := hjoystick hj
              rw [if_pos hj, if_pos hj, hagree 12 (by show 12 < _; omega),
                hagree 13 (by show 13 < _; omega),
                hagree 14 (by show 14 < _; omega),
                hagree 15 (by show 15 < _; omega),
                hagree 16 (by show 16 < _; omega),
                hagree 17 (by show 17 < _; omega),
                hagree 18 (by show 18 < _; omega),
                hagree 19 (by show 19 < _; omega)]
            · rw [if_neg hj, if_neg hj]
              by_cases hg : receive b' d 10 = GYRO_DATA
              · have hlength := hgyro hg
                rw [if_pos hg, if_pos hg, hagree 20 (by show 20 < _; omega),
                  hagree 21 (by show 21 < _; omega),
                  hagree 22 (by show 22 < _; omega),
                  hagree 23 (by show 23 < _; omega)]
              · rw [if_neg hg, if_neg hg]
      · have hd' : receive b' d 8 ≠ DATA_PACKET_ID := h8 ▸ hd
        rw [reading_of_ne_data hv hd, reading_of_ne_data hv' hd', h8, h9]
    · rw [reading_of_not_verify hv,
        reading_of_not_verify fun hv' => hv (hverify.mpr hv')]

/-! ## An incomplete datagram -/

/-- A buffer that completes every prefix of the identification, and makes an
accepted packet of it. -/
def pollBuffer : Buffer := fun i =>
  if h : (i : ℕ) < 8 then ID ⟨i, h⟩
  else if (i : ℕ) = 8 then POLL_PACKET_ID
  else 0

theorem verify_receive
    (hid : ∀ i : Fin 8, (i : ℕ) < d.length → d.getD i 0 = ID i)
    (hb : ∀ i : Fin 8, d.length ≤ (i : ℕ) → b (i.castLE (by decide)) = ID i) :
    (new (receive b d)).VerifyPacket := by
  intro i
  rw [receiveData_new]
  by_cases hlt : (i : ℕ) < d.length
  · exact (receive_of_lt b (i := i.castLE (by decide)) hlt).trans (hid i hlt)
  · have hle : d.length ≤ (i : ℕ) := by omega
    exact (receive_of_le b (i := i.castLE (by decide)) hle).trans (hb i hle)

theorem pollBuffer_id (i : Fin 8) :
    pollBuffer (i.castLE (by decide)) = ID i := dif_pos i.isLt

section Incomplete

variable
  (hid : ∀ i : Fin 8, (i : ℕ) < d.length → d.getD i 0 = ID i)
  (h : ∀ b b', (new (receive b d)).reading = (new (receive b' d)).reading)

include hid in
theorem verify_pollBuffer : (new (receive pollBuffer d)).VerifyPacket :=
  verify_receive hid fun i _ => pollBuffer_id i

include hid in
theorem verify_update {k : Fin 1024} (v : Int8) (hk : d.length ≤ (k : ℕ))
    (h8 : 8 ≤ (k : ℕ)) :
    (new (Function.update (receive pollBuffer d) k v)).VerifyPacket := by
  rw [← receive_update hk]
  refine verify_receive hid fun i _ => ?_
  have hne : i.castLE (by decide) ≠ k := by
    intro heq
    have hval : (i : ℕ) = k := congrArg Fin.val heq
    omega
  rw [Function.update_of_ne hne]
  exact pollBuffer_id i

include h in
/-- If changing byte `k` of the buffer changes the reading, the datagram must
reach byte `k`. -/
theorem lt_length_of_ne {k : Fin 1024} {v : Int8}
    (hne : d.length ≤ (k : ℕ) → (new (receive pollBuffer d)).reading ≠
      (new (Function.update (receive pollBuffer d) k v)).reading) :
    (k : ℕ) < d.length := by
  by_contra hlt
  have hk : d.length ≤ (k : ℕ) := by omega
  apply hne hk
  rw [← receive_update hk]
  exact h _ _

include hid h in
theorem eight_le_length : 8 ≤ d.length := by
  by_contra hlt
  have hk : d.length < 1024 := by omega
  have hlength := lt_length_of_ne h (k := ⟨d.length, hk⟩) (v := 0) ?_
  · exact absurd hlength (Nat.lt_irrefl _)
  intro _ heq
  have h8 : receive pollBuffer d 8 = POLL_PACKET_ID :=
    receive_of_le pollBuffer (i := 8) (by show d.length ≤ 8; omega)
  have hverify := verify_pollBuffer hid
  have hmismatch : ¬ (new (Function.update (receive pollBuffer d)
      ⟨d.length, hk⟩ 0)).VerifyPacket := by
    intro hv
    have hzero := hv ⟨d.length, by omega⟩
    have hself : Function.update (receive pollBuffer d) ⟨d.length, hk⟩ 0
        (Fin.castLE (show 8 ≤ 1024 by decide) ⟨d.length, by omega⟩) = 0 :=
      Function.update_self ..
    rw [receiveData_new, hself] at hzero
    have hID : ∀ i : Fin 8, ID i ≠ 0 := by decide
    exact hID _ hzero.symm
  rw [reading_of_not_verify hmismatch,
    reading_of_ne_data hverify (by rw [h8]; decide), h8] at heq
  have haccepted : decide (POLL_PACKET_ID = POLL_REPLY_PACKET_ID ∨
      POLL_PACKET_ID = POLL_PACKET_ID) = false :=
    congrArg Reading.accepted heq
  exact absurd haccepted (by decide)

include hid h in
theorem nine_le_length : 9 ≤ d.length := by
  have height := eight_le_length hid h
  refine lt_length_of_ne h (k := 8) (v := 0) fun hle heq => ?_
  have h8 : receive pollBuffer d 8 = POLL_PACKET_ID :=
    receive_of_le pollBuffer (i := 8) hle
  have h8' : Function.update (receive pollBuffer d) 8 0 8 = 0 :=
    Function.update_self ..
  rw [reading_of_ne_data (verify_pollBuffer hid) (by rw [h8]; decide),
    reading_of_ne_data (verify_update hid 0 hle (by decide))
      (by rw [h8']; decide), h8, h8'] at heq
  have haccepted : decide (POLL_PACKET_ID = POLL_REPLY_PACKET_ID ∨
      POLL_PACKET_ID = POLL_PACKET_ID) =
        decide ((0 : Int8) = POLL_REPLY_PACKET_ID ∨ 0 = POLL_PACKET_ID) :=
    congrArg Reading.accepted heq
  exact absurd haccepted (by decide)

include hid h in
theorem ten_le_length : 10 ≤ d.length := by
  refine lt_length_of_ne h (k := 9) (v := 1) fun hle heq => ?_
  have hmode := congrArg Reading.mode heq
  rw [reading_mode (verify_pollBuffer hid),
    reading_mode (verify_update hid 1 hle (by decide)),
    Function.update_self, receive_of_le pollBuffer hle] at hmode
  exact absurd hmode (by decide)

variable (hdata : d.getD 8 0 = DATA_PACKET_ID)

include hid h hdata

theorem receive_data : receive pollBuffer d 8 = DATA_PACKET_ID := by
  have hlength := nine_le_length hid h
  exact (receive_of_lt pollBuffer (i := 8) hlength).trans hdata

theorem receive_data_update {k : Fin 1024} (v : Int8)
    (hk : d.length ≤ (k : ℕ)) :
    Function.update (receive pollBuffer d) k v 8 = DATA_PACKET_ID := by
  have hlength := nine_le_length hid h
  have hne : (8 : Fin 1024) ≠ k := by
    rintro rfl
    exact absurd hk (Nat.not_le.mpr hlength)
  rw [Function.update_of_ne hne]
  exact receive_data hid h hdata

theorem eleven_le_length : 11 ≤ d.length := by
  refine lt_length_of_ne h (k := 10) (v := 1) fun hle heq => ?_
  have htype := congrArg Reading.dataType heq
  rw [reading_dataType (verify_pollBuffer hid) (receive_data hid h hdata),
    reading_dataType (verify_update hid 1 hle (by decide))
      (receive_data_update hid h hdata 1 hle),
    Function.update_self, receive_of_le pollBuffer hle] at htype
  exact absurd htype (by decide)

/-- The data type is a byte of the datagram. -/
theorem receive_dataType : receive pollBuffer d 10 = d.getD 10 0 :=
  receive_of_lt pollBuffer (i := 10) (eleven_le_length hid h hdata)

theorem receive_dataType_update {k : Fin 1024} (v : Int8)
    (hk : d.length ≤ (k : ℕ)) :
    Function.update (receive pollBuffer d) k v 10 = d.getD 10 0 := by
  have hlength := eleven_le_length hid h hdata
  have hne : (10 : Fin 1024) ≠ k := by
    rintro rfl
    exact absurd hk (Nat.not_le.mpr hlength)
  rw [Function.update_of_ne hne]
  exact receive_dataType hid h hdata

theorem twelve_le_length (haction : d.getD 10 0 = USER_ACTION_DATA) :
    12 ≤ d.length := by
  refine lt_length_of_ne h (k := 11) (v := 1) fun hle heq => ?_
  rw [reading_of_data (verify_pollBuffer hid) (receive_data hid h hdata),
    reading_of_data (verify_update hid 1 hle (by decide))
      (receive_data_update hid h hdata 1 hle),
    receive_dataType hid h hdata, receive_dataType_update hid h hdata 1 hle,
    if_pos haction, if_pos haction, Function.update_self,
    receive_of_le pollBuffer hle] at heq
  have hbyte : pollBuffer 11 = 1 := congrArg Reading.userActionData heq
  exact absurd hbyte (by decide)

theorem twenty_le_length (hjoystick : d.getD 10 0 = JOYSTIC_DATA) :
    20 ≤ d.length := by
  refine lt_length_of_ne h (k := 19) (v := 1) fun hle heq => ?_
  have hne : d.getD 10 0 ≠ USER_ACTION_DATA := by
    rw [hjoystick]
    decide
  rw [reading_of_data (verify_pollBuffer hid) (receive_data hid h hdata),
    reading_of_data (verify_update hid 1 hle (by decide))
      (receive_data_update hid h hdata 1 hle),
    receive_dataType hid h hdata, receive_dataType_update hid h hdata 1 hle,
    if_neg hne, if_neg hne, if_pos hjoystick, if_pos hjoystick] at heq
  have hword := congrArg Prod.snd
    (Option.some.inj (congrArg Reading.joystickData heq))
  have htop := word_top_injective hword
  rw [Function.update_self, receive_of_le pollBuffer hle] at htop
  exact absurd htop (by decide)

theorem twentyFour_le_length (hgyro : d.getD 10 0 = GYRO_DATA) :
    24 ≤ d.length := by
  refine lt_length_of_ne h (k := 23) (v := 1) fun hle heq => ?_
  have hne : d.getD 10 0 ≠ USER_ACTION_DATA := by
    rw [hgyro]
    decide
  have hne' : d.getD 10 0 ≠ JOYSTIC_DATA := by
    rw [hgyro]
    decide
  rw [reading_of_data (verify_pollBuffer hid) (receive_data hid h hdata),
    reading_of_data (verify_update hid 1 hle (by decide))
      (receive_data_update hid h hdata 1 hle),
    receive_dataType hid h hdata, receive_dataType_update hid h hdata 1 hle,
    if_neg hne, if_neg hne, if_neg hne', if_neg hne', if_pos hgyro,
    if_pos hgyro] at heq
  have htop := word_top_injective (congrArg Reading.gyroData heq)
  rw [Function.update_self, receive_of_le pollBuffer hle] at htop
  exact absurd htop (by decide)

end Incomplete

/-- If the reading never depends on the buffer, then the datagram is
complete. -/
theorem complete_of_reading_eq
    (h : ∀ b b', (new (receive b d)).reading = (new (receive b' d)).reading) :
    Complete d := by
  by_cases hid : ∀ i : Fin 8, (i : ℕ) < d.length → d.getD i 0 = ID i
  · refine .inr ⟨ten_le_length hid h, ?_⟩
    by_cases hdata : d.getD 8 0 = DATA_PACKET_ID
    · exact .inr ⟨eleven_le_length hid h hdata,
        twelve_le_length hid h hdata, twenty_le_length hid h hdata,
        twentyFour_le_length hid h hdata⟩
    · exact .inl hdata
  · rw [not_forall] at hid
    obtain ⟨i, hi⟩ := hid
    rw [Classical.not_imp] at hi
    exact .inl ⟨i, hi⟩

/-- Two histories never matter to a datagram exactly when it is complete. -/
theorem reading_queued_eq_iff (d : List Int8) :
    (∀ history history', (queued history d).reading =
      (queued history' d).reading) ↔ Complete d := by
  constructor
  · intro h
    refine complete_of_reading_eq fun b b' => ?_
    have hb := h [List.ofFn b] [List.ofFn b']
    unfold queued at hb
    rw [bufferAfter_ofFn, bufferAfter_ofFn] at hb
    exact hb
  · intro h history history'
    exact h.reading_eq _ _

/-- A user action packet that ends before its action byte. -/
def shortAction : List Int8 :=
  [0x4A, 0x45, 0x10, 0x4D, 0x4B, 0x03, 0x43, 0x4B, 0x33, 0, 0x13]

/-- The action byte of the packet received before is read instead. -/
theorem shortAction_leaks :
    (queued [shortAction ++ [KONAMI]] shortAction).reading ≠
      (queued [] shortAction).reading := by
  decide

end ChuckLight.UDPServerThread
