import ChuckLight.Firmware.UdpController

/-!
# What is read of a datagram

The payload of a datagram is followed in memory by other bytes.  `udp_recieve`
never looks at the length of the datagram: it reads as far as the identification
agrees, and then the fields of the packet that the type byte stands for.
-/

namespace ChuckLight.Firmware.UdpController

/-! ## Definitions -/

/-- The bytes from `p->payload` on. -/
abbrev Memory := ℕ → UInt8

/-- A payload of `p->len` bytes, and what follows it. -/
def memory (payload : List UInt8) (rest : Memory) : Memory := fun i =>
  payload.getD i (rest (i - payload.length))

/-- The comparison with the identification from an offset on: the offsets that
are read, and whether the bytes agree. -/
def readId (mem : Memory) : List UInt8 → ℕ → List ℕ × Bool
  | [], _ => ([], true)
  | b :: bs, i =>
      if mem i ≠ b then ([i], false)
      else
        let (offsets, valid) := readId mem bs (i + 1)
        (i :: offsets, valid)

/-- `udp_recieve` with the offsets that it reads. -/
def readRecieve (addr : IpAddr) (mem : Memory) (c : UdpController) :
    List ℕ × UdpController :=
  let (offsets, valid) := readId mem ID 0
  if ¬ valid then (offsets, c)
  else if mem 8 = COMMAND_PACKET_ID then
    (offsets ++ [8, 9, 10], obey (mem 10) (c.setMode (mem 9)))
  else if mem 8 = POLL_PACKET_ID then
    (offsets ++ [8, 9], answer addr (mem 9) c)
  else (offsets ++ [8], c)

/-- The datagram ends before the last field of its packet. -/
def TooShort (payload : List UInt8) : Prop :=
  payload.length < 9 ∨
    (payload[8]? = some COMMAND_PACKET_ID ∧ payload.length < 11) ∨
    (payload[8]? = some POLL_PACKET_ID ∧ payload.length < 10)

/-- The datagram differs from the identification. -/
def Foreign (payload : List UInt8) : Prop :=
  ∃ i < 8, ∃ b, payload[i]? = some b ∧ b ≠ ID.getD i 0

/-- Only bytes of the payload are read, and a datagram that is too short changes
neither the mode nor the destination. -/
def ReadsOnlyReceived (addr : IpAddr) (payload : List UInt8) (rest : Memory)
    (c : UdpController) : Prop :=
  (∀ i ∈ (readRecieve addr (memory payload rest) c).1, i < payload.length) ∧
    (TooShort payload →
      (readRecieve addr (memory payload rest) c).2.MODE = c.MODE ∧
      (readRecieve addr (memory payload rest) c).2.DEST_IP = c.DEST_IP)

/-! ## The identification -/

variable {mem : Memory} {payload : List UInt8} {rest : Memory}
  {addr : IpAddr} {c : UdpController}

theorem readId_cons_of_ne {b : UInt8} {bs : List UInt8} {i : ℕ}
    (h : mem i ≠ b) : readId mem (b :: bs) i = ([i], false) := if_pos h

theorem readId_cons_of_eq {bs : List UInt8} {i : ℕ} :
    readId mem (mem i :: bs) i =
      (i :: (readId mem bs (i + 1)).1, (readId mem bs (i + 1)).2) :=
  if_neg fun h => h rfl

theorem readId_valid_iff (bs : List UInt8) (i : ℕ) :
    (readId mem bs i).2 = true ↔
      ∀ j < bs.length, mem (i + j) = bs.getD j 0 := by
  induction bs generalizing i with
  | nil => exact ⟨fun _ j hj => absurd hj (Nat.not_lt_zero j), fun _ => rfl⟩
  | cons b bs ih =>
      by_cases heq : mem i = b
      · subst heq
        rw [readId_cons_of_eq]
        refine (ih (i + 1)).trans ⟨fun h j hj => ?_, fun h j hj => ?_⟩
        · cases j with
          | zero => rfl
          | succ j =>
              have hbyte := h j (Nat.lt_of_succ_lt_succ hj)
              rwa [Nat.add_right_comm] at hbyte
        · have hbyte := h (j + 1) (Nat.succ_lt_succ hj)
          rw [Nat.add_right_comm]
          exact hbyte
      · rw [readId_cons_of_ne heq]
        constructor
        · exact fun h => absurd h Bool.false_ne_true
        · exact fun h => absurd (h 0 (Nat.zero_lt_succ _)) heq

/-- The comparison stays within a length if it is long enough, or if a byte
within it differs. -/
theorem readId_within_iff (bs : List UInt8) {i n : ℕ} (hi : i ≤ n) :
    (∀ k ∈ (readId mem bs i).1, k < n) ↔
      i + bs.length ≤ n ∨
        ∃ j < bs.length, i + j < n ∧ mem (i + j) ≠ bs.getD j 0 := by
  induction bs generalizing i with
  | nil => exact ⟨fun _ => .inl hi, fun _ k hk => absurd hk List.not_mem_nil⟩
  | cons b bs ih =>
      have hfirst : i ∈ (readId mem (b :: bs) i).1 := by
        unfold readId
        split_ifs
        · exact List.mem_singleton_self i
        · exact List.mem_cons_self ..
      by_cases hlt : i < n
      · by_cases heq : mem i = b
        · subst heq
          have hnext : i + 1 ≤ n := hlt
          have hrest := ih hnext
          rw [readId_cons_of_eq, List.forall_mem_cons, hrest]
          constructor
          · rintro ⟨-, hle | ⟨j, hj, hjn, hne⟩⟩
            · exact .inl (by rw [List.length_cons]; omega)
            · refine .inr ⟨j + 1, Nat.succ_lt_succ hj, by omega, ?_⟩
              rw [Nat.add_right_comm] at hne
              exact hne
          · rintro (hle | ⟨j, hj, hjn, hne⟩)
            · exact ⟨hlt, .inl (by rw [List.length_cons] at hle; omega)⟩
            · cases j with
              | zero => exact absurd rfl hne
              | succ j =>
                  refine ⟨hlt, .inr ⟨j, Nat.lt_of_succ_lt_succ hj, by omega,
                    ?_⟩⟩
                  rw [Nat.add_right_comm]
                  exact hne
        · rw [readId_cons_of_ne heq]
          refine ⟨fun _ => .inr ⟨0, Nat.zero_lt_succ _, hlt, heq⟩, ?_⟩
          intro _ k hk
          rwa [List.mem_singleton.mp hk]
      · constructor
        · exact fun h => absurd (h i hfirst) hlt
        · rintro (hle | ⟨j, -, hjn, -⟩)
          · rw [List.length_cons] at hle
            omega
          · omega

/-! ## The fields -/

theorem memory_of_lt (rest : Memory) {i : ℕ} (h : i < payload.length) :
    payload[i]? = some (memory payload rest i) := by
  unfold memory
  rw [List.getElem?_eq_getElem h, List.getD_eq_getElem?_getD,
    List.getElem?_eq_getElem h, Option.getD_some]

/-- Without a difference the payload agrees with the identification. -/
theorem memory_of_not_foreign (h : ¬ Foreign payload) {i : ℕ} (hi : i < 8)
    (hlt : i < payload.length) : memory payload rest i = ID.getD i 0 := by
  by_contra hne
  exact h ⟨i, hi, _, memory_of_lt rest hlt, hne⟩

theorem readRecieve_of_invalid (h : (readId mem ID 0).2 = false) :
    readRecieve addr mem c = ((readId mem ID 0).1, c) := by
  unfold readRecieve
  generalize readId mem ID 0 = read at h ⊢
  obtain ⟨offsets, valid⟩ := read
  cases h
  exact if_pos Bool.false_ne_true

theorem readRecieve_of_valid (h : (readId mem ID 0).2 = true) :
    readRecieve addr mem c =
      if mem 8 = COMMAND_PACKET_ID then
        ((readId mem ID 0).1 ++ [8, 9, 10],
          obey (mem 10) (c.setMode (mem 9)))
      else if mem 8 = POLL_PACKET_ID then
        ((readId mem ID 0).1 ++ [8, 9], answer addr (mem 9) c)
      else ((readId mem ID 0).1 ++ [8], c) := by
  unfold readRecieve
  generalize readId mem ID 0 = read at h ⊢
  obtain ⟨offsets, valid⟩ := read
  cases h
  exact if_neg (not_not.mpr rfl)

/-- The offsets of the fields of a packet. -/
def fieldOffsets (packetType : UInt8) : List ℕ :=
  if packetType = COMMAND_PACKET_ID then [8, 9, 10]
  else if packetType = POLL_PACKET_ID then [8, 9]
  else [8]

theorem offsets_of_valid (h : (readId mem ID 0).2 = true) :
    (readRecieve addr mem c).1 =
      (readId mem ID 0).1 ++ fieldOffsets (mem 8) := by
  rw [readRecieve_of_valid h]
  unfold fieldOffsets
  split_ifs <;> rfl

theorem mem_readRecieve {i : ℕ} (h : i ∈ (readId mem ID 0).1) :
    i ∈ (readRecieve addr mem c).1 := by
  cases hvalid : (readId mem ID 0).2 with
  | false => rwa [readRecieve_of_invalid hvalid]
  | true =>
      rw [offsets_of_valid hvalid]
      exact List.mem_append_left _ h

/-- The fields lie within a payload that is not too short for them. -/
theorem fieldOffsets_lt_iff {packetType : UInt8} {n : ℕ} :
    (∀ i ∈ fieldOffsets packetType, i < n) ↔
      8 < n ∧ (packetType = COMMAND_PACKET_ID → 10 < n) ∧
        (packetType = POLL_PACKET_ID → 9 < n) := by
  have hne : COMMAND_PACKET_ID ≠ POLL_PACKET_ID := by decide
  unfold fieldOffsets
  split_ifs with hcommand hpoll
  · subst hcommand
    simp [hne]
    omega
  · subst hpoll
    simp [hne.symm]
  · simp [hcommand, hpoll]

theorem tooShort_iff (payload : List UInt8) (rest : Memory) :
    TooShort payload ↔
      ¬ (8 < payload.length ∧
        (memory payload rest 8 = COMMAND_PACKET_ID → 10 < payload.length) ∧
        (memory payload rest 8 = POLL_PACKET_ID → 9 < payload.length)) := by
  unfold TooShort
  by_cases hlt : 8 < payload.length
  · rw [memory_of_lt rest hlt, Option.some_inj, Option.some_inj]
    grind
  · have hshort : payload.length < 9 := by omega
    simp [hlt, hshort]

theorem readId_of_foreign (rest : Memory) (h : Foreign payload) :
    (readId (memory payload rest) ID 0).2 = false ∧
      ∀ i ∈ (readId (memory payload rest) ID 0).1, i < payload.length := by
  obtain ⟨i, hi, b, hbyte, hne⟩ := h
  have hlt : i < payload.length := (List.getElem?_eq_some_iff.mp hbyte).1
  have hmem : memory payload rest (0 + i) ≠ ID.getD i 0 := by
    rw [memory_of_lt rest hlt] at hbyte
    rwa [Nat.zero_add, Option.some.inj hbyte]
  constructor
  · apply Bool.eq_false_of_not_eq_true
    exact fun hvalid => hmem ((readId_valid_iff ID 0).mp hvalid i hi)
  · refine (readId_within_iff ID (Nat.zero_le _)).mpr (.inr ⟨i, hi, ?_, hmem⟩)
    rwa [Nat.zero_add]

/-- Without a difference the comparison reads eight bytes. -/
theorem readId_of_not_foreign (rest : Memory) (h : ¬ Foreign payload) :
    (8 ≤ payload.length →
      (readId (memory payload rest) ID 0).2 = true) ∧
    ((∀ i ∈ (readId (memory payload rest) ID 0).1, i < payload.length) ↔
      8 ≤ payload.length) := by
  have hagrees : ∀ j < 8, j < payload.length →
      memory payload rest (0 + j) = ID.getD j 0 := by
    intro j hj hlt
    rw [Nat.zero_add]
    exact memory_of_not_foreign h hj hlt
  constructor
  · intro hle
    exact (readId_valid_iff ID 0).mpr fun j hj =>
      hagrees j hj (Nat.lt_of_lt_of_le hj hle)
  · rw [readId_within_iff ID (Nat.zero_le _), Nat.zero_add]
    refine ⟨fun hor => ?_, .inl⟩
    rcases hor with hle | ⟨j, hj, hlt, hne⟩
    · exact hle
    · rw [Nat.zero_add] at hlt
      exact absurd (hagrees j hj hlt) hne

/-- `udp_recieve` keeps to the received bytes if and only if the datagram
differs from the identification or is not too short. -/
theorem readsOnlyReceived_iff (addr : IpAddr) (payload : List UInt8)
    (rest : Memory) (c : UdpController) :
    ReadsOnlyReceived addr payload rest c ↔
      Foreign payload ∨ ¬ TooShort payload := by
  by_cases hforeign : Foreign payload
  · obtain ⟨hinvalid, hwithin⟩ := readId_of_foreign rest hforeign
    unfold ReadsOnlyReceived
    rw [readRecieve_of_invalid hinvalid]
    exact iff_of_true ⟨hwithin, fun _ => ⟨rfl, rfl⟩⟩ (.inl hforeign)
  · obtain ⟨hvalid, hwithin⟩ := readId_of_not_foreign rest hforeign
    have hshort := tooShort_iff payload rest
    constructor
    · rintro ⟨hreads, -⟩
      refine .inr (hshort.not.mpr (not_not.mpr ?_))
      have hle : 8 ≤ payload.length :=
        hwithin.mp fun i hi => hreads i (mem_readRecieve hi)
      rw [offsets_of_valid (hvalid hle), List.forall_mem_append] at hreads
      exact fieldOffsets_lt_iff.mp hreads.2
    · rintro (h | hlong)
      · exact absurd h hforeign
      · have hfields := not_not.mp (mt hshort.mpr hlong)
        have hle : 8 ≤ payload.length := Nat.le_of_lt hfields.1
        refine ⟨?_, fun h => absurd h hlong⟩
        rw [offsets_of_valid (hvalid hle), List.forall_mem_append]
        exact ⟨hwithin.mpr hle, fieldOffsets_lt_iff.mpr hfields⟩

/-- What a datagram does is what `udpRecieve` says, where the bytes that follow
the payload count as zero. -/
theorem readRecieve_eq (addr : IpAddr) (payload : List UInt8)
    (c : UdpController) :
    (readRecieve addr (memory payload fun _ => 0) c).2 =
      udpRecieve addr payload c := by
  have hmem : memory payload (fun _ => 0) = byteAt payload := rfl
  have hvalid : (readId (byteAt payload) ID 0).2 = true ↔
      IsValid payload := by
    rw [readId_valid_iff]
    refine ⟨fun h i hi => ?_, fun h i hi => ?_⟩
    · have hall := h i hi
      rwa [Nat.zero_add] at hall
    · rw [Nat.zero_add]
      exact h i hi
  unfold udpRecieve
  rw [hmem]
  by_cases h : IsValid payload
  · rw [readRecieve_of_valid (hvalid.mpr h), if_neg (not_not.mpr h)]
    split_ifs <;> rfl
  · have hinvalid := Bool.eq_false_of_not_eq_true (mt hvalid.mp h)
    rw [readRecieve_of_invalid hinvalid, if_pos h]

/-- A poll packet without its last byte: the mode is what follows it. -/
theorem not_readsOnlyReceived_poll :
    ¬ ∀ addr payload rest c, ReadsOnlyReceived addr payload rest c := by
  intro h
  have hshort : TooShort (ID ++ [POLL_PACKET_ID]) := .inr (.inr (by decide))
  have hmode := ((h 0 (ID ++ [POLL_PACKET_ID]) (fun _ => 7) init).2 hshort).1
  exact absurd hmode (by decide)

end ChuckLight.Firmware.UdpController
