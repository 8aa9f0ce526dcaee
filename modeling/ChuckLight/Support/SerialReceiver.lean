import ChuckLight.Support.Clocked
import Mathlib.Data.List.Basic
import Mathlib.Data.List.TakeDrop
import Mathlib.Tactic.SplitIfs

/-!
# A receiver for words on a serial line

Words are separated by nothing but the high level of the line, and a long low
level starts a new packet.  The receiver takes the falling edge of a start bit
as the origin of time and samples the bits of the word from there, by its own
clock.  It reads what was sent, from any state that it may have been in before,
as long as its samples fall into the right bits.
-/

namespace Serial

/-- The clock of a receiver: cycles for a bit, cycles from the falling edge to
the first sample, the bits of a word, and the low cycles of a break. -/
structure Timing where
  bit : ℕ
  half : ℕ
  bits : ℕ
  breakTime : ℕ
  bit_pos : 0 < bit
  half_pos : 0 < half
  bits_pos : 1 < bits
  break_pos : 1 < breakTime

inductive Phase where
  | hunt
  | held
  | mark
  | word (clock : ℕ) (bits : List Bool)
  deriving DecidableEq

/-- A receiver: the low samples in a row, what it waits for, the words since
the last break, and the words between the last two breaks. -/
structure Receiver where
  low : ℕ
  phase : Phase
  words : List (List Bool)
  packet : List (List Bool)
  deriving DecidableEq

/-- A word has a low start bit and a high stop bit. -/
def Framed (w : List Bool) : Prop :=
  w.head? = some false ∧ w.getLast? = some true

instance (w : List Bool) : Decidable (Framed w) :=
  inferInstanceAs (Decidable (_ ∧ _))

namespace Receiver

/-- All bits of a word have been sampled. -/
def accept (w : List Bool) (r : Receiver) : Receiver :=
  if Framed w then { r with phase := .mark, words := r.words ++ [w] }
  else { r with phase := .hunt }

/-- The cycle `clock` of a word. -/
def sample (c : Timing) (clock : ℕ) (bits : List Bool) (level : Bool)
    (r : Receiver) : Receiver :=
  if clock = c.half + c.bit * bits.length then
    if bits.length + 1 = c.bits then r.accept (bits ++ [level])
    else { r with phase := .word (clock + 1) (bits ++ [level]) }
  else { r with phase := .word (clock + 1) bits }

/-- A cycle without a break. -/
def watch (c : Timing) (level : Bool) (r : Receiver) : Receiver :=
  match r.phase with
  | .hunt => r
  | .held => if level then { r with phase := .mark } else r
  | .mark => if level then r else r.sample c 0 [] level
  | .word clock bits => r.sample c clock bits level

def step (c : Timing) (r : Receiver) (level : Bool) : Receiver :=
  let low := if level then 0 else r.low + 1
  if low = c.breakTime then ⟨low, .held, [], r.words⟩
  else { r with low := low }.watch c level

variable {c : Timing} {r : Receiver} {line : ℕ → Bool} {start : Receiver}
  {t : ℕ}

/-! ## What one cycle does -/

theorem low_sample (clock : ℕ) (bits : List Bool) (level : Bool) :
    (r.sample c clock bits level).low = r.low := by
  unfold sample accept
  split_ifs <;> rfl

theorem packet_sample (clock : ℕ) (bits : List Bool) (level : Bool) :
    (r.sample c clock bits level).packet = r.packet := by
  unfold sample accept
  split_ifs <;> rfl

theorem low_watch (level : Bool) : (r.watch c level).low = r.low := by
  unfold watch
  cases r.phase <;> dsimp only <;>
    first | rfl | (split_ifs <;> first | rfl | exact low_sample ..) |
      exact low_sample ..

theorem packet_watch (level : Bool) :
    (r.watch c level).packet = r.packet := by
  unfold watch
  cases r.phase <;> dsimp only <;>
    first | rfl | (split_ifs <;> first | rfl | exact packet_sample ..) |
      exact packet_sample ..

theorem low_step (level : Bool) :
    (r.step c level).low = if level then 0 else r.low + 1 := by
  unfold step
  dsimp only
  by_cases hbreak : (if level then 0 else r.low + 1) = c.breakTime
  · rw [if_pos hbreak]
  · rw [if_neg hbreak, low_watch]

theorem step_of_ne {level : Bool}
    (h : (if level then 0 else r.low + 1) ≠ c.breakTime) :
    r.step c level =
      { r with low := if level then 0 else r.low + 1 }.watch c level :=
  if_neg h

theorem step_high (c : Timing) (r : Receiver) :
    r.step c true = { r with low := 0 }.watch c true := by
  have hpos := c.break_pos
  refine step_of_ne ?_
  rw [if_pos rfl]
  omega

theorem step_low (h : r.low + 1 ≠ c.breakTime) :
    r.step c false = { r with low := r.low + 1 }.watch c false :=
  step_of_ne h

/-- Only a break moves the packet. -/
theorem packet_step {level : Bool}
    (h : (if level then 0 else r.low + 1) ≠ c.breakTime) :
    (r.step c level).packet = r.packet := by
  rw [step_of_ne h, packet_watch]

/-- A low level completes no word. -/
theorem words_sample_low (clock : ℕ) (bits : List Bool) :
    (r.sample c clock bits false).words = r.words := by
  have hframed : ¬ Framed (bits ++ [false]) := by
    rintro ⟨-, hlast⟩
    rw [List.getLast?_concat] at hlast
    cases hlast
  unfold sample accept
  rw [if_neg hframed]
  split_ifs <;> rfl

theorem words_watch_low : (r.watch c false).words = r.words := by
  unfold watch
  cases r.phase with
  | hunt => rfl
  | held => rfl
  | mark => exact words_sample_low 0 []
  | word clock bits => exact words_sample_low clock bits

theorem words_step_low (h : r.low + 1 ≠ c.breakTime) :
    (r.step c false).words = r.words := by
  rw [step_low h, words_watch_low]

/-! ## What a word looks like to the receiver -/

/-- The cycle of the last sample of a word. -/
def last (c : Timing) : ℕ := c.half + c.bit * (c.bits - 1)

/-- From cycle `t` on, for `len` cycles, the line carries the word `w`: the
samples of the receiver are its bits, the levels are not mistaken for a break,
and the line is high after the last sample. -/
structure Carries (c : Timing) (line : ℕ → Bool) (t len : ℕ)
    (w : List Bool) : Prop where
  length : w.length = c.bits
  framed : Framed w
  start : line t = false
  samples : ∀ j (h : j < w.length), line (t + (c.half + c.bit * j)) = w[j]
  noBreak : ∀ i < last c, line (t + i) = false → i < c.breakTime - 1
  rest : ∀ i, last c ≤ i → i < len → line (t + i) = true
  last_lt : last c < len

/-- Between two words. -/
structure Between (words packet : List (List Bool)) (r : Receiver) :
    Prop where
  phase : r.phase = .mark
  low : r.low = 0
  words : r.words = words
  packet : r.packet = packet

/-- In cycle `i` of a word, after the samples `bits`. -/
structure Inside (words packet : List (List Bool)) (i : ℕ)
    (bits : List Bool) (r : Receiver) : Prop where
  phase : r.phase = .word i bits
  low : r.low ≤ i
  words : r.words = words
  packet : r.packet = packet

/-- A word that is sent with `d` cycles for a bit, when each sample of the
receiver falls into its bit. -/
theorem carries_of_bits {d m : ℕ} {bit : ℕ → Bool} (hd : 0 < d)
    (hline : ∀ b < m, ∀ i < d, line (t + (b * d + i)) = bit b)
    (hsync : ∀ j < c.bits,
      j * d ≤ c.half + c.bit * j ∧ c.half + c.bit * j < (j + 1) * d)
    (hbits : c.bits ≤ m) (hstart : bit 0 = false)
    (hstop : ∀ b, c.bits - 1 ≤ b → b < m → bit b = true)
    (hbreak : (c.bits - 1) * d < c.breakTime) :
    Carries c line t (m * d) ((List.range c.bits).map bit) := by
  have hpos := c.bits_pos
  obtain ⟨hlow, hhigh⟩ := hsync (c.bits - 1) (by omega)
  rw [Nat.sub_add_cancel (Nat.le_of_lt hpos)] at hhigh
  have hend : last c < m * d :=
    Nat.lt_of_lt_of_le hhigh (Nat.mul_le_mul_right d hbits)
  have hlevel : ∀ i, i < m * d → line (t + i) = bit (i / d) := by
    intro i hi
    have hdiv := hline (i / d) (Nat.div_lt_of_lt_mul (Nat.mul_comm m d ▸ hi))
      (i % d) (Nat.mod_lt i hd)
    rwa [Nat.div_add_mod'] at hdiv
  have hrest : ∀ i, (c.bits - 1) * d ≤ i → i < m * d →
      line (t + i) = true := by
    intro i hle hi
    rw [hlevel i hi]
    exact hstop _ ((Nat.le_div_iff_mul_le hd).mpr hle)
      (Nat.div_lt_of_lt_mul (Nat.mul_comm m d ▸ hi))
  have hlength : ((List.range c.bits).map bit).length = c.bits := by
    rw [List.length_map, List.length_range]
  refine ⟨hlength, ⟨?_, ?_⟩, ?_, fun j hj => ?_, fun i hi hfalse => ?_,
    fun i hle hi => hrest i (Nat.le_trans hlow hle) hi, hend⟩
  · rw [List.head?_map, List.head?_range, if_neg (by omega)]
    exact congrArg some hstart
  · rw [List.getLast?_map, List.getLast?_range, if_neg (by omega)]
    exact congrArg some (hstop _ (Nat.le_refl _) (by omega))
  · rw [← hstart]
    have hfirst := hline 0 (by omega) 0 hd
    rwa [Nat.zero_mul] at hfirst
  · rw [hlength] at hj
    obtain ⟨hge, hlt⟩ := hsync j hj
    rw [List.getElem_map, List.getElem_range,
      hlevel _ (Nat.lt_of_lt_of_le hlt (Nat.mul_le_mul_right d (by omega)))]
    congr 1
    exact Nat.div_eq_of_lt_le hge hlt
  · have hlt : i < (c.bits - 1) * d := by
      by_contra hge
      rw [hrest i (Nat.le_of_not_lt hge) (Nat.lt_trans hi hend)] at hfalse
      cases hfalse
    omega

variable {words packet : List (List Bool)} {i : ℕ} {bits w : List Bool}
  {level : Bool}

theorem Between.high (h : Between words packet r) :
    Between words packet (r.step c true) := by
  have hsame : { r with low := 0 }.watch c true = { r with low := 0 } := by
    unfold watch
    dsimp only
    rw [h.phase]
    rfl
  rw [step_high, hsame]
  exact ⟨h.phase, rfl, h.words, h.packet⟩

/-- The falling edge. -/
theorem Between.fall (h : Between words packet r) :
    Inside words packet 1 [] (r.step c false) := by
  have hbreak := c.break_pos
  have hhalf := c.half_pos
  have hlow : r.low + 1 ≠ c.breakTime := by
    rw [h.low]
    omega
  have hlater : 0 ≠ c.half + c.bit * ([] : List Bool).length := by
    rw [List.length_nil]
    omega
  have hwatch : { r with low := r.low + 1 }.watch c false =
      { r with low := r.low + 1, phase := .word 1 [] } := by
    unfold watch
    dsimp only
    rw [h.phase]
    exact if_neg hlater
  rw [step_low hlow, hwatch]
  refine ⟨rfl, ?_, h.words, h.packet⟩
  exact Nat.le_of_eq (congrArg Nat.succ h.low)

/-- No level of the word is a break. -/
theorem Inside.step_eq (h : Inside words packet i bits r)
    (hbreak : level = false → i < c.breakTime - 1) :
    r.step c level =
      { r with low := if level then 0 else r.low + 1 }.sample c i bits
        level := by
  have hpos := c.break_pos
  have hlow := h.low
  have hne : (if level then 0 else r.low + 1) ≠ c.breakTime := by
    cases level with
    | true =>
        rw [if_pos rfl]
        omega
    | false =>
        have hlt := hbreak rfl
        rw [if_neg Bool.false_ne_true]
        omega
  rw [step_of_ne hne]
  unfold watch
  dsimp only
  rw [h.phase]

theorem Inside.low_le (h : Inside words packet i bits r) (level : Bool) :
    (if level then 0 else r.low + 1) ≤ i + 1 := by
  have hlow := h.low
  split_ifs <;> omega

theorem Inside.wait (h : Inside words packet i bits r)
    (hbreak : level = false → i < c.breakTime - 1)
    (hi : i ≠ c.half + c.bit * bits.length) :
    Inside words packet (i + 1) bits (r.step c level) := by
  rw [h.step_eq hbreak]
  unfold sample
  rw [if_neg hi]
  exact ⟨rfl, h.low_le level, h.words, h.packet⟩

theorem Inside.take (h : Inside words packet i bits r)
    (hbreak : level = false → i < c.breakTime - 1)
    (hi : i = c.half + c.bit * bits.length)
    (hmore : bits.length + 1 ≠ c.bits) :
    Inside words packet (i + 1) (bits ++ [level]) (r.step c level) := by
  rw [h.step_eq hbreak]
  unfold sample
  rw [if_pos hi, if_neg hmore]
  exact ⟨rfl, h.low_le level, h.words, h.packet⟩

theorem Inside.finish (h : Inside words packet i bits r)
    (hi : i = c.half + c.bit * bits.length)
    (hall : bits.length + 1 = c.bits) (hframed : Framed (bits ++ [true])) :
    Between (words ++ [bits ++ [true]]) packet (r.step c true) := by
  have hhigh : true = false → i < c.breakTime - 1 :=
    fun hno => absurd hno.symm Bool.false_ne_true
  rw [h.step_eq hhigh]
  unfold sample accept
  rw [if_pos hi, if_pos hall, if_pos hframed]
  refine ⟨rfl, rfl, ?_, h.packet⟩
  exact congrArg (· ++ _) h.words

/-! ## Runs -/

/-- The receiver at the start of cycle `t`. -/
def runAt (c : Timing) (line : ℕ → Bool) (start : Receiver) (t : ℕ) :
    Receiver :=
  Clocked.run (step c) start line t

theorem runAt_succ (t : ℕ) : runAt c line start (t + 1) =
    (runAt c line start t).step c (line t) := rfl

theorem between_high {n : ℕ} (h : Between words packet (runAt c line start t))
    (hhigh : ∀ i < n, line (t + i) = true) :
    Between words packet (runAt c line start (t + n)) := by
  induction n with
  | zero => exact h
  | succ n ih =>
      have hbefore := ih fun i hi => hhigh i (Nat.lt_succ_of_lt hi)
      rw [← Nat.add_assoc, runAt_succ, hhigh n (Nat.lt_succ_self n)]
      exact hbefore.high

/-- The samples of a word, cycle by cycle. -/
theorem inside_word {len : ℕ} (h : Between words packet (runAt c line start t))
    (hcarries : Carries c line t len w) :
    ∀ i, i < last c → ∃ k, k < c.bits ∧ i + 1 ≤ c.half + c.bit * k ∧
      Inside words packet (i + 1) (w.take k)
        (runAt c line start (t + (i + 1))) := by
  intro i
  induction i with
  | zero =>
      intro _
      refine ⟨0, Nat.zero_lt_of_lt c.bits_pos, c.half_pos, ?_⟩
      rw [← Nat.add_assoc, runAt_succ, Nat.add_zero, hcarries.start]
      exact h.fall
  | succ i ih =>
      intro hi
      obtain ⟨k, hk, hle, hinside⟩ := ih (Nat.lt_of_succ_lt hi)
      have hlength : (w.take k).length = k := by
        rw [List.length_take, hcarries.length]
        omega
      rw [← Nat.add_assoc, runAt_succ]
      by_cases heq : i + 1 = c.half + c.bit * k
      · have hmore : k + 1 < c.bits := by
          unfold last at hi
          by_contra hlast
          have hk' : k = c.bits - 1 := by omega
          rw [← hk', ← heq] at hi
          exact absurd hi (Nat.lt_irrefl _)
        have hlt : k < w.length := by
          rw [hcarries.length]
          exact hk
        have hsample : line (t + (i + 1)) = w[k] := by
          rw [heq]
          exact hcarries.samples k hlt
        refine ⟨k + 1, hmore, ?_, ?_⟩
        · rw [heq, Nat.mul_succ, ← Nat.add_assoc]
          exact Nat.add_le_add_left c.bit_pos _
        · rw [List.take_succ_eq_append_getElem hlt, ← hsample]
          refine hinside.take (hcarries.noBreak _ hi) ?_ ?_
          · rw [hlength, heq]
          · rw [hlength]
            exact Nat.ne_of_lt hmore
      · refine ⟨k, hk, Nat.lt_of_le_of_ne hle heq, ?_⟩
        refine hinside.wait (hcarries.noBreak _ hi) ?_
        rw [hlength]
        exact heq

/-- The receiver reads the word, and keeps the packet meanwhile. -/
theorem between_word {len : ℕ}
    (h : Between words packet (runAt c line start t))
    (hcarries : Carries c line t len w) :
    Between (words ++ [w]) packet (runAt c line start (t + len)) ∧
      ∀ i, i ≤ len → (runAt c line start (t + i)).packet = packet := by
  have hinside := inside_word h hcarries
  have hlast : 0 < last c := Nat.add_pos_left c.half_pos _
  obtain ⟨k, hk, hle, hsampled⟩ := hinside (last c - 1) (by omega)
  rw [Nat.sub_add_cancel hlast] at hle hsampled
  have hall : k = c.bits - 1 := by
    have hmul : c.bit * (c.bits - 1) ≤ c.bit * k :=
      Nat.le_of_add_le_add_left hle
    have hkle := Nat.le_of_mul_le_mul_left hmul c.bit_pos
    omega
  have hbits := c.bits_pos
  have hlength : (w.take k).length = k := by
    rw [List.length_take, hcarries.length]
    omega
  have hwhole : w.take k ++ [true] = w := by
    have hstop := hcarries.framed.2
    have hdrop := List.dropLast_append_getLast? true
      (Option.mem_def.mpr hstop)
    rw [List.dropLast_eq_take, hcarries.length, ← hall] at hdrop
    exact hdrop
  have hend : Between (words ++ [w]) packet
      (runAt c line start (t + (last c + 1))) := by
    have hlevel := hcarries.rest (last c) (Nat.le_refl _) hcarries.last_lt
    have hfinish := hsampled.finish (c := c) (by rw [hlength, hall]; rfl)
      (by rw [hlength, hall]; omega) (by rw [hwhole]; exact hcarries.framed)
    rw [hwhole] at hfinish
    rw [← Nat.add_assoc, runAt_succ, hlevel]
    exact hfinish
  have hrest : ∀ m, last c + 1 + m ≤ len → Between (words ++ [w]) packet
      (runAt c line start (t + (last c + 1 + m))) := by
    intro m hm
    rw [← Nat.add_assoc]
    refine between_high hend fun i hi => ?_
    rw [Nat.add_assoc]
    exact hcarries.rest _ (by omega) (by omega)
  have hlt := hcarries.last_lt
  refine ⟨?_, fun i hi => ?_⟩
  · obtain ⟨m, rfl⟩ := Nat.exists_eq_add_of_le (Nat.succ_le_of_lt hlt)
    exact hrest m (Nat.le_refl _)
  · rcases Nat.lt_or_ge (last c) i with hafter | hbefore
    · obtain ⟨m, rfl⟩ := Nat.exists_eq_add_of_le (Nat.succ_le_of_lt hafter)
      exact (hrest m hi).packet
    · cases i with
      | zero => exact h.packet
      | succ i =>
          obtain ⟨_, -, -, hin⟩ := hinside i hbefore
          exact hin.packet

/-! ## A packet -/

/-- From cycle `t` on the line carries a packet: it is high, low for a break,
and high again, and then come the `n` words `w`, each in `len` cycles. -/
structure CarriesPacket (c : Timing) (line : ℕ → Bool)
    (t idle low mark len n : ℕ) (w : ℕ → List Bool) : Prop where
  idle_pos : 0 < idle
  break_le : c.breakTime ≤ low
  mark_pos : 0 < mark
  high : ∀ i < idle, line (t + i) = true
  broken : ∀ i < low, line (t + idle + i) = false
  marked : ∀ i < mark, line (t + idle + low + i) = true
  words : ∀ i < n, Carries c line (t + idle + low + mark + i * len) len (w i)

/-- Before the break is long enough, nothing is lost. -/
theorem before_break (hlow : (runAt c line start t).low = 0) {n : ℕ}
    (hline : ∀ i < n, line (t + i) = false) :
    ∀ j, j < c.breakTime → j ≤ n →
      (runAt c line start (t + j)).low = j ∧
        (runAt c line start (t + j)).words = (runAt c line start t).words ∧
          (runAt c line start (t + j)).packet =
            (runAt c line start t).packet := by
  intro j
  induction j with
  | zero => exact fun _ _ => ⟨hlow, rfl, rfl⟩
  | succ j ih =>
      intro hj hn
      obtain ⟨hbefore, hwords, hpacket⟩ := ih (Nat.lt_of_succ_lt hj)
        (Nat.le_of_succ_le hn)
      have hne : (runAt c line start (t + j)).low + 1 ≠ c.breakTime := by
        rw [hbefore]
        exact Nat.ne_of_lt hj
      rw [← Nat.add_assoc, runAt_succ, hline j hn]
      refine ⟨?_, (words_step_low hne).trans hwords, ?_⟩
      · rw [low_step, hbefore]
        rfl
      · refine (packet_step ?_).trans hpacket
        exact hne

/-- After the break the receiver holds the words of the packet. -/
theorem after_break (hlow : (runAt c line start t).low = 0) {n : ℕ}
    (hline : ∀ i < n, line (t + i) = false) :
    ∀ j, c.breakTime + j ≤ n →
      runAt c line start (t + (c.breakTime + j)) =
        ⟨c.breakTime + j, .held, [], (runAt c line start t).words⟩ := by
  have hpos := c.break_pos
  intro j
  induction j with
  | zero =>
      intro hn
      obtain ⟨hbefore, hwords, -⟩ := before_break hlow hline
        (c.breakTime - 1) (by omega) (by omega)
      have hsucc : t + (c.breakTime + 0) = t + (c.breakTime - 1) + 1 := by
        omega
      have hreach : (runAt c line start (t + (c.breakTime - 1))).low + 1 =
          c.breakTime := by
        rw [hbefore]
        omega
      rw [hsucc, runAt_succ, hline _ (by omega)]
      unfold step
      rw [if_neg Bool.false_ne_true, if_pos hreach, hreach, hwords]
      rfl
  | succ j ih =>
      intro hn
      have hsame := ih (by omega)
      have hne : c.breakTime + j + 1 ≠ c.breakTime := by omega
      rw [← Nat.add_assoc, ← Nat.add_assoc, Nat.add_assoc t, runAt_succ,
        hsame, hline _ (by omega), step_low hne]
      rfl

variable {idle low mark len n : ℕ} {w : ℕ → List Bool}

/-- A line that has been high for a cycle. -/
theorem low_of_high (hpos : 0 < n) (hline : ∀ i < n, line (t + i) = true) :
    (runAt c line start (t + n)).low = 0 := by
  obtain ⟨m, rfl⟩ := Nat.exists_eq_succ_of_ne_zero (Nat.ne_of_gt hpos)
  rw [Nat.succ_eq_add_one, ← Nat.add_assoc, runAt_succ, low_step,
    hline m (Nat.lt_succ_self m)]
  rfl

/-- Whatever came before, a break is followed by the words. -/
theorem between_mark (h : CarriesPacket c line t idle low mark len n w) :
    Between [] (runAt c line start (t + idle)).words
        (runAt c line start (t + idle + low + mark)) ∧
      ∀ j, c.breakTime ≤ j → j ≤ low + mark →
        (runAt c line start (t + idle + j)).packet =
          (runAt c line start (t + idle)).words := by
  have hzero := @low_of_high c line start t idle h.idle_pos h.high
  have hheld := after_break hzero h.broken
  have hend : ∀ j, j < mark → Between [] (runAt c line start
      (t + idle)).words (runAt c line start (t + idle + low + (j + 1))) := by
    intro j hj
    have hfirst : Between [] (runAt c line start (t + idle)).words
        (runAt c line start (t + idle + low + 1)) := by
      have hlast := hheld (low - c.breakTime) (by have := h.break_le; omega)
      rw [Nat.add_sub_cancel' h.break_le] at hlast
      have hmark := h.marked 0 h.mark_pos
      rw [Nat.add_zero] at hmark
      rw [runAt_succ, hlast, hmark, step_high]
      exact ⟨rfl, rfl, rfl, rfl⟩
    rw [Nat.add_comm j, ← Nat.add_assoc]
    refine between_high hfirst fun i hi => ?_
    rw [Nat.add_assoc, Nat.add_comm 1]
    exact h.marked _ (by omega)
  refine ⟨?_, fun j hj hle => ?_⟩
  · have hmark := hend (mark - 1) (by have := h.mark_pos; omega)
    rwa [Nat.sub_add_cancel h.mark_pos] at hmark
  · rcases Nat.lt_or_ge low j with hafter | hbefore
    · obtain ⟨m, rfl⟩ := Nat.exists_eq_add_of_le (Nat.succ_le_of_lt hafter)
      have hmark := (hend m (by omega)).packet
      rwa [show t + idle + low + (m + 1) = t + idle + (low.succ + m) by
        omega] at hmark
    · obtain ⟨m, rfl⟩ := Nat.exists_eq_add_of_le hj
      rw [hheld m hbefore]

theorem between_words (h : CarriesPacket c line t idle low mark len n w)
    (hmark : Between [] packet
      (runAt c line start (t + idle + low + mark))) :
    ∀ m, m ≤ n → Between ((List.range m).map w) packet
          (runAt c line start (t + idle + low + mark + m * len)) ∧
        ∀ i, i ≤ m * len →
          (runAt c line start (t + idle + low + mark + i)).packet =
            packet := by
  intro m
  induction m with
  | zero =>
      refine fun _ => ⟨?_, fun i hi => ?_⟩
      · rw [Nat.zero_mul]
        exact hmark
      · rw [Nat.zero_mul, Nat.le_zero] at hi
        rw [hi]
        exact hmark.packet
  | succ m ih =>
      intro hm
      obtain ⟨hbefore, hpacket⟩ := ih (Nat.le_of_succ_le hm)
      obtain ⟨hafter, hkept⟩ := between_word hbefore (h.words m hm)
      rw [Nat.succ_mul, ← Nat.add_assoc, List.range_succ, List.map_append]
      refine ⟨hafter, fun i hi => ?_⟩
      rcases Nat.le_total i (m * len) with hle | hge
      · exact hpacket i hle
      · obtain ⟨j, rfl⟩ := Nat.exists_eq_add_of_le hge
        rw [← Nat.add_assoc]
        exact hkept j (by omega)

/-- From any state the receiver reads the words of a packet. -/
theorem read_packet (h : CarriesPacket c line t idle low mark len n w) :
    ∃ before, Between ((List.range n).map w) before
      (runAt c line start (t + (idle + low + mark + n * len))) := by
  obtain ⟨hmark, -⟩ := @between_mark c line start _ _ _ _ _ _ _ h
  have hwords := (between_words h hmark n (Nat.le_refl _)).1
  refine ⟨(runAt c line start (t + idle)).words, ?_⟩
  rwa [← Nat.add_assoc, ← Nat.add_assoc, ← Nat.add_assoc]

/-- The words that were read before a packet are the packet that the receiver
holds from the break on, up to the next one. -/
theorem hold_packet (h : CarriesPacket c line t idle low mark len n w)
    (hbefore : Between words packet (runAt c line start t)) :
    (∀ i, i < idle + c.breakTime →
        (runAt c line start (t + i)).packet = packet) ∧
      ∀ i, idle + c.breakTime ≤ i →
        i ≤ idle + low + mark + n * len →
          (runAt c line start (t + i)).packet = words := by
  have hidle := between_high hbefore h.high
  obtain ⟨hmark, hheld⟩ := @between_mark c line start _ _ _ _ _ _ _ h
  rw [hidle.words] at hmark hheld
  refine ⟨fun i hi => ?_, fun i hge hle => ?_⟩
  · rcases Nat.lt_or_ge i idle with hlt | hlow
    · have hhigh : ∀ j < i, line (t + j) = true :=
        fun j hj => h.high j (Nat.lt_trans hj hlt)
      exact (between_high hbefore hhigh).packet
    · obtain ⟨j, rfl⟩ := Nat.exists_eq_add_of_le hlow
      have hbreak := h.break_le
      have hkept := (before_break hidle.low h.broken j (by omega)
        (by omega)).2.2
      rw [← Nat.add_assoc, hkept]
      exact hidle.packet
  · obtain ⟨j, rfl⟩ := Nat.exists_eq_add_of_le
      (Nat.le_trans (Nat.le_add_right _ _) hge)
    rw [← Nat.add_assoc]
    rcases Nat.le_total j (low + mark) with hshort | hlong
    · exact hheld j (by omega) hshort
    · obtain ⟨m, rfl⟩ := Nat.exists_eq_add_of_le hlong
      have hwords := (between_words h hmark n (Nat.le_refl _)).2 m
        (by omega)
      rwa [show t + idle + low + mark + m = t + idle + (low + mark + m) by
        omega] at hwords

/-- An endless repetition of packets.  Whatever state the receiver was in, from
the break after a packet up to the next break it holds the words of that
packet. -/
theorem packet_of_packets {period : ℕ} {ws : ℕ → ℕ → List Bool}
    (h : ∀ k, CarriesPacket c line (k * period) idle low mark len n (ws k))
    (hperiod : period = idle + low + mark + n * len) (start : Receiver)
    (k : ℕ) {i : ℕ} (hge : idle + c.breakTime ≤ i)
    (hlt : i < period + (idle + c.breakTime)) :
    (runAt c line start ((k + 1) * period + i)).packet =
      (List.range n).map (ws k) := by
  have hread : ∀ k, ∃ before, Between ((List.range n).map (ws k))
      before (runAt c line start ((k + 1) * period)) := by
    intro k
    have hwords := @read_packet c line start _ _ _ _ _ _ _ (h k)
    rwa [← hperiod, ← Nat.succ_mul] at hwords
  rcases Nat.lt_or_ge period i with hnext | hsame
  · obtain ⟨j, rfl⟩ := Nat.exists_eq_add_of_le (Nat.le_of_lt hnext)
    obtain ⟨before, hbetween⟩ := hread k
    obtain ⟨before', hbetween'⟩ := hread (k + 1)
    have hheld := (hold_packet (h (k + 1)) hbetween).2 period
      (by rw [hperiod]; have := (h k).break_le; omega)
      (Nat.le_of_eq hperiod)
    rw [← Nat.succ_mul] at hheld
    have hpacket : before' = (List.range n).map (ws k) :=
      hbetween'.packet.symm.trans hheld
    rw [← Nat.add_assoc, ← Nat.succ_mul, ← hpacket]
    exact (hold_packet (h (k + 2)) hbetween').1 j (by omega)
  · obtain ⟨before, hbetween⟩ := hread k
    refine (hold_packet (h (k + 1)) hbetween).2 i hge ?_
    rw [← hperiod]
    exact hsame

end Receiver

end Serial
