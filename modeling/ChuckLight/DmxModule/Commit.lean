import ChuckLight.DmxModule.Ece453
import Mathlib.Tactic.Tauto

/-!
# What a START commits

A bus write to CONTROL with bit 0 set is a START.  The write FSM answers it
one cycle later and keeps the memory write enable high for two cycles, reading
the live registers in both.  `Tracks` relates the memory of the module to the
memory in which every START has already stored the command it was given; it
survives every cycle in which the bus leaves the command registers alone while
the FSM is leaving IDLE.
-/

namespace ChuckLight.Ece453

open Dmx512 (Data)

/-- The cycle is a bus write to CONTROL with bit 0 set. -/
def Inputs.IsStart (i : Inputs) : Prop :=
  i.Writes controlAddr ∧
    i.slaveWritedata.getLsbD controlDmxStartBitNum = true

instance (i : Inputs) : Decidable i.IsStart :=
  inferInstanceAs (Decidable (_ ∧ _))

/-- The module after a schedule of bus cycles. -/
def run (s : Regs) (schedule : List Inputs) : Regs := schedule.foldl step s

@[simp] theorem run_nil (s : Regs) : run s [] = s := rfl

@[simp] theorem run_cons (s : Regs) (i : Inputs) (rest : List Inputs) :
    run s (i :: rest) = run (step s i) rest := rfl

theorem run_append (s : Regs) (xs ys : List Inputs) :
    run s (xs ++ ys) = run (run s xs) ys := List.foldl_append

/-- The commands given by the STARTs of a schedule, each with the registers as
they stood at its CONTROL write. -/
def commits : Regs → List Inputs → List Command
  | _, [] => []
  | s, i :: rest =>
      (if i.IsStart then [command s] else []) ++ commits (step s i) rest

/-- The memory after storing a list of commands in order. -/
def storeAll (commands : List Command) (m : Data) : Data :=
  commands.foldl (fun m c => c.store m) m

@[simp] theorem storeAll_nil (m : Data) : storeAll [] m = m := rfl

@[simp] theorem storeAll_cons (c : Command) (cs : List Command) (m : Data) :
    storeAll (c :: cs) m = storeAll cs (c.store m) := rfl

theorem storeAll_append (cs ds : List Command) (m : Data) :
    storeAll (cs ++ ds) m = storeAll ds (storeAll cs m) := List.foldl_append

/-- The write FSM is in IDLE and no START is waiting. -/
def Quiet (s : Regs) : Prop :=
  s.currState = .idle ∧ s.controlR.getLsbD controlDmxStartBitNum = false

instance (s : Regs) : Decidable (Quiet s) :=
  inferInstanceAs (Decidable (_ ∧ _))

/-- In every cycle in which the write FSM leaves IDLE, the bus keeps the
address, data and size registers. -/
def KeepsCommand : Regs → List Inputs → Prop
  | _, [] => True
  | s, i :: rest =>
      ((comb s).nextState = .transmit → command (step s i) = command s) ∧
        KeepsCommand (step s i) rest

instance keepsCommandDecidable :
    ∀ (s : Regs) (schedule : List Inputs), Decidable (KeepsCommand s schedule)
  | _, [] => inferInstanceAs (Decidable True)
  | s, i :: rest =>
      haveI := keepsCommandDecidable (step s i) rest
      inferInstanceAs (Decidable ((_ → _) ∧ _))

/-! ## One cycle -/

theorem step_dmxData (s : Regs) (i : Inputs) :
    (step s i).dmxMod.dmxData =
      if (comb s).dmxWrite then (command s).store s.dmxMod.dmxData
      else s.dmxMod.dmxData :=
  writeData_writePort s s.dmxMod.dmxData

/-- The start bit clears itself unless the bus sets it again. -/
theorem step_startBit (s : Regs) (i : Inputs) :
    (step s i).controlR.getLsbD controlDmxStartBitNum = true ↔ i.IsStart := by
  change (controlIn s i).getLsbD controlDmxStartBitNum = true ↔ _
  unfold controlIn Inputs.IsStart
  by_cases h : i.Writes controlAddr
  · rw [if_pos h]
    exact ⟨fun hbit => ⟨h, hbit⟩, fun hs => hs.2⟩
  · rw [if_neg h]
    constructor
    · intro hbit
      simp [controlDmxStartMask, controlDmxStartBitNum] at hbit
    · exact fun hs => absurd hs.1 h

/-- The FSM writes the memory in the cycle in which it leaves IDLE. -/
theorem dmxWrite_of_nextState {s : Regs}
    (h : (comb s).nextState = .transmit) : (comb s).dmxWrite = true := by
  unfold comb at h ⊢
  cases hstate : s.currState with
  | idle =>
      rw [hstate] at h
      dsimp only at h ⊢
      split_ifs at h ⊢
      rfl
  | transmit => rfl

/-- The command registers change only when the bus writes one of them. -/
theorem command_step {s : Regs} {i : Inputs}
    (haddr : ¬ i.Writes dmxAddrAddr) (hdata : ¬ i.Writes dmxDataAddr)
    (hsize : ¬ i.Writes dmxSizeAddr) : command (step s i) = command s := by
  simp only [command, step, busReg, if_neg haddr, if_neg hdata, if_neg hsize]

/-- A START writes none of the command registers. -/
theorem command_step_of_isStart {s : Regs} {i : Inputs} (h : i.IsStart) :
    command (step s i) = command s := by
  have haddr := h.1.1
  apply command_step <;> rintro ⟨ha, -⟩ <;> rw [haddr] at ha <;> cases ha

/-! ## The simulation relation -/

/-- `spec` is the memory in which every START so far has been executed.  A
waiting START is the only difference to the real memory, and in the second
write cycle the store is repeated without effect. -/
structure Tracks (s : Regs) (spec : Data) : Prop where
  waiting : s.controlR.getLsbD controlDmxStartBitNum = true →
    spec = (command s).store s.dmxMod.dmxData
  settled : s.controlR.getLsbD controlDmxStartBitNum = false →
    spec = s.dmxMod.dmxData
  repeated : s.currState = .transmit →
    (command s).store s.dmxMod.dmxData = s.dmxMod.dmxData

theorem tracks_of_quiet {s : Regs} (h : Quiet s) :
    Tracks s s.dmxMod.dmxData where
  waiting hbit := by rw [h.2] at hbit; cases hbit
  settled _ := rfl
  repeated htransmit := by rw [h.1] at htransmit; cases htransmit

theorem Tracks.eq_of_quiet {s : Regs} {spec : Data} (h : Tracks s spec)
    (hquiet : Quiet s) : s.dmxMod.dmxData = spec :=
  (h.settled hquiet.2).symm

/-- After one cycle the memory is the one in which a waiting START has been
executed. -/
theorem Tracks.dmxData_step {s : Regs} {spec : Data} (h : Tracks s spec)
    (i : Inputs) : (step s i).dmxMod.dmxData = spec := by
  rw [step_dmxData]
  cases hbit : s.controlR.getLsbD controlDmxStartBitNum with
  | false =>
      rw [h.settled hbit]
      cases hstate : s.currState with
      | idle => simp [comb, hstate, hbit]
      | transmit => simp [comb, hstate, h.repeated hstate]
  | true =>
      rw [h.waiting hbit]
      cases hstate : s.currState with
      | idle => simp [comb, hstate, hbit]
      | transmit => simp [comb, hstate]

theorem tracks_step {s : Regs} {spec : Data} (h : Tracks s spec) (i : Inputs)
    (hkeep : (comb s).nextState = .transmit →
      command (step s i) = command s) :
    Tracks (step s i)
      (if i.IsStart then (command s).store spec else spec) := by
  have hmem := h.dmxData_step i
  constructor
  · intro hbit
    have hstart := (step_startBit s i).mp hbit
    rw [if_pos hstart, command_step_of_isStart hstart, hmem]
  · intro hbit
    have hstart : ¬ i.IsStart := by
      intro hs
      rw [(step_startBit s i).mpr hs] at hbit
      cases hbit
    rw [if_neg hstart, hmem]
  · intro htransmit
    have hnext : (comb s).nextState = .transmit := htransmit
    rw [hkeep hnext, step_dmxData]
    rw [if_pos (dmxWrite_of_nextState hnext), Command.store_store]

theorem tracks_run {s : Regs} {spec : Data} (h : Tracks s spec)
    {schedule : List Inputs} (hkeep : KeepsCommand s schedule) :
    Tracks (run s schedule) (storeAll (commits s schedule) spec) := by
  induction schedule generalizing s spec with
  | nil => exact h
  | cons i rest ih =>
      have hstep := tracks_step h i hkeep.1
      have hrest := ih hstep hkeep.2
      rw [commits, storeAll_append, run_cons]
      by_cases hstart : i.IsStart
      · rw [if_pos hstart] at hrest ⊢
        exact hrest
      · rw [if_neg hstart] at hrest ⊢
        exact hrest

/-! ## What the STARTs of a schedule commit -/

/-- From reset, and for every schedule that keeps the command registers while
the write FSM leaves IDLE: once the FSM is back in IDLE, the memory is the one
obtained by storing, for each START, the command as it stood at that START. -/
theorem dmxData_eq_storeAll_commits (schedule : List Inputs)
    (hkeep : KeepsCommand reset schedule)
    (hquiet : Quiet (run reset schedule)) :
    (run reset schedule).dmxMod.dmxData =
      storeAll (commits reset schedule) reset.dmxMod.dmxData :=
  (tracks_run (tracks_of_quiet ⟨rfl, rfl⟩) hkeep).eq_of_quiet hquiet

/-- A bus write. -/
def busWrite (addr : BitVec 4) (value : BitVec 32) : Inputs where
  slaveAddress := addr
  slaveWrite := true
  slaveWritedata := value
  gpioInputs := 0

/-- A cycle without a bus write. -/
def busIdle : Inputs where
  slaveAddress := 0
  slaveWrite := false
  slaveWritedata := 0
  gpioInputs := 0

/-- The bus writes of one command with one idle cycle after each. -/
def commandSchedule (c : Command) : List Inputs :=
  [busWrite dmxDataAddr c.data, busIdle, busWrite dmxAddrAddr c.addr, busIdle,
    busWrite dmxSizeAddr c.size, busIdle, busWrite controlAddr 1, busIdle,
    busIdle]

theorem dmxData_eq_storeAll_commits_command :
    (run reset (commandSchedule ⟨512, 0x7f, 1⟩)).dmxMod.dmxData =
      storeAll (commits reset (commandSchedule ⟨512, 0x7f, 1⟩))
        reset.dmxMod.dmxData :=
  dmxData_eq_storeAll_commits _ (by decide) (by decide)

/-- The address register is rewritten in the cycle after the START: the second
write cycle of the FSM stores the old data at the new address. -/
def overwriteSchedule : List Inputs :=
  [busWrite dmxDataAddr 0x11, busWrite dmxAddrAddr 1, busWrite dmxSizeAddr 1,
    busWrite controlAddr 1, busWrite dmxAddrAddr 2, busIdle]

theorem overwriteSchedule_leaks :
    Quiet (run reset overwriteSchedule) ∧
      (run reset overwriteSchedule).dmxMod.dmxData ≠
        storeAll (commits reset overwriteSchedule) reset.dmxMod.dmxData := by
  refine ⟨by decide, fun h => ?_⟩
  have hbyte := congrFun h 2
  revert hbyte
  decide

/-! ## The effect of one command -/

/-- The bus writes none of the registers of a command. -/
def Inputs.KeepsRegisters (i : Inputs) : Prop :=
  ¬ i.Writes dmxAddrAddr ∧ ¬ i.Writes dmxDataAddr ∧
    ¬ i.Writes dmxSizeAddr ∧ ¬ i.Writes controlAddr

instance (i : Inputs) : Decidable i.KeepsRegisters :=
  inferInstanceAs (Decidable (_ ∧ _))

theorem Inputs.KeepsRegisters.command_step {i : Inputs}
    (h : i.KeepsRegisters) (s : Regs) : command (step s i) = command s :=
  Ece453.command_step h.1 h.2.1 h.2.2.1

theorem Inputs.KeepsRegisters.startBit {i : Inputs} (h : i.KeepsRegisters)
    (s : Regs) :
    (step s i).controlR.getLsbD controlDmxStartBitNum = false := by
  cases hbit : (step s i).controlR.getLsbD controlDmxStartBitNum with
  | false => rfl
  | true => exact absurd ((step_startBit s i).mp hbit).1 h.2.2.2

/-- A store that has been done is not undone. -/
theorem dmxData_step_of_stored {s : Regs} {m : Data}
    (h : s.dmxMod.dmxData = (command s).store m) (i : Inputs) :
    (step s i).dmxMod.dmxData = (command s).store m := by
  rw [step_dmxData, h, Command.store_store, ite_self]

theorem dmxData_run_of_stored {s : Regs} {m : Data}
    (h : s.dmxMod.dmxData = (command s).store m) {rest : List Inputs}
    (hkeep : ∀ j ∈ rest, j.KeepsRegisters) :
    (run s rest).dmxMod.dmxData = (command s).store m := by
  induction rest generalizing s with
  | nil => exact h
  | cons j rest ih =>
      have hj := (hkeep j (List.mem_cons_self ..)).command_step s
      have hstored := dmxData_step_of_stored h j
      rw [← hj] at hstored ⊢
      exact ih hstored fun k hk => hkeep k (List.mem_cons_of_mem _ hk)

/-- In the cycle after a START the FSM writes the memory. -/
theorem dmxWrite_of_startBit {s : Regs}
    (h : s.controlR.getLsbD controlDmxStartBitNum = true) :
    (comb s).dmxWrite = true := by
  unfold comb
  cases s.currState with
  | idle => simp [h]
  | transmit => rfl

/-- The memory of one cycle after a START. -/
theorem dmxData_after_start (s : Regs) {i : Inputs} (hi : i.IsStart)
    (j : Inputs) :
    (run s [i, j]).dmxMod.dmxData = (command s).store s.dmxMod.dmxData := by
  have hcommand := command_step_of_isStart hi (s := s)
  have hwrite := dmxWrite_of_startBit ((step_startBit s i).mpr hi)
  rw [run_cons, run_cons, run_nil, step_dmxData, if_pos hwrite, hcommand,
    step_dmxData]
  split_ifs
  · exact Command.store_store _ _
  · rfl

/-- The FSM is in IDLE from two cycles after a START on. -/
theorem quiet_of_keepsRegisters (s : Regs) {rest : List Inputs}
    (hkeep : ∀ j ∈ rest, j.KeepsRegisters) (hlen : 2 ≤ rest.length) :
    Quiet (run s rest) := by
  induction rest generalizing s with
  | nil => exact absurd hlen (by decide)
  | cons j rest ih =>
      have hj := (hkeep j (List.mem_cons_self ..)).startBit s
      have hrest : ∀ k ∈ rest, k.KeepsRegisters :=
        fun k hk => hkeep k (List.mem_cons_of_mem _ hk)
      cases rest with
      | nil => simp at hlen
      | cons k rest =>
          cases rest with
          | cons l rest => exact ih (step s j) hrest (by simp)
          | nil =>
              refine ⟨?_, (hrest k (List.mem_cons_self ..)).startBit _⟩
              change (comb (step s j)).nextState = .idle
              unfold comb
              cases (step s j).currState with
              | idle => simp [hj]
              | transmit => rfl

/-- The bytes of a command: byte `k` of the data, for every `k` below the size
that stays in the memory. -/
def Command.Puts (c : Command) (a k : ℕ) : Prop :=
  (1 ≤ c.addr.toNat ∧ c.addr.toNat ≤ 512) ∧
    (1 ≤ c.size.toNat ∧ c.size.toNat ≤ 4) ∧
      k < c.size.toNat ∧ a = c.addr.toNat + k

theorem Command.store_of_puts {c : Command} {m : Data} {a : Fin 513} {k : ℕ}
    (h : c.Puts a k) : c.store m a = byte c.data k := by
  obtain ⟨⟨hlo, hhi⟩, ⟨-, hsize⟩, hk, ha⟩ := h
  have hcovers : c.Covers a := ⟨hlo, hhi, hsize, by omega, by omega⟩
  have hoffset : (a : ℕ) - c.addr.toNat = k := by omega
  rw [store_of_covers hcovers, hoffset]

theorem Command.store_of_not_puts {c : Command} {m : Data} {a : Fin 513}
    (h : ¬ ∃ k, c.Puts a k) : c.store m a = m a := by
  apply store_of_not_covers
  rintro ⟨hlo, hhi, hsize, hfrom, hto⟩
  exact h ⟨a - c.addr.toNat, ⟨hlo, hhi⟩, ⟨by omega, hsize⟩, by omega,
    by omega⟩

/-- A START in any state, with the registers left alone afterwards.  The
memory has changed by exactly the bytes of the command from the second cycle
on, and the FSM is back in IDLE from the third on. -/
theorem dmxData_of_start (s : Regs) {i : Inputs} (hi : i.IsStart)
    {rest : List Inputs} (hne : rest ≠ [])
    (hkeep : ∀ j ∈ rest, j.KeepsRegisters) :
    (2 ≤ rest.length → Quiet (run s (i :: rest))) ∧
      ∀ a : Fin 513,
        (∀ k, (command s).Puts a k →
          (run s (i :: rest)).dmxMod.dmxData a = byte s.dmxDataR k) ∧
        ((¬ ∃ k, (command s).Puts a k) →
          (run s (i :: rest)).dmxMod.dmxData a = s.dmxMod.dmxData a) := by
  refine ⟨fun hlen => quiet_of_keepsRegisters (step s i) hkeep hlen, ?_⟩
  have hmem : (run s (i :: rest)).dmxMod.dmxData =
      (command s).store s.dmxMod.dmxData := by
    cases rest with
    | nil => exact absurd rfl hne
    | cons j rest =>
        have hj := (hkeep j (List.mem_cons_self ..)).command_step (step s i)
        have hcommand : command (run s [i, j]) = command s :=
          hj.trans (command_step_of_isStart hi)
        have hstored := dmxData_after_start s hi j
        rw [← hcommand] at hstored ⊢
        exact dmxData_run_of_stored hstored
          fun k hk => hkeep k (List.mem_cons_of_mem _ hk)
  intro a
  rw [hmem]
  exact ⟨fun k => Command.store_of_puts, Command.store_of_not_puts⟩

/-- Two bytes at the end of the memory, of which the second has no place. -/
theorem dmxData_of_start_last :
    let s := run reset [busWrite dmxAddrAddr 512, busWrite dmxDataAddr 0xabcd,
      busWrite dmxSizeAddr 2]
    (2 ≤ [busIdle, busIdle].length →
        Quiet (run s [busWrite controlAddr 1, busIdle, busIdle])) ∧
      ∀ a : Fin 513,
        (∀ k, (command s).Puts a k →
          (run s [busWrite controlAddr 1, busIdle, busIdle]).dmxMod.dmxData a =
            byte s.dmxDataR k) ∧
        ((¬ ∃ k, (command s).Puts a k) →
          (run s [busWrite controlAddr 1, busIdle, busIdle]).dmxMod.dmxData a =
            s.dmxMod.dmxData a) :=
  dmxData_of_start _ (by decide) (by decide) (by decide)

end ChuckLight.Ece453
