import ChuckLight.DmxModule.Commit
import ChuckLight.Kernel.Ece453Driver

/-!
# The peripheral as a device that takes register writes

`Device` is the peripheral as software sees it: the command registers and the
memory, changed by one register write at a time.  `Settled` relates it to the
registers of the module between two writes, provided the bus leaves at least
one idle cycle after each write.
-/

namespace ChuckLight.Ece453

open Dmx512 (Data)
open Kernel (IoWrite)

/-- The command registers and the memory. -/
structure Device where
  command : Command
  mem : Data

/-- The write is a START. -/
def StartWrite (w : IoWrite) : Prop :=
  w.offset = controlAddr ∧ w.value.getLsbD controlDmxStartBitNum = true

instance (w : IoWrite) : Decidable (StartWrite w) :=
  inferInstanceAs (Decidable (_ ∧ _))

/-- The command registers after a register write. -/
def Command.write (c : Command) (w : IoWrite) : Command where
  addr := if w.offset = dmxAddrAddr then w.value else c.addr
  data := if w.offset = dmxDataAddr then w.value else c.data
  size := if w.offset = dmxSizeAddr then w.value else c.size

/-- The device after a register write. -/
def Device.write (d : Device) (w : IoWrite) : Device where
  command := d.command.write w
  mem := if StartWrite w then d.command.store d.mem else d.mem

/-- The device after a sequence of register writes. -/
def Device.writeAll (d : Device) (ws : List IoWrite) : Device :=
  ws.foldl Device.write d

@[simp] theorem Device.writeAll_nil (d : Device) : d.writeAll [] = d := rfl

@[simp] theorem Device.writeAll_cons (d : Device) (w : IoWrite)
    (ws : List IoWrite) : d.writeAll (w :: ws) = (d.write w).writeAll ws := rfl

theorem Device.writeAll_append (d : Device) (xs ys : List IoWrite) :
    d.writeAll (xs ++ ys) = (d.writeAll xs).writeAll ys := List.foldl_append

/-! ## Register writes as bus cycles -/

/-- The bus cycle that performs a register write. -/
structure Inputs.Performs (i : Inputs) (w : IoWrite) : Prop where
  address : i.slaveAddress = w.offset
  write : i.slaveWrite = true
  writedata : i.slaveWritedata = w.value

/-- One or more bus cycles without a write. -/
def IdleCycles (cycles : List Inputs) : Prop :=
  cycles ≠ [] ∧ ∀ i ∈ cycles, i.slaveWrite = false

/-- The schedule performs the register writes in order, each by one bus cycle
that is followed by idle cycles. -/
inductive Realises : List IoWrite → List Inputs → Prop where
  | nil : Realises [] []
  | cons {w : IoWrite} {ws : List IoWrite} {i : Inputs}
      {idle rest : List Inputs} :
      i.Performs w → IdleCycles idle → Realises ws rest →
      Realises (w :: ws) (i :: (idle ++ rest))

/-- The schedule with one idle cycle after each write. -/
def busSchedule (ws : List IoWrite) : List Inputs :=
  ws.flatMap fun w => [busWrite w.offset w.value, busIdle]

theorem realises_busSchedule (ws : List IoWrite) :
    Realises ws (busSchedule ws) := by
  induction ws with
  | nil => exact .nil
  | cons w rest ih =>
      have hidle : IdleCycles [busIdle] := by
        refine ⟨List.cons_ne_nil _ _, fun i hi => ?_⟩
        rw [List.mem_singleton.mp hi]
        rfl
      exact .cons ⟨rfl, rfl, rfl⟩ hidle ih

theorem Inputs.Performs.writes_iff {i : Inputs} {w : IoWrite}
    (h : i.Performs w) (addr : BitVec 4) :
    i.Writes addr ↔ w.offset = addr := by
  unfold Inputs.Writes
  rw [h.address, h.write]
  exact and_iff_left rfl

theorem Inputs.Performs.isStart_iff {i : Inputs} {w : IoWrite}
    (h : i.Performs w) : i.IsStart ↔ StartWrite w := by
  unfold Inputs.IsStart StartWrite
  rw [h.writes_iff, h.writedata]

theorem Inputs.Performs.busReg {i : Inputs} {w : IoWrite}
    (h : i.Performs w) (addr : BitVec 4) (r : BitVec 32) :
    busReg addr r i = if w.offset = addr then w.value else r := by
  unfold Ece453.busReg
  rw [h.writedata]
  exact if_congr (h.writes_iff addr) rfl rfl

theorem Inputs.Performs.command_step {i : Inputs} {w : IoWrite}
    (h : i.Performs w) (s : Regs) :
    command (step s i) = (command s).write w := by
  simp only [command, step, Command.write, h.busReg]

theorem not_writes_of_idle {i : Inputs} (h : i.slaveWrite = false)
    (addr : BitVec 4) : ¬ i.Writes addr := by
  rintro ⟨-, hwrite⟩
  rw [h] at hwrite
  cases hwrite

theorem not_isStart_of_idle {i : Inputs} (h : i.slaveWrite = false) :
    ¬ i.IsStart :=
  fun hs => not_writes_of_idle h _ hs.1

theorem command_step_of_idle {i : Inputs} (h : i.slaveWrite = false)
    (s : Regs) : command (step s i) = command s :=
  command_step (not_writes_of_idle h _) (not_writes_of_idle h _)
    (not_writes_of_idle h _)

/-! ## The refinement -/

/-- The module agrees with the device and no START is waiting. -/
structure Settled (s : Regs) (d : Device) : Prop where
  startBit : s.controlR.getLsbD controlDmxStartBitNum = false
  command_eq : command s = d.command
  tracks : Tracks s d.mem

theorem Settled.mem_eq {s : Regs} {d : Device} (h : Settled s d) :
    s.dmxMod.dmxData = d.mem :=
  (h.tracks.settled h.startBit).symm

theorem settled_of_quiet {s : Regs} (h : Quiet s) :
    Settled s ⟨command s, s.dmxMod.dmxData⟩ :=
  ⟨h.2, rfl, tracks_of_quiet h⟩

theorem startBit_step_of_not_isStart {s : Regs} {i : Inputs}
    (h : ¬ i.IsStart) :
    (step s i).controlR.getLsbD controlDmxStartBitNum = false := by
  cases hbit : (step s i).controlR.getLsbD controlDmxStartBitNum with
  | false => rfl
  | true => exact absurd ((step_startBit s i).mp hbit) h

/-- The FSM leaves IDLE only for a waiting START. -/
theorem startBit_of_nextState {s : Regs}
    (h : (comb s).nextState = .transmit) :
    s.controlR.getLsbD controlDmxStartBitNum = true := by
  unfold comb at h
  cases hstate : s.currState with
  | idle =>
      rw [hstate] at h
      by_cases hbit : s.controlR.getLsbD controlDmxStartBitNum = true
      · exact hbit
      · dsimp only at h
        rw [if_neg hbit] at h
        cases h
  | transmit =>
      rw [hstate] at h
      cases h

/-- The memory and the registers after idle cycles. -/
theorem tracks_of_idle {s : Regs} {m : Data} (h : Tracks s m)
    {cycles : List Inputs} (hidle : ∀ i ∈ cycles, i.slaveWrite = false) :
    Tracks (run s cycles) m ∧ command (run s cycles) = command s := by
  induction cycles generalizing s with
  | nil => exact ⟨h, rfl⟩
  | cons i rest ih =>
      have hi := hidle i (List.mem_cons_self ..)
      have hkeep := command_step_of_idle hi s
      have hstep := tracks_step h i fun _ => hkeep
      rw [if_neg (not_isStart_of_idle hi)] at hstep
      obtain ⟨htracks, hcommand⟩ :=
        ih hstep fun j hj => hidle j (List.mem_cons_of_mem _ hj)
      exact ⟨htracks, hcommand.trans hkeep⟩

theorem startBit_of_idleCycles (s : Regs) {cycles : List Inputs}
    (h : IdleCycles cycles) :
    (run s cycles).controlR.getLsbD controlDmxStartBitNum = false := by
  obtain ⟨hne, hidle⟩ := h
  induction cycles generalizing s with
  | nil => exact absurd rfl hne
  | cons i rest ih =>
      have hi := hidle i (List.mem_cons_self ..)
      cases rest with
      | nil => exact startBit_step_of_not_isStart (not_isStart_of_idle hi)
      | cons j rest =>
          exact ih (step s i) (List.cons_ne_nil _ _)
            fun k hk => hidle k (List.mem_cons_of_mem _ hk)

/-- One register write followed by idle cycles. -/
theorem Settled.write {s : Regs} {d : Device} (h : Settled s d) {w : IoWrite}
    {i : Inputs} (hi : i.Performs w) {idle : List Inputs}
    (hidle : IdleCycles idle) :
    Settled (run s (i :: idle)) (d.write w) := by
  have hstep : Tracks (step s i) (d.write w).mem := by
    have hkeep : (comb s).nextState = .transmit →
        command (step s i) = command s := by
      intro hnext
      have hbit := startBit_of_nextState hnext
      rw [h.startBit] at hbit
      cases hbit
    have htracks := tracks_step h.tracks i hkeep
    rw [h.command_eq, if_congr hi.isStart_iff rfl rfl] at htracks
    exact htracks
  obtain ⟨htracks, hcommand⟩ := tracks_of_idle hstep hidle.2
  refine ⟨startBit_of_idleCycles (step s i) hidle, ?_, htracks⟩
  rw [run_cons, hcommand, hi.command_step, h.command_eq]
  rfl

/-- A schedule that performs register writes takes the module along with the
device. -/
theorem Settled.writeAll {s : Regs} {d : Device} (h : Settled s d)
    {ws : List IoWrite} {schedule : List Inputs}
    (hreal : Realises ws schedule) :
    Settled (run s schedule) (d.writeAll ws) := by
  induction hreal generalizing s d with
  | nil => exact h
  | cons hi hidle _ ih =>
      rw [← List.cons_append, run_append]
      exact ih (h.write hi hidle)

/-! ## Any state settles -/

/-- The FSM is back in IDLE two cycles after a cycle that was no START. -/
theorem quiet_of_idle {s : Regs} {i j : Inputs} (hi : ¬ i.IsStart)
    (hj : ¬ j.IsStart) : Quiet (run s [i, j]) := by
  have hbit := startBit_step_of_not_isStart (s := s) hi
  refine ⟨?_, startBit_step_of_not_isStart hj⟩
  cases hnext : (run s [i, j]).currState with
  | idle => rfl
  | transmit =>
      have hstart := startBit_of_nextState hnext
      rw [hbit] at hstart
      cases hstart

/-- Idle cycles keep the module settled. -/
theorem Settled.idle {s : Regs} {d : Device} (h : Settled s d)
    {cycles : List Inputs} (hidle : ∀ i ∈ cycles, i.slaveWrite = false) :
    Settled (run s cycles) d := by
  obtain ⟨htracks, hcommand⟩ := tracks_of_idle h.tracks hidle
  refine ⟨?_, hcommand.trans h.command_eq, htracks⟩
  rcases cycles with _ | ⟨i, rest⟩
  · exact h.startBit
  · exact startBit_of_idleCycles s ⟨List.cons_ne_nil _ _, hidle⟩

/-- Whatever the module was doing, it is settled after one write that is no
START.  Up to then the memory is the one at some point `pre` of the
schedule. -/
theorem settled_of_realises {s : Regs} {w : IoWrite} {ws : List IoWrite}
    {schedule : List Inputs} (hw : ¬ StartWrite w)
    (hreal : Realises (w :: ws) schedule) :
    ∃ pre, Settled (run s schedule)
      (Device.writeAll ⟨command s, (run s pre).dmxMod.dmxData⟩ (w :: ws)) := by
  cases hreal with
  | @cons _ _ i idle rest hi hidle hrest =>
      obtain ⟨hne, hwrite⟩ := hidle
      rcases idle with _ | ⟨j, idle⟩
      · exact absurd rfl hne
      · have hj := hwrite j (List.mem_cons_self ..)
        have hquiet : Quiet (run s [i, j]) :=
          quiet_of_idle (fun hs => hw (hi.isStart_iff.mp hs))
            (not_isStart_of_idle hj)
        have hcommand : command (run s [i, j]) = (command s).write w :=
          (command_step_of_idle hj _).trans (hi.command_step s)
        have hsettled := settled_of_quiet hquiet
        rw [hcommand] at hsettled
        have hidle := hsettled.idle fun k hk =>
          hwrite k (List.mem_cons_of_mem _ hk)
        have hrun := hidle.writeAll hrest
        rw [← run_append, ← run_append] at hrun
        refine ⟨[i, j], ?_⟩
        rw [Device.writeAll_cons, Device.write, if_neg hw]
        exact hrun

end ChuckLight.Ece453
