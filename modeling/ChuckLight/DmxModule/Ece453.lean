import ChuckLight.DmxModule.Dmx512
import Mathlib.Tactic.SplitIfs

/-!
# The memory-mapped DMX peripheral

The clocked module `ece453` of `ece453.sv`: a register file behind an
Avalon slave port, a two-state write FSM, and the transmitter `dmx512`.  The
byte enables of the port are read by no equation of the module and are left
out.  The read multiplexer and the output pins are in `DmxModule/Outputs.lean`.

`Command.store` is the abstract meaning of a DMX command, stated on the full
register values; `writeData_writePort` shows that the write port computes it.
-/

namespace ChuckLight.Ece453

open Dmx512 (Data)

/-! ## Register addresses and bits -/

def controlAddr : BitVec 4 := 0b0001#4
def imAddr : BitVec 4 := 0b0011#4
def irqAddr : BitVec 4 := 0b0100#4
def gpioOutAddr : BitVec 4 := 0b0110#4
def dmxAddrAddr : BitVec 4 := 0b1000#4
def dmxDataAddr : BitVec 4 := 0b1001#4
def dmxSizeAddr : BitVec 4 := 0b1010#4

def statusDmxBusyBitNum : ℕ := 0
def statusDmxBusyMask : BitVec 32 := 1#32 <<< statusDmxBusyBitNum
def irqDmxDoneBitNum : ℕ := 0
def irqDmxDoneMask : BitVec 32 := 1#32 <<< irqDmxDoneBitNum
def controlDmxStartBitNum : ℕ := 0
def controlDmxStartMask : BitVec 32 := 1#32 <<< controlDmxStartBitNum

/-! ## State and inputs -/

/-- States of the write FSM. -/
inductive StateT where
  | idle
  | transmit
  deriving DecidableEq, Repr

/-- One bus cycle, and the input pins during it. -/
structure Inputs where
  slaveAddress : BitVec 4
  slaveWrite : Bool
  slaveWritedata : BitVec 32
  gpioInputs : BitVec 32
  deriving DecidableEq

/-- The registers of the module. -/
structure Regs where
  devIdR : BitVec 32
  controlR : BitVec 32
  statusR : BitVec 32
  imR : BitVec 32
  irqR : BitVec 32
  gpioInR : BitVec 32
  gpioOutR : BitVec 32
  dmxAddrR : BitVec 32
  dmxDataR : BitVec 32
  dmxSizeR : BitVec 32
  currState : StateT
  dmxMod : Dmx512.Regs

/-- The registers while reset is high. -/
def reset : Regs where
  devIdR := 0xECE45300#32
  controlR := 0
  statusR := 0
  imR := 0
  irqR := 0
  gpioInR := 0
  gpioOutR := 0
  dmxAddrR := 0
  dmxDataR := 0
  dmxSizeR := 0
  currState := .idle
  dmxMod := Dmx512.reset

/-! ## The write FSM -/

/-- Outputs of the combinational block of the write FSM. -/
structure Comb where
  dmxBusy : Bool := false
  dmxWrite : Bool := false
  nextState : StateT := .idle

def comb (s : Regs) : Comb :=
  match s.currState with
  | .idle =>
      if s.controlR.getLsbD controlDmxStartBitNum then
        { dmxBusy := true, dmxWrite := true, nextState := .transmit }
      else {}
  | .transmit => { dmxBusy := true, dmxWrite := true }

/-- The connections of the write port of `dmx512`. -/
def writePort (s : Regs) : Dmx512.Inputs where
  writeAddr := s.dmxAddrR.extractLsb' 0 10
  writeData0 := s.dmxDataR.extractLsb' 0 8
  writeData1 := s.dmxDataR.extractLsb' 8 8
  writeData2 := s.dmxDataR.extractLsb' 16 8
  writeData3 := s.dmxDataR.extractLsb' 24 8
  writeSize := if s.dmxSizeR > 4#32 then 0 else s.dmxSizeR.extractLsb' 0 3
  writeEn := decide (s.dmxAddrR ≤ 512#32) && decide (s.dmxAddrR > 0#32) &&
    (comb s).dmxWrite

/-! ## The registers -/

/-- The bus writes `value` to the register at `addr` in this cycle. -/
def Inputs.Writes (i : Inputs) (addr : BitVec 4) : Prop :=
  i.slaveAddress = addr ∧ i.slaveWrite = true

instance (i : Inputs) (addr : BitVec 4) : Decidable (i.Writes addr) :=
  inferInstanceAs (Decidable (_ ∧ _))

def controlIn (s : Regs) (i : Inputs) : BitVec 32 :=
  if i.Writes controlAddr then i.slaveWritedata
  else s.controlR &&& ~~~controlDmxStartMask

def statusIn (s : Regs) : BitVec 32 :=
  (s.statusR &&& ~~~statusDmxBusyMask) |||
    ((BitVec.ofBool (comb s).dmxBusy).setWidth 32 <<< statusDmxBusyBitNum)

/-- The interrupt register: last assignment wins. -/
def irqIn (s : Regs) (i : Inputs) : BitVec 32 :=
  if i.Writes irqAddr then s.irqR &&& ~~~i.slaveWritedata
  else
    let gpioInIrqs := s.gpioInR ^^^ i.gpioInputs
    let pending := s.irqR ||| gpioInIrqs
    let done :=
      if s.statusR.getLsbD statusDmxBusyBitNum && !(comb s).dmxBusy then
        pending ||| irqDmxDoneMask
      else pending
    done &&& s.imR

/-- A register that the bus writes and that otherwise keeps its value. -/
def busReg (addr : BitVec 4) (r : BitVec 32) (i : Inputs) : BitVec 32 :=
  if i.Writes addr then i.slaveWritedata else r

/-- One rising edge of the clock. -/
def step (s : Regs) (i : Inputs) : Regs where
  devIdR := s.devIdR
  controlR := controlIn s i
  statusR := statusIn s
  imR := busReg imAddr s.imR i
  irqR := irqIn s i
  gpioInR := i.gpioInputs
  gpioOutR := busReg gpioOutAddr s.gpioOutR i
  dmxAddrR := busReg dmxAddrAddr s.dmxAddrR i
  dmxDataR := busReg dmxDataAddr s.dmxDataR i
  dmxSizeR := busReg dmxSizeAddr s.dmxSizeR i
  currState := (comb s).nextState
  dmxMod := Dmx512.step s.dmxMod (writePort s)

/-! ## The meaning of a command -/

/-- The three registers that describe a DMX command. -/
structure Command where
  addr : BitVec 32
  data : BitVec 32
  size : BitVec 32
  deriving DecidableEq

/-- Byte `k` of a data register. -/
def byte (data : BitVec 32) (k : ℕ) : BitVec 8 := data.extractLsb' (8 * k) 8

/-- The command covers address `a`: one of its low `size` bytes belongs
there. -/
def Command.Covers (c : Command) (a : ℕ) : Prop :=
  1 ≤ c.addr.toNat ∧ c.addr.toNat ≤ 512 ∧ c.size.toNat ≤ 4 ∧
    c.addr.toNat ≤ a ∧ a < c.addr.toNat + c.size.toNat

instance (c : Command) (a : ℕ) : Decidable (c.Covers a) :=
  inferInstanceAs (Decidable (_ ∧ _ ∧ _ ∧ _ ∧ _))

/-- One store of the low `size` bytes of `data` at `addr`.  An address outside
1 to 512 or a size above 4 stores nothing, and bytes past the end of the
memory are dropped. -/
def Command.store (c : Command) (m : Data) : Data := fun a =>
  if c.Covers a then byte c.data (a - c.addr.toNat) else m a

theorem Command.store_of_covers {c : Command} {m : Data} {a : Fin 513}
    (h : c.Covers a) : c.store m a = byte c.data (a - c.addr.toNat) :=
  if_pos h

theorem Command.store_of_not_covers {c : Command} {m : Data} {a : Fin 513}
    (h : ¬ c.Covers a) : c.store m a = m a :=
  if_neg h

/-- Storing twice is storing once. -/
@[simp] theorem Command.store_store (c : Command) (m : Data) :
    c.store (c.store m) = c.store m := by
  funext a
  by_cases h : c.Covers a
  · rw [store_of_covers h, store_of_covers h]
  · rw [store_of_not_covers h]

/-- The command that the registers currently describe. -/
def command (s : Regs) : Command := ⟨s.dmxAddrR, s.dmxDataR, s.dmxSizeR⟩

/-! ## The write port computes the store -/

theorem assign_apply (m : Data) (addr : BitVec 10) (data : BitVec 8)
    (a : Fin 513) :
    Dmx512.assign m addr data a =
      if addr.toNat = a ∧ addr.toNat ≠ 0 then data else m a := by
  unfold Dmx512.assign
  have hzero : addr ≠ 0 ↔ addr.toNat ≠ 0 :=
    not_congr ⟨fun h => by rw [h]; rfl, fun h => BitVec.eq_of_toNat_eq h⟩
  by_cases hlt : addr.toNat < 513
  · by_cases hne : addr = 0
    · have : addr.toNat = 0 := by rw [hne]; rfl
      simp [hne]
    · have hne' := hzero.mp hne
      rw [dif_pos hlt, if_pos hne]
      by_cases ha : addr.toNat = a
      · have hfin : a = ⟨addr.toNat, hlt⟩ := Fin.ext ha.symm
        rw [if_pos ⟨ha, hne'⟩, hfin, Function.update_self]
      · rw [if_neg fun h => ha h.1, Function.update_of_ne]
        exact fun h => ha (congrArg Fin.val h).symm
  · have ha : addr.toNat ≠ a := by omega
    rw [dif_neg hlt, if_neg fun h => ha h.1]

/-- The assignment of one byte: it lands at `writeAddr + offset` when the size
reaches it, and never on the start code. -/
theorem assign_offsetAddr {minSize : BitVec 3} {maxAddr offset : BitVec 10}
    (hmax : maxAddr.toNat + offset.toNat = 512) (m : Data)
    (i : Dmx512.Inputs) (data : BitVec 8) (a : Fin 513) :
    Dmx512.assign m (Dmx512.offsetAddr minSize maxAddr offset i) data a =
      if minSize.toNat ≤ i.writeSize.toNat ∧
          i.writeAddr.toNat + offset.toNat = a ∧ (a : ℕ) ≠ 0 then data
      else m a := by
  have ha := a.isLt
  rw [assign_apply, Dmx512.offsetAddr_toNat hmax]
  apply if_congr _ rfl rfl
  split_ifs with h <;> omega

theorem writePort_writeEn (s : Regs) :
    (writePort s).writeEn = true ↔
      (1 ≤ s.dmxAddrR.toNat ∧ s.dmxAddrR.toNat ≤ 512) ∧
        (comb s).dmxWrite = true := by
  simp only [writePort, Bool.and_eq_true, decide_eq_true_eq, BitVec.le_def,
    gt_iff_lt, BitVec.lt_def, BitVec.reduceToNat]
  rw [and_comm (a := s.dmxAddrR.toNat ≤ 512)]
  rfl

theorem writePort_writeAddr {s : Regs} (h : s.dmxAddrR.toNat ≤ 512) :
    (writePort s).writeAddr.toNat = s.dmxAddrR.toNat := by
  simp only [writePort, BitVec.extractLsb'_toNat, Nat.shiftRight_zero]
  omega

theorem writePort_writeSize (s : Regs) :
    (writePort s).writeSize.toNat =
      if s.dmxSizeR.toNat ≤ 4 then s.dmxSizeR.toNat else 0 := by
  simp only [writePort, gt_iff_lt, BitVec.lt_def, BitVec.reduceToNat]
  split_ifs with h₁ h₂ h₂
  · omega
  · rfl
  · simp only [BitVec.extractLsb'_toNat, Nat.shiftRight_zero]
    omega
  · omega

/-- The connections of the write port turn the full register values into a
store of the command they describe. -/
theorem writeData_writePort (s : Regs) (m : Data) :
    Dmx512.writeData m (writePort s) =
      if (comb s).dmxWrite then (command s).store m else m := by
  unfold Dmx512.writeData
  by_cases hwrite : (comb s).dmxWrite = true
  · rw [if_pos hwrite]
    by_cases hrange : 1 ≤ s.dmxAddrR.toNat ∧ s.dmxAddrR.toNat ≤ 512
    · have haddr := writePort_writeAddr hrange.2
      have hsize := writePort_writeSize s
      rw [if_pos ((writePort_writeEn s).mpr ⟨hrange, hwrite⟩)]
      funext a
      simp only [Dmx512.addr0, Dmx512.addr1, Dmx512.addr2, Dmx512.addr3,
        @assign_offsetAddr _ 0x200 0 rfl, @assign_offsetAddr _ 0x1ff 1 rfl,
        @assign_offsetAddr _ 0x1fe 2 rfl, @assign_offsetAddr _ 0x1fd 3 rfl,
        BitVec.reduceToNat, haddr]
      by_cases hcovers : (command s).Covers a
      · rw [Command.store_of_covers hcovers]
        obtain ⟨hlo, hhi, hle, hfrom, hto⟩ := hcovers
        obtain ⟨k, hk⟩ := Nat.exists_eq_add_of_le hfrom
        simp only [command] at hk hlo hhi hle hfrom hto ⊢
        rw [if_pos hle] at hsize
        have hcases : k = 0 ∨ k = 1 ∨ k = 2 ∨ k = 3 := by omega
        rw [hk, Nat.add_sub_cancel_left]
        rcases hcases with rfl | rfl | rfl | rfl
        · rw [if_neg (by omega), if_neg (by omega), if_neg (by omega),
            if_pos (by omega)]
          rfl
        · rw [if_neg (by omega), if_neg (by omega), if_pos (by omega)]
          rfl
        · rw [if_neg (by omega), if_pos (by omega)]
          rfl
        · rw [if_pos (by omega)]
          rfl
      · rw [Command.store_of_not_covers hcovers]
        simp only [Command.Covers, command] at hcovers
        split_ifs at hsize
        · rw [if_neg (by omega), if_neg (by omega), if_neg (by omega),
            if_neg (by omega)]
        · rw [if_neg (by omega), if_neg (by omega), if_neg (by omega),
            if_neg (by omega)]
    · have hen : ¬ (writePort s).writeEn = true := fun h =>
        hrange ((writePort_writeEn s).mp h).1
      rw [if_neg hen]
      funext a
      rw [Command.store_of_not_covers fun h => hrange ⟨h.1, h.2.1⟩]
  · have hen : ¬ (writePort s).writeEn = true := fun h =>
      hwrite ((writePort_writeEn s).mp h).2
    rw [if_neg hen, if_neg hwrite]

end ChuckLight.Ece453
