import ChuckLight.Support.Clocked
import Mathlib.Data.Fin.Basic
import Mathlib.Logic.Function.Basic
import Mathlib.Tactic.SplitIfs

/-!
# The DMX512 transmitter

The clocked module `dmx512` of `dmx512.sv`.  One state record holds every
register of the module, `comb` is its combinational block, and `step` is what
one rising edge of the clock does when reset is low.  The asynchronous reset
loads `reset`.
-/

namespace ChuckLight.Dmx512

/-- States for DMX512 timing. -/
inductive StateT where
  | idle
  | «break»
  | mab
  | transmit
  deriving DecidableEq, Repr

/-- 50us at 50MHz. -/
def idleTime : BitVec 13 := 2500#13
/-- 100us at 50MHz. -/
def breakTime : BitVec 13 := 5000#13
/-- 12us at 50MHz. -/
def mabTime : BitVec 13 := 600#13
/-- 4us at 50MHz. -/
def bitTime : BitVec 13 := 200#13

/-- The array `DMX_data [0:512]`: the start code and the 512 slots. -/
abbrev Data := Fin 513 → BitVec 8

/-- The registers of the module. -/
structure Regs where
  currState : StateT
  dmxData : Data
  frameAddr : BitVec 10
  shiftReg : BitVec 11
  bitCount : BitVec 4
  timer : BitVec 13

/-- The write port. -/
structure Inputs where
  writeAddr : BitVec 10
  writeData0 : BitVec 8
  writeData1 : BitVec 8
  writeData2 : BitVec 8
  writeData3 : BitVec 8
  writeSize : BitVec 3
  writeEn : Bool
  deriving DecidableEq

/-- The registers while reset is high. -/
def reset : Regs where
  currState := .idle
  dmxData := fun _ => 0
  frameAddr := 0
  shiftReg := 0
  bitCount := 0
  timer := 0

/-! ## The write port -/

/-- Offset address of the byte `offset`, zero when it is not written: the size
must reach the byte and the offset address must not pass 512. -/
def offsetAddr (minSize : BitVec 3) (maxAddr offset : BitVec 10)
    (i : Inputs) : BitVec 10 :=
  if minSize ≤ i.writeSize ∧ i.writeAddr ≤ maxAddr then i.writeAddr + offset
  else 0

def addr0 : Inputs → BitVec 10 := offsetAddr 1 0x200 0
def addr1 : Inputs → BitVec 10 := offsetAddr 2 0x1ff 1
def addr2 : Inputs → BitVec 10 := offsetAddr 3 0x1fe 2
def addr3 : Inputs → BitVec 10 := offsetAddr 4 0x1fd 3

theorem offsetAddr_toNat {minSize : BitVec 3} {maxAddr offset : BitVec 10}
    (hmax : maxAddr.toNat + offset.toNat = 512) (i : Inputs) :
    (offsetAddr minSize maxAddr offset i).toNat =
      if minSize.toNat ≤ i.writeSize.toNat ∧
          i.writeAddr.toNat + offset.toNat ≤ 512 then
        i.writeAddr.toNat + offset.toNat
      else 0 := by
  unfold offsetAddr
  have hiff : i.writeAddr ≤ maxAddr ↔
      i.writeAddr.toNat + offset.toNat ≤ 512 := by
    rw [BitVec.le_def]
    omega
  simp only [BitVec.le_def (x := minSize), hiff]
  split_ifs with h
  · rw [BitVec.toNat_add, Nat.mod_eq_of_lt (by omega)]
  · rfl

/-- One guarded assignment to `DMX_data`.  The start code at index zero is
read only, and an assignment past the end of the array is dropped. -/
def assign (m : Data) (addr : BitVec 10) (data : BitVec 8) : Data :=
  if h : addr.toNat < 513 then
    if addr ≠ 0 then Function.update m ⟨addr.toNat, h⟩ data else m
  else m

/-- The next contents of `DMX_data`. -/
def writeData (m : Data) (i : Inputs) : Data :=
  if i.writeEn then
    assign (assign (assign (assign m (addr0 i) i.writeData0)
      (addr1 i) i.writeData1) (addr2 i) i.writeData2) (addr3 i) i.writeData3
  else m

/-! ## The serialiser -/

/-- `DMX_data[addr]`.  A read past the end of the array has no defined value;
`frameAddr_le_of_shiftLoad` shows that none is ever loaded. -/
def readData (m : Data) (addr : BitVec 10) : BitVec 8 :=
  if h : addr.toNat < 513 then m ⟨addr.toNat, h⟩ else 0

/-- Start bit (zero), data and two stop bits (ones): `{2'b11, data, 1'b0}`. -/
def frame (data : BitVec 8) : BitVec 11 :=
  3#2 ++ data ++ 0#1

/-- Outputs of the combinational block. -/
structure Comb where
  dmxSignal : Bool := true
  nextState : StateT := .idle
  firstFrame : Bool := false
  nextFrame : Bool := false
  shiftLoad : Bool := false
  shiftBit : Bool := false
  timerRst : Bool := false

/-- The `always_comb` block: the defaults of `Comb`, overridden by state. -/
def comb (s : Regs) : Comb :=
  match s.currState with
  | .idle =>
      if s.timer = idleTime then { nextState := .break, timerRst := true }
      else {}
  | .break =>
      if s.timer = breakTime then
        { dmxSignal := false, nextState := .mab, firstFrame := true,
          timerRst := true }
      else { dmxSignal := false, nextState := .break }
  | .mab =>
      if s.timer = mabTime then
        { nextState := .transmit, nextFrame := true, shiftLoad := true,
          timerRst := true }
      else { nextState := .mab }
  | .transmit =>
      if s.timer = bitTime then
        if s.bitCount ≠ 10 then
          { dmxSignal := s.shiftReg.getLsbD 0, nextState := .transmit,
            shiftBit := true, timerRst := true }
        else if s.frameAddr ≠ 513 then
          { dmxSignal := s.shiftReg.getLsbD 0, nextState := .transmit,
            nextFrame := true, shiftLoad := true, timerRst := true }
        else
          { dmxSignal := s.shiftReg.getLsbD 0, nextState := .idle,
            timerRst := true }
      else
        { dmxSignal := s.shiftReg.getLsbD 0, nextState := .transmit }

/-- The output pin. -/
def dmxSignal (s : Regs) : Bool := (comb s).dmxSignal

/-- One rising edge of the clock. -/
def step (s : Regs) (i : Inputs) : Regs :=
  let c := comb s
  { currState := c.nextState
    dmxData := writeData s.dmxData i
    frameAddr :=
      if c.firstFrame then 0
      else if c.nextFrame then s.frameAddr + 1
      else s.frameAddr
    shiftReg :=
      if c.shiftLoad then frame (readData s.dmxData s.frameAddr)
      else if c.shiftBit then s.shiftReg >>> 1
      else s.shiftReg
    bitCount :=
      if c.shiftLoad then 0
      else if c.shiftBit then s.bitCount + 1
      else s.bitCount
    timer := if c.timerRst then 0 else s.timer + 1 }

@[simp] theorem step_dmxData (s : Regs) (i : Inputs) :
    (step s i).dmxData = writeData s.dmxData i := rfl

/-! ## The start code is read only -/

@[simp] theorem assign_zero (m : Data) (addr : BitVec 10) (data : BitVec 8) :
    assign m addr data 0 = m 0 := by
  unfold assign
  split
  · split
    next hne =>
      apply Function.update_of_ne
      intro h
      apply hne
      have hval : 0 = addr.toNat := congrArg Fin.val h
      exact BitVec.eq_of_toNat_eq hval.symm
    · rfl
  · rfl

@[simp] theorem writeData_zero (m : Data) (i : Inputs) :
    writeData m i 0 = m 0 := by
  unfold writeData
  split
  · simp
  · rfl

end ChuckLight.Dmx512
