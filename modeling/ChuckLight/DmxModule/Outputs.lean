import ChuckLight.DmxModule.Ece453

/-!
# The outputs of the peripheral

The read multiplexer of the slave port, the interrupt line and the output pins
of `ece453`.  The two top pins carry the DMX line and its complement.
-/

namespace ChuckLight.Ece453

def devIdAddr : BitVec 4 := 0b0000#4
def statusAddr : BitVec 4 := 0b0010#4
def gpioInAddr : BitVec 4 := 0b0101#4

/-- The read multiplexer. -/
def slaveReaddata (s : Regs) (slaveAddress : BitVec 4) (slaveRead : Bool) :
    BitVec 32 :=
  if slaveAddress = devIdAddr ∧ slaveRead then s.devIdR
  else if slaveAddress = controlAddr ∧ slaveRead then s.controlR
  else if slaveAddress = statusAddr ∧ slaveRead then s.statusR
  else if slaveAddress = imAddr ∧ slaveRead then s.imR
  else if slaveAddress = irqAddr ∧ slaveRead then s.irqR
  else if slaveAddress = gpioInAddr ∧ slaveRead then s.gpioInR
  else if slaveAddress = gpioOutAddr ∧ slaveRead then s.gpioOutR
  else if slaveAddress = dmxAddrAddr ∧ slaveRead then s.dmxAddrR
  else if slaveAddress = dmxDataAddr ∧ slaveRead then s.dmxDataR
  else if slaveAddress = dmxSizeAddr ∧ slaveRead then s.dmxSizeR
  else 0

/-- An enabled interrupt is pending. -/
def irqOut (s : Regs) : Bool := decide (s.imR &&& s.irqR ≠ 0)

/-- The output pins. -/
def gpioOutputs (s : Regs) : BitVec 32 :=
  BitVec.ofBool (Dmx512.dmxSignal s.dmxMod) ++
    BitVec.ofBool (!Dmx512.dmxSignal s.dmxMod) ++ s.gpioOutR.extractLsb' 0 30

/-! ## Pins -/

/-- The line of the transmitter. -/
theorem gpioOutputs_line (s : Regs) :
    (gpioOutputs s).getLsbD 31 = Dmx512.dmxSignal s.dmxMod := by
  unfold gpioOutputs
  rw [BitVec.getLsbD_append, BitVec.getLsbD_append]
  simp

/-- The second pin of the pair. -/
theorem gpioOutputs_complement (s : Regs) :
    (gpioOutputs s).getLsbD 30 = !(gpioOutputs s).getLsbD 31 := by
  rw [gpioOutputs_line]
  unfold gpioOutputs
  rw [BitVec.getLsbD_append, BitVec.getLsbD_append]
  simp

end ChuckLight.Ece453
