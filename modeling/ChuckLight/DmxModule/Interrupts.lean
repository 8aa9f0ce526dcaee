import ChuckLight.DmxModule.Commit
import ChuckLight.Support.Runs

/-!
# Interrupts

An enabled event sets its bit of the interrupt register, and the bit stays set
until it is acknowledged.  A cycle that writes the register takes only the old
bits over, so an event on another bit of that cycle is lost.
-/

namespace ChuckLight.Ece453

variable {s : Regs} {i : Inputs} {b : ℕ}

/-- Input pin `b` changes, or bit `b` stands for the end of a DMX write. -/
def EventAt (s : Regs) (i : Inputs) (b : ℕ) : Prop :=
  s.gpioInR.getLsbD b ≠ i.gpioInputs.getLsbD b ∨
    b = irqDmxDoneBitNum ∧
      s.statusR.getLsbD statusDmxBusyBitNum = true ∧ (comb s).dmxBusy = false

/-- The bus acknowledges interrupt `b`. -/
def Inputs.Acks (i : Inputs) (b : ℕ) : Prop :=
  i.Writes irqAddr ∧ i.slaveWritedata.getLsbD b = true

/-- No enabled interrupt is lost in the cycle, be it new or set already. -/
def IrqKept (s : Regs) (i : Inputs) : Prop :=
  ∀ b, s.imR.getLsbD b = true →
    EventAt s i b ∨ s.irqR.getLsbD b = true → ¬ i.Acks b →
      (step s i).irqR.getLsbD b = true

/-- The bus writes the interrupt register while an enabled event comes in on a
bit that is neither set nor acknowledged. -/
def IrqClash (s : Regs) (i : Inputs) : Prop :=
  i.Writes irqAddr ∧ ∃ b, s.imR.getLsbD b = true ∧ EventAt s i b ∧
    s.irqR.getLsbD b = false ∧ i.slaveWritedata.getLsbD b = false

/-! ## One cycle -/

theorem irqR_step_of_writes (h : i.Writes irqAddr) (hb : b < 32) :
    (step s i).irqR.getLsbD b =
      (s.irqR.getLsbD b && !i.slaveWritedata.getLsbD b) := by
  change (irqIn s i).getLsbD b = _
  unfold irqIn
  rw [if_pos h, BitVec.getLsbD_and, BitVec.getLsbD_not, decide_eq_true hb,
    Bool.true_and]

theorem getLsbD_irqDmxDoneMask (b : ℕ) :
    irqDmxDoneMask.getLsbD b = true ↔ b = irqDmxDoneBitNum := by
  change (1#32).getLsbD b = true ↔ b = 0
  rw [BitVec.getLsbD_one]
  simp

theorem getLsbD_pending :
    (s.irqR ||| (s.gpioInR ^^^ i.gpioInputs)).getLsbD b = true ↔
      s.gpioInR.getLsbD b ≠ i.gpioInputs.getLsbD b ∨
        s.irqR.getLsbD b = true := by
  rw [BitVec.getLsbD_or, BitVec.getLsbD_xor, Bool.or_eq_true, bne_iff_ne,
    or_comm]

theorem irqR_step_of_not_writes (h : ¬ i.Writes irqAddr) :
    (step s i).irqR.getLsbD b = true ↔
      (EventAt s i b ∨ s.irqR.getLsbD b = true) ∧ s.imR.getLsbD b = true := by
  change (irqIn s i).getLsbD b = true ↔ _
  unfold irqIn EventAt
  rw [if_neg h]
  dsimp only
  rw [BitVec.getLsbD_and, Bool.and_eq_true]
  apply and_congr_left'
  by_cases hdone : (s.statusR.getLsbD statusDmxBusyBitNum &&
      !(comb s).dmxBusy) = true
  · have hfall := Bool.and_eq_true_iff.mp hdone
    rw [Bool.not_eq_true'] at hfall
    rw [if_pos hdone, BitVec.getLsbD_or, Bool.or_eq_true, getLsbD_pending,
      getLsbD_irqDmxDoneMask]
    tauto
  · have hnot : ¬ (s.statusR.getLsbD statusDmxBusyBitNum = true ∧
        (comb s).dmxBusy = false) := by
      rintro ⟨hbusy, hfree⟩
      exact hdone (by rw [hbusy, hfree]; rfl)
    rw [if_neg hdone, getLsbD_pending]
    tauto

theorem lt_of_enabled (h : s.imR.getLsbD b = true) : b < 32 :=
  BitVec.lt_of_getLsbD h

theorem irqKept_iff : IrqKept s i ↔ ¬ IrqClash s i := by
  constructor
  · rintro hkept ⟨hwrites, b, henabled, hevent, hclear, hdata⟩
    have hack : ¬ i.Acks b := by
      rintro ⟨-, hset⟩
      rw [hdata] at hset
      cases hset
    have hset := hkept b henabled (.inl hevent) hack
    rw [irqR_step_of_writes hwrites (lt_of_enabled henabled), hclear] at hset
    cases hset
  · intro hclash b henabled hcause hack
    by_cases hwrites : i.Writes irqAddr
    · have hdata : i.slaveWritedata.getLsbD b = false := by
        cases hbit : i.slaveWritedata.getLsbD b with
        | false => rfl
        | true => exact absurd ⟨hwrites, hbit⟩ hack
      rw [irqR_step_of_writes hwrites (lt_of_enabled henabled), hdata]
      cases hset : s.irqR.getLsbD b with
      | true => rfl
      | false =>
          rcases hcause with hevent | hirq
          · exact absurd ⟨hwrites, b, henabled, hevent, hset, hdata⟩ hclash
          · rw [hset] at hirq
            cases hirq
    · exact (irqR_step_of_not_writes hwrites).mpr ⟨hcause, henabled⟩

/-! ## Runs -/

/-- No interrupt is lost in the run from reset if and only if none of its
cycles has a clash. -/
theorem irqKept_run_iff (schedule : List Inputs) :
    Runs.AllSteps step IrqKept reset schedule ↔
      Runs.AllSteps step (fun s i => ¬ IrqClash s i) reset schedule :=
  have hstep : ∀ s i, (fun _ : Regs => True) s → IrqKept s i →
      (fun _ : Regs => True) (step s i) := fun _ _ h _ => h
  Runs.allSteps_congr hstep (fun _ _ _ => irqKept_iff) trivial

/-- A write of the bus while the pins have the value `pins`. -/
def busWriteWith (pins : BitVec 32) (addr : BitVec 4) (value : BitVec 32) :
    Inputs :=
  { busWrite addr value with gpioInputs := pins }

/-- Pin 1 changes in the cycle that acknowledges the change of pin 0. -/
def clashSchedule : List Inputs :=
  [busWrite imAddr 3, { busIdle with gpioInputs := 1 },
    busWriteWith 3 irqAddr 1]

theorem not_irqKept_clashSchedule :
    ¬ Runs.AllSteps step IrqKept reset clashSchedule := by
  rintro ⟨-, -, hkept, -⟩
  have hack : ¬ (busWriteWith 3 irqAddr 1).Acks 1 := by
    rintro ⟨-, hset⟩
    revert hset
    decide
  have hset := hkept 1 (by decide) (.inl (.inl (by decide))) hack
  revert hset
  decide

end ChuckLight.Ece453
