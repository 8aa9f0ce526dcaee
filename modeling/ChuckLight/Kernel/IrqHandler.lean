import ChuckLight.DmxModule.Interrupts
import ChuckLight.DmxModule.Outputs

/-!
# The interrupt handler of the kernel driver

`ece453_irq_handler` reads the interrupt register, writes back what it has
read, and sends that to a process as the value of a signal.  Bus cycles of
other programs, and events on the pins, can come between any two of these
steps.
-/

namespace ChuckLight.Kernel

open Ece453 (Regs Inputs EventAt IrqClash irqAddr imAddr)

/-- How far the handler is, with `active_irqs`. -/
inductive Handler where
  | idle
  | read (activeIrqs : BitVec 32)
  | acknowledged (activeIrqs : BitVec 32)
  deriving DecidableEq

/-- The handler is about to signal interrupt `b`. -/
def Handler.Holds (b : ℕ) : Handler → Prop
  | .idle => False
  | .read activeIrqs => activeIrqs.getLsbD b = true
  | .acknowledged activeIrqs => activeIrqs.getLsbD b = true

/-- The peripheral, the handler, and the values of the signals that have
reached the process. -/
structure IrqSystem where
  regs : Regs
  handler : Handler
  signals : List (BitVec 32)

/-- What can happen next: a bus cycle that is none of the handler's, or the
next step of the handler.  The process receives the signal if `pid` is the one
of a task and the signal can be sent. -/
inductive IrqEvent where
  | cycle (i : Inputs)
  | read (pins : BitVec 32)
  | acknowledge (pins : BitVec 32)
  | signal (delivered : Bool)

namespace IrqSystem

/-- A read of the interrupt register. -/
def readCycle (pins : BitVec 32) : Inputs := ⟨irqAddr, false, 0, pins⟩

/-- The bus cycle of an event. -/
def cycleOf (s : IrqSystem) : IrqEvent → Option Inputs
  | .cycle i => some i
  | .read pins => if s.handler = .idle then some (readCycle pins) else none
  | .acknowledge pins =>
      match s.handler with
      | .read activeIrqs => some ⟨irqAddr, true, activeIrqs, pins⟩
      | _ => none
  | .signal _ => none

/-- The handler after an event. -/
def handlerAfter (s : IrqSystem) : IrqEvent → Handler
  | .cycle _ => s.handler
  | .read _ =>
      if s.handler = .idle then
        .read (Ece453.slaveReaddata s.regs irqAddr true)
      else s.handler
  | .acknowledge _ =>
      match s.handler with
      | .read activeIrqs => .acknowledged activeIrqs
      | handler => handler
  | .signal _ =>
      match s.handler with
      | .acknowledged _ => .idle
      | handler => handler

/-- The signal of an event. -/
def signalOf (s : IrqSystem) : IrqEvent → List (BitVec 32)
  | .signal true =>
      match s.handler with
      | .acknowledged activeIrqs => [activeIrqs]
      | _ => []
  | _ => []

def step (s : IrqSystem) (e : IrqEvent) : IrqSystem where
  regs := match s.cycleOf e with
    | some i => Ece453.step s.regs i
    | none => s.regs
  handler := s.handlerAfter e
  signals := s.signals ++ s.signalOf e

/-- The event leaves interrupt `b` to the handler: other programs neither
acknowledge nor disable it, and the signals of the handler arrive. -/
def Leaves (b : ℕ) : IrqEvent → Prop
  | .cycle i => ¬ i.Writes irqAddr ∧
      (i.Writes imAddr → i.slaveWritedata.getLsbD b = true)
  | .signal delivered => delivered = true
  | _ => True

/-- Interrupt `b` is enabled, and pending or held by the handler. -/
structure Owed (b : ℕ) (s : IrqSystem) : Prop where
  enabled : s.regs.imR.getLsbD b = true
  pending : s.regs.irqR.getLsbD b = true ∨ s.handler.Holds b

variable {s : IrqSystem} {e : IrqEvent} {i : Inputs} {b : ℕ}

/-! ## Bus cycles -/

/-- A cycle that does not write the mask. -/
theorem imR_step (h : ¬ i.Writes imAddr) (regs : Regs) :
    (Ece453.step regs i).imR = regs.imR := if_neg h

theorem imR_step_of_leaves (h : Leaves b (.cycle i)) {regs : Regs}
    (henabled : regs.imR.getLsbD b = true) :
    (Ece453.step regs i).imR.getLsbD b = true := by
  by_cases hwrites : i.Writes imAddr
  · have hmask : (Ece453.step regs i).imR = i.slaveWritedata := if_pos hwrites
    rw [hmask]
    exact h.2 hwrites
  · rw [imR_step hwrites]
    exact henabled

theorem not_writes_readCycle (pins : BitVec 32) (addr : BitVec 4) :
    ¬ (readCycle pins).Writes addr := fun h => Bool.noConfusion h.2

/-- The cycle in which the handler acknowledges. -/
theorem not_writes_imAddr (data pins : BitVec 32) :
    ¬ Inputs.Writes ⟨irqAddr, true, data, pins⟩ imAddr := by
  rintro ⟨haddr, -⟩
  have hne : irqAddr ≠ imAddr := by decide
  exact hne haddr

theorem irqR_acknowledge {regs : Regs} {data : BitVec 32} (pins : BitVec 32)
    (henabled : regs.imR.getLsbD b = true)
    (hirq : regs.irqR.getLsbD b = true) (hdata : ¬ data.getLsbD b = true) :
    (Ece453.step regs ⟨irqAddr, true, data, pins⟩).irqR.getLsbD b = true := by
  rw [Ece453.irqR_step_of_writes ⟨rfl, rfl⟩ (Ece453.lt_of_enabled henabled),
    hirq, (Bool.not_eq_true _).mp hdata]
  rfl

/-! ## One event -/

/-- Until it is signalled, an interrupt stays owed. -/
theorem Owed.step (h : Owed b s) (hleaves : Leaves b e) :
    Owed b (step s e) ∨ ∃ active ∈ s.signalOf e, active.getLsbD b = true := by
  obtain ⟨regs, handler, signals⟩ := s
  obtain ⟨henabled, hpending⟩ := h
  cases e with
  | cycle i =>
      refine .inl ⟨imR_step_of_leaves hleaves henabled,
        hpending.imp_left fun hirq => ?_⟩
      exact (Ece453.irqR_step_of_not_writes hleaves.1).mpr
        ⟨.inr hirq, henabled⟩
  | read pins =>
      cases handler with
      | idle =>
          refine .inl ⟨?_, .inl ?_⟩
          · exact (imR_step (not_writes_readCycle pins _) regs).symm ▸ henabled
          · exact (Ece453.irqR_step_of_not_writes
              (not_writes_readCycle pins _)).mpr
                ⟨.inr (hpending.resolve_right id), henabled⟩
      | read activeIrqs => exact .inl ⟨henabled, hpending⟩
      | acknowledged activeIrqs => exact .inl ⟨henabled, hpending⟩
  | acknowledge pins =>
      cases handler with
      | idle => exact .inl ⟨henabled, hpending⟩
      | read activeIrqs =>
          refine .inl ⟨?_, ?_⟩
          · exact (imR_step (not_writes_imAddr activeIrqs pins) regs).symm ▸
              henabled
          · by_cases hactive : activeIrqs.getLsbD b = true
            · exact .inr hactive
            · exact .inl (irqR_acknowledge pins henabled
                (hpending.resolve_right hactive) hactive)
      | acknowledged activeIrqs => exact .inl ⟨henabled, hpending⟩
  | signal delivered =>
      cases handler with
      | idle => exact .inl ⟨henabled, hpending⟩
      | read activeIrqs => exact .inl ⟨henabled, hpending⟩
      | acknowledged activeIrqs =>
          by_cases hactive : activeIrqs.getLsbD b = true
          · refine .inr ⟨activeIrqs, ?_, hactive⟩
            have hdelivered : delivered = true := hleaves
            rw [hdelivered]
            exact List.mem_singleton_self _
          · exact .inl ⟨henabled, .inl (hpending.resolve_right hactive)⟩

/-- The enabled interrupt `b` occurs in the cycle of the event, and is not
among those that a write of the register drops. -/
structure Occurs (b : ℕ) (s : IrqSystem) (e : IrqEvent) (i : Inputs) :
    Prop where
  cycle : s.cycleOf e = some i
  event : EventAt s.regs i b
  enabled : s.regs.imR.getLsbD b = true
  noClash : ¬ IrqClash s.regs i

theorem Occurs.owed (h : Occurs b s e i) (hleaves : Leaves b e) :
    Owed b (step s e) := by
  obtain ⟨regs, handler, signals⟩ := s
  obtain ⟨hcycle, hevent, henabled, hclash⟩ := h
  cases e with
  | cycle j =>
      cases hcycle
      exact ⟨imR_step_of_leaves hleaves henabled,
        .inl ((Ece453.irqR_step_of_not_writes hleaves.1).mpr
          ⟨.inl hevent, henabled⟩)⟩
  | read pins =>
      cases handler with
      | idle =>
          cases hcycle
          refine ⟨?_, .inl ?_⟩
          · exact (imR_step (not_writes_readCycle pins _) regs).symm ▸ henabled
          · exact (Ece453.irqR_step_of_not_writes
              (not_writes_readCycle pins _)).mpr ⟨.inl hevent, henabled⟩
      | read activeIrqs => cases hcycle
      | acknowledged activeIrqs => cases hcycle
  | acknowledge pins =>
      cases handler with
      | idle => cases hcycle
      | read activeIrqs =>
          cases hcycle
          refine ⟨?_, ?_⟩
          · exact (imR_step (not_writes_imAddr activeIrqs pins) regs).symm ▸
              henabled
          · by_cases hactive : activeIrqs.getLsbD b = true
            · exact .inr hactive
            · refine .inl (irqR_acknowledge pins henabled ?_ hactive)
              by_contra hirq
              exact hclash ⟨⟨rfl, rfl⟩, b, henabled, hevent,
                (Bool.not_eq_true _).mp hirq,
                (Bool.not_eq_true _).mp hactive⟩
      | acknowledged activeIrqs => cases hcycle
  | signal delivered => cases hcycle

/-! ## Runs -/

/-- The process has received interrupt `b` in a signal after the first `n`. -/
def SignalledSince (n b : ℕ) (s : IrqSystem) : Prop :=
  ∃ active ∈ s.signals.drop n, active.getLsbD b = true

theorem SignalledSince.step {n : ℕ} (h : SignalledSince n b s)
    (e : IrqEvent) : SignalledSince n b (step s e) := by
  obtain ⟨active, hmem, hactive⟩ := h
  refine ⟨active, ?_, hactive⟩
  show active ∈ (s.signals ++ s.signalOf e).drop n
  rw [List.drop_append]
  exact List.mem_append_left _ hmem

theorem length_signals (s : IrqSystem) (e : IrqEvent) :
    s.signals.length ≤ (step s e).signals.length := by
  show _ ≤ (s.signals ++ s.signalOf e).length
  rw [List.length_append]
  exact Nat.le_add_right _ _

/-- An interrupt that occurs is signalled, or it is still owed. -/
theorem signalled_or_owed {n : ℕ} {events : List IrqEvent}
    (hn : n ≤ s.signals.length) (h : SignalledSince n b s ∨ Owed b s)
    (hleaves : ∀ e ∈ events, Leaves b e) :
    SignalledSince n b (events.foldl step s) ∨
      Owed b (events.foldl step s) := by
  induction events generalizing s with
  | nil => exact h
  | cons e es ih =>
      refine ih (Nat.le_trans hn (length_signals s e)) ?_
        fun e' he' => hleaves e' (List.mem_cons_of_mem _ he')
      rcases h with hsignalled | howed
      · exact .inl (hsignalled.step e)
      · rcases howed.step (hleaves e (List.mem_cons_self ..)) with
          hstill | ⟨active, hmem, hactive⟩
        · exact .inr hstill
        · refine .inl ⟨active, ?_, hactive⟩
          show active ∈ (s.signals ++ s.signalOf e).drop n
          rw [List.drop_append_of_le_length hn]
          exact List.mem_append_right _ hmem

/-- Whenever the interrupt line is low and no call of the handler is going on,
the process has received all enabled interrupts that have occurred, however
they fell between the steps of the handler.  The only ones that can be lost are
those that come in the cycle in which the handler acknowledges others. -/
theorem signalled_of_quiet {events : List IrqEvent}
    (hoccurs : Occurs b s e i)
    (hleaves : ∀ e' ∈ e :: events, Leaves b e')
    (hidle : ((e :: events).foldl step s).handler = .idle)
    (hline : Ece453.irqOut ((e :: events).foldl step s).regs = false) :
    SignalledSince s.signals.length b ((e :: events).foldl step s) := by
  have howed := hoccurs.owed (hleaves e (List.mem_cons_self ..))
  have hrun := signalled_or_owed (length_signals s e) (.inr howed)
    fun e' he' => hleaves e' (List.mem_cons_of_mem _ he')
  rcases hrun with hsignalled | ⟨henabled, hpending⟩
  · exact hsignalled
  · rw [List.foldl_cons] at hidle hline
    rw [hidle] at hpending
    have hirq := hpending.resolve_right id
    have hzero := of_decide_eq_false hline
    rw [not_not] at hzero
    have hbit := congrArg (BitVec.getLsbD · b) hzero
    have hnone : (0 : BitVec 32).getLsbD b = false := BitVec.getLsbD_zero
    rw [BitVec.getLsbD_and, henabled, hirq, hnone] at hbit
    cases hbit

/-- The pins in a cycle without a bus access. -/
def pinsCycle (pins : BitVec 32) : IrqEvent :=
  .cycle { Ece453.busIdle with gpioInputs := pins }

/-- Interrupts 0 and 1 are enabled, pin 0 has changed, and the handler has read
the register. -/
def interrupted : IrqSystem :=
  [.cycle (Ece453.busWrite imAddr 3), pinsCycle 1, .read 1].foldl step
    ⟨Ece453.reset, .idle, []⟩

/-- Pin 1 changes before the handler acknowledges. -/
theorem signalled_of_quiet_interrupted :
    SignalledSince 0 1 ([pinsCycle 3, .acknowledge 3, .signal true, .read 3,
      .acknowledge 3, .signal true].foldl step interrupted) := by
  have hoccurs : Occurs 1 interrupted (pinsCycle 3)
      { Ece453.busIdle with gpioInputs := 3 } :=
    ⟨rfl, .inl (by decide), by decide, fun h => Bool.noConfusion h.1.2⟩
  refine signalled_of_quiet hoccurs ?_ rfl rfl
  have hcycle : Leaves 1 (pinsCycle 3) :=
    ⟨fun h => Bool.noConfusion h.2, fun h => Bool.noConfusion h.2⟩
  exact List.forall_mem_cons.mpr ⟨hcycle, List.forall_mem_cons.mpr
    ⟨trivial, List.forall_mem_cons.mpr ⟨rfl, List.forall_mem_cons.mpr
      ⟨trivial, List.forall_mem_cons.mpr ⟨trivial,
        List.forall_mem_singleton.mpr rfl⟩⟩⟩⟩⟩

end IrqSystem

end ChuckLight.Kernel
