import ChuckLight.Dmx.EndToEnd
import ChuckLight.DmxModule.Outputs
import ChuckLight.DmxModule.Reception

/-!
# From the driver to the fixtures

A program makes its calls, the bus performs the register writes, and then the
bus is idle.  Two packets later every fixture on the line holds the shadow of
the driver, whenever it was switched on.
-/

namespace ChuckLight.Ece453

open Dmx512 (packetCycles loadedByte loadCycle)
open Serial (Receiver Timing)

/-- The peripheral at the start of cycle `t`. -/
def runAt (bus : ℕ → Inputs) (t : ℕ) : Regs :=
  Clocked.run step reset bus t

/-- The DMX line, as the output pin shows it. -/
def line (bus : ℕ → Inputs) (t : ℕ) : Bool :=
  (gpioOutputs (runAt bus t)).getLsbD 31

variable {bus : ℕ → Inputs}

theorem runAt_eq_run (bus : ℕ → Inputs) (t : ℕ) :
    runAt bus t = run reset ((List.range t).map bus) := by
  induction t with
  | zero => rfl
  | succ t ih =>
      rw [List.range_succ, List.map_append, run_append, ← ih]
      rfl

/-- The transmitter sees the write port. -/
theorem dmxMod_runAt (bus : ℕ → Inputs) (t : ℕ) :
    (runAt bus t).dmxMod =
      Dmx512.runAt (fun t => writePort (runAt bus t)) t := by
  induction t with
  | zero => rfl
  | succ t ih =>
      show Dmx512.step (runAt bus t).dmxMod _ = Dmx512.step _ _
      rw [ih]
      rfl

theorem line_eq (bus : ℕ → Inputs) :
    line bus = Dmx512.line fun t => writePort (runAt bus t) := by
  funext t
  unfold line Dmx512.line
  rw [gpioOutputs_line, dmxMod_runAt]

/-- Idle cycles at the end of a schedule perform no write. -/
theorem Realises.idle {ws : List Kernel.IoWrite} {schedule idle : List Inputs}
    (h : Realises ws schedule) (hne : ws ≠ [])
    (hidle : ∀ i ∈ idle, i.slaveWrite = false) :
    Realises ws (schedule ++ idle) := by
  induction h with
  | nil => exact absurd rfl hne
  | @cons w ws i cycles rest hperforms hcycles hrest ih =>
      rw [List.cons_append, List.append_assoc]
      cases ws with
      | nil =>
          cases hrest
          rw [List.nil_append, ← List.append_nil (cycles ++ idle)]
          refine .cons hperforms ⟨?_, fun j hj => ?_⟩ .nil
          · exact List.append_ne_nil_of_left_ne_nil hcycles.1 idle
          · rcases List.mem_append.mp hj with hold | hnew
            · exact hcycles.2 j hold
            · exact hidle j hnew
      | cons w' ws => exact .cons hperforms hcycles (ih (List.cons_ne_nil _ _))

end ChuckLight.Ece453

namespace ChuckLight.DefaultDMX

open Java
open Dmx512 (packetCycles loadCycle received Compatible)
open Ece453 (Inputs Realises)
open Serial (Receiver Timing)

variable {isWritable isReadable : SysFile → Bool} {calls : List Call}
  {d₀ d : DefaultDMX} {bus : ℕ → Inputs} {before schedule : List Inputs}
  {n : ℕ} {c : Timing}

/-! ## The memory -/

theorem program_writes (hd₀ : IsNew d₀)
    (hprogram : program isWritable isReadable calls d₀ = .ok () d) :
    d.sysfs.filterMap kernelWrite ≠ [] := by
  obtain ⟨hgs, rfl⟩ := program_eq_of_ok hd₀ hprogram
  obtain ⟨g, gs, hcons⟩ : ∃ g gs, programGroups calls = g :: gs :=
    ⟨_, _, rfl⟩
  rw [sysfs_storeGroups, hd₀.sysfs, List.nil_append]
  show groupWrites _ ≠ []
  rw [hcons, groupWrites_cons]
  exact List.append_ne_nil_of_left_ne_nil (List.cons_ne_nil _ _) _

/-- From the end of the schedule on the memory holds the shadow. -/
theorem dmxData_of_idle (hd₀ : IsNew d₀)
    (hprogram : program isWritable isReadable calls d₀ = .ok () d)
    (hreal : Realises (d.sysfs.filterMap kernelWrite) schedule)
    (hbus : (List.range n).map bus = before ++ schedule)
    (hidle : ∀ t, n ≤ t → (bus t).slaveWrite = false) {t : ℕ} (ht : n ≤ t)
    (a : Fin 513) :
    (((Ece453.runAt bus t).dmxMod.dmxData a).toNat : ℤ) =
      (d.dmxShadow a).toInt := by
  obtain ⟨m, rfl⟩ := Nat.exists_eq_add_of_le ht
  have hcycles : (List.range (n + m)).map bus =
      before ++ (schedule ++ (List.range m).map fun i => bus (n + i)) := by
    rw [List.range_add, List.map_append, hbus, List.append_assoc,
      List.map_map]
    rfl
  have hlater : ∀ i ∈ (List.range m).map fun i => bus (n + i),
      i.slaveWrite = false := by
    intro i hi
    obtain ⟨j, -, rfl⟩ := List.mem_map.mp hi
    exact hidle _ (Nat.le_add_right n j)
  have hrest := hreal.idle (program_writes hd₀ hprogram) hlater
  rw [Ece453.runAt_eq_run, hcycles, Ece453.run_append,
    dmxShadow_of_program hd₀ hprogram]
  by_cases ha : 1 ≤ (a : ℕ)
  · rw [dmxData_of_program hd₀ hprogram _ hrest ha, if_pos ha]
    obtain ⟨hgs, -⟩ := program_eq_of_ok hd₀ hprogram
    exact toNat_toByte (isByte_of_latest hgs (latest_programGroups calls ha))
  · have hzero : a = 0 := Fin.ext (Nat.lt_one_iff.mp (Nat.lt_of_not_le ha))
    rw [if_neg ha, hzero, dmxData_zero_run, dmxData_zero_run]
    rfl

/-! ## The line -/

/-- Two packets after the last register write, a fixture holds the start code
and the shadow of the driver, and keeps them as long as nothing is written. -/
theorem received_of_program (hd₀ : IsNew d₀)
    (hprogram : program isWritable isReadable calls d₀ = .ok () d)
    (hreal : Realises (d.sysfs.filterMap kernelWrite) schedule)
    (hbus : (List.range n).map bus = before ++ schedule)
    (hidle : ∀ t, n ≤ t → (bus t).slaveWrite = false) (hc : Compatible c)
    (start : Receiver) {t : ℕ}
    (ht : n + 2 * packetCycles + (Dmx512.cycles .idle + c.breakTime) ≤ t) :
    (received (Receiver.runAt c (Ece453.line bus) start t)).map
        (fun b => (b.toNat : ℤ)) =
      (List.finRange 513).map fun a => (d.dmxShadow a).toInt := by
  have hpos : 0 < packetCycles := Nat.succ_pos _
  obtain ⟨u, rfl⟩ := Nat.exists_eq_add_of_le
    (Nat.le_trans (Nat.le_add_left _ _) ht)
  generalize hlead : Dmx512.cycles .idle + c.breakTime = lead at ht ⊢
  -- the packet that the fixture holds was sent after the writes
  have hpacket : u / packetCycles ≠ 0 ∧
      n ≤ (u / packetCycles - 1) * packetCycles := by
    have hdiv := Nat.div_add_mod' u packetCycles
    have hmod := Nat.mod_lt u hpos
    generalize packetCycles = p at *
    constructor
    · intro hzero
      rw [hzero, Nat.zero_mul] at hdiv
      omega
    · rw [Nat.sub_mul, Nat.one_mul]
      omega
  obtain ⟨hne, hn⟩ := hpacket
  obtain ⟨k, hk⟩ := Nat.exists_eq_succ_of_ne_zero hne
  rw [hk, Nat.succ_sub_one] at hn
  have hsplit : lead + u =
      (k + 1) * packetCycles + (lead + u % packetCycles) := by
    have hdiv := Nat.div_add_mod' u packetCycles
    rw [hk, Nat.succ_eq_add_one] at hdiv
    omega
  have hmod := Nat.mod_lt u hpos
  have hreceived := Dmx512.received_of_packet hc
    (fun t => Ece453.writePort (Ece453.runAt bus t)) start k
    (i := lead + u % packetCycles) (by omega) (by omega)
  rw [hsplit, Ece453.line_eq, hreceived, List.map_map]
  apply List.map_congr_left
  intro a _
  have hload : n ≤ loadCycle k a := by
    refine Nat.le_trans hn ?_
    unfold Dmx512.loadCycle Dmx512.slotStart Dmx512.headCycles
    rw [Dmx512.cycles_idle]
    omega
  show (((Dmx512.runAt _ (loadCycle k a)).dmxData a).toNat : ℤ) = _
  rw [← Ece453.dmxMod_runAt]
  exact dmxData_of_idle hd₀ hprogram hreal hbus hidle hload a

/-- The schedule, then an idle bus. -/
def busOf (schedule : List Inputs) (t : ℕ) : Inputs :=
  schedule.getD t Ece453.busIdle

theorem map_busOf (schedule : List Inputs) :
    (List.range schedule.length).map (busOf schedule) = [] ++ schedule := by
  rw [List.nil_append]
  apply List.ext_getElem
  · rw [List.length_map, List.length_range]
  · intro i hi hi'
    rw [List.getElem_map, List.getElem_range]
    exact List.getD_eq_getElem _ _ hi'

theorem getElem?_finRange {n : ℕ} (a : Fin n) :
    (List.finRange n)[(a : ℕ)]? = some a := by
  have hlt : (a : ℕ) < (List.finRange n).length := by
    rw [List.length_finRange]
    exact a.isLt
  rw [List.getElem?_eq_getElem hlt, List.getElem_finRange]
  rfl

/-- The register writes of a program that sets channel 512 to 255. -/
def lastChannel : List Inputs :=
  Ece453.busSchedule ((storeGroups (programGroups [.setDMX 512 [255]])
    blank).sysfs.filterMap kernelWrite)

theorem received_of_program_lastChannel :
    ((received (Receiver.runAt Dmx512.fixture
      (Ece453.line (busOf lastChannel)) Dmx512.switchedOn
      (lastChannel.length + 2 * packetCycles +
        (Dmx512.cycles .idle + Dmx512.fixture.breakTime)))).map
        fun b => (b.toNat : ℤ))[512]? = some 255 := by
  have haccepts : Accepts 512 [255] :=
    ⟨by decide, by decide, by decide, by decide, by decide⟩
  have hprogram := program_of_accepted fun c hc => by
    rw [List.mem_singleton.mp hc]
    exact accepted_setDMX haccepts
  have hidle : ∀ t, lastChannel.length ≤ t →
      (busOf lastChannel t).slaveWrite = false := by
    intro t ht
    unfold busOf
    rw [List.getD_eq_default _ _ ht]
    rfl
  have hreceived := received_of_program isNew_blank hprogram
    (Ece453.realises_busSchedule _) (map_busOf lastChannel) hidle
    Dmx512.compatible_fixture Dmx512.switchedOn (Nat.le_refl _)
  have hlast : (List.finRange 513)[512]? = some 512 :=
    getElem?_finRange (512 : Fin 513)
  refine (congrArg (·[512]?) hreceived).trans ?_
  rw [List.getElem?_map, hlast, Option.map_some,
    dmxShadow_of_program isNew_blank hprogram]
  rfl

end ChuckLight.DefaultDMX
