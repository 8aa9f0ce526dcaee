import ChuckLight.Dmx.Calls
import ChuckLight.Dmx.Packing

/-!
# The DMX store from driver to memory

A program constructs the driver and makes calls that return normally.  The
kernel turns each message into a register write, and the bus performs the
writes in order.  Shadow and memory then both hold the latest supplied values.
-/

namespace ChuckLight.DefaultDMX

open Java LatestWrite
open Ece453 (Device Regs Inputs Realises Settled)

/-! ## Groups on the device -/

/-- The register writes that the kernel performs for a list of groups. -/
def groupWrites (gs : List Group) : List Kernel.IoWrite :=
  (gs.flatMap Group.messages).filterMap kernelWrite

theorem groupWrites_cons (g : Group) (gs : List Group) :
    groupWrites (g :: gs) =
      commandWrites (commandOf g.address g.values) ++ groupWrites gs := by
  unfold groupWrites
  rw [List.flatMap_cons, List.filterMap_append]
  exact congrArg (· ++ _) (filterMap_messages g.address g.values)

theorem writeAll_groupWrites (gs : List Group) (d : Device) :
    (d.writeAll (groupWrites gs)).mem =
      gs.foldl (fun m g => (commandOf g.address g.values).store m) d.mem := by
  induction gs generalizing d with
  | nil => rfl
  | cons g rest ih =>
      rw [groupWrites_cons, Device.writeAll_append, writeAll_commandWrites, ih]
      rfl

/-- The device memory holds the latest value of every group. -/
theorem mem_writeAll_groupWrites {gs : List Group}
    (hgs : ∀ g ∈ gs, Accepts g.address g.values) (d : Device) (a : Fin 513) :
    (d.writeAll (groupWrites gs)).mem a =
      ((latest Group.supplies gs a).map toByte).getD (d.mem a) := by
  rw [writeAll_groupWrites]
  generalize d.mem = m
  induction gs generalizing m with
  | nil => rfl
  | cons g rest ih =>
      have hg := (hgs g (List.mem_cons_self ..)).store_commandOf m a
      have hrest : ∀ g' ∈ rest, Accepts g'.address g'.values :=
        fun g' hg' => hgs g' (List.mem_cons_of_mem _ hg')
      rw [List.foldl_cons, ih hrest, hg, latest_cons]
      cases latest Group.supplies rest a with
      | none => rfl
      | some v => rfl

theorem isByte_of_latest {gs : List Group}
    (hgs : ∀ g ∈ gs, Accepts g.address g.values) {a : Fin 513} {v : Int32}
    (h : latest Group.supplies gs a = some v) : IsByte v := by
  obtain ⟨g, hg, hsupplies⟩ := exists_of_latest_eq_some h
  apply (hgs g hg).isByte
  unfold Group.supplies covered at hsupplies
  split_ifs at hsupplies
  exact List.mem_of_getElem? hsupplies

/-! ## The start code stays zero -/

theorem dmxData_zero_step (s : Regs) (i : Inputs) :
    (Ece453.step s i).dmxMod.dmxData 0 = s.dmxMod.dmxData 0 := by
  rw [Ece453.step_dmxData]
  split_ifs
  · refine Ece453.Command.store_of_not_covers fun h => ?_
    obtain ⟨hone, -, -, hle, -⟩ := h
    have hzero : ((0 : Fin 513) : ℕ) = 0 := rfl
    omega
  · rfl

theorem dmxData_zero_run (s : Regs) (schedule : List Inputs) :
    (Ece453.run s schedule).dmxMod.dmxData 0 = s.dmxMod.dmxData 0 := by
  induction schedule generalizing s with
  | nil => rfl
  | cons i rest ih =>
      rw [Ece453.run_cons, ih, dmxData_zero_step]

/-! ## Programs -/

/-- Construct the driver, then make the calls. -/
def program (isWritable isReadable : SysFile → Bool) (calls : List Call) :
    Run DefaultDMX Unit := do
  create isWritable isReadable
  calls.forM Call.run

/-- A driver object before its constructor has run. -/
structure IsNew (d : DefaultDMX) : Prop where
  noFault : NoFault d
  sysfs : d.sysfs = []

/-- The value at address `a` after the calls: the latest one supplied, and zero
where there is none. -/
def supplied (calls : List Call) (a : Fin 513) : Int32 :=
  (latest Call.supplies calls a).getD 0

/-- A constructor that returns normally has passed the access checks, reset the
shadow and cleared the lights. -/
theorem create_eq_of_ok {isWritable isReadable : SysFile → Bool}
    {d d' : DefaultDMX} (h : create isWritable isReadable d = .ok () d') :
    clearDMX { d with dmxShadow := fun _ => 0 } = .ok () d' := by
  unfold create at h
  by_cases haddr : (!isWritable .addr) = true
  · rw [if_pos haddr] at h
    cases h
  rw [if_neg haddr] at h
  by_cases hdata : (!isWritable .data) = true
  · rw [if_pos hdata] at h
    cases h
  rw [if_neg hdata] at h
  by_cases hsize : (!isWritable .size) = true
  · rw [if_pos hsize] at h
    cases h
  rw [if_neg hsize] at h
  by_cases hctrl : (!isWritable .ctrl) = true
  · rw [if_pos hctrl] at h
    cases h
  rw [if_neg hctrl] at h
  by_cases hstat : (!isReadable .stat) = true
  · rw [if_pos hstat] at h
    cases h
  rw [if_neg hstat] at h
  exact h

/-- The groups of a program. -/
def programGroups (calls : List Call) : List Group :=
  (Call.clearDMX :: calls).flatMap Call.groups

theorem program_eq_of_ok {isWritable isReadable : SysFile → Bool}
    {calls : List Call} {d d' : DefaultDMX} (hd : IsNew d)
    (h : program isWritable isReadable calls d = .ok () d') :
    (∀ g ∈ programGroups calls, Accepts g.address g.values) ∧
      d' = storeGroups (programGroups calls)
        { d with dmxShadow := fun _ => 0 } := by
  unfold program at h
  cases hcreate : create isWritable isReadable d with
  | error e d₁ =>
      rw [bind_of_error hcreate] at h
      cases h
  | ok u d₁ =>
      rw [bind_of_ok hcreate] at h
      have hclear : Call.clearDMX.run { d with dmxShadow := fun _ => 0 } =
          .ok () d₁ := create_eq_of_ok hcreate
      have hcalls : (Call.clearDMX :: calls).forM Call.run
          { d with dmxShadow := fun _ => 0 } = .ok () d' := by
        rw [List.forM_eq_forM, List.forM_cons, bind_of_ok hclear]
        exact h
      exact groups_of_run_eq_ok hd.noFault hcalls

/-- Every address from 1 on has been covered since construction. -/
theorem latest_programGroups (calls : List Call) {a : Fin 513}
    (ha : 1 ≤ (a : ℕ)) :
    latest Group.supplies (programGroups calls) a =
      some (supplied calls a) := by
  have hcalls : latest Group.supplies (programGroups calls) a =
      (latest Call.supplies calls a).or (Call.clearDMX.supplies a) := by
    unfold programGroups
    rw [latest_flatMap, ← latest_cons]
    exact congrArg (fun supplies => latest supplies _ a)
      (funext fun c => funext fun a => c.latest_groups a)
  have hclear : Call.clearDMX.supplies a = some 0 := if_pos ha
  rw [hcalls, hclear, supplied]
  cases latest Call.supplies calls a with
  | none => rfl
  | some v => rfl

/-- No accepted group covers address 0. -/
theorem latest_zero {gs : List Group}
    (hgs : ∀ g ∈ gs, Accepts g.address g.values) :
    latest Group.supplies gs 0 = none := by
  apply latest_eq_none
  intro g hg
  have hone := (hgs g hg).one_le
  apply covered_eq_none
  have hzero : ((0 : Fin 513) : ℕ) = 0 := rfl
  omega

/-! ## The two ends -/

/-- The shadow after a program that returned normally. -/
theorem dmxShadow_of_program {isWritable isReadable : SysFile → Bool}
    {calls : List Call} {d d' : DefaultDMX} (hd : IsNew d)
    (h : program isWritable isReadable calls d = .ok () d') (a : Fin 513) :
    d'.dmxShadow a = if 1 ≤ (a : ℕ) then supplied calls a else 0 := by
  obtain ⟨hgs, rfl⟩ := program_eq_of_ok hd h
  rw [dmxShadow_storeGroups]
  by_cases ha : 1 ≤ (a : ℕ)
  · rw [latest_programGroups calls ha, if_pos ha]
    rfl
  · have hzero : a = 0 := Fin.ext (by
      have : ((0 : Fin 513) : ℕ) = 0 := rfl
      omega)
    rw [if_neg ha, hzero, latest_zero hgs]
    rfl

/-- The memory after the bus has performed the writes of the program. -/
theorem dmxData_of_program {isWritable isReadable : SysFile → Bool}
    {calls : List Call} {d d' : DefaultDMX} (hd : IsNew d)
    (h : program isWritable isReadable calls d = .ok () d') (s : Regs)
    {schedule : List Inputs}
    (hreal : Realises (d'.sysfs.filterMap kernelWrite) schedule)
    {a : Fin 513} (ha : 1 ≤ (a : ℕ)) :
    (Ece453.run s schedule).dmxMod.dmxData a = toByte (supplied calls a) := by
  obtain ⟨hgs, rfl⟩ := program_eq_of_ok hd h
  have hsysfs := sysfs_storeGroups (programGroups calls)
    { d with dmxShadow := fun _ => 0 }
  rw [hsysfs, hd.sysfs, List.nil_append] at hreal
  change Realises (groupWrites (programGroups calls)) schedule at hreal
  obtain ⟨g, gs, hcons⟩ : ∃ g gs, programGroups calls = g :: gs :=
    ⟨_, _, rfl⟩
  have hmem := fun d => mem_writeAll_groupWrites hgs d a
  rw [hcons, groupWrites_cons] at hreal hmem
  have hdata : Kernel.ece453DmxDataOffset ≠ Ece453.controlAddr := by decide
  obtain ⟨pre, hsettled⟩ :=
    Ece453.settled_of_realises (fun hw => hdata hw.1) hreal
  have heq := hmem ⟨Ece453.command s, (Ece453.run s pre).dmxMod.dmxData⟩
  rw [hsettled.mem_eq]
  refine heq.trans ?_
  rw [← hcons, latest_programGroups calls ha]
  rfl

theorem getDMX_eq (d : DefaultDMX) {a : Fin 513} (ha : 1 ≤ (a : ℕ)) :
    getDMX (Int32.ofNat a) d = .ok (d.dmxShadow a) d := by
  have hlt := a.isLt
  have hint : (Int32.ofNat a).toInt = a := Int32.toInt_ofNat_of_lt (by omega)
  have h512 : (512 : Int32).toInt = 512 := rfl
  have h0 : (0 : Int32).toInt = 0 := rfl
  have hrange : ¬ (Int32.ofNat a ≤ 0 ∨ Int32.ofNat a > 512) := by
    simp only [gt_iff_lt, Int32.lt_iff_toInt_lt, Int32.le_iff_toInt_le, hint,
      h512, h0]
    omega
  have hnat : (Int32.ofNat a).toInt.toNat = a := by
    rw [hint]
    rfl
  have hindex : (⟨(Int32.ofNat a).toInt.toNat, by omega⟩ : Fin 513) = a :=
    Fin.ext hnat
  unfold getDMX loadShadow
  rw [if_neg hrange, dif_pos (by omega), hindex]
  rfl

/-- For every program that returns normally and every state in which the
peripheral may be when it starts: `getDmx`, `getDMX` and the memory hold, at
every address, the value supplied by the latest call that covered it, and
index 0 stays zero throughout. -/
theorem store_eq_supplied {isWritable isReadable : SysFile → Bool}
    {calls : List Call} {d₀ d : DefaultDMX} (hd₀ : IsNew d₀)
    (hprogram : program isWritable isReadable calls d₀ = .ok () d)
    (before : List Inputs) {schedule : List Inputs}
    (hreal : Realises (d.sysfs.filterMap kernelWrite) schedule) :
    getDmx d = .ok (List.ofFn fun a : Fin 513 =>
        if 1 ≤ (a : ℕ) then supplied calls a else 0) d ∧
      (∀ a : Fin 513, 1 ≤ (a : ℕ) →
        getDMX (Int32.ofNat a) d = .ok (supplied calls a) d ∧
          (((Ece453.run (Ece453.run Ece453.reset before)
            schedule).dmxMod.dmxData a).toNat : ℤ) =
              (supplied calls a).toInt) ∧
      ∀ cycles, cycles <+: schedule →
        (Ece453.run (Ece453.run Ece453.reset before)
          cycles).dmxMod.dmxData 0 = 0 := by
  have hshadow := dmxShadow_of_program hd₀ hprogram
  obtain ⟨hgs, -⟩ := program_eq_of_ok hd₀ hprogram
  refine ⟨?_, fun a ha => ⟨?_, ?_⟩, fun cycles _ => ?_⟩
  · rw [← funext hshadow]
    rfl
  · rw [getDMX_eq d ha, hshadow, if_pos ha]
  · rw [dmxData_of_program hd₀ hprogram _ hreal ha]
    exact toNat_toByte (isByte_of_latest hgs (latest_programGroups calls ha))
  · rw [dmxData_zero_run, dmxData_zero_run]
    rfl

/-- A driver object before construction, without faults. -/
def blank : DefaultDMX where
  dmxShadow := fun _ => 0
  sysfs := []
  fault := fun _ => false

theorem isNew_blank : IsNew blank := ⟨rfl, rfl⟩

theorem create_blank :
    create (fun _ => true) (fun _ => true) blank = clearDMX blank := by
  unfold create
  simp only [Bool.not_true, Bool.false_eq_true, if_false]
  exact bind_of_ok (s := blank) (a := ⟨⟩) rfl

theorem program_of_accepted {calls : List Call}
    (hcalls : ∀ c ∈ calls, c.Accepted) :
    program (fun _ => true) (fun _ => true) calls blank =
      .ok () (storeGroups (programGroups calls) blank) := by
  have hclear := accepted_clearDMX.run_eq isNew_blank.noFault
  unfold program
  rw [bind_of_ok (create_blank.trans hclear),
    forM_run_of_accepted hcalls (isNew_blank.noFault.storeGroups _),
    ← storeGroups_append]
  rfl

/-- Channel 512 set to 255 after construction. -/
theorem store_eq_supplied_512 :
    (((Ece453.run (Ece453.run Ece453.reset [])
      (Ece453.busSchedule ((storeGroups (programGroups [.setDMX 512 [255]])
        blank).sysfs.filterMap kernelWrite))).dmxMod.dmxData 512).toNat : ℤ) =
      255 := by
  have haccepts : Accepts 512 [255] :=
    ⟨by decide, by decide, by decide, by decide, by decide⟩
  have hprogram := program_of_accepted fun c hc => by
    rw [List.mem_singleton.mp hc]
    exact accepted_setDMX haccepts
  exact ((store_eq_supplied isNew_blank hprogram []
    (Ece453.realises_busSchedule _)).2.1 512 (by decide)).2

end ChuckLight.DefaultDMX
