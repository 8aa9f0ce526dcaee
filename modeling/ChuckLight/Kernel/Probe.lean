import ChuckLight.Support.Runs
import Mathlib.Data.Int.Notation
import Mathlib.Data.List.Basic
import Mathlib.Tactic.Common

/-!
# Probing and removing the device

`ece453_probe` requests what the driver needs one after another, and
`ece453_remove` gives it back.  A probe that fails gives back only a part: the
mapping is kept from `err_irq` on, and everything where the directory or its
files cannot be created.  The memory region is exclusive, so that a region that
is kept makes all later probes fail.
-/

namespace ChuckLight.Kernel

def ENXIO : ℤ := 6
def ENOMEM : ℤ := 12
def ENODEV : ℤ := 19

/-- What the kernel answers to the calls of a probe.  Where a call also depends
on what the driver holds, the answer is the one that it would give otherwise. -/
structure Answers where
  platformGetResource : Bool
  requestMemRegion : Bool
  ioremap : Bool
  platformGetIrq : ℤ
  requestIrq : Bool
  kobjectCreateAndAdd : Bool
  sysfsCreateGroup : Bool

/-- What the driver holds, its static variable `irq`, and whether the device is
bound to the driver. -/
structure Driver where
  memRegion : Bool
  mappings : ℕ
  irqLines : List ℤ
  kobject : Bool
  irq : ℤ
  bound : Bool

namespace Driver

/-- The driver before its first probe. -/
def fresh : Driver := ⟨false, 0, [], false, 0, false⟩

/-! ## Calls of the kernel -/

def releaseMemRegion (d : Driver) : Driver := { d with memRegion := false }

def iounmap (d : Driver) : Driver := { d with mappings := d.mappings - 1 }

/-- A line that was not requested stays as it is. -/
def freeIrq (d : Driver) : Driver :=
  { d with irqLines := d.irqLines.erase d.irq }

/-- The last reference to the directory is dropped, and its files go with
it. -/
def kobjectPut (d : Driver) : Driver := { d with kobject := false }

/-- The region is free. -/
def MayRequest (a : Answers) (d : Driver) : Prop :=
  d.memRegion = false ∧ a.requestMemRegion = true

/-- The line is free, or there is none. -/
def MayHandle (a : Answers) (d : Driver) : Prop :=
  d.irq < 0 ∨ a.requestIrq = true ∧ d.irq ∉ d.irqLines

/-- There is no directory of that name yet. -/
def MayCreate (a : Answers) (d : Driver) : Prop :=
  d.kobject = false ∧ a.kobjectCreateAndAdd = true

instance (a : Answers) (d : Driver) : Decidable (MayRequest a d) :=
  inferInstanceAs (Decidable (_ ∧ _))

instance (a : Answers) (d : Driver) : Decidable (MayHandle a d) :=
  inferInstanceAs (Decidable (_ ∨ _))

instance (a : Answers) (d : Driver) : Decidable (MayCreate a d) :=
  inferInstanceAs (Decidable (_ ∧ _))

/-! ## The driver -/

/-- The probe once the registers are mapped and `irq` is set. -/
def map (a : Answers) (d : Driver) : Driver :=
  { d with
    memRegion := true
    mappings := d.mappings + 1
    irq := a.platformGetIrq }

/-- The probe once the handler is registered, if there is an interrupt. -/
def handle (d : Driver) : Driver :=
  if d.irq ≥ 0 then { d with irqLines := d.irq :: d.irqLines } else d

def ece453Probe (a : Answers) (d : Driver) : ℤ × Driver :=
  if a.platformGetResource = false then (-ENODEV, d)
  else if ¬ MayRequest a d then (- ENXIO, d)
  else if a.ioremap = false then
    (-ENOMEM, releaseMemRegion { d with memRegion := true })
  else if ¬ MayHandle a (d.map a) then
    (-1, (d.map a).freeIrq.releaseMemRegion)
  else if ¬ MayCreate a (d.map a).handle then (-ENOMEM, (d.map a).handle)
  else if a.sysfsCreateGroup = false then
    (-ENOMEM, kobjectPut { (d.map a).handle with kobject := true })
  else (0, { (d.map a).handle with kobject := true })

def ece453Remove (d : Driver) : Driver :=
  d.iounmap.releaseMemRegion.kobjectPut.freeIrq

/-- A device that is not bound is probed; one that is bound is removed. -/
inductive Event where
  | probe (a : Answers)
  | remove

def step (d : Driver) : Event → Driver
  | .probe a =>
      if d.bound then d
      else
        let (ret, d') := ece453Probe a d
        { d' with bound := decide (ret = 0) }
  | .remove => if d.bound then { d.ece453Remove with bound := false } else d

/-- The driver holds nothing. -/
structure Clean (d : Driver) : Prop where
  memRegion : d.memRegion = false
  mappings : d.mappings = 0
  irqLines : d.irqLines = []
  kobject : d.kobject = false

/-- The probe gets the registers mapped. -/
def Maps (a : Answers) (d : Driver) : Prop :=
  a.platformGetResource = true ∧ MayRequest a d ∧ a.ioremap = true

/-- The probe gets the registers mapped, and fails afterwards. -/
def FailsLate (d : Driver) : Event → Prop
  | .probe a => d.bound = false ∧ Maps a d ∧ (ece453Probe a d).1 ≠ 0
  | .remove => False

/-- The probe gets over the interrupt, and fails afterwards. -/
def Blocks (d : Driver) : Event → Prop
  | .probe a => FailsLate d (.probe a) ∧ MayHandle a (d.map a)
  | .remove => False

variable {d : Driver} {a : Answers} {e : Event} {events : List Event}

/-! ## One event -/

/-- How a probe can end. -/
inductive Ends (a : Answers) (d : Driver) : ℤ × Driver → Prop where
  | early {ret : ℤ} (h : ¬ Maps a d) (hret : ret ≠ 0) : Ends a d (ret, d)
  | unhandled {ret : ℤ} (h : Maps a d) (hhandle : ¬ MayHandle a (d.map a))
      (hret : ret ≠ 0) : Ends a d (ret, (d.map a).freeIrq.releaseMemRegion)
  | blocked {ret : ℤ} (h : Maps a d) (hhandle : MayHandle a (d.map a))
      (hret : ret ≠ 0) : Ends a d (ret, (d.map a).handle)
  | success (h : Maps a d) (hhandle : MayHandle a (d.map a)) :
      Ends a d (0, { (d.map a).handle with kobject := true })

theorem mappings_handle (d : Driver) : d.handle.mappings = d.mappings := by
  unfold handle
  split_ifs <;> rfl

theorem ends_ece453Probe (a : Answers) (d : Driver) :
    Ends a d (ece453Probe a d) := by
  unfold ece453Probe
  by_cases hresource : a.platformGetResource = false
  · rw [if_pos hresource]
    refine .early (fun h => ?_) (by decide)
    exact Bool.false_ne_true (hresource.symm.trans h.1)
  rw [if_neg hresource]
  by_cases hrequest : MayRequest a d
  swap
  · rw [if_pos hrequest]
    exact .early (fun h => hrequest h.2.1) (by decide)
  rw [if_neg (not_not.mpr hrequest)]
  by_cases hioremap : a.ioremap = false
  · rw [if_pos hioremap]
    have hsame : releaseMemRegion { d with memRegion := true } = d := by
      have hfree := hrequest.1
      cases d
      cases hfree
      rfl
    rw [hsame]
    refine .early (fun h => ?_) (by decide)
    exact Bool.false_ne_true (hioremap.symm.trans h.2.2)
  rw [if_neg hioremap]
  have hmaps : Maps a d := ⟨(Bool.not_eq_false _).mp hresource, hrequest,
    (Bool.not_eq_false _).mp hioremap⟩
  by_cases hhandle : MayHandle a (d.map a)
  swap
  · rw [if_pos hhandle]
    exact .unhandled hmaps hhandle (by decide)
  rw [if_neg (not_not.mpr hhandle)]
  by_cases hcreate : MayCreate a (d.map a).handle
  swap
  · rw [if_pos hcreate]
    exact .blocked hmaps hhandle (by decide)
  rw [if_neg (not_not.mpr hcreate)]
  by_cases hsysfs : a.sysfsCreateGroup = false
  · rw [if_pos hsysfs]
    have hsame : kobjectPut { (d.map a).handle with kobject := true } =
        (d.map a).handle := by
      have hnone := hcreate.1
      generalize (d.map a).handle = d' at hnone
      cases d'
      cases hnone
      rfl
    rw [hsame]
    exact .blocked hmaps hhandle (by decide)
  · rw [if_neg hsysfs]
    exact .success hmaps hhandle

/-- The driver holds what a bound device needs, and nothing else. -/
structure Good (d : Driver) : Prop where
  memRegion : d.memRegion = d.bound
  mappings : d.mappings = if d.bound then 1 else 0
  irqLines : d.irqLines = if d.bound = true ∧ 0 ≤ d.irq then [d.irq] else []
  kobject : d.kobject = d.bound

/-- A mapping is lost. -/
def Leaks (d : Driver) : Prop := (if d.bound then 1 else 0) < d.mappings

theorem step_probe (h : d.bound = false) (a : Answers) :
    step d (.probe a) = { (ece453Probe a d).2 with
      bound := decide ((ece453Probe a d).1 = 0) } := by
  unfold step
  rw [h]
  rfl

theorem step_probe_of_bound (h : d.bound = true) (a : Answers) :
    step d (.probe a) = d := if_pos h

theorem step_remove (h : d.bound = true) :
    step d .remove = { d.ece453Remove with bound := false } := if_pos h

theorem step_remove_of_not_bound (h : d.bound = false) :
    step d .remove = d := by
  unfold step
  rw [h]
  rfl

theorem good_of_success (h : Good d) (hunbound : d.bound = false) :
    Good { (d.map a).handle with kobject := true, bound := true } := by
  obtain ⟨-, hmappings, hlines, -⟩ := h
  rw [hunbound] at hmappings hlines
  have hnone : d.irqLines = [] := hlines
  have hzero : d.mappings = 0 := hmappings
  unfold handle
  by_cases hirq : (d.map a).irq ≥ 0
  · rw [if_pos hirq]
    refine ⟨rfl, ?_, ?_, rfl⟩
    · show d.mappings + 1 = 1
      rw [hzero]
    · show (d.map a).irq :: d.irqLines =
        if true = true ∧ 0 ≤ (d.map a).irq then [(d.map a).irq] else []
      rw [if_pos ⟨rfl, hirq⟩, hnone]
  · rw [if_neg hirq]
    refine ⟨rfl, ?_, ?_, rfl⟩
    · show d.mappings + 1 = 1
      rw [hzero]
    · show d.irqLines =
        if true = true ∧ 0 ≤ (d.map a).irq then [(d.map a).irq] else []
      rw [if_neg fun hboth => hirq hboth.2, hnone]

theorem good_remove (h : Good d) (hbound : d.bound = true) :
    Good { d.ece453Remove with bound := false } := by
  obtain ⟨-, hmappings, hlines, -⟩ := h
  rw [hbound] at hmappings hlines
  have hone : d.mappings = 1 := hmappings
  refine ⟨rfl, ?_, ?_, rfl⟩
  · show d.mappings - 1 = 0
    rw [hone]
  · show d.irqLines.erase d.irq = []
    rw [hlines]
    split_ifs
    · exact List.erase_cons_head ..
    · rfl

/-- A probe that does not fail late, and a removal, leave nothing over. -/
theorem Good.step (h : Good d) (hlate : ¬ FailsLate d e) :
    Good (step d e) := by
  cases hbound : d.bound with
  | true =>
      cases e with
      | probe a =>
          rw [step_probe_of_bound hbound]
          exact h
      | remove =>
          rw [step_remove hbound]
          exact good_remove h hbound
  | false =>
      cases e with
      | remove =>
          rw [step_remove_of_not_bound hbound]
          exact h
      | probe a =>
          have hends := ends_ece453Probe a d
          have hret : Maps a d → (ece453Probe a d).1 = 0 := fun hmaps =>
            by_contra fun hret => hlate ⟨hbound, hmaps, hret⟩
          rw [step_probe hbound]
          generalize ece453Probe a d = r at hends hret ⊢
          cases hends with
          | early hmaps hne =>
              have hsame : { d with bound := false } = d := by
                cases d
                cases hbound
                rfl
              rw [decide_eq_false hne]
              exact hsame.symm ▸ h
          | unhandled hmaps _ hne => exact absurd (hret hmaps) hne
          | blocked hmaps _ hne => exact absurd (hret hmaps) hne
          | success => exact good_of_success h hbound

/-- A probe that fails late loses its mapping. -/
theorem leaks_of_failsLate (h : FailsLate d e) : Leaks (step d e) := by
  cases e with
  | remove => exact h.elim
  | probe a =>
      obtain ⟨hbound, hmaps, hret⟩ := h
      have hends := ends_ece453Probe a d
      rw [step_probe hbound]
      generalize ece453Probe a d = r at hends hret ⊢
      cases hends with
      | early hnot => exact absurd hmaps hnot
      | unhandled _ _ hne =>
          rw [decide_eq_false hne]
          exact Nat.succ_pos _
      | blocked _ _ hne =>
          rw [decide_eq_false hne]
          show 0 < (d.map a).handle.mappings
          rw [mappings_handle]
          exact Nat.succ_pos _
      | success => exact absurd rfl hret

/-- A mapping that is lost stays lost. -/
theorem Leaks.step (h : Leaks d) (e : Event) : Leaks (step d e) := by
  cases hbound : d.bound with
  | true =>
      have hmore : 1 < d.mappings := by
        unfold Leaks at h
        rwa [hbound] at h
      cases e with
      | probe a =>
          rw [step_probe_of_bound hbound]
          exact h
      | remove =>
          rw [step_remove hbound]
          exact Nat.sub_pos_of_lt hmore
  | false =>
      have hmore : 0 < d.mappings := by
        unfold Leaks at h
        rwa [hbound] at h
      cases e with
      | remove =>
          rw [step_remove_of_not_bound hbound]
          exact h
      | probe a =>
          by_cases hlate : FailsLate d (.probe a)
          · exact leaks_of_failsLate hlate
          have hends := ends_ece453Probe a d
          have hret : Maps a d → (ece453Probe a d).1 = 0 := fun hmaps =>
            by_contra fun hret => hlate ⟨hbound, hmaps, hret⟩
          rw [step_probe hbound]
          generalize ece453Probe a d = r at hends hret ⊢
          cases hends with
          | early hmaps hne =>
              rw [decide_eq_false hne]
              exact hmore
          | unhandled hmaps _ hne => exact absurd (hret hmaps) hne
          | blocked hmaps _ hne => exact absurd (hret hmaps) hne
          | success =>
              show 1 < (d.map a).handle.mappings
              rw [mappings_handle]
              exact Nat.succ_lt_succ hmore

/-! ## Runs -/

theorem good_fresh : Good fresh := ⟨rfl, rfl, rfl, rfl⟩

theorem good_or_leaks (h : Good d) (events : List Event) :
    (Runs.AllSteps step (fun d e => ¬ FailsLate d e) d events ∧
        Good (events.foldl Driver.step d)) ∨
      (¬ Runs.AllSteps step (fun d e => ¬ FailsLate d e) d events ∧
        Leaks (events.foldl Driver.step d)) := by
  induction events generalizing d with
  | nil => exact .inl ⟨trivial, h⟩
  | cons e rest ih =>
      by_cases hlate : FailsLate d e
      · have hrest : ∀ t ∈ Runs.states Driver.step (d.step e) rest,
            Leaks t :=
          Runs.invariant (fun _ e h _ => h.step e) (leaks_of_failsLate hlate)
            (Runs.allSteps_true _ _)
        exact .inr ⟨fun hsteps => hsteps.1 hlate,
          hrest _ Runs.foldl_mem_states⟩
      · rcases ih (h.step hlate) with ⟨hsteps, hgood⟩ | ⟨hnot, hleaks⟩
        · exact .inl ⟨⟨hlate, hsteps⟩, hgood⟩
        · exact .inr ⟨fun hsteps => hnot hsteps.2, hleaks⟩

/-- In every run of probes and removals, the driver has given back everything
when no device is bound if and only if no probe has failed after the registers
were mapped. -/
theorem clean_iff
    (hunbound : (events.foldl Driver.step fresh).bound = false) :
    Clean (events.foldl Driver.step fresh) ↔
      Runs.AllSteps Driver.step (fun d e => ¬ FailsLate d e) fresh events := by
  rcases good_or_leaks good_fresh events with ⟨hsteps, hgood⟩ | ⟨hnot, hleaks⟩
  · obtain ⟨hregion, hmappings, hlines, hkobject⟩ := hgood
    rw [hunbound] at hregion hmappings hlines hkobject
    exact ⟨fun _ => hsteps, fun _ => ⟨hregion, hmappings, hlines, hkobject⟩⟩
  · refine ⟨fun hclean => ?_, fun hsteps => absurd hsteps hnot⟩
    unfold Leaks at hleaks
    rw [hunbound, hclean.mappings] at hleaks
    exact absurd hleaks (Nat.lt_irrefl 0)

/-- All calls of the kernel succeed, with an interrupt. -/
def granted : Answers := ⟨true, true, true, 40, true, true, true⟩

/-- The device is bound and removed twice. -/
theorem clean_iff_granted :
    Clean ([.probe granted, .remove, .probe granted, .remove].foldl
      Driver.step fresh) := by
  have hsteps : Runs.AllSteps Driver.step (fun d e => ¬ FailsLate d e) fresh
      [.probe granted, .remove, .probe granted, .remove] :=
    ⟨fun h => h.2.2 rfl, id, fun h => h.2.2 rfl, id, trivial⟩
  exact (clean_iff rfl).mpr hsteps

theorem blocked_of_blocks (h : Blocks d e) :
    (d.step e).memRegion = true ∧ (d.step e).bound = false := by
  cases e with
  | remove => exact h.elim
  | probe a =>
      obtain ⟨⟨hbound, hmaps, hret⟩, hhandle⟩ := h
      have hends := ends_ece453Probe a d
      rw [step_probe hbound]
      generalize ece453Probe a d = r at hends hret ⊢
      cases hends with
      | early hnot => exact absurd hmaps hnot
      | unhandled _ hnot => exact absurd hhandle hnot
      | blocked _ _ hne =>
          rw [decide_eq_false hne]
          refine ⟨?_, rfl⟩
          show (d.map a).handle.memRegion = true
          unfold handle
          split_ifs <;> rfl
      | success => exact absurd rfl hret

/-- An event after the region was kept. -/
theorem step_of_memRegion (hregion : d.memRegion = true)
    (hbound : d.bound = false) (e : Event) : d.step e = d := by
  cases e with
  | remove => exact step_remove_of_not_bound hbound
  | probe a =>
      have hnot : ¬ Maps a d := fun hmaps =>
        Bool.false_ne_true (hmaps.2.1.1.symm.trans hregion)
      have hends := ends_ece453Probe a d
      rw [step_probe hbound]
      generalize ece453Probe a d = r at hends ⊢
      cases hends with
      | early _ hne =>
          rw [decide_eq_false hne]
          cases d
          cases hbound
          rfl
      | unhandled hmaps => exact absurd hmaps hnot
      | blocked hmaps => exact absurd hmaps hnot
      | success hmaps => exact absurd hmaps hnot

/-- Where a probe gets over the interrupt and fails, no later probe succeeds:
the region that it keeps is in the way of all of them. -/
theorem fails_of_blocks (h : Blocks d e) (later : List Event) :
    later.foldl Driver.step (d.step e) = d.step e ∧
      (d.step e).bound = false ∧
      ∀ a, (ece453Probe a (d.step e)).1 = -ENODEV ∨
        (ece453Probe a (d.step e)).1 = - ENXIO := by
  obtain ⟨hregion, hbound⟩ := blocked_of_blocks h
  generalize d.step e = d' at hregion hbound ⊢
  refine ⟨?_, hbound, fun a => ?_⟩
  · induction later with
    | nil => rfl
    | cons e' rest ih =>
        rw [List.foldl_cons, step_of_memRegion hregion hbound]
        exact ih
  · have hrequest : ¬ MayRequest a d' := fun hrequest =>
      Bool.false_ne_true (hrequest.1.symm.trans hregion)
    unfold ece453Probe
    by_cases hresource : a.platformGetResource = false
    · rw [if_pos hresource]
      exact .inl rfl
    · rw [if_neg hresource, if_pos hrequest]
      exact .inr rfl

/-- The files cannot be created in the first probe. -/
theorem fails_of_blocks_granted :
    ([.probe granted, .remove, .probe granted].foldl Driver.step
      (fresh.step (.probe { granted with sysfsCreateGroup := false }))).bound =
        false := by
  have hblocks : Blocks fresh
      (.probe { granted with sysfsCreateGroup := false }) :=
    ⟨⟨rfl, ⟨rfl, by decide, rfl⟩, by decide⟩, by decide⟩
  obtain ⟨hsame, hbound, -⟩ := fails_of_blocks hblocks
    [.probe granted, .remove, .probe granted]
  rw [hsame]
  exact hbound

end Driver

end ChuckLight.Kernel
