import ChuckLight.Dmx.EndToEnd

/-!
# Calls that throw

`setDMX` stores its values in the shadow before it writes the registers, and
the bulk methods run it group by group.  A call that throws has therefore
stored the groups up to the one that failed; whether that shows depends on what
the shadow held before.
-/

namespace ChuckLight.DefaultDMX

open Java LatestWrite
open Ece453 (Device Regs Realises Settled)

/-! ## Register writes that fail -/

/-- The driver after `n` attempts to write a file. -/
def attempted (n : ℕ) (d : DefaultDMX) : DefaultDMX :=
  { d with fault := fun k => d.fault (k + n) }

theorem writeReg_eq_ok {d : DefaultDMX} (h : d.fault 0 = false)
    (reg : SysFile) (val : Int32) :
    writeReg reg val d =
      .ok () ((d.attempted 1).record
        [⟨reg, format08x val ++ ['\x00']⟩]) := by
  rw [writeReg_eq]
  show (if d.fault 0 = true then _ else _ : Run DefaultDMX Unit) _ = _
  rw [h]
  rfl

theorem writeReg_eq_error {d : DefaultDMX} (h : d.fault 0 = true)
    (reg : SysFile) (val : Int32) :
    writeReg reg val d =
      .error (.thrown (.ioException reg.path)) (d.attempted 1) := by
  rw [writeReg_eq]
  show (if d.fault 0 = true then _ else _ : Run DefaultDMX Unit) _ = _
  rw [h]
  rfl

/-- Some write of the next command fails. -/
def FaultNext (fault : ℕ → Bool) : Prop := ∃ k < 4, fault k = true

instance (fault : ℕ → Bool) : Decidable (FaultNext fault) :=
  inferInstanceAs (Decidable (∃ k < 4, _))

/-- The register writes of a call, up to the first one that fails. -/
theorem sendCommand_cases (address : Int32) (values : List Int32)
    (d : DefaultDMX) :
    (¬ FaultNext d.fault ∧ sendCommand address values d =
        .ok () ((d.attempted 4).record (messages address values))) ∨
      FaultNext d.fault ∧ ∃ k < 4, ∃ e d', sendCommand address values d =
        .error e d' ∧ d'.dmxShadow = d.dmxShadow ∧
          d'.sysfs = d.sysfs ++ (messages address values).take k := by
  unfold sendCommand
  cases h0 : d.fault 0 with
  | true =>
      rw [bind_of_error (writeReg_eq_error h0 _ _)]
      exact .inr ⟨⟨0, by decide, h0⟩, 0, by decide, _, _, rfl, rfl,
        (List.append_nil _).symm⟩
  | false =>
      rw [bind_of_ok (writeReg_eq_ok h0 _ _)]
      cases h1 : d.fault 1 with
      | true =>
          rw [bind_of_error (writeReg_eq_error h1 _ _)]
          exact .inr ⟨⟨1, by decide, h1⟩, 1, by decide, _, _, rfl, rfl, rfl⟩
      | false =>
          rw [bind_of_ok (writeReg_eq_ok h1 _ _)]
          cases h2 : d.fault 2 with
          | true =>
              rw [bind_of_error (writeReg_eq_error h2 _ _)]
              exact .inr ⟨⟨2, by decide, h2⟩, 2, by decide, _, _, rfl, rfl,
                List.append_assoc _ _ _⟩
          | false =>
              rw [bind_of_ok (writeReg_eq_ok h2 _ _)]
              cases h3 : d.fault 3 with
              | true =>
                  rw [writeReg_eq_error h3 _ _]
                  refine .inr ⟨⟨3, by decide, h3⟩, 3, by decide, _, _, rfl,
                    rfl, ?_⟩
                  simp only [attempted, record, List.append_assoc]
                  rfl
              | false =>
                  rw [writeReg_eq_ok h3 _ _]
                  refine .inl ⟨?_, ?_⟩
                  · rintro ⟨k, hk, hfault⟩
                    have hcases : k = 0 ∨ k = 1 ∨ k = 2 ∨ k = 3 := by omega
                    rcases hcases with rfl | rfl | rfl | rfl <;> simp_all
                  · simp only [attempted, record, List.append_assoc]
                    rfl

/-! ## One group -/

/-- The values that the packing loop has stored when it runs past the end of
the shadow. -/
theorem packLoop_overflow {address : Int32} (values : List Int32)
    (hbyte : ∀ v ∈ values, IsByte v) (hone : 1 ≤ address.toInt) (i : ℕ)
    (hi : i + values.length ≤ 4) (hle : address.toInt + i ≤ 513)
    (hover : 513 < address.toInt + i + values.length) (dataVal : Int32)
    (d : DefaultDMX) :
    packLoop address i dataVal values d =
      .error (.thrown .arrayIndexOutOfBoundsException)
        { d with
          dmxShadow := storeValues (address.toInt.toNat + i) values
            d.dmxShadow } := by
  induction values generalizing i dataVal d with
  | nil =>
      rw [List.length_nil] at hover
      omega
  | cons v vs ih =>
      rw [List.length_cons] at hi hover
      have hofNat : (Int32.ofNat i).toInt = i :=
        Int32.toInt_ofNat_of_lt (by omega)
      have hindex : (address + Int32.ofNat i).toInt =
          (address.toInt.toNat + i : ℕ) := by
        rw [toInt_add_of_le (by omega) (by omega)]
        omega
      have hv := (hbyte v (List.mem_cons_self ..)).and_0xff
      rw [packLoop, hv]
      by_cases hlt : address.toInt.toNat + i < 513
      · rw [bind_of_ok (storeShadow_of_lt hlt hindex d),
          ih (fun w hw => hbyte w (List.mem_cons_of_mem _ hw)) (i + 1)
            (by omega) (by omega) (by omega)]
        rw [← Nat.add_assoc, storeValues_cons hlt]
      · have hshadow : storeValues (address.toInt.toNat + i) (v :: vs)
            d.dmxShadow = d.dmxShadow := by
          funext a
          have ha := a.isLt
          rw [storeValues, covered_eq_none (by omega)]
          rfl
        have herror : storeShadow (address + Int32.ofNat i) v d =
            .error (.thrown .arrayIndexOutOfBoundsException) d := by
          unfold storeShadow
          rw [dif_neg (by omega)]
          rfl
        rw [bind_of_error herror, hshadow]

/-- The value that a group stores at `a` before it returns or throws. -/
def Group.stores (g : Group) (a : Fin 513) : Option Int32 :=
  if Checked g.address g.values then g.supplies a else none

/-- A group returns or it throws.  In both cases it has stored its values; the
memory gets them only if it returns. -/
theorem Group.setDMX_cases (g : Group) (d : DefaultDMX) :
    (Accepts g.address g.values ∧ ¬ FaultNext d.fault ∧
        DefaultDMX.setDMX g.address g.values d =
          .ok () (((d.store g.address g.values).attempted 4).record
            g.messages)) ∨
      ((¬ Accepts g.address g.values ∨ FaultNext d.fault) ∧
        ∃ k < 4, ∃ e d', DefaultDMX.setDMX g.address g.values d =
          .error e d' ∧
          (∀ a, d'.dmxShadow a = (g.stores a).getD (d.dmxShadow a)) ∧
          d'.sysfs = d.sysfs ++ g.messages.take k) := by
  by_cases hchecked : Checked g.address g.values
  · have hstores : ∀ a, g.stores a = g.supplies a := fun a => if_pos hchecked
    by_cases haccepts : Accepts g.address g.values
    · rw [haccepts.setDMX_eq]
      rcases sendCommand_cases g.address g.values
          (d.store g.address g.values) with
        ⟨hfault, hok⟩ | ⟨hfault, k, hk, e, d', herror, hshadow, hsysfs⟩
      · exact .inl ⟨haccepts, hfault, hok⟩
      · refine .inr ⟨.inr hfault, k, hk, e, d', herror, fun a => ?_, hsysfs⟩
        rw [hshadow, hstores]
        rfl
    · obtain ⟨hone, hle, hpos, hfour, hbyte⟩ := id hchecked
      have hover : 513 < g.address.toInt + g.values.length := by
        by_contra hnot
        exact haccepts ⟨hone, by omega, hpos, hfour, hbyte⟩
      have hloop := packLoop_overflow g.values hbyte hone 0 (by omega)
        (by omega) (by omega) 0 d
      rw [hchecked.setDMX_eq, bind_of_error hloop]
      refine .inr ⟨.inl haccepts, 0, by decide, _, _, rfl, fun a => ?_,
        (List.append_nil _).symm⟩
      rw [hstores]
      rfl
  · obtain ⟨message, herror⟩ := setDMX_of_not_checked hchecked d
    have hstores : ∀ a, g.stores a = none := fun a => if_neg hchecked
    refine .inr ⟨.inl fun h => hchecked h.checked, 0, by decide, _, _, herror,
      fun a => ?_, (List.append_nil _).symm⟩
    rw [hstores]
    rfl

/-! ## Groups in sequence -/

/-- Group `j` is the first one that fails, because of its arguments or of one
of its four writes. -/
def FailsAt : List Group → (ℕ → Bool) → ℕ → Prop
  | [], _, _ => False
  | g :: _, fault, 0 => ¬ Accepts g.address g.values ∨ FaultNext fault
  | g :: gs, fault, j + 1 =>
      (Accepts g.address g.values ∧ ¬ FaultNext fault) ∧
        FailsAt gs (fun k => fault (k + 4)) j

/-- The messages that were sent complete no command. -/
theorem mem_writeAll_take (address : Int32) (values : List Int32) {k : ℕ}
    (hk : k < 4) (dev : Device) :
    (dev.writeAll (((messages address values).take k).filterMap
      kernelWrite)).mem = dev.mem := by
  have htake : ((messages address values).take k).filterMap kernelWrite =
      (commandWrites (commandOf address values)).take k := by
    have hcases : k = 0 ∨ k = 1 ∨ k = 2 ∨ k = 3 := by omega
    rcases hcases with rfl | rfl | rfl | rfl <;>
      simp only [messages, kernelWrite, Kernel.ece453WriteDmxAddr,
        Kernel.ece453WriteDmxData, Kernel.ece453WriteDmxSize,
        ece453Write_format08x, List.filterMap_cons, List.filterMap_nil,
        List.take_succ_cons, List.take_zero, commandWrites, commandOf]
  have hcases : k = 0 ∨ k = 1 ∨ k = 2 ∨ k = 3 := by omega
  rw [htake]
  rcases hcases with rfl | rfl | rfl | rfl <;> rfl

/-- The shadow and the messages of a run of groups that fails. -/
theorem runGroups_of_failsAt {gs : List Group} {d : DefaultDMX} {j : ℕ}
    (h : FailsAt gs d.fault j) :
    ∃ e d' k address values, runGroups gs d = .error e d' ∧
      (∀ g ∈ gs.take j, Accepts g.address g.values) ∧
      (∀ a, d'.dmxShadow a =
        (latest Group.stores (gs.take (j + 1)) a).getD (d.dmxShadow a)) ∧
      k < 4 ∧ d'.sysfs = d.sysfs ++
        ((gs.take j).flatMap Group.messages ++
          (messages address values).take k) := by
  induction gs generalizing d j with
  | nil => exact h.elim
  | cons g rest ih =>
      rw [runGroups_cons]
      rcases g.setDMX_cases d with
        ⟨haccepts, hfault, hok⟩ | ⟨hfail, k, hk, e, d', herror, hshadow, hsysfs⟩
      · cases j with
        | zero =>
            rcases h with hreject | hnext
            · exact absurd haccepts hreject
            · exact absurd hnext hfault
        | succ j =>
            obtain ⟨e, d', k, address, values, herror, hgs, hshadow, hk,
              hsysfs⟩ := ih (d := ((d.store g.address g.values).attempted
                4).record g.messages) h.2
            rw [bind_of_ok hok]
            refine ⟨e, d', k, address, values, herror, ?_, fun a => ?_, hk,
              ?_⟩
            · intro g' hg'
              rcases List.mem_cons.mp hg' with rfl | hg'
              · exact haccepts
              · exact hgs g' hg'
            · have hstores : g.stores a = g.supplies a :=
                if_pos haccepts.checked
              rw [hshadow, List.take_succ_cons, latest_cons, hstores]
              cases latest Group.stores (rest.take (j + 1)) a with
              | none => rfl
              | some v => rfl
            · rw [hsysfs, List.take_succ_cons, List.flatMap_cons]
              simp only [record, attempted, store, List.append_assoc]
      · cases j with
        | zero =>
            rw [bind_of_error herror]
            refine ⟨e, d', k, g.address, g.values, rfl, ?_, fun a => ?_, hk,
              hsysfs⟩
            · intro g' hg'
              cases hg'
            · rw [hshadow, List.take_succ_cons, List.take_zero, latest_cons]
              rfl
        | succ j =>
            obtain ⟨⟨haccepts, hfault⟩, -⟩ := h
            rcases hfail with hreject | hnext
            · exact absurd haccepts hreject
            · exact absurd hnext hfault

/-- A run of groups throws only where a group fails. -/
theorem exists_failsAt {gs : List Group} {d d' : DefaultDMX} {e : Abrupt}
    (h : runGroups gs d = .error e d') : ∃ j, FailsAt gs d.fault j := by
  induction gs generalizing d with
  | nil => cases h
  | cons g rest ih =>
      rw [runGroups_cons] at h
      rcases g.setDMX_cases d with
        ⟨haccepts, hfault, hok⟩ | ⟨hfail, -⟩
      · rw [bind_of_ok hok] at h
        obtain ⟨j, hj⟩ := ih h
        exact ⟨j + 1, ⟨haccepts, hfault⟩, hj⟩
      · exact ⟨0, hfail⟩

/-! ## Calls -/

/-- The memory holds the values of the shadow. -/
def Shows (d : DefaultDMX) (m : Dmx512.Data) : Prop :=
  ∀ a : Fin 513, 1 ≤ (a : ℕ) → ((m a).toNat : ℤ) = (d.dmxShadow a).toInt

/-- If the call throws, the shadow is the one from before it, and so is the
memory once the bus has performed the writes that were completed. -/
def AllOrNothing (c : Call) (d : DefaultDMX) (s : Regs) : Prop :=
  ∀ e d', c.run d = .error e d' →
    d'.dmxShadow = d.dmxShadow ∧
      ∀ ws schedule, d'.sysfs = d.sysfs ++ ws →
        Realises (ws.filterMap kernelWrite) schedule →
          Shows d' (Ece453.run s schedule).dmxMod.dmxData

/-- The length of the array passes its check. -/
def Call.HasLength (c : Call) : Prop :=
  ∀ values, c = .setAllDMX values → values.length = 513

/-- Up to the first group that fails, the groups store only what the shadow
holds already. -/
def Harmless (c : Call) (d : DefaultDMX) : Prop :=
  c.HasLength → ∀ j, FailsAt c.groups d.fault j →
    ∀ g ∈ c.groups.take (j + 1), ∀ a v, g.stores a = some v →
      d.dmxShadow a = v

theorem Call.run_eq_runGroups {c : Call} (h : c.HasLength) :
    c.run = runGroups c.groups := by
  cases c with
  | setDMX address values =>
      rw [Call.groups, runGroups_cons]
      exact (bind_pure_unit (x := DefaultDMX.setDMX address values)).symm
  | setAllDMX values => exact setAllDMX_eq (h values rfl)
  | clearDMX => exact clearDMX_eq

theorem Call.run_of_not_hasLength {c : Call} (h : ¬ c.HasLength)
    (d : DefaultDMX) : ∃ e, c.run d = .error e d := by
  cases c with
  | setDMX address values => exact absurd (fun _ hc => nomatch hc) h
  | setAllDMX values =>
      have hlength : values.length ≠ 513 := by
        intro hlength
        refine h fun values' hc => ?_
        cases hc
        exact hlength
      refine ⟨.thrown (.illegalArgumentException
        "values array must be 513 elements long"), ?_⟩
      show DefaultDMX.setAllDMX values d = _
      unfold DefaultDMX.setAllDMX
      rw [if_pos hlength]
      rfl
  | clearDMX => exact absurd (fun _ hc => nomatch hc) h

/-- The groups of one call agree on every address. -/
theorem Call.supplies_of_mem_groups {c : Call} {g : Group}
    (hg : g ∈ c.groups) {a : Fin 513} {v : Int32}
    (hv : g.supplies a = some v) : c.supplies a = some v := by
  have hgroup : ∀ f : ℕ → Int32, g ∈ groupStarts.map (groupAt f) →
      1 ≤ (a : ℕ) ∧ v = f a := by
    intro f hmem
    obtain ⟨i, hi, rfl⟩ := List.mem_map.mp hmem
    obtain ⟨hone, hlt⟩ := lt_of_mem_groupStarts hi
    rw [groupAt_supplies f (by omega)] at hv
    split_ifs at hv with hrange
    cases hv
    exact ⟨by omega, rfl⟩
  cases c with
  | setDMX address values =>
      rw [List.mem_singleton.mp hg] at hv
      exact hv
  | setAllDMX values =>
      obtain ⟨hone, rfl⟩ := hgroup _ hg
      exact if_pos hone
  | clearDMX =>
      obtain ⟨hone, rfl⟩ := hgroup _ hg
      exact if_pos hone

theorem Group.supplies_of_stores {g : Group} {a : Fin 513} {v : Int32}
    (h : g.stores a = some v) : g.supplies a = some v := by
  unfold Group.stores at h
  split_ifs at h
  exact h

/-- What the groups of one call have stored. -/
theorem Call.latest_stores {c : Call} {n : ℕ} {g : Group}
    (hg : g ∈ c.groups.take n) {a : Fin 513} {v : Int32}
    (hv : g.stores a = some v) :
    latest Group.stores (c.groups.take n) a = some v := by
  refine latest_of_agree (fun g' hg' v' hv' => ?_) hg hv
  have h := supplies_of_mem_groups (List.mem_of_mem_take hg)
    (Group.supplies_of_stores hv)
  have h' := supplies_of_mem_groups (List.mem_of_mem_take hg')
    (Group.supplies_of_stores hv')
  rw [h] at h'
  exact (Option.some.inj h').symm

variable {c : Call} {d : DefaultDMX} {s : Regs} {dev : Device}

theorem harmless_of_allOrNothing (h : AllOrNothing c d s) : Harmless c d := by
  intro hlength j hj g hg a v hv
  obtain ⟨e, d', k, address, values, herror, -, hshadow, -⟩ :=
    runGroups_of_failsAt hj
  rw [← Call.run_eq_runGroups hlength] at herror
  have hkept := congrFun (h e d' herror).1 a
  rw [hshadow, Call.latest_stores hg hv] at hkept
  exact hkept.symm

/-- The shadow after a failure that only stored what was there. -/
theorem getD_latest_of_harmless {gs : List Group} {shadow : Fin 513 → Int32}
    (h : ∀ g ∈ gs, ∀ a v, g.stores a = some v → shadow a = v)
    (a : Fin 513) : (latest Group.stores gs a).getD (shadow a) = shadow a := by
  cases hlatest : latest Group.stores gs a with
  | none => rfl
  | some v =>
      obtain ⟨g, hg, hv⟩ := exists_of_latest_eq_some hlatest
      exact (h g hg a v hv).symm

/-- The memory after such a failure. -/
theorem shows_of_harmless {gs : List Group} {m : Dmx512.Data}
    (hshows : Shows d m) (hgs : ∀ g ∈ gs, Accepts g.address g.values)
    (h : ∀ g ∈ gs, ∀ a v, g.stores a = some v → d.dmxShadow a = v)
    (hm : dev.mem = m) : Shows d (dev.writeAll (groupWrites gs)).mem := by
  intro a ha
  rw [mem_writeAll_groupWrites hgs, hm]
  cases hlatest : latest Group.supplies gs a with
  | none => exact hshows a ha
  | some v =>
      obtain ⟨g, hg, hv⟩ := exists_of_latest_eq_some hlatest
      have hstores : g.stores a = some v := by
        rw [Group.stores, if_pos (hgs g hg).checked]
        exact hv
      rw [h g hg a v hstores]
      exact toNat_toByte (isByte_of_latest hgs hlatest)

theorem allOrNothing_of_harmless (hsettled : Settled s dev)
    (hshows : Shows d s.dmxMod.dmxData) (h : Harmless c d) :
    AllOrNothing c d s := by
  intro e d' herror
  by_cases hlength : c.HasLength
  · rw [Call.run_eq_runGroups hlength] at herror
    obtain ⟨j, hj⟩ := exists_failsAt herror
    obtain ⟨e', d'', k, address, values, herror', hgs, hshadow, hk, hsysfs⟩ :=
      runGroups_of_failsAt hj
    rw [herror] at herror'
    cases herror'
    have hstored := h hlength j hj
    have hkept : d'.dmxShadow = d.dmxShadow := by
      funext a
      rw [hshadow, getD_latest_of_harmless hstored]
    refine ⟨hkept, fun ws schedule hws hreal => ?_⟩
    rw [hsysfs] at hws
    rw [← List.append_cancel_left hws, List.filterMap_append] at hreal
    have hprefix : ∀ g ∈ c.groups.take j, ∀ a v, g.stores a = some v →
        d.dmxShadow a = v := fun g hg =>
      hstored g (List.take_subset_take_left _ (Nat.le_succ j) hg)
    have hmem := (hsettled.writeAll hreal).mem_eq
    rw [Device.writeAll_append, mem_writeAll_take address values hk] at hmem
    have hsent := shows_of_harmless hshows hgs hprefix hsettled.mem_eq.symm
    rw [hmem]
    intro a ha
    rw [hkept]
    exact hsent a ha
  · obtain ⟨e', hthrow⟩ := Call.run_of_not_hasLength hlength d
    rw [herror] at hthrow
    cases hthrow
    refine ⟨rfl, fun ws schedule hws hreal => ?_⟩
    have hnil : ws = [] := List.self_eq_append_right.mp hws
    rw [hnil] at hreal
    cases hreal
    exact hshows

/-- For every call in every state of the driver whose shadow is in the memory:
a throw leaves no trace if and only if the groups up to the failure hold only
values that are in the shadow. -/
theorem allOrNothing_iff (hsettled : Settled s dev)
    (hshows : Shows d s.dmxMod.dmxData) :
    AllOrNothing c d s ↔ Harmless c d :=
  ⟨harmless_of_allOrNothing, allOrNothing_of_harmless hsettled hshows⟩

theorem shows_blank : Shows blank Ece453.reset.dmxMod.dmxData :=
  fun _ _ => rfl

theorem settled_reset : Settled Ece453.reset
    ⟨Ece453.command Ece453.reset, Ece453.reset.dmxMod.dmxData⟩ :=
  Ece453.settled_of_quiet ⟨rfl, rfl⟩

theorem allOrNothing_iff_blank :
    AllOrNothing (.setDMX 510 [0, 0, 0, 7]) blank Ece453.reset ↔
      Harmless (.setDMX 510 [0, 0, 0, 7]) blank :=
  allOrNothing_iff settled_reset shows_blank

/-- A range that ends behind the last address. -/
theorem not_allOrNothing_510 :
    ¬ AllOrNothing (.setDMX 510 [1, 2, 3, 4]) blank Ece453.reset := by
  intro h
  have hfails : FailsAt (Call.setDMX 510 [1, 2, 3, 4]).groups blank.fault 0 :=
    .inl fun haccepts => absurd haccepts.le_513 (by decide)
  have hkept := harmless_of_allOrNothing h (fun _ hc => nomatch hc) 0 hfails
    _ (List.mem_singleton_self _) 510 1 (by decide)
  revert hkept
  decide

end ChuckLight.DefaultDMX
