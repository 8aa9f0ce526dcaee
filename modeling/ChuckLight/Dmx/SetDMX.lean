import ChuckLight.Dmx.DefaultDMX

/-!
# What the driver methods ensure

Every accepted `setDMX` stores its values in the shadow and writes four
registers; nothing else is accepted.  `setDMX_triple` is the fact that callers
use when a write may fail: only bytes get into the shadow, and the only
exception for accepted arguments is the `IOException`.
-/

namespace ChuckLight.DefaultDMX

open Java

/-! ## The packing loop -/

theorem storeShadow_of_lt {index value : Int32} {n : ℕ} (hn : n < 513)
    (h : index.toInt = n) (d : DefaultDMX) :
    storeShadow index value d = .ok ()
      { d with dmxShadow := Function.update d.dmxShadow ⟨n, hn⟩ value } := by
  have hindex : index.toInt.toNat = n := by omega
  unfold storeShadow
  rw [dif_pos (by omega)]
  simp only [hindex]
  rfl

theorem storeValues_cons {n : ℕ} (hn : n < 513) (v : Int32) (vs : List Int32)
    (shadow : Fin 513 → Int32) :
    storeValues (n + 1) vs (Function.update shadow ⟨n, hn⟩ v) =
      storeValues n (v :: vs) shadow := by
  funext a
  unfold storeValues
  rw [covered_cons]
  by_cases heq : n = a
  · have ha : a = ⟨n, hn⟩ := Fin.ext heq.symm
    rw [if_pos heq, covered_eq_none (by omega), ha, Function.update_self]
    rfl
  · have ha : a ≠ ⟨n, hn⟩ := fun h => heq (congrArg Fin.val h).symm
    rw [if_neg heq, Function.update_of_ne ha]

theorem packLoop_eq {address : Int32} (values : List Int32)
    (hbyte : ∀ v ∈ values, IsByte v) (hone : 1 ≤ address.toInt) (i : ℕ)
    (hle : address.toInt + i + values.length ≤ 513) (dataVal : Int32)
    (d : DefaultDMX) :
    packLoop address i dataVal values d =
      .ok (packed i dataVal values)
        { d with
          dmxShadow := storeValues (address.toInt.toNat + i) values
            d.dmxShadow } := by
  induction values generalizing i dataVal d with
  | nil =>
      have hshadow : storeValues (address.toInt.toNat + i) [] d.dmxShadow =
          d.dmxShadow := by
        funext a
        rw [storeValues, covered_eq_none]
        · rfl
        · rw [List.length_nil]
          omega
      rw [hshadow]
      rfl
  | cons v vs ih =>
      rw [List.length_cons] at hle
      have hi : (Int32.ofNat i).toInt = i :=
        Int32.toInt_ofNat_of_lt (by omega)
      have hindex : (address + Int32.ofNat i).toInt =
          (address.toInt.toNat + i : ℕ) := by
        rw [toInt_add_of_le (by omega) (by omega)]
        omega
      have hlt : address.toInt.toNat + i < 513 := by omega
      have hv := (hbyte v (List.mem_cons_self ..)).and_0xff
      rw [packLoop, packed, hv, bind_of_ok (storeShadow_of_lt hlt hindex d),
        ih (fun w hw => hbyte w (List.mem_cons_of_mem _ hw)) (i + 1)
          (by omega)]
      rw [← Nat.add_assoc, storeValues_cons hlt]

/-- A value past address 512 does not get past the packing loop. -/
theorem le_of_packLoop_eq_ok {address : Int32} {values : List Int32}
    (hne : values ≠ []) (hone : 1 ≤ address.toInt)
    (haddress : address.toInt ≤ 512) {i : ℕ}
    (hi : i + values.length ≤ 4) {dataVal r : Int32} {d d' : DefaultDMX}
    (h : packLoop address i dataVal values d = .ok r d') :
    address.toInt + i + values.length ≤ 513 := by
  induction values generalizing i dataVal d with
  | nil => exact absurd rfl hne
  | cons v vs ih =>
      rw [List.length_cons] at hi ⊢
      have hofNat : (Int32.ofNat i).toInt = i :=
        Int32.toInt_ofNat_of_lt (by omega)
      have hindex : (address + Int32.ofNat i).toInt = address.toInt + i := by
        rw [toInt_add_of_le (by omega) (by omega), hofNat]
      rw [packLoop] at h
      by_cases hlt : address.toInt + i < 513
      · have hn : address.toInt.toNat + i < 513 := by omega
        rw [bind_of_ok (storeShadow_of_lt hn (by omega) d)] at h
        cases vs with
        | nil =>
            rw [List.length_nil]
            omega
        | cons w ws =>
            have := ih (List.cons_ne_nil _ _) (by omega) h
            omega
      · have herror : storeShadow (address + Int32.ofNat i) (v &&& 0xff) d =
            .error (.thrown .arrayIndexOutOfBoundsException) d := by
          unfold storeShadow
          rw [dif_neg (by omega)]
          rfl
        rw [bind_of_error herror] at h
        cases h

/-! ## Register writes -/

theorem length_format08x (val : Int32) : (format08x val).length = 8 :=
  HexText.length_padded (by decide) val.toBitVec.isLt

theorem writeReg_eq (reg : SysFile) (val : Int32) :
    writeReg reg val = filesWrite reg (format08x val ++ ['\x00']) := by
  have hlength : (format08x val ++ ['\x00']).length = 9 := by
    rw [List.length_append, length_format08x]
    rfl
  unfold writeReg
  simp only [ne_eq, hlength, not_true_eq_false, if_false]

/-- The driver after some more completed writes. -/
def record (d : DefaultDMX) (writes : List SysWrite) : DefaultDMX :=
  { d with sysfs := d.sysfs ++ writes }

/-- The driver after its shadow has taken some values. -/
def store (d : DefaultDMX) (address : Int32) (values : List Int32) :
    DefaultDMX :=
  { d with dmxShadow := storeValues address.toInt.toNat values d.dmxShadow }

theorem NoFault.record {d : DefaultDMX} (h : NoFault d)
    (writes : List SysWrite) : NoFault (d.record writes) := h

theorem NoFault.store {d : DefaultDMX} (h : NoFault d) (address : Int32)
    (values : List Int32) : NoFault (d.store address values) := h

theorem record_record (d : DefaultDMX) (xs ys : List SysWrite) :
    (d.record xs).record ys = d.record (xs ++ ys) := by
  unfold record
  rw [List.append_assoc]

theorem writeReg_of_noFault {d : DefaultDMX} (h : NoFault d) (reg : SysFile)
    (val : Int32) :
    writeReg reg val d =
      .ok () (d.record [⟨reg, format08x val ++ ['\x00']⟩]) := by
  obtain ⟨shadow, sysfs, fault⟩ := d
  cases h
  rw [writeReg_eq]
  rfl

/-- The register writes of an accepted `setDMX`. -/
def sendCommand (address : Int32) (values : List Int32) :
    Run DefaultDMX Unit := do
  writeReg .data (packed 0 0 values)
  writeReg .addr address
  writeReg .size (Int32.ofNat values.length)
  writeReg .ctrl 0x1

theorem sendCommand_of_noFault {d : DefaultDMX} (h : NoFault d)
    (address : Int32) (values : List Int32) :
    sendCommand address values d =
      .ok () (d.record (messages address values)) := by
  unfold sendCommand
  rw [bind_of_ok (writeReg_of_noFault h _ _),
    bind_of_ok (writeReg_of_noFault (h.record _) _ _),
    bind_of_ok (writeReg_of_noFault ((h.record _).record _) _ _),
    writeReg_of_noFault (((h.record _).record _).record _) _ _]
  simp only [record_record]
  rfl

/-! ## The checks of `setDMX` -/

/-- The arguments that pass the checks of `setDMX`. -/
structure Checked (address : Int32) (values : List Int32) : Prop where
  one_le : 1 ≤ address.toInt
  le_512 : address.toInt ≤ 512
  length_pos : 1 ≤ values.length
  length_le : values.length ≤ 4
  isByte : ∀ v ∈ values, IsByte v

instance (address : Int32) (values : List Int32) :
    Decidable (Checked address values) :=
  decidable_of_iff (1 ≤ address.toInt ∧ address.toInt ≤ 512 ∧
      1 ≤ values.length ∧ values.length ≤ 4 ∧ ∀ v ∈ values, IsByte v)
    ⟨fun ⟨hone, hle, hpos, hfour, hbyte⟩ => ⟨hone, hle, hpos, hfour, hbyte⟩,
      fun ⟨hone, hle, hpos, hfour, hbyte⟩ => ⟨hone, hle, hpos, hfour, hbyte⟩⟩

theorem Accepts.checked {address : Int32} {values : List Int32}
    (h : Accepts address values) : Checked address values := by
  obtain ⟨hone, hle, hpos, hfour, hbyte⟩ := h
  exact ⟨hone, by omega, hpos, hfour, hbyte⟩

/-- What `setDMX` does when the checks have passed. -/
theorem Checked.setDMX_eq {address : Int32} {values : List Int32}
    (h : Checked address values) :
    setDMX address values = (do
      let dataVal ← packLoop address 0 0 values
      writeReg .data dataVal
      writeReg .addr address
      writeReg .size (Int32.ofNat values.length)
      writeReg .ctrl 0x1) := by
  obtain ⟨hone, hle, hpos, hfour, hbyte⟩ := h
  have h512 : (512 : Int32).toInt = 512 := rfl
  have h255 : (255 : Int32).toInt = 255 := rfl
  have h0 : (0 : Int32).toInt = 0 := rfl
  have haddress : ¬ (address ≤ 0 ∨ address > 512) := by
    simp only [gt_iff_lt, Int32.lt_iff_toInt_lt, Int32.le_iff_toInt_le]
    omega
  have hany : ¬ (values.any fun val => val < 0 || val > 255) = true := by
    simp only [List.any_eq_true, Bool.or_eq_true, decide_eq_true_eq,
      gt_iff_lt, Int32.lt_iff_toInt_lt, not_exists, not_and]
    intro v hv
    have := hbyte v hv
    unfold IsByte at this
    omega
  unfold setDMX
  rw [if_neg haddress, if_neg (by omega), if_neg (by omega), if_neg hany]

theorem Accepts.setDMX_eq {address : Int32} {values : List Int32}
    (h : Accepts address values) (d : DefaultDMX) :
    setDMX address values d =
      sendCommand address values (d.store address values) := by
  obtain ⟨hone, hle, hpos, hfour, hbyte⟩ := id h
  rw [h.checked.setDMX_eq,
    bind_of_ok (packLoop_eq values hbyte hone 0 (by omega) 0 d)]
  rfl

/-- Without faults an accepted call stores its values and sends its four
messages. -/
theorem Accepts.setDMX_of_noFault {address : Int32} {values : List Int32}
    (h : Accepts address values) {d : DefaultDMX} (hd : NoFault d) :
    setDMX address values d =
      .ok () ((d.store address values).record (messages address values)) := by
  rw [h.setDMX_eq]
  exact sendCommand_of_noFault (hd.store _ _) address values

/-- Arguments that do not pass the checks change nothing. -/
theorem setDMX_of_not_checked {address : Int32} {values : List Int32}
    (h : ¬ Checked address values) (d : DefaultDMX) :
    ∃ message, setDMX address values d =
      .error (.thrown (.illegalArgumentException message)) d := by
  have h512 : (512 : Int32).toInt = 512 := rfl
  have h255 : (255 : Int32).toInt = 255 := rfl
  have h0 : (0 : Int32).toInt = 0 := rfl
  unfold setDMX
  by_cases haddress : address ≤ 0 ∨ address > 512
  · rw [if_pos haddress]
    exact ⟨_, rfl⟩
  rw [if_neg haddress]
  by_cases hzero : values.length = 0
  · rw [if_pos hzero]
    exact ⟨_, rfl⟩
  rw [if_neg hzero]
  by_cases hfour : values.length > 4
  · rw [if_pos hfour]
    exact ⟨_, rfl⟩
  rw [if_neg hfour]
  by_cases hany : (values.any fun val => val < 0 || val > 255) = true
  · rw [if_pos hany]
    exact ⟨_, rfl⟩
  simp only [gt_iff_lt, Int32.lt_iff_toInt_lt, Int32.le_iff_toInt_le]
    at haddress
  simp only [List.any_eq_true, Bool.or_eq_true, decide_eq_true_eq,
    gt_iff_lt, Int32.lt_iff_toInt_lt, not_exists, not_and] at hany
  refine absurd ⟨by omega, by omega, by omega, by omega, fun v hv => ?_⟩ h
  have := hany v hv
  unfold IsByte
  omega

/-- A call that returns normally was accepted. -/
theorem accepts_of_setDMX_eq_ok {address : Int32} {values : List Int32}
    {d d' : DefaultDMX} (h : setDMX address values d = .ok () d') :
    Accepts address values := by
  by_cases hchecked : Checked address values
  · obtain ⟨hone, hle, hpos, hfour, hbyte⟩ := id hchecked
    rw [hchecked.setDMX_eq] at h
    cases hloop : packLoop address 0 0 values d with
    | error e d₁ =>
        rw [bind_of_error hloop] at h
        cases h
    | ok r d₁ =>
        have hne : values ≠ [] := by
          rintro rfl
          exact absurd hpos (by decide)
        have := le_of_packLoop_eq_ok hne hone hle (by omega) hloop
        exact ⟨hone, by omega, hpos, hfour, hbyte⟩
  · obtain ⟨message, herror⟩ := setDMX_of_not_checked hchecked d
    rw [herror] at h
    cases h

/-! ## What `setDMX` keeps -/

section Kept

variable {pre : (Fin 513 → Int32) → Prop}

/-- A write keeps the shadow and fails only with an `IOException`. -/
theorem filesWrite_triple (reg : SysFile) (buf : List Char) :
    Triple (fun d => pre d.dmxShadow) (filesWrite reg buf)
      (fun _ d => pre d.dmxShadow)
      (fun e d => pre d.dmxShadow ∧ e.IsIOException) := by
  intro d hd
  cases hfault : d.fault 0 with
  | false =>
      have hrun : filesWrite reg buf d = .ok ()
          { d with
            sysfs := d.sysfs ++ [⟨reg, buf⟩]
            fault := fun n => d.fault (n + 1) } := by
        show (if d.fault 0 = true then _ else _ : Run DefaultDMX Unit) _ = _
        rw [hfault]
        rfl
      rw [hrun]
      exact hd
  | true =>
      have hrun : filesWrite reg buf d =
          .error (.thrown (.ioException reg.path))
            { d with fault := fun n => d.fault (n + 1) } := by
        show (if d.fault 0 = true then _ else _ : Run DefaultDMX Unit) _ = _
        rw [hfault]
        rfl
      rw [hrun]
      exact ⟨hd, _, rfl⟩

theorem writeReg_triple (reg : SysFile) (val : Int32) :
    Triple (fun d => pre d.dmxShadow) (writeReg reg val)
      (fun _ d => pre d.dmxShadow)
      (fun e d => pre d.dmxShadow ∧ e.IsIOException) := by
  rw [writeReg_eq]
  exact filesWrite_triple reg _

theorem sendCommand_triple (address : Int32) (values : List Int32) :
    Triple (fun d => pre d.dmxShadow) (sendCommand address values)
      (fun _ d => pre d.dmxShadow)
      (fun e d => pre d.dmxShadow ∧ e.IsIOException) :=
  (writeReg_triple _ _).bind fun _ => (writeReg_triple _ _).bind fun _ =>
    (writeReg_triple _ _).bind fun _ => writeReg_triple _ _

/-- Accepted arguments fail only with an `IOException`. -/
theorem Accepts.isIOException {address : Int32} {values : List Int32}
    (h : Accepts address values) {d d' : DefaultDMX} {e : Abrupt}
    (he : setDMX address values d = .error e d') : e.IsIOException := by
  rw [h.setDMX_eq] at he
  have hsend := @sendCommand_triple (fun _ => True) address values
  exact (hsend.of_error trivial he).2

variable
  (hupdate : ∀ shadow index v, IsByte v → pre shadow →
    pre (Function.update shadow index v))

include hupdate

theorem storeShadow_triple (index : Int32) {value : Int32}
    (hvalue : IsByte value) :
    Triple (fun d => pre d.dmxShadow) (storeShadow index value)
      (fun _ d => pre d.dmxShadow) (fun _ d => pre d.dmxShadow) := by
  intro d hd
  unfold storeShadow
  by_cases h : 0 ≤ index.toInt ∧ index.toInt < 513
  · rw [dif_pos h]
    exact hupdate _ _ _ hvalue hd
  · rw [dif_neg h]
    exact hd

theorem packLoop_triple (address : Int32) (values : List Int32)
    (hvalues : ∀ v ∈ values, IsByte v) (i : ℕ) (dataVal : Int32) :
    Triple (fun d => pre d.dmxShadow) (packLoop address i dataVal values)
      (fun _ d => pre d.dmxShadow) (fun _ d => pre d.dmxShadow) := by
  induction values generalizing i dataVal with
  | nil => exact Triple.pure fun _ hd => hd
  | cons v vs ih =>
      have hv := hvalues v (List.mem_cons_self ..)
      rw [packLoop, hv.and_0xff]
      exact (storeShadow_triple hupdate _ hv).bind fun _ =>
        ih (fun w hw => hvalues w (List.mem_cons_of_mem _ hw)) _ _

/-- Whatever its arguments, `setDMX` stores only bytes in the shadow. -/
theorem setDMX_triple (address : Int32) (values : List Int32) :
    Triple (fun d => pre d.dmxShadow) (setDMX address values)
      (fun _ d => pre d.dmxShadow)
      (fun e d => pre d.dmxShadow ∧
        (Accepts address values → e.IsIOException)) := by
  have hkept : Triple (fun d => pre d.dmxShadow) (setDMX address values)
      (fun _ d => pre d.dmxShadow) (fun _ d => pre d.dmxShadow) := by
    intro d hd
    by_cases hchecked : Checked address values
    · rw [hchecked.setDMX_eq]
      have hwrite : ∀ reg val, Triple (fun d => pre d.dmxShadow)
          (writeReg reg val) (fun _ d => pre d.dmxShadow)
          (fun _ d => pre d.dmxShadow) := fun reg val =>
        (writeReg_triple reg val).conseq (fun _ h => h) (fun _ _ h => h)
          fun _ _ h => h.1
      exact ((packLoop_triple hupdate address values hchecked.isByte 0 0).bind
        fun _ => (hwrite _ _).bind fun _ => (hwrite _ _).bind
          fun _ => (hwrite _ _).bind fun _ => hwrite _ _) d hd
    · obtain ⟨message, herror⟩ := setDMX_of_not_checked hchecked d
      rw [herror]
      exact hd
  intro d hd
  cases hrun : setDMX address values d with
  | ok u d' => exact hkept.of_ok hd hrun
  | error e d' =>
      exact ⟨hkept.of_error hd hrun, fun h => h.isIOException hrun⟩

end Kept

end ChuckLight.DefaultDMX
