import ChuckLight.DmxModule.Device
import ChuckLight.DmxModule.Outputs
import ChuckLight.Support.LatestWrite

/-!
# The register files

The kernel driver shows each register of the peripheral as a file, and the
library of the applications reads and writes these files as numbers.  A file
whose register belongs to the software is a variable: it holds the number that
was last written to it.  The registers `status`, `irq` and `gpio_in` change by
themselves.
-/

namespace ChuckLight.Kernel

open Ece453 (Regs Inputs IdleCycles)
open HexText LatestWrite

/-! ## The read functions of the driver -/

def ece453DevIdOffset : BitVec 4 := 0
def ece453StatusOffset : BitVec 4 := 2
def ece453GpioInOffset : BitVec 4 := 5

/-- The common body of the read functions: `ioread32`, then
`sprintf(buf, "%08x\n", val)`. -/
def ece453Read (offset : BitVec 4) (regs : Regs) : List Char :=
  padded 8 (Ece453.slaveReaddata regs offset true).toNat ++ ['\n']

def ece453ReadDeviceId := ece453Read ece453DevIdOffset
def ece453ReadControl := ece453Read ece453ControlOffset
def ece453ReadStatus := ece453Read ece453StatusOffset
def ece453ReadIm := ece453Read ece453ImOffset
def ece453ReadIrq := ece453Read ece453IrqOffset
def ece453ReadGpioIn := ece453Read ece453GpioInOffset
def ece453ReadGpioOut := ece453Read ece453GpioOutOffset
def ece453ReadDmxAddr := ece453Read ece453DmxAddrOffset
def ece453ReadDmxData := ece453Read ece453DmxDataOffset
def ece453ReadDmxSize := ece453Read ece453DmxSizeOffset

/-! ## The files -/

/-- The attributes that stand for registers. -/
inductive RegFile where
  | deviceId
  | control
  | status
  | interruptMask
  | irq
  | gpioIn
  | gpioOut
  | dmxAddr
  | dmxData
  | dmxSize
  deriving DecidableEq

/-- The `show` function of an attribute. -/
def RegFile.read : RegFile → Regs → List Char
  | .deviceId => ece453ReadDeviceId
  | .control => ece453ReadControl
  | .status => ece453ReadStatus
  | .interruptMask => ece453ReadIm
  | .irq => ece453ReadIrq
  | .gpioIn => ece453ReadGpioIn
  | .gpioOut => ece453ReadGpioOut
  | .dmxAddr => ece453ReadDmxAddr
  | .dmxData => ece453ReadDmxData
  | .dmxSize => ece453ReadDmxSize

/-- The `store` function of an attribute; the files without one cannot be
opened for writing. -/
def RegFile.write : RegFile → List Char → Option IoWrite
  | .control => ece453WriteControl
  | .interruptMask => ece453WriteIm
  | .irq => ece453WriteIrq
  | .gpioOut => ece453WriteGpioOut
  | .dmxAddr => ece453WriteDmxAddr
  | .dmxData => ece453WriteDmxData
  | .dmxSize => ece453WriteDmxSize
  | _ => fun _ => none

/-! ## The library of the applications -/

/-- `strtoul` with base 16, without the sign. -/
def strtoulDigits (text : List Char) : BitVec 32 :=
  BitVec.ofNat 32 (min (readHex 0 (skipRadix text)) (2 ^ 32 - 1))

/-- `strtoul(text, NULL, 16)`. -/
def strtoul16 (text : List Char) : BitVec 32 :=
  match text.dropWhile isSpace with
  | '-' :: cs => -strtoulDigits cs
  | '+' :: cs => strtoulDigits cs
  | cs => strtoulDigits cs

/-- The first eight characters of the file, as a number. -/
def ece453RegRead (file : RegFile) (regs : Regs) : BitVec 32 :=
  strtoul16 ((file.read regs).take 8)

/-- The text of the number, with its terminator. -/
def ece453RegWrite (file : RegFile) (value : BitVec 32) : Option IoWrite :=
  file.write (padded 8 value.toNat ++ ['\x00'])

/-! ## Accesses -/

/-- An access to a file, the pins in its bus cycle, and the idle bus cycles up
to the next access. -/
inductive Access where
  | write (file : RegFile) (value pins : BitVec 32) (idle : List Inputs)
  | read (file : RegFile) (pins : BitVec 32) (idle : List Inputs)

def Access.idle : Access → List Inputs
  | .write _ _ _ idle => idle
  | .read _ _ idle => idle

/-- The bus cycles of an access. -/
def Access.cycles : Access → List Inputs
  | .write file value pins idle =>
      ((ece453RegWrite file value).map fun w =>
        (⟨w.offset, true, w.value, pins⟩ : Inputs)).toList ++ idle
  | .read _ pins idle => ⟨0, false, 0, pins⟩ :: idle

theorem Access.cycles_write (file : RegFile) (value pins : BitVec 32)
    (idle : List Inputs) : (Access.write file value pins idle).cycles =
      ((ece453RegWrite file value).map fun w =>
        (⟨w.offset, true, w.value, pins⟩ : Inputs)).toList ++ idle := rfl

/-- The registers after an access. -/
def Access.run (regs : Regs) (a : Access) : Regs := Ece453.run regs a.cycles

/-- The register of a file that belongs to the software, less the bit of
CONTROL that clears itself. -/
def RegFile.contents : RegFile → Regs → BitVec 32
  | .deviceId => Regs.devIdR
  | .control => fun regs => regs.controlR &&& ~~~Ece453.controlDmxStartMask
  | .status => Regs.statusR
  | .interruptMask => Regs.imR
  | .irq => Regs.irqR
  | .gpioIn => Regs.gpioInR
  | .gpioOut => Regs.gpioOutR
  | .dmxAddr => Regs.dmxAddrR
  | .dmxData => Regs.dmxDataR
  | .dmxSize => Regs.dmxSizeR

/-- The files that only the software changes. -/
def RegFile.Plain (file : RegFile) : Prop :=
  file ≠ .status ∧ file ≠ .irq ∧ file ≠ .gpioIn

instance (file : RegFile) : Decidable file.Plain :=
  inferInstanceAs (Decidable (_ ∧ _ ∧ _))

/-- The register address behind a file. -/
def RegFile.offset : RegFile → BitVec 4
  | .deviceId => ece453DevIdOffset
  | .control => ece453ControlOffset
  | .status => ece453StatusOffset
  | .interruptMask => ece453ImOffset
  | .irq => ece453IrqOffset
  | .gpioIn => ece453GpioInOffset
  | .gpioOut => ece453GpioOutOffset
  | .dmxAddr => ece453DmxAddrOffset
  | .dmxData => ece453DmxDataOffset
  | .dmxSize => ece453DmxSizeOffset

/-- What a register makes of a value that the bus writes to it. -/
def RegFile.keeps (file : RegFile) (value old : BitVec 32) : BitVec 32 :=
  match file with
  | .deviceId => old
  | .control => value &&& ~~~Ece453.controlDmxStartMask
  | _ => value

/-- The value that an access leaves in a file. -/
def Access.supplies : Access → RegFile → Option (BitVec 32)
  | .write file value _ _, file' =>
      if file = file' ∧ file ≠ .deviceId then some (file.keeps value 0)
      else none
  | .read _ _ _, _ => none

theorem Access.supplies_write (file : RegFile) (value pins : BitVec 32)
    (idle : List Inputs) (file' : RegFile) :
    (Access.write file value pins idle).supplies file' =
      if file = file' ∧ file ≠ .deviceId then some (file.keeps value 0)
      else none := rfl

/-! ## Numbers as text -/

theorem strtoul16_padded (v : BitVec 32) :
    strtoul16 ((padded 8 v.toNat ++ ['\n']).take 8) = v := by
  have hlen : (padded 8 v.toNat).length = 8 :=
    length_padded (by decide) v.isLt
  have hread : readHex 0 (padded 8 v.toNat) = v.toNat := by
    have happend := readHex_padded_append 8 v.toNat []
    rwa [List.append_nil] at happend
  have hdigit : ∀ c ∈ padded 8 v.toNat, (hexVal c).isSome :=
    fun c hc => hexVal_isSome_of_mem_padded hc
  rw [List.take_append_of_le_length (Nat.le_of_eq hlen.symm),
    List.take_of_length_le (Nat.le_of_eq hlen)]
  revert hread hlen hdigit
  rcases padded 8 v.toNat with _ | ⟨b, _ | ⟨c, cs⟩⟩
  · intro hlen
    simp at hlen
  · intro hlen
    simp at hlen
  · intro _ hread hdigit
    have hb := hdigit b (by simp)
    have hc := hdigit c (by simp)
    have hsign : ∀ sign, hexVal sign = none → b ≠ sign := by
      rintro sign hnone rfl
      rw [hnone] at hb
      cases hb
    have hdigits : strtoulDigits (b :: c :: cs) = v := by
      have hlt := v.isLt
      unfold strtoulDigits
      rw [skipRadix_of_hexVal hc, hread, Nat.min_eq_left (by omega),
        BitVec.ofNat_toNat, BitVec.setWidth_eq]
    unfold strtoul16
    rw [dropWhile_isSpace_of_hexVal hb]
    split
    · rename_i heq
      exact absurd (List.cons.inj heq).1 (hsign '-' (by decide))
    · rename_i heq
      exact absurd (List.cons.inj heq).1 (hsign '+' (by decide))
    · exact hdigits

variable {file : RegFile} {regs : Regs}

/-- The application reads what the bus returns. -/
theorem ece453RegRead_eq (file : RegFile) (regs : Regs) :
    ece453RegRead file regs =
      Ece453.slaveReaddata regs file.offset true := by
  cases file <;> exact strtoul16_padded _

/-- A write reaches the register of its file. -/
theorem ece453RegWrite_eq {w : IoWrite} {value : BitVec 32}
    (h : ece453RegWrite file value = some w) : w = ⟨file.offset, value⟩ := by
  unfold ece453RegWrite RegFile.write at h
  cases file <;> first
    | exact (Option.some.inj ((ece453Write_padded _ value).symm.trans h)).symm
    | cases h

/-! ## The registers behind the files -/

/-- CONTROL without its START bit. -/
theorem masked_of_startBit {r : BitVec 32}
    (h : r.getLsbD Ece453.controlDmxStartBitNum = false) :
    r &&& ~~~Ece453.controlDmxStartMask = r := by
  apply BitVec.eq_of_getLsbD_eq
  intro b hb
  have hmask : Ece453.controlDmxStartMask = 1#32 := rfl
  rw [BitVec.getLsbD_and, BitVec.getLsbD_not, decide_eq_true hb,
    Bool.true_and, hmask, BitVec.getLsbD_one]
  by_cases hzero : b = 0
  · have hbit : r.getLsbD 0 = false := h
    rw [hzero, hbit]
    rfl
  · rw [decide_eq_false hzero, Bool.and_false, Bool.not_false, Bool.and_true]

theorem slaveReaddata_eq (file : RegFile)
    (hstart : regs.controlR.getLsbD Ece453.controlDmxStartBitNum = false) :
    Ece453.slaveReaddata regs file.offset true = file.contents regs := by
  cases file with
  | control => exact (masked_of_startBit hstart).symm
  | _ => rfl

/-- One bus cycle. -/
theorem contents_step (hplain : file.Plain) (regs : Regs) (i : Inputs) :
    file.contents (Ece453.step regs i) =
      if i.Writes file.offset then
        file.keeps i.slaveWritedata (file.contents regs)
      else file.contents regs := by
  cases file with
  | deviceId =>
      split_ifs <;> rfl
  | control =>
      show Ece453.controlIn regs i &&& _ = _
      unfold Ece453.controlIn
      by_cases hwrites : i.Writes Ece453.controlAddr
      · rw [if_pos hwrites]
        exact (if_pos hwrites).symm
      · rw [if_neg hwrites, BitVec.and_assoc, BitVec.and_self]
        exact (if_neg hwrites).symm
  | status => exact absurd rfl hplain.1
  | irq => exact absurd rfl hplain.2.1
  | gpioIn => exact absurd rfl hplain.2.2
  | _ => rfl

theorem contents_idle (hplain : file.Plain) (regs : Regs)
    {cycles : List Inputs} (hidle : ∀ i ∈ cycles, i.slaveWrite = false) :
    file.contents (Ece453.run regs cycles) = file.contents regs := by
  induction cycles generalizing regs with
  | nil => rfl
  | cons i rest ih =>
      have hnot : ¬ i.Writes file.offset := fun h =>
        Bool.false_ne_true ((hidle i (List.mem_cons_self ..)).symm.trans h.2)
      rw [Ece453.run_cons, ih _ fun j hj => hidle j (List.mem_cons_of_mem _ hj),
        contents_step hplain, if_neg hnot]

theorem offset_injective {file' : RegFile} (h : file.offset = file'.offset) :
    file = file' := by
  revert h
  cases file <;> cases file' <;> decide

/-- Of the files that belong to the software, only `device_id` takes no
write. -/
theorem eq_deviceId_of_plain (hplain : file.Plain) {value : BitVec 32}
    (h : ece453RegWrite file value = none) : file = .deviceId := by
  have hsome : ∀ offset, ece453Write offset
      (padded 8 value.toNat ++ ['\x00']) ≠ none := fun offset hnone =>
    Option.some_ne_none _ ((ece453Write_padded offset value).symm.trans hnone)
  cases file with
  | deviceId => rfl
  | status => exact absurd rfl hplain.1
  | irq => exact absurd rfl hplain.2.1
  | gpioIn => exact absurd rfl hplain.2.2
  | _ => exact absurd h (hsome _)

theorem keeps_of_ne (hne : file ≠ .deviceId) (value old old' : BitVec 32) :
    file.keeps value old = file.keeps value old' := by
  cases file with
  | deviceId => exact absurd rfl hne
  | _ => rfl

/-- An access sets the file that it writes, and keeps the others. -/
theorem contents_run (hplain : file.Plain) (regs : Regs) {a : Access}
    (hidle : IdleCycles a.idle) :
    file.contents (a.run regs) =
      (a.supplies file).getD (file.contents regs) := by
  cases a with
  | read file' pins idle =>
      exact contents_idle hplain regs
        (List.forall_mem_cons.mpr ⟨rfl, hidle.2⟩)
  | write file' value pins idle =>
      have hkept := fun regs => contents_idle hplain regs hidle.2
      cases hwrite : ece453RegWrite file' value with
      | none =>
          have hsupplies : (Access.write file' value pins idle).supplies
              file = none := by
            refine if_neg fun ⟨hsame, hne⟩ => hne ?_
            rw [hsame] at hwrite ⊢
            exact eq_deviceId_of_plain hplain hwrite
          have hcycles : (Access.write file' value pins idle).cycles =
              idle := by
            rw [Access.cycles_write, hwrite]
            rfl
          unfold Access.run
          rw [hsupplies, hcycles]
          exact hkept regs
      | some w =>
          have hcycles : (Access.write file' value pins idle).cycles =
              ⟨file'.offset, true, value, pins⟩ :: idle := by
            rw [Access.cycles_write, hwrite, ece453RegWrite_eq hwrite]
            rfl
          unfold Access.run
          rw [hcycles, Ece453.run_cons]
          refine (hkept _).trans ?_
          rw [contents_step hplain, Access.supplies_write]
          by_cases hsame : file' = file
          · subst hsame
            rw [if_pos ⟨rfl, rfl⟩]
            by_cases hdevice : file' = .deviceId
            · rw [if_neg fun h => h.2 hdevice, hdevice]
              rfl
            · rw [if_pos ⟨rfl, hdevice⟩]
              exact keeps_of_ne hdevice _ _ _
          · rw [if_neg fun h => hsame (offset_injective h.1),
              if_neg fun h => hsame h.1]
            rfl

/-! ## Runs -/

/-- The registers after the accesses. -/
def runAccesses (regs : Regs) (accesses : List Access) : Regs :=
  accesses.foldl Access.run regs

theorem contents_runAccesses (hplain : file.Plain) {accesses : List Access}
    (hidle : ∀ a ∈ accesses, IdleCycles a.idle) (regs : Regs) :
    file.contents (runAccesses regs accesses) =
      (latest Access.supplies accesses file).getD (file.contents regs) := by
  induction accesses generalizing regs with
  | nil => rfl
  | cons a rest ih =>
      show file.contents (runAccesses (a.run regs) rest) = _
      rw [ih (fun b hb => hidle b (List.mem_cons_of_mem _ hb)),
        contents_run hplain regs (hidle a (List.mem_cons_self ..)),
        latest_cons]
      cases latest Access.supplies rest file with
      | none => rfl
      | some v => rfl

theorem startBit_run (regs : Regs) {a : Access} (hidle : IdleCycles a.idle) :
    (a.run regs).controlR.getLsbD Ece453.controlDmxStartBitNum = false := by
  have hafter := fun regs => Ece453.startBit_of_idleCycles regs hidle
  cases a with
  | read file pins idle => exact hafter _
  | write file value pins idle =>
      unfold Access.run
      rw [Access.cycles_write, Ece453.run_append]
      exact hafter _

theorem startBit_runAccesses {accesses : List Access}
    (hidle : ∀ a ∈ accesses, IdleCycles a.idle)
    (hregs : regs.controlR.getLsbD Ece453.controlDmxStartBitNum = false) :
    (runAccesses regs accesses).controlR.getLsbD
      Ece453.controlDmxStartBitNum = false := by
  induction accesses generalizing regs with
  | nil => exact hregs
  | cons a rest ih =>
      exact ih (fun b hb => hidle b (List.mem_cons_of_mem _ hb))
        (startBit_run regs (hidle a (List.mem_cons_self ..)))

/-- A file that belongs to the software reads as the number that was last
written to it, less the START bit in the case of `control`: through the text
of the application, the scan of the kernel, the register, the text of the
kernel and the scan of the application.  Before the first write it reads as
the register does after reset. -/
theorem ece453RegRead_of_run (hplain : file.Plain) {accesses : List Access}
    (hidle : ∀ a ∈ accesses, IdleCycles a.idle) :
    ece453RegRead file (runAccesses Ece453.reset accesses) =
      (latest Access.supplies accesses file).getD
        (file.contents Ece453.reset) := by
  rw [ece453RegRead_eq, slaveReaddata_eq file (startBit_runAccesses hidle rfl),
    contents_runAccesses hplain hidle]

/-- The mask is written, then the command registers, then START. -/
def commandAccesses : List Access :=
  [.write .interruptMask 0xF0000001 0 [Ece453.busIdle],
    .write .dmxAddr 512 1 [Ece453.busIdle],
    .write .control 0x80000001 0 [Ece453.busIdle],
    .write .interruptMask 5 3 [Ece453.busIdle, Ece453.busIdle]]

theorem ece453RegRead_of_run_command :
    ece453RegRead .interruptMask
      (runAccesses Ece453.reset commandAccesses) = 5 := by
  have hidle : ∀ a ∈ commandAccesses, IdleCycles a.idle := by
    have hone : IdleCycles [Ece453.busIdle] :=
      ⟨List.cons_ne_nil _ _, List.forall_mem_singleton.mpr rfl⟩
    exact List.forall_mem_cons.mpr ⟨hone, List.forall_mem_cons.mpr
      ⟨hone, List.forall_mem_cons.mpr ⟨hone, List.forall_mem_singleton.mpr
        ⟨List.cons_ne_nil _ _, List.forall_mem_cons.mpr
          ⟨rfl, List.forall_mem_singleton.mpr rfl⟩⟩⟩⟩⟩
  exact ece453RegRead_of_run (by decide) hidle

end ChuckLight.Kernel
