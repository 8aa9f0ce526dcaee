import ChuckLight.Support.Hex
import ChuckLight.Support.Java
import Mathlib.Data.Fintype.Basic
import Mathlib.Logic.Function.Basic
import Mathlib.Tactic.SplitIfs

/-!
# The DMX driver

`DefaultDMX` of the server writes the registers of the peripheral through sys
files and keeps a shadow of the DMX values.  `setDMX` is the only method that
writes; the bulk methods call it for groups of four addresses.
-/

namespace ChuckLight.DefaultDMX

open Java

/-! ## The sys files -/

inductive SysFile where
  | addr
  | data
  | size
  | ctrl
  | stat
  deriving DecidableEq, Repr

def SysFile.path : SysFile → String
  | .addr => "/sys/kernel/ece453/dmx_addr"
  | .data => "/sys/kernel/ece453/dmx_data"
  | .size => "/sys/kernel/ece453/dmx_size"
  | .ctrl => "/sys/kernel/ece453/control"
  | .stat => "/sys/kernel/ece453/status"

/-- A completed write of a text to a sys file. -/
structure SysWrite where
  reg : SysFile
  buf : List Char
  deriving DecidableEq

end DefaultDMX

/-- The driver, the writes that it has completed, and which of its future
writes will fail. -/
structure DefaultDMX where
  dmxShadow : Fin 513 → Int32
  sysfs : List DefaultDMX.SysWrite
  fault : ℕ → Bool

namespace DefaultDMX

open Java

/-- No future write fails. -/
def NoFault (d : DefaultDMX) : Prop := d.fault = fun _ => false

/-- `String.format("%08x", val)`. -/
def format08x (val : Int32) : List Char := HexText.padded 8 val.toBitVec.toNat

/-! ## Methods -/

/-- `Files.write(reg, buf, StandardOpenOption.SYNC)`. -/
def filesWrite (reg : SysFile) (buf : List Char) : Run DefaultDMX Unit := do
  let d ← get
  set { d with fault := fun n => d.fault (n + 1) }
  if d.fault 0 then throwNew (.ioException reg.path)
  else modify fun d => { d with sysfs := d.sysfs ++ [⟨reg, buf⟩] }

def writeReg (reg : SysFile) (val : Int32) : Run DefaultDMX Unit := do
  let buf := format08x val ++ ['\x00']
  if buf.length ≠ 9 then
    throwNew (.illegalArgumentException
      ("buffer length was " ++ toString buf.length ++ " from value " ++
        String.ofList (format08x val) ++ " when trying to write to " ++
        reg.path))
  else filesWrite reg buf

/-- `dmxShadow[index] = value`. -/
def storeShadow (index value : Int32) : Run DefaultDMX Unit :=
  if h : 0 ≤ index.toInt ∧ index.toInt < 513 then
    modify fun d =>
      { d with
        dmxShadow := Function.update d.dmxShadow
          ⟨index.toInt.toNat, by omega⟩ value }
  else throwNew .arrayIndexOutOfBoundsException

/-- The packing loop of `setDMX` from its `i`th round on. -/
def packLoop (address : Int32) :
    ℕ → Int32 → List Int32 → Run DefaultDMX Int32
  | _, dataVal, [] => pure dataVal
  | i, dataVal, value :: values => do
      let bitOffset := 8 * Int32.ofNat i
      let currVal := value &&& 0xff
      storeShadow (address + Int32.ofNat i) currVal
      packLoop address (i + 1) (dataVal + (currVal <<< bitOffset)) values

def setDMX (address : Int32) (values : List Int32) : Run DefaultDMX Unit := do
  if address ≤ 0 ∨ address > 512 then
    throwNew (.illegalArgumentException "DMX address must be within [1:512]")
  else if values.length = 0 then
    throwNew (.illegalArgumentException "Must supply at least one value.")
  else if values.length > 4 then
    throwNew (.illegalArgumentException "Must supply at most four values.")
  else if values.any fun val => val < 0 || val > 255 then
    throwNew (.illegalArgumentException "DMX values must be within [0:255]")
  else do
    let dataVal ← packLoop address 0 0 values
    writeReg .data dataVal
    writeReg .addr address
    writeReg .size (Int32.ofNat values.length)
    writeReg .ctrl 0x1

/-- The counter of `for (int i = 1; i < 512; i = i + 4)`. -/
def groupStarts : List ℕ := List.range' 1 128 4

/-- `setDMX(int[])`. -/
def setAllDMX (values : List Int32) : Run DefaultDMX Unit := do
  if values.length ≠ 513 then
    throwNew (.illegalArgumentException
      "values array must be 513 elements long")
  else
    groupStarts.forM fun i => do
      let v₀ ← arrayGet values i
      let v₁ ← arrayGet values (i + 1)
      let v₂ ← arrayGet values (i + 2)
      let v₃ ← arrayGet values (i + 3)
      setDMX (Int32.ofNat i) [v₀, v₁, v₂, v₃]

def clearDMX : Run DefaultDMX Unit :=
  groupStarts.forM fun i => setDMX (Int32.ofNat i) [0, 0, 0, 0]

/-- `dmxShadow[index]`. -/
def loadShadow (index : Int32) : Run DefaultDMX Int32 := do
  if h : 0 ≤ index.toInt ∧ index.toInt < 513 then
    return (← get).dmxShadow ⟨index.toInt.toNat, by omega⟩
  else throwNew .arrayIndexOutOfBoundsException

def getDMX (address : Int32) : Run DefaultDMX Int32 := do
  if address ≤ 0 ∨ address > 512 then
    throwNew (.illegalArgumentException "DMX address must be within [1:512]")
  else loadShadow address

def getDmx : Run DefaultDMX (List Int32) := do
  return List.ofFn (← get).dmxShadow

/-- The constructor, on a new object. -/
def create (isWritable isReadable : SysFile → Bool) : Run DefaultDMX Unit := do
  if !isWritable .addr then
    throwNew (.ioException (SysFile.addr.path ++ " not writable."))
  else if !isWritable .data then
    throwNew (.ioException (SysFile.data.path ++ " not writable."))
  else if !isWritable .size then
    throwNew (.ioException (SysFile.size.path ++ " not writable."))
  else if !isWritable .ctrl then
    throwNew (.ioException (SysFile.ctrl.path ++ " not writable."))
  else if !isReadable .stat then
    throwNew (.ioException (SysFile.stat.path ++ " not readable."))
  else do
    modify fun d => { d with dmxShadow := fun _ => 0 }
    clearDMX

/-! ## What the driver accepts -/

/-- The arguments with which `setDMX` completes. -/
structure Accepts (address : Int32) (values : List Int32) : Prop where
  one_le : 1 ≤ address.toInt
  le_513 : address.toInt + values.length ≤ 513
  length_pos : 1 ≤ values.length
  length_le : values.length ≤ 4
  isByte : ∀ v ∈ values, IsByte v

/-- The value that `values`, stored from `address` on, supply for `a`. -/
def covered (address : ℕ) (values : List Int32) (a : Fin 513) :
    Option Int32 :=
  if address ≤ a then values[(a : ℕ) - address]? else none

/-- The shadow after storing `values` from `address` on. -/
def storeValues (address : ℕ) (values : List Int32)
    (shadow : Fin 513 → Int32) : Fin 513 → Int32 :=
  fun a => (covered address values a).getD (shadow a)

/-- The word into which the packing loop packs the values. -/
def packed : ℕ → Int32 → List Int32 → Int32
  | _, dataVal, [] => dataVal
  | i, dataVal, v :: vs =>
      packed (i + 1) (dataVal + (v &&& 0xff) <<< (8 * Int32.ofNat i)) vs

/-- The four register writes of an accepted `setDMX`. -/
def messages (address : Int32) (values : List Int32) : List SysWrite :=
  [⟨.data, format08x (packed 0 0 values) ++ ['\x00']⟩,
    ⟨.addr, format08x address ++ ['\x00']⟩,
    ⟨.size, format08x (Int32.ofNat values.length) ++ ['\x00']⟩,
    ⟨.ctrl, format08x 0x1 ++ ['\x00']⟩]

theorem covered_cons (address : ℕ) (v : Int32) (vs : List Int32)
    (a : Fin 513) :
    covered address (v :: vs) a =
      if address = a then some v else covered (address + 1) vs a := by
  unfold covered
  by_cases heq : address = a
  · rw [if_pos (by omega), if_pos heq]
    have hsub : (a : ℕ) - address = 0 := by omega
    rw [hsub]
    rfl
  · rw [if_neg heq]
    by_cases hle : address ≤ a
    · have hsub : (a : ℕ) - address = (a : ℕ) - (address + 1) + 1 := by omega
      rw [if_pos hle, if_pos (by omega), hsub]
      rfl
    · rw [if_neg hle, if_neg (by omega)]

theorem covered_of_getElem? {address k : ℕ} {values : List Int32} {v : Int32}
    {a : Fin 513} (ha : (a : ℕ) = address + k) (hv : values[k]? = some v) :
    covered address values a = some v := by
  rw [covered, if_pos (by omega), ha, Nat.add_sub_cancel_left, hv]

theorem covered_eq_none {address : ℕ} {values : List Int32} {a : Fin 513}
    (h : (a : ℕ) < address ∨ address + values.length ≤ a) :
    covered address values a = none := by
  unfold covered
  split_ifs with hle
  · exact List.getElem?_eq_none (by omega)
  · rfl

end DefaultDMX

end ChuckLight
