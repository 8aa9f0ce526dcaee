import ChuckLight.Support.Hex
import Mathlib.Data.BitVec

/-!
# The sysfs write functions of the kernel driver

Each `ece453_write_*` function of `ece453_driver.c` scans its text with
`sscanf(buf, "%xu", &var)` and writes the result to one register with
`iowrite32`.  They differ in the register only.
-/

namespace ChuckLight.Kernel

open HexText

/-! ## Register addresses -/

def ece453ControlOffset : BitVec 4 := 1
def ece453ImOffset : BitVec 4 := 3
def ece453IrqOffset : BitVec 4 := 4
def ece453GpioOutOffset : BitVec 4 := 6
def ece453DmxAddrOffset : BitVec 4 := 8
def ece453DmxDataOffset : BitVec 4 := 9
def ece453DmxSizeOffset : BitVec 4 := 10

/-! ## Scanning -/

/-- White space, as `isspace` of the kernel has it. -/
def isSpace (c : Char) : Bool :=
  c = ' ' || ('\t' ≤ c && c ≤ '\r')

/-- The radix prefix that the hexadecimal conversion skips. -/
def skipRadix : List Char → List Char
  | '0' :: 'x' :: cs => cs
  | '0' :: 'X' :: cs => cs
  | cs => cs

/-- `sscanf(buf, "%xu", &var)` on the text of a buffer: white space is skipped,
then the longest hexadecimal number is read, modulo the width of `var`.  The
literal `u` of the format has no effect on `var`.  Without a digit nothing is
converted and `var` keeps no defined value. -/
def sscanfXu (buf : List Char) : Option (BitVec 32) :=
  match buf.dropWhile isSpace with
  | [] => none
  | c :: cs =>
      if (hexVal c).isSome then
        some (BitVec.ofNat 32 (readHex 0 (skipRadix (c :: cs))))
      else none

/-- `iowrite32` to a register of the peripheral. -/
structure IoWrite where
  offset : BitVec 4
  value : BitVec 32
  deriving DecidableEq

/-- The common body of the write functions. -/
def ece453Write (offset : BitVec 4) (buf : List Char) : Option IoWrite :=
  (sscanfXu buf).map fun value => ⟨offset, value⟩

def ece453WriteControl := ece453Write ece453ControlOffset
def ece453WriteIm := ece453Write ece453ImOffset
def ece453WriteIrq := ece453Write ece453IrqOffset
def ece453WriteGpioOut := ece453Write ece453GpioOutOffset
def ece453WriteDmxAddr := ece453Write ece453DmxAddrOffset
def ece453WriteDmxData := ece453Write ece453DmxDataOffset
def ece453WriteDmxSize := ece453Write ece453DmxSizeOffset

/-! ## Scanning eight digits -/

theorem hexVal_eq_none_of_isSpace {c : Char} (h : isSpace c = true) :
    hexVal c = none := by
  have hc : c.toNat ≤ 32 := by
    rcases Bool.or_eq_true_iff.mp h with hblank | hcontrol
    · rw [of_decide_eq_true hblank]
      decide
    · have hle := of_decide_eq_true (Bool.and_eq_true_iff.mp hcontrol).2
      have hle' : c.toNat ≤ '\r'.toNat := hle
      have hr : '\r'.toNat = 13 := rfl
      omega
  have hlow : ∀ b : Char, 32 < b.toNat → ¬ b ≤ c := by
    intro b hb hle
    have hle' : b.toNat ≤ c.toNat := hle
    omega
  rw [hexVal, if_neg fun hdigit => hlow '0' (by decide) hdigit.1,
    if_neg fun hlower => hlow 'a' (by decide) hlower.1,
    if_neg fun hupper => hlow 'A' (by decide) hupper.1]

theorem dropWhile_isSpace_of_hexVal {c : Char} (h : (hexVal c).isSome)
    (cs : List Char) : (c :: cs).dropWhile isSpace = c :: cs := by
  apply List.dropWhile_cons_of_neg
  intro hspace
  rw [hexVal_eq_none_of_isSpace hspace] at h
  exact Bool.noConfusion h

/-- A text that starts with two hexadecimal digits has no radix prefix. -/
theorem skipRadix_of_hexVal {b c : Char} (hc : (hexVal c).isSome)
    (cs : List Char) : skipRadix (b :: c :: cs) = b :: c :: cs := by
  have hx : c ≠ 'x' := by
    rintro rfl
    exact absurd hc (by decide)
  have hX : c ≠ 'X' := by
    rintro rfl
    exact absurd hc (by decide)
  unfold skipRadix
  split
  · rename_i heq
    injection heq with _ heq
    injection heq with heq _
    exact absurd heq hx
  · rename_i heq
    injection heq with _ heq
    injection heq with heq _
    exact absurd heq hX
  · rfl

/-- The scan of a number of at least two digits stops at the terminator. -/
theorem sscanfXu_of_hexVal {b c : Char} (cs : List Char)
    (hb : (hexVal b).isSome) (hc : (hexVal c).isSome) :
    sscanfXu (b :: c :: cs) =
      some (BitVec.ofNat 32 (readHex 0 (b :: c :: cs))) := by
  rw [sscanfXu, dropWhile_isSpace_of_hexVal hb]
  show (if (hexVal b).isSome then _ else _) = _
  rw [if_pos hb, skipRadix_of_hexVal hc]

/-- The scan of an eight digit number followed by a terminator. -/
theorem sscanfXu_padded (v : BitVec 32) :
    sscanfXu (padded 8 v.toNat ++ ['\x00']) = some v := by
  have hread : readHex 0 (padded 8 v.toNat ++ ['\x00']) = v.toNat := by
    rw [readHex_padded_append]
    exact readHex_cons_of_none (by decide) _ _
  have hlen : (padded 8 v.toNat).length = 8 :=
    length_padded (by decide) v.isLt
  have hdigit : ∀ c ∈ padded 8 v.toNat, (hexVal c).isSome :=
    fun c hc => hexVal_isSome_of_mem_padded hc
  revert hread hlen hdigit
  rcases padded 8 v.toNat with _ | ⟨b, _ | ⟨c, cs⟩⟩
  · intro _ hlen
    simp at hlen
  · intro _ hlen
    simp at hlen
  · intro hread _ hdigit
    have hscan := sscanfXu_of_hexVal (cs ++ ['\x00'])
      (hdigit b (by simp)) (hdigit c (by simp))
    rw [List.cons_append, List.cons_append] at hread ⊢
    rw [hscan, hread, BitVec.ofNat_toNat, BitVec.setWidth_eq]

/-- What is written as eight digits reaches the register. -/
theorem ece453Write_padded (offset : BitVec 4) (v : BitVec 32) :
    ece453Write offset (padded 8 v.toNat ++ ['\x00']) = some ⟨offset, v⟩ := by
  rw [ece453Write, sscanfXu_padded]
  rfl

end ChuckLight.Kernel
