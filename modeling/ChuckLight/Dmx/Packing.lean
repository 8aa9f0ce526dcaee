import ChuckLight.Dmx.DefaultDMX
import ChuckLight.DmxModule.Device
import Mathlib.Data.Nat.Digits.Lemmas

/-!
# From the driver's words to the device's bytes

The packing loop of `setDMX` adds each value at its byte offset in a signed
word.  For byte values the word is the number with these digits in base 256,
so the device finds value `k` in byte `k`, whatever the sign of the word.
-/

namespace ChuckLight.DefaultDMX

open Java
open Kernel (IoWrite)
open Ece453 (Command Device byte)

/-- The digits of a packed word. -/
def digits (values : List Int32) : List ℕ :=
  values.map fun v => v.toBitVec.toNat

theorem IsByte.toNat_lt {v : Int32} (h : IsByte v) :
    v.toBitVec.toNat < 256 := by
  have hv := toNat_toBitVec_of_nonneg h.1
  have := h.2
  omega

/-- The shift to byte `i` of a word. -/
theorem toNat_shiftLeft {v : Int32} (hv : IsByte v) {i : ℕ} (hi : i < 4) :
    (v <<< (8 * Int32.ofNat i)).toBitVec.toNat =
      v.toBitVec.toNat * 256 ^ i := by
  have hlt := IsByte.toNat_lt hv
  have hshift : ∀ n ≤ 24, (v.toBitVec <<< BitVec.ofNat 32 n).toNat =
      v.toBitVec.toNat * 2 ^ n := by
    intro n hn
    have hpow : 2 ^ n ≤ 2 ^ 24 := Nat.pow_le_pow_right (by decide) hn
    have hmul : v.toBitVec.toNat * 2 ^ n ≤ 255 * 2 ^ 24 :=
      Nat.mul_le_mul (by omega) hpow
    have hn' : n % 2 ^ 32 = n := Nat.mod_eq_of_lt (by omega)
    rw [BitVec.shiftLeft_eq', BitVec.toNat_shiftLeft, BitVec.toNat_ofNat,
      hn', Nat.shiftLeft_eq, Nat.mod_eq_of_lt (by omega)]
  have hcases : i = 0 ∨ i = 1 ∨ i = 2 ∨ i = 3 := by omega
  rw [Int32.toBitVec_shiftLeft]
  rcases hcases with rfl | rfl | rfl | rfl
  · exact hshift 0 (by decide)
  · exact hshift 8 (by decide)
  · exact hshift 16 (by decide)
  · exact hshift 24 (by decide)

/-- The packing loop computes the number with the values as its digits. -/
theorem toNat_packed {values : List Int32} (hbyte : ∀ v ∈ values, IsByte v)
    {i : ℕ} (hi : i + values.length ≤ 4) {dataVal : Int32}
    (hdata : dataVal.toBitVec.toNat < 256 ^ i) :
    (packed i dataVal values).toBitVec.toNat =
      dataVal.toBitVec.toNat + 256 ^ i * Nat.ofDigits 256 (digits values) := by
  induction values generalizing i dataVal with
  | nil => simp [packed, digits]
  | cons v vs ih =>
      rw [List.length_cons] at hi
      have hv := hbyte v (List.mem_cons_self ..)
      have hlt := IsByte.toNat_lt hv
      have hpow : 256 ^ (i + 1) ≤ 256 ^ 4 :=
        Nat.pow_le_pow_right (by decide) (by omega)
      have hsucc : 256 ^ (i + 1) = 256 ^ i * 256 := Nat.pow_succ ..
      have hterm : v.toBitVec.toNat * 256 ^ i ≤ 255 * 256 ^ i :=
        Nat.mul_le_mul_right _ (by omega)
      have hadd : (dataVal + v <<< (8 * Int32.ofNat i)).toBitVec.toNat =
          dataVal.toBitVec.toNat + v.toBitVec.toNat * 256 ^ i := by
        rw [Int32.toBitVec_add, BitVec.toNat_add,
          toNat_shiftLeft hv (by omega)]
        exact Nat.mod_eq_of_lt (by omega)
      rw [packed, hv.and_0xff,
        ih (fun w hw => hbyte w (List.mem_cons_of_mem _ hw)) (by omega)
          (by rw [hadd]; omega), hadd, hsucc]
      show _ = _ + 256 ^ i *
        (v.toBitVec.toNat + 256 * Nat.ofDigits 256 (digits vs))
      ring

/-- Byte `k` of the packed word is value `k`. -/
theorem byte_packed {values : List Int32} (hbyte : ∀ v ∈ values, IsByte v)
    (hlength : values.length ≤ 4) {k : ℕ} {v : Int32}
    (hv : values[k]? = some v) :
    byte (packed 0 0 values).toBitVec k = v.toBitVec.setWidth 8 := by
  have hk := (List.getElem?_eq_some_iff.mp hv).1
  have hpacked : (packed 0 0 values).toBitVec.toNat =
      (0 : Int32).toBitVec.toNat +
        256 ^ 0 * Nat.ofDigits 256 (digits values) :=
    toNat_packed hbyte (by omega) (by decide)
  have hzero : (0 : Int32).toBitVec.toNat = 0 := rfl
  rw [hzero, Nat.zero_add, Nat.pow_zero, Nat.one_mul] at hpacked
  have hdigit : ∀ d ∈ digits values, d < 256 := by
    intro d hd
    obtain ⟨w, hw, rfl⟩ := List.mem_map.mp hd
    exact IsByte.toNat_lt (hbyte w hw)
  have hdrop : (digits values).drop k =
      v.toBitVec.toNat :: (digits values).drop (k + 1) := by
    have hget : (digits values)[k]? = some v.toBitVec.toNat := by
      rw [digits, List.getElem?_map, hv]
      rfl
    obtain ⟨hlt, heq⟩ := List.getElem?_eq_some_iff.mp hget
    rw [List.drop_eq_getElem_cons hlt, heq]
  apply BitVec.eq_of_toNat_eq
  have hpow : 2 ^ (8 * k) = 256 ^ k := by
    rw [Nat.pow_mul]
  rw [byte, BitVec.extractLsb'_toNat, hpacked, Nat.shiftRight_eq_div_pow, hpow,
    Nat.ofDigits_div_pow_eq_ofDigits_drop k (by decide) _ hdigit, hdrop,
    Nat.ofDigits_cons, BitVec.toNat_setWidth]
  exact Nat.add_mul_mod_self_left _ 256 _

/-! ## The command of a group -/

/-- The byte that the memory holds for a value. -/
def toByte (v : Int32) : BitVec 8 := v.toBitVec.setWidth 8

theorem toNat_toByte {v : Int32} (h : IsByte v) :
    ((toByte v).toNat : ℤ) = v.toInt := by
  have hv := toNat_toBitVec_of_nonneg h.1
  have hlt := IsByte.toNat_lt h
  rw [toByte, BitVec.toNat_setWidth, Nat.mod_eq_of_lt hlt, hv]

/-- The DMX command that `setDMX` sends. -/
def commandOf (address : Int32) (values : List Int32) : Command where
  addr := address.toBitVec
  data := (packed 0 0 values).toBitVec
  size := (Int32.ofNat values.length).toBitVec

/-- The command of an accepted call stores the values that the call covers. -/
theorem Accepts.store_commandOf {address : Int32} {values : List Int32}
    (h : Accepts address values) (m : Dmx512.Data) (a : Fin 513) :
    (commandOf address values).store m a =
      ((covered address.toInt.toNat values a).map toByte).getD (m a) := by
  obtain ⟨hone, hle, hpos, hfour, hbyte⟩ := h
  have haddr : ((commandOf address values).addr.toNat : ℤ) = address.toInt :=
    toNat_toBitVec_of_nonneg (by omega)
  have hsize : (commandOf address values).size.toNat = values.length := by
    have hlt : values.length < 2 ^ 32 := by omega
    exact Nat.mod_eq_of_lt hlt
  by_cases hcovers : (commandOf address values).Covers a
  · rw [Command.store_of_covers hcovers]
    obtain ⟨-, -, -, hfrom, hto⟩ := hcovers
    obtain ⟨k, hk⟩ := Nat.exists_eq_add_of_le hfrom
    have hlt : k < values.length := by omega
    have hget := List.getElem?_eq_getElem hlt
    have hcovered : covered address.toInt.toNat values a = some values[k] :=
      covered_of_getElem? (k := k) (by omega) hget
    rw [hcovered, hk, Nat.add_sub_cancel_left]
    exact byte_packed hbyte hfour hget
  · rw [Command.store_of_not_covers hcovers, covered_eq_none]
    · rfl
    · simp only [Command.Covers] at hcovers
      omega

/-! ## The messages of a group -/

/-- The write function behind each sys file. -/
def kernelWrite (w : SysWrite) : Option IoWrite :=
  match w.reg with
  | .addr => Kernel.ece453WriteDmxAddr w.buf
  | .data => Kernel.ece453WriteDmxData w.buf
  | .size => Kernel.ece453WriteDmxSize w.buf
  | .ctrl => Kernel.ece453WriteControl w.buf
  | .stat => none

/-- The register writes that perform a command. -/
def commandWrites (c : Command) : List IoWrite :=
  [⟨Kernel.ece453DmxDataOffset, c.data⟩, ⟨Kernel.ece453DmxAddrOffset, c.addr⟩,
    ⟨Kernel.ece453DmxSizeOffset, c.size⟩, ⟨Kernel.ece453ControlOffset, 1⟩]

theorem ece453Write_format08x (offset : BitVec 4) (v : Int32) :
    Kernel.ece453Write offset (format08x v ++ ['\x00']) =
      some ⟨offset, v.toBitVec⟩ :=
  Kernel.ece453Write_padded offset v.toBitVec

/-- The kernel turns the messages of a call into the writes of its command. -/
theorem filterMap_messages (address : Int32) (values : List Int32) :
    (messages address values).filterMap kernelWrite =
      commandWrites (commandOf address values) := by
  simp only [messages, kernelWrite, Kernel.ece453WriteDmxAddr,
    Kernel.ece453WriteDmxData, Kernel.ece453WriteDmxSize,
    Kernel.ece453WriteControl, ece453Write_format08x, List.filterMap_cons,
    List.filterMap_nil, commandWrites, commandOf]
  rfl

/-- The writes of a command perform it. -/
theorem writeAll_commandWrites (d : Device) (c : Command) :
    d.writeAll (commandWrites c) = ⟨c, c.store d.mem⟩ := rfl

end ChuckLight.DefaultDMX
