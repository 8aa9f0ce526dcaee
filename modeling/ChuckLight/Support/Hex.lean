import Mathlib.Algebra.Group.Nat.Defs
import Mathlib.Data.Nat.Init
import Mathlib.Tactic.Common

/-!
# Hexadecimal text

Reading back what `Nat.toDigits 16` writes.  `readHex` consumes the longest
prefix of hexadecimal digits, as the C conversions do.
-/

namespace HexText

/-- The value of a hexadecimal digit. -/
def hexVal (c : Char) : Option ℕ :=
  if '0' ≤ c ∧ c ≤ '9' then some (c.toNat - '0'.toNat)
  else if 'a' ≤ c ∧ c ≤ 'f' then some (c.toNat - 'a'.toNat + 10)
  else if 'A' ≤ c ∧ c ≤ 'F' then some (c.toNat - 'A'.toNat + 10)
  else none

/-- The value of the longest prefix of hexadecimal digits, read after digits of
value `acc`. -/
def readHex (acc : ℕ) : List Char → ℕ
  | [] => acc
  | c :: cs =>
      match hexVal c with
      | some d => readHex (16 * acc + d) cs
      | none => acc

theorem readHex_cons_of_some {c : Char} {d : ℕ} (h : hexVal c = some d)
    (acc : ℕ) (cs : List Char) :
    readHex acc (c :: cs) = readHex (16 * acc + d) cs := by
  rw [readHex, h]

theorem readHex_cons_of_none {c : Char} (h : hexVal c = none)
    (acc : ℕ) (cs : List Char) : readHex acc (c :: cs) = acc := by
  rw [readHex, h]

theorem hexVal_digitChar {d : ℕ} (hd : d < 16) :
    hexVal d.digitChar = some d := by
  have hcases : ∀ d : Fin 16, hexVal (d : ℕ).digitChar = some (d : ℕ) := by
    decide
  exact hcases ⟨d, hd⟩

/-- Reading the digits of a number yields the number, and goes on with the rest
of the text. -/
theorem readHex_toDigits_append (n : ℕ) (rest : List Char) :
    readHex 0 (Nat.toDigits 16 n ++ rest) = readHex n rest := by
  induction n using Nat.strong_induction_on generalizing rest with
  | _ n ih =>
      by_cases hn : n < 16
      · rw [Nat.toDigits_of_lt_base hn, List.singleton_append,
          readHex_cons_of_some (hexVal_digitChar hn), Nat.mul_zero,
          Nat.zero_add]
      · have hlast : n % 16 < 16 := Nat.mod_lt _ (by decide)
        rw [Nat.toDigits_of_base_le (by decide) (by omega), List.append_assoc,
          ih (n / 16) (by omega), List.singleton_append,
          readHex_cons_of_some (hexVal_digitChar hlast), Nat.div_add_mod]

/-- Leading zeros do not count. -/
theorem readHex_replicate_zero_append (k : ℕ) (text : List Char) :
    readHex 0 (List.replicate k '0' ++ text) = readHex 0 text := by
  induction k with
  | zero => rfl
  | succ k ih =>
      rw [List.replicate_succ, List.cons_append,
        readHex_cons_of_some (d := 0) (by decide)]
      exact ih

theorem hexVal_isSome_of_mem_toDigits {n : ℕ} {c : Char}
    (hc : c ∈ Nat.toDigits 16 n) : (hexVal c).isSome := by
  induction n using Nat.strong_induction_on with
  | _ n ih =>
      by_cases hn : n < 16
      · rw [Nat.toDigits_of_lt_base hn, List.mem_singleton] at hc
        rw [hc, hexVal_digitChar hn]
        rfl
      · rw [Nat.toDigits_of_base_le (by decide) (by omega)] at hc
        rcases List.mem_append.mp hc with hc | hc
        · exact ih (n / 16) (by omega) hc
        · rw [List.mem_singleton.mp hc,
            hexVal_digitChar (Nat.mod_lt _ (by decide))]
          rfl

/-- The digits of `n`, padded with zeros to at least `width` characters. -/
def padded (width n : ℕ) : List Char :=
  List.leftpad width '0' (Nat.toDigits 16 n)

theorem readHex_padded_append (width n : ℕ) (rest : List Char) :
    readHex 0 (padded width n ++ rest) = readHex n rest := by
  rw [padded, List.leftpad, List.append_assoc, readHex_replicate_zero_append,
    readHex_toDigits_append]

theorem hexVal_isSome_of_mem_padded {width n : ℕ} {c : Char}
    (hc : c ∈ padded width n) : (hexVal c).isSome := by
  rcases List.mem_append.mp hc with hc | hc
  · rw [(List.mem_replicate.mp hc).2]
    rfl
  · exact hexVal_isSome_of_mem_toDigits hc

/-- A number of at most `width` digits is padded to exactly `width`. -/
theorem length_padded {width n : ℕ} (hwidth : 0 < width)
    (hn : n < 16 ^ width) : (padded width n).length = width := by
  have hle : (Nat.toDigits 16 n).length ≤ width :=
    (Nat.length_toDigits_le_iff (by decide) hwidth).mpr hn
  rw [padded, List.length_leftpad]
  exact Nat.max_eq_left hle

end HexText
