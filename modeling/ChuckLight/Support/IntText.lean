import ChuckLight.Support.Java

/-!
# Decimal text of an `int`

The text of an `int` and `Integer.parseInt` on the digits 0 to 9.
-/

namespace Java

/-- The text of an `int` in a string concatenation. -/
def intText (v : Int32) : List Char :=
  if v.toInt < 0 then '-' :: Nat.toDigits 10 v.toInt.natAbs
  else Nat.toDigits 10 v.toInt.natAbs

/-- The sign of a text and its digits. -/
def signAndDigits : List Char → ℤ × List Char
  | '-' :: digits => (-1, digits)
  | '+' :: digits => (1, digits)
  | digits => (1, digits)

/-- `Integer.parseInt`. -/
def parseInt (text : List Char) : Except Throwable Int32 :=
  let (sign, digits) := signAndDigits text
  let value := sign * Nat.ofDigitChars 10 digits 0
  if digits ≠ [] ∧ digits.all Char.isDigit ∧ -2 ^ 31 ≤ value ∧
      value < 2 ^ 31 then
    .ok (Int32.ofInt value)
  else .error .numberFormatException

theorem isDigit_of_mem_toDigits {n : ℕ} {c : Char}
    (h : c ∈ Nat.toDigits 10 n) : c.isDigit :=
  Nat.isDigit_of_mem_toDigits (by decide) (by decide) h

/-- A text without a sign consists of its digits. -/
theorem signAndDigits_toDigits (n : ℕ) :
    signAndDigits (Nat.toDigits 10 n) = (1, Nat.toDigits 10 n) := by
  have hdigit := fun c (h : c ∈ Nat.toDigits 10 n) =>
    isDigit_of_mem_toDigits h
  unfold signAndDigits
  split
  · rename_i digits heq
    rw [heq] at hdigit
    exact absurd (hdigit '-' (List.mem_cons_self ..)) (by decide)
  · rename_i digits heq
    rw [heq] at hdigit
    exact absurd (hdigit '+' (List.mem_cons_self ..)) (by decide)
  · rfl

/-- The characters of the text of an `int`. -/
theorem mem_intText {v : Int32} {c : Char} (h : c ∈ intText v) :
    c = '-' ∨ c.isDigit := by
  unfold intText at h
  split_ifs at h
  · rcases List.mem_cons.mp h with rfl | h
    · exact Or.inl rfl
    · exact Or.inr (isDigit_of_mem_toDigits h)
  · exact Or.inr (isDigit_of_mem_toDigits h)

theorem intText_ne_nil (v : Int32) : intText v ≠ [] := by
  unfold intText
  split_ifs
  · exact List.cons_ne_nil _ _
  · exact Nat.toDigits_ne_nil

/-- The text of an `int` is read back. -/
theorem parseInt_intText (v : Int32) : parseInt (intText v) = .ok v := by
  have hlow := v.le_toInt
  have hhigh := v.toInt_lt
  have hvalue : signAndDigits (intText v) =
      (if v.toInt < 0 then -1 else 1, Nat.toDigits 10 v.toInt.natAbs) := by
    unfold intText
    split_ifs
    · rfl
    · exact signAndDigits_toDigits _
  have hall : (Nat.toDigits 10 v.toInt.natAbs).all Char.isDigit = true :=
    List.all_eq_true.mpr fun c hc => isDigit_of_mem_toDigits hc
  have hsigned : (if v.toInt < 0 then -1 else 1 : ℤ) * v.toInt.natAbs =
      v.toInt := by
    split_ifs <;> omega
  unfold parseInt
  rw [hvalue]
  simp only [Nat.ofDigitChars_ten_toDigits, hsigned]
  rw [if_pos ⟨Nat.toDigits_ne_nil, hall, hlow, hhigh⟩, Int32.ofInt_toInt]

end Java
