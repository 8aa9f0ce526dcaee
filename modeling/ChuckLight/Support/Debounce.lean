import Mathlib.Data.List.Basic
import Mathlib.Data.Int.Notation

/-!
# Debounced inputs

A debounced input is sampled again and again.  A counter goes up by one with
each sample that finds the input held; once it has passed a limit the input
fires, a single time, and the counter stays at `-1` until it is reset.
-/

namespace Debounce

/-! ## Conditions that last -/

variable {ι : Type} {p : ι → Prop} {m n : ℕ} {history : List ι} {i : ι}

/-- The condition held at each of the last `n` samples. -/
def Lasts (p : ι → Prop) (n : ℕ) (history : List ι) : Prop :=
  ∃ before during, history = before ++ during ∧ during.length = n ∧
    ∀ i ∈ during, p i

theorem lasts_zero (history : List ι) : Lasts p 0 history :=
  ⟨history, [], (List.append_nil history).symm, rfl,
    fun _ hi => absurd hi List.not_mem_nil⟩

theorem Lasts.concat (h : Lasts p n history) (hi : p i) :
    Lasts p (n + 1) (history ++ [i]) := by
  obtain ⟨before, during, rfl, rfl, hduring⟩ := h
  refine ⟨before, during ++ [i], List.append_assoc .., ?_, ?_⟩
  · exact List.length_append
  · intro j hj
    rcases List.mem_append.mp hj with hj | hj
    · exact hduring j hj
    · exact List.mem_singleton.mp hj ▸ hi

theorem Lasts.mono (h : Lasts p n history) (hm : m ≤ n) :
    Lasts p m history := by
  obtain ⟨before, during, rfl, rfl, hduring⟩ := h
  refine ⟨before ++ during.take (during.length - m),
    during.drop (during.length - m), ?_, ?_, ?_⟩
  · rw [List.append_assoc, List.take_append_drop]
  · rw [List.length_drop]
    omega
  · intro j hj
    exact hduring j (List.mem_of_mem_drop hj)

theorem lasts_iff : Lasts p n history ↔
    n ≤ history.length ∧ ∀ i ∈ history.drop (history.length - n), p i := by
  constructor
  · rintro ⟨before, during, rfl, rfl, hduring⟩
    rw [List.length_append, Nat.add_sub_cancel, List.drop_left]
    exact ⟨Nat.le_add_left .., hduring⟩
  · rintro ⟨hle, hdrop⟩
    refine ⟨history.take (history.length - n),
      history.drop (history.length - n), ?_, ?_, hdrop⟩
    · rw [List.take_append_drop]
    · rw [List.length_drop]
      omega

instance [DecidablePred p] : Decidable (Lasts p n history) :=
  decidable_of_iff' _ lasts_iff

/-! ## The counter -/

variable {limit count : ℤ}

/-- A sample that finds the input held. -/
def hold (limit count : ℤ) : Bool × ℤ :=
  if count = -1 then (false, -1)
  else if count > limit then (true, -1)
  else (false, count + 1)

theorem hold_neg_one (limit : ℤ) : hold limit (-1) = (false, -1) := if_pos rfl

theorem hold_of_lt (hcount : count ≠ -1) (h : limit < count) :
    hold limit count = (true, -1) := by
  unfold hold
  rw [if_neg hcount, if_pos h]

theorem hold_of_le (hcount : count ≠ -1) (h : count ≤ limit) :
    hold limit count = (false, count + 1) := by
  unfold hold
  rw [if_neg hcount, if_neg (by omega)]

/-- The input fires when the counter has passed the limit. -/
theorem hold_fires_iff :
    (hold limit count).1 = true ↔ count ≠ -1 ∧ limit < count := by
  by_cases hcount : count = -1
  · rw [hcount, hold_neg_one]
    simp
  · by_cases h : limit < count
    · rw [hold_of_lt hcount h]
      simp [hcount, h]
    · rw [hold_of_le hcount (by omega)]
      simp [h]

/-- The counter goes up by one at most. -/
theorem hold_le (limit count : ℤ) :
    (hold limit count).2 ≤ max 0 (count + 1) := by
  by_cases hcount : count = -1
  · rw [hcount, hold_neg_one]
    decide
  · by_cases h : limit < count
    · rw [hold_of_lt hcount h]
      omega
    · rw [hold_of_le hcount (by omega)]
      show count + 1 ≤ max 0 (count + 1)
      omega

theorem neg_one_le_hold (limit : ℤ) (h : -1 ≤ count) :
    -1 ≤ (hold limit count).2 := by
  unfold hold
  split_ifs
  · exact Int.le_refl (-1)
  · exact Int.le_refl (-1)
  · show -1 ≤ count + 1
    omega

/-- How often the input fires in `n` samples that find it held. -/
def fires (limit count : ℤ) : ℕ → ℕ
  | 0 => 0
  | n + 1 => (hold limit count).1.toNat + fires limit (hold limit count).2 n

theorem fires_neg_one (limit : ℤ) (n : ℕ) : fires limit (-1) n = 0 := by
  induction n with
  | zero => rfl
  | succ n ih =>
      rw [fires, hold_neg_one, ih]
      rfl

/-- Enough samples make the input fire once. -/
theorem fires_eq_one (hcount : 0 ≤ count) (hpos : 0 < n)
    (hn : limit + 2 ≤ count + n) : fires limit count n = 1 := by
  induction n generalizing count with
  | zero => exact absurd hpos (Nat.lt_irrefl 0)
  | succ n ih =>
      by_cases hlt : limit < count
      · rw [fires, hold_of_lt (by omega) hlt, fires_neg_one]
        rfl
      · rw [fires, hold_of_le (by omega) (by omega),
          ih (by omega) (by omega) (by omega)]
        rfl

theorem fires_eq_one_iff (hcount : -1 ≤ count) (hpos : 0 < n)
    (hn : limit + 2 ≤ n) : fires limit count n = 1 ↔ count ≠ -1 := by
  constructor
  · rintro hone rfl
    rw [fires_neg_one] at hone
    exact absurd hone (by decide)
  · intro hne
    exact fires_eq_one (by omega) hpos (by omega)

end Debounce
