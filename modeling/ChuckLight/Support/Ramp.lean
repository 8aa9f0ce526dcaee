import Mathlib.Data.Nat.Find
import Mathlib.Logic.Function.Iterate
import Mathlib.Tactic.Common
import Mathlib.Tactic.SplitIfs

/-!
# Ramps

A level goes down in steps of one to below `low` and up again to `high`.  The
direction is reconsidered only after every `k` steps, so that the level may get
past the ends.
-/

namespace Ramp

/-- The direction and the level. -/
structure State where
  up : Bool
  level : ℤ

/-- The level after `j` steps. -/
def State.climb (s : State) (j : ℕ) : ℤ :=
  if s.up then s.level + j else s.level - j

/-- The direction is reconsidered. -/
def turn (low high : ℕ) (s : State) : State :=
  if s.up = false ∧ s.level < low then { s with up := true }
  else if s.up = true ∧ s.level ≥ high then { s with up := false }
  else s

/-- `k` steps, and then a look at the direction. -/
def pass (low high k : ℕ) (s : State) : State :=
  turn low high { s with level := s.climb k }

/-- The ramp at the upper end, on its way down. -/
def top (high : ℕ) : State := ⟨false, high⟩

variable {low high k m : ℕ} {s : State} {level : ℤ}

theorem State.climb_zero (s : State) : s.climb 0 = s.level := by
  unfold State.climb
  split_ifs
  · exact Int.add_zero s.level
  · exact Int.sub_zero s.level

theorem State.climb_climb (s : State) (i j : ℕ) :
    ({ s with level := s.climb i } : State).climb j = s.climb (i + j) := by
  obtain ⟨up, level⟩ := s
  cases up with
  | false =>
      show level - i - j = level - (i + j : ℕ)
      omega
  | true =>
      show level + i + j = level + (i + j : ℕ)
      omega

/-! ## One look at the direction -/

theorem turn_down_of_lt (h : level < low) :
    turn low high ⟨false, level⟩ = ⟨true, level⟩ := if_pos ⟨rfl, h⟩

theorem turn_down_of_le (h : (low : ℤ) ≤ level) :
    turn low high ⟨false, level⟩ = ⟨false, level⟩ := by
  have hnot : ¬ (false = false ∧ level < low) := by
    rintro ⟨-, hlt⟩
    omega
  unfold turn
  rw [if_neg hnot, if_neg (fun hc => Bool.false_ne_true hc.1)]

theorem turn_up_of_le (h : (high : ℤ) ≤ level) :
    turn low high ⟨true, level⟩ = ⟨false, level⟩ := by
  unfold turn
  rw [if_neg (fun hc => Bool.false_ne_true hc.1.symm), if_pos ⟨rfl, h⟩]

theorem turn_up_of_lt (h : level < high) :
    turn low high ⟨true, level⟩ = ⟨true, level⟩ := by
  have hnot : ¬ (true = true ∧ level ≥ high) := by
    rintro ⟨-, hge⟩
    omega
  unfold turn
  rw [if_neg (fun hc => Bool.false_ne_true hc.1.symm), if_neg hnot]

/-! ## A ramp that stays in range -/

/-- The first `m` passes lead below `low`, and not below zero. -/
structure Reaches (low high k m : ℕ) : Prop where
  lt : high - k * m < low
  le : k * m ≤ high
  low_le : ∀ i < m, k * i + low ≤ high

theorem top_eq (k : ℕ) : top high = ⟨false, high - (k * 0 : ℕ)⟩ := by
  have hlevel : (high : ℤ) - (k * 0 : ℕ) = high := by
    rw [Nat.mul_zero]
    omega
  rw [hlevel]
  rfl

/-- The states between the ends. -/
inductive Between (high k m : ℕ) : State → Prop
  | down (i : ℕ) (h : i < m) : Between high k m ⟨false, high - (k * i : ℕ)⟩
  | up (i : ℕ) (h : i < m) :
      Between high k m ⟨true, high - (k * (i + 1) : ℕ)⟩

theorem between_top (hlow : low ≤ high) (h : Reaches low high k m) :
    Between high k m (top high) := by
  have hpos : 0 < m := by
    rcases Nat.eq_zero_or_pos m with rfl | hpos
    · have hlt := h.lt
      rw [Nat.mul_zero] at hlt
      omega
    · exact hpos
  rw [top_eq k]
  exact .down 0 hpos

/-- Between the ends no step of a pass leaves the range. -/
theorem Between.climb (h : Reaches low high k m) (hs : Between high k m s)
    {j : ℕ} (hj : j ≤ k) : 0 ≤ s.climb j ∧ s.climb j ≤ high := by
  have hend := h.le
  cases hs with
  | down i hi =>
      have hle : k * (i + 1) ≤ k * m := Nat.mul_le_mul_left k hi
      have hsucc : k * (i + 1) = k * i + k := Nat.mul_succ k i
      show 0 ≤ (high : ℤ) - (k * i : ℕ) - j ∧
        (high : ℤ) - (k * i : ℕ) - j ≤ high
      constructor <;> omega
  | up i hi =>
      have hle : k * (i + 1) ≤ k * m := Nat.mul_le_mul_left k hi
      have hsucc : k * (i + 1) = k * i + k := Nat.mul_succ k i
      show 0 ≤ (high : ℤ) - (k * (i + 1) : ℕ) + j ∧
        (high : ℤ) - (k * (i + 1) : ℕ) + j ≤ high
      constructor <;> omega

/-- A pass leads to a state between the ends again. -/
theorem Between.pass (hk : 0 < k) (h : Reaches low high k m)
    (hs : Between high k m s) : Between high k m (pass low high k s) := by
  cases hs with
  | down i hi =>
      have hsucc : k * (i + 1) = k * i + k := Nat.mul_succ k i
      have hlevel : (high : ℤ) - (k * i : ℕ) - k =
          high - (k * (i + 1) : ℕ) := by omega
      show Between high k m
        (turn low high ⟨false, (high : ℤ) - (k * i : ℕ) - k⟩)
      rw [hlevel]
      by_cases hend : i + 1 = m
      · have hlt := h.lt
        have hle := h.le
        rw [← hend] at hlt hle
        rw [turn_down_of_lt (by omega)]
        exact .up i hi
      · have hlow := h.low_le (i + 1) (by omega)
        rw [turn_down_of_le (by omega)]
        exact .down (i + 1) (by omega)
  | up i hi =>
      have hsucc : k * (i + 1) = k * i + k := Nat.mul_succ k i
      have hlevel : (high : ℤ) - (k * (i + 1) : ℕ) + k =
          high - (k * i : ℕ) := by omega
      show Between high k m
        (turn low high ⟨true, (high : ℤ) - (k * (i + 1) : ℕ) + k⟩)
      rw [hlevel]
      cases i with
      | zero =>
          rw [turn_up_of_le (by rw [Nat.mul_zero]; omega)]
          exact .down 0 hi
      | succ i =>
          have hpos : 0 < k * (i + 1) := Nat.mul_pos hk (Nat.succ_pos i)
          rw [turn_up_of_lt (by omega)]
          exact .up i (by omega)

/-! ## Which ramps stay in range -/

/-- The first multiple of `k` that leads below `low`. -/
theorem exists_first (hk : 0 < k) (hlow : 0 < low) (high : ℕ) :
    ∃ m, high < k * m + low ∧ ∀ i < m, k * i + low ≤ high := by
  have hexists : ∃ m, high < k * m + low :=
    ⟨high, by have hle := Nat.le_mul_of_pos_left high hk; omega⟩
  refine ⟨Nat.find hexists, Nat.find_spec hexists, fun i hi => ?_⟩
  exact Nat.le_of_not_lt (Nat.find_min hexists hi)

theorem iterate_pass_top (hfirst : ∀ i < m, k * i + low ≤ high) {n : ℕ}
    (hn : n < m) :
    (pass low high k)^[n] (top high) = ⟨false, high - (k * n : ℕ)⟩ := by
  induction n with
  | zero => exact top_eq k
  | succ n ih =>
      have hsucc : k * (n + 1) = k * n + k := Nat.mul_succ k n
      have hlow := hfirst (n + 1) hn
      have hlevel : (high : ℤ) - (k * n : ℕ) - k =
          high - (k * (n + 1) : ℕ) := by omega
      rw [Function.iterate_succ_apply', ih (by omega)]
      show turn low high ⟨false, (high : ℤ) - (k * n : ℕ) - k⟩ = _
      rw [hlevel, turn_down_of_le (by omega)]

/-- The level stays within 0 and `high` in all passes if and only if a multiple
of `k` leads below `low` without leading below zero. -/
theorem inRange_iff (hk : 0 < k) (hlow : 0 < low) (hle : low ≤ high) :
    (∀ n j, 0 < j → j ≤ k →
      0 ≤ ((pass low high k)^[n] (top high)).climb j ∧
        ((pass low high k)^[n] (top high)).climb j ≤ high) ↔
      ∃ m, high - low < k * m ∧ k * m ≤ high := by
  obtain ⟨m, hm, hfirst⟩ := exists_first hk hlow high
  constructor
  · intro h
    obtain ⟨n, rfl⟩ : ∃ n, m = n + 1 := by
      refine Nat.exists_eq_succ_of_ne_zero ?_
      rintro rfl
      rw [Nat.mul_zero] at hm
      omega
    have hsucc : k * (n + 1) = k * n + k := Nat.mul_succ k n
    have hbound := (h n k hk (Nat.le_refl k)).1
    rw [iterate_pass_top hfirst (Nat.lt_succ_self n)] at hbound
    have hclimb : 0 ≤ (high : ℤ) - (k * n : ℕ) - k := hbound
    exact ⟨n + 1, by omega, by omega⟩
  · rintro ⟨m', hlt, hend⟩
    have hmin : k * m ≤ k * m' := by
      refine Nat.mul_le_mul_left k (Nat.le_of_not_lt fun hlt' => ?_)
      have := hfirst m' hlt'
      omega
    have hreaches : Reaches low high k m := ⟨by omega, by omega, hfirst⟩
    intro n j _ hj
    have hbetween : Between high k m ((pass low high k)^[n] (top high)) := by
      induction n with
      | zero => exact between_top hle hreaches
      | succ n ih =>
          rw [Function.iterate_succ_apply']
          exact ih.pass hk hreaches
    exact hbetween.climb hreaches hj

end Ramp
