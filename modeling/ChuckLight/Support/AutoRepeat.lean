import ChuckLight.Support.Debounce

/-!
# Inputs that repeat

A debounced input that is held on repeats: after a long hold it fires at a fast
rate, as long as repeating is enabled.  The counter is `-1` during the long hold
and `-2` at the fast rate; a second counter measures the time.
-/

namespace AutoRepeat

/-! ## Definitions -/

structure Limits where
  debounce : ℤ
  hold : ℤ
  fast : ℤ

structure Cell where
  count : ℤ
  long : ℤ
  deriving DecidableEq

/-- A sample that finds the input held. -/
def sample (l : Limits) (enabled : Bool) (c : Cell) : Bool × Cell :=
  if (c.count = -1 ∨ c.count = -2) ∧ enabled = false then (false, c)
  else if c.count = -2 ∧ enabled = true then
    if c.long > l.fast then (true, { c with long := 0 })
    else (false, { c with long := c.long + 1 })
  else if c.count = -1 ∧ enabled = true then
    if c.long > l.hold then (false, ⟨-2, 0⟩)
    else (false, { c with long := c.long + 1 })
  else if c.count > l.debounce then (true, { c with count := -1 })
  else (false, { c with count := c.count + 1 })

/-- The counters belong to one of the three phases. -/
def Valid (c : Cell) : Prop :=
  (0 ≤ c.count ∧ c.long = 0) ∨ c.count = -1 ∨ c.count = -2

/-- At least so many samples are needed until the input fires. -/
def wait (l : Limits) (c : Cell) : ℤ :=
  if c.count = -1 then l.hold + l.fast + 4 - c.long
  else if c.count = -2 then l.fast + 2 - c.long
  else l.debounce + 2 - c.count

/-! ## One sample -/

/-- What a sample does. -/
inductive Sampled (l : Limits) (enabled : Bool) (c : Cell) :
    Bool × Cell → Prop
  | rests (hheld : c.count = -1 ∨ c.count = -2) (h : enabled = false) :
      Sampled l enabled c (false, c)
  | repeats (hfast : c.count = -2) (h : enabled = true)
      (hlong : l.fast < c.long) : Sampled l enabled c (true, ⟨-2, 0⟩)
  | speedsUp (hheld : c.count = -1) (h : enabled = true)
      (hlong : l.hold < c.long) :
      Sampled l enabled c (false, ⟨-2, 0⟩)
  | waits (hheld : c.count = -1 ∨ c.count = -2) (h : enabled = true) :
      Sampled l enabled c (false, ⟨c.count, c.long + 1⟩)
  | fires (hcount : 0 ≤ c.count) (hlong : c.long = 0)
      (hlt : l.debounce < c.count) : Sampled l enabled c (true, ⟨-1, 0⟩)
  | counts (hcount : 0 ≤ c.count) (hlong : c.long = 0)
      (hle : c.count ≤ l.debounce) :
      Sampled l enabled c (false, ⟨c.count + 1, 0⟩)

variable {l : Limits} {enabled : Bool} {c : Cell}

theorem sampled (l : Limits) (enabled : Bool) (h : Valid c) :
    Sampled l enabled c (sample l enabled c) := by
  obtain ⟨count, long⟩ := c
  rcases h with ⟨hcount, hlong⟩ | hheld | hfast
  · have hpos : 0 ≤ count := hcount
    have hzero : long = 0 := hlong
    subst hzero
    have hne : count ≠ -1 ∧ count ≠ -2 := ⟨by omega, by omega⟩
    by_cases hlt : l.debounce < count
    · have hsample : sample l enabled ⟨count, 0⟩ = (true, ⟨-1, 0⟩) := by
        simp [sample, hne, hlt]
      rw [hsample]
      exact .fires hpos rfl hlt
    · have hsample : sample l enabled ⟨count, 0⟩ =
          (false, ⟨count + 1, 0⟩) := by
        simp [sample, hne, hlt]
      rw [hsample]
      exact .counts hpos rfl (Int.not_lt.mp hlt)
  · have hcount : count = -1 := hheld
    subst hcount
    cases enabled with
    | false =>
        rw [show sample l false ⟨-1, long⟩ = (false, ⟨-1, long⟩) from rfl]
        exact .rests (.inl rfl) rfl
    | true =>
        by_cases hlt : l.hold < long
        · have hsample : sample l true ⟨-1, long⟩ = (false, ⟨-2, 0⟩) := by
            simp [sample, hlt]
          rw [hsample]
          exact .speedsUp rfl rfl hlt
        · have hsample : sample l true ⟨-1, long⟩ =
              (false, ⟨-1, long + 1⟩) := by
            simp [sample, hlt]
          rw [hsample]
          exact .waits (.inl rfl) rfl
  · have hcount : count = -2 := hfast
    subst hcount
    cases enabled with
    | false =>
        rw [show sample l false ⟨-2, long⟩ = (false, ⟨-2, long⟩) from rfl]
        exact .rests (.inr rfl) rfl
    | true =>
        by_cases hlt : l.fast < long
        · have hsample : sample l true ⟨-2, long⟩ = (true, ⟨-2, 0⟩) := by
            simp [sample, hlt]
          rw [hsample]
          exact .repeats rfl rfl hlt
        · have hsample : sample l true ⟨-2, long⟩ =
              (false, ⟨-2, long + 1⟩) := by
            simp [sample, hlt]
          rw [hsample]
          exact .waits (.inr rfl) rfl

theorem Valid.sample (h : Valid c) : Valid (sample l enabled c).2 := by
  have hsampled := sampled l enabled h
  generalize AutoRepeat.sample l enabled c = result at *
  cases hsampled with
  | rests => exact h
  | repeats => exact .inr (.inr rfl)
  | speedsUp => exact .inr (.inr rfl)
  | waits hheld => exact .inr hheld
  | fires => exact .inr (.inl rfl)
  | counts hcount =>
      refine .inl ⟨?_, rfl⟩
      show 0 ≤ c.count + 1
      omega

/-- Once the input has fired the counter stays negative. -/
theorem sample_neg_iff (h : Valid c) :
    (sample l enabled c).2.count < 0 ↔
      (sample l enabled c).1 = true ∨ c.count < 0 := by
  have hneg : c.count = -1 ∨ c.count = -2 → c.count < 0 := by omega
  have hsampled := sampled l enabled h
  generalize sample l enabled c = result at *
  cases hsampled with
  | rests hheld => exact ⟨.inr, fun _ => hneg hheld⟩
  | repeats => exact ⟨fun _ => .inl rfl, fun _ => by decide⟩
  | speedsUp hheld =>
      exact ⟨fun _ => .inr (hneg (.inl hheld)), fun _ => by decide⟩
  | waits hheld => exact ⟨.inr, fun _ => hneg hheld⟩
  | fires => exact ⟨fun _ => .inl rfl, fun _ => by decide⟩
  | counts hcount =>
      constructor
      · intro hlt
        have hnext : c.count + 1 < 0 := hlt
        omega
      · rintro (hfires | hlt)
        · exact absurd hfires Bool.false_ne_true
        · exact absurd hcount (Int.not_le.mpr hlt)

theorem sample_count_le (l : Limits) (enabled : Bool) (h : Valid c) :
    (sample l enabled c).2.count ≤ max 0 (c.count + 1) := by
  have hsampled := sampled l enabled h
  generalize sample l enabled c = result at *
  cases hsampled with
  | rests hheld =>
      show c.count ≤ _
      omega
  | repeats =>
      show -2 ≤ _
      omega
  | speedsUp =>
      show -2 ≤ _
      omega
  | waits hheld =>
      show c.count ≤ _
      omega
  | fires =>
      show -1 ≤ _
      omega
  | counts =>
      show c.count + 1 ≤ _
      omega

/-- Without repeating there is no fast rate. -/
theorem sample_false_count_ne (h : Valid c) (hne : c.count ≠ -2) :
    (sample l false c).2.count ≠ -2 := by
  have hsampled := sampled l false h
  generalize sample l false c = result at *
  cases hsampled with
  | rests => exact hne
  | repeats hcount => exact absurd hcount hne
  | speedsUp _ henabled => exact absurd henabled Bool.false_ne_true
  | waits _ henabled => exact absurd henabled Bool.false_ne_true
  | fires => decide
  | counts =>
      show c.count + 1 ≠ -2
      omega

/-! ## Waiting -/

theorem wait_of_neg_one (h : c.count = -1) :
    wait l c = l.hold + l.fast + 4 - c.long := if_pos h

theorem wait_of_neg_two (h : c.count = -2) :
    wait l c = l.fast + 2 - c.long := by
  unfold wait
  rw [if_neg (by omega), if_pos h]

theorem wait_of_nonneg (h : 0 ≤ c.count) :
    wait l c = l.debounce + 2 - c.count := by
  unfold wait
  rw [if_neg (by omega), if_neg (by omega)]

/-- A sample brings the next time the input fires nearer by one at most. -/
theorem wait_le (h : Valid c) (hhold : 0 ≤ l.hold) (hfast : 0 ≤ l.fast) :
    wait l c ≤ wait l (sample l enabled c).2 + 1 := by
  have hslow : wait l ⟨-1, 0⟩ = l.hold + l.fast + 4 - 0 := wait_of_neg_one rfl
  have hquick : wait l ⟨-2, 0⟩ = l.fast + 2 - 0 := wait_of_neg_two rfl
  have hsampled := sampled l enabled h
  generalize sample l enabled c = result at *
  cases hsampled with
  | rests =>
      show wait l c ≤ wait l c + 1
      omega
  | repeats hcount hlt =>
      rw [wait_of_neg_two hcount, hquick]
      omega
  | speedsUp hheld henabled hlt =>
      rw [wait_of_neg_one hheld, hquick]
      omega
  | waits hheld =>
      rcases hheld with hheld | hheld
      · rw [wait_of_neg_one hheld,
          wait_of_neg_one (c := ⟨c.count, c.long + 1⟩) hheld]
        show _ ≤ l.hold + l.fast + 4 - (c.long + 1) + 1
        omega
      · rw [wait_of_neg_two hheld,
          wait_of_neg_two (c := ⟨c.count, c.long + 1⟩) hheld]
        show _ ≤ l.fast + 2 - (c.long + 1) + 1
        omega
  | fires hcount hlong hlt =>
      rw [wait_of_nonneg hcount, hslow]
      omega
  | counts hcount =>
      have hnext : 0 ≤ c.count + 1 := by omega
      rw [wait_of_nonneg hcount,
        wait_of_nonneg (c := ⟨c.count + 1, 0⟩) hnext]
      show _ ≤ l.debounce + 2 - (c.count + 1) + 1
      omega

/-- The input fires only when the waiting is over, and it repeats only when this
is enabled. -/
theorem wait_of_fires (h : Valid c) (hfires : (sample l enabled c).1 = true) :
    wait l c ≤ 1 ∧ (c.count < 0 → enabled = true) := by
  have hsampled := sampled l enabled h
  generalize sample l enabled c = result at *
  cases hsampled with
  | rests => exact absurd hfires Bool.false_ne_true
  | repeats hcount henabled hlt =>
      rw [wait_of_neg_two hcount]
      exact ⟨by omega, fun _ => henabled⟩
  | speedsUp => exact absurd hfires Bool.false_ne_true
  | waits => exact absurd hfires Bool.false_ne_true
  | fires hcount hlong hlt =>
      rw [wait_of_nonneg hcount]
      exact ⟨by omega, fun hneg => absurd hcount (Int.not_le.mpr hneg)⟩
  | counts => exact absurd hfires Bool.false_ne_true

/-- How long it takes at least until the input fires again. -/
theorem wait_after_fires (h : Valid c) (hhold : 0 ≤ l.hold)
    (hfires : (sample l enabled c).1 = true) :
    l.fast + 2 ≤ wait l (sample l enabled c).2 ∧
      (0 ≤ c.count →
        l.hold + l.fast + 4 ≤ wait l (sample l enabled c).2) := by
  have hslow : wait l ⟨-1, 0⟩ = l.hold + l.fast + 4 - 0 := wait_of_neg_one rfl
  have hquick : wait l ⟨-2, 0⟩ = l.fast + 2 - 0 := wait_of_neg_two rfl
  have hsampled := sampled l enabled h
  generalize sample l enabled c = result at *
  cases hsampled with
  | rests => exact absurd hfires Bool.false_ne_true
  | repeats hcount =>
      rw [hquick]
      exact ⟨by omega, fun hpos => by omega⟩
  | speedsUp => exact absurd hfires Bool.false_ne_true
  | waits => exact absurd hfires Bool.false_ne_true
  | fires =>
      rw [hslow]
      exact ⟨by omega, fun _ => by omega⟩
  | counts => exact absurd hfires Bool.false_ne_true

end AutoRepeat
