import ChuckLight.Firmware.Ps2Controller

/-!
# How fast a direction repeats

A direction of the stick fires after enough samples since the stick was last
neutral.  Left and right then stay quiet; up and down repeat after a long hold,
and from then on at the fast rate.
-/

namespace ChuckLight.Firmware.Ps2Controller

/-! ## Histories -/

/-- The counters after some calls. -/
def after (history : List Sample) : Counters :=
  history.foldl (fun c s => (read s c).2) .start

/-- What the next call returns. -/
def returned (history : List Sample) (s : Sample) : Direction :=
  (read s (after history)).1

/-- The direction has been returned since the stick was last neutral. -/
def Fired (d : Direction) (history : List Sample) : Prop :=
  ∃ before s during, history = before ++ s :: during ∧
    returned before s = d ∧ ∀ t ∈ during, ¬ t.Neutral

/-- The number of samples in the zone of a direction. -/
def asking (d : Direction) (history : List Sample) : ℕ :=
  history.countP fun s => s.asks == some d

variable {d : Direction} {history : List Sample} {s : Sample}

theorem after_concat (history : List Sample) (s : Sample) :
    after (history ++ [s]) = (read s (after history)).2 :=
  List.foldl_append

theorem fired_concat :
    Fired d (history ++ [s]) ↔
      returned history s = d ∨ (Fired d history ∧ ¬ s.Neutral) := by
  constructor
  · rintro ⟨before, first, during, hcalls, hreturned, hduring⟩
    induction during using List.reverseRecOn with
    | nil =>
        obtain ⟨rfl, hlast⟩ := List.append_inj' hcalls rfl
        rw [List.singleton_inj.mp hlast]
        exact .inl hreturned
    | append_singleton during last _ =>
        rw [← List.cons_append, ← List.append_assoc] at hcalls
        obtain ⟨rfl, hlast⟩ := List.append_inj' hcalls rfl
        rw [List.singleton_inj.mp hlast]
        refine .inr ⟨⟨before, first, during, rfl, hreturned, ?_⟩, ?_⟩
        · exact fun t ht => hduring t (List.mem_append_left _ ht)
        · exact hduring last (List.mem_append_right _
            (List.mem_singleton_self last))
  · rintro (hreturned | ⟨⟨before, first, during, rfl, hreturned, hduring⟩, hs⟩)
    · exact ⟨history, s, [], rfl, hreturned,
        fun t ht => absurd ht List.not_mem_nil⟩
    · refine ⟨before, first, during ++ [s], List.append_assoc .., hreturned, ?_⟩
      intro t ht
      rcases List.mem_append.mp ht with ht | ht
      · exact hduring t ht
      · exact List.mem_singleton.mp ht ▸ hs

/-- What the counters of the directions say about a history. -/
structure Tracks (history : List Sample) : Prop where
  valid : ∀ d, (after history).ValidFor d
  fired : ∀ d, d ≠ .center →
    (((after history).cell d).count < 0 ↔ Fired d history)
  samples : ∀ d, ∃ before during, history = before ++ during ∧
    (∀ t ∈ during, ¬ t.Neutral) ∧
    ((after history).cell d).count ≤ asking d during

theorem tracks_nil : Tracks [] := by
  refine ⟨validFor_start, fun d _ => ?_, fun d => ⟨[], [], rfl, ?_, ?_⟩⟩
  · have hcount : ¬ ((after []).cell d).count < 0 := by
      cases d <;> decide
    refine ⟨fun hlt => absurd hlt hcount, ?_⟩
    rintro ⟨before, first, during, hcalls, -⟩
    exact absurd hcalls (by simp)
  · exact fun t ht => absurd ht List.not_mem_nil
  · cases d <;> exact Int.le_refl 0

theorem tracks_of_neutral (hs : s.Neutral) : Tracks (history ++ [s]) := by
  have hread := read_of_neutral (c := after history) hs
  have hafter : after (history ++ [s]) = .start := by
    rw [after_concat, hread]
  refine ⟨fun d => hafter ▸ validFor_start d, fun d hd => ?_, fun d => ?_⟩
  · have hreturned : returned history s ≠ d := by
      unfold returned
      rw [hread]
      exact hd.symm
    have hcount : ¬ (Counters.start.cell d).count < 0 := by
      cases d <;> decide
    rw [hafter, fired_concat]
    constructor
    · exact fun hlt => absurd hlt hcount
    · rintro (heq | ⟨-, hnot⟩)
      · exact absurd heq hreturned
      · exact absurd hs hnot
  · refine ⟨history ++ [s], [], (List.append_nil _).symm, ?_, ?_⟩
    · exact fun t ht => absurd ht List.not_mem_nil
    · rw [hafter]
      cases d <;> exact Int.le_refl 0

/-- A call returns the direction that the stick asks for when its counter
fires. -/
theorem Tracks.returned_iff (h : Tracks history) (hd : d ≠ .center) :
    returned history s = d ↔ s.asks = some d ∧
      (AutoRepeat.sample limits (s.repeats d) ((after history).cell d)).1 =
        true := by
  unfold returned
  cases hasks : s.asks with
  | none =>
      rw [read_of_neutral hasks]
      constructor
      · exact fun heq => absurd heq.symm hd
      · rintro ⟨hnone, -⟩
        cases hnone
  | some asks =>
      have hasked := asked hasks (h.valid asks)
      rw [hasked.returned]
      split_ifs with hfires
      · constructor
        · rintro rfl
          exact ⟨rfl, hfires⟩
        · rintro ⟨heq, -⟩
          exact Option.some.inj heq
      · constructor
        · exact fun heq => absurd heq.symm hd
        · rintro ⟨heq, hfires'⟩
          cases heq
          exact absurd hfires' hfires

theorem Tracks.ask (h : Tracks history) {asks : Direction}
    (hasks : s.asks = some asks) : Tracks (history ++ [s]) := by
  have hneutral : ¬ s.Neutral := fun hnone => by
    rw [Sample.Neutral, hasks] at hnone
    cases hnone
  have hasked := asked hasks (h.valid asks)
  refine ⟨fun d => ?_, fun d hd => ?_, fun d => ?_⟩
  · rw [after_concat]
    exact Counters.ValidFor.read h.valid d
  · rw [fired_concat, h.returned_iff hd, ← h.fired d hd, hasks, after_concat]
    by_cases heq : d = asks
    · subst heq
      rw [hasked.cell, AutoRepeat.sample_neg_iff (h.valid d).1]
      simp [hneutral]
    · rw [hasked.other d heq]
      have hne : some asks ≠ some d := fun h => heq (Option.some.inj h).symm
      simp [hneutral, hne]
  · obtain ⟨before, during, rfl, hduring, hcount⟩ := h.samples d
    refine ⟨before, during ++ [s], List.append_assoc .., ?_, ?_⟩
    · intro t ht
      rcases List.mem_append.mp ht with ht | ht
      · exact hduring t ht
      · exact List.mem_singleton.mp ht ▸ hneutral
    · have hasking : asking d (during ++ [s]) =
          asking d during + if asks = d then 1 else 0 := by
        unfold asking
        rw [List.countP_append, List.countP_singleton, hasks]
        simp
      rw [after_concat, hasking]
      by_cases heq : d = asks
      · subst heq
        have hle := AutoRepeat.sample_count_le limits (s.repeats d)
          (h.valid d).1
        rw [hasked.cell, if_pos rfl]
        omega
      · rw [hasked.other d heq]
        omega

theorem tracks (history : List Sample) : Tracks history := by
  induction history using List.reverseRecOn with
  | nil => exact tracks_nil
  | append_singleton history s ih =>
      cases hasks : s.asks with
      | none => exact tracks_of_neutral hasks
      | some asks => exact ih.ask hasks

/-! ## Spacing -/

/-- How long the direction stays quiet at least. -/
def quiet (d : Direction) (history : List Sample) : ℤ :=
  AutoRepeat.wait limits ((after history).cell d)

theorem quiet_concat (d : Direction) (history : List Sample)
    (hs : ¬ s.Neutral) :
    quiet d history ≤ quiet d (history ++ [s]) + 1 := by
  have hvalid := (tracks history).valid
  cases hasks : s.asks with
  | none => exact absurd hasks hs
  | some asks =>
      have hasked := asked hasks (hvalid asks)
      unfold quiet
      rw [after_concat]
      by_cases heq : d = asks
      · subst heq
        rw [hasked.cell]
        exact AutoRepeat.wait_le (hvalid d).1 (by decide) (by decide)
      · rw [hasked.other d heq]
        omega

theorem quiet_append (d : Direction) (history : List Sample)
    {during : List Sample}
    (hduring : ∀ t ∈ during, ¬ t.Neutral) :
    quiet d history ≤ quiet d (history ++ during) + during.length := by
  induction during using List.reverseRecOn with
  | nil =>
      rw [List.append_nil]
      exact Int.le_of_eq (Int.add_zero _).symm
  | append_singleton during s ih =>
      have hfirst := ih fun t ht => hduring t (List.mem_append_left _ ht)
      have hlast := quiet_concat d (history ++ during)
        (hduring s (List.mem_append_right _ (List.mem_singleton_self s)))
      rw [List.append_assoc] at hlast
      rw [List.length_append, List.length_singleton]
      push_cast
      omega

/-- After a direction has been returned it stays quiet for a while, and for a
long while if it had not been returned before. -/
theorem quiet_of_returned (hd : d ≠ .center) (h : returned history s = d) :
    FAST_RATE_TICK + 2 ≤ quiet d (history ++ [s]) ∧
      (¬ Fired d history →
        LONG_HOLD_COUNT + FAST_RATE_TICK + 4 ≤ quiet d (history ++ [s])) := by
  have htracks := tracks history
  obtain ⟨hasks, hfires⟩ := (htracks.returned_iff hd).mp h
  have hafter := AutoRepeat.wait_after_fires (htracks.valid d).1 (by decide)
    hfires
  unfold quiet
  rw [after_concat, (asked hasks (htracks.valid d)).cell]
  refine ⟨hafter.1, fun hnot => hafter.2 ?_⟩
  exact Int.not_lt.mp fun hlt => hnot ((htracks.fired d hd).mp hlt)

/-- When a direction is returned again without a neutral sample in between, it
is up or down, continuous reading is enabled, and more than `FAST_RATE_TICK`
calls lie in between; more than `LONG_HOLD_COUNT + FAST_RATE_TICK` if the first
of the two is the first one since the stick was neutral.  When a direction is
returned for the first time since then, at least `DEBOUNCE_COUNT + 2` samples
have been in its zone. -/
theorem repeats_slowly (d : Direction) (history : List Sample) (last : Sample)
    (hd : d ≠ .center) (hlast : returned history last = d) :
    (∀ before first between, history = before ++ first :: between →
      returned before first = d → (∀ t ∈ between, ¬ t.Neutral) →
      Vertical d ∧ last.continuousReadEnable ≠ 0 ∧
        FAST_RATE_TICK < between.length ∧
        (¬ Fired d before →
          LONG_HOLD_COUNT + FAST_RATE_TICK < between.length)) ∧
    (¬ Fired d history → ∃ before during, history = before ++ during ∧
      (∀ t ∈ during, ¬ t.Neutral) ∧
      DEBOUNCE_COUNT + 2 ≤ asking d (during ++ [last])) := by
  have htracks := tracks history
  obtain ⟨hasks, hfires⟩ := (htracks.returned_iff hd).mp hlast
  obtain ⟨hwait, henabled⟩ :=
    AutoRepeat.wait_of_fires (htracks.valid d).1 hfires
  constructor
  · intro before first between hhistory hfirst hbetween
    have hrepeats : last.repeats d = true := henabled
      ((htracks.fired d hd).mpr ⟨before, first, between, hhistory, hfirst,
        hbetween⟩)
    obtain ⟨hvertical, hcontinuous⟩ := Bool.and_eq_true_iff.mp hrepeats
    have hquiet := quiet_append d (before ++ [first]) hbetween
    have hsplit : before ++ [first] ++ between = history := by
      rw [hhistory, List.append_assoc]
      rfl
    have hnow : quiet d history ≤ 1 := hwait
    obtain ⟨hshort, hfirstTime⟩ := quiet_of_returned hd hfirst
    rw [hsplit] at hquiet
    refine ⟨of_decide_eq_true hvertical, bne_iff_ne.mp hcontinuous, by omega,
      fun hnot => ?_⟩
    have hlong := hfirstTime hnot
    omega
  · intro hnot
    have hcount : 0 ≤ ((after history).cell d).count :=
      Int.not_lt.mp fun hlt => hnot ((htracks.fired d hd).mp hlt)
    obtain ⟨before, during, hhistory, hduring, hle⟩ := htracks.samples d
    refine ⟨before, during, hhistory, hduring, ?_⟩
    have hasking : asking d (during ++ [last]) = asking d during + 1 := by
      unfold asking
      rw [List.countP_append, List.countP_singleton, hasks]
      simp
    have hdebounce : limits.debounce = DEBOUNCE_COUNT := rfl
    rw [AutoRepeat.wait_of_nonneg hcount] at hwait
    rw [hasking]
    push_cast
    omega

/-- The stick is held up: the first event, and its repetition. -/
theorem repeats_slowly_up :
    (∀ before first between,
      List.replicate 338 (⟨1, 1920, 0⟩ : Sample) =
        before ++ first :: between →
      returned before first = .up → (∀ t ∈ between, ¬ t.Neutral) →
      Vertical .up ∧ (1 : UInt8) ≠ 0 ∧ FAST_RATE_TICK < between.length ∧
        (¬ Fired .up before →
          LONG_HOLD_COUNT + FAST_RATE_TICK < between.length)) ∧
    (¬ Fired .up (List.replicate 338 ⟨1, 1920, 0⟩) → ∃ before during,
      List.replicate 338 (⟨1, 1920, 0⟩ : Sample) = before ++ during ∧
      (∀ t ∈ during, ¬ t.Neutral) ∧
      DEBOUNCE_COUNT + 2 ≤ asking .up (during ++ [⟨1, 1920, 0⟩])) :=
  repeats_slowly .up (List.replicate 338 ⟨1, 1920, 0⟩) ⟨1, 1920, 0⟩
    (by decide) (by decide +kernel)

end ChuckLight.Firmware.Ps2Controller
