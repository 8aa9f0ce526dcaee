import ChuckLight.Firmware.Konami
import ChuckLight.Support.Runs
import Mathlib.Data.List.Forall2
import Mathlib.Data.List.Induction

/-!
# What the Konami recogniser recognises

A history of the recogniser consists of calls of `check_konami` and
`konami_tick`.  A code is reported only when its keys are the last non-empty
events of the history.  Conversely, the keys of a code are recognised if and
only if no key of either code is pending when they begin.
-/

namespace ChuckLight.Firmware.Konami

/-! ## Histories -/

/-- A call of `check_konami` or of `konami_tick`. -/
inductive Call where
  | check (direction button : UInt8)
  | tick
  deriving DecidableEq

def apply (k : Konami) : Call → Konami
  | .check direction button => (checkKonami direction button k).2
  | .tick => k.konamiTick

/-- The recogniser after some calls. -/
def after (calls : List Call) : Konami := calls.foldl apply clearKonami

/-- The event of a call, unless it is empty. -/
def Call.event : Call → Option (UInt8 × UInt8)
  | .check direction button =>
      if direction = 0 ∧ button = 0 then none else some (direction, button)
  | .tick => none

/-- The non-empty events of a history. -/
def events (calls : List Call) : List (UInt8 × UInt8) :=
  calls.filterMap Call.event

/-- The tick clears the recogniser. -/
def TimesOut (k : Konami) (c : Call) : Prop :=
  c = .tick ∧ k.konamiTickCount > KONAMI_TIMEOUT

instance (k : Konami) (c : Call) : Decidable (TimesOut k c) :=
  inferInstanceAs (Decidable (_ ∧ _))

/-- The event has the key in its direction or its button. -/
def Presses (key : KonamiKey) (event : UInt8 × UInt8) : Prop :=
  key.pressed event.1 event.2 = true

/-- The last non-empty events of the history are the keys, and no timeout has
struck since the first of them. -/
def Entered (keys : List KonamiKey) (calls : List Call) : Prop :=
  ∃ before during, calls = before ++ during ∧
    List.Forall₂ Presses keys (events during) ∧
    Runs.AllSteps apply (fun k c => ¬ TimesOut k c) (after before) during

variable {calls : List Call} {keys : List KonamiKey} {k : Konami}
  {direction button : UInt8}

theorem after_append (calls during : List Call) :
    after (calls ++ during) = during.foldl apply (after calls) :=
  List.foldl_append

theorem after_concat (calls : List Call) (c : Call) :
    after (calls ++ [c]) = apply (after calls) c :=
  after_append calls [c]

theorem entered_nil (calls : List Call) : Entered [] calls :=
  ⟨calls, [], (List.append_nil calls).symm, .nil, trivial⟩

/-- A call joins the history. -/
theorem Entered.concat (h : Entered keys calls) {c : Call}
    (hc : ¬ TimesOut (after calls) c) (keys' : List KonamiKey)
    (hkeys : List.Forall₂ Presses keys' c.event.toList) :
    Entered (keys ++ keys') (calls ++ [c]) := by
  obtain ⟨before, during, rfl, hpressed, hsteps⟩ := h
  have hevents : events (during ++ [c]) = events during ++ c.event.toList := by
    unfold events
    rw [List.filterMap_append]
    cases hevent : c.event with
    | none => rw [List.filterMap_cons_none hevent]; rfl
    | some event => rw [List.filterMap_cons_some hevent]; rfl
  refine ⟨before, during ++ [c], List.append_assoc .., ?_, ?_⟩
  · rw [hevents]
    exact List.rel_append hpressed hkeys
  · rw [after_append] at hc
    exact Runs.allSteps_concat hsteps hc

/-- An empty event does not matter. -/
theorem Entered.skip (h : Entered keys calls) {c : Call}
    (hc : ¬ TimesOut (after calls) c) (hevent : c.event = none) :
    Entered keys (calls ++ [c]) := by
  have hconcat := h.concat hc [] (by rw [hevent]; exact .nil)
  rwa [List.append_nil] at hconcat

/-- The next key is entered. -/
theorem Entered.press (h : Entered keys calls) {key : KonamiKey}
    (hevent : ¬ (direction = 0 ∧ button = 0))
    (hkey : key.pressed direction button = true) :
    Entered (keys ++ [key]) (calls ++ [.check direction button]) := by
  have hsome : (Call.check direction button).event =
      some (direction, button) := if_neg hevent
  refine h.concat (c := .check direction button) (fun hout => ?_) [key] ?_
  · cases hout.1
  · rw [hsome]
    exact .cons hkey .nil

/-! ## The two codes -/

/-- The code, or the reverse one. -/
def code : Bool → List KonamiKey
  | false => konamiCode
  | true => reverseKonamiCode

/-- How many keys of the code are in. -/
def entries : Bool → Konami → UInt8
  | false, k => k.konamiState
  | true, k => k.reverseKonamiState

/-- The result for the whole code. -/
def complete : Bool → UInt8
  | false => KONAMI_COMPLETE
  | true => REV_KONAMI_COMPLETE

/-- At most ten keys of one code are in, and none of the other one. -/
structure Bounded (k : Konami) : Prop where
  le : ∀ reverse, entries reverse k ≤ 10
  zero : k.konamiState = 0 ∨ k.reverseKonamiState = 0

theorem bounded_clearKonami : Bounded clearKonami :=
  ⟨fun reverse => by cases reverse <;> decide, .inl rfl⟩

/-- What a call does with an event: it completes a code, enters the next key of
one, or clears the recogniser. -/
inductive Checked (direction button : UInt8) (k : Konami) :
    UInt8 × Konami → Prop
  | completes (reverse : Bool) {key : KonamiKey}
      (hkey : (code reverse)[(entries reverse k).toNat]? = some key)
      (hpressed : key.pressed direction button = true)
      (hlast : entries reverse k = 10) :
      Checked direction button k (complete reverse, clearKonami)
  | enters (reverse : Bool) {key : KonamiKey} {k' : Konami}
      (hkey : (code reverse)[(entries reverse k).toNat]? = some key)
      (hpressed : key.pressed direction button = true)
      (hlast : entries reverse k ≠ 10)
      (hentries : entries reverse k' = entries reverse k + 1)
      (hother : entries (!reverse) k' = 0) :
      Checked direction button k (progress (entries reverse k), k')
  | clears : Checked direction button k (0, clearKonami)

theorem exists_of_continues {keys : List KonamiKey} {state other : UInt8}
    (h : continues keys state other direction button = true) :
    (state ≠ 0 ∨ other = 0) ∧
      ∃ key, keys[state.toNat]? = some key ∧
        key.pressed direction button = true := by
  unfold continues at h
  rw [Bool.and_eq_true, Bool.or_eq_true, bne_iff_ne, beq_iff_eq,
    Option.any_eq_true] at h
  exact h

theorem checked (hk : Bounded k) (hevent : ¬ (direction = 0 ∧ button = 0)) :
    Checked direction button k (checkKonami direction button k) := by
  unfold checkKonami
  rw [if_neg hevent]
  by_cases hcode : continues konamiCode k.konamiState k.reverseKonamiState
      direction button = true
  · obtain ⟨hfree, key, hkey, hpressed⟩ := exists_of_continues hcode
    have hother : k.reverseKonamiState = 0 :=
      hfree.elim (fun hne => hk.zero.resolve_left hne) id
    rw [if_pos hcode]
    by_cases hlast : k.konamiState = 10
    · rw [if_pos hlast]
      exact .completes false hkey hpressed hlast
    · rw [if_neg hlast]
      exact .enters false hkey hpressed hlast rfl hother
  · rw [if_neg hcode]
    by_cases hreverse : continues reverseKonamiCode k.reverseKonamiState
        k.konamiState direction button = true
    · obtain ⟨hfree, key, hkey, hpressed⟩ := exists_of_continues hreverse
      have hother : k.konamiState = 0 :=
        hfree.elim (fun hne => hk.zero.resolve_right hne) id
      rw [if_pos hreverse]
      by_cases hlast : k.reverseKonamiState = 10
      · rw [if_pos hlast]
        exact .completes true hkey hpressed hlast
      · rw [if_neg hlast]
        exact .enters true hkey hpressed hlast rfl hother
    · rw [if_neg hreverse]
      exact .clears

/-! ## Soundness -/

theorem entries_clearKonami (reverse : Bool) :
    entries reverse clearKonami = 0 := by
  cases reverse <;> rfl

theorem konamiTick_of_timesOut (h : TimesOut k .tick) :
    k.konamiTick = clearKonami := by
  have hpos : k.konamiTickCount ≠ 0 := by
    intro hzero
    have hlt := h.2
    rw [hzero] at hlt
    exact absurd hlt (by decide)
  unfold konamiTick
  rw [if_neg hpos, if_pos h.2]

/-- A tick that does not clear the recogniser keeps the entries. -/
theorem entries_konamiTick (h : ¬ TimesOut k .tick) (reverse : Bool) :
    entries reverse k.konamiTick = entries reverse k := by
  have hcount : ¬ k.konamiTickCount > KONAMI_TIMEOUT := fun hlt => h ⟨rfl, hlt⟩
  unfold konamiTick
  rw [if_neg hcount]
  split_ifs
  · rfl
  · cases reverse <;> rfl

theorem Bounded.of_entries (h : Bounded k) {k' : Konami}
    (hentries : ∀ reverse, entries reverse k' = entries reverse k) :
    Bounded k' := by
  refine ⟨fun reverse => hentries reverse ▸ h.le reverse, ?_⟩
  have hfirst : k'.konamiState = k.konamiState := hentries false
  have hsecond : k'.reverseKonamiState = k.reverseKonamiState := hentries true
  rw [hfirst, hsecond]
  exact h.zero

/-- The entries are bounded, and they have been entered. -/
structure Tracks (calls : List Call) : Prop where
  bounded : Bounded (after calls)
  entered : ∀ reverse,
    Entered ((code reverse).take (entries reverse (after calls)).toNat) calls

theorem tracks_of_clear (h : after calls = clearKonami) : Tracks calls := by
  refine ⟨h ▸ bounded_clearKonami, fun reverse => ?_⟩
  rw [h, entries_clearKonami]
  exact entered_nil calls

theorem toNat_add_one {n : UInt8} (hle : n ≤ 10) (hne : n ≠ 10) :
    (n + 1).toNat = n.toNat + 1 ∧ n + 1 ≤ 10 := by
  have hten : (10 : UInt8).toNat = 10 := rfl
  have hlt : n.toNat ≠ 10 := fun h => hne (UInt8.toNat_inj.mp h)
  have hbound := UInt8.le_iff_toNat_le.mp hle
  have hadd : (n + 1).toNat = n.toNat + 1 := by
    rw [UInt8.toNat_add]
    show (n.toNat + 1) % 256 = _
    omega
  refine ⟨hadd, UInt8.le_iff_toNat_le.mpr ?_⟩
  omega

theorem Tracks.tick (h : Tracks calls) : Tracks (calls ++ [.tick]) := by
  have hafter : after (calls ++ [.tick]) = (after calls).konamiTick :=
    after_concat calls .tick
  by_cases hout : TimesOut (after calls) .tick
  · exact tracks_of_clear (hafter.trans (konamiTick_of_timesOut hout))
  · have hentries := entries_konamiTick hout
    refine ⟨hafter ▸ h.bounded.of_entries hentries, fun reverse => ?_⟩
    rw [hafter, hentries]
    exact (h.entered reverse).skip hout rfl

theorem Tracks.check (h : Tracks calls) (direction button : UInt8) :
    Tracks (calls ++ [.check direction button]) := by
  have hafter : after (calls ++ [.check direction button]) =
      (checkKonami direction button (after calls)).2 :=
    after_concat calls (.check direction button)
  by_cases hevent : direction = 0 ∧ button = 0
  · have hsame : after (calls ++ [.check direction button]) = after calls := by
      rw [hafter, hevent.1, hevent.2, checkKonami_zero]
    refine ⟨hsame ▸ h.bounded, fun reverse => ?_⟩
    rw [hsame]
    exact (h.entered reverse).skip (fun hout => by cases hout.1)
      (if_pos hevent)
  · have hchecked := checked h.bounded hevent
    generalize checkKonami direction button (after calls) = result at *
    cases hchecked with
    | completes => exact tracks_of_clear hafter
    | clears => exact tracks_of_clear hafter
    | @enters reverse key k' hkey hpressed hlast hentries hother =>
        obtain ⟨hnat, hle⟩ := toNat_add_one (h.bounded.le reverse) hlast
        have hentered := (h.entered reverse).press hevent hpressed
        have htake := List.take_add_one (l := code reverse)
          (i := (entries reverse (after calls)).toNat)
        rw [hkey, ← hnat, ← hentries] at htake
        rw [← Option.toList_some, ← htake] at hentered
        refine ⟨⟨fun side => ?_, ?_⟩, fun side => ?_⟩
        · rw [hafter]
          by_cases hside : side = reverse
          · rw [hside, hentries]
            exact hle
          · rw [Bool.eq_not_of_ne hside, hother]
            decide
        · rw [hafter]
          cases reverse with
          | false => exact .inr hother
          | true => exact .inl hother
        · rw [hafter]
          by_cases hside : side = reverse
          · rw [hside]
            exact hentered
          · rw [Bool.eq_not_of_ne hside, hother]
            exact entered_nil _

theorem tracks (calls : List Call) : Tracks calls := by
  induction calls using List.reverseRecOn with
  | nil => exact tracks_of_clear rfl
  | append_singleton calls c ih =>
      cases c with
      | check direction button => exact ih.check direction button
      | tick => exact ih.tick

theorem complete_injective {reverse side : Bool}
    (h : complete reverse = complete side) : reverse = side := by
  cases reverse <;> cases side <;> first | rfl | exact absurd h (by decide)

theorem complete_ne (reverse : Bool) (state : UInt8) :
    progress state ≠ complete reverse ∧ 0 ≠ complete reverse := by
  unfold progress
  split_ifs <;> cases reverse <;> decide

/-- The keys of a code that is reported have been entered. -/
theorem entered_of_complete (reverse : Bool)
    (h : (checkKonami direction button (after calls)).1 = complete reverse) :
    Entered (code reverse) (calls ++ [.check direction button]) := by
  have htracks := tracks calls
  by_cases hevent : direction = 0 ∧ button = 0
  · rw [hevent.1, hevent.2, checkKonami_zero] at h
    exact absurd h (complete_ne reverse 0).2
  · have hchecked := checked htracks.bounded hevent
    generalize checkKonami direction button (after calls) = result at *
    cases hchecked with
    | clears => exact absurd h (complete_ne reverse 0).2
    | enters => exact absurd h (complete_ne reverse _).1
    | @completes side key hkey hpressed hlast =>
        cases complete_injective h
        have hentered := (htracks.entered reverse).press hevent hpressed
        have htake := List.take_add_one (l := code reverse)
          (i := (entries reverse (after calls)).toNat)
        rw [hkey, Option.toList_some] at htake
        rw [← htake, hlast] at hentered
        have hall : (code reverse).take ((10 : UInt8).toNat + 1) =
            code reverse := by
          cases reverse <;> rfl
        rwa [hall] at hentered

/-- In every history at most ten keys of one code are in and none of the other
one, and a code is reported only when its keys have been entered. -/
theorem recognises_only (calls : List Call) (direction button : UInt8) :
    ((after calls).konamiState ≤ 10 ∧ (after calls).reverseKonamiState ≤ 10 ∧
      ((after calls).konamiState = 0 ∨
        (after calls).reverseKonamiState = 0)) ∧
    ((checkKonami direction button (after calls)).1 = KONAMI_COMPLETE →
      Entered konamiCode (calls ++ [.check direction button])) ∧
    ((checkKonami direction button (after calls)).1 = REV_KONAMI_COMPLETE →
      Entered reverseKonamiCode (calls ++ [.check direction button])) := by
  have hbounded := (tracks calls).bounded
  exact ⟨⟨hbounded.le false, hbounded.le true, hbounded.zero⟩,
    entered_of_complete false,
    entered_of_complete true⟩

/-! ## Completeness -/

/-- The event of a key, with one component. -/
def eventOf : KonamiKey → UInt8 × UInt8
  | .direction d => (d.code, 0)
  | .button b => (0, b.code)

/-- The same keys are in. -/
def SameEntries (k k' : Konami) : Prop :=
  ∀ reverse, entries reverse k = entries reverse k'

theorem checkKonami_congr {k' : Konami} (h : SameEntries k k')
    (direction button : UInt8) :
    (checkKonami direction button k).1 = (checkKonami direction button k').1 ∧
      SameEntries (checkKonami direction button k).2
        (checkKonami direction button k').2 := by
  have hfirst : k.konamiState = k'.konamiState := h false
  have hsecond : k.reverseKonamiState = k'.reverseKonamiState := h true
  unfold checkKonami
  rw [hfirst, hsecond]
  split_ifs
  · exact ⟨rfl, h⟩
  · exact ⟨rfl, fun _ => rfl⟩
  · exact ⟨rfl, fun _ => rfl⟩
  · exact ⟨rfl, fun _ => rfl⟩
  · exact ⟨rfl, fun _ => rfl⟩
  · exact ⟨rfl, fun _ => rfl⟩

/-- The recogniser after some events. -/
def feed (k : Konami) (es : List (UInt8 × UInt8)) : Konami :=
  es.foldl (fun k e => (checkKonami e.1 e.2 k).2) k

/-- Without a timeout only the events matter. -/
theorem sameEntries_feed {k' : Konami} (h : SameEntries k k')
    (hsteps : Runs.AllSteps apply (fun k c => ¬ TimesOut k c) k calls) :
    SameEntries (calls.foldl apply k) (feed k' (events calls)) := by
  induction calls generalizing k k' with
  | nil => exact h
  | cons c rest ih =>
      obtain ⟨hc, hrest⟩ := hsteps
      cases c with
      | tick =>
          refine ih (k := k.konamiTick) (fun reverse => ?_) hrest
          rw [entries_konamiTick hc, h reverse]
      | check direction button =>
          have hstep := (checkKonami_congr h direction button).2
          by_cases hevent : direction = 0 ∧ button = 0
          · have hnone : (Call.check direction button).event = none :=
              if_pos hevent
            have hsame : apply k (.check direction button) = k := by
              show (checkKonami direction button k).2 = k
              rw [hevent.1, hevent.2, checkKonami_zero]
            rw [hsame] at hrest
            rw [List.foldl_cons, hsame, events,
              List.filterMap_cons_none hnone]
            exact ih h hrest
          · have hsome : (Call.check direction button).event =
                some (direction, button) := if_neg hevent
            rw [events, List.filterMap_cons_some hsome]
            exact ih hstep hrest

/-- The recogniser with some keys of one code in. -/
def pending (reverse : Bool) (n : Fin 11) : Konami :=
  if reverse then ⟨0, UInt8.ofNat n, 0⟩ else ⟨UInt8.ofNat n, 0, 0⟩

/-- Every bounded recogniser has the entries of one of these. -/
theorem Bounded.exists_pending (h : Bounded k) :
    ∃ reverse n, SameEntries k (pending reverse n) ∧
      ((n : ℕ) = 0 ↔ k.konamiState = 0 ∧ k.reverseKonamiState = 0) := by
  have hten : (10 : UInt8).toNat = 10 := rfl
  have hzero : ∀ m : UInt8, m.toNat = 0 ↔ m = 0 := fun m =>
    UInt8.toNat_inj (b := 0)
  have hlt : ∀ reverse, (entries reverse k).toNat < 11 := fun reverse => by
    have hle := UInt8.le_iff_toNat_le.mp (h.le reverse)
    omega
  rcases h.zero with hfirst | hsecond
  · refine ⟨true, ⟨k.reverseKonamiState.toNat, hlt true⟩, ?_, ?_⟩
    · intro reverse
      cases reverse with
      | false => exact hfirst
      | true => exact (UInt8.ofNat_toNat ..).symm
    · rw [hfirst]
      exact (hzero _).trans ⟨fun heq => ⟨rfl, heq⟩, And.right⟩
  · refine ⟨false, ⟨k.konamiState.toNat, hlt false⟩, ?_, ?_⟩
    · intro reverse
      cases reverse with
      | false => exact (UInt8.ofNat_toNat ..).symm
      | true => exact hsecond
    · rw [hsecond]
      exact (hzero _).trans ⟨fun heq => ⟨heq, rfl⟩, And.left⟩

/-- The events of a code but the last one, and the last one. -/
def front (reverse : Bool) : List (UInt8 × UInt8) :=
  ((code reverse).take 10).map eventOf

def final (reverse : Bool) : UInt8 × UInt8 :=
  ((code reverse).map eventOf).getD 10 (0, 0)

theorem complete_pending_iff : ∀ reverse side : Bool, ∀ n : Fin 11,
    (checkKonami (final reverse).1 (final reverse).2
      (feed (pending side n) (front reverse))).1 = complete reverse ↔
        (n : ℕ) = 0 := by
  decide +kernel

/-- When the next non-empty events are the keys of a code, each with one
component, and no timeout strikes among them, then the code is reported if and
only if no key of either code was in before. -/
theorem completes_iff (history during : List Call) (direction button : UInt8)
    (reverse : Bool)
    (hevents : events during ++ [(direction, button)] =
      (code reverse).map eventOf)
    (htimely : Runs.AllSteps apply (fun k c => ¬ TimesOut k c)
      (after history) during) :
    (checkKonami direction button (after (history ++ during))).1 =
        complete reverse ↔
      (after history).konamiState = 0 ∧
        (after history).reverseKonamiState = 0 := by
  have hcode : (code reverse).map eventOf =
      front reverse ++ [final reverse] := by
    cases reverse <;> rfl
  obtain ⟨hfront, hfinal⟩ := List.append_inj' (hevents.trans hcode) rfl
  have hlast : (direction, button) = final reverse :=
    List.singleton_inj.mp hfinal
  obtain ⟨side, n, hsame, hn⟩ := (tracks history).bounded.exists_pending
  have hfed := sameEntries_feed hsame htimely
  have hresult := (checkKonami_congr hfed direction button).1
  have hpending := complete_pending_iff reverse side n
  rw [← hfront, ← hlast] at hpending
  rw [after_append, hresult, hpending, hn]

/-- The calls that enter all keys of a code but the last one. -/
def keysOf (reverse : Bool) : List Call :=
  (front reverse).map fun e => .check e.1 e.2

theorem completes_iff_start :
    (checkKonami 0 Button.ps2.code (after ([] ++ keysOf false))).1 =
      KONAMI_COMPLETE :=
  (completes_iff [] (keysOf false) 0 Button.ps2.code false (by decide)
    (by decide)).mpr ⟨rfl, rfl⟩

/-- After one more `UP` in front the code is not reported. -/
theorem not_completes_upFirst :
    ¬ ∀ history during : List Call, ∀ direction button : UInt8,
      events during ++ [(direction, button)] = konamiCode.map eventOf →
      Runs.AllSteps apply (fun k c => ¬ TimesOut k c) (after history) during →
      (checkKonami direction button (after (history ++ during))).1 =
        KONAMI_COMPLETE := by
  intro h
  have hcomplete := h [.check Direction.up.code 0] (keysOf false) 0
    Button.ps2.code (by decide) (by decide)
  exact absurd hcomplete (by decide)

end ChuckLight.Firmware.Konami
