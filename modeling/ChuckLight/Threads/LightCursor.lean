import ChuckLight.Support.Carousel
import ChuckLight.Threads.Modes
import ChuckLight.Threads.Selection

/-!
# The cursor over the lights

The light selection moves a cursor over the lights.  Both directions move it
back by one, so that the buttons steer as they are labelled only in a show of
one or two lights.
-/

namespace ChuckLight

open Java Connection

namespace Server

variable {n cursor : ℕ} {mode : Mode}

/-- In a mode, the cursor is at one of `n` lights. -/
structure Points (n : ℕ) (mode : Mode) (cursor : ℕ) (s : Server) : Prop where
  length : s.rig.profiles.length = n
  lt : cursor < n
  state : s.currentState = mode
  cursor : s.currentLightIndex = (cursor : ℤ)

theorem working_points : Working (Points n mode cursor) where
  rig := fun _ _ hr h =>
    ⟨(Rig.length_of_sizes hr.sizes).trans h.length, h.lt, h.state, h.cursor⟩
  object := fun _ _ _ _ _ _ hstage h =>
    ⟨(Rig.length_of_sizes hstage.rig.sizes).trans h.length, h.lt, h.state,
      h.cursor⟩
  fields := fun _ _ _ _ _ _ h => ⟨h.length, h.lt, h.state, h.cursor⟩
  slots := fun _ _ h => ⟨h.length, h.lt, h.state, h.cursor⟩
  control := fun _ _ h => ⟨h.length, h.lt, h.state, h.cursor⟩

theorem leads_moveLightIndex_points :
    Leads (Points n mode cursor) moveLightIndex
      (Points n mode (Carousel.last n cursor)) := by
  intro s h
  have hlt := Carousel.last_lt h.lt
  rw [moveLightIndex_eq]
  refine ⟨h.length, hlt, h.state, ?_⟩
  have hcursor := h.cursor
  have hlength := h.length
  have hbefore := h.lt
  unfold Carousel.last
  dsimp only
  split_ifs <;> omega

theorem leads_stepLight_points :
    Leads (Points n mode cursor) stepLight
      (Points n mode (Carousel.last n cursor)) :=
  working_points.leaveLight.leads.bind fun _ =>
    leads_moveLightIndex_points.bind fun _ => working_points.enterLight.leads

/-- The buttons for both directions move the cursor back. -/
theorem leads_processCommand_points (colorConverter : XYConverter)
    (random : ℕ → Color) {command : WirelessCommand}
    (hinterprets : Interprets command)
    (hdata : command.parse.2.dataType = USER_ACTION_DATA)
    (haction : command.parse.2.userActionData = LEFT ∨
      command.parse.2.userActionData = RIGHT) :
    Leads (Points n .LIGHT_SELECTION cursor)
      (processCommand colorConverter random command)
      (Points n .LIGHT_SELECTION (Carousel.last n cursor)) := by
  have hdebug : debugSwitch command.parse.2 = pure false := by
    unfold debugSwitch
    rcases haction with haction | haction <;> rw [haction] <;> rfl
  have hmode : lightSelectionMode command.parse.2 =
      (do stepLight; return false) := by
    unfold lightSelectionMode
    rw [if_neg (not_not.mpr hdata)]
    rcases haction with haction | haction <;> rw [haction] <;> rfl
  have hmain : Leads (Points n .LIGHT_SELECTION cursor)
      (mainSwitch colorConverter random command.parse.2)
      (Points n .LIGHT_SELECTION (Carousel.last n cursor)) := by
    refine Leads.get_bind_eq fun s h => ?_
    rw [h.state]
    show Leads _ (lightSelectionMode _) _
    rw [hmode]
    exact leads_stepLight_points.returning.of_eq h
  rw [processCommand_of_interprets hinterprets, hdebug]
  refine hmain.bind fun beat => Leads.ite (fun _ => ?_) fun _ =>
    Leads.pure _ fun _ h => h
  exact Leads.modify fun _ h => ⟨h.length, h.lt, h.state, h.cursor⟩

/-- The cursor is at one of `n` lights. -/
def Within (n : ℕ) (s : Server) : Prop :=
  ∃ cursor, Points n s.currentState cursor s

theorem modeless_within : Modeless (Within n) where
  rig := fun s r hr ⟨cursor, h⟩ => ⟨cursor, working_points.rig s r hr h⟩
  object := fun s k i stage w hw hstage ⟨cursor, h⟩ =>
    ⟨cursor, working_points.object s k i stage w hw hstage h⟩
  fields := fun _ _ _ _ _ _ ⟨cursor, h⟩ =>
    ⟨cursor, h.length, h.lt, h.state, h.cursor⟩
  slots := fun _ _ ⟨cursor, h⟩ => ⟨cursor, h.length, h.lt, h.state, h.cursor⟩
  control := fun _ _ ⟨cursor, h⟩ =>
    ⟨cursor, h.length, h.lt, h.state, h.cursor⟩
  marks := fun _ _ hr ⟨cursor, h⟩ =>
    ⟨cursor, (Rig.length_of_sizes hr.sizes).trans h.length, h.lt, h.state,
      h.cursor⟩
  moveLightIndex := fun s ⟨cursor, h⟩ => by
    have hmoved := leads_moveLightIndex_points s h
    rw [moveLightIndex_eq] at hmoved ⊢
    exact ⟨_, hmoved⟩
  mode := fun _ _ _ ⟨cursor, h⟩ => ⟨cursor, h.length, h.lt, rfl, h.cursor⟩
  saveScene := fun _ ⟨cursor, h⟩ => ⟨cursor, h.length, h.lt, h.state, h.cursor⟩

theorem within_onScenes {α : Type} (x : Run SceneManager α) :
    Preserves (Within n) (onScenes x) :=
  Preserves.zoom x fun _ _ ⟨cursor, h⟩ =>
    ⟨cursor, h.length, h.lt, h.state, h.cursor⟩

end Server

namespace Process

open Server

variable {colorConverter : XYConverter} {p : Process} {e : Event} {n : ℕ}

/-! ## Runs -/

theorem within_step (h : Within n p.server) :
    Within n (step colorConverter p e).server := by
  cases e with
  | packet random receiveData =>
      have hidle : Preserves (Within n)
          (idleMode (WirelessCommand.new receiveData).parse.2) :=
        modeless_within.idleMode within_onScenes _
      exact step_server (p := p) (e := .packet random receiveData) h
        (modeless_within.processCommand colorConverter random hidle)
        fun _ => h
  | tick k i =>
      exact step_server (p := p) (e := .tick k i) h
        (modeless_within.ticks.tick k i) fun _ => h

variable {dmx : DefaultDMX} {profiles : List FixtureProfile}
  {file : Option (List Char)} {events : List Event}

theorem within_of_starts (hstart : Starts dmx profiles file p)
    (hlights : profiles ≠ []) : Within profiles.length p.server := by
  have hinit : Within profiles.length (init dmx profiles file) :=
    ⟨0, rfl, List.length_pos_of_ne_nil hlights, rfl, rfl⟩
  have hscenes : Preserves (Within profiles.length) startScenes :=
    preserves_getDmx.bind fun _ => (within_onScenes _).bind fun _ =>
      within_onScenes _
  exact hscenes.of_ok hinit hstart.1

/-- In every run the cursor is at one of the lights. -/
theorem within_of_run (hstart : Starts dmx profiles file p)
    (hlights : profiles ≠ []) :
    ∀ t ∈ Runs.states (step colorConverter) p events,
      Within profiles.length t.server :=
  Runs.invariant (fun _ _ h _ => within_step h)
    (within_of_starts hstart hlights) (Runs.allSteps_true p events)

/-! ## Steering -/

/-- A step of a worker. -/
def IsTick : Event → Prop
  | .packet _ _ => False
  | .tick _ _ => True

/-- One button, steps of workers, and another button. -/
def pressBoth (colorConverter : XYConverter) (p : Process)
    (first second : Event) (between : List Event) : Process :=
  step colorConverter
    (between.foldl (step colorConverter) (step colorConverter p first)) second

/-- The buttons move the cursor on and back by one, modulo the number of
lights, and each takes back what the other one does. -/
structure Steers (colorConverter : XYConverter) (n : ℕ) (p : Process)
    (right left : Event) (between : List Event) : Prop where
  advances : (step colorConverter p right).server.currentLightIndex =
    (p.server.currentLightIndex + 1) % n
  retreats : (step colorConverter p left).server.currentLightIndex =
    (p.server.currentLightIndex - 1) % n
  rightLeft :
    (pressBoth colorConverter p right left between).server.currentLightIndex =
      p.server.currentLightIndex
  leftRight :
    (pressBoth colorConverter p left right between).server.currentLightIndex =
      p.server.currentLightIndex

variable {cursor : ℕ} {between : List Event}

theorem while_points_press (h : While (Points n .LIGHT_SELECTION cursor) p)
    (hpresses : Presses LEFT e ∨ Presses RIGHT e) :
    While (Points n .LIGHT_SELECTION (Carousel.last n cursor))
      (step colorConverter p e) := by
  cases e with
  | tick k i => exact hpresses.elim False.elim False.elim
  | packet random receiveData =>
      obtain ⟨hinterprets, hdata⟩ :
          Interprets (.new receiveData) ∧
            (WirelessCommand.new receiveData).parse.2.dataType =
              USER_ACTION_DATA :=
        hpresses.elim (fun h => ⟨h.1, h.2.1⟩) fun h => ⟨h.1, h.2.1⟩
      have haction := hpresses.imp (fun h => h.2.2) fun h => h.2.2
      refine while_step (e := .packet random receiveData) h
        (leads_processCommand_points colorConverter random hinterprets hdata
          haction) fun hignores hended => ?_
      have hsome : p.ended.isSome = true := hignores
      rw [hended] at hsome
      cases hsome

theorem while_points_ticks {mode : Mode}
    (h : While (Points n mode cursor) p) (hticks : ∀ e ∈ between, IsTick e) :
    While (Points n mode cursor) (between.foldl (step colorConverter) p) := by
  induction between generalizing p with
  | nil => exact h
  | cons e rest ih =>
      refine ih ?_ fun e he => hticks e (List.mem_cons_of_mem _ he)
      cases e with
      | packet random receiveData =>
          exact (hticks _ (List.mem_cons_self ..)).elim
      | tick k i =>
          exact while_step (e := .tick k i) h
            (working_points.ticks.tick k i).leads fun _ => h

theorem while_points_pressBoth {first second : Event}
    (h : While (Points n .LIGHT_SELECTION cursor) p)
    (hfirst : Presses LEFT first ∨ Presses RIGHT first)
    (hsecond : Presses LEFT second ∨ Presses RIGHT second)
    (hticks : ∀ e ∈ between, IsTick e) :
    While (Points n .LIGHT_SELECTION (Carousel.last n (Carousel.last n cursor)))
      (pressBoth colorConverter p first second between) :=
  while_points_press
    (while_points_ticks (while_points_press h hfirst) hticks) hsecond

theorem ended_of_foldl
    (h : (between.foldl (step colorConverter) p).ended = none) :
    p.ended = none := by
  induction between generalizing p with
  | nil => exact h
  | cons e rest ih => exact (run_of_ended_eq_none (ih h)).1

/-- The first of two buttons has been handled if the second one has. -/
theorem ended_of_pressBoth {first second : Event}
    (h : (pressBoth colorConverter p first second between).ended = none) :
    (step colorConverter p first).ended = none :=
  ended_of_foldl (run_of_ended_eq_none h).1

/-- In every state of every run that the light selection reaches, the buttons
steer as they are labelled if and only if there are at most two lights. -/
theorem steers_iff (hstart : Starts dmx profiles file p)
    (hlights : profiles ≠ []) {t : Process}
    (ht : t ∈ Runs.states (step colorConverter) p events)
    (hmode : t.server.currentState = .LIGHT_SELECTION) {right left : Event}
    (hright : Presses RIGHT right) (hleft : Presses LEFT left)
    (hticks : ∀ e ∈ between, IsTick e)
    (hrightLeft : (pressBoth colorConverter t right left between).ended = none)
    (hleftRight :
      (pressBoth colorConverter t left right between).ended = none) :
    Steers colorConverter profiles.length t right left between ↔
      profiles.length ≤ 2 := by
  obtain ⟨cursor, hpoints⟩ := within_of_run hstart hlights t ht
  rw [hmode] at hpoints
  generalize profiles.length = n at hpoints ⊢
  have hlt := hpoints.lt
  have hafterRight := while_points_press (fun _ => hpoints) (.inr hright)
    (ended_of_pressBoth hrightLeft)
  have hafterLeft := while_points_press (fun _ => hpoints) (.inl hleft)
    (ended_of_pressBoth hleftRight)
  have hafterBoth := while_points_pressBoth (fun _ => hpoints) (.inr hright)
    (.inl hleft) hticks hrightLeft
  have hafterBoth' := while_points_pressBoth (fun _ => hpoints) (.inl hleft)
    (.inr hright) hticks hleftRight
  have hnext : (Carousel.next n cursor : ℤ) = ((cursor : ℤ) + 1) % n := by
    rw [Carousel.next_eq_mod hlt]
    norm_cast
  have hback := Carousel.last_next hlt
  constructor
  · rintro ⟨hadvances, -, -, -⟩
    rw [hafterRight.cursor, hpoints.cursor, ← hnext] at hadvances
    exact (Carousel.next_eq_last_iff hlt).mp (Int.ofNat_inj.mp hadvances.symm)
  · intro hle
    rw [(Carousel.next_eq_last_iff hlt).mpr hle] at hnext hback
    refine ⟨?_, ?_, ?_, ?_⟩
    · rw [hafterRight.cursor, hpoints.cursor, hnext]
    · rw [hafterLeft.cursor, hpoints.cursor, Carousel.last_eq_emod hlt]
    · rw [hafterBoth.cursor, hpoints.cursor, hback]
    · rw [hafterBoth'.cursor, hpoints.cursor, hback]

/-- Two lights are selected, one after the other. -/
def selectsBoth : List Event :=
  [button B1, button PS2, button RIGHT, button PS2]

theorem steers_selectsBoth :
    Steers (fun _ _ => Color.WHITE) 2
      (selectsBoth.foldl (step fun _ _ => Color.WHITE) twoLights)
      (button RIGHT) (button LEFT) [.tick .highlight 0] := by
  have hright : Presses RIGHT (button RIGHT) :=
    ⟨by decide, by decide, by decide⟩
  have hleft : Presses LEFT (button LEFT) := ⟨by decide, by decide, by decide⟩
  have hticks : ∀ e ∈ [Event.tick .highlight 0], IsTick e := fun e he =>
    List.mem_singleton.mp he ▸ trivial
  have hreached : selectsBoth.foldl (step fun _ _ => Color.WHITE) twoLights ∈
      Runs.states (step fun _ _ => Color.WHITE) twoLights selectsBoth :=
    Runs.foldl_mem_states
  refine (steers_iff starts_twoLights (List.cons_ne_nil _ _) hreached ?_
    hright hleft hticks ?_ ?_).mpr (Nat.le_refl 2)
  · decide +kernel
  · decide +kernel
  · decide +kernel

def threeProfiles : List FixtureProfile :=
  [parLight, { parLight with address := 5 }, { parLight with address := 9 }]

/-- The server in its loop, with three lights. -/
def threeLights : Process where
  server := stateAfter startScenes (init blackout threeProfiles none)
  ended := none

/-- All three lights are selected, and the cursor is at the second one. -/
def allSelected : Process :=
  (selectsBoth ++ [button RIGHT, button PS2]).foldl
    (step fun _ _ => Color.WHITE) threeLights

/-- The button for the next light leads back to the first one. -/
theorem not_steers_threeLights :
    Starts blackout threeProfiles none threeLights ∧
      ¬ ∀ t ∈ Runs.states (step fun _ _ => Color.WHITE) threeLights
          (selectsBoth ++ [button RIGHT, button PS2]),
        t.server.currentState = .LIGHT_SELECTION →
          (pressBoth (fun _ _ => Color.WHITE) t (button RIGHT) (button LEFT)
            []).ended = none →
          (pressBoth (fun _ _ => Color.WHITE) t (button LEFT) (button RIGHT)
            []).ended = none →
            Steers (fun _ _ => Color.WHITE) 3 t (button RIGHT) (button LEFT)
              [] := by
  refine ⟨⟨rfl, rfl⟩, fun h => ?_⟩
  have hrun : allSelected.server.currentState = .LIGHT_SELECTION ∧
      (pressBoth (fun _ _ => Color.WHITE) allSelected (button RIGHT)
        (button LEFT) []).ended = none ∧
      (pressBoth (fun _ _ => Color.WHITE) allSelected (button LEFT)
        (button RIGHT) []).ended = none ∧
      (step (fun _ _ => Color.WHITE) allSelected
        (button RIGHT)).server.currentLightIndex ≠
          (allSelected.server.currentLightIndex + 1) % 3 := by
    decide +kernel
  obtain ⟨hstate, hrightLeft, hleftRight, hindex⟩ := hrun
  have hsteers := h allSelected Runs.foldl_mem_states hstate hrightLeft
    hleftRight
  exact hindex hsteers.advances

end Process

end ChuckLight
