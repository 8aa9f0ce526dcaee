import ChuckLight.Dmx.Failures
import ChuckLight.Threads.StopServer

/-!
# Quitting

The command `q` of the user interface stops the server and then clears the
lights.  No worker may be alive then, or it would light them again.
-/

namespace ChuckLight

open Java

namespace DefaultDMX

open LatestWrite

/-- Groups that return have stored and sent all their values, whatever writes
may fail later. -/
theorem runGroups_eq_ok {gs : List Group} {d d' : DefaultDMX}
    (h : runGroups gs d = .ok () d') :
    (∀ a, d'.dmxShadow a =
      (latest Group.supplies gs a).getD (d.dmxShadow a)) ∧
    d'.sysfs = d.sysfs ++ gs.flatMap Group.messages := by
  induction gs generalizing d with
  | nil =>
      cases h
      exact ⟨fun _ => rfl, (List.append_nil _).symm⟩
  | cons g rest ih =>
      rw [runGroups_cons] at h
      rcases g.setDMX_cases d with
        ⟨-, -, hok⟩ | ⟨-, k, -, e, d₁, herror, -⟩
      · rw [bind_of_ok hok] at h
        obtain ⟨hshadow, hsysfs⟩ := ih h
        refine ⟨fun a => ?_, ?_⟩
        · rw [hshadow, latest_cons]
          cases latest Group.supplies rest a with
          | some v => rfl
          | none => rfl
        · rw [hsysfs, List.flatMap_cons, ← List.append_assoc]
          rfl
      · rw [bind_of_error herror] at h
        cases h

/-- Every value is zero, and the last writes are those that make it so. -/
def Dark (d : DefaultDMX) : Prop :=
  (∀ a : Fin 513, 1 ≤ (a : ℕ) → d.dmxShadow a = 0) ∧
    Call.clearDMX.groups.flatMap Group.messages <:+ d.sysfs

theorem dark_of_clearDMX {d d' : DefaultDMX}
    (h : DefaultDMX.clearDMX d = .ok () d') : Dark d' := by
  rw [clearDMX_eq] at h
  obtain ⟨hshadow, hsysfs⟩ := runGroups_eq_ok h
  refine ⟨fun a ha => ?_, d.sysfs, hsysfs.symm⟩
  rw [hshadow, Call.latest_groups, show Call.clearDMX.supplies a = some 0 from
    if_pos ha]
  rfl

end DefaultDMX

namespace Shutdown

open Server Statement

/-- The workers that can be alive have still to be stopped; once nothing is
pending, the lights are out. -/
structure Darkens (t : Shutdown) : Prop where
  since : ∃ mode index o, Since (fun _ => 0) (fun _ => False) mode index o
    t.process.server ∧ ∀ k, o = some k → .redrum k ∈ t.pending
  suffix : t.pending <:+ quit
  dark : t.pending = [] → t.process.server.rig.dmx.Dark

variable {colorConverter : XYConverter} {p q : Process} {t : Shutdown}
  {dmx : DefaultDMX} {profiles : List FixtureProfile}
  {file : Option (List Char)} {e : ShutdownEvent} {x : Statement}

theorem leads_clearDMX :
    Leads (fun _ => True) (Statement.run .clearDMX)
      fun s => s.rig.dmx.Dark := by
  have hdriver : Leads (fun _ => True) DefaultDMX.clearDMX
      DefaultDMX.Dark := by
    intro d _
    cases hclear : DefaultDMX.clearDMX d with
    | ok u d' => exact DefaultDMX.dark_of_clearDMX hclear
    | error e d' => trivial
  have hrig : Leads (fun _ => True) (Rig.callDmx DefaultDMX.clearDMX)
      fun r => r.dmx.Dark :=
    Triple.zoom hdriver (fun _ _ => trivial) (fun _ _ _ _ h => h)
      fun _ _ _ _ _ => trivial
  have hserver : Leads (fun _ => True)
      (onRig (Rig.callDmx DefaultDMX.clearDMX)) fun s => s.rig.dmx.Dark :=
    Triple.zoom hrig (fun _ _ => trivial) (fun _ _ _ _ h => h)
      fun _ _ _ _ _ => trivial
  have hexit : Leads (fun _ => True) (throw .exited : Run Server Unit)
      fun s => s.rig.dmx.Dark := Leads.throw _
  exact Triple.catchIOException_of
    (hserver.conseq (fun _ h => h) (fun _ _ h => h)
      fun _ _ _ => ⟨trivial, fun _ => trivial⟩) hexit

/-- The last statement is the one that clears the lights. -/
theorem eq_clearDMX_of_suffix (h : [x] <:+ quit) : x = .clearDMX := by
  obtain ⟨before, heq⟩ := h
  have hlast := congrArg List.getLast? heq
  rw [List.getLast?_concat] at hlast
  exact Option.some.inj hlast

theorem darkens_tick (h : Darkens t) (k : WorkerField) (i : ℕ) :
    Darkens { t with
      process := Process.step colorConverter t.process (.tick k i) } := by
  obtain ⟨⟨mode, index, o, hs, ho⟩, hsuffix, hdark⟩ := h
  have htick : Preserves (Since (fun _ => 0) (fun _ => False) mode index o)
      (tick k i) := since_tick k i
  refine ⟨⟨mode, index, o, Process.step_server hs htick fun _ => hs, ho⟩,
    hsuffix, fun hnil => ?_⟩
  have hidle : ((t.process.server).slots k).Idle :=
    (hs.slots k).staffed.idle fun hk => by
      have hpending := ho k hk
      rw [show t.pending = [] from hnil] at hpending
      cases hpending
  have hsame : Triple (fun s => t.process.server = s) (tick k i)
      (fun _ s => t.process.server = s) (fun _ s => t.process.server = s) := by
    rintro s rfl
    rw [tick_of_idle hidle]
  have heq : t.process.server =
      (Process.step colorConverter t.process (.tick k i)).server :=
    Process.step_server (p := t.process) (e := .tick k i) rfl hsame
      fun _ => rfl
  show (Process.step colorConverter t.process _).server.rig.dmx.Dark
  rw [← heq]
  exact hdark hnil

theorem darkens_advance (h : Darkens t) (hended : t.advance.ended = none) :
    Darkens t.advance := by
  rcases advance_cases t with
    heq | ⟨x, rest, hpending, ⟨s, hrun, hprocess, hrest, -⟩ |
      ⟨a, s, -, -, -, herror⟩⟩
  · rw [heq]
    exact h
  · obtain ⟨⟨mode, index, o, hs, ho⟩, hsuffix, -⟩ := h
    rw [hpending] at ho hsuffix
    have hlast : rest = [] → x = .clearDMX := fun hnil =>
      eq_clearDMX_of_suffix (hnil ▸ hsuffix)
    refine ⟨?_, hrest ▸ (List.suffix_cons x rest).trans hsuffix, ?_⟩
    · rw [hprocess, hrest]
      cases x with
      | redrum k =>
          refine ⟨mode, index, if o = some k then none else o,
            (triple_redrumUnlessNull_since (fun _ _ hs => hs)
              fun k' hk hk' => ?_).of_ok hs hrun, fun k' hk' => ?_⟩
          · rw [hk']
            exact if_neg fun heq => hk (Option.some.inj heq)
          · split_ifs at hk' with hk
            have hmem := ho k' hk'
            refine List.mem_of_ne_of_mem (fun heq => hk ?_) hmem
            rw [hk', Statement.redrum.inj heq]
      | endLoop =>
          cases hrun
          exact ⟨mode, index, o, hs, fun k hk =>
            (List.mem_cons.mp (ho k hk)).resolve_left nofun⟩
      | clearDMX =>
          have hclear : Preserves
              (Since (fun _ => 0) (fun _ => False) mode index o)
              (Statement.run .clearDMX) :=
            Preserves.catchIOException (frame_since.onRig _)
              (Preserves.throw _)
          exact ⟨mode, index, o, hclear.of_ok hs hrun, fun k hk =>
            (List.mem_cons.mp (ho k hk)).resolve_left nofun⟩
    · rw [hprocess, hrest]
      intro hnil
      cases hlast hnil
      exact leads_clearDMX.of_ok trivial hrun
  · rw [hended] at herror
    cases herror

/-- As long as no statement has ended abruptly. -/
def DarkensOn (t : Shutdown) : Prop := t.ended = none → Darkens t

theorem darkensOn_step (h : DarkensOn t) (htakes : TakesNone e) :
    DarkensOn (step colorConverter t e) := by
  refine step_of h (fun e' he hopen => ?_) fun _ hopen =>
    darkens_advance (h hopen)
  subst he
  cases e' with
  | packet random receiveData => exact htakes.elim
  | tick k i => exact darkens_tick (h hopen) k i

/-- The command `q` leaves the lights dark, unless the server chases: if the
loop takes no datagram meanwhile, then once everything has returned all values
are zero, and they stay so whatever steps the workers make. -/
theorem dark_of_quit {before : List Event} {events : List ShutdownEvent}
    (hstart : Process.Starts dmx profiles file p)
    (hbefore : Runs.AllSteps (Process.step colorConverter) Process.Tells p
      before)
    (hq : q ∈ Runs.states (Process.step colorConverter) p before)
    (hended : q.ended = none) (hmode : q.server.currentState ≠ .CHASE)
    (hnone : ∀ e ∈ events, TakesNone e)
    (ht : t ∈ Runs.states (step colorConverter) (call q quit) events)
    (hreturned : t.pending = []) (ht_ended : t.ended = none) :
    t.process.server.rig.dmx.Dark := by
  have hsettled : Process.While
      (Custody.Settled (Since (fun _ => 0) fun _ => False)) q :=
    Runs.invariant (fun _ _ h hok => Process.while_since_step h hok)
      (fun _ => Process.since_of_starts hstart) hbefore q hq
  have hcall : Darkens (call q quit) := by
    refine ⟨⟨_, _, _, (hsettled hended).2, fun k hk => ?_⟩,
      List.suffix_refl quit, nofun⟩
    cases k with
    | chase => exact absurd (owner_chase hk) hmode
    | _ => exact show _ ∈ quit by decide
  have hdarkens : DarkensOn t :=
    Runs.invariant (fun _ _ h htakes => darkensOn_step h htakes)
      (fun _ => hcall) (Runs.allSteps_of_forall (fun e he _ => hnone e he) _)
      t ht
  exact (hdarkens ht_ended).dark hreturned

/-- Without failures the last statement returns. -/
theorem advance_clearDMX (hpending : t.pending = [.clearDMX])
    (h : t.process.server.rig.dmx.NoFault) :
    t.advance.pending = [] ∧ t.advance.ended = t.ended := by
  have hclear := DefaultDMX.accepted_clearDMX.run_eq h
  have hrun : Statement.run .clearDMX t.process.server = _ :=
    catchIOException_of_ok (zoom_of_ok (zoom_of_ok hclear))
  unfold advance
  simp only [hpending, hrun, and_self]

/-- All statements but the last one. -/
def almostQuit : Shutdown :=
  (List.replicate 5 ShutdownEvent.statement).foldl (step fun _ _ => Color.WHITE)
    (call (pressed []) quit)

/-- The command `q` in the idle mode. -/
def idleQuit : Shutdown :=
  (List.replicate 5 ShutdownEvent.statement ++ [ShutdownEvent.statement]).foldl
    (step fun _ _ => Color.WHITE) (call (pressed []) quit)

theorem idleQuit_eq : idleQuit = almostQuit.advance := by
  have hstep : step (fun _ _ => Color.WHITE) almostQuit .statement =
      almostQuit.advance := if_neg (by decide +kernel)
  unfold idleQuit
  rw [List.foldl_append, List.foldl_cons, List.foldl_nil]
  exact hstep

theorem dark_of_quit_idle : idleQuit.process.server.rig.dmx.Dark := by
  have hnone : ∀ e ∈ List.replicate 5 ShutdownEvent.statement ++ [.statement],
      TakesNone e := by
    intro e he
    rcases List.mem_append.mp he with he | he
    · rw [List.eq_of_mem_replicate he]
      trivial
    · rw [List.mem_singleton.mp he]
      trivial
  have hpending : almostQuit.pending = [.clearDMX] := by decide +kernel
  have hended : almostQuit.ended = none := by decide +kernel
  obtain ⟨hreturned, hopen⟩ := advance_clearDMX hpending rfl
  rw [← idleQuit_eq] at hreturned hopen
  have hmem : idleQuit ∈ Runs.states (step fun _ _ => Color.WHITE)
      (call (pressed []) quit)
      (List.replicate 5 ShutdownEvent.statement ++ [.statement]) :=
    Runs.foldl_mem_states
  exact dark_of_quit Process.starts_oneLight
    (allSteps_buttons (by decide) tells_button _) (pressed_mem_states []) rfl
    (by decide) hnone hmem hreturned (hopen.trans hended)

end Shutdown

end ChuckLight
