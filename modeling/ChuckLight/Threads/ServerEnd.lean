import ChuckLight.Support.Fairness
import ChuckLight.Threads.ServerThreads

/-!
# The end of the threads of the server

`stopServer` tells the listener to end, interrupts it and waits for its end,
does the same with the heartbeat thread, and closes the socket.  A thread that
has begun ends when it is told to, but the listener tests its flag only when a
datagram has arrived, and the heartbeat thread may have to wait until the loop
has left the monitor.
-/

namespace ChuckLight

inductive ServerActor where
  | network
  | listener
  | heartbeat
  | loop
  | userInterface
  deriving DecidableEq

namespace ServerThreads

variable {t t' : ServerThreads} {e : ThreadEvent} {events : List ThreadEvent}

/-! ## Who is waited for -/

/-- Whose turn an event is. -/
def actor : ThreadEvent → ServerActor
  | .arrive _ => .network
  | .listen => .listener
  | .beat => .heartbeat
  | .loop => .loop
  | .stop => .userInterface

/-- The actor whose turn brings `stopServer` nearer to its end. -/
def awaited (t : ServerThreads) : ServerActor :=
  match t.stop with
  | .joinListen =>
      if t.listen = .ended then .userInterface
      else if t.listen = .receive ∧ t.socket = [] then .network
      else .listener
  | .joinBeat =>
      if t.beat = .ended then .userInterface
      else if t.beat = .sendHeartbeat ∧ t.sending = true then .loop
      else .heartbeat
  | _ => .userInterface

/-- The way of the listener to its end, once it has been told. -/
def listensIn (t : ServerThreads) : ℕ :=
  match t.listen with
  | .start => 0
  | .whileTest => 1
  | .receive => if t.socket = [] then 5 else 4
  | .isInterrupted => 3
  | .put => 2
  | .ended => 0

/-- The way of the heartbeat thread to its end, once it has been told. -/
def beatsIn (t : ServerThreads) : ℕ :=
  match t.beat with
  | .start => 0
  | .whileTest => 1
  | .sendHeartbeat => if t.sending = true then 5 else 4
  | .send => 3
  | .sleep => 2
  | .ended => 0

/-- A bound for the rounds to the end of `stopServer`. -/
def stopsIn (t : ServerThreads) : ℕ :=
  if t.exited = true then 0
  else
    match t.stop with
    | .redrumListen => 17
    | .interruptListen => 16
    | .joinListen => 10 + t.listensIn
    | .redrumBeat => 9
    | .interruptBeat => 8
    | .joinBeat => 2 + t.beatsIn
    | .close => 1
    | .returned => 0

/-- Both threads have begun; they end when they are told to. -/
structure Begun (t : ServerThreads) : Prop where
  listen : t.listen ≠ .start
  beat : t.beat ≠ .start
  toldListen : t.stop = .interruptListen ∨ t.stop = .joinListen →
    t.listenRunning = false
  toldBeat : t.stop = .interruptBeat ∨ t.stop = .joinBeat →
    t.beatRunning = false
  closed : t.closed = true → t.stop = .returned

theorem closed_stops (h : t.closed = true → t.stop = .returned)
    (hstops : Stops t t') : t'.closed = true → t'.stop = .returned := by
  intro hclosed
  cases hstops with
  | closes => rfl
  | awaitsListen | awaitsBeat | rests => exact h hclosed
  | _ hat => exact nomatch hat.symm.trans (h hclosed)

theorem listensIn_le (t : ServerThreads) : t.listensIn ≤ 5 := by
  unfold listensIn
  split
  case h_3 => split_ifs <;> decide
  all_goals decide

theorem beatsIn_le (t : ServerThreads) : t.beatsIn ≤ 5 := by
  unfold beatsIn
  split
  case h_3 => split_ifs <;> decide
  all_goals decide

theorem stopsIn_eq_zero_iff :
    stopsIn t = 0 ↔ t.exited = true ∨ t.stop = .returned := by
  unfold stopsIn
  split_ifs with hexited
  · exact ⟨fun _ => .inl hexited, fun _ => rfl⟩
  · cases hstop : t.stop <;> simp [hexited]

theorem stopsIn_le (t : ServerThreads) : stopsIn t ≤ 17 := by
  have hlisten := listensIn_le t
  have hbeat := beatsIn_le t
  unfold stopsIn
  split_ifs
  · exact Nat.zero_le _
  · split <;> omega

theorem joinListen_of_awaited
    (h : awaited t = .network ∨ awaited t = .listener) :
    t.stop = .joinListen := by
  by_contra hstop
  unfold awaited at h
  split at h
  · exact hstop ‹_›
  · split_ifs at h <;> rcases h with h | h <;> cases h
  · rcases h with h | h <;> cases h

theorem joinBeat_of_awaited (h : awaited t = .heartbeat ∨ awaited t = .loop) :
    t.stop = .joinBeat := by
  by_contra hstop
  unfold awaited at h
  split at h
  · split_ifs at h <;> rcases h with h | h <;> cases h
  · exact hstop ‹_›
  · rcases h with h | h <;> cases h

/-- A turn of `a` brings `stopServer` nearer to its end, or `a` was not the
actor that it waits for. -/
def Advances (t : ServerThreads) (a : ServerActor) (t' : ServerThreads) :
    Prop :=
  stopsIn t' < stopsIn t ∨
    awaited t ≠ a ∧ stopsIn t' ≤ stopsIn t ∧ awaited t' = awaited t

theorem advances_self {a : ServerActor} (h : awaited t ≠ a) :
    Advances t a t :=
  .inr ⟨h, Nat.le_refl _, rfl⟩

section

variable (hexited : t.exited = false)

include hexited

theorem stopsIn_joinListen (hstop : t.stop = .joinListen) :
    stopsIn t = 10 + t.listensIn := by
  unfold stopsIn
  rw [hexited, hstop]
  rfl

theorem stopsIn_joinBeat (hstop : t.stop = .joinBeat) :
    stopsIn t = 2 + t.beatsIn := by
  unfold stopsIn
  rw [hexited, hstop]
  rfl

theorem advances_exited (hstop : t.stop ≠ .returned) (a : ServerActor) :
    Advances t a { t with exited := true } := by
  refine .inl (Nat.pos_of_ne_zero fun hzero => ?_)
  rcases stopsIn_eq_zero_iff.mp hzero with h | h
  · rw [hexited] at h
    cases h
  · exact hstop h

/-- What changes only the listener and the queues matters only while the
listener is waited for. -/
theorem advances_of_ne_joinListen {a : ServerActor}
    (hstop : t.stop ≠ .joinListen) (ha : a = .network ∨ a = .listener)
    (hexited' : t'.exited = false)
    (hsame : t'.stop = t.stop ∧ t'.beat = t.beat ∧ t'.sending = t.sending) :
    Advances t a t' := by
  obtain ⟨hstop', hbeat, hsending⟩ := hsame
  refine .inr ⟨?_, ?_, ?_⟩
  · rintro rfl
    exact hstop (joinListen_of_awaited ha)
  · unfold stopsIn beatsIn
    rw [hexited, hexited', hstop', hbeat, hsending]
    cases hat : t.stop <;> first | exact Nat.le_refl _ | exact absurd hat hstop
  · unfold awaited
    rw [hstop', hbeat, hsending]
    cases hat : t.stop <;> first | rfl | exact absurd hat hstop

/-- What changes only the heartbeat thread and its monitor matters only while
the heartbeat thread is waited for. -/
theorem advances_of_ne_joinBeat {a : ServerActor}
    (hstop : t.stop ≠ .joinBeat) (ha : a = .heartbeat ∨ a = .loop)
    (hexited' : t'.exited = false)
    (hsame : t'.stop = t.stop ∧ t'.listen = t.listen ∧ t'.socket = t.socket) :
    Advances t a t' := by
  obtain ⟨hstop', hlisten, hsocket⟩ := hsame
  refine .inr ⟨?_, ?_, ?_⟩
  · rintro rfl
    exact hstop (joinBeat_of_awaited ha)
  · unfold stopsIn listensIn
    rw [hexited, hexited', hstop', hlisten, hsocket]
    cases hat : t.stop <;> first | exact Nat.le_refl _ | exact absurd hat hstop
  · unfold awaited
    rw [hstop', hlisten, hsocket]
    cases hat : t.stop <;> first | rfl | exact absurd hat hstop

theorem advances_stops (hstop : t.stop ≠ .returned)
    (hstops : Stops t t') : Advances t .userInterface t' := by
  have hlisten := listensIn_le t
  have hbeat := beatsIn_le t
  cases hstops with
  | redrumsListen hat | redrumsBeat hat | closes hat =>
      refine .inl ?_
      simp [stopsIn, hexited, hat]
  | joinsListen hat | joinsBeat hat =>
      refine .inl ?_
      simp only [stopsIn, hexited, hat, Bool.false_eq_true, if_false]
      omega
  | interruptsListen hat =>
      refine .inl ?_
      have hafter := stopsIn_joinListen (t := { t with
        listenInterrupted := true
        stop := .joinListen }) hexited rfl
      have hsame : listensIn { t with
        listenInterrupted := true
        stop := .joinListen } = t.listensIn := rfl
      have hbefore : stopsIn t = 16 := by simp [stopsIn, hexited, hat]
      omega
  | interruptsBeat hat =>
      refine .inl ?_
      have hafter := stopsIn_joinBeat (t := { t with stop := .joinBeat })
        hexited rfl
      have hsame : beatsIn { t with stop := .joinBeat } = t.beatsIn := rfl
      have hbefore : stopsIn t = 8 := by simp [stopsIn, hexited, hat]
      omega
  | awaitsListen hat hended =>
      refine advances_self ?_
      simp only [awaited, hat, hended, if_false]
      split_ifs <;> exact nofun
  | awaitsBeat hat hended =>
      refine advances_self ?_
      simp only [awaited, hat, hended, if_false]
      split_ifs <;> exact nofun
  | rests hat => exact absurd hat hstop

end

/-! ## A turn of each actor -/

namespace Begun

variable (h : Begun t)

include h

theorem arrive (d : List Int8) : Begun (t.arrive d) := by
  unfold ServerThreads.arrive
  split_ifs
  · exact h
  · exact { h with }

theorem listens (hlistens : Listens t t') : Begun t' := by
  cases hlistens with
  | begins hat => exact absurd hat h.listen
  | waits | rests => exact h
  | fails | breaks => exact { h with }
  | _ => exact { h with listen := nofun }

theorem beats (hbeats : Beats t t') : Begun t' := by
  cases hbeats with
  | begins hat => exact absurd hat h.beat
  | waits | rests => exact h
  | fails => exact { h with }
  | _ => exact { h with beat := nofun }

theorem asks (hasks : Asks t t') : Begun t' := by
  cases hasks <;> exact { h with }

theorem stops (hstops : Stops t t') : Begun t' := by
  have hclosed := closed_stops h.closed hstops
  cases hstops with
  | redrumsListen =>
      exact { h with
        toldListen := fun _ => rfl
        toldBeat := nofun
        closed := hclosed }
  | interruptsListen hat =>
      exact { h with
        toldListen := fun _ => h.toldListen (.inl hat)
        toldBeat := nofun
        closed := hclosed }
  | redrumsBeat =>
      exact { h with
        toldListen := nofun
        toldBeat := fun _ => rfl
        closed := hclosed }
  | interruptsBeat hat =>
      exact { h with
        toldListen := nofun
        toldBeat := fun _ => h.toldBeat (.inl hat)
        closed := hclosed }
  | joinsListen | joinsBeat | closes =>
      exact { h with
        toldListen := nofun
        toldBeat := nofun
        closed := hclosed }
  | awaitsListen | awaitsBeat | rests => exact h

theorem step : Begun (step t e) :=
  step_of h (fun d _ => h.arrive d) (fun _ _ => h.listens)
    (fun _ _ => h.beats) (fun _ _ => h.asks) fun _ _ => h.stops

variable (hexited : t.exited = false) (hstop : t.stop ≠ .returned)

include hexited hstop

/-- A datagram helps a listener that waits for one. -/
theorem advances_arrive (d : List Int8) :
    Advances t .network (t.arrive d) := by
  have hopen : ¬ t.closed = true := fun hclosed => hstop (h.closed hclosed)
  have harrive : t.arrive d = { t with
      arrived := t.arrived ++ [d]
      socket := t.socket ++ [d] } := if_neg hopen
  have hcons : t.socket ++ [d] ≠ [] :=
    List.append_ne_nil_of_right_ne_nil _ nofun
  rw [harrive]
  by_cases hjoin : t.stop = .joinListen
  · have hbefore := stopsIn_joinListen hexited hjoin
    have hafter := stopsIn_joinListen (t := { t with
      arrived := t.arrived ++ [d]
      socket := t.socket ++ [d] }) hexited hjoin
    by_cases hwaits : t.listen = .receive ∧ t.socket = []
    · obtain ⟨hat, hsocket⟩ := hwaits
      refine .inl ?_
      rw [hbefore, hafter]
      simp [listensIn, hat, hsocket]
    · refine .inr ⟨?_, ?_, ?_⟩
      · unfold awaited
        rw [hjoin]
        simp only [hwaits, if_false]
        split_ifs <;> exact nofun
      · rw [hbefore, hafter]
        unfold listensIn
        cases hat : t.listen with
        | receive =>
            have hsocket : t.socket ≠ [] := fun hnil => hwaits ⟨hat, hnil⟩
            simp [hsocket]
        | _ => exact Nat.le_refl _
      · unfold awaited
        have hnot : ¬ (t.listen = .receive ∧ t.socket ++ [d] = []) :=
          fun hboth => hcons hboth.2
        rw [hjoin]
        simp only [hwaits, hnot, if_false]
  · exact advances_of_ne_joinListen hexited hjoin (.inl rfl) hexited
      ⟨rfl, rfl, rfl⟩

theorem advances_listens (hlistens : Listens t t') :
    Advances t .listener t' := by
  by_cases hjoin : t.stop = .joinListen
  · have hrunning := h.toldListen (.inr hjoin)
    have hlower : ∀ {t' : ServerThreads}, t'.exited = false →
        t'.stop = .joinListen → t'.listensIn < t.listensIn →
          Advances t .listener t' := by
      intro t' hexited' hjoin' hless
      refine .inl ?_
      rw [stopsIn_joinListen hexited hjoin, stopsIn_joinListen hexited' hjoin']
      exact Nat.add_lt_add_left hless 10
    cases hlistens with
    | begins hat => exact absurd hat h.listen
    | goesOn _ hgoes =>
        rw [hrunning] at hgoes
        cases hgoes
    | fails | breaks => exact advances_exited hexited hstop _
    | waits hat hsocket =>
        refine advances_self ?_
        simp [awaited, hjoin, hat, hsocket]
    | rests hat =>
        refine advances_self ?_
        simp [awaited, hjoin, hat]
    | ends hat => exact hlower hexited hjoin (by simp [listensIn, hat])
    | receives hat hsocket =>
        exact hlower hexited hjoin (by simp [listensIn, hat, hsocket])
    | drops hat => exact hlower hexited hjoin (by simp [listensIn, hat])
    | keeps hat => exact hlower hexited hjoin (by simp [listensIn, hat])
    | puts hat => exact hlower hexited hjoin (by simp [listensIn, hat])
  · cases hlistens with
    | fails | breaks => exact advances_exited hexited hstop _
    | _ =>
        exact advances_of_ne_joinListen hexited hjoin (.inr rfl) hexited
          ⟨rfl, rfl, rfl⟩

theorem advances_beats (hbeats : Beats t t') : Advances t .heartbeat t' := by
  by_cases hjoin : t.stop = .joinBeat
  · have hrunning := h.toldBeat (.inr hjoin)
    have hlower : ∀ {t' : ServerThreads}, t'.exited = false →
        t'.stop = .joinBeat → t'.beatsIn < t.beatsIn →
          Advances t .heartbeat t' := by
      intro t' hexited' hjoin' hless
      refine .inl ?_
      rw [stopsIn_joinBeat hexited hjoin, stopsIn_joinBeat hexited' hjoin']
      exact Nat.add_lt_add_left hless 2
    cases hbeats with
    | begins hat => exact absurd hat h.beat
    | goesOn _ hgoes | enters _ hgoes =>
        rw [hrunning] at hgoes
        cases hgoes
    | fails => exact advances_exited hexited hstop _
    | waits hat hsending =>
        refine advances_self ?_
        simp [awaited, hjoin, hat, hsending]
    | rests hat =>
        refine advances_self ?_
        simp [awaited, hjoin, hat]
    | ends hat => exact hlower hexited hjoin (by simp [beatsIn, hat])
    | skips hat hsending =>
        exact hlower hexited hjoin (by simp [beatsIn, hat, hsending])
    | sends hat => exact hlower hexited hjoin (by simp [beatsIn, hat])
    | wakes hat => exact hlower hexited hjoin (by simp [beatsIn, hat])
  · cases hbeats with
    | fails => exact advances_exited hexited hstop _
    | _ =>
        exact advances_of_ne_joinBeat hexited hjoin (.inl rfl) hexited
          ⟨rfl, rfl, rfl⟩

/-- The loop helps a heartbeat thread that waits for the monitor, and does not
enter the monitor any more. -/
theorem advances_asks (hasks : Asks t t') : Advances t .loop t' := by
  by_cases hjoin : t.stop = .joinBeat
  · have hrunning := h.toldBeat (.inr hjoin)
    cases hasks with
    | fails => exact advances_exited hexited hstop _
    | calls hcalls =>
        rw [hrunning] at hcalls
        cases hcalls
    | goesOn hsending =>
        refine advances_self ?_
        unfold awaited
        rw [hjoin, hsending]
        simp only [Bool.false_eq_true, and_false, if_false]
        split_ifs <;> exact nofun
    | returns hsending =>
        have hbefore := stopsIn_joinBeat hexited hjoin
        have hafter := stopsIn_joinBeat (t := { t with sending := false })
          hexited hjoin
        by_cases hat : t.beat = .sendHeartbeat
        · refine .inl ?_
          rw [hbefore, hafter]
          simp [beatsIn, hat, hsending]
        · refine .inr ⟨?_, ?_, ?_⟩
          · simp only [awaited, hjoin, hat, false_and, if_false]
            split_ifs <;> exact nofun
          · rw [hbefore, hafter]
            unfold beatsIn
            cases hpoint : t.beat with
            | sendHeartbeat => exact absurd hpoint hat
            | _ => exact Nat.le_refl _
          · simp only [awaited, hjoin, hat, false_and, if_false]
  · cases hasks with
    | fails => exact advances_exited hexited hstop _
    | _ =>
        exact advances_of_ne_joinBeat hexited hjoin (.inr rfl) hexited
          ⟨rfl, rfl, rfl⟩

theorem advances_step : Advances t (actor e) (ServerThreads.step t e) := by
  have hstep : ServerThreads.step t e = match e with
      | .arrive d => t.arrive d
      | .listen => t.listenStep
      | .beat => t.beatStep
      | .loop => t.loopStep
      | .stop => t.stopStep := if_neg (by rw [hexited]; exact nofun)
  rw [hstep]
  cases e with
  | arrive d => exact h.advances_arrive hexited hstop d
  | listen => exact h.advances_listens hexited hstop (listens_listenStep t)
  | beat => exact h.advances_beats hexited hstop (beats_beatStep t)
  | loop => exact h.advances_asks hexited hstop (asks_loopStep t)
  | stop => exact advances_stops hexited hstop (stops_stopStep t)

end Begun

/-! ## Runs of all threads -/

theorem step_of_exited (h : t.exited = true) : step t e = t := if_pos h

/-- Only the user interface goes on in `stopServer`. -/
theorem stop_step_of_ne (he : e ≠ .stop) : (step t e).stop = t.stop := by
  refine step_of (motive := fun t' => t'.stop = t.stop) rfl ?_ ?_ ?_ ?_ ?_
  · rintro d -
    unfold arrive
    split_ifs <;> rfl
  · rintro t' - hlistens
    cases hlistens <;> rfl
  · rintro t' - hbeats
    cases hbeats <;> rfl
  · rintro t' - hasks
    cases hasks <;> rfl
  · rintro t' rfl
    exact absurd rfl he

theorem stopped_step (h : t.exited = true ∨ t.stop = .returned) :
    (step t e).exited = true ∨ (step t e).stop = .returned := by
  rcases h with hexited | hstop
  · rw [step_of_exited hexited]
    exact .inl hexited
  · refine .inr ?_
    by_cases he : e = .stop
    · subst he
      refine step_of (motive := fun t' => t'.stop = .returned) hstop
        (fun _ hnot => nomatch hnot) (fun _ hnot => nomatch hnot)
        (fun _ hnot => nomatch hnot) (fun _ hnot => nomatch hnot)
        fun t' _ hstops => ?_
      cases hstops with
      | awaitsListen | awaitsBeat | rests => exact hstop
      | _ hat => exact nomatch hat.symm.trans hstop
    · exact (stop_step_of_ne he).trans hstop

theorem closed_step (h : t.closed = true → t.stop = .returned) :
    (step t e).closed = true → (step t e).stop = .returned := by
  refine step_of (motive := fun t' => t'.closed = true → t'.stop = .returned) h
    ?_ ?_ ?_ ?_ fun t' _ hstops => closed_stops h hstops
  · rintro d -
    unfold arrive
    split_ifs <;> exact h
  · rintro t' - hlistens
    cases hlistens <;> exact h
  · rintro t' - hbeats
    cases hbeats <;> exact h
  · rintro t' - hasks
    cases hasks <;> exact h

/-- The turns of the awaited actor bring `stopServer` to its end. -/
theorem helped : Runs.Helped step (fun e => some (actor e)) Begun stopsIn
    fun t a => stopsIn t ≠ 0 ∧ awaited t = a := by
  have hadvances : ∀ t e, Begun t → stopsIn t ≠ 0 →
      Advances t (actor e) (step t e) := by
    intro t e h hleft
    rw [ne_eq, stopsIn_eq_zero_iff, not_or] at hleft
    exact h.advances_step (Bool.eq_false_of_not_eq_true hleft.1) hleft.2
  refine ⟨fun t e h => h.step, fun t e h => ?_,
    fun t h hleft => ⟨_, hleft, rfl⟩, ?_, ?_⟩
  · by_cases hleft : stopsIn t = 0
    · have hstopped := stopped_step (e := e) (stopsIn_eq_zero_iff.mp hleft)
      rw [stopsIn_eq_zero_iff.mpr hstopped]
      exact Nat.zero_le _
    · rcases hadvances t e h hleft with hless | ⟨-, hle, -⟩
      · exact hless.le
      · exact hle
  · rintro t e a h ⟨hleft, hawaited⟩ hactor
    rcases hadvances t e h hleft with hless | ⟨hne, -, -⟩
    · exact hless
    · exact absurd (hawaited.trans (Option.some.inj hactor).symm) hne
  · rintro t e a h ⟨hleft, hawaited⟩ -
    rcases hadvances t e h hleft with hless | ⟨-, hle, hsame⟩
    · exact .inl hless
    · by_cases hdone : stopsIn (step t e) = 0
      · exact .inl (hdone ▸ Nat.pos_of_ne_zero hleft)
      · exact .inr ⟨hdone, hsame.trans hawaited⟩

/-- Once both threads have begun and somebody calls `stopServer`, it returns or
the program exits, within 17 rounds in which every actor has a turn and a
datagram arrives. -/
theorem returned_of_fair {rounds : List (List ThreadEvent)}
    (ht : t ∈ Runs.states step started events) (hstop : t.stop = .redrumListen)
    (hlisten : t.listen ≠ .start) (hbeat : t.beat ≠ .start)
    (hfair : Runs.Fair (fun e => some (actor e)) rounds)
    (hlength : 17 ≤ rounds.length) :
    (rounds.flatten.foldl step t).exited = true ∨
      (rounds.flatten.foldl step t).stop = .returned := by
  have hclosed : ∀ t ∈ Runs.states step started events,
      t.closed = true → t.stop = .returned :=
    Runs.invariant (fun _ _ h _ => closed_step h) (by decide)
      (Runs.allSteps_true started events)
  have hbegun : Begun t := by
    refine ⟨hlisten, hbeat, ?_, ?_, hclosed t ht⟩
    · rw [hstop]
      exact nofun
    · rw [hstop]
      exact nofun
  have hle := helped.le_rounds hfair hbegun
  have hbound := stopsIn_le t
  exact stopsIn_eq_zero_iff.mp (by omega)

/-- The threads end in turn. -/
example : (([.listen, .beat, .stop, .listen, .stop, .stop, .stop, .beat, .stop,
    .stop, .stop] : List ThreadEvent).foldl step started).stop =
      .returned := by
  decide

/-! ## Waiting for ever -/

/-- The listener waits for a datagram, and `stopServer` for the listener or
for less. -/
structure Silent (t : ServerThreads) : Prop where
  listen : t.listen = .receive
  socket : t.socket = []
  stop : t.stop = .redrumListen ∨ t.stop = .interruptListen ∨
    t.stop = .joinListen

theorem Silent.stops (h : Silent t) (hstops : Stops t t') : Silent t' := by
  cases hstops with
  | redrumsListen => exact { h with stop := .inr (.inl rfl) }
  | interruptsListen => exact { h with stop := .inr (.inr rfl) }
  | joinsListen _ hended => exact nomatch h.listen.symm.trans hended
  | awaitsListen | awaitsBeat | rests => exact h
  | redrumsBeat hat | interruptsBeat hat | joinsBeat hat | closes hat =>
      have hnot := h.stop
      rw [hat] at hnot
      rcases hnot with hnot | hnot | hnot <;> cases hnot

theorem Silent.step (h : Silent t) (he : ∀ d, e ≠ .arrive d) :
    Silent (step t e) := by
  refine step_of h (fun d hd => absurd hd (he d)) ?_ ?_ ?_
    fun t' _ => h.stops
  · rintro t' - hlistens
    cases hlistens with
    | fails => exact { h with }
    | waits | rests => exact h
    | receives _ hsocket => exact nomatch h.socket.symm.trans hsocket
    | _ hat => exact nomatch h.listen.symm.trans hat
  · rintro t' - hbeats
    cases hbeats <;> exact { h with }
  · rintro t' - hasks
    cases hasks <;> exact { h with }

/-- While no datagram arrives, `stopServer` does not return: the interrupt does
not reach a listener that waits. -/
theorem not_returned_of_silent (h : Silent t)
    (hsilent : ∀ e ∈ events, ∀ d, e ≠ .arrive d) :
    ∀ t' ∈ Runs.states step t events, t'.stop ≠ .returned := by
  intro t' ht'
  have hlater : Silent t' :=
    Runs.invariant (fun t e h he => h.step he) h
      (Runs.allSteps_of_forall (fun e he _ => hsilent e he) t) t' ht'
  rcases hlater.stop with hstop | hstop | hstop <;> rw [hstop] <;> exact nofun

example : Silent ([.listen, .listen].foldl step started) :=
  ⟨rfl, rfl, .inl rfl⟩

/-- The listener has been told to end before it began, and its first statement
takes this back. -/
structure Unheard (t : ServerThreads) : Prop where
  stop : t.stop = .interruptListen ∨ t.stop = .joinListen
  listen : t.listen = .start ∨ t.listenRunning = true ∧ t.listen ≠ .ended

theorem Unheard.listens (h : Unheard t) (hlistens : Listens t t') :
    Unheard t' := by
  have hrunning : t.listen ≠ .start → t.listenRunning = true := fun hne =>
    (h.listen.resolve_left hne).1
  cases hlistens with
  | begins => exact { h with listen := .inr ⟨rfl, nofun⟩ }
  | ends hat hended =>
      have hgoes := hrunning (by rw [hat]; exact nofun)
      rw [hended] at hgoes
      cases hgoes
  | fails | breaks => exact { h with }
  | waits | rests => exact h
  | goesOn hat | receives hat | drops hat | keeps hat | puts hat =>
      have hgoes := hrunning (by rw [hat]; exact nofun)
      exact { h with listen := .inr ⟨hgoes, nofun⟩ }

theorem Unheard.stops (h : Unheard t) (hstops : Stops t t') : Unheard t' := by
  cases hstops with
  | redrumsListen hat | redrumsBeat hat | interruptsBeat hat | joinsBeat hat
  | closes hat =>
      have hnot := h.stop
      rw [hat] at hnot
      rcases hnot with hnot | hnot <;> cases hnot
  | interruptsListen => exact { h with stop := .inr rfl }
  | joinsListen _ hended =>
      rcases h.listen with hat | ⟨-, hne⟩
      · exact nomatch hat.symm.trans hended
      · exact absurd hended hne
  | awaitsListen | awaitsBeat | rests => exact h

theorem Unheard.step (h : Unheard t) : Unheard (step t e) := by
  refine step_of h ?_ (fun t' _ => h.listens) ?_ ?_ fun t' _ => h.stops
  · rintro d -
    unfold arrive
    split_ifs
    · exact h
    · exact { h with }
  · rintro t' - hbeats
    cases hbeats <;> exact { h with }
  · rintro t' - hasks
    cases hasks <;> exact { h with }

/-- If `stopServer` tells the listener to end before it has begun, then it never
returns, whatever arrives. -/
theorem not_returned_of_not_heeds (hexited : t.exited = false)
    (hheeds : ¬ Heeds t .stop) :
    ∀ t' ∈ Runs.states step (step t .stop) events, t'.stop ≠ .returned := by
  obtain ⟨hstop, hlisten⟩ := Classical.not_imp.mp hheeds
  have hstep : step t .stop =
      { t with listenRunning := false, stop := .interruptListen } := by
    unfold step stopStep
    rw [if_neg (by rw [hexited]; exact nofun), hstop]
  have hunheard : Unheard (step t .stop) := by
    rw [hstep]
    exact ⟨.inl rfl, .inl (not_not.mp hlisten)⟩
  intro t' ht'
  have hlater : Unheard t' :=
    Runs.invariant (fun t e h _ => h.step) hunheard
      (Runs.allSteps_true _ events) t' ht'
  rcases hlater.stop with hat | hat <;> rw [hat] <;> exact nofun

end ServerThreads

end ChuckLight
