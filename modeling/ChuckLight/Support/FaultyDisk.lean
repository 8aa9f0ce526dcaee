import ChuckLight.Support.Java

/-!
# Writing a file on a disk that fails

A program deletes a file, creates it again and writes to it.  One of these
operations fails.  How much of what has been written is then on the disk is up
to the system, which writes in its own time.
-/

namespace FaultyDisk

open Java

/-! ## Definitions -/

/-- The content of the file, what is waiting in a stream, and the number of
operations so far. -/
structure Disk (β : Type) where
  content : Option (List β)
  waiting : List β
  operations : ℕ

/-- The operation that fails, how much of what has been written has reached the
disk by then, and whether the deletion of the new file fails as well. -/
structure Fault where
  step : ℕ
  reached : ℕ
  deleteFails : Bool

def failure : Throwable := .ioException "the disk has failed"

variable {β : Type} (fault : Fault)

/-- An operation that sets the content or fails. -/
def setContent (content : Option (List β)) : Run (Disk β) Unit := fun d =>
  if d.operations = fault.step then
    .error (.thrown failure) { d with operations := d.operations + 1 }
  else .ok ⟨⟩ { d with content := content, operations := d.operations + 1 }

/-- `Files.deleteIfExists`. -/
def deleteIfExists : Run (Disk β) Unit := setContent fault none

/-- `Files.createFile`, and the opening of a stream. -/
def createFile : Run (Disk β) Unit := setContent fault (some [])

/-- An operation that writes. -/
def write (xs : List β) : Run (Disk β) Unit := fun d =>
  let text := d.content.getD [] ++ d.waiting ++ xs
  if d.operations = fault.step then
    .error (.thrown failure)
      ⟨some (text.take fault.reached), [], d.operations + 1⟩
  else .ok ⟨⟩ ⟨some text, [], d.operations + 1⟩

/-- Data that waits in a stream for the next operation. -/
def buffer (xs : List β) : Run (Disk β) Unit :=
  modify fun d => { d with waiting := d.waiting ++ xs }

/-- `Files.delete`, after a failure. -/
def delete : Run (Disk β) Unit := fun d =>
  if fault.deleteFails = true ∨ d.content = none then
    .error (.thrown failure) d
  else .ok ⟨⟩ { d with content := none }

/-- `try (stream) { body }`: the stream is closed however the body ends, and an
exception of the body comes first. -/
def withClose (body : Run (Disk β) Unit) : Run (Disk β) Unit := fun d =>
  match body d with
  | .ok _ d' => write fault [] d'
  | .error e d' => .error e (stateAfter (write fault []) d')

/-! ## One operation -/

variable {fault : Fault} {text waiting : List β} {content : Option (List β)}
  {k : ℕ}

theorem setContent_of_ne {d : Disk β} (h : d.operations ≠ fault.step) :
    setContent fault content d =
      .ok ⟨⟩ { d with content := content, operations := d.operations + 1 } :=
  if_neg h

theorem write_of_ne (h : k ≠ fault.step) (xs : List β) :
    write fault xs ⟨some text, waiting, k⟩ =
      .ok ⟨⟩ ⟨some (text ++ waiting ++ xs), [], k + 1⟩ := if_neg h

theorem write_of_eq (h : k = fault.step) (xs : List β) :
    write fault xs ⟨some text, waiting, k⟩ =
      .error (.thrown failure)
        ⟨some ((text ++ waiting ++ xs).take fault.reached), [], k + 1⟩ :=
  if_pos h

/-! ## Several writes -/

/-- The failing write leaves a part of everything that has been written up to
it. -/
theorem forM_write_of_fails (fault : Fault) (text waiting : List β) (k : ℕ)
    {xs : List (List β)} (hle : k ≤ fault.step)
    (hlt : fault.step < k + xs.length) :
    ∃ d, xs.forM (write fault) ⟨some text, waiting, k⟩ =
        .error (.thrown failure) d ∧
      d.operations = fault.step + 1 ∧ d.waiting = [] ∧
      d.content = some ((text ++ waiting ++
        (xs.take (fault.step + 1 - k)).flatten).take fault.reached) := by
  induction xs generalizing text waiting k with
  | nil => exact absurd hlt (Nat.not_lt.mpr hle)
  | cons x xs ih =>
      rw [List.forM_eq_forM, List.forM_cons]
      by_cases heq : k = fault.step
      · have htake : (x :: xs).take (fault.step + 1 - k) = [x] := by
          rw [show fault.step + 1 - k = 1 by omega]
          rfl
        rw [bind_of_error (write_of_eq heq x), htake]
        refine ⟨_, rfl, ?_, rfl, ?_⟩
        · show k + 1 = _
          rw [heq]
        · rw [List.flatten_singleton]
      · have htake : (x :: xs).take (fault.step + 1 - k) =
            x :: xs.take (fault.step + 1 - (k + 1)) := by
          rw [show fault.step + 1 - k = (fault.step + 1 - (k + 1)) + 1 by omega]
          rfl
        rw [bind_of_ok (write_of_ne heq x), htake, List.flatten_cons]
        rw [List.length_cons] at hlt
        obtain ⟨d, hrun, hoperations, hwaiting, hcontent⟩ :=
          ih (text ++ waiting ++ x) [] (k + 1) (by omega) (by omega)
        refine ⟨d, hrun, hoperations, hwaiting, ?_⟩
        rw [hcontent, List.append_nil, List.append_assoc _ x]

/-- Without a failure everything is written. -/
theorem forM_write_of_ok (fault : Fault) (text : List β) (k : ℕ)
    {xs : List (List β)} (h : fault.step < k ∨ k + xs.length ≤ fault.step) :
    xs.forM (write fault) ⟨some text, [], k⟩ =
      .ok ⟨⟩ ⟨some (text ++ xs.flatten), [], k + xs.length⟩ := by
  induction xs generalizing text k with
  | nil =>
      rw [List.flatten_nil, List.append_nil]
      rfl
  | cons x xs ih =>
      rw [List.length_cons] at h
      have hne : k ≠ fault.step := by omega
      rw [List.forM_eq_forM, List.forM_cons, bind_of_ok (write_of_ne hne x),
        List.append_nil, List.flatten_cons, ← List.append_assoc,
        List.length_cons, Nat.add_comm xs.length, ← Nat.add_assoc]
      exact ih _ _ (by omega)

theorem forM_write_succeeds (fault : Fault) (text waiting : List β) (k : ℕ)
    (xs : List (List β)) (h : fault.step < k ∨ k + xs.length ≤ fault.step) :
    ∃ d, xs.forM (write fault) ⟨some text, waiting, k⟩ = .ok ⟨⟩ d := by
  cases xs with
  | nil => exact ⟨_, rfl⟩
  | cons x xs =>
      rw [List.length_cons] at h
      have hne : k ≠ fault.step := by omega
      rw [List.forM_eq_forM, List.forM_cons, bind_of_ok (write_of_ne hne x)]
      exact ⟨_, forM_write_of_ok fault _ _ (by omega)⟩

theorem withClose_of_ok {body : Run (Disk β) Unit} {d d' : Disk β}
    (h : body d = .ok ⟨⟩ d') :
    withClose fault body d = write fault [] d' := by
  unfold withClose
  rw [h]

theorem withClose_of_error {body : Run (Disk β) Unit} {d d' : Disk β}
    {e : Abrupt} (h : body d = .error e d') :
    withClose fault body d =
      .error e (stateAfter (write fault []) d') := by
  unfold withClose
  rw [h]

/-- What closing the stream leaves after an exception. -/
theorem content_stateAfter_close (fault : Fault) (text : List β) (k : ℕ) :
    (stateAfter (write fault []) ⟨some text, [], k⟩).content =
      some (if k = fault.step then text.take fault.reached else text) := by
  unfold stateAfter
  by_cases h : k = fault.step
  · rw [write_of_eq h, if_pos h, List.append_nil, List.append_nil]
  · rw [write_of_ne h, if_neg h, List.append_nil, List.append_nil]

theorem flatten_take_initial (xs : List (List β)) (n : ℕ) :
    (xs.take n).flatten <+: xs.flatten := by
  obtain ⟨rest, hrest⟩ := List.take_prefix n xs
  exact ⟨rest.flatten, by rw [← List.flatten_append, hrest]⟩

/-- A part of a text is the whole text only if everything is there. -/
theorem take_eq_iff {whole : List β} (hpre : text <+: whole) {n : ℕ} :
    text.take n = whole ↔ whole.length ≤ text.length ∧ whole.length ≤ n := by
  constructor
  · intro h
    have hlength := congrArg List.length h
    rw [List.length_take] at hlength
    omega
  · rintro ⟨hlength, hn⟩
    have heq : text = whole := hpre.eq_of_length_le hlength
    rw [heq]
    exact List.take_of_length_le hn

end FaultyDisk
