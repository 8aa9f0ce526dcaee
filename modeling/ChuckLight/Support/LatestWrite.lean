import Mathlib.Data.Option.Basic
import Mathlib.Logic.Basic

/-!
# The latest write

A store is written by operations, each of which supplies a value for some
addresses and leaves the others alone.  After any sequence of operations an
address holds the value supplied by the latest operation that covered it.
-/

namespace LatestWrite

variable {Op Address Value State : Type*}

/-- The value supplied for `a` by the latest operation that covered it. -/
def latest (supplies : Op → Address → Option Value) (ops : List Op)
    (a : Address) : Option Value :=
  ops.foldl (fun found op => (supplies op a).or found) none

variable {supplies : Op → Address → Option Value}

theorem foldl_supplies (ops : List Op) (a : Address) (found : Option Value) :
    ops.foldl (fun found op => (supplies op a).or found) found =
      (latest supplies ops a).or found := by
  induction ops generalizing found with
  | nil => rfl
  | cons op rest ih =>
      unfold latest
      rw [List.foldl_cons, List.foldl_cons, ih, ih, Option.or_none,
        Option.or_assoc]

theorem latest_cons (op : Op) (ops : List Op) (a : Address) :
    latest supplies (op :: ops) a =
      (latest supplies ops a).or (supplies op a) := by
  unfold latest
  rw [List.foldl_cons, foldl_supplies, Option.or_none]
  rfl

theorem latest_append (xs ys : List Op) (a : Address) :
    latest supplies (xs ++ ys) a =
      (latest supplies ys a).or (latest supplies xs a) := by
  induction xs with
  | nil => exact Option.or_none.symm
  | cons op rest ih =>
      rw [List.cons_append, latest_cons, latest_cons, ih, Option.or_assoc]

/-- Operations that are sequences of smaller operations. -/
theorem latest_flatMap {Part : Type*} {supplies : Part → Address → Option Value}
    (parts : Op → List Part) (ops : List Op) (a : Address) :
    latest supplies (ops.flatMap parts) a =
      latest (fun op => latest supplies (parts op)) ops a := by
  induction ops with
  | nil => rfl
  | cons op rest ih => rw [List.flatMap_cons, latest_append, latest_cons, ih]

/-- The latest value was supplied by some operation. -/
theorem exists_of_latest_eq_some {ops : List Op} {a : Address} {v : Value}
    (h : latest supplies ops a = some v) :
    ∃ op ∈ ops, supplies op a = some v := by
  induction ops with
  | nil => cases h
  | cons op rest ih =>
      rw [latest_cons] at h
      rcases Option.or_eq_some_iff.mp h with hrest | ⟨-, hop⟩
      · obtain ⟨op', hmem, hsupplies⟩ := ih hrest
        exact ⟨op', List.mem_cons_of_mem _ hmem, hsupplies⟩
      · exact ⟨op, List.mem_cons_self .., hop⟩

theorem latest_eq_none {ops : List Op} {a : Address}
    (h : ∀ op ∈ ops, supplies op a = none) : latest supplies ops a = none := by
  cases hlatest : latest supplies ops a with
  | none => rfl
  | some v =>
      obtain ⟨op, hmem, hop⟩ := exists_of_latest_eq_some hlatest
      rw [h op hmem] at hop
      cases hop

/-- If every operation sets the addresses it covers to the supplied values and
keeps the others, then a run leaves the latest supplied value at every
address. -/
theorem foldl_eq_latest (contents : State → Address → Value)
    {step : State → Op → State} {a : Address}
    (hstep : ∀ s op, contents (step s op) a =
      (supplies op a).getD (contents s a))
    (ops : List Op) (s : State) :
    contents (ops.foldl step s) a =
      (latest supplies ops a).getD (contents s a) := by
  induction ops generalizing s with
  | nil => rfl
  | cons op rest ih =>
      rw [List.foldl_cons, ih, hstep, latest_cons]
      cases latest supplies rest a with
      | none => rfl
      | some v => rfl

/-- Operations that agree on an address. -/
theorem latest_of_agree {ops : List Op} {op : Op} {a : Address} {v : Value}
    (hagree : ∀ op ∈ ops, ∀ v', supplies op a = some v' → v' = v)
    (hop : op ∈ ops) (hv : supplies op a = some v) :
    latest supplies ops a = some v := by
  induction ops with
  | nil => cases hop
  | cons first rest ih =>
      have hrest := fun op hop => hagree op (List.mem_cons_of_mem first hop)
      rw [latest_cons]
      cases hlatest : latest supplies rest a with
      | some v' =>
          obtain ⟨op', hop', hv'⟩ := exists_of_latest_eq_some hlatest
          rw [hrest op' hop' v' hv', Option.some_or]
      | none =>
          rcases List.mem_cons.mp hop with rfl | hop
          · exact hv
          · rw [ih hrest hop] at hlatest
            cases hlatest

end LatestWrite
