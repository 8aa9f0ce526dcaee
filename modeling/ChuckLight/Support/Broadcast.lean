import ChuckLight.Support.Runs
import Mathlib.Data.List.GetD
import Mathlib.Tactic.Common

/-!
# A value over an unreliable network

A source sends its value from time to time, or a message without a value, and a
sink takes over every value that arrives.  The network may lose, repeat and
reorder what was sent.  A sink that has heard nothing stale since its last
delivery of a value holds the value of the source.
-/

namespace Broadcast

variable {α : Type}

/-- The value of the source, what has been sent, and the value of the sink. -/
structure State (α : Type) where
  value : α
  sent : List (Option α)
  held : α

inductive Event (α : Type) where
  | set (v : α)
  | send
  | garble
  | deliver (k : ℕ)
  | reset (v : α)

def step (s : State α) : Event α → State α
  | .set v => { s with value := v }
  | .send => { s with sent := s.sent ++ [some s.value] }
  | .garble => { s with sent := s.sent ++ [none] }
  | .deliver k => { s with held := (s.sent.getD k none).getD s.held }
  | .reset v => { s with held := v }

/-- The state after the events. -/
def after (s : State α) (es : List (Event α)) : State α := es.foldl step s

variable {s : State α} {e : Event α} {es : List (Event α)} {p : α → Prop}
  {mark k : ℕ} {v : α}

theorem after_append (s : State α) (es es' : List (Event α)) :
    after s (es ++ es') = after (after s es) es' := List.foldl_append

/-- A delivery brings a value that was sent, or nothing. -/
theorem held_deliver (s : State α) (k : ℕ) :
    (∃ v, s.sent[k]? = some (some v) ∧ (step s (.deliver k)).held = v) ∨
      (step s (.deliver k)).held = s.held := by
  show _ ∨ (s.sent.getD k none).getD s.held = s.held
  cases hget : s.sent[k]? with
  | none =>
      rw [List.getD_eq_getElem?_getD, hget]
      exact .inr rfl
  | some message =>
      cases message with
      | none =>
          rw [List.getD_eq_getElem?_getD, hget]
          exact .inr rfl
      | some v =>
          refine .inl ⟨v, rfl, ?_⟩
          show (s.sent.getD k none).getD s.held = v
          rw [List.getD_eq_getElem?_getD, hget]
          rfl

/-! ## Only values that were there -/

/-- The event brings in only values with the property. -/
def Brings (p : α → Prop) : Event α → Prop
  | .set v => p v
  | .reset v => p v
  | _ => True

/-- All values have the property. -/
structure Keeps (p : α → Prop) (s : State α) : Prop where
  value : p s.value
  sent : ∀ v, some v ∈ s.sent → p v
  held : p s.held

theorem Keeps.step (h : Keeps p s) (he : Brings p e) : Keeps p (step s e) := by
  cases e with
  | set v => exact ⟨he, h.sent, h.held⟩
  | send =>
      refine ⟨h.value, fun v hv => ?_, h.held⟩
      rcases List.mem_append.mp hv with hold | hnew
      · exact h.sent v hold
      · rw [Option.some.inj (List.mem_singleton.mp hnew)]
        exact h.value
  | garble =>
      refine ⟨h.value, fun v hv => ?_, h.held⟩
      rcases List.mem_append.mp hv with hold | hnew
      · exact h.sent v hold
      · cases List.mem_singleton.mp hnew
  | deliver k =>
      refine ⟨h.value, h.sent, ?_⟩
      rcases held_deliver s k with ⟨v, hmem, hheld⟩ | hheld
      · rw [hheld]
        exact h.sent v (List.mem_of_getElem? hmem)
      · rw [hheld]
        exact h.held
  | reset v => exact ⟨h.value, h.sent, he⟩

theorem Keeps.after (h : Keeps p s) (hes : ∀ e ∈ es, Brings p e) :
    Keeps p (after s es) := by
  induction es generalizing s with
  | nil => exact h
  | cons e es ih =>
      exact ih (h.step (hes e (List.mem_cons_self ..)))
        fun e' he' => hes e' (List.mem_cons_of_mem _ he')

/-! ## A value that stays -/

/-- The source keeps the value `v`, and nothing sent before `mark` arrives. -/
def Fresh (mark : ℕ) (v : α) : Event α → Prop
  | .set w => w = v
  | .deliver k => mark ≤ k
  | _ => True

/-- The source has the value `v`, and so has all that it sent from `mark` on. -/
structure Stays (mark : ℕ) (v : α) (s : State α) : Prop where
  value : s.value = v
  le : mark ≤ s.sent.length
  sent : ∀ w, some w ∈ s.sent.drop mark → w = v

theorem stays_length (s : State α) : Stays s.sent.length s.value s :=
  ⟨rfl, Nat.le_refl _, by
    rw [List.drop_length]
    exact nofun⟩

/-- More messages, with no other value. -/
theorem Stays.append (h : Stays mark v s) {new : List (Option α)}
    (hnew : ∀ w, some w ∈ new → w = v) :
    Stays mark v { s with sent := s.sent ++ new } := by
  refine ⟨h.value, ?_, fun w hw => ?_⟩
  · show mark ≤ (s.sent ++ new).length
    rw [List.length_append]
    exact Nat.le_add_right_of_le h.le
  · have hmem : some w ∈ (s.sent ++ new).drop mark := hw
    rw [List.drop_append_of_le_length h.le] at hmem
    exact (List.mem_append.mp hmem).elim (h.sent w) (hnew w)

theorem Stays.step (h : Stays mark v s) (he : Fresh mark v e) :
    Stays mark v (step s e) := by
  cases e with
  | set w => exact ⟨he, h.le, h.sent⟩
  | send =>
      refine h.append fun w hw => ?_
      rw [Option.some.inj (List.mem_singleton.mp hw)]
      exact h.value
  | garble =>
      refine h.append fun w hw => ?_
      cases List.mem_singleton.mp hw
  | deliver k => exact ⟨h.value, h.le, h.sent⟩
  | reset w => exact ⟨h.value, h.le, h.sent⟩

theorem Stays.after (h : Stays mark v s) (hes : ∀ e ∈ es, Fresh mark v e) :
    Stays mark v (after s es) := by
  induction es generalizing s with
  | nil => exact h
  | cons e es ih =>
      exact ih (h.step (hes e (List.mem_cons_self ..)))
        fun e' he' => hes e' (List.mem_cons_of_mem _ he')

/-- A value that was sent from `mark` on. -/
theorem Stays.eq_of_getElem? (h : Stays mark v s) (hmark : mark ≤ k) {w : α}
    (hk : s.sent[k]? = some (some w)) : w = v := by
  apply h.sent
  obtain ⟨j, rfl⟩ := Nat.exists_eq_add_of_le hmark
  rw [← List.getElem?_drop] at hk
  exact List.mem_of_getElem? hk

/-- What arrives is the value of the source. -/
theorem Stays.deliver (h : Stays mark v s) (hmark : mark ≤ k) {w : α}
    (hk : s.sent[k]? = some (some w)) :
    (Broadcast.step s (.deliver k)).held = v := by
  have hheld : (Broadcast.step s (.deliver k)).held = w := by
    show (s.sent.getD k none).getD s.held = w
    rw [List.getD_eq_getElem?_getD, hk]
    rfl
  exact hheld.trans (h.eq_of_getElem? hmark hk)

/-- The sink forgets its value. -/
def Event.IsReset : Event α → Prop
  | .reset _ => True
  | _ => False

theorem Stays.held_step (h : Stays mark v s) (he : Fresh mark v e)
    (hreset : ¬ e.IsReset) (hheld : s.held = v) :
    (Broadcast.step s e).held = v := by
  cases e with
  | set w => exact hheld
  | send => exact hheld
  | garble => exact hheld
  | deliver k =>
      rcases held_deliver s k with ⟨w, hget, -⟩ | hsame
      · exact h.deliver he hget
      · exact hsame.trans hheld
  | reset w => exact absurd trivial hreset

theorem Stays.held_after (h : Stays mark v s) (hes : ∀ e ∈ es, Fresh mark v e)
    (hreset : ∀ e ∈ es, ¬ e.IsReset) (hheld : s.held = v) :
    (Broadcast.after s es).held = v := by
  induction es generalizing s with
  | nil => exact hheld
  | cons e es ih =>
      have hfirst := hes e (List.mem_cons_self ..)
      exact ih (h.step hfirst)
        (fun e' he' => hes e' (List.mem_cons_of_mem _ he'))
        (fun e' he' => hreset e' (List.mem_cons_of_mem _ he'))
        (h.held_step hfirst (hreset e (List.mem_cons_self ..)) hheld)

end Broadcast
