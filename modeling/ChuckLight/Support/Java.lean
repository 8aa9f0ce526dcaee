import Mathlib.Algebra.Group.Int.Defs
import Mathlib.Algebra.Group.Nat.Defs
import Mathlib.Data.Int.Init
import Mathlib.Data.List.Basic
import Mathlib.Tactic.Common
import Mathlib.Tactic.SplitIfs

/-!
# Imperative methods with exceptions

A method is a function from the state of its object to a result or an abrupt
end; the state changes made before an abrupt end are kept.  `Triple` states
what a method ensures, and its rules follow the structure of a method body.
-/

namespace Java

/-- The exceptions and errors that the methods throw. -/
inductive Throwable where
  | illegalArgumentException (message : String)
  | indexOutOfBoundsException (message : String)
  | arrayIndexOutOfBoundsException
  | nullPointerException
  | classCastException
  | numberFormatException
  | unsupportedOperationException (message : String)
  | concurrentModificationException
  | outOfMemoryError
  | ioException (message : String)
  deriving DecidableEq, Repr

/-- How a method ends without a result: by an exception, by `System.exit`, or
by waiting for something that never comes. -/
inductive Abrupt where
  | thrown (e : Throwable)
  | exited
  | blocked
  deriving DecidableEq, Repr

/-- The end by an `IOException`, the only exception that callers catch. -/
def Abrupt.IsIOException (e : Abrupt) : Prop :=
  ∃ message, e = .thrown (.ioException message)

/-- The end by an exception. -/
def Abrupt.IsThrown (e : Abrupt) : Prop := ∃ t, e = .thrown t

/-- The end by an `IllegalArgumentException`. -/
def Abrupt.IsIllegalArgument (e : Abrupt) : Prop :=
  ∃ message, e = .thrown (.illegalArgumentException message)

/-- The end by an exception that is no error. -/
def Abrupt.IsException (e : Abrupt) : Prop :=
  ∃ t, e = .thrown t ∧ t ≠ .outOfMemoryError

/-- A method on a state. -/
abbrev Run (σ α : Type) := EStateM Abrupt σ α

variable {σ τ α β : Type}

def throwNew (e : Throwable) : Run σ α := throw (.thrown e)

/-- The result of a method without state. -/
def fromExcept : Except Throwable α → Run σ α
  | .ok a => pure a
  | .error e => throwNew e

/-- The value of an option, or else an exception. -/
def orThrow (o : Option α) (e : Throwable) : Run σ α :=
  match o with
  | some a => pure a
  | none => throwNew e

/-- `try { x } catch (IOException ex) { handler }`. -/
def catchIOException (x : Run σ α) (handler : Run σ α) : Run σ α := fun s =>
  match x s with
  | .error (.thrown (.ioException _)) s' => handler s'
  | result => result

/-- `try { x } catch (IllegalArgumentException ex) { handler }`. -/
def catchIllegalArgument (x : Run σ α) (handler : Run σ α) : Run σ α := fun s =>
  match x s with
  | .error (.thrown (.illegalArgumentException _)) s' => handler s'
  | .error (.thrown .numberFormatException) s' => handler s'
  | result => result

/-- A method of a component, run on the object that holds it. -/
def zoom (get : σ → τ) (put : τ → σ → σ) (x : Run τ α) : Run σ α := fun s =>
  match x (get s) with
  | .ok a t => .ok a (put t s)
  | .error e t => .error e (put t s)

/-- An array access. -/
def arrayGet (xs : List α) (i : ℕ) : Run σ α :=
  orThrow xs[i]? .arrayIndexOutOfBoundsException

/-- The state that a method leaves behind, however it ends. -/
def stateAfter (x : Run σ α) (s : σ) : σ :=
  match x s with
  | .ok _ s' => s'
  | .error _ s' => s'

instance decidableThrown (r : EStateM.Result Abrupt σ α) :
    Decidable (∃ e s, r = .error (.thrown e) s) :=
  match r with
  | .ok _ _ => .isFalse nofun
  | .error (.thrown e) s => .isTrue ⟨e, s, rfl⟩
  | .error .exited _ => .isFalse nofun
  | .error .blocked _ => .isFalse nofun

/-! ## Arithmetic on `int` -/

/-- An `int` between 0 and 255. -/
def IsByte (v : Int32) : Prop := 0 ≤ v.toInt ∧ v.toInt ≤ 255

instance (v : Int32) : Decidable (IsByte v) :=
  inferInstanceAs (Decidable (_ ∧ _))

instance (values : List Int32) : Decidable (∀ v ∈ values, IsByte v) :=
  List.decidableBAll _ _

theorem isByte_zero : IsByte 0 := by decide

theorem toInt_add_of_le {a b : Int32} (hlo : -2 ^ 31 ≤ a.toInt + b.toInt)
    (hhi : a.toInt + b.toInt < 2 ^ 31) :
    (a + b).toInt = a.toInt + b.toInt := by
  rw [Int32.toInt_add]
  exact Int.bmod_eq_of_le (by omega) (by omega)

/-- A sum past the largest `int` wraps around. -/
theorem toInt_add_of_ge {a b : Int32} (h : 2 ^ 31 ≤ a.toInt + b.toInt) :
    (a + b).toInt = a.toInt + b.toInt - 2 ^ 32 := by
  have ha := a.toInt_lt
  have hb := b.toInt_lt
  rw [Int32.toInt_add, Int.bmod_def]
  split_ifs <;> omega

theorem toInt_sub_of_le {a b : Int32} (hlo : -2 ^ 31 ≤ a.toInt - b.toInt)
    (hhi : a.toInt - b.toInt < 2 ^ 31) :
    (a - b).toInt = a.toInt - b.toInt := by
  rw [Int32.toInt_sub]
  exact Int.bmod_eq_of_le (by omega) (by omega)

/-- A difference past the largest `int` wraps around. -/
theorem toInt_sub_of_ge {a b : Int32} (h : 2 ^ 31 ≤ a.toInt - b.toInt) :
    (a - b).toInt = a.toInt - b.toInt - 2 ^ 32 := by
  have ha := a.toInt_lt
  have hb := b.le_toInt
  rw [Int32.toInt_sub, Int.bmod_def]
  split_ifs <;> omega

theorem toNat_toBitVec_of_nonneg {v : Int32} (h : 0 ≤ v.toInt) :
    (v.toBitVec.toNat : ℤ) = v.toInt := by
  have hle : (0 : Int32) ≤ v := Int32.le_iff_toInt_le.mpr h
  rw [Int32.toNat_toBitVec_of_le hle, Int32.cast_toNatClampNeg v hle]

/-- Masking with `0xff` keeps a byte. -/
theorem IsByte.and_0xff {v : Int32} (h : IsByte v) : v &&& 0xff = v := by
  apply Int32.toBitVec_inj.mp
  apply BitVec.eq_of_toNat_eq
  have hv := toNat_toBitVec_of_nonneg h.1
  have hhi := h.2
  have hmask : (0xff : Int32).toBitVec.toNat = 2 ^ 8 - 1 := rfl
  rw [Int32.toBitVec_and, BitVec.toNat_and, hmask,
    Nat.and_two_pow_sub_one_eq_mod]
  omega

/-! ## Method calls in sequence -/

theorem bind_of_ok {x : Run σ α} {f : α → Run σ β} {a : α} {s s' : σ}
    (h : x s = .ok a s') : (x >>= f) s = f a s' := by
  show EStateM.bind x f s = f a s'
  unfold EStateM.bind
  rw [h]

theorem bind_of_error {x : Run σ α} {f : α → Run σ β} {e : Abrupt} {s s' : σ}
    (h : x s = .error e s') : (x >>= f) s = .error e s' := by
  show EStateM.bind x f s = _
  unfold EStateM.bind
  rw [h]

theorem catchIOException_of_ok {x y : Run σ α} {a : α} {s s' : σ}
    (h : x s = .ok a s') : catchIOException x y s = .ok a s' := by
  unfold catchIOException
  rw [h]

theorem catchIOException_of_ioException {x y : Run σ α} {message : String}
    {s s' : σ} (h : x s = .error (.thrown (.ioException message)) s') :
    catchIOException x y s = y s' := by
  unfold catchIOException
  rw [h]

/-- Other exceptions are not caught. -/
theorem catchIOException_of_thrown {x y : Run σ α} {e : Throwable}
    {s s' : σ} (h : x s = .error (.thrown e) s')
    (he : ∀ message, e ≠ .ioException message) :
    catchIOException x y s = .error (.thrown e) s' := by
  unfold catchIOException
  rw [h]
  cases e with
  | ioException message => exact absurd rfl (he message)
  | _ => rfl

theorem zoom_of_ok {get : σ → τ} {put : τ → σ → σ} {x : Run τ α} {a : α}
    {s : σ} {t : τ} (h : x (get s) = .ok a t) :
    zoom get put x s = .ok a (put t s) := by
  unfold zoom
  rw [h]

/-- A sequence that returns normally has returned normally at every step. -/
theorem exists_of_bind_eq_ok {x : Run σ α} {f : α → Run σ β} {b : β}
    {s s'' : σ} (h : (x >>= f) s = .ok b s'') :
    ∃ a s', x s = .ok a s' ∧ f a s' = .ok b s'' := by
  cases hx : x s with
  | ok a s' =>
      rw [bind_of_ok hx] at h
      exact ⟨a, s', rfl, h⟩
  | error e s' =>
      rw [bind_of_error hx] at h
      cases h

/-- A search that only reads. -/
theorem anyM_eq_ok {body : β → Run σ Bool} {p : β → Bool} {s : σ}
    {xs : List β} (h : ∀ x ∈ xs, body x s = .ok (p x) s) :
    xs.anyM body s = .ok (xs.any p) s := by
  induction xs with
  | nil => rfl
  | cons x rest ih =>
      have hrest := ih fun y hy => h y (List.mem_cons_of_mem _ hy)
      rw [List.anyM, bind_of_ok (h x (List.mem_cons_self ..)), List.any_cons]
      cases p x with
      | true => rfl
      | false => exact hrest

theorem orThrow_some_bind (a : α) (e : Throwable) (f : α → Run σ β) :
    (orThrow (some a) e >>= f) = f a := rfl

theorem arrayGet_of_lt {xs : List α} {i : ℕ} (h : i < xs.length) :
    (arrayGet xs i : Run σ α) = pure xs[i] := by
  rw [arrayGet, List.getElem?_eq_getElem h]
  rfl

theorem arrayGet_bind_of_lt {xs : List α} {i : ℕ} (h : i < xs.length)
    (f : α → Run σ β) : (arrayGet xs i >>= f) = f xs[i] := by
  rw [arrayGet_of_lt h]
  rfl

/-! ## What a method ensures -/

/-- From every state in `pre`, the method `x` ends with a result and a state in
`post`, or abruptly in `exc`. -/
def Triple (pre : σ → Prop) (x : Run σ α) (post : α → σ → Prop)
    (exc : Abrupt → σ → Prop) : Prop :=
  ∀ s, pre s →
    match x s with
    | .ok a s' => post a s'
    | .error e s' => exc e s'

variable {pre pre' : σ → Prop} {post post' : α → σ → Prop}
  {exc exc' : Abrupt → σ → Prop}

theorem Triple.of_ok {x : Run σ α} (h : Triple pre x post exc) {s s' : σ}
    {a : α} (hpre : pre s) (hx : x s = .ok a s') : post a s' := by
  have hs := h s hpre
  rw [hx] at hs
  exact hs

theorem Triple.of_error {x : Run σ α} (h : Triple pre x post exc) {s s' : σ}
    {e : Abrupt} (hpre : pre s) (hx : x s = .error e s') : exc e s' := by
  have hs := h s hpre
  rw [hx] at hs
  exact hs

theorem Triple.stateAfter {x : Run σ α} {inv : σ → Prop}
    (h : Triple pre x (fun _ => inv) (fun _ => inv)) {s : σ} (hpre : pre s) :
    inv (stateAfter x s) := by
  have hs := h s hpre
  unfold Java.stateAfter
  cases hx : x s with
  | ok a s' =>
      rw [hx] at hs
      exact hs
  | error e s' =>
      rw [hx] at hs
      exact hs

theorem Triple.conseq {x : Run σ α} (h : Triple pre x post exc)
    (hpre : ∀ s, pre' s → pre s) (hpost : ∀ a s, post a s → post' a s)
    (hexc : ∀ e s, exc e s → exc' e s) : Triple pre' x post' exc' := by
  intro s hs
  have hx := h s (hpre s hs)
  cases hrun : x s with
  | ok a s' =>
      rw [hrun] at hx
      exact hpost a s' hx
  | error e s' =>
      rw [hrun] at hx
      exact hexc e s' hx

theorem Triple.mono {x : Run σ α} (h : Triple pre x post exc)
    (hpost : ∀ a s, post a s → post' a s) : Triple pre x post' exc :=
  h.conseq (fun _ hs => hs) hpost fun _ _ he => he

theorem Triple.of_eq {x : Run σ α} (h : Triple pre x post exc) {s : σ}
    (hs : pre s) : Triple (fun t => t = s) x post exc :=
  h.conseq (fun _ ht => ht ▸ hs) (fun _ _ ht => ht) fun _ _ he => he

theorem Triple.pure {a : α} (h : ∀ s, pre s → post a s) :
    Triple pre (pure a) post exc :=
  fun s hs => h s hs

theorem Triple.throw {e : Abrupt} (h : ∀ s, pre s → exc e s) :
    Triple pre (throw e : Run σ α) post exc :=
  fun s hs => h s hs

theorem Triple.get {post : σ → σ → Prop} (h : ∀ s, pre s → post s s) :
    Triple pre (get : Run σ σ) post exc :=
  fun s hs => h s hs

theorem Triple.modify {f : σ → σ} {post : PUnit → σ → Prop}
    (h : ∀ s, pre s → post ⟨⟩ (f s)) :
    Triple pre (modify f : Run σ PUnit) post exc :=
  fun s hs => h s hs

theorem Triple.bind {mid : α → σ → Prop} {post : β → σ → Prop} {x : Run σ α}
    {f : α → Run σ β} (hx : Triple pre x mid exc)
    (hf : ∀ a, Triple (mid a) (f a) post exc) :
    Triple pre (x >>= f) post exc := by
  intro s hs
  have hxs := hx s hs
  cases hrun : x s with
  | ok a s' =>
      rw [hrun] at hxs
      rw [bind_of_ok hrun]
      exact hf a s' hxs
  | error e s' =>
      rw [hrun] at hxs
      rw [bind_of_error hrun]
      exact hxs

/-- A method that then returns a value. -/
theorem Triple.returning {post : σ → Prop} {x : Run σ Unit} {b : β}
    (h : Triple pre x (fun _ => post) exc) :
    Triple pre (do x; return b) (fun _ => post) exc :=
  h.bind fun _ => Triple.pure fun _ hs => hs

/-- The body of a method starts with a call that returns `a` and changes
nothing. -/
theorem Triple.reads_bind {post : β → σ → Prop} {x : Run σ α}
    {f : α → Run σ β} {a : α} (hx : ∀ s, pre s → x s = .ok a s)
    (hf : Triple pre (f a) post exc) : Triple pre (x >>= f) post exc := by
  intro s hs
  rw [bind_of_ok (hx s hs)]
  exact hf s hs

theorem Triple.ite {c : Prop} [Decidable c] {x y : Run σ α}
    (hx : c → Triple pre x post exc) (hy : ¬ c → Triple pre y post exc) :
    Triple pre (if c then x else y) post exc := by
  by_cases h : c
  · rw [if_pos h]
    exact hx h
  · rw [if_neg h]
    exact hy h

/-- The body of a method starts with a look at the state. -/
theorem Triple.get_bind {post : β → σ → Prop} {f : σ → Run σ β}
    (h : ∀ s, pre s → Triple pre (f s) post exc) :
    Triple pre (MonadState.get >>= f) post exc :=
  fun s hs => h s hs s hs

/-- The body of a method starts with a look at the state, and depends on it. -/
theorem Triple.get_bind_eq {post : β → σ → Prop} {f : σ → Run σ β}
    (h : ∀ s, pre s → Triple (fun t => t = s) (f s) post exc) :
    Triple pre (MonadState.get >>= f) post exc :=
  fun s hs => h s hs s rfl

theorem Triple.catchIOException {x handler : Run σ α}
    (hx : Triple pre x post fun e s =>
      match e with
      | .thrown (.ioException _) => pre' s
      | e => exc e s)
    (hhandler : Triple pre' handler post exc) :
    Triple pre (catchIOException x handler) post exc := by
  intro s hs
  have hxs := hx s hs
  unfold Java.catchIOException
  cases hrun : x s with
  | ok a s' =>
      rw [hrun] at hxs
      exact hxs
  | error e s' =>
      rw [hrun] at hxs
      cases e with
      | exited => exact hxs
      | blocked => exact hxs
      | thrown t =>
          cases t with
          | ioException message => exact hhandler s' hxs
          | _ => exact hxs

/-- The method in the block leaves a state in `mid` when it fails. -/
theorem Triple.catchIOException_of {mid : σ → Prop} {x handler : Run σ α}
    (hx : Triple pre x post fun e s =>
      mid s ∧ (¬ e.IsIOException → exc e s))
    (hhandler : Triple mid handler post exc) :
    Triple pre (Java.catchIOException x handler) post exc := by
  refine Triple.catchIOException (hx.conseq (fun _ h => h) (fun _ _ h => h)
    fun e s h => ?_) hhandler
  cases e with
  | exited => exact h.2 nofun
  | blocked => exact h.2 nofun
  | thrown t =>
      cases t with
      | ioException message => exact h.1
      | _ => exact h.2 nofun

/-- A loop over a list keeps what every round keeps. -/
theorem Triple.forM {body : β → Run σ PUnit} {xs : List β}
    (h : ∀ x ∈ xs, Triple pre (body x) (fun _ => pre) exc) :
    Triple pre (xs.forM body) (fun _ => pre) exc := by
  induction xs with
  | nil => exact Triple.pure fun _ hs => hs
  | cons x rest ih =>
      rw [List.forM_eq_forM, List.forM_cons]
      exact Triple.bind (h x (List.mem_cons_self ..)) fun _ =>
        ih fun y hy => h y (List.mem_cons_of_mem _ hy)

/-- A method of a component, seen from the object that holds it. -/
theorem Triple.zoom {get : σ → τ} {put : τ → σ → σ} {x : Run τ α}
    {pre : τ → Prop} {post : α → τ → Prop} {exc : Abrupt → τ → Prop}
    {pre' : σ → Prop} {post' : α → σ → Prop} {exc' : Abrupt → σ → Prop}
    (h : Triple pre x post exc) (hpre : ∀ s, pre' s → pre (get s))
    (hpost : ∀ s a t, pre' s → post a t → post' a (put t s))
    (hexc : ∀ s e t, pre' s → exc e t → exc' e (put t s)) :
    Triple pre' (zoom get put x) post' exc' := by
  intro s hs
  have hx := h _ (hpre s hs)
  unfold Java.zoom
  cases hrun : x (get s) with
  | ok a t =>
      rw [hrun] at hx
      exact hpost s a t hs hx
  | error e t =>
      rw [hrun] at hx
      exact hexc s e t hs hx

/-! ## What a method preserves -/

/-- The method preserves `inv`, however it ends. -/
def Preserves (inv : σ → Prop) (x : Run σ α) : Prop :=
  Triple inv x (fun _ => inv) (fun _ => inv)

namespace Preserves

variable {inv : σ → Prop}

theorem pure (a : α) : Preserves inv (pure a : Run σ α) :=
  Triple.pure fun _ h => h

theorem throw (e : Abrupt) : Preserves inv (throw e : Run σ α) :=
  Triple.throw fun _ h => h

theorem modify {f : σ → σ} (h : ∀ s, inv s → inv (f s)) :
    Preserves inv (modify f : Run σ PUnit) :=
  Triple.modify h

theorem bind {x : Run σ α} {f : α → Run σ β} (hx : Preserves inv x)
    (hf : ∀ a, Preserves inv (f a)) : Preserves inv (x >>= f) :=
  Triple.bind hx hf

theorem get_bind {f : σ → Run σ β} (h : ∀ s, Preserves inv (f s)) :
    Preserves inv (MonadState.get >>= f) :=
  Triple.get_bind fun s _ => h s

theorem ite {c : Prop} [Decidable c] {x y : Run σ α} (hx : Preserves inv x)
    (hy : Preserves inv y) : Preserves inv (if c then x else y) :=
  Triple.ite (fun _ => hx) fun _ => hy

theorem catchIOException {x handler : Run σ α} (hx : Preserves inv x)
    (hhandler : Preserves inv handler) :
    Preserves inv (catchIOException x handler) := by
  refine Triple.catchIOException (hx.conseq (fun _ h => h) (fun _ _ h => h)
    fun e s h => ?_) hhandler
  cases e with
  | exited => exact h
  | blocked => exact h
  | thrown t =>
      cases t with
      | ioException message => exact h
      | _ => exact h

theorem forM {body : β → Run σ PUnit} {xs : List β}
    (h : ∀ x ∈ xs, Preserves inv (body x)) : Preserves inv (xs.forM body) := by
  induction xs with
  | nil => exact pure _
  | cons x rest ih =>
      rw [List.forM_eq_forM, List.forM_cons]
      exact (h x (List.mem_cons_self ..)).bind fun _ =>
        ih fun y hy => h y (List.mem_cons_of_mem _ hy)

theorem anyM {body : β → Run σ Bool} {xs : List β}
    (h : ∀ x ∈ xs, Preserves inv (body x)) : Preserves inv (xs.anyM body) := by
  induction xs with
  | nil => exact pure _
  | cons x rest ih =>
      refine (h x (List.mem_cons_self ..)).bind fun found => ?_
      cases found with
      | true => exact pure _
      | false => exact ih fun y hy => h y (List.mem_cons_of_mem _ hy)

theorem fromExcept (x : Except Throwable α) :
    Preserves inv (fromExcept x : Run σ α) := by
  cases x with
  | ok a => exact pure a
  | error e => exact throw _

theorem orThrow (o : Option α) (e : Throwable) :
    Preserves inv (orThrow o e : Run σ α) := by
  cases o with
  | some a => exact pure a
  | none => exact throw _

theorem arrayGet (xs : List α) (i : ℕ) :
    Preserves inv (arrayGet xs i : Run σ α) := orThrow _ _

/-- A method of a component preserves what every change of the component
does. -/
theorem zoom {get : σ → τ} {put : τ → σ → σ} (x : Run τ α)
    (h : ∀ s t, inv s → inv (put t s)) : Preserves inv (zoom get put x) := by
  intro s hs
  unfold Java.zoom
  cases x (get s) with
  | ok a t => exact h s t hs
  | error e t => exact h s t hs

end Preserves

/-! ## Where a method leads -/

/-- If the method returns from a state in `pre`, it leads to a state in
`post`. -/
def Leads (pre : σ → Prop) (x : Run σ α) (post : σ → Prop) : Prop :=
  Triple pre x (fun _ => post) (fun _ _ => True)

theorem Triple.leads {post : σ → Prop} {x : Run σ α}
    (h : Triple pre x (fun _ => post) exc) : Leads pre x post :=
  h.conseq (fun _ hs => hs) (fun _ _ hs => hs) (fun _ _ _ => trivial)

theorem Preserves.leads {inv : σ → Prop} {x : Run σ α}
    (h : Preserves inv x) : Leads inv x inv :=
  h.conseq (fun _ hs => hs) (fun _ _ hs => hs) (fun _ _ _ => trivial)

/-- What a method ensures and where it leads. -/
theorem Triple.and_leads {I J : σ → Prop} {x : Run σ α}
    (h : Triple pre x post exc) (h' : Leads I x J) :
    Triple (fun s => pre s ∧ I s) x (fun a s => post a s ∧ J s) exc := by
  intro s hs
  cases hrun : x s with
  | ok a s' => exact ⟨h.of_ok hs.1 hrun, h'.of_ok hs.2 hrun⟩
  | error e s' => exact h.of_error hs.1 hrun

namespace Leads

variable {pre mid post post' : σ → Prop}

theorem pure (a : α) (h : ∀ s, pre s → post s) :
    Leads pre (pure a : Run σ α) post :=
  Triple.pure h

theorem throw (e : Abrupt) : Leads pre (throw e : Run σ α) post :=
  Triple.throw fun _ _ => trivial

theorem modify {f : σ → σ} (h : ∀ s, pre s → post (f s)) :
    Leads pre (modify f : Run σ PUnit) post :=
  Triple.modify h

theorem bind {x : Run σ α} {f : α → Run σ β} (hx : Leads pre x mid)
    (hf : ∀ a, Leads mid (f a) post) : Leads pre (x >>= f) post :=
  Triple.bind hx hf

theorem get_bind {f : σ → Run σ β} (h : ∀ s, pre s → Leads pre (f s) post) :
    Leads pre (MonadState.get >>= f) post :=
  Triple.get_bind h

theorem get_bind_eq {f : σ → Run σ β}
    (h : ∀ s, pre s → Leads (fun t => t = s) (f s) post) :
    Leads pre (MonadState.get >>= f) post :=
  Triple.get_bind_eq h

theorem of_eq {x : Run σ α} (h : Leads pre x post) {s : σ} (hs : pre s) :
    Leads (fun t => t = s) x post :=
  Triple.of_eq h hs

theorem ite {c : Prop} [Decidable c] {x y : Run σ α}
    (hx : c → Leads pre x post) (hy : ¬ c → Leads pre y post) :
    Leads pre (if c then x else y) post :=
  Triple.ite hx hy

theorem mono {x : Run σ α} (h : Leads pre x post)
    (hpost : ∀ s, post s → post' s) : Leads pre x post' :=
  h.conseq (fun _ hs => hs) (fun _ => hpost) (fun _ _ _ => trivial)

theorem returning {x : Run σ Unit} {b : β} (h : Leads pre x post) :
    Leads pre (do x; return b) post :=
  Triple.returning h

/-- A loop in which every round establishes something that all rounds keep. -/
theorem forM_forall {I : σ → Prop} {P : β → σ → Prop}
    {body : β → Run σ PUnit} (xs : List β)
    (hbody : ∀ x ∈ xs, Leads I (body x) (fun s => I s ∧ P x s))
    (hkeep : ∀ x ∈ xs, ∀ y,
      Leads (fun s => I s ∧ P y s) (body x) (fun s => I s ∧ P y s)) :
    Leads I (xs.forM body) (fun s => I s ∧ ∀ x ∈ xs, P x s) := by
  induction xs with
  | nil => exact Leads.pure _ fun s hs => ⟨hs, fun _ hx => nomatch hx⟩
  | cons x rest ih =>
      have hrest := ih (fun y hy => hbody y (List.mem_cons_of_mem _ hy))
        fun y hy => hkeep y (List.mem_cons_of_mem _ hy)
      have hfirst : Leads (fun s => I s ∧ P x s) (rest.forM body)
          (fun s => I s ∧ P x s) := Triple.forM fun y hy =>
        hkeep y (List.mem_cons_of_mem _ hy) x
      rw [List.forM_eq_forM, List.forM_cons]
      refine (hbody x (List.mem_cons_self ..)).bind fun _ => ?_
      refine (Triple.and_leads hrest hfirst).conseq (fun s hs => ⟨hs.1, hs⟩)
        (fun _ s hs => ⟨hs.1.1, fun y hy => ?_⟩) fun _ _ _ => trivial
      rcases List.mem_cons.mp hy with rfl | hy
      · exact hs.2.2
      · exact hs.1.2 y hy

end Leads

end Java
