import ChuckLight.Dmx.EndToEnd
import ChuckLight.Support.Agreement

/-!
# The dummy driver

`DMXDummy` keeps the DMX values in a list and shows them in a window.  The
window reads the list on its own thread and is left out.  For every sequence of
calls the dummy gives the same answers as the real driver without I/O errors.
-/

namespace ChuckLight

open Java

/-- The values of the dummy driver. -/
structure DMXDummy where
  dmxVals : List Int32

namespace DMXDummy

/-- `dmxVals.get(index)`. -/
def getVal (index : Int32) : Run DMXDummy Int32 := do
  if 0 ≤ index.toInt then
    orThrow (← get).dmxVals[index.toInt.toNat]?
      (.indexOutOfBoundsException "get")
  else throwNew .arrayIndexOutOfBoundsException

/-- `dmxVals.set(index, value)`. -/
def setVal (index value : Int32) : Run DMXDummy Unit := do
  if 0 ≤ index.toInt then
    if index.toInt < (← get).dmxVals.length then
      modify fun d =>
        { d with dmxVals := d.dmxVals.set index.toInt.toNat value }
    else throwNew (.indexOutOfBoundsException "set")
  else throwNew .arrayIndexOutOfBoundsException

/-! ## Methods -/

/-- A new object. -/
def create : DMXDummy where
  dmxVals := List.replicate 513 0

def getDMX (address : Int32) : Run DMXDummy Int32 := do
  if address ≤ 0 ∨ address > 512 then
    throwNew (.illegalArgumentException "DMX address must be within [1:512]")
  else getVal address

def getDmx : Run DMXDummy (List Int32) := do
  return (← get).dmxVals

/-- The loop of `setDMX` from its `i`th round on. -/
def setLoop (address : Int32) : ℕ → List Int32 → Run DMXDummy Unit
  | _, [] => pure ()
  | i, value :: values => do
      let currVal := value &&& 0xff
      setVal (address + Int32.ofNat i) currVal
      setLoop address (i + 1) values

def setDMX (address : Int32) (values : List Int32) : Run DMXDummy Unit := do
  if address ≤ 0 ∨ address > 512 then
    throwNew (.illegalArgumentException "DMX address must be within [1:512]")
  else if values.length = 0 then
    throwNew (.illegalArgumentException "Must supply at least one value.")
  else if values.length > 4 then
    throwNew (.illegalArgumentException "Must supply at most four values.")
  else if values.any fun val => val < 0 || val > 255 then
    throwNew (.illegalArgumentException "DMX values must be within [0:255]")
  else setLoop address 0 values

/-- The counter of `for (int i = 1; i < 512; i = i + 4)`. -/
def groupStarts : List ℕ := List.range' 1 128 4

/-- `setDMX(int[])`. -/
def setAllDMX (values : List Int32) : Run DMXDummy Unit := do
  if values.length ≠ 513 then
    throwNew (.illegalArgumentException
      "values array must be 513 elements long")
  else
    groupStarts.forM fun i => do
      let v₀ ← arrayGet values i
      let v₁ ← arrayGet values (i + 1)
      let v₂ ← arrayGet values (i + 2)
      let v₃ ← arrayGet values (i + 3)
      setDMX (Int32.ofNat i) [v₀, v₁, v₂, v₃]

def clearDMX : Run DMXDummy Unit :=
  groupStarts.forM fun i => setDMX (Int32.ofNat i) [0, 0, 0, 0]

end DMXDummy

/-! ## Drivers -/

/-- The interface `DMXDriver`, on a state of the driver. -/
structure DMXDriver (σ : Type) where
  getDMX : Int32 → Run σ Int32
  getDmx : Run σ (List Int32)
  setDMX : Int32 → List Int32 → Run σ Unit
  setAllDMX : List Int32 → Run σ Unit
  clearDMX : Run σ Unit

def DefaultDMX.driver : DMXDriver DefaultDMX where
  getDMX := getDMX
  getDmx := getDmx
  setDMX := setDMX
  setAllDMX := setAllDMX
  clearDMX := clearDMX

def DMXDummy.driver : DMXDriver DMXDummy where
  getDMX := getDMX
  getDmx := getDmx
  setDMX := setDMX
  setAllDMX := setAllDMX
  clearDMX := clearDMX

namespace DMXDriver

/-- A call of a method of the interface. -/
inductive Request where
  | getDMX (address : Int32)
  | getDmx
  | setDMX (address : Int32) (values : List Int32)
  | setAllDMX (values : List Int32)
  | clearDMX

/-- What a caller learns from a call. -/
inductive Answer where
  | rejected
  | done
  | value (v : Int32)
  | values (vs : List Int32)
  deriving DecidableEq

variable {σ τ : Type}

def run (drv : DMXDriver σ) : Request → Run σ Answer
  | .getDMX address => do return .value (← drv.getDMX address)
  | .getDmx => do return .values (← drv.getDmx)
  | .setDMX address values => do
      drv.setDMX address values
      return .done
  | .setAllDMX values => do
      drv.setAllDMX values
      return .done
  | .clearDMX => do
      drv.clearDMX
      return .done

/-- The answer to a call. -/
def answer (x : Run σ Answer) (s : σ) : Answer :=
  match x s with
  | .ok a _ => a
  | .error _ _ => .rejected

/-- The answers to a sequence of calls; a rejected call does not end it. -/
def answers (drv : DMXDriver σ) : List Request → σ → List Answer
  | [], _ => []
  | r :: rs, s =>
      answer (drv.run r) s :: answers drv rs (stateAfter (drv.run r) s)

/-! ## Drivers that agree -/

/-- Every method of the two drivers agrees. -/
structure Matches (rel : σ → τ → Prop) (drv : DMXDriver σ)
    (drv' : DMXDriver τ) : Prop where
  getDMX : ∀ address, Agrees rel Eq (drv.getDMX address) (drv'.getDMX address)
  getDmx : Agrees rel Eq drv.getDmx drv'.getDmx
  setDMX : ∀ address values, Agrees rel (fun _ _ => True)
    (drv.setDMX address values) (drv'.setDMX address values)
  setAllDMX : ∀ values, Agrees rel (fun _ _ => True) (drv.setAllDMX values)
    (drv'.setAllDMX values)
  clearDMX : Agrees rel (fun _ _ => True) drv.clearDMX drv'.clearDMX

variable {rel : σ → τ → Prop} {drv : DMXDriver σ} {drv' : DMXDriver τ}

theorem Matches.run (h : Matches rel drv drv') (r : Request) :
    Agrees rel Eq (drv.run r) (drv'.run r) := by
  cases r with
  | getDMX address =>
      exact (h.getDMX address).bind fun _ _ hv =>
        Agrees.pure (congrArg Answer.value hv)
  | getDmx =>
      exact h.getDmx.bind fun _ _ hvs =>
        Agrees.pure (congrArg Answer.values hvs)
  | setDMX address values =>
      exact (h.setDMX address values).bind fun _ _ _ => Agrees.pure rfl
  | setAllDMX values =>
      exact (h.setAllDMX values).bind fun _ _ _ => Agrees.pure rfl
  | clearDMX => exact h.clearDMX.bind fun _ _ _ => Agrees.pure rfl

/-- One call: the same answer, and related states afterwards. -/
theorem answer_of_agrees {x : Run σ Answer} {y : Run τ Answer}
    (h : Agrees rel Eq x y) {s : σ} {t : τ} (hrel : rel s t) :
    answer x s = answer y t ∧ rel (stateAfter x s) (stateAfter y t) := by
  have hxy := h s t hrel
  unfold answer stateAfter
  cases hx : x s with
  | ok a s' =>
      cases hy : y t with
      | ok b t' =>
          rw [hx, hy] at hxy
          exact hxy
      | error e t' =>
          rw [hx, hy] at hxy
          exact hxy.elim
  | error e s' =>
      cases hy : y t with
      | ok b t' =>
          rw [hx, hy] at hxy
          exact hxy.elim
      | error e' t' =>
          rw [hx, hy] at hxy
          exact ⟨rfl, hxy⟩

theorem Matches.answers_eq (h : Matches rel drv drv') (rs : List Request)
    {s : σ} {t : τ} (hrel : rel s t) :
    answers drv rs s = answers drv' rs t := by
  induction rs generalizing s t with
  | nil => rfl
  | cons r rest ih =>
      obtain ⟨heq, hafter⟩ := answer_of_agrees (h.run r) hrel
      unfold answers
      rw [heq, ih hafter]

end DMXDriver

/-! ## The dummy matches the driver -/

namespace DMXDummy

open DefaultDMX (NoFault)

/-- The shadow of the driver has the values of the dummy, and no write will
fail. -/
def Mirrors (d : DefaultDMX) (m : DMXDummy) : Prop :=
  NoFault d ∧ m.dmxVals = List.ofFn d.dmxShadow

theorem Mirrors.length {d : DefaultDMX} {m : DMXDummy} (h : Mirrors d m) :
    m.dmxVals.length = 513 := by
  rw [h.2, List.length_ofFn]

theorem agrees_getVal (index : Int32) :
    Agrees Mirrors Eq (DefaultDMX.loadShadow index) (getVal index) := by
  intro d m h
  have hlength := h.length
  unfold DefaultDMX.loadShadow getVal
  by_cases hlow : 0 ≤ index.toInt
  · rw [if_pos hlow]
    by_cases hhigh : index.toInt < 513
    · have hget : m.dmxVals[index.toInt.toNat]? =
          some (d.dmxShadow ⟨index.toInt.toNat, by omega⟩) := by
        rw [h.2, List.getElem?_ofFn, dif_pos (by omega)]
      have hrun : (do
          orThrow (← get).dmxVals[index.toInt.toNat]?
            (.indexOutOfBoundsException "get") : Run DMXDummy Int32) m =
          .ok (d.dmxShadow ⟨index.toInt.toNat, by omega⟩) m := by
        rw [bind_of_ok (x := get) rfl, hget]
        rfl
      rw [dif_pos ⟨hlow, hhigh⟩, hrun]
      exact ⟨rfl, h⟩
    · have hget : m.dmxVals[index.toInt.toNat]? = none :=
        List.getElem?_eq_none (by omega)
      have hrun : (do
          orThrow (← get).dmxVals[index.toInt.toNat]?
            (.indexOutOfBoundsException "get") : Run DMXDummy Int32) m =
          .error (.thrown (.indexOutOfBoundsException "get")) m := by
        rw [bind_of_ok (x := get) rfl, hget]
        rfl
      rw [dif_neg fun hrange => hhigh hrange.2, hrun]
      exact h
  · rw [dif_neg fun hrange => hlow hrange.1, if_neg hlow]
    exact h

/-- The list after a change of the shadow. -/
theorem ofFn_update {n : ℕ} (shadow : Fin n → Int32) (i : Fin n)
    (value : Int32) :
    List.ofFn (Function.update shadow i value) =
      (List.ofFn shadow).set i value := by
  apply List.ext_getElem
  · simp
  · intro k hk hk'
    rw [List.getElem_ofFn, List.getElem_set, List.getElem_ofFn]
    by_cases heq : (i : ℕ) = k
    · have hi : (⟨k, by simpa using hk⟩ : Fin n) = i := Fin.ext heq.symm
      rw [if_pos heq, hi, Function.update_self]
    · rw [if_neg heq, Function.update_of_ne]
      exact fun hi => heq (congrArg Fin.val hi).symm

theorem agrees_setVal (index value : Int32) :
    Agrees Mirrors (fun _ _ => True) (DefaultDMX.storeShadow index value)
      (setVal index value) := by
  intro d m h
  have hlength := h.length
  unfold DefaultDMX.storeShadow setVal
  by_cases hlow : 0 ≤ index.toInt
  · rw [if_pos hlow, bind_of_ok (x := get) rfl]
    by_cases hhigh : index.toInt < 513
    · rw [dif_pos ⟨hlow, hhigh⟩, if_pos (by omega)]
      refine ⟨trivial, h.1, ?_⟩
      change m.dmxVals.set _ value = List.ofFn _
      rw [ofFn_update, h.2]
    · rw [dif_neg fun hrange => hhigh hrange.2, if_neg (by omega)]
      exact h
  · rw [dif_neg fun hrange => hlow hrange.1, if_neg hlow]
    exact h

/-! ## The methods agree -/

theorem agrees_setLoop (address : Int32) (values : List Int32) (i : ℕ)
    (dataVal : Int32) :
    Agrees Mirrors (fun _ _ => True)
      (DefaultDMX.packLoop address i dataVal values)
      (setLoop address i values) := by
  induction values generalizing i dataVal with
  | nil => exact Agrees.pure trivial
  | cons value values ih =>
      exact (agrees_setVal _ _).bind fun _ _ _ => ih (i + 1) _

/-- The register writes of the driver do not show. -/
theorem mirrors_writeReg (reg : DefaultDMX.SysFile) (val : Int32)
    (m : DMXDummy) :
    Triple (fun d => Mirrors d m) (DefaultDMX.writeReg reg val)
      (fun _ d => Mirrors d m) (fun _ _ => False) := by
  intro d h
  rw [DefaultDMX.writeReg_of_noFault h.1]
  exact ⟨h.1.record _, h.2⟩

theorem agrees_setDMX (address : Int32) (values : List Int32) :
    Agrees Mirrors (fun _ _ => True) (DefaultDMX.setDMX address values)
      (setDMX address values) := by
  refine Agrees.ite (fun _ => Agrees.throw _ _) fun _ =>
    Agrees.ite (fun _ => Agrees.throw _ _) fun _ =>
      Agrees.ite (fun _ => Agrees.throw _ _) fun _ =>
        Agrees.ite (fun _ => Agrees.throw _ _) fun _ => ?_
  have hwrite := mirrors_writeReg
  have hwrites : ∀ dataVal, Agrees Mirrors (fun _ _ => True)
      (do
        DefaultDMX.writeReg .data dataVal
        DefaultDMX.writeReg .addr address
        DefaultDMX.writeReg .size (Int32.ofNat values.length)
        DefaultDMX.writeReg .ctrl 0x1) (pure () : Run DMXDummy Unit) := by
    intro dataVal
    apply Agrees.of_left
    intro m
    refine Triple.bind (hwrite _ _ m) fun _ => Triple.bind (hwrite _ _ m)
      fun _ => Triple.bind (hwrite _ _ m) fun _ => ?_
    exact (hwrite _ _ m).conseq (fun _ h => h) (fun _ _ h => ⟨trivial, h⟩)
      fun _ _ h => h
  have hloop := (agrees_setLoop address values 0 0).bind
    fun dataVal _ _ => hwrites dataVal
  rw [bind_pure_unit] at hloop
  exact hloop

theorem agrees_setAllDMX (values : List Int32) :
    Agrees Mirrors (fun _ _ => True) (DefaultDMX.setAllDMX values)
      (setAllDMX values) := by
  refine Agrees.ite (fun _ => Agrees.throw _ _) fun hlength => ?_
  rw [not_not] at hlength
  apply Agrees.forM
  intro i hi
  obtain ⟨-, hlt⟩ := DefaultDMX.lt_of_mem_groupStarts hi
  simp only [@arrayGet_bind_of_lt _ _ _ values i (by omega),
    @arrayGet_bind_of_lt _ _ _ values (i + 1) (by omega),
    @arrayGet_bind_of_lt _ _ _ values (i + 2) (by omega),
    @arrayGet_bind_of_lt _ _ _ values (i + 3) (by omega)]
  exact agrees_setDMX _ _

theorem driver_matches :
    DMXDriver.Matches Mirrors DefaultDMX.driver DMXDummy.driver where
  getDMX address :=
    Agrees.ite (fun _ => Agrees.throw _ _) fun _ => agrees_getVal address
  getDmx := fun _ _ h => ⟨h.2.symm, h⟩
  setDMX := agrees_setDMX
  setAllDMX := agrees_setAllDMX
  clearDMX := Agrees.forM fun _ _ => agrees_setDMX _ _

/-- Both constructors leave zeros. -/
theorem mirrors_create {isWritable isReadable : DefaultDMX.SysFile → Bool}
    {d₀ d : DefaultDMX} (hd₀ : DefaultDMX.IsNew d₀)
    (hcreate : DefaultDMX.create isWritable isReadable d₀ = .ok () d) :
    Mirrors d create := by
  have hprogram : DefaultDMX.program isWritable isReadable [] d₀ =
      .ok () d := by
    unfold DefaultDMX.program
    rw [bind_of_ok hcreate]
    rfl
  have hshadow : d.dmxShadow = fun _ => 0 := by
    funext a
    rw [DefaultDMX.dmxShadow_of_program hd₀ hprogram]
    exact ite_self _
  have hfault : NoFault d := by
    have hreset : NoFault { d₀ with dmxShadow := fun _ => 0 } := hd₀.noFault
    obtain ⟨-, rfl⟩ := DefaultDMX.program_eq_of_ok hd₀ hprogram
    exact hreset.storeGroups _
  refine ⟨hfault, ?_⟩
  unfold create
  rw [hshadow, List.ofFn_const]

/-- Without I/O errors the dummy and the driver, both newly constructed, give
the same answers to every sequence of calls. -/
theorem answers_create {isWritable isReadable : DefaultDMX.SysFile → Bool}
    {d₀ d : DefaultDMX} (hd₀ : DefaultDMX.IsNew d₀)
    (hcreate : DefaultDMX.create isWritable isReadable d₀ = .ok () d)
    (requests : List DMXDriver.Request) :
    DMXDriver.answers DefaultDMX.driver requests d =
      DMXDriver.answers DMXDummy.driver requests create :=
  driver_matches.answers_eq requests (mirrors_create hd₀ hcreate)

theorem answers_create_blank :
    DMXDriver.answers DefaultDMX.driver [.setDMX 511 [1, 2, 3], .getDMX 512]
        (DefaultDMX.storeGroups DefaultDMX.Call.clearDMX.groups
          DefaultDMX.blank) =
      DMXDriver.answers DMXDummy.driver [.setDMX 511 [1, 2, 3], .getDMX 512]
        create :=
  answers_create DefaultDMX.isNew_blank (DefaultDMX.create_blank.trans
    (DefaultDMX.accepted_clearDMX.run_eq DefaultDMX.isNew_blank.noFault)) _

end DMXDummy

end ChuckLight
