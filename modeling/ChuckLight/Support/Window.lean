import Mathlib.Data.List.Basic
import Mathlib.Data.List.OfFn
import Mathlib.Data.Set.Basic
import Mathlib.Tactic.SplitIfs

/-!
# Windows on a memory

A window is a range of cells of a memory together with a mirror, a list of the
values of the range.  A write goes to an offset of the mirror and to the cell at
that offset from the base of the window.
-/

namespace Window

variable {α : Type} {n base base' : ℕ} {mem mem' : Fin n → α} {vals : List α}
  {ws ws' : List (ℕ × α)}

/-- The mirror after some writes. -/
def mirror (vals : List α) (ws : List (ℕ × α)) : List α :=
  ws.foldl (fun vals w => vals.set w.1 w.2) vals

/-- The memory after one write. -/
def poke (base : ℕ) (mem : Fin n → α) (w : ℕ × α) : Fin n → α :=
  fun a => if (a : ℕ) = base + w.1 then w.2 else mem a

/-- The memory after some writes. -/
def memory (base : ℕ) (mem : Fin n → α) (ws : List (ℕ × α)) : Fin n → α :=
  ws.foldl (poke base) mem

/-- The values of the first `count` cells of the window. -/
def view (base count : ℕ) (mem : Fin n → α) : List α :=
  ((List.ofFn mem).drop base).take count

/-- The mirror holds the values of the memory. -/
def Agrees (base : ℕ) (vals : List α) (mem : Fin n → α) : Prop :=
  ∀ (a : Fin n) (i : ℕ), (a : ℕ) = base + i → i < vals.length →
    vals[i]? = some (mem a)

/-- The two memories hold the same values in the window. -/
def Same (base count : ℕ) (mem mem' : Fin n → α) : Prop :=
  ∀ a : Fin n, base ≤ a → (a : ℕ) < base + count → mem a = mem' a

@[simp]
theorem mirror_nil (vals : List α) : mirror vals [] = vals := rfl

@[simp]
theorem memory_nil (base : ℕ) (mem : Fin n → α) : memory base mem [] = mem :=
  rfl

@[simp]
theorem mirror_cons (vals : List α) (w : ℕ × α) (ws : List (ℕ × α)) :
    mirror vals (w :: ws) = mirror (vals.set w.1 w.2) ws := rfl

@[simp]
theorem memory_cons (base : ℕ) (mem : Fin n → α) (w : ℕ × α)
    (ws : List (ℕ × α)) :
    memory base mem (w :: ws) = memory base (poke base mem w) ws := rfl

theorem mirror_append (vals : List α) (ws ws' : List (ℕ × α)) :
    mirror vals (ws ++ ws') = mirror (mirror vals ws) ws' :=
  List.foldl_append

theorem memory_append (base : ℕ) (mem : Fin n → α) (ws ws' : List (ℕ × α)) :
    memory base mem (ws ++ ws') = memory base (memory base mem ws) ws' :=
  List.foldl_append

@[simp]
theorem length_mirror (vals : List α) (ws : List (ℕ × α)) :
    (mirror vals ws).length = vals.length := by
  induction ws generalizing vals with
  | nil => rfl
  | cons w ws ih => rw [mirror_cons, ih, List.length_set]

/-! ## Agreement -/

theorem Agrees.poke (h : Agrees base vals mem) (w : ℕ × α) :
    Agrees base (vals.set w.1 w.2) (poke base mem w) := by
  intro a i ha hi
  rw [List.length_set] at hi
  unfold Window.poke
  by_cases hw : w.1 = i
  · subst hw
    rw [if_pos ha, List.getElem?_set_self hi]
  · rw [if_neg (by omega), List.getElem?_set_ne hw]
    exact h a i ha hi

/-- Writes keep the mirror and the memory in agreement. -/
theorem Agrees.writes (h : Agrees base vals mem) (ws : List (ℕ × α)) :
    Agrees base (mirror vals ws) (memory base mem ws) := by
  induction ws generalizing vals mem with
  | nil => exact h
  | cons w ws ih => exact ih (h.poke w)

theorem length_view {count : ℕ} (h : base + count ≤ n) (mem : Fin n → α) :
    (view base count mem).length = count := by
  unfold view
  rw [List.length_take, List.length_drop, List.length_ofFn]
  omega

theorem getElem?_view {count i : ℕ} (hi : i < count) (mem : Fin n → α)
    {a : Fin n} (ha : (a : ℕ) = base + i) :
    (view base count mem)[i]? = some (mem a) := by
  unfold view
  rw [List.getElem?_take_of_lt hi, List.getElem?_drop, ← ha,
    List.getElem?_eq_getElem (by rw [List.length_ofFn]; exact a.isLt),
    List.getElem_ofFn]

/-- What has been read off the memory agrees with it. -/
theorem agrees_view {count : ℕ} (h : base + count ≤ n) (mem : Fin n → α) :
    Agrees base (view base count mem) mem := by
  intro a i ha hi
  rw [length_view h] at hi
  exact getElem?_view hi mem ha

/-! ## Frame -/

theorem memory_of_ne {a : Fin n} (h : ∀ w ∈ ws, (a : ℕ) ≠ base + w.1) :
    memory base mem ws a = mem a := by
  induction ws generalizing mem with
  | nil => rfl
  | cons w ws ih =>
      rw [memory_cons, ih fun w' hw' => h w' (List.mem_cons_of_mem _ hw')]
      exact if_neg (h w (List.mem_cons_self ..))

/-- Writes within a window change nothing outside. -/
theorem memory_of_outside {count : ℕ} {a : Fin n}
    (h : ∀ w ∈ ws, w.1 < count)
    (ha : (a : ℕ) < base ∨ base + count ≤ a) :
    memory base mem ws a = mem a := by
  refine memory_of_ne fun w hw => ?_
  have hlt := h w hw
  omega

theorem Same.refl (base count : ℕ) (mem : Fin n → α) :
    Same base count mem mem := fun _ _ _ => rfl

theorem Same.symm {count : ℕ} (h : Same base count mem mem') :
    Same base count mem' mem := fun a hle hlt => (h a hle hlt).symm

/-- The same writes to windows with the same values. -/
theorem Same.writes {count : ℕ} (h : Same base count mem mem')
    (ws : List (ℕ × α)) :
    Same base count (memory base mem ws) (memory base mem' ws) := by
  induction ws generalizing mem mem' with
  | nil => exact h
  | cons w ws ih =>
      refine ih fun a hle hlt => ?_
      unfold poke
      rw [h a hle hlt]

theorem Same.view_eq {count : ℕ} (h : Same base count mem mem') :
    view base count mem = view base count mem' := by
  unfold view
  apply List.ext_getElem?
  intro i
  by_cases hi : i < count
  · rw [List.getElem?_take_of_lt hi, List.getElem?_take_of_lt hi,
      List.getElem?_drop, List.getElem?_drop, List.getElem?_ofFn,
      List.getElem?_ofFn]
    split_ifs with hlt
    · exact congrArg some (h ⟨base + i, hlt⟩ (Nat.le_add_right _ _)
        (Nat.add_lt_add_left hi _))
    · rfl
  · rw [List.getElem?_take_eq_none (by omega),
      List.getElem?_take_eq_none (by omega)]

/-- Writes to one window leave the values of another one. -/
theorem same_of_disjoint {count count' : ℕ} (h : ∀ w ∈ ws, w.1 < count)
    (hdisjoint : base + count ≤ base' ∨ base' + count' ≤ base) :
    Same base' count' (memory base mem ws) mem := by
  intro a hle hlt
  exact memory_of_outside h (by omega)

/-! ## Changed cells -/

/-- The second memory is the first one with the cells of a set changed. -/
structure Changed (change : α → α) (cells : Set (Fin n))
    (mem mem' : Fin n → α) : Prop where
  inside : ∀ a ∈ cells, mem' a = change (mem a)
  outside : ∀ a ∉ cells, mem' a = mem a

section Changed

variable {change : α → α} {cells cells' : Set (Fin n)} {mem'' : Fin n → α}

/-- The values of the cells are fixed points. -/
theorem Changed.of_fixed (h : ∀ a ∈ cells, change (mem a) = mem a) :
    Changed change cells mem mem :=
  ⟨fun a ha => (h a ha).symm, fun _ _ => rfl⟩

/-- No cell is changed twice. -/
theorem Changed.trans (h : Changed change cells mem mem')
    (h' : Changed change cells' mem' mem'')
    (hnot : ∀ a ∈ cells, a ∉ cells') :
    Changed change (cells ∪ cells') mem mem'' := by
  refine ⟨fun a ha => ?_, fun a ha => ?_⟩
  · rcases ha with ha | ha
    · rw [h'.outside a (hnot a ha), h.inside a ha]
    · rw [h'.inside a ha, h.outside a fun hcell => hnot a hcell ha]
  · rw [h'.outside a fun hcell => ha (Or.inr hcell),
      h.outside a fun hcell => ha (Or.inl hcell)]

/-- A write of the changed value to one cell. -/
theorem changed_poke {offset : ℕ} {value : α}
    (hvalue : ∀ a : Fin n, (a : ℕ) = base + offset →
      value = change (mem a)) :
    Changed change {a | (a : ℕ) = base + offset} mem
      (poke base mem (offset, value)) :=
  ⟨fun a ha => (if_pos ha).trans (hvalue a ha), fun _ ha => if_neg ha⟩

end Changed

/-! ## Writing the whole window -/

/-- Writes of all values from an offset on. -/
def writesFrom (offset : ℕ) : List α → List (ℕ × α)
  | [] => []
  | v :: vs => (offset, v) :: writesFrom (offset + 1) vs

theorem mem_writesFrom {offset : ℕ} {values : List α} {w : ℕ × α}
    (h : w ∈ writesFrom offset values) :
    offset ≤ w.1 ∧ w.1 < offset + values.length ∧ w.2 ∈ values := by
  induction values generalizing offset with
  | nil => cases h
  | cons v vs ih =>
      rw [List.length_cons]
      rcases List.mem_cons.mp h with rfl | h
      · exact ⟨Nat.le_refl _, by omega, List.mem_cons_self ..⟩
      · obtain ⟨hle, hlt, hmem⟩ := ih h
        exact ⟨by omega, by omega, List.mem_cons_of_mem _ hmem⟩

/-- The mirror takes the values. -/
theorem mirror_writesFrom (done vals values : List α)
    (h : values.length = vals.length) :
    mirror (done ++ vals) (writesFrom done.length values) = done ++ values := by
  induction values generalizing done vals with
  | nil =>
      rw [List.eq_nil_of_length_eq_zero h.symm]
      rfl
  | cons v vs ih =>
      obtain ⟨w, ws, rfl⟩ : ∃ w ws, vals = w :: ws :=
        List.exists_cons_of_length_pos (by rw [← h]; exact Nat.succ_pos _)
      have hrest := ih (done ++ [v]) ws (Nat.succ.inj h)
      rw [List.length_append, List.length_singleton, List.append_assoc,
        List.append_assoc] at hrest
      rw [writesFrom, mirror_cons]
      have hset : (done ++ w :: ws).set done.length v =
          done ++ ([v] ++ ws) := by
        rw [List.set_append_right _ _ (Nat.le_refl _), Nat.sub_self]
        rfl
      rw [hset]
      exact hrest

/-- The window takes the values. -/
theorem mirror_writesFrom_zero {values : List α}
    (h : values.length = vals.length) :
    mirror vals (writesFrom 0 values) = values :=
  mirror_writesFrom [] vals values h

/-- What agrees with the memory can be read off it. -/
theorem Agrees.view_eq (h : Agrees base vals mem)
    (hfit : base + vals.length ≤ n) : view base vals.length mem = vals := by
  apply List.ext_getElem?
  intro i
  by_cases hi : i < vals.length
  · rw [getElem?_view hi mem (a := ⟨base + i, by omega⟩) rfl]
    exact (h ⟨base + i, by omega⟩ i rfl hi).symm
  · rw [List.getElem?_eq_none (by rw [length_view hfit]; omega),
      List.getElem?_eq_none (by omega)]

/-- The values written to the whole window are the values in it. -/
theorem view_memory_writesFrom {values : List α}
    (hfit : base + values.length ≤ n) :
    view base values.length (memory base mem (writesFrom 0 values)) =
      values := by
  have hagrees := (agrees_view hfit mem).writes (writesFrom 0 values)
  rw [mirror_writesFrom_zero (length_view hfit mem).symm] at hagrees
  exact hagrees.view_eq hfit

/-! ## Actions on a window -/

/-- What is done to a window: nothing, some writes, or reading the memory into
the mirror. -/
inductive Action (α : Type) where
  | skip
  | writes (ws : List (ℕ × α))
  | syncs

namespace Action

/-- The mirror and the memory after an action on a window of `count` cells. -/
def apply (base count : ℕ) :
    Action α → List α × (Fin n → α) → List α × (Fin n → α)
  | skip, s => s
  | writes ws, s => (mirror s.1 ws, memory base s.2 ws)
  | syncs, s => (view base count s.2, s.2)

/-- The action writes only within the window. -/
def Within (count : ℕ) : Action α → Prop
  | writes ws => ∀ w ∈ ws, w.1 < count
  | _ => True

variable {count : ℕ} {s t : List α × (Fin n → α)} {action : Action α}

theorem agrees_apply (hfit : base + count ≤ n) (action : Action α)
    (h : Agrees base s.1 s.2) :
    Agrees base (action.apply base count s).1
      (action.apply base count s).2 := by
  cases action with
  | skip => exact h
  | writes ws => exact h.writes ws
  | syncs => exact agrees_view hfit s.2

theorem apply_outside (h : action.Within count) {a : Fin n}
    (ha : (a : ℕ) < base ∨ base + count ≤ a) :
    (action.apply base count s).2 a = s.2 a := by
  cases action with
  | skip => rfl
  | writes ws => exact memory_of_outside h ha
  | syncs => rfl

/-- The effect on the window depends on the window alone. -/
theorem apply_same (action : Action α) (hmirror : s.1 = t.1)
    (hsame : Same base count s.2 t.2) :
    (action.apply base count s).1 = (action.apply base count t).1 ∧
      Same base count (action.apply base count s).2
        (action.apply base count t).2 := by
  cases action with
  | skip => exact ⟨hmirror, hsame⟩
  | writes ws => exact ⟨congrArg (mirror · ws) hmirror, hsame.writes ws⟩
  | syncs => exact ⟨hsame.view_eq, hsame⟩

end Action

/-- The mirror and the memory after some actions. -/
def applyAll (base count : ℕ) (actions : List (Action α))
    (s : List α × (Fin n → α)) : List α × (Fin n → α) :=
  actions.foldl (fun s action => action.apply base count s) s

section Sequences

variable {count count' : ℕ} {actions actions' : List (Action α)}
  {s t : List α × (Fin n → α)}

theorem agrees_applyAll (hfit : base + count ≤ n) (actions : List (Action α))
    (h : Agrees base s.1 s.2) :
    Agrees base (applyAll base count actions s).1
      (applyAll base count actions s).2 := by
  induction actions generalizing s with
  | nil => exact h
  | cons action actions ih => exact ih (Action.agrees_apply hfit action h)

theorem applyAll_outside (h : ∀ action ∈ actions, action.Within count)
    {a : Fin n} (ha : (a : ℕ) < base ∨ base + count ≤ a) :
    (applyAll base count actions s).2 a = s.2 a := by
  induction actions generalizing s with
  | nil => rfl
  | cons action actions ih =>
      have hrest := ih (s := action.apply base count s) fun action' hmem =>
        h action' (List.mem_cons_of_mem _ hmem)
      exact hrest.trans
        (Action.apply_outside (h action (List.mem_cons_self ..)) ha)

theorem applyAll_same (actions : List (Action α)) (hmirror : s.1 = t.1)
    (hsame : Same base count s.2 t.2) :
    (applyAll base count actions s).1 = (applyAll base count actions t).1 ∧
      Same base count (applyAll base count actions s).2
        (applyAll base count actions t).2 := by
  induction actions generalizing s t with
  | nil => exact ⟨hmirror, hsame⟩
  | cons action actions ih =>
      obtain ⟨hmirror', hsame'⟩ := action.apply_same hmirror hsame
      exact ih hmirror' hsame'

/-- Actions on disjoint windows commute. -/
theorem applyAll_comm (h : ∀ action ∈ actions, action.Within count)
    (h' : ∀ action ∈ actions', action.Within count')
    (hdisjoint : base + count ≤ base' ∨ base' + count' ≤ base)
    (vals vals' : List α) (mem : Fin n → α) :
    (applyAll base count actions (vals, mem)).1 =
        (applyAll base count actions
          (vals, (applyAll base' count' actions' (vals', mem)).2)).1 ∧
      (applyAll base' count' actions'
          (vals', (applyAll base count actions (vals, mem)).2)).1 =
        (applyAll base' count' actions' (vals', mem)).1 ∧
      (applyAll base' count' actions'
          (vals', (applyAll base count actions (vals, mem)).2)).2 =
        (applyAll base count actions
          (vals, (applyAll base' count' actions' (vals', mem)).2)).2 := by
  have hsame : Same base count mem
      (applyAll base' count' actions' (vals', mem)).2 := by
    intro a hle hlt
    refine (applyAll_outside (s := (vals', mem)) h' ?_).symm
    omega
  have hsame' : Same base' count'
      (applyAll base count actions (vals, mem)).2 mem := by
    intro a hle hlt
    refine applyAll_outside (s := (vals, mem)) h ?_
    omega
  obtain ⟨hmirror, hfirst⟩ := applyAll_same actions (s := (vals, mem))
    (t := (vals, (applyAll base' count' actions' (vals', mem)).2)) rfl hsame
  obtain ⟨hmirror', hsecond⟩ := applyAll_same actions' (t := (vals', mem))
    (s := (vals', (applyAll base count actions (vals, mem)).2)) rfl hsame'
  refine ⟨hmirror, hmirror', funext fun a => ?_⟩
  have hframe : ∀ s : List α × (Fin n → α),
      (a : ℕ) < base ∨ base + count ≤ a →
        (applyAll base count actions s).2 a = s.2 a :=
    fun s ha => applyAll_outside h ha
  have hframe' : ∀ s : List α × (Fin n → α),
      (a : ℕ) < base' ∨ base' + count' ≤ a →
        (applyAll base' count' actions' s).2 a = s.2 a :=
    fun s ha => applyAll_outside h' ha
  by_cases ha : base ≤ a ∧ (a : ℕ) < base + count
  · exact (hframe' _ (by omega)).trans (hfirst a ha.1 ha.2)
  · by_cases ha' : base' ≤ a ∧ (a : ℕ) < base' + count'
    · rw [hframe _ (by omega)]
      exact hsecond a ha'.1 ha'.2
    · rw [hframe' _ (by omega), hframe _ (by omega), hframe _ (by omega),
        hframe' _ (by omega)]

end Sequences

end Window
