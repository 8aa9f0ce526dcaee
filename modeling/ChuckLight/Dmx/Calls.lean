import ChuckLight.Dmx.SetDMX
import ChuckLight.Support.LatestWrite
import Mathlib.Data.List.GetD

/-!
# Sequences of driver calls

A program is a list of calls of the three writing methods.  Each call is a
sequence of groups, one `setDMX` each; a program that returns normally has
stored and sent every group, and the shadow holds at each address the value
that the latest call supplied for it.
-/

namespace ChuckLight.DefaultDMX

open Java LatestWrite

/-- The calls that write. -/
inductive Call where
  | setDMX (address : Int32) (values : List Int32)
  | setAllDMX (values : List Int32)
  | clearDMX

def Call.run : Call → Run DefaultDMX Unit
  | .setDMX address values => DefaultDMX.setDMX address values
  | .setAllDMX values => DefaultDMX.setAllDMX values
  | .clearDMX => DefaultDMX.clearDMX

/-- The value that a call supplies for address `a`. -/
def Call.supplies : Call → Fin 513 → Option Int32
  | .setDMX address values, a => covered address.toInt.toNat values a
  | .setAllDMX values, a =>
      if 1 ≤ (a : ℕ) then some (values.getD a 0) else none
  | .clearDMX, a => if 1 ≤ (a : ℕ) then some 0 else none

/-! ## Groups -/

/-- The arguments of one `setDMX`. -/
structure Group where
  address : Int32
  values : List Int32

def Group.supplies (g : Group) : Fin 513 → Option Int32 :=
  covered g.address.toInt.toNat g.values

def Group.messages (g : Group) : List SysWrite :=
  DefaultDMX.messages g.address g.values

/-- The group of four that starts at address `i`. -/
def groupAt (f : ℕ → Int32) (i : ℕ) : Group :=
  ⟨Int32.ofNat i, [f i, f (i + 1), f (i + 2), f (i + 3)]⟩

def Call.groups : Call → List Group
  | .setDMX address values => [⟨address, values⟩]
  | .setAllDMX values => groupStarts.map (groupAt fun i => values.getD i 0)
  | .clearDMX => groupStarts.map (groupAt fun _ => 0)

def runGroups (gs : List Group) : Run DefaultDMX Unit :=
  gs.forM fun g => DefaultDMX.setDMX g.address g.values

/-- The driver after the groups have been stored and sent. -/
def storeGroups (gs : List Group) (d : DefaultDMX) : DefaultDMX :=
  gs.foldl (fun d g => (d.store g.address g.values).record g.messages) d

theorem NoFault.storeGroups {d : DefaultDMX} (h : NoFault d)
    (gs : List Group) : NoFault (storeGroups gs d) := by
  induction gs generalizing d with
  | nil => exact h
  | cons g rest ih => exact ih ((h.store _ _).record _)

theorem sysfs_storeGroups (gs : List Group) (d : DefaultDMX) :
    (storeGroups gs d).sysfs = d.sysfs ++ gs.flatMap Group.messages := by
  induction gs generalizing d with
  | nil => exact (List.append_nil _).symm
  | cons g rest ih =>
      rw [List.flatMap_cons, ← List.append_assoc]
      exact ih _

theorem dmxShadow_storeGroups (gs : List Group) (d : DefaultDMX)
    (a : Fin 513) :
    (storeGroups gs d).dmxShadow a =
      (latest Group.supplies gs a).getD (d.dmxShadow a) :=
  foldl_eq_latest DefaultDMX.dmxShadow (fun _ _ => rfl) gs d

theorem storeGroups_append (xs ys : List Group) (d : DefaultDMX) :
    storeGroups (xs ++ ys) d = storeGroups ys (storeGroups xs d) :=
  List.foldl_append

/-! ## Calls as groups -/

theorem runGroups_cons (g : Group) (gs : List Group) :
    runGroups (g :: gs) =
      DefaultDMX.setDMX g.address g.values >>= fun _ => runGroups gs := by
  unfold runGroups
  simp only [List.forM_eq_forM, List.forM_cons]

theorem runGroups_of_accepts {gs : List Group}
    (hgs : ∀ g ∈ gs, Accepts g.address g.values) {d : DefaultDMX}
    (hd : NoFault d) : runGroups gs d = .ok () (storeGroups gs d) := by
  induction gs generalizing d with
  | nil => rfl
  | cons g rest ih =>
      have hg := (hgs g (List.mem_cons_self ..)).setDMX_of_noFault hd
      rw [runGroups_cons, bind_of_ok hg]
      exact ih (fun g' hg' => hgs g' (List.mem_cons_of_mem _ hg'))
        ((hd.store _ _).record _)

theorem accepts_of_runGroups_eq_ok {gs : List Group} {d d' : DefaultDMX}
    (h : runGroups gs d = .ok () d') :
    ∀ g ∈ gs, Accepts g.address g.values := by
  induction gs generalizing d with
  | nil =>
      intro g hg
      cases hg
  | cons g rest ih =>
      rw [runGroups_cons] at h
      cases hset : DefaultDMX.setDMX g.address g.values d with
      | error e d₁ =>
          rw [bind_of_error hset] at h
          cases h
      | ok u d₁ =>
          rw [bind_of_ok hset] at h
          intro g' hg'
          rcases List.mem_cons.mp hg' with rfl | hg'
          · exact accepts_of_setDMX_eq_ok hset
          · exact ih h g' hg'

theorem forM_map {α β : Type} (f : α → β) (body : β → Run DefaultDMX Unit)
    (xs : List α) : (xs.map f).forM body = xs.forM fun x => body (f x) := by
  induction xs with
  | nil => rfl
  | cons x rest ih =>
      simp only [List.forM_eq_forM] at ih
      simp only [List.forM_eq_forM, List.map_cons, List.forM_cons, ih]

theorem clearDMX_eq :
    DefaultDMX.clearDMX = runGroups Call.clearDMX.groups := by
  unfold runGroups Call.groups
  rw [forM_map]
  rfl

theorem lt_of_mem_groupStarts {i : ℕ} (h : i ∈ groupStarts) :
    1 ≤ i ∧ i + 3 < 513 := by
  obtain ⟨k, hk, rfl⟩ := List.mem_range'.mp h
  omega

theorem forM_congr {α : Type} {f g : α → Run DefaultDMX Unit} {xs : List α}
    (h : ∀ x ∈ xs, f x = g x) : xs.forM f = xs.forM g := by
  induction xs with
  | nil => rfl
  | cons x rest ih =>
      have hrest := ih fun y hy => h y (List.mem_cons_of_mem _ hy)
      simp only [List.forM_eq_forM] at hrest
      simp only [List.forM_eq_forM, List.forM_cons, hrest,
        h x (List.mem_cons_self ..)]

theorem setAllDMX_eq {values : List Int32} (h : values.length = 513) :
    DefaultDMX.setAllDMX values =
      runGroups (Call.setAllDMX values).groups := by
  unfold DefaultDMX.setAllDMX runGroups Call.groups
  rw [if_neg (not_not.mpr h), forM_map]
  apply forM_congr
  intro i hi
  obtain ⟨-, hlt⟩ := lt_of_mem_groupStarts hi
  rw [arrayGet_bind_of_lt (by omega), arrayGet_bind_of_lt (by omega),
    arrayGet_bind_of_lt (by omega), arrayGet_bind_of_lt (by omega)]
  simp only [groupAt, List.getD_eq_getElem values 0 (show i < _ by omega),
    List.getD_eq_getElem values 0 (show i + 1 < _ by omega),
    List.getD_eq_getElem values 0 (show i + 2 < _ by omega),
    List.getD_eq_getElem values 0 (show i + 3 < _ by omega)]

/-- The values from an address on, taken off the front of the list in groups
of four. -/
def inFours : ℕ → List Int32 → Run DefaultDMX Unit
  | i, v₀ :: v₁ :: v₂ :: v₃ :: values => do
      DefaultDMX.setDMX (Int32.ofNat i) [v₀, v₁, v₂, v₃]
      inFours (i + 4) values
  | _, _ => pure ⟨⟩

theorem forM_eq_inFours {values : List Int32} {n i : ℕ}
    (h : values.length = i + 4 * n) :
    ((List.range' i n 4).forM fun i => do
      let v₀ ← arrayGet values i
      let v₁ ← arrayGet values (i + 1)
      let v₂ ← arrayGet values (i + 2)
      let v₃ ← arrayGet values (i + 3)
      DefaultDMX.setDMX (Int32.ofNat i) [v₀, v₁, v₂, v₃]) =
      inFours i (values.drop i) := by
  induction n generalizing i with
  | zero =>
      rw [List.drop_of_length_le (by omega)]
      rfl
  | succ n ih =>
      have hrest := ih (i := i + 4) (by omega)
      rw [List.range'_succ, List.forM_eq_forM, List.forM_cons,
        ← List.forM_eq_forM, hrest,
        List.drop_eq_getElem_cons (show i < values.length by omega),
        List.drop_eq_getElem_cons (show i + 1 < values.length by omega),
        List.drop_eq_getElem_cons (show i + 2 < values.length by omega),
        List.drop_eq_getElem_cons (show i + 3 < values.length by omega),
        inFours, arrayGet_bind_of_lt (by omega), arrayGet_bind_of_lt (by omega),
        arrayGet_bind_of_lt (by omega), arrayGet_bind_of_lt (by omega)]

/-- `setDMX(int[])` without an index into the array. -/
theorem setAllDMX_eq_inFours :
    DefaultDMX.setAllDMX = fun values =>
      if values.length ≠ 513 then
        throwNew (.illegalArgumentException
          "values array must be 513 elements long")
      else inFours 1 values.tail := by
  funext values
  unfold DefaultDMX.setAllDMX
  split_ifs with hlength
  · rfl
  · rw [groupStarts, forM_eq_inFours (by omega), List.drop_one]

/-- A call that returns normally runs its groups. -/
theorem Call.run_eq_of_ok {c : Call} {d d' : DefaultDMX}
    (h : c.run d = .ok () d') : runGroups c.groups d = .ok () d' := by
  cases c with
  | setDMX address values =>
      rw [Call.groups, runGroups_cons]
      exact bind_of_ok h
  | setAllDMX values =>
      by_cases hlength : values.length = 513
      · rw [← setAllDMX_eq hlength]
        exact h
      · have hthrow : DefaultDMX.setAllDMX values = throwNew
            (.illegalArgumentException
              "values array must be 513 elements long") :=
          if_pos hlength
        rw [Call.run, hthrow] at h
        cases h
  | clearDMX =>
      rw [← clearDMX_eq]
      exact h

/-- A program that returns normally had only accepted groups. -/
theorem groups_of_run_eq_ok {calls : List Call} {d d' : DefaultDMX}
    (hd : NoFault d) (h : calls.forM Call.run d = .ok () d') :
    (∀ g ∈ calls.flatMap Call.groups, Accepts g.address g.values) ∧
      d' = storeGroups (calls.flatMap Call.groups) d := by
  induction calls generalizing d with
  | nil =>
      cases h
      exact ⟨fun g hg => absurd hg (List.not_mem_nil), rfl⟩
  | cons c rest ih =>
      rw [List.forM_eq_forM, List.forM_cons] at h
      cases hc : c.run d with
      | error e d₁ =>
          rw [bind_of_error hc] at h
          cases h
      | ok u d₁ =>
          rw [bind_of_ok hc] at h
          have hrun := Call.run_eq_of_ok hc
          have hgroups := accepts_of_runGroups_eq_ok hrun
          rw [runGroups_of_accepts hgroups hd] at hrun
          injection hrun with _ hd₁
          subst hd₁
          obtain ⟨haccepts, heq⟩ := ih (hd.storeGroups _) h
          rw [List.flatMap_cons, storeGroups_append]
          refine ⟨fun g hg => ?_, heq⟩
          rcases List.mem_append.mp hg with hg | hg
          · exact hgroups g hg
          · exact haccepts g hg

/-! ## Accepted calls -/

/-- A call all of whose checks pass. -/
structure Call.Accepted (c : Call) : Prop where
  length : ∀ values, c = .setAllDMX values → values.length = 513
  groups : ∀ g ∈ c.groups, Accepts g.address g.values

theorem Call.Accepted.run_eq {c : Call} (hc : c.Accepted) {d : DefaultDMX}
    (hd : NoFault d) : c.run d = .ok () (storeGroups c.groups d) := by
  have hrun := runGroups_of_accepts hc.groups hd
  cases c with
  | setDMX address values =>
      rw [Call.groups, runGroups_cons] at hrun
      have haccepts := hc.groups _ (List.mem_singleton_self _)
      exact haccepts.setDMX_of_noFault hd
  | setAllDMX values =>
      rw [← setAllDMX_eq (hc.length values rfl)] at hrun
      exact hrun
  | clearDMX =>
      rw [← clearDMX_eq] at hrun
      exact hrun

/-- Without faults a program of accepted calls returns normally. -/
theorem forM_run_of_accepted {calls : List Call}
    (hcalls : ∀ c ∈ calls, c.Accepted) {d : DefaultDMX} (hd : NoFault d) :
    calls.forM Call.run d =
      .ok () (storeGroups (calls.flatMap Call.groups) d) := by
  induction calls generalizing d with
  | nil => rfl
  | cons c rest ih =>
      have hc := (hcalls c (List.mem_cons_self ..)).run_eq hd
      rw [List.forM_eq_forM, List.forM_cons, bind_of_ok hc,
        List.flatMap_cons, storeGroups_append]
      exact ih (fun c' hc' => hcalls c' (List.mem_cons_of_mem _ hc'))
        (hd.storeGroups _)

theorem accepts_groupAt {f : ℕ → Int32} (hf : ∀ k, IsByte (f (k + 1))) {i : ℕ}
    (hi : i ∈ groupStarts) :
    Accepts (groupAt f i).address (groupAt f i).values := by
  obtain ⟨hone, hlt⟩ := lt_of_mem_groupStarts hi
  have haddress : (groupAt f i).address.toInt = i :=
    Int32.toInt_ofNat_of_lt (by omega)
  have hlength : (groupAt f i).values.length = 4 := rfl
  refine ⟨by omega, by omega, by omega, by omega, fun v hv => ?_⟩
  obtain ⟨j, rfl⟩ := Nat.exists_eq_add_of_le' hone
  simp only [groupAt, List.mem_cons, List.not_mem_nil, or_false] at hv
  rcases hv with rfl | rfl | rfl | rfl
  · exact hf j
  · exact hf (j + 1)
  · exact hf (j + 2)
  · exact hf (j + 3)

theorem accepted_clearDMX : Call.clearDMX.Accepted where
  length _ h := by cases h
  groups g hg := by
    obtain ⟨i, hi, rfl⟩ := List.mem_map.mp hg
    exact accepts_groupAt (fun _ => by decide) hi

/-- The value at index 0 is not checked. -/
theorem accepted_setAllDMX {values : List Int32}
    (hlength : values.length = 513) (hvalues : ∀ v ∈ values.tail, IsByte v) :
    (Call.setAllDMX values).Accepted where
  length values' h := by
    cases h
    exact hlength
  groups g hg := by
    obtain ⟨i, hi, rfl⟩ := List.mem_map.mp hg
    refine accepts_groupAt (fun k => ?_) hi
    rw [List.getD_eq_getElem?_getD, ← List.getElem?_tail]
    cases hk : values.tail[k]? with
    | none => exact isByte_zero
    | some v => exact hvalues v (List.mem_of_getElem? hk)

/-- Groups store only bytes, and accepted ones fail only with an
`IOException`. -/
theorem runGroups_triple {pre : (Fin 513 → Int32) → Prop}
    (hupdate : ∀ shadow index v, IsByte v → pre shadow →
      pre (Function.update shadow index v)) {c : Prop} {gs : List Group}
    (hgs : c → ∀ g ∈ gs, Accepts g.address g.values) :
    Triple (fun d => pre d.dmxShadow) (runGroups gs)
      (fun _ d => pre d.dmxShadow)
      (fun e d => pre d.dmxShadow ∧ (c → e.IsIOException)) :=
  Triple.forM fun g hg =>
    (setDMX_triple hupdate g.address g.values).conseq (fun _ h => h)
      (fun _ _ h => h) fun _ _ h => ⟨h.1, fun hc => h.2 (hgs hc g hg)⟩

/-- A group within the addresses fails with an `IOException`, or it is
refused. -/
theorem setDMX_failure {address : Int32} {values : List Int32}
    (hle : address.toInt + values.length ≤ 513) :
    Triple (fun _ => True) (DefaultDMX.setDMX address values) (fun _ _ => True)
      (fun e _ => e.IsIOException ∨ e.IsIllegalArgument) := by
  intro d _
  cases hrun : DefaultDMX.setDMX address values d with
  | ok u d' => trivial
  | error e d' =>
      by_cases hchecked : Checked address values
      · have haccepts : Accepts address values :=
          ⟨hchecked.one_le, hle, hchecked.length_pos, hchecked.length_le,
            hchecked.isByte⟩
        exact .inl (haccepts.isIOException hrun)
      · obtain ⟨message, herror⟩ := setDMX_of_not_checked hchecked d
        rw [herror] at hrun
        cases hrun
        exact .inr ⟨message, rfl⟩

theorem setAllDMX_failure (values : List Int32) :
    Triple (fun _ => True) (DefaultDMX.setAllDMX values) (fun _ _ => True)
      (fun e _ => e.IsIOException ∨ e.IsIllegalArgument) := by
  by_cases hlength : values.length = 513
  · rw [setAllDMX_eq hlength]
    refine Triple.forM fun g hg => setDMX_failure ?_
    obtain ⟨i, hi, rfl⟩ := List.mem_map.mp hg
    obtain ⟨-, hlt⟩ := lt_of_mem_groupStarts hi
    have haddress : (Int32.ofNat i).toInt = i :=
      Int32.toInt_ofNat_of_lt (by omega)
    show (Int32.ofNat i).toInt + 4 ≤ 513
    omega
  · unfold DefaultDMX.setAllDMX
    rw [if_pos hlength]
    exact Triple.throw fun _ _ => .inr ⟨_, rfl⟩

theorem accepted_setDMX {address : Int32} {values : List Int32}
    (h : Accepts address values) : (Call.setDMX address values).Accepted where
  length _ h := by cases h
  groups g hg := by
    rw [List.mem_singleton.mp hg]
    exact h

/-! ## What a call supplies -/

theorem groupAt_supplies (f : ℕ → Int32) {i : ℕ} (hi : i < 513)
    (a : Fin 513) :
    (groupAt f i).supplies a =
      if i ≤ a ∧ (a : ℕ) < i + 4 then some (f a) else none := by
  have haddress : (Int32.ofNat i).toInt.toNat = i := by
    rw [Int32.toInt_ofNat_of_lt (by omega)]
    rfl
  unfold Group.supplies groupAt
  rw [haddress]
  by_cases h : i ≤ a ∧ (a : ℕ) < i + 4
  · obtain ⟨k, hk⟩ := Nat.exists_eq_add_of_le h.1
    have hcases : k = 0 ∨ k = 1 ∨ k = 2 ∨ k = 3 := by omega
    rw [if_pos h]
    apply covered_of_getElem? hk
    rw [hk]
    rcases hcases with rfl | rfl | rfl | rfl <;> rfl
  · rw [if_neg h]
    apply covered_eq_none
    simp only [List.length_cons, List.length_nil]
    omega

/-- The groups of four cover the addresses from 1 on without a gap. -/
theorem latest_groupAt (f : ℕ → Int32) {n : ℕ} (hn : n ≤ 128) (a : Fin 513) :
    latest Group.supplies ((List.range' 1 n 4).map (groupAt f)) a =
      if 1 ≤ (a : ℕ) ∧ (a : ℕ) < 1 + 4 * n then some (f a) else none := by
  induction n with
  | zero =>
      rw [if_neg (by omega)]
      rfl
  | succ n ih =>
      rw [List.range'_concat, List.map_append, latest_append,
        ih (by omega), List.map_singleton, latest_cons,
        groupAt_supplies f (by omega)]
      show Option.or (Option.or none _) _ = _
      rw [Option.none_or]
      by_cases hlast : 1 + 4 * n ≤ (a : ℕ) ∧ (a : ℕ) < 1 + 4 * n + 4
      · rw [if_pos hlast, Option.some_or, if_pos (by omega)]
      · rw [if_neg hlast, Option.none_or]
        apply if_congr _ rfl rfl
        omega

theorem Call.latest_groups (c : Call) (a : Fin 513) :
    latest Group.supplies c.groups a = c.supplies a := by
  have ha := a.isLt
  cases c with
  | setDMX address values => exact Option.or_none
  | setAllDMX values =>
      refine (latest_groupAt _ (Nat.le_refl 128) a).trans ?_
      apply if_congr _ rfl rfl
      omega
  | clearDMX =>
      refine (latest_groupAt _ (Nat.le_refl 128) a).trans ?_
      apply if_congr _ rfl rfl
      omega

end ChuckLight.DefaultDMX
