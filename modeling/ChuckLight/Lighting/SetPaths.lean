import ChuckLight.Lighting.FixtureManager

/-!
# Where the name of a set file leads

A file name is resolved against the set directory and normalised, and the parent
of the result is compared with the directory.  The root has no parent.
-/

namespace ChuckLight

open Java

/-! ## Definitions -/

/-- A name that stands for a file in its directory. -/
structure Path.Ordinary (name : List Char) : Prop where
  ne_nil : name ≠ []
  noSlash : '/' ∉ name
  noNul : '\x00' ∉ name
  ne_dot : name ≠ ['.']
  ne_dots : name ≠ ['.', '.']

namespace FixtureManager

/-- How deep below the root a path leads: each name leads down, `..` leads
up. -/
def descend (depth : ℕ) (name : List Char) : ℕ :=
  if name = ['.'] then depth
  else if name = ['.', '.'] then depth - 1
  else depth + 1

/-- The names of a file name, without empty ones. -/
def components (filename : List Char) : List (List Char) :=
  (filename.splitOn '/').filter fun name => name ≠ []

/-- The file name leads to the root of the file system. -/
def LeadsToRoot (set_dir : RealPath) (filename : List Char) : Prop :=
  '\x00' ∉ filename ∧
    (components filename).foldl descend
      (if filename.head? = some '/' then 0 else set_dir.names.length) = 0

instance (set_dir : RealPath) (filename : List Char) :
    Decidable (LeadsToRoot set_dir filename) :=
  inferInstanceAs (Decidable (_ ∧ _))

end FixtureManager

/-! ## Splitting -/

/-- The parts hold all elements but the separator. -/
theorem exists_mem_splitOn_iff {α : Type} [BEq α] [LawfulBEq α] {a c : α}
    {xs : List α} :
    (∃ part ∈ xs.splitOn a, c ∈ part) ↔ c ∈ xs ∧ c ≠ a := by
  induction xs with
  | nil =>
      rw [List.splitOn_nil]
      constructor
      · rintro ⟨part, hpart, hc⟩
        rw [List.mem_singleton.mp hpart] at hc
        cases hc
      · exact fun h => absurd h.1 List.not_mem_nil
  | cons x xs ih =>
      rw [List.splitOn_cons_eq_if_modifyHead]
      by_cases hx : x = a
      · subst hx
        rw [if_pos BEq.rfl, List.exists_mem_cons_iff, ih, List.mem_cons]
        constructor
        · rintro (hc | hc)
          · cases hc
          · exact ⟨Or.inr hc.1, hc.2⟩
        · rintro ⟨rfl | hc, hne⟩
          · exact absurd rfl hne
          · exact Or.inr ⟨hc, hne⟩
      · rw [if_neg (fun heq => hx (eq_of_beq heq))]
        cases hsplit : xs.splitOn a with
        | nil => exact absurd hsplit (List.splitOn_ne_nil a xs)
        | cons first rest =>
            rw [hsplit, List.exists_mem_cons_iff] at ih
            rw [List.modifyHead_cons, List.exists_mem_cons_iff, List.mem_cons,
              List.mem_cons, or_assoc, ih]
            constructor
            · rintro (rfl | hc)
              · exact ⟨Or.inl rfl, hx⟩
              · exact ⟨Or.inr hc.1, hc.2⟩
            · rintro ⟨rfl | hc, hne⟩
              · exact Or.inl rfl
              · exact Or.inr ⟨hc, hne⟩

/-- The last part ends as the list does, up to the last separator. -/
theorem exists_splitOn_append {α : Type} [BEq α] [LawfulBEq α] {a : α}
    (xs : List α) {suffix : List α} (h : a ∉ suffix) :
    ∃ parts last, (xs ++ suffix).splitOn a = parts ++ [last] ∧
      suffix <:+ last := by
  induction xs with
  | nil =>
      exact ⟨[], suffix, List.splitOn_eq_singleton h, List.suffix_refl _⟩
  | cons x xs ih =>
      obtain ⟨parts, last, hsplit, hsuffix⟩ := ih
      rw [List.cons_append, List.splitOn_cons_eq_if_modifyHead, hsplit]
      by_cases hx : x == a
      · exact ⟨[] :: parts, last, if_pos hx, hsuffix⟩
      · rw [if_neg hx]
        cases parts with
        | nil =>
            exact ⟨[], x :: last, rfl, hsuffix.trans (List.suffix_cons _ _)⟩
        | cons first rest =>
            exact ⟨(x :: first) :: rest, last, rfl, hsuffix⟩

/-! ## Normalising -/

namespace Path

variable {absolute : Bool} {stack names : List (List Char)}

theorem foldl_pushName {absolute : Bool} {names : List (List Char)}
    (h : ∀ name ∈ names, name ≠ ['.'] ∧ name ≠ ['.', '.'])
    (stack : List (List Char)) :
    names.foldl (pushName absolute) stack = names.reverse ++ stack := by
  induction names generalizing stack with
  | nil => rfl
  | cons name names ih =>
      have hname := h name (List.mem_cons_self ..)
      have hpush : pushName absolute stack name = name :: stack := by
        unfold pushName
        rw [if_neg hname.1, if_neg hname.2]
      rw [List.foldl_cons, hpush,
        ih fun n hn => h n (List.mem_cons_of_mem _ hn), List.reverse_cons,
        List.append_assoc, List.singleton_append]

theorem getParent_append (names : List (List Char)) (name : List Char) :
    getParent ⟨true, names ++ [name]⟩ = some ⟨true, names⟩ := by
  rcases names with _ | ⟨first, _ | ⟨second, names⟩⟩
  · rfl
  · rfl
  · show some (⟨true, (first :: second :: names ++ [name]).dropLast⟩ : Path) = _
    rw [List.dropLast_concat]

/-- On a stack without dots, `..` takes the top away. -/
theorem pushName_of_plain
    (h : ∀ name ∈ stack, name ≠ ['.'] ∧ name ≠ ['.', '.'])
    (name : List Char) :
    pushName true stack name =
      if name = ['.'] then stack
      else if name = ['.', '.'] then stack.tail
      else name :: stack := by
  cases stack with
  | nil => rfl
  | cons top rest =>
      have htop := (h top (List.mem_cons_self ..)).2
      unfold pushName
      dsimp only [List.tail_cons]
      rw [if_neg htop]

/-- One more name changes the depth of the stack, and leaves it without
dots. -/
theorem pushName_spec (h : ∀ name ∈ stack, name ≠ ['.'] ∧ name ≠ ['.', '.'])
    (name : List Char) :
    (pushName true stack name).length =
        FixtureManager.descend stack.length name ∧
      ∀ n ∈ pushName true stack name, n ≠ ['.'] ∧ n ≠ ['.', '.'] := by
  rw [pushName_of_plain h, FixtureManager.descend]
  split_ifs with hdot hdots
  · exact ⟨rfl, h⟩
  · exact ⟨List.length_tail, fun n hn => h n (List.mem_of_mem_tail hn)⟩
  · refine ⟨List.length_cons, fun n hn => ?_⟩
    rcases List.mem_cons.mp hn with rfl | hn
    · exact ⟨hdot, hdots⟩
    · exact h n hn

theorem foldl_pushName_spec (names : List (List Char))
    (h : ∀ name ∈ stack, name ≠ ['.'] ∧ name ≠ ['.', '.']) :
    (names.foldl (pushName true) stack).length =
        names.foldl FixtureManager.descend stack.length ∧
      ∀ n ∈ names.foldl (pushName true) stack,
        n ≠ ['.'] ∧ n ≠ ['.', '.'] := by
  induction names generalizing stack with
  | nil => exact ⟨rfl, h⟩
  | cons name names ih =>
      obtain ⟨hlength, hplain⟩ := pushName_spec h name
      rw [List.foldl_cons, List.foldl_cons, ← hlength]
      exact ih hplain

/-- The names on the stack are new ones above what is left of the old ones. -/
theorem exists_foldl_pushName (names : List (List Char))
    (h : ∀ name ∈ stack, name ≠ ['.'] ∧ name ≠ ['.', '.']) :
    ∃ top k, names.foldl (pushName true) stack = top ++ stack.drop k ∧
      ∀ name ∈ top, name ∈ names := by
  induction names generalizing stack with
  | nil => exact ⟨[], 0, rfl, fun _ hname => absurd hname List.not_mem_nil⟩
  | cons name names ih =>
      obtain ⟨top, k, heq, htop⟩ := ih (pushName_spec h name).2
      have htop' : ∀ n ∈ top, n ∈ name :: names := fun n hn =>
        List.mem_cons_of_mem _ (htop n hn)
      rw [List.foldl_cons, heq, pushName_of_plain h]
      split_ifs with hdot hdots
      · exact ⟨top, k, rfl, htop'⟩
      · exact ⟨top, k + 1, by rw [← List.drop_one, List.drop_drop,
          Nat.add_comm], htop'⟩
      · cases k with
        | zero =>
            refine ⟨top ++ [name], 0, ?_, fun n hn => ?_⟩
            · rw [List.drop_zero, List.drop_zero, List.append_assoc,
                List.singleton_append]
            · rcases List.mem_append.mp hn with hn | hn
              · exact htop' n hn
              · rw [List.mem_singleton.mp hn]
                exact List.mem_cons_self ..
        | succ k => exact ⟨top, k, rfl, htop'⟩

end Path

/-! ## Where a file name leads -/

namespace FixtureManager

variable {set_dir : RealPath} {filename name : List Char}

/-- The names from which a file name starts, the last one first. -/
def start (set_dir : RealPath) (filename : List Char) : List (List Char) :=
  if filename.head? = some '/' then [] else set_dir.names.reverse

/-- The names to which a file name leads, the last one first. -/
def landing (set_dir : RealPath) (filename : List Char) : List (List Char) :=
  (components filename).foldl (Path.pushName true) (start set_dir filename)

theorem plain_start (set_dir : RealPath) (filename : List Char) :
    ∀ name ∈ start set_dir filename, name ≠ ['.'] ∧ name ≠ ['.', '.'] := by
  intro name hname
  unfold start at hname
  split_ifs at hname with hhead
  · exact absurd hname List.not_mem_nil
  · exact set_dir.plain name (List.mem_reverse.mp hname)

theorem length_start_le (set_dir : RealPath) (filename : List Char) :
    (start set_dir filename).length ≤ set_dir.names.length := by
  unfold start
  split_ifs with hhead
  · exact Nat.zero_le _
  · exact List.length_reverse.le

theorem leadsToRoot_iff :
    LeadsToRoot set_dir filename ↔
      '\x00' ∉ filename ∧ landing set_dir filename = [] := by
  have hlength : (start set_dir filename).length =
      if filename.head? = some '/' then 0 else set_dir.names.length := by
    unfold start
    split_ifs with hhead
    · rfl
    · exact List.length_reverse
  have hlanding := (Path.foldl_pushName_spec (components filename)
    (plain_start set_dir filename)).1
  rw [LeadsToRoot, ← hlength, ← hlanding, List.length_eq_zero_iff, landing]

theorem normalize_resolve (set_dir : RealPath) (filename : List Char) :
    (set_dir.path.resolve ⟨decide (filename.head? = some '/'),
        components filename⟩).normalize =
      ⟨true, (landing set_dir filename).reverse⟩ := by
  unfold landing start Path.resolve
  by_cases hhead : filename.head? = some '/'
  · rw [if_pos hhead, if_pos (decide_eq_true hhead), decide_eq_true hhead]
    rfl
  · rw [if_neg hhead, if_neg (by simpa using hhead)]
    show (⟨true, ((set_dir.names ++ components filename).foldl
      (Path.pushName true) []).reverse⟩ : Path) = _
    rw [List.foldl_append, Path.foldl_pushName set_dir.plain, List.append_nil]

theorem setFile_of_landing (set_dir : RealPath) (hnul : '\x00' ∉ filename) :
    setFile set_dir filename =
      match landing set_dir filename with
      | [] => .error .nullPointerException
      | name :: rest =>
          if rest.reverse ≠ set_dir.names then
            .error (.illegalArgumentException "path traversal detected")
          else .ok ⟨true, set_dir.names ++ [name]⟩ := by
  have htext : Path.ofText filename =
      .ok ⟨decide (filename.head? = some '/'), components filename⟩ :=
    if_neg hnul
  simp only [setFile, htext, bind, Except.bind, normalize_resolve]
  cases landing set_dir filename with
  | nil => rfl
  | cons name rest =>
      rw [List.reverse_cons, Path.getParent_append]
      dsimp only
      by_cases hrest : rest.reverse = set_dir.names
      · rw [if_neg (not_not.mpr hrest), hrest]
        exact if_neg (not_not.mpr rfl)
      · rw [if_pos hrest]
        refine if_pos fun heq => hrest ?_
        exact congrArg Path.names heq

/-- One name below the directory is one of the names of the file name. -/
theorem ordinary_of_landing (hnul : '\x00' ∉ filename)
    (hlanding : landing set_dir filename = name :: set_dir.names.reverse) :
    Path.Ordinary name := by
  have hplain := (Path.foldl_pushName_spec (components filename)
    (plain_start set_dir filename)).2
  obtain ⟨top, k, heq, htop⟩ := Path.exists_foldl_pushName
    (components filename) (plain_start set_dir filename)
  rw [← landing, hlanding] at hplain heq
  have hmem : name ∈ components filename := by
    cases top with
    | nil =>
        exfalso
        have hlength := congrArg List.length heq
        rw [List.nil_append, List.length_cons, List.length_drop,
          List.length_reverse] at hlength
        have hle := length_start_le set_dir filename
        omega
    | cons first top =>
        rw [List.cons_append] at heq
        injection heq with hfirst
        rw [hfirst]
        exact htop first (List.mem_cons_self ..)
  obtain ⟨hsplit, hne⟩ := List.mem_filter.mp hmem
  obtain ⟨hdot, hdots⟩ := hplain name (List.mem_cons_self ..)
  have hchars : ∀ c ∈ name, c ∈ filename ∧ c ≠ '/' := fun c hc =>
    exists_mem_splitOn_iff.mp ⟨name, hsplit, hc⟩
  exact ⟨of_decide_eq_true hne, fun hc => (hchars _ hc).2 rfl,
    fun hc => hnul (hchars _ hc).1, hdot, hdots⟩

/-- The file name leads to a name directly in the directory. -/
def StaysIn (set_dir : RealPath) (filename : List Char) : Prop :=
  '\x00' ∉ filename ∧
    ∃ name, landing set_dir filename = name :: set_dir.names.reverse

theorem setFile_of_below (hnul : '\x00' ∉ filename)
    (hlanding : landing set_dir filename = name :: set_dir.names.reverse) :
    setFile set_dir filename = .ok ⟨true, set_dir.names ++ [name]⟩ := by
  rw [setFile_of_landing set_dir hnul, hlanding]
  exact if_neg (not_not.mpr (List.reverse_reverse _))

/-- A name that stands for a file leads to that file in the directory. -/
theorem setFile_of_ordinary (h : Path.Ordinary name) :
    setFile set_dir name = .ok ⟨true, set_dir.names ++ [name]⟩ := by
  have hhead : name.head? ≠ some '/' := fun hhead =>
    h.noSlash (List.mem_of_head? hhead)
  have hcomponents : components name = [name] := by
    rw [components, List.splitOn_eq_singleton h.noSlash]
    exact List.filter_cons_of_pos (decide_eq_true h.ne_nil)
  have hplain : ∀ n ∈ [name], n ≠ ['.'] ∧ n ≠ ['.', '.'] := by
    intro n hn
    rw [List.mem_singleton.mp hn]
    exact ⟨h.ne_dot, h.ne_dots⟩
  refine setFile_of_below h.noNul ?_
  rw [landing, hcomponents, Path.foldl_pushName hplain, start, if_neg hhead]
  rfl

/-- A file name is refused, or leads to the root, or stays directly in the
directory. -/
theorem setFile_cases (set_dir : RealPath) (filename : List Char) :
    (∃ message, setFile set_dir filename =
        .error (.illegalArgumentException message)) ∨
      (LeadsToRoot set_dir filename ∧
        setFile set_dir filename = .error .nullPointerException) ∨
      ('\x00' ∉ filename ∧
        ∃ name, landing set_dir filename = name :: set_dir.names.reverse ∧
          Path.Ordinary name ∧
          setFile set_dir filename = .ok ⟨true, set_dir.names ++ [name]⟩) := by
  by_cases hnul : '\x00' ∈ filename
  · refine Or.inl ⟨"Nul character not allowed", ?_⟩
    unfold setFile Path.ofText
    rw [if_pos hnul]
    rfl
  · have hfile := setFile_of_landing set_dir hnul
    cases hlanding : landing set_dir filename with
    | nil =>
        rw [hlanding] at hfile
        exact Or.inr (Or.inl ⟨leadsToRoot_iff.mpr ⟨hnul, hlanding⟩, hfile⟩)
    | cons name rest =>
        by_cases hrest : rest.reverse = set_dir.names
        · have hbelow : landing set_dir filename =
              name :: set_dir.names.reverse := by
            rw [hlanding, ← hrest, List.reverse_reverse]
          exact Or.inr (Or.inr ⟨hnul, name, hlanding ▸ hbelow,
            ordinary_of_landing hnul hbelow, setFile_of_below hnul hbelow⟩)
        · rw [hlanding] at hfile
          dsimp only at hfile
          rw [if_pos hrest] at hfile
          exact Or.inl ⟨_, hfile⟩

theorem suffix_savedName (filename : List Char) :
    ['.', 's', 'e', 't'] <:+ savedName filename := by
  unfold savedName
  split_ifs with h
  · exact h
  · exact List.suffix_append filename _

/-- The name under which a set is saved leads to a name that ends in `.set`. -/
theorem landing_savedName (set_dir : RealPath) (filename : List Char) :
    ∃ name rest, landing set_dir (savedName filename) = name :: rest ∧
      ['.', 's', 'e', 't'] <:+ name := by
  obtain ⟨stem, hstem⟩ := suffix_savedName filename
  have hslash : '/' ∉ ['.', 's', 'e', 't'] := by decide
  obtain ⟨parts, last, hsplit, hlast⟩ := exists_splitOn_append stem hslash
  rw [hstem] at hsplit
  have hlength : 4 ≤ last.length := hlast.length_le
  have hcomponents : components (savedName filename) =
      (parts.filter fun name => name ≠ []) ++ [last] := by
    have hnil : last ≠ [] := List.ne_nil_of_length_pos (by omega)
    have hfilter : [last].filter (fun name => name ≠ []) = [last] :=
      List.filter_cons_of_pos (decide_eq_true hnil)
    rw [components, hsplit, List.filter_append, hfilter]
  have hplain : ∀ name ∈ [last], name ≠ ['.'] ∧ name ≠ ['.', '.'] := by
    intro name hname
    rw [List.mem_singleton.mp hname]
    constructor
    · rintro rfl
      exact absurd hlength (by decide)
    · rintro rfl
      exact absurd hlength (by decide)
  refine ⟨last, (parts.filter fun name => name ≠ []).foldl
    (Path.pushName true) (start set_dir (savedName filename)), ?_, hlast⟩
  rw [landing, hcomponents, List.foldl_append, Path.foldl_pushName hplain]
  rfl

end FixtureManager

end ChuckLight
