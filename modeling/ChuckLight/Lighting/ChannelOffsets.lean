import ChuckLight.Lighting.FixtureProfile

/-!
# Channel maps of fixtures

The constructor and `readObject` fill the channel map with the position of each
name.  `Offsets m names` says that the map holds exactly the positions of
`names`; both loops extend it by one name a round.
-/

namespace ChuckLight.FixtureProfile

open Java

/-- The map holds exactly the position of each name. -/
structure Offsets (m : ChannelMap) (names : List String) : Prop where
  nodup : names.Nodup
  keys_perm : m.keys.Perm names
  lookup_iff : ∀ s o, m.lookup s = some o ↔
    ∃ k, names[k]? = some s ∧ o = Int32.ofNat k

variable {m m' : ChannelMap} {names : List String}

theorem Offsets.size_eq (h : Offsets m names) : m.size = names.length :=
  h.keys_perm.length_eq

theorem offsets_empty : Offsets ∅ [] where
  nodup := List.nodup_nil
  keys_perm := List.Perm.nil
  lookup_iff s o := by
    constructor
    · intro h
      cases h
    · rintro ⟨k, hk, -⟩
      cases hk

theorem Offsets.not_mem (h : Offsets m names) {s : String}
    (hs : ¬ (m.lookup s).isSome) : s ∉ names := by
  intro hmem
  apply hs
  rw [AList.lookup_isSome, AList.mem_keys]
  exact h.keys_perm.mem_iff.mpr hmem

/-- A new name at the next position. -/
theorem Offsets.insert (h : Offsets m names) {s : String}
    (hs : ¬ (m.lookup s).isSome) :
    Offsets (m.insert s (Int32.ofNat names.length)) (names ++ [s]) := by
  have hmem := h.not_mem hs
  have hkey : s ∉ m := by
    rw [← AList.lookup_isSome]
    exact hs
  refine ⟨?_, ?_, fun s' o => ?_⟩
  · rw [List.nodup_append]
    refine ⟨h.nodup, List.nodup_singleton s, fun a ha b hb => ?_⟩
    rw [List.mem_singleton.mp hb]
    rintro rfl
    exact hmem ha
  · rw [AList.keys_insert, List.erase_of_not_mem hkey]
    exact (h.keys_perm.cons s).trans (List.perm_append_singleton s names).symm
  · by_cases heq : s' = s
    · subst heq
      rw [AList.lookup_insert]
      constructor
      · intro ho
        injection ho with ho
        exact ⟨names.length, List.getElem?_concat_length .., ho.symm⟩
      · rintro ⟨k, hk, rfl⟩
        by_cases hlt : k < names.length
        · rw [List.getElem?_append_left hlt] at hk
          exact absurd (List.mem_of_getElem? hk) hmem
        · have hklt := (List.getElem?_eq_some_iff.mp hk).1
          rw [List.length_append, List.length_singleton] at hklt
          rw [show k = names.length by omega]
    · rw [AList.lookup_insert_ne heq, h.lookup_iff]
      constructor
      · rintro ⟨k, hk, rfl⟩
        have hlt := (List.getElem?_eq_some_iff.mp hk).1
        exact ⟨k, by rw [List.getElem?_append_left hlt, hk], rfl⟩
      · rintro ⟨k, hk, rfl⟩
        by_cases hlt : k < names.length
        · rw [List.getElem?_append_left hlt] at hk
          exact ⟨k, hk, rfl⟩
        · rw [List.getElem?_append_right (by omega),
            List.getElem?_singleton] at hk
          split_ifs at hk
          injection hk with hk
          exact absurd hk.symm heq

/-- What the channel loop of the constructor accepts, and what it builds. -/
theorem addChannels_eq_ok {channels : List (Option String)}
    (hm : Offsets m names) (h : addChannels m names.length channels = .ok m') :
    ∃ added, channels = added.map some ∧ (∀ s ∈ added, s ≠ "") ∧
      Offsets m' (names ++ added) := by
  induction channels generalizing m names with
  | nil =>
      injection h with h
      subst h
      exact ⟨[], rfl, fun s hs => absurd hs List.not_mem_nil,
        by rwa [List.append_nil]⟩
  | cons c channels ih =>
      cases c with
      | none => cases h
      | some s =>
          rw [addChannels] at h
          by_cases hempty : s = ""
          · rw [if_pos hempty] at h
            cases h
          rw [if_neg hempty] at h
          by_cases hdup : (m.lookup s).isSome
          · rw [if_pos hdup] at h
            cases h
          rw [if_neg hdup] at h
          have hinsert := hm.insert hdup
          have hlength : (names ++ [s]).length = names.length + 1 := by
            rw [List.length_append, List.length_singleton]
          rw [← hlength] at h
          obtain ⟨added, rfl, hne, hoffsets⟩ := ih hinsert h
          refine ⟨s :: added, rfl, ?_, ?_⟩
          · intro s' hs'
            rcases List.mem_cons.mp hs' with rfl | hs'
            · exact hempty
            · exact hne s' hs'
          · rwa [List.append_assoc] at hoffsets

/-- Distinct names that are not empty are accepted. -/
theorem addChannels_ok {added : List String} (hm : Offsets m names)
    (hne : ∀ s ∈ added, s ≠ "") (hnodup : (names ++ added).Nodup) :
    ∃ m', addChannels m names.length (added.map some) = .ok m' ∧
      Offsets m' (names ++ added) := by
  induction added generalizing m names with
  | nil => exact ⟨m, rfl, by rwa [List.append_nil]⟩
  | cons s added ih =>
      have hsplit : names ++ s :: added = (names ++ [s]) ++ added := by
        rw [List.append_assoc]
        rfl
      have hnew : ¬ (m.lookup s).isSome := by
        rw [AList.lookup_isSome, AList.mem_keys, hm.keys_perm.mem_iff]
        intro hs
        exact (List.nodup_append.mp hnodup).2.2 s hs s
          (List.mem_cons_self ..) rfl
      have hlength : (names ++ [s]).length = names.length + 1 := by
        rw [List.length_append, List.length_singleton]
      rw [hsplit] at hnodup
      obtain ⟨m', hadd, hoffsets⟩ := ih (hm.insert hnew)
        (fun s' hs' => hne s' (List.mem_cons_of_mem _ hs')) hnodup
      rw [hlength] at hadd
      refine ⟨m', ?_, by rwa [hsplit]⟩
      rw [List.map_cons, addChannels, if_neg (hne s (List.mem_cons_self ..)),
        if_neg hnew]
      exact hadd

/-! ## Reading a stream -/

theorem readInt_int (value : Int32) (rest : List StreamItem) :
    readInt (.int value :: rest) = .ok value rest := rfl

theorem readString_string (message : String) (value : Option String)
    (rest : List StreamItem) :
    readString message (.string value :: rest) = .ok value rest := rfl

theorem readInt_eq_ok {stream rest : List StreamItem} {value : Int32}
    (h : readInt stream = .ok value rest) : stream = .int value :: rest := by
  rcases stream with _ | ⟨item, stream⟩
  · cases h
  · cases item with
    | int v =>
        rw [readInt_int] at h
        injection h with hv hrest
        rw [hv, hrest]
    | string v => cases h
    | other => cases h

theorem readString_eq_ok {message : String} {stream rest : List StreamItem}
    {value : Option String} (h : readString message stream = .ok value rest) :
    stream = .string value :: rest := by
  rcases stream with _ | ⟨item, stream⟩
  · cases h
  · cases item with
    | int v => cases h
    | string v =>
        rw [readString_string] at h
        injection h with hv hrest
        rw [hv, hrest]
    | other => cases h

theorem readChannels_cons {n i : ℕ} {s : String} (hempty : s ≠ "")
    (hdup : ¬ (m.lookup s).isSome) (rest : List StreamItem) :
    readChannels m i (n + 1) (.string (some s) :: rest) =
      readChannels (m.insert s (Int32.ofNat i)) (i + 1) n rest := by
  rw [readChannels, bind_of_ok (readString_string _ _ _)]
  simp only [if_neg hempty, if_neg hdup]

/-- What the channel loop of `readObject` accepts, and what it builds. -/
theorem readChannels_eq_ok {n : ℕ} {stream rest : List StreamItem}
    (hm : Offsets m names)
    (h : readChannels m names.length n stream = .ok m' rest) :
    ∃ added, added.length = n ∧
      stream = added.map (fun s => .string (some s)) ++ rest ∧
      (∀ s ∈ added, s ≠ "") ∧ Offsets m' (names ++ added) := by
  induction n generalizing m names stream with
  | zero =>
      cases h
      exact ⟨[], rfl, rfl, fun s hs => absurd hs List.not_mem_nil,
        by rwa [List.append_nil]⟩
  | succ n ih =>
      have hread := h
      rw [readChannels] at hread
      obtain ⟨value, st, hstring, hrest⟩ := exists_of_bind_eq_ok hread
      have hstream := readString_eq_ok hstring
      subst hstream
      cases value with
      | none => cases hrest
      | some s =>
          by_cases hempty : s = ""
          · simp only [if_pos hempty] at hrest
            cases hrest
          by_cases hdup : (m.lookup s).isSome
          · simp only [if_neg hempty, if_pos hdup] at hrest
            cases hrest
          rw [readChannels_cons hempty hdup] at h
          have hinsert := hm.insert hdup
          have hlength : (names ++ [s]).length = names.length + 1 := by
            rw [List.length_append, List.length_singleton]
          rw [← hlength] at h
          obtain ⟨added, hn, rfl, hne, hoffsets⟩ := ih hinsert h
          refine ⟨s :: added, by rw [List.length_cons, hn], rfl, ?_, ?_⟩
          · intro s' hs'
            rcases List.mem_cons.mp hs' with rfl | hs'
            · exact hempty
            · exact hne s' hs'
          · rwa [List.append_assoc] at hoffsets

/-- New non-empty names are read back. -/
theorem readChannels_map {added : List String} (hm : Offsets m names)
    (hnodup : (names ++ added).Nodup) (hne : ∀ s ∈ added, s ≠ "")
    (rest : List StreamItem) :
    ∃ m', readChannels m names.length added.length
        (added.map (fun s => .string (some s)) ++ rest) = .ok m' rest ∧
      Offsets m' (names ++ added) := by
  induction added generalizing m names with
  | nil => exact ⟨m, rfl, by rwa [List.append_nil]⟩
  | cons s added ih =>
      have hmem : s ∉ names := by
        intro hmem
        exact (List.nodup_append.mp hnodup).2.2 s hmem s
          (List.mem_cons_self ..) rfl
      have hdup : ¬ (m.lookup s).isSome := by
        rw [AList.lookup_isSome, AList.mem_keys]
        exact fun hkey => hmem (hm.keys_perm.mem_iff.mp hkey)
      have happend : names ++ s :: added = (names ++ [s]) ++ added := by
        rw [List.append_assoc, List.singleton_append]
      rw [happend] at hnodup
      obtain ⟨m', hread, hoffsets⟩ := ih (hm.insert hdup) hnodup
        fun s' hs' => hne s' (List.mem_cons_of_mem _ hs')
      rw [List.length_append, List.length_singleton] at hread
      refine ⟨m', ?_, by rwa [happend]⟩
      rw [List.map_cons, List.cons_append, List.length_cons,
        readChannels_cons (hne s (List.mem_cons_self ..)) hdup]
      exact hread

/-- The offsets of the channels lie below the number of channels. -/
theorem Offsets.lt_size (h : Offsets m names) (hsize : m.size < 2 ^ 31)
    {s : String} {o : Int32} (ho : m.lookup s = some o) :
    0 ≤ o.toInt ∧ o.toInt < m.size := by
  obtain ⟨k, hk, rfl⟩ := (h.lookup_iff s o).mp ho
  have hlt := (List.getElem?_eq_some_iff.mp hk).1
  rw [← h.size_eq] at hlt
  rw [Int32.toInt_ofNat_of_lt (by omega)]
  omega

end ChuckLight.FixtureProfile
