import ChuckLight.Support.Carousel

/-!
# Playing clips

A player shows the frames of one clip after another, and after the last clip it
starts again.  Seen from outside it reads the frames of all clips in a cycle.
-/

namespace Playlist

variable {α : Type} {clips : List (List α)}

/-- A clip, and a frame of it. -/
structure Cursor where
  clip : ℕ
  frame : ℕ
  deriving DecidableEq

/-- The frames of clip `k`. -/
def framesOf (clips : List (List α)) (k : ℕ) : List α := clips.getD k []

/-- The number of frames before clip `k`. -/
def offset (clips : List (List α)) (k : ℕ) : ℕ :=
  (clips.take k).flatten.length

/-- The cursor stands on a frame. -/
structure Cursor.Valid (clips : List (List α)) (c : Cursor) : Prop where
  clip : c.clip < clips.length
  frame : c.frame < (framesOf clips c.clip).length

/-- The number of frames before the cursor. -/
def Cursor.position (clips : List (List α)) (c : Cursor) : ℕ :=
  offset clips c.clip + c.frame

/-- The frame that the cursor stands on. -/
def Cursor.shown (clips : List (List α)) (c : Cursor) : Option α :=
  (framesOf clips c.clip)[c.frame]?

/-- The next frame, or the first one of the next clip. -/
def Cursor.next (clips : List (List α)) (c : Cursor) : Cursor :=
  if c.frame + 1 < (framesOf clips c.clip).length then
    { c with frame := c.frame + 1 }
  else ⟨Carousel.next clips.length c.clip, 0⟩

def Cursor.start : Cursor := ⟨0, 0⟩

variable {c : Cursor} {k : ℕ}

/-! ## Positions -/

theorem offset_zero (clips : List (List α)) : offset clips 0 = 0 := rfl

theorem take_succ (clips : List (List α)) (k : ℕ) :
    (clips.take (k + 1)).flatten =
      (clips.take k).flatten ++ framesOf clips k := by
  unfold framesOf
  rw [List.take_add_one, List.flatten_append, List.getD_eq_getElem?_getD]
  cases clips[k]? with
  | none => rfl
  | some clip => exact congrArg _ (List.append_nil clip)

theorem offset_succ (clips : List (List α)) (k : ℕ) :
    offset clips (k + 1) = offset clips k + (framesOf clips k).length := by
  unfold offset
  rw [take_succ, List.length_append]

theorem offset_length (clips : List (List α)) :
    offset clips clips.length = clips.flatten.length := by
  unfold offset
  rw [List.take_length]

/-- The cursor stands on the frame at its position. -/
theorem getElem?_position (h : c.Valid clips) :
    clips.flatten[c.position clips]? = c.shown clips := by
  have hsplit : clips.flatten = (clips.take c.clip).flatten ++
      (framesOf clips c.clip ++ (clips.drop (c.clip + 1)).flatten) := by
    rw [← List.append_assoc, ← take_succ, ← List.flatten_append,
      List.take_append_drop]
  unfold Cursor.position Cursor.shown offset
  rw [hsplit, List.getElem?_append_right (Nat.le_add_right _ _),
    Nat.add_sub_cancel_left, List.getElem?_append_left h.frame]

theorem position_lt (h : c.Valid clips) :
    c.position clips < clips.flatten.length := by
  have hsome : clips.flatten[c.position clips]? ≠ none := by
    rw [getElem?_position h]
    unfold Cursor.shown
    rw [List.getElem?_eq_getElem h.frame]
    exact Option.some_ne_none _
  by_contra hle
  exact hsome (List.getElem?_eq_none (Nat.le_of_not_lt hle))

/-! ## Steps -/

section Nonempty

variable (hclips : ∀ clip ∈ clips, clip ≠ [])

include hclips

theorem length_framesOf_pos (hk : k < clips.length) :
    0 < (framesOf clips k).length := by
  unfold framesOf
  rw [List.getD_eq_getElem?_getD, List.getElem?_eq_getElem hk]
  exact List.length_pos_iff.mpr (hclips _ (List.getElem_mem hk))

theorem valid_start (hpos : 0 < clips.length) :
    Cursor.start.Valid clips := ⟨hpos, length_framesOf_pos hclips hpos⟩

theorem valid_next (h : c.Valid clips) : (c.next clips).Valid clips := by
  unfold Cursor.next
  split_ifs with hmore
  · exact ⟨h.clip, hmore⟩
  · have hlt := Carousel.next_lt h.clip
    exact ⟨hlt, length_framesOf_pos hclips hlt⟩

/-- The position goes around all frames. -/
theorem position_next (h : c.Valid clips) :
    (c.next clips).position clips =
      Carousel.next clips.flatten.length (c.position clips) := by
  have hnext := position_lt (valid_next hclips h)
  revert hnext
  unfold Cursor.next
  by_cases hmore : c.frame + 1 < (framesOf clips c.clip).length
  · rw [if_pos hmore]
    intro hlt
    have hsucc : Cursor.position clips { c with frame := c.frame + 1 } =
        c.position clips + 1 := rfl
    rw [hsucc] at hlt ⊢
    exact (if_pos hlt).symm
  · rw [if_neg hmore]
    have hlast : c.position clips + 1 = offset clips (c.clip + 1) := by
      have hframe := h.frame
      rw [offset_succ]
      unfold Cursor.position
      omega
    unfold Carousel.next
    rw [hlast]
    by_cases hclip : c.clip + 1 < clips.length
    · rw [if_pos hclip]
      exact fun hlt => (if_pos hlt).symm
    · have hend : c.clip + 1 = clips.length := by
        have hlt := h.clip
        omega
      rw [if_neg hclip, hend, offset_length]
      exact fun _ => (if_neg (Nat.lt_irrefl _)).symm

theorem valid_iterate (hpos : 0 < clips.length) (n : ℕ) :
    ((Cursor.next clips)^[n] Cursor.start).Valid clips := by
  induction n with
  | zero => exact valid_start hclips hpos
  | succ n ih =>
      rw [Function.iterate_succ_apply']
      exact valid_next hclips ih

theorem position_iterate (hpos : 0 < clips.length) (n : ℕ) :
    ((Cursor.next clips)^[n] Cursor.start).position clips =
      n % clips.flatten.length := by
  have hstart := position_lt (valid_start hclips hpos)
  have hiterate : ((Cursor.next clips)^[n] Cursor.start).position clips =
      (Carousel.next clips.flatten.length)^[n] 0 := by
    induction n with
    | zero => rfl
    | succ n ih =>
        rw [Function.iterate_succ_apply', Function.iterate_succ_apply', ← ih]
        exact position_next hclips (valid_iterate hclips hpos n)
  rw [hiterate, Carousel.iterate_next (Nat.zero_lt_of_lt hstart),
    Nat.zero_add]

/-- The player reads the frames of all clips in a cycle. -/
theorem shown_iterate (hpos : 0 < clips.length) (n : ℕ) :
    ((Cursor.next clips)^[n] Cursor.start).shown clips =
      clips.flatten[n % clips.flatten.length]? := by
  rw [← getElem?_position (valid_iterate hclips hpos n),
    position_iterate hclips hpos]

end Nonempty

end Playlist
