import ChuckLight.Lighting.FixtureMethods

/-!
# The color wheel

`XYConverter` looks colors up in tables of 1024 by 1024 components within 0 to
255.  What the tables hold does not matter here, so they are a parameter.
-/

namespace ChuckLight

open Java

/-- The three tables. -/
abbrev XYConverter : Type := Fin 1024 → Fin 1024 → Color

namespace XYConverter

def VALUE_RANGE : Int32 := 4096
def SCALE : Int32 := 4

def getColor (wheel : XYConverter) (x y : Int32) : Except Throwable Color :=
  if x ≥ VALUE_RANGE ∨ y ≥ VALUE_RANGE then
    .error
      (.illegalArgumentException "(x,y) values must be within [0:4095]")
  else
    let i := (x / SCALE).toInt
    let j := (y / SCALE).toInt
    if h : (0 ≤ i ∧ i < 1024) ∧ 0 ≤ j ∧ j < 1024 then
      .ok (wheel ⟨i.toNat, by omega⟩ ⟨j.toNat, by omega⟩)
    else .error .arrayIndexOutOfBoundsException

/-- The coordinates for which there is a color. -/
def InWheel (v : Int32) : Prop := -3 ≤ v.toInt ∧ v.toInt ≤ 4095

instance (v : Int32) : Decidable (InWheel v) :=
  inferInstanceAs (Decidable (_ ∧ _))

/-- Division by the scale rounds toward zero. -/
theorem toInt_div_SCALE (v : Int32) :
    (v / SCALE).toInt =
      if 0 ≤ v.toInt then v.toInt / 4 else -(-v.toInt / 4) := by
  have hlow := v.le_toInt
  have hhigh := v.toInt_lt
  have hscale : SCALE.toInt = 4 := rfl
  have hdiv : v.toInt.tdiv 4 =
      if 0 ≤ v.toInt then v.toInt / 4 else -(-v.toInt / 4) := by
    split_ifs with h
    · exact Int.tdiv_eq_ediv_of_nonneg h
    · rw [← Int.tdiv_eq_ediv_of_nonneg (by omega), Int.neg_tdiv, Int.neg_neg]
  rw [Int32.toInt_div, hscale, hdiv]
  apply Int.bmod_eq_of_le
  all_goals
    split_ifs <;> omega

/-- The coordinates whose scaled value is an index. -/
theorem div_SCALE_index_iff {v : Int32} :
    (0 ≤ (v / SCALE).toInt ∧ (v / SCALE).toInt < 1024) ↔ InWheel v := by
  rw [toInt_div_SCALE, InWheel]
  split_ifs <;> omega

/-- There is a color exactly for coordinates from -3 to 4095. -/
theorem exists_getColor_eq_ok_iff (wheel : XYConverter) (x y : Int32) :
    (∃ c, getColor wheel x y = .ok c) ↔ InWheel x ∧ InWheel y := by
  have hrange : VALUE_RANGE.toInt = 4096 := rfl
  unfold getColor
  simp only [ge_iff_le, Int32.le_iff_toInt_le, hrange, div_SCALE_index_iff]
  by_cases hbig : 4096 ≤ x.toInt ∨ 4096 ≤ y.toInt
  · rw [if_pos hbig]
    constructor
    · rintro ⟨c, hc⟩
      cases hc
    · rintro ⟨hx, hy⟩
      unfold InWheel at hx hy
      omega
  · rw [if_neg hbig]
    by_cases hindex : InWheel x ∧ InWheel y
    · rw [dif_pos hindex]
      exact iff_of_true ⟨_, rfl⟩ hindex
    · rw [dif_neg hindex]
      refine iff_of_false ?_ hindex
      rintro ⟨c, hc⟩
      cases hc

end XYConverter

end ChuckLight
