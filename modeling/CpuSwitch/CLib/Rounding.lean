import Mathlib.Algebra.Order.Round
import Mathlib.Tactic.Linarith
import Mathlib.Tactic.FieldSimp
import Mathlib.Tactic.Positivity
import Mathlib.Tactic.Ring

/-! Rounding to a fixed number of decimals, ties to even, over any ordered field with floors. -/
namespace CLib

variable {α : Type*} [Field α] [LinearOrder α] [FloorRing α]

/-- The nearest integer; a midpoint goes to its even neighbour. -/
def roundHalfEven (x : α) : ℤ :=
  if Int.fract x < 1 / 2 then ⌊x⌋
  else if 1 / 2 < Int.fract x then ⌊x⌋ + 1
  else if ⌊x⌋ % 2 = 0 then ⌊x⌋ else ⌊x⌋ + 1

/-- The value that a text with so many decimals stands for. -/
def roundTo (precision : ℕ) (x : α) : α :=
  if x < 0 then -(roundHalfEven (|x| * 10 ^ precision) / 10 ^ precision)
  else roundHalfEven (|x| * 10 ^ precision) / 10 ^ precision

theorem floor_le_roundHalfEven (x : α) : ⌊x⌋ ≤ roundHalfEven x := by
  unfold roundHalfEven
  split_ifs <;> omega

theorem roundHalfEven_le_floor (x : α) : roundHalfEven x ≤ ⌊x⌋ + 1 := by
  unfold roundHalfEven
  split_ifs <;> omega

variable [IsStrictOrderedRing α] {x y : α} {precision : ℕ}

@[simp] theorem roundHalfEven_intCast (n : ℤ) : roundHalfEven (n : α) = n := by
  simp [roundHalfEven]

@[simp] theorem roundHalfEven_zero : roundHalfEven (0 : α) = 0 := by
  simpa using roundHalfEven_intCast (α := α) 0

theorem roundHalfEven_mono (h : x ≤ y) : roundHalfEven x ≤ roundHalfEven y := by
  rcases (Int.floor_mono h).lt_or_eq with hlt | heq
  · have hx := roundHalfEven_le_floor x
    have hy := floor_le_roundHalfEven y
    omega
  · -- Equal floors: the fractional parts are ordered as the numbers are.
    have hf : Int.fract x ≤ Int.fract y := by
      rw [Int.fract, Int.fract, heq]
      linarith
    unfold roundHalfEven
    rw [heq]
    split_ifs <;> first | omega | (exfalso; linarith)

theorem roundHalfEven_nonneg (h : 0 ≤ x) : 0 ≤ roundHalfEven x := by
  simpa using roundHalfEven_mono h

theorem abs_roundHalfEven_sub_le (x : α) : |(roundHalfEven x : α) - x| ≤ 1 / 2 := by
  have hs := Int.floor_add_fract x
  have h0 := Int.fract_nonneg x
  have h1 := Int.fract_lt_one x
  rw [abs_le]
  unfold roundHalfEven
  split_ifs <;> push_cast <;> constructor <;> linarith

@[simp] theorem roundTo_zero : roundTo precision (0 : α) = 0 := by simp [roundTo]

theorem roundTo_of_nonneg (h : 0 ≤ x) :
    roundTo precision x = roundHalfEven (x * 10 ^ precision) / 10 ^ precision := by
  rw [roundTo, if_neg (not_lt.mpr h), abs_of_nonneg h]

theorem roundTo_neg (x : α) : roundTo precision (-x) = -roundTo precision x := by
  rcases lt_trichotomy x 0 with h | rfl | h
  · rw [roundTo, roundTo, if_neg (by linarith), if_pos h, abs_neg, neg_neg]
  · simp
  · rw [roundTo, roundTo, if_pos (by linarith), if_neg (by linarith), abs_neg]

theorem roundTo_nonneg (h : 0 ≤ x) : 0 ≤ roundTo precision x := by
  rw [roundTo_of_nonneg h]
  have hr : 0 ≤ roundHalfEven (x * 10 ^ precision) := roundHalfEven_nonneg (by positivity)
  have hc : (0 : α) ≤ roundHalfEven (x * 10 ^ precision) := by exact_mod_cast hr
  positivity

theorem roundTo_nonpos (h : x ≤ 0) : roundTo precision x ≤ 0 := by
  have hn : 0 ≤ roundTo precision (-x) := roundTo_nonneg (neg_nonneg.mpr h)
  rw [roundTo_neg] at hn
  linarith

/-- Rounding keeps the order, whatever the signs. -/
theorem roundTo_mono (h : x ≤ y) : roundTo precision x ≤ roundTo precision y := by
  have hpos : ∀ {a b : α}, 0 ≤ a → a ≤ b → roundTo precision a ≤ roundTo precision b := by
    intro a b ha hab
    have hm : a * 10 ^ precision ≤ b * 10 ^ precision := by gcongr
    have hr : ((roundHalfEven (a * 10 ^ precision) : ℤ) : α) ≤
        roundHalfEven (b * 10 ^ precision) := by exact_mod_cast roundHalfEven_mono hm
    rw [roundTo_of_nonneg ha, roundTo_of_nonneg (ha.trans hab)]
    gcongr
  rcases le_or_gt 0 x with hx | hx
  · exact hpos hx h
  · rcases le_or_gt 0 y with hy | hy
    · exact (roundTo_nonpos hx.le).trans (roundTo_nonneg hy)
    · have hn := hpos (neg_nonneg.mpr hy.le) (neg_le_neg h)
      rw [roundTo_neg, roundTo_neg] at hn
      linarith

/-- A whole number of units of the last decimal is left alone. -/
theorem roundTo_of_units {n : ℤ} (h : x * 10 ^ precision = n) : roundTo precision x = x := by
  have hpos : (0 : α) < 10 ^ precision := by positivity
  rcases le_or_gt 0 x with hx | hx
  · rw [roundTo_of_nonneg hx, h, roundHalfEven_intCast, ← h]
    field_simp
  · have hn : -x * 10 ^ precision = ((-n : ℤ) : α) := by push_cast; linarith
    have hr : roundTo precision (-x) = -x := by
      rw [roundTo_of_nonneg (by linarith), hn, roundHalfEven_intCast, ← hn]
      field_simp
    rw [roundTo_neg] at hr
    linarith

/-- Rounding moves a value by at most half a unit of the last decimal. -/
theorem abs_roundTo_sub_le (x : α) : |roundTo precision x - x| ≤ 1 / 2 / 10 ^ precision := by
  have hpos : (0 : α) < 10 ^ precision := by positivity
  have hnn : ∀ {a : α}, 0 ≤ a → |roundTo precision a - a| ≤ 1 / 2 / 10 ^ precision := by
    intro a ha
    have he := abs_roundHalfEven_sub_le (a * 10 ^ precision)
    have hs : roundTo precision a - a =
        (roundHalfEven (a * 10 ^ precision) - a * 10 ^ precision) / 10 ^ precision := by
      rw [roundTo_of_nonneg ha]
      field_simp
    rw [hs, abs_div, abs_of_pos hpos]
    gcongr
  rcases le_or_gt 0 x with hx | hx
  · exact hnn hx
  · have hn := hnn (neg_nonneg.mpr hx.le)
    rw [roundTo_neg] at hn
    rw [show roundTo precision x - x = -(-roundTo precision x - -x) by ring, abs_neg]
    exact hn

end CLib
