import Mathlib.Algebra.Order.Ring.Rat

/-! A C `double` in exact arithmetic, with the comparisons of IEEE 754. -/
namespace CLib

/-- Finite values are rationals (the two zeros are one value); comparisons see the rest. -/
inductive Double where
  | finite (value : ℚ)
  | posInf
  | negInf
  | nan
  deriving DecidableEq, Repr

namespace Double

/-- IEEE `<`: false as soon as one side is a NaN. -/
def lt : Double → Double → Prop
  | finite x, finite y => x < y
  | finite _, posInf => True
  | negInf, finite _ => True
  | negInf, posInf => True
  | _, _ => False

/-- IEEE `<=`: false as soon as one side is a NaN. -/
def le : Double → Double → Prop
  | finite x, finite y => x ≤ y
  | finite _, posInf => True
  | posInf, posInf => True
  | negInf, finite _ => True
  | negInf, posInf => True
  | negInf, negInf => True
  | _, _ => False

instance : LT Double := ⟨lt⟩
instance : LE Double := ⟨le⟩

instance : DecidableLT Double := fun x y =>
  match x, y with
  | finite x, finite y => inferInstanceAs (Decidable (x < y))
  | finite _, posInf | negInf, finite _ | negInf, posInf => isTrue trivial
  | finite _, negInf | finite _, nan | posInf, _ | negInf, negInf | negInf, nan | nan, _ =>
    isFalse (fun h => by cases h)

instance : DecidableLE Double := fun x y =>
  match x, y with
  | finite x, finite y => inferInstanceAs (Decidable (x ≤ y))
  | finite _, posInf | posInf, posInf | negInf, finite _ | negInf, posInf | negInf, negInf =>
    isTrue trivial
  | finite _, negInf | finite _, nan | posInf, finite _ | posInf, negInf | posInf, nan
  | negInf, nan | nan, _ => isFalse (fun h => by cases h)

/-- `isfinite`. -/
def isfinite : Double → Bool
  | finite _ => true
  | _ => false

/-- Unary minus. -/
def neg : Double → Double
  | finite x => finite (-x)
  | posInf => negInf
  | negInf => posInf
  | nan => nan

/-- The `CLAMP(x, low, high)` macro: a NaN passes through both tests. -/
def clamp (x low high : Double) : Double :=
  if high < x then high else if x < low then low else x

variable {x y z : Double} {p q : ℚ}

@[simp] theorem finite_lt_finite : finite p < finite q ↔ p < q := Iff.rfl
@[simp] theorem finite_le_finite : finite p ≤ finite q ↔ p ≤ q := Iff.rfl
@[simp] theorem isfinite_finite : isfinite (finite p) = true := rfl
@[simp] theorem neg_finite : neg (finite p) = finite (-p) := rfl

@[simp] theorem not_nan_lt : ¬ nan < x := by cases x <;> exact id
@[simp] theorem not_lt_nan : ¬ x < nan := by cases x <;> exact id
@[simp] theorem not_nan_le : ¬ nan ≤ x := by cases x <;> exact id
@[simp] theorem not_le_nan : ¬ x ≤ nan := by cases x <;> exact id
@[simp] theorem not_posInf_lt : ¬ posInf < x := by cases x <;> exact id
@[simp] theorem not_lt_negInf : ¬ x < negInf := by cases x <;> exact id
@[simp] theorem finite_lt_posInf : finite p < posInf := trivial
@[simp] theorem negInf_lt_finite : negInf < finite p := trivial
@[simp] theorem finite_le_posInf : finite p ≤ posInf := trivial
@[simp] theorem negInf_le_finite : negInf ≤ finite p := trivial
@[simp] theorem not_posInf_le_finite : ¬ posInf ≤ finite p := id
@[simp] theorem not_finite_le_negInf : ¬ finite p ≤ negInf := id

theorem isfinite_iff : isfinite x = true ↔ ∃ q, x = finite q := by
  cases x <;> simp [isfinite]

protected theorem lt_trans (hxy : x < y) (hyz : y < z) : x < z := by
  cases x <;> cases y <;> cases z <;> first
    | exact trivial
    | exact hxy.elim
    | exact hyz.elim
    | exact lt_trans (α := ℚ) hxy hyz

theorem not_lt_of_lt (h : x < y) : ¬ y < x := by
  cases x <;> cases y <;> simp_all
  exact le_of_lt h

theorem not_lt_of_le (h : x ≤ y) : ¬ y < x := by
  cases x <;> cases y <;> first
    | exact id
    | exact h.elim
    | exact not_lt_of_ge (α := ℚ) h

end Double

end CLib
